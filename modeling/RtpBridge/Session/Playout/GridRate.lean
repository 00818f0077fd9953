/-
How often the playout grid ticks: runs of calls of `drive_grid` at any times, with
whatever the buffers hold by then.

A tick that fires leaves the deadline at most sixty milliseconds behind the call, so
only what was overdue before it comes in a burst.
-/
import RtpBridge.Session.Playout.Grid

namespace RtpBridge.Session.Playout

open Wire Machine List

structure GridCall where
  buffers : List PlayoutBuffer
  hasMixers : Bool
  now : Int

structure GridTick where
  instant : Int
  anchored : Bool

def gridCall (mixGrid : Option Int) (call : GridCall) : Option Int × Option GridTick :=
  let (next, _, _, fired) := driveGrid mixGrid call.buffers call.hasMixers call.now
  (next, if fired then some ⟨mixGrid.getD call.now, mixGrid.isNone⟩ else none)

def firedTicks (mixGrid : Option Int) (calls : List GridCall) : List GridTick :=
  (trace gridCall mixGrid calls).filterMap Prod.snd

def drainTick (gridNow : Int) : PlayoutBuffer → PlayoutBuffer × Option RoutedRtpPacket
  | .synth s => s.drainTick.map .synth id
  | .tracked t => (t.drainTick gridNow).map .tracked id

def drainsBurst : PlayoutBuffer → Bool
  | .synth _ => false
  | .tracked _ => true

def drainLoop (gridNow : Int) : Nat → PlayoutBuffer → PlayoutBuffer × List RoutedRtpPacket × Nat
  | 0, b => (b, [], 0)
  | n + 1, b =>
    match drainTick gridNow b with
    | (b, none) => (b, [], 1)
    | (b, some pkt) =>
      if drainsBurst b then
        let (b, pkts, calls) := drainLoop gridNow n b
        (b, pkt :: pkts, calls + 1)
      else (b, [pkt], 1)

variable {mixGrid : Option Int} {call : GridCall} {calls : List GridCall} {b t : Int}

structure PacedCall (mixGrid : Option Int) (call : GridCall) : Prop where
  running : (gridCall mixGrid call).1.isSome =
    (call.hasMixers || (driveGrid mixGrid call.buffers call.hasMixers call.now).2.1.any
      PlayoutBuffer.hasPending)
  unchanged : (gridCall mixGrid call).2 = none → (gridCall mixGrid call).1.isSome →
    mixGrid.isSome → (gridCall mixGrid call).1 = mixGrid
  drained : (driveGrid mixGrid call.buffers call.hasMixers call.now).2.1 =
    match (gridCall mixGrid call).2 with
    | some tick => call.buffers.map fun b => (b.drain tick.instant).1
    | none => call.buffers
  late : ∀ tick ∈ (gridCall mixGrid call).2, tick.instant ≤ call.now

def nextTick (g now : Int) : Int := if g + frame + millis 60 < now then now + frame else g + frame

theorem gridCall_cases (mixGrid : Option Int) (call : GridCall) :
    (gridCall mixGrid call).2 = none ∧ (∀ g ∈ mixGrid, call.now < g) ∧
        ((gridCall mixGrid call).1 = mixGrid ∨ (gridCall mixGrid call).1 = none) ∨
      (gridCall mixGrid call).2 = some ⟨mixGrid.getD call.now, mixGrid.isNone⟩ ∧
        mixGrid.getD call.now ≤ call.now ∧
        ((gridCall mixGrid call).1 = some (nextTick (mixGrid.getD call.now) call.now) ∨
          (gridCall mixGrid call).1 = none) := by
  cases mixGrid with
  | none => grind [gridCall, driveGrid, parkGrid, nextTick]
  | some g => grind [gridCall, driveGrid, parkGrid, nextTick]

theorem parkGrid_some (hasMixers : Bool) (buffers : List PlayoutBuffer) (g : Int) :
    (parkGrid hasMixers buffers (some g)).isSome =
      (hasMixers || buffers.any PlayoutBuffer.hasPending) := by
  unfold parkGrid
  cases hasMixers <;> cases buffers.any PlayoutBuffer.hasPending <;> rfl

theorem parkGrid_none (hasMixers : Bool) (buffers : List PlayoutBuffer) :
    parkGrid hasMixers buffers none = none := by
  unfold parkGrid
  split <;> rfl

theorem pacedCall (mixGrid : Option Int) (call : GridCall) : PacedCall mixGrid call where
  running := by
    cases mixGrid with
    | none =>
      unfold gridCall driveGrid
      cases hp : call.hasMixers || call.buffers.any PlayoutBuffer.hasPending with
      | false => simp [hp, parkGrid_none]
      | true => simp [parkGrid_some]
    | some g =>
      unfold gridCall driveGrid
      by_cases hg : g ≤ call.now
      · simp only [hg, decide_true, if_true, parkGrid_some]
      · simp only [hg, decide_false, Bool.false_eq_true, if_false, parkGrid_some]
  unchanged := by
    intro hn hs hm
    rcases gridCall_cases mixGrid call with ⟨-, -, h | h⟩ | ⟨h, -⟩
    · exact h
    · simp [h] at hs
    · simp [h] at hn
  drained := by
    cases mixGrid with
    | none =>
      unfold gridCall driveGrid
      cases call.hasMixers || call.buffers.any PlayoutBuffer.hasPending <;> simp
    | some g =>
      unfold gridCall driveGrid
      by_cases hg : g ≤ call.now
      · simp [hg]
      · simp [hg]
  late := by
    rcases gridCall_cases mixGrid call with ⟨hn, -⟩ | ⟨hs, hle, -⟩
    · simp [hn]
    · simp [hs, hle]

/-! ## The number of ticks -/

/-- The time that is left for ticks of a running grid between `t` and `b`. -/
def tickRoom (b t : Int) : Option Int → Int
  | none => b - t
  | some g => max (b - max g (t - millis 80) + frame) (b - t)

theorem tickRoom_step (mixGrid : Option Int) (ht : t ≤ call.now) :
    tickRoom b call.now (gridCall mixGrid call).1 + (match (gridCall mixGrid call).2 with
          | some tick => if tick.anchored then 0 else frame
          | none => 0) ≤
      tickRoom b t mixGrid := by
  rcases gridCall_cases mixGrid call with ⟨hn, hg, h⟩ | ⟨hs, hg, h⟩
  · rw [hn]
    cases mixGrid with
    | none => rcases h with h | h <;> simp only [h, tickRoom] <;> omega
    | some g =>
      rcases h with h | h <;> simp only [h, tickRoom] <;> omega
  rw [hs]
  cases mixGrid with
  | none =>
    rcases h with h | h <;> simp [h, tickRoom, nextTick] <;> omega
  | some g =>
    rcases h with h | h <;>
      simp_all [tickRoom, nextTick, frame_eq, millis] <;> omega

theorem frame_mul_firedTicks_le (mixGrid : Option Int) (htb : t ≤ b)
    (hm : calls.Pairwise fun c d => c.now ≤ d.now)
    (hin : ∀ c ∈ calls, t ≤ c.now ∧ c.now ≤ b) :
    frame * (firedTicks mixGrid calls).length ≤
      frame * ((firedTicks mixGrid calls).countP GridTick.anchored) + tickRoom b t mixGrid := by
  induction calls generalizing mixGrid t with
  | nil =>
    cases mixGrid <;> simp [firedTicks, tickRoom] <;> omega
  | cons c calls ih =>
    obtain ⟨hc, hm⟩ := pairwise_cons.mp hm
    obtain ⟨hlo, hhi⟩ := hin c mem_cons_self
    have hs := tickRoom_step (b := b) mixGrid hlo
    have hr := ih (gridCall mixGrid c).1 hhi hm fun d hd =>
      ⟨hc d hd, (hin d (mem_cons_of_mem c hd)).2⟩
    unfold firedTicks at hr ⊢
    rw [trace_cons, filterMap_cons]
    cases ht : (gridCall mixGrid c).2 with
    | none =>
      rw [ht] at hs
      simp only at hs ⊢
      omega
    | some tick =>
      rw [ht] at hs
      simp only [length_cons, countP_cons, frame_eq] at hr hs ⊢
      cases ha : tick.anchored with
      | false =>
        simp only [ha, Bool.false_eq_true, if_false] at hs ⊢
        omega
      | true =>
        simp only [if_true] at hs ⊢
        omega

structure Spaced (ticks : List GridTick) (mixGrid : Option Int) : Prop where
  chain : ticks.IsChain fun tick next => next.anchored ∨ tick.instant + frame ≤ next.instant
  ahead : ∀ tick ∈ ticks.getLast?, ∀ g ∈ mixGrid, tick.instant + frame ≤ g

theorem le_nextTick (g now : Int) (h : g ≤ now) : g + frame ≤ nextTick g now := by
  unfold nextTick
  split <;> omega

theorem Spaced.step {ticks : List GridTick} (h : Spaced ticks mixGrid) (call : GridCall) :
    Spaced (ticks ++ (gridCall mixGrid call).2.toList) (gridCall mixGrid call).1 := by
  rcases gridCall_cases mixGrid call with ⟨hn, -, hs⟩ | ⟨hf, hle, hs⟩
  · rw [hn, Option.toList_none, append_nil]
    refine ⟨h.chain, fun tick ht g hg => ?_⟩
    rcases hs with hs | hs
    · exact h.ahead tick ht g (hs ▸ hg)
    · simp [hs] at hg
  rw [hf]
  refine ⟨isChain_append.mpr ⟨h.chain, isChain_singleton _, ?_⟩, ?_⟩
  · intro tick ht next hne
    obtain rfl : _ = next := Option.some.inj hne
    cases mixGrid with
    | none => exact .inl rfl
    | some g => exact .inr (h.ahead tick ht g rfl)
  intro tick ht g hg
  obtain rfl : _ = tick := Option.some.inj (List.getLast?_concat.symm.trans ht)
  rcases hs with hs | hs
  · obtain rfl : _ = g := Option.some.inj (hs.symm.trans hg)
    exact le_nextTick _ _ hle
  · cases hs.symm.trans hg

theorem spaced_run (calls : List GridCall) :
    Spaced (firedTicks none calls) (exec gridCall none calls) := by
  refine history_induction (P := fun tr s => Spaced (tr.filterMap Prod.snd) s)
    ⟨.nil, by simp⟩ (fun tr s call h => ?_) calls
  have := h.step call
  cases hc : (gridCall s call).2 <;> simp_all [filterMap_append]

theorem drainLoop_synth (gridNow : Int) (n : Nat) (s : SynthClock) :
    drainLoop gridNow (n + 1) (.synth s) =
      ((PlayoutBuffer.drain gridNow (.synth s)).1, (PlayoutBuffer.drain gridNow (.synth s)).2,
        1) := by
  rw [drainLoop, drainTick, PlayoutBuffer.drain]
  cases hs : s.drainTick with
  | mk s' out => cases out <;> rfl

/-- The grid runs exactly while there is something to pace.  Its ticks are a frame apart
and never early, and a stall is made up for by five of them; a grid that was parked is
started anew by a tick of its own. -/
theorem grid_pacing (calls : List GridCall) (hmono : calls.Pairwise fun c d => c.now ≤ d.now) :
    (∀ mixGrid call, PacedCall mixGrid call) ∧
    (firedTicks none calls).IsChain
      (fun tick next => next.anchored ∨ tick.instant + frame ≤ next.instant) ∧
    (∀ before window after, calls = before ++ window ++ after → ∀ (a : Int) (T : Nat),
      (∀ c ∈ window, a ≤ c.now ∧ c.now ≤ a + T) →
      ((firedTicks (exec gridCall none before) window).length : Int) ≤
        T / frame + (if exec gridCall none before = none then 0 else 5) +
          (firedTicks (exec gridCall none before) window).countP GridTick.anchored) ∧
    ∀ (gridNow : Int) (n : Nat) (s : SynthClock), (drainLoop gridNow (n + 1) (.synth s)).2.2 = 1 ∧
      (drainLoop gridNow (n + 1) (.synth s)).1 = (PlayoutBuffer.drain gridNow (.synth s)).1 := by
  refine ⟨pacedCall, (spaced_run calls).chain, ?_, fun gridNow n s => ?_⟩
  · rintro before window after rfl a T hin
    have hsorted := (pairwise_append.mp (pairwise_append.mp hmono).1).2.1
    have hle := frame_mul_firedTicks_le (exec gridCall none before) (t := a) (b := a + T)
      (by omega) hsorted hin
    cases hs : exec gridCall none before with
    | none =>
      simp only [hs, tickRoom, frame_eq] at hle
      simp only [frame_eq]
      omega
    | some g =>
      simp only [hs, tickRoom, frame_eq, millis] at hle
      simp only [reduceCtorEq, if_false, frame_eq]
      omega
  · rw [drainLoop_synth]
    exact ⟨rfl, rfl⟩

def sampleStall : List GridCall := [⟨[], true, 0⟩, ⟨[], true, 300000000⟩, ⟨[], true, 320000000⟩]

theorem sampleStall_paced :
    ((firedTicks (some 20000000) (sampleStall.drop 1)).length : Int) ≤
      20000000 / frame + 5 + 0 := by
  have h := (grid_pacing sampleStall (by decide)).2.2.1 (sampleStall.take 1) (sampleStall.drop 1) []
    rfl 300000000 20000000 (by decide)
  exact h

/-- Mixers that come and go park the grid and start it again. -/
def sampleRestarts : List GridCall :=
  (range 10).flatMap fun i => [⟨[], true, i⟩, ⟨[], false, i⟩]

theorem sampleRestarts_burst : (∀ c ∈ sampleRestarts, 0 ≤ c.now ∧ c.now ≤ 9) ∧
      (sampleRestarts.Pairwise fun c d => c.now ≤ d.now) ∧
      (9 : Int) / frame + 5 < (firedTicks none sampleRestarts).length := by
  decide +kernel

end RtpBridge.Session.Playout
