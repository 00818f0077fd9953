/-
The playout grid: `SynthClock` and `PlayoutBuffer` of `session/playout.rs`, and
`drive_grid` of `session/media_session.rs`, which drains every buffer of a session
on one clock of twenty milliseconds.

A paced buffer always runs dry when nothing arrives any more.  A reordering one holds
its last packets back when a sequence number is missing in front of them.
-/
import RtpBridge.Session.Playout.Tracked

namespace RtpBridge.Session.Playout

open Wire Machine List

variable {c : TrackedClock} {bound g gridNow : Int} {ticks : Nat}

def l16Pt : UInt8 := 127

def synthTargetFrames : Nat := 3

def synthMaxTargetFrames : Nat := 7

def synthIdleTicks : Nat := 10

def synthMaxFrames : Nat := 14

inductive SynthState where
  | idle
  | prebuffering
  | active
deriving DecidableEq

structure SynthClock where
  sourceId : EndpointId
  seq : UInt16
  ts : UInt32
  ssrc : UInt32
  tsStep : UInt32
  silence : Bytes
  queue : List Bytes := []
  state : SynthState := .idle
  pendingMarker : Bool := false
  prebufferTicks : Nat := 0
  underflowTicks : Nat := 0
  targetFrames : Nat := synthTargetFrames
  underranThisSpurt : Bool := false
  counters : PlayoutCounters := {}
deriving DecidableEq

variable {s : SynthClock}

def synth (sourceId : EndpointId) (clockRate ssrc : UInt32) (seq : UInt16) (ts : UInt32) :
    SynthClock :=
  { sourceId := sourceId, seq := seq, ts := ts, ssrc := ssrc, tsStep := clockRate / 50,
    silence := List.replicate ((clockRate / 50).toNat * 2) 0 }

namespace SynthClock

def push (s : SynthClock) (payload : Bytes) : SynthClock :=
  let s :=
    if s.state = .idle then
      { s with state := .prebuffering, prebufferTicks := 0, pendingMarker := true,
               underranThisSpurt := false }
    else s
  let queue := s.queue ++ [payload]
  let excess := queue.length - synthMaxFrames
  let queue := queue.drop excess
  { s with
      queue := queue,
      counters := { s.counters with overflowDrops := s.counters.overflowDrops + excess },
      state :=
        if s.state = .prebuffering ∧ s.targetFrames ≤ queue.length then .active else s.state }

def emit (s : SynthClock) (payload : Bytes) (isSilence : Bool) : SynthClock × RoutedRtpPacket :=
  let marker := s.pendingMarker && !isSilence
  ({ s with pendingMarker := if marker then false else s.pendingMarker,
            seq := s.seq + 1, ts := s.ts + s.tsStep },
    { sourceEndpointId := s.sourceId, payloadType := l16Pt, sequenceNumber := s.seq,
      timestamp := s.ts, ssrc := s.ssrc, marker := marker, payload := payload })

def emitActive (s : SynthClock) : SynthClock × Option RoutedRtpPacket :=
  match s.queue with
  | payload :: rest =>
    let s := { s with queue := rest }
    let s :=
      if 0 < s.underflowTicks then
        { s with
            targetFrames :=
              if s.underranThisSpurt = false ∧ s.targetFrames < synthMaxTargetFrames then
                s.targetFrames + 1
              else s.targetFrames,
            underranThisSpurt := true }
      else s
    let (s, pkt) := ({ s with underflowTicks := 0 } : SynthClock).emit payload false
    (s, some pkt)
  | [] =>
    let s := { s with underflowTicks := s.underflowTicks + 1 }
    if synthIdleTicks < s.underflowTicks then
      ({ s with
          targetFrames :=
            if s.underranThisSpurt = false ∧ synthTargetFrames < s.targetFrames then
              s.targetFrames - 1
            else s.targetFrames,
          state := .idle, underflowTicks := 0 }, none)
    else
      let s := { s with counters := { s.counters with
        underflowFills := s.counters.underflowFills + 1 } }
      let (s, pkt) := s.emit s.silence true
      (s, some pkt)

def drainTick (s : SynthClock) : SynthClock × Option RoutedRtpPacket :=
  match s.state with
  | .idle => (s, none)
  | .prebuffering =>
    let s := { s with prebufferTicks := s.prebufferTicks + 1 }
    if s.targetFrames ≤ s.queue.length ∨ s.targetFrames ≤ s.prebufferTicks then
      ({ s with state := .active } : SynthClock).emitActive
    else (s, none)
  | .active => s.emitActive

end SynthClock

inductive PlayoutBuffer where
  | synth (s : SynthClock)
  | tracked (t : TrackedClock)

variable {b : PlayoutBuffer} {buffers : List PlayoutBuffer}

namespace PlayoutBuffer

def hasPending : PlayoutBuffer → Bool
  | .synth s => s.state ≠ .idle
  | .tracked t => t.hasPending

def drain (gridNow : Int) : PlayoutBuffer → PlayoutBuffer × List RoutedRtpPacket
  | .synth s =>
    let (s, out) := s.drainTick
    (.synth s, out.toList)
  | .tracked t =>
    let (t, outs) := t.tick gridNow
    (.tracked t, outs)

end PlayoutBuffer

def parkGrid (hasMixers : Bool) (buffers : List PlayoutBuffer) (mixGrid : Option Int) :
    Option Int :=
  if !hasMixers && !buffers.any PlayoutBuffer.hasPending then none else mixGrid

/-- One call: the next tick, the buffers, what is to be routed and whether a tick fired.
A loop that is more than three ticks behind starts over from now. -/
def driveGrid (mixGrid : Option Int) (buffers : List PlayoutBuffer) (hasMixers : Bool)
    (now : Int) : Option Int × List PlayoutBuffer × List RoutedRtpPacket × Bool :=
  let (mixGrid, fired) :=
    match mixGrid with
    | some g => (some g, decide (g ≤ now))
    | none =>
      if hasMixers || buffers.any PlayoutBuffer.hasPending then (some now, true)
      else (none, false)
  if fired then
    let g := mixGrid.getD now
    let drained := buffers.map (PlayoutBuffer.drain g)
    let next := if g + frame + millis 60 < now then now + frame else g + frame
    (parkGrid hasMixers (drained.map Prod.fst) (some next), drained.map Prod.fst,
      drained.flatMap Prod.snd, true)
  else (parkGrid hasMixers buffers mixGrid, buffers, [], false)

/-! ## Running dry -/

namespace SynthClock

def ticksLeft (s : SynthClock) : Nat :=
  let silence := synthIdleTicks + 1 - if s.queue.isEmpty then s.underflowTicks else 0
  match s.state with
  | .idle => 0
  | .prebuffering => s.queue.length + 1 + (synthIdleTicks + 2) + (s.targetFrames - s.prebufferTicks)
  | .active => s.queue.length + 1 + silence

theorem ticksLeft_eq_zero : s.ticksLeft = 0 ↔ s.state = .idle := by
  unfold ticksLeft
  cases s.state with
  | idle => simp
  | prebuffering => simp
  | active => simp

theorem ticksLeft_active_le (h : s.state = .active) :
    s.ticksLeft ≤ s.queue.length + 1 + (synthIdleTicks + 1) := by
  unfold ticksLeft
  rw [h]
  dsimp only
  omega

theorem ticksLeft_emitActive (h : s.state = .active) : s.emitActive.1.ticksLeft < s.ticksLeft := by
  unfold emitActive
  split
  · rename_i payload rest hq
    have ha : ∀ s' : SynthClock, s'.state = .active → s'.queue = rest →
        s'.ticksLeft < s.ticksLeft := by
      intro s' hs hr
      have hle := ticksLeft_active_le hs
      rw [hr] at hle
      have hf : s.ticksLeft = rest.length + 1 + 1 + (synthIdleTicks + 1) := by
        unfold ticksLeft
        rw [h, hq]
        rfl
      omega
    dsimp only
    split <;> exact ha _ h rfl
  · rename_i he
    have hl : s.ticksLeft = 1 + (synthIdleTicks + 1 - s.underflowTicks) := by
      unfold ticksLeft
      rw [h, he]
      rfl
    dsimp only
    split
    · rw [ticksLeft_eq_zero.mpr rfl]
      omega
    have hn : ∀ s' : SynthClock, s'.state = .active → s'.queue = [] →
        s'.underflowTicks = s.underflowTicks + 1 → s'.ticksLeft < s.ticksLeft := by
      intro s' hs hq ht
      have hls : s'.ticksLeft = 1 + (synthIdleTicks + 1 - (s.underflowTicks + 1)) := by
        unfold ticksLeft
        rw [hs, hq, ← ht]
        rfl
      omega
    exact hn _ h he rfl

theorem ticksLeft_drainTick (s : SynthClock) : s.drainTick.1.ticksLeft ≤ s.ticksLeft - 1 := by
  unfold drainTick
  split
  · rename_i hi
    rw [ticksLeft_eq_zero.mpr hi]
  · rename_i hs
    have hl : s.ticksLeft =
        s.queue.length + 1 + (synthIdleTicks + 2) + (s.targetFrames - s.prebufferTicks) := by
      unfold ticksLeft
      rw [hs]
    dsimp only
    split
    · have hls := ticksLeft_emitActive
        (s := { s with prebufferTicks := s.prebufferTicks + 1, state := .active }) rfl
      have hle := ticksLeft_active_le
        (s := { s with prebufferTicks := s.prebufferTicks + 1, state := .active }) rfl
      dsimp only at hle
      omega
    have hn : ({ s with prebufferTicks := s.prebufferTicks + 1 } : SynthClock).ticksLeft =
        s.queue.length + 1 + (synthIdleTicks + 2) + (s.targetFrames - (s.prebufferTicks + 1)) := by
      unfold ticksLeft
      rw [hs]
    rw [hn]
    omega
  · rename_i hs
    have hls := ticksLeft_emitActive hs
    omega

end SynthClock

namespace TrackedClock

def Reached (c : TrackedClock) : Prop :=
  ∃ sourceId clockRate mixerFed history, c = exec step (tracked sourceId clockRate mixerFed) history

def keys (c : TrackedClock) : List Nat :=
  c.lastEmittedExt.toList ++ c.queue.entries.map Prod.fst

/-- No sequence number is missing before the last two packets of the queue. -/
def NoGap (c : TrackedClock) : Prop :=
  (c.keys.drop (c.keys.length - 3)).IsChain fun a b => b = a + 1

def DrainsBy (bound : Int) (c : TrackedClock) : Prop :=
  if c.mixerFed then ∀ e ∈ c.queue.entries, c.IsDue bound e else c.NoGap

theorem noGap_of_empty (h : c.queue.entries = []) : c.NoGap := by
  unfold NoGap keys
  rw [h]
  cases c.lastEmittedExt with
  | none => exact .nil
  | some l => exact .singleton l

theorem exists_before_last {last : Option Nat} {keys : List Nat} {l : Nat}
    (h : keys.getLast?.or last = some l) : ∃ before, last.toList ++ keys = before ++ [l] := by
  rcases Option.or_eq_some_iff.mp h with hk | ⟨hn, hl⟩
  · obtain ⟨before, rfl⟩ := List.getLast?_eq_some_iff.mp hk
    exact ⟨last.toList ++ before, by rw [append_assoc]⟩
  · rw [List.getLast?_eq_none_iff.mp hn, hl]
    exact ⟨[], rfl⟩

theorem NoGap.empties (h : c.NoGap) (hf : c.mixerFed = false) (gridNow : Int) :
    (c.tick gridNow).1.queue.entries = [] := by
  obtain ⟨popped, hp, hb⟩ := c.tick_popped gridNow
  generalize (c.tick gridNow).1 = c' at hp hb
  cases hr : c'.queue.entries with
  | nil => rfl
  | cons head tail =>
    exfalso
    have hw := hb head (by rw [OrderedMap.first?, hr]; rfl)
    rw [hp.steady.mixerFed, hf, if_neg Bool.false_ne_true] at hw
    unfold releasable at hw
    split at hw
    · cases hw
    rename_i l hl
    rw [Bool.or_eq_false_iff, beq_eq_false_iff_ne, decide_eq_false_iff_not,
      OrderedMap.size, hr, length_cons] at hw
    obtain ⟨hg, hfe⟩ := hw
    have hs : tail.length ≤ 1 := by
      unfold reorderDepth at hfe
      omega
    -- the last emitted packet stands right before the head
    rw [hp.last, ← List.getLast?_map] at hl
    obtain ⟨before, hbe⟩ := exists_before_last hl
    unfold NoGap keys at h
    rw [hp.split, hr, map_append, ← append_assoc, hbe, append_assoc] at h
    simp only [length_append, length_cons, length_map, singleton_append] at h
    rw [drop_append_of_le_length (by omega)] at h
    exact hg (isChain_append_cons_cons.mp h).2.1

/-- A reordering buffer that never runs dry. -/
def Held (c : TrackedClock) : Prop := c.mixerFed = false ∧ ¬c.NoGap

theorem noGap_of_drainReorder (h : c.drainReorder.1.NoGap) : c.NoGap := by
  unfold drainReorder at h
  split at h
  · exact h
  rename_i head hh
  split at h
  case isFalse => exact h
  rename_i hr
  obtain ⟨tail, he⟩ : ∃ tail, c.queue.entries = head :: tail := List.head?_eq_some_iff.mp hh
  have hk : (c.takeHead head).1.keys = head.1 :: tail.map Prod.fst := by
    show [head.1] ++ (c.queue.entries.drop 1).map Prod.fst = _
    rw [he]
    rfl
  have hkeys : c.keys = c.lastEmittedExt.toList ++ head.1 :: tail.map Prod.fst := by
    rw [keys, he]
    rfl
  unfold NoGap at h ⊢
  dsimp only at h
  rw [hk] at h
  rw [hkeys]
  unfold releasable at hr
  split at hr
  · rename_i hl
    rw [hl]
    exact h
  rename_i l hl
  rw [OrderedMap.size, he] at hr
  rw [hl]
  -- the head is the successor of the last packet, or three are queued and no key is lost
  rcases tail with _ | ⟨e, _ | ⟨f, rest⟩⟩
  · simpa [reorderDepth] using hr
  · simpa [reorderDepth] using And.intro hr h
  · simpa using h

theorem Held.drainTimes {n : Nat} (h : c.Held) (gridNow : Int) :
    (c.drainTimes gridNow n).1.Held := by
  induction n generalizing c with
  | zero => exact h
  | succ n ih =>
    have hs : (c.drainTick gridNow).1.Held := by
      unfold drainTick
      rw [h.1, if_neg Bool.false_ne_true]
      obtain ⟨popped, hp⟩ := (drainReorder_popped h.1 gridNow).1
      exact ⟨hp.steady.mixerFed.trans h.1, fun hg => h.2 (noGap_of_drainReorder hg)⟩
    rw [TrackedClock.drainTimes]
    split
    · rename_i hd
      rw [hd] at hs
      exact hs
    · rename_i hd
      rw [hd] at hs
      exact ih hs

theorem Held.pending (h : c.Held) : c.hasPending = true := by
  by_contra hp
  have he : c.queue.entries = [] := by simpa [hasPending, OrderedMap.isEmpty] using hp
  exact h.2 (noGap_of_empty he)

theorem DrainsBy.tick (h : c.DrainsBy bound) (gridNow : Int) :
    (c.tick gridNow).1.DrainsBy bound := by
  obtain ⟨popped, hp, -⟩ := c.tick_popped gridNow
  unfold DrainsBy at h ⊢
  rw [hp.steady.mixerFed]
  cases hf : c.mixerFed with
  | true => grind [hp.steady.isDue, hp.split]
  | false =>
    rw [hf] at h
    exact noGap_of_empty (h.empties hf gridNow)

theorem IsDue.mono {bound' : Int} {e : Entry} (h : c.IsDue bound e) (hle : bound ≤ bound') :
    c.IsDue bound' e := by
  obtain ⟨anchor, ha, hp⟩ := h
  exact ⟨anchor, ha, le_trans hp hle⟩

theorem DrainsBy.mono {bound' : Int} (h : c.DrainsBy bound) (hle : bound ≤ bound') :
    c.DrainsBy bound' := by
  unfold DrainsBy at h ⊢
  split
  · rename_i hf
    rw [if_pos hf] at h
    exact fun e he => (h e he).mono hle
  rename_i hf
  rw [if_neg hf] at h
  exact h

theorem DrainsBy.empties (h : c.DrainsBy gridNow) : (c.tick gridNow).1.queue.entries = [] := by
  unfold DrainsBy at h
  split at h
  · obtain ⟨popped, hp, hb⟩ := c.tick_popped gridNow
    generalize (c.tick gridNow).1 = c' at hp hb
    cases hr : c'.queue.entries with
    | nil => rfl
    | cons head tail =>
      have hw := hb head (by rw [OrderedMap.first?, hr]; rfl)
      grind [hp.steady.mixerFed, hp.steady.isDue, hp.split]
  · rename_i hf
    exact NoGap.empties h (Bool.eq_false_iff.mpr hf) gridNow

theorem tick_empty (h : c.queue.entries = []) (gridNow : Int) :
    (c.tick gridNow).1.queue.entries = [] := by
  obtain ⟨popped, hp, -⟩ := c.tick_popped gridNow
  have hs := hp.split
  rw [h] at hs
  exact (append_eq_nil_iff.mp hs.symm).2

theorem exists_all_isDue {anchor : UInt32 × Int} (ha : c.anchor = some anchor)
    (entries : List Entry) : ∃ bound, ∀ e ∈ entries, c.IsDue bound e := by
  induction entries with
  | nil => exact ⟨0, fun e he => nomatch he⟩
  | cons first rest ih =>
    obtain ⟨bound, hb⟩ := ih
    refine ⟨max bound (c.playOf anchor first), fun e he => ?_⟩
    rcases mem_cons.mp he with rfl | he
    · exact ⟨anchor, ha, le_max_right _ _⟩
    · exact (hb e he).mono (le_max_left _ _)

theorem Reached.drainsBy (h : c.Reached) (hg : c.mixerFed = false → c.NoGap) :
    ∃ bound, c.DrainsBy bound := by
  obtain ⟨sourceId, clockRate, mixerFed, history, rfl⟩ := h
  have hs := sound_run sourceId clockRate mixerFed history
  generalize exec step (tracked sourceId clockRate mixerFed) history = c at hs hg
  unfold DrainsBy
  cases hf : c.mixerFed with
  | false => exact ⟨0, hg hf⟩
  | true =>
    by_cases hem : c.queue.entries = []
    · exact ⟨0, fun e he => by rw [hem] at he; cases he⟩
    · obtain ⟨anchor, ha⟩ := Option.isSome_iff_exists.mp (hs.anchored hem)
      exact exists_all_isDue ha _

end TrackedClock

/-! ## The grid parks -/

namespace PlayoutBuffer

def DrainsIn (gridNow : Int) (ticks : Nat) : PlayoutBuffer → Prop
  | .synth s => s.ticksLeft ≤ ticks
  | .tracked t =>
    t.queue.entries = [] ∨ 0 < ticks ∧ t.DrainsBy (gridNow + ((ticks : Int) - 1) * frame)

theorem DrainsIn.mono {ticks' : Nat} (h : b.DrainsIn gridNow ticks) (hle : ticks ≤ ticks') :
    b.DrainsIn gridNow ticks' := by
  cases b with
  | synth s => exact Nat.le_trans h hle
  | tracked t =>
    rcases h with he | ⟨hp, hby⟩
    · exact Or.inl he
    refine Or.inr ⟨by omega, hby.mono ?_⟩
    rw [frame_eq]
    omega

theorem DrainsIn.idle (h : b.DrainsIn gridNow 0) : b.hasPending = false := by
  cases b with
  | synth s =>
    have hi := SynthClock.ticksLeft_eq_zero.mp (Nat.le_zero.mp h)
    simp [hasPending, hi]
  | tracked t =>
    rcases h with he | ⟨hp, -⟩
    · simp [hasPending, TrackedClock.hasPending, OrderedMap.isEmpty, he]
    · exact absurd hp (Nat.lt_irrefl 0)

theorem DrainsIn.drain {next : Int} (h : b.DrainsIn gridNow (ticks + 1))
    (hn : gridNow + frame ≤ next) : (b.drain gridNow).1.DrainsIn next ticks := by
  cases b with
  | synth s =>
    have hl := s.ticksLeft_drainTick
    have hb : s.ticksLeft ≤ ticks + 1 := h
    show s.drainTick.1.ticksLeft ≤ ticks
    omega
  | tracked t =>
    rcases h with he | ⟨-, hby⟩
    · exact Or.inl (TrackedClock.tick_empty he gridNow)
    cases ticks with
    | zero =>
      left
      apply TrackedClock.DrainsBy.empties
      exact hby.mono (by simp)
    | succ ticks =>
      refine Or.inr ⟨Nat.succ_pos _, (hby.tick gridNow).mono ?_⟩
      rw [frame_eq] at hn ⊢
      omega

theorem exists_drainsIn (h : ∀ t, b = .tracked t → t.Reached ∧ (t.mixerFed = false → t.NoGap))
    (gridNow : Int) : ∃ ticks, b.DrainsIn gridNow ticks := by
  cases b with
  | synth s => exact ⟨s.ticksLeft, Nat.le_refl _⟩
  | tracked t =>
    obtain ⟨hr, hg⟩ := h t rfl
    obtain ⟨bound, hby⟩ := hr.drainsBy hg
    refine ⟨(bound - gridNow).toNat + 1, Or.inr ⟨Nat.succ_pos _, hby.mono ?_⟩⟩
    rw [frame_eq]
    omega

theorem exists_all_drainsIn
    (h : ∀ t, .tracked t ∈ buffers → t.Reached ∧ (t.mixerFed = false → t.NoGap)) (gridNow : Int) :
    ∃ ticks, ∀ b ∈ buffers, b.DrainsIn gridNow ticks := by
  induction buffers with
  | nil => exact ⟨0, fun b hb => nomatch hb⟩
  | cons first rest ih =>
    obtain ⟨ticks, hti⟩ := ih fun t ht => h t (mem_cons_of_mem _ ht)
    obtain ⟨more, hm⟩ := exists_drainsIn (b := first)
      (fun t ht => h t (ht ▸ mem_cons_self)) gridNow
    refine ⟨max ticks more, fun b hb => ?_⟩
    rcases mem_cons.mp hb with rfl | hb
    · exact hm.mono (le_max_right _ _)
    · exact (hti b hb).mono (le_max_left _ _)

end PlayoutBuffer

def gridStep (s : Option Int × List PlayoutBuffer) (now : Int) :
    (Option Int × List PlayoutBuffer) × List RoutedRtpPacket :=
  let (mixGrid, buffers, routed, _) := driveGrid s.1 s.2 false now
  ((mixGrid, buffers), routed)

def Parked (s : Option Int × List PlayoutBuffer) : Prop :=
  s.1 = none ∧ ∀ b ∈ s.2, b.hasPending = false

theorem any_hasPending (h : ∀ b ∈ buffers, b.hasPending = false) :
    buffers.any PlayoutBuffer.hasPending = false :=
  any_eq_false.mpr fun b hb => by rw [h b hb]; decide

theorem Parked.step {s : Option Int × List PlayoutBuffer} (h : Parked s) (now : Int) :
    Parked (gridStep s now).1 := by
  obtain ⟨mixGrid, buffers⟩ := s
  obtain ⟨rfl, hi⟩ := h
  unfold gridStep driveGrid
  rw [any_hasPending hi]
  refine ⟨?_, hi⟩
  show parkGrid false buffers none = none
  unfold parkGrid
  split <;> rfl

theorem gridStep_fired {now : Int} (buffers : List PlayoutBuffer) (h : g ≤ now) :
    ∃ next, g + frame ≤ next ∧
      (gridStep (some g, buffers) now).1 =
        (parkGrid false (buffers.map fun b => (b.drain g).1) (some next),
          buffers.map fun b => (b.drain g).1) := by
  unfold gridStep driveGrid
  simp only [decide_eq_true h, map_map]
  refine ⟨_, ?_, rfl⟩
  split
  · omega
  · exact le_refl _

theorem gridStep_drains {now : Int} (hdu : g ≤ now) (h : ∀ b ∈ buffers, b.DrainsIn g (ticks + 1)) :
    Parked (gridStep (some g, buffers) now).1 ∨
      0 < ticks ∧ ∃ next, (gridStep (some g, buffers) now).1.1 = some next ∧
        ∀ b ∈ (gridStep (some g, buffers) now).1.2, b.DrainsIn next ticks := by
  obtain ⟨next, hn, heq⟩ := gridStep_fired buffers hdu
  rw [heq]
  have hd : ∀ b ∈ buffers.map fun b => (b.drain g).1, b.DrainsIn next ticks := by
    intro b hb
    obtain ⟨b', hb', rfl⟩ := mem_map.mp hb
    exact (h b' hb').drain hn
  generalize (buffers.map fun b => (b.drain g).1) = drained at hd
  by_cases hi : ∀ b ∈ drained, b.hasPending = false
  · left
    refine ⟨?_, hi⟩
    grind [parkGrid]
  grind [PlayoutBuffer.DrainsIn.idle, parkGrid]

def OnTime (_ : List (Int × List RoutedRtpPacket)) (s : Option Int × List PlayoutBuffer)
    (now : Int) : Prop :=
  ∀ g ∈ s.1, g ≤ now

theorem parked_run (hpo : 0 < ticks) (h : ∀ b ∈ buffers, b.DrainsIn g ticks) {nows : List Int}
    (hlo : ticks ≤ nows.length) (hdu : Along gridStep OnTime (some g, buffers) nows) :
    Parked (exec gridStep (some g, buffers) nows) := by
  have hr := along_induction (C := OnTime)
    (P := fun tr s => Parked s ∨ tr.length < ticks ∧
      ∃ next, s.1 = some next ∧ ∀ b ∈ s.2, b.DrainsIn next (ticks - tr.length))
    (Or.inr ⟨hpo, g, rfl, h⟩)
    (fun tr s now hno hP => by
      rcases hP with hp | ⟨hlt, next, hn, hd⟩
      · exact Or.inl (hp.step now)
      obtain ⟨mixGrid, buffers⟩ := s
      subst hn
      obtain ⟨left, hl⟩ : ∃ left, ticks - tr.length = left + 1 :=
        ⟨ticks - tr.length - 1, by omega⟩
      rw [hl] at hd
      rcases gridStep_drains (hno next rfl) hd with hp | ⟨hm, hg⟩
      · exact Or.inl hp
      grind) hdu
  grind [length_trace]

def ticksFrom (g : Int) (n : Nat) : List PlayoutInput :=
  (List.range n).map fun k : Nat => .tick (g + (k : Int) * frame)

theorem ticksFrom_succ (g : Int) (n : Nat) :
    ticksFrom g (n + 1) = .tick g :: ticksFrom (g + frame) n := by
  grind [ticksFrom, range_succ_eq_map, map_map, map_congr_left]

theorem drained_run : ∀ {c : TrackedClock} {g : Int}, (PlayoutBuffer.tracked c).DrainsIn g ticks →
      (exec TrackedClock.step c (ticksFrom g ticks)).hasPending = false := by
  induction ticks with
  | zero => exact fun h => h.idle
  | succ ticks ih =>
    intro c g h
    rw [ticksFrom_succ]
    exact ih (h.drain (le_refl _))

theorem held_run {c : TrackedClock} (h : c.Held) (g : Int) (n : Nat) :
    (exec TrackedClock.step c (ticksFrom g n)).Held := by
  induction n generalizing c g with
  | zero => exact h
  | succ n ih =>
    rw [ticksFrom_succ]
    exact ih (h.drainTimes g) _

def Stuck (s : Option Int × List PlayoutBuffer) : Prop :=
  s.1.isSome ∧ ∃ c : TrackedClock, c.Held ∧ .tracked c ∈ s.2

theorem Stuck.step {s : Option Int × List PlayoutBuffer} (h : Stuck s) (now : Int) :
    Stuck (gridStep s now).1 := by
  have hpark : ∀ {buffers : List PlayoutBuffer} {c : TrackedClock} (next : Int), c.Held →
      .tracked c ∈ buffers → parkGrid false buffers (some next) = some next := by
    intro buffers c next hc hb
    have hany : buffers.any PlayoutBuffer.hasPending = true :=
      any_eq_true.mpr ⟨_, hb, hc.pending⟩
    rw [parkGrid, hany]
    rfl
  obtain ⟨mixGrid, buffers⟩ := s
  obtain ⟨hg, c, hc, hb⟩ := h
  obtain ⟨g, rfl⟩ := Option.isSome_iff_exists.mp hg
  by_cases hdue : g ≤ now
  · obtain ⟨next, -, heq⟩ := gridStep_fired buffers hdue
    have hd : PlayoutBuffer.tracked (c.tick g).1 ∈ buffers.map fun b => (b.drain g).1 :=
      mem_map.mpr ⟨_, hb, rfl⟩
    have ht : (c.tick g).1.Held := hc.drainTimes g
    rw [heq]
    exact ⟨by rw [hpark next ht hd]; rfl, _, ht, hd⟩
  · have heq : (gridStep (some g, buffers) now).1 = (some g, buffers) := by
      unfold gridStep driveGrid
      simp only [decide_eq_false hdue, Bool.false_eq_true, if_false, hpark g hc hb]
    rw [heq]
    exact ⟨rfl, c, hc, hb⟩

theorem not_parked_held {c : TrackedClock} (hc : c.Held) (hb : .tracked c ∈ buffers) (g : Int)
    (nows : List Int) : ¬Parked (exec gridStep (some g, buffers) nows) := by
  have h : Stuck (exec gridStep (some g, buffers) nows) :=
    exec_induction (P := Stuck) ⟨rfl, c, hc, hb⟩ (fun _ now h => h.step now) nows
  intro hp
  have hs := h.1
  rw [hp.1] at hs
  cases hs

/-- Without arrivals a network source runs dry and the grid parks, unless a reordering
buffer misses a sequence number before one of its last two packets; then neither ever
happens.  The grid may serve any number of buffers of both kinds. -/
theorem playout_runs_dry (g : Int) :
    (∀ c : TrackedClock, c.Reached →
      ((∃ n, (exec TrackedClock.step c (ticksFrom g n)).hasPending = false) ↔
        (c.mixerFed = false → c.NoGap))) ∧
    ∀ buffers : List PlayoutBuffer, (∀ c, .tracked c ∈ buffers → c.Reached) →
      ((∀ c, .tracked c ∈ buffers → c.mixerFed = false → c.NoGap) →
        ∃ n, ∀ nows, n ≤ nows.length → Along gridStep OnTime (some g, buffers) nows →
          Parked (exec gridStep (some g, buffers) nows)) ∧
      ((∃ c, .tracked c ∈ buffers ∧ c.mixerFed = false ∧ ¬c.NoGap) →
        ∀ nows, ¬Parked (exec gridStep (some g, buffers) nows)) := by
  refine ⟨fun c hreached => ⟨fun ⟨n, hn⟩ hfed => ?_, fun hgap => ?_⟩,
    fun buffers hreached => ⟨fun hgap => ?_, fun ⟨c, hb, hc⟩ => not_parked_held hc hb g⟩⟩
  · by_contra hgap
    rw [(held_run ⟨hfed, hgap⟩ g n).pending] at hn
    cases hn
  · obtain ⟨n, hn⟩ := PlayoutBuffer.exists_drainsIn (b := .tracked c)
      (fun t ht => by cases ht; exact ⟨hreached, hgap⟩) g
    exact ⟨n, drained_run hn⟩
  obtain ⟨n, hn⟩ := PlayoutBuffer.exists_all_drainsIn
    (fun c hc => ⟨hreached c hc, hgap c hc⟩) g
  refine ⟨n + 1, fun nows hlong hdue => ?_⟩
  exact parked_run (Nat.succ_pos n) (fun b hb => (hn b hb).mono (Nat.le_succ n)) hlong hdue

def samplePacket (seq : UInt16) (ts : UInt32) : RoutedRtpPacket :=
  { sourceEndpointId := 1, payloadType := 0, sequenceNumber := seq, timestamp := ts, ssrc := 7,
    marker := false, payload := [] }

def sampleReordered (mixerFed : Bool) : TrackedClock :=
  exec TrackedClock.step (tracked 1 8000 mixerFed)
    [.push (samplePacket 1 160) 0, .push (samplePacket 3 480) (millis 30),
      .push (samplePacket 2 320) (millis 35)]

theorem sampleReordered_noGap : (sampleReordered false).NoGap := by
  unfold TrackedClock.NoGap
  decide +kernel

theorem sampleReordered_runs_dry :
    (∃ n, (exec TrackedClock.step (sampleReordered false) (ticksFrom 0 n)).hasPending = false) ∧
      ∃ n, ∀ nows, n ≤ nows.length → Along gridStep OnTime
          (some 0, [.tracked (sampleReordered true), .tracked (sampleReordered false)]) nows →
        Parked (exec gridStep
          (some 0, [.tracked (sampleReordered true), .tracked (sampleReordered false)]) nows) := by
  refine ⟨((playout_runs_dry 0).1 _ ⟨1, 8000, false, _, rfl⟩).mpr fun _ => sampleReordered_noGap,
    ((playout_runs_dry 0).2 _ fun c hc => ?_).1 fun c hc => ?_⟩
  · rcases mem_cons.mp hc with hc | hc
    · cases hc
      exact ⟨1, 8000, true, _, rfl⟩
    · cases mem_singleton.mp hc
      exact ⟨1, 8000, false, _, rfl⟩
  · rcases mem_cons.mp hc with hc | hc
    · cases hc
      exact fun hfed => by cases hfed
    · cases mem_singleton.mp hc
      exact fun _ => sampleReordered_noGap

def sampleHeld : TrackedClock :=
  exec TrackedClock.step (tracked 1 8000 false)
    [.push (samplePacket 1 160) 0, .tick 0, .push (samplePacket 3 480) (millis 40)]

theorem sampleHeld_held : sampleHeld.Held := by
  unfold TrackedClock.Held TrackedClock.NoGap
  decide +kernel

/-- The packet behind the gap stays in the queue for ever and keeps the grid running. -/
theorem playout_holds_last_packet : sampleHeld.Reached ∧
      (∀ g n, (exec TrackedClock.step sampleHeld (ticksFrom g n)).hasPending = true) ∧
      ∀ g nows, ¬Parked (exec gridStep (some g, [.tracked sampleHeld]) nows) := by
  refine ⟨⟨1, 8000, false, _, rfl⟩, fun g n => (held_run sampleHeld_held g n).pending,
    fun g nows => not_parked_held sampleHeld_held mem_cons_self g nows⟩

end RtpBridge.Session.Playout
