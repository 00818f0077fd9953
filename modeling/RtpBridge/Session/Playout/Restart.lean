/-
A sender that starts over without a new SSRC.
-/
import RtpBridge.Session.Playout.Pacing

namespace RtpBridge.Session.Playout

open Wire Machine List TrackedClock

variable {count ext last : Nat} {c c' : TrackedClock}

/-! ## Numbers in a row -/

def EndsInRow (count last : Nat) (keys : List Nat) : Prop :=
  ∃ before first len, keys = before ++ List.range' first len ∧ first + len = last + 1 ∧ 0 < len ∧
    (before = [] ∨ min count 3 ≤ len)

theorem endsInRow_concat_last (last : Nat) (keys : List Nat) : EndsInRow 1 last (keys ++ [last]) :=
  ⟨keys, last, 1, rfl, rfl, Nat.one_pos, Or.inr (Nat.min_le_left 1 3)⟩

theorem EndsInRow.concat {keys : List Nat} (h : EndsInRow count last keys) :
    EndsInRow (count + 1) (last + 1) (keys ++ [last + 1]) := by
  obtain ⟨before, first, len, rfl, hl, hp, hle⟩ := h
  refine ⟨before, first, len + 1, ?_, by omega, Nat.succ_pos len, ?_⟩
  · rw [List.range'_concat, Nat.one_mul, hl, append_assoc]
  rcases hle with hn | hle
  · exact Or.inl hn
  · omega

theorem EndsInRow.suffix {before keys : List Nat} (h : EndsInRow count last (before ++ keys))
    (hne : keys ≠ []) : EndsInRow count last keys := by
  obtain ⟨others, first, len, heq, hl, hp, hle⟩ := h
  rcases append_eq_append_iff.mp heq with ⟨more, rfl, rfl⟩ | ⟨more, rfl, hr⟩
  · refine ⟨more, first, len, rfl, hl, hp, hle.imp_left fun hni => ?_⟩
    exact (append_eq_nil_iff.mp hni).2
  obtain ⟨n, hn, -, rfl⟩ := List.range'_eq_append_iff.mp hr
  refine ⟨[], first + n, len - n, by simp, by omega, ?_, Or.inl rfl⟩
  by_contra hz
  apply hne
  rw [show len - n = 0 by omega]
  rfl

theorem exists_keys_before (last : Option Nat) (taken rest : List Nat) :
    ∃ before, last.toList ++ (taken ++ rest) =
      before ++ ((taken.getLast?.or last).toList ++ rest) := by
  cases hl : taken.getLast?.or last with
  | none => grind
  | some l =>
    obtain ⟨before, hb⟩ := exists_before_last hl
    refine ⟨before, ?_⟩
    rw [← append_assoc, hb, append_assoc]
    rfl

namespace TrackedClock

theorem noGap_of_endsInRow (hc : 3 ≤ count) (h : EndsInRow count last c.keys) : c.NoGap := by
  obtain ⟨before, first, len, hk, -, -, hle⟩ := h
  unfold NoGap
  rw [hk]
  rcases hle with rfl | hle
  · exact (isChain_range' first len 1).drop _
  have ha : before.length ≤ (before ++ List.range' first len).length - 3 := by
    rw [length_append, length_range']
    omega
  rw [drop_append, drop_eq_nil_of_le ha]
  exact (isChain_range' first len 1).drop _

theorem Popped.keys {gridNow : Int} {outs : List RoutedRtpPacket} {popped : List Entry}
    (h : c.Popped gridNow c' outs popped) : ∃ before, c.keys = before ++ c'.keys := by
  obtain ⟨before, hb⟩ := exists_keys_before c.lastEmittedExt (popped.map Prod.fst)
    (c'.queue.entries.map Prod.fst)
  grind [keys, h.split, h.last]

theorem Pushed.keys {pkt : RoutedRtpPacket} {arrival : Int} (h : c.Pushed pkt arrival ext c') :
    ∃ before, c.keys ++ [ext] = before ++ c'.keys := by
  obtain ⟨before, hb⟩ := exists_keys_before c.lastEmittedExt
    (((c.queue.entries ++ [(ext, pkt)]).take (c.queue.size + 1 - c.maxFrames)).map Prod.fst)
    (((c.queue.entries ++ [(ext, pkt)]).drop (c.queue.size + 1 - c.maxFrames)).map Prod.fst)
  refine ⟨before, ?_⟩
  unfold TrackedClock.keys
  rw [h.queue, h.shed, ← List.getLast?_map, ← hb, ← map_append, take_append_drop,
    map_append, append_assoc]
  rfl

theorem Popped.keys_ne_nil {gridNow : Int} {outs : List RoutedRtpPacket} {popped : List Entry}
    (h : c.Popped gridNow c' outs popped) (hne : c.keys ≠ []) : c'.keys ≠ [] := by
  grind [h.last, List.getLast?_eq_none_iff, TrackedClock.keys, h.split]

theorem Pushed.keys_ne_nil {pkt : RoutedRtpPacket} {arrival : Int} (h : c.Pushed pkt arrival ext c')
    (hf : 0 < c.maxFrames) : c'.keys ≠ [] := by
  intro hn
  have hq := (append_eq_nil_iff.mp hn).2
  rw [map_eq_nil_iff, h.queue, drop_eq_nil_iff, length_append,
    length_singleton, OrderedMap.size] at hq
  omega

end TrackedClock

/-! ## A reordering buffer -/

structure Ordered (stream : Stream) (σ : Schedule) (ext k m : Nat)
    (outs : List RoutedRtpPacket) (c : TrackedClock) : Prop where
  fed : c.mixerFed = false
  maxFrames : c.maxFrames = reorderMaxFrames
  expects : c.Expects stream ext k
  started : 0 < k
  row : EndsInRow k (ext + k - 1) c.keys
  reached : σ.arrival (k - 1) ≤ σ.tick m
  phase : (k ≤ 4 ∧ σ.tick m - frame ≤ σ.arrival 2) ∨
    ∃ j, 3 ≤ j ∧ j ≤ k ∧ c.queue.entries = stream.entries ext j (k - j) ∧
      σ.tick m - frame ≤ σ.arrival j ∧
      ∀ i, 4 ≤ i → i < j → strip (stream.packet i) ∈ outs

section Steps

variable {stream : Stream} {σ : Schedule} {ext n k m : Nat} {outs : List RoutedRtpPacket}
  {c : TrackedClock}

theorem close_of_due (hp : σ.period = frame) {j : Nat} (hk : σ.arrival k ≤ σ.tick m)
    (hj : σ.tick m - frame ≤ σ.arrival j) : k ≤ j + 1 := by
  unfold Schedule.arrival at hk hj
  rw [hp, frame_eq] at hk hj
  omega

theorem Ordered.start (hfe : c.mixerFed = false) (hf : c.maxFrames = reorderMaxFrames)
    (he : c.Expects stream ext 0) (het : ext + n < 2 ^ 48) (hn : 0 < n)
    (hpe : σ.period = frame) (hd : σ.start ≤ σ.grid) :
    Ordered stream σ ext 1 0 [] (c.push (stream.packet 0) (σ.arrival 0)) := by
  have hp := he.pushed (σ.arrival 0)
  have hs : 0 < c.maxFrames := by
    rw [hf]
    decide
  obtain ⟨before, hk⟩ := hp.keys
  have hr : EndsInRow 1 (ext + 0) (c.keys ++ [ext + 0]) := endsInRow_concat_last _ _
  rw [hk] at hr
  have hso := σ.soon
  refine ⟨hp.mixerFed.trans hfe, hp.maxFrames.trans hf, he.next hp hs (by omega), Nat.one_pos,
    hr.suffix (hp.keys_ne_nil hs), ?_, Or.inl ⟨by omega, ?_⟩⟩
  · simpa [Schedule.arrival, Schedule.tick] using hd
  grind [Schedule.tick, Schedule.arrival]

theorem Ordered.push (h : Ordered stream σ ext k m outs c) (hpe : σ.period = frame)
    (het : ext + n < 2 ^ 48) (hk : k < n) (hd : σ.arrival k ≤ σ.tick m) :
    Ordered stream σ ext (k + 1) m outs (c.push (stream.packet k) (σ.arrival k)) := by
  have hp := h.expects.pushed (σ.arrival k)
  have hs : 0 < c.maxFrames := by
    rw [h.maxFrames]
    decide
  have hst := h.started
  obtain ⟨before, hke⟩ := hp.keys
  have hro := h.row.concat
  rw [show ext + k - 1 + 1 = ext + k by omega, hke] at hro
  refine ⟨hp.mixerFed.trans h.fed, hp.maxFrames.trans h.maxFrames,
    h.expects.next hp hs (by omega), Nat.succ_pos k,
    hro.suffix (hp.keys_ne_nil hs), hd, ?_⟩
  rcases h.phase with ⟨-, he⟩ | ⟨j, hj, hjk, hq, hl, hse⟩
  · have hc := close_of_due hpe hd he
    exact Or.inl ⟨by omega, he⟩
  have hc := close_of_due hpe hd hl
  have hr : c.queue.size < c.maxFrames := by
    rw [OrderedMap.size, hq, stream.length_entries, h.maxFrames]
    show k - j < 256
    omega
  refine Or.inr ⟨j, hj, by omega, ?_, hl, hse⟩
  rw [hp.entries hr, hq, show k + 1 - j = k - j + 1 by omega,
    stream.entries_concat, Nat.add_sub_cancel' hjk]

theorem Ordered.tick (h : Ordered stream σ ext k m outs c) (hpe : σ.period = frame)
    (hd : σ.tick m ≤ σ.arrival k) :
    Ordered stream σ ext k (m + 1)
      (outs ++ (c.tick (σ.tick m)).2.map strip) (c.tick (σ.tick m)).1 := by
  have he : 3 ≤ k → (c.tick (σ.tick m)).1.queue.entries = [] := fun ht =>
    (noGap_of_endsInRow ht h.row).empties h.fed (σ.tick m)
  obtain ⟨popped, hp, -⟩ := c.tick_popped (σ.tick m)
  have hn := σ.tick_succ m
  have hk : c.keys ≠ [] := by
    obtain ⟨before, first, len, hk, -, hpo, -⟩ := h.row
    rw [hk]
    intro hni
    have hle := congrArg List.length (append_eq_nil_iff.mp hni).2
    rw [length_range', length_nil] at hle
    omega
  obtain ⟨before, hb⟩ := hp.keys
  have hro := h.row
  rw [hb] at hro
  refine ⟨hp.steady.mixerFed.trans h.fed, hp.steady.maxFrames.trans h.maxFrames,
    h.expects.popped hp, h.started, hro.suffix (hp.keys_ne_nil hk), ?_, ?_⟩
  · have hr := h.reached
    rw [hn, frame_eq]
    omega
  have hl : σ.tick (m + 1) - frame ≤ σ.arrival k := by
    omega
  by_cases ht : 3 ≤ k
  · right
    refine ⟨k, ht, le_refl k, ?_, hl, fun i hi hik => ?_⟩
    · rw [he ht, Nat.sub_self]
      rfl
    rcases h.phase with ⟨hf, -⟩ | ⟨j, hj, hjk, hq, -, hse⟩
    · omega
    by_cases hold : i < j
    · exact mem_append_left _ (hse i hi hold)
    apply mem_append_right
    have ha := hp.split
    rw [he ht, append_nil, hq] at ha
    rw [hp.outs, ← ha]
    refine mem_map.mpr ⟨(ext + i, stream.packet i), ?_, rfl⟩
    refine mem_filter.mpr ⟨?_, ?_⟩
    · exact mem_map.mpr ⟨i, mem_range'_1.mpr (by omega), rfl⟩
    · rw [skips, h.fed]
      rfl
  · left
    have hm : σ.arrival k ≤ σ.arrival 2 := by
      apply Schedule.arrival_mono _ (by omega)
      rw [hpe]
      decide
    exact ⟨by omega, le_trans hl hm⟩

end Steps

/-! ## Both kinds -/

/-- A drained paced buffer whose anchor, the old one or the one the first packet sets,
gives that packet a play time near its arrival; the timestamps stay within half their
range of the anchor's for `n` packets. -/
structure Resumes (stream : Stream) (σ : Schedule) (n : Nat) (c : TrackedClock) : Prop where
  drained : c.queue.entries = []
  span : (stream.ts - (c.anchorAt stream.ts σ.start).1).toNat + n * stream.step.toNat < 2 ^ 31
  notStale : σ.start - millis 180 ≤ c.playOf (c.anchorAt stream.ts σ.start) (0, stream.packet 0)
  soon : c.playOf (c.anchorAt stream.ts σ.start) (0, stream.packet 0) ≤ σ.start + millis 300

theorem lag_eq_zero {σ : Schedule} (hp : σ.period = frame) (k : Nat) : σ.lag k = 0 := by
  rw [Schedule.lag, hp, sub_self, mul_zero]

/-- After a restart with sequence numbers ahead of the old ones every packet is played, in
a paced buffer if the restart finds it drained and near the anchor. -/
theorem restart_recovers {c : TrackedClock} (hreached : c.Reached) {stream : Stream}
    {σ : Schedule} {ext : Nat} (hssrc : ∀ cur ∈ c.ssrc, cur = stream.ssrc)
    (hrate : c.clockRate.toNat = 50 * stream.step.toNat) (hstep : 0 < stream.step.toNat)
    (hperiod : σ.period = frame) {inputs : List PlayoutInput}
    (hrun : Along step (Follows stream σ) c inputs)
    (hahead : c.Ahead stream.seq ext) (hext : ext + arrivals inputs < 2 ^ 48)
    (hpaced : c.mixerFed = true → Resumes stream σ (arrivals inputs) c)
    {i : Nat} (hlate : 100 ≤ i) (hi : i + 17 ≤ arrivals inputs) :
    Emits (trace step c inputs) (stream.packet i) := by
  have hexpects : c.Expects stream ext 0 := by
    refine ⟨hssrc, ?_⟩
    rw [show stream.seq + UInt16.ofNat 0 = stream.seq from UInt16.add_zero _]
    exact hahead
  obtain ⟨sourceId, clockRate, mixerFed, history, rfl⟩ := hreached
  have hsound := sound_run sourceId clockRate mixerFed history
  generalize exec step (tracked sourceId clockRate mixerFed) history = c at *
  have hfed : c.mixerFed = mixerFed := hsound.mixerFed
  cases mixerFed with
  | false =>
    have h := follows_induction (Q := fun k m outs c' => Ordered stream σ ext k m outs c')
      (fun hpos hfirst =>
        Ordered.start hfed hsound.maxFrames hexpects hext hpos hperiod hfirst)
      (fun k m outs c' h hk hdue => h.push hperiod hext hk hdue)
      (fun k m outs c' h _ hdue => h.tick hperiod hdue) hrun (le_refl _) (by omega)
    rcases h.phase with ⟨hfew, -⟩ | ⟨j, -, -, -, hlast, hsent⟩
    · omega
    · have hclose := close_of_due hperiod h.reached hlast
      exact hsent i (by omega) (by omega)
  | true =>
    obtain ⟨hdrained, hspan, hnotStale, hsoon⟩ := hpaced hfed
    rw [playOf_packet hrate hstep hspan (Nat.zero_le _)] at hnotStale hsoon
    have hpace : Pace σ ((c.anchorAt stream.ts σ.start).2 +
        c.mediaTime (stream.ts - (c.anchorAt stream.ts σ.start).1) - σ.start)
        (arrivals inputs) := by
      refine ⟨by rw [hperiod]; decide, by rw [hperiod]; decide, fun k _ => ?_⟩
      rw [lag_eq_zero hperiod]
      omega
    obtain ⟨j, h⟩ := flowing_run hfed hsound.maxDelay hsound.maxFrames hdrained hexpects hext
      (fun i hi key => by
        rw [playOf_packet hrate hstep hspan (Nat.le_of_lt hi)]
        omega) hpace hrun (le_refl _) (by omega)
    have hbehind := h.behind hpace (le_refl _)
    apply h.sent.mem (by omega)
    rw [lag_eq_zero hperiod]
    omega

def samplePlayed (seq : UInt16) (mixerFed : Bool) : TrackedClock :=
  exec step (tracked 1 8000 mixerFed)
    [.push (samplePacket seq 160000) 0, .tick 0, .tick (millis 60)]

theorem samplePlayed_reached (seq : UInt16) (mixerFed : Bool) :
    (samplePlayed seq mixerFed).Reached := ⟨1, 8000, mixerFed, _, rfl⟩

def restartSchedule (start : Int) : Schedule :=
  ⟨start, frame, start + millis 5, by have h := frame_eq; unfold millis; omega⟩

theorem restartSchedule_along (stream : Stream) (start : Int) (n : Nat) (c : TrackedClock) :
    Along step (Follows stream (restartSchedule start)) c
      (scheduled stream (restartSchedule start) n 0 0) := by
  apply scheduled_along
  show start ≤ start + millis 5
  unfold millis
  omega

theorem samplePlayed_ahead (mixerFed : Bool) : (samplePlayed 10 mixerFed).Ahead 2000 2000 := by
  have hla : (samplePlayed 10 mixerFed).lastEmittedExt = some 10 := by
    cases mixerFed <;> decide +kernel
  have hq : (samplePlayed 10 mixerFed).queue.entries = [] := by
    cases mixerFed <;> decide +kernel
  refine ⟨?_, ?_, fun l hl => ?_, fun e he => ?_⟩
  · cases mixerFed <;> decide +kernel
  · cases mixerFed <;> decide +kernel
  · rw [hla] at hl
    cases hl
    decide
  · rw [hq] at he
    cases he

theorem samplePlayed_recovers : Emits (trace step (samplePlayed 10 false)
      (scheduled (sampleStream 2000 77 160) (restartSchedule (millis 1000)) 240 0 0))
      ((sampleStream 2000 77 160).packet 100) ∧
    Emits (trace step (samplePlayed 10 true)
      (scheduled (sampleStream 2000 77 160) (restartSchedule (millis 1000)) 240 0 0))
      ((sampleStream 2000 77 160).packet 100) := by
  have hcount : arrivals (scheduled (sampleStream 2000 77 160) (restartSchedule (millis 1000))
      240 0 0) = 120 := by decide +kernel
  have hboth : ∀ mixerFed, Emits (trace step (samplePlayed 10 mixerFed)
      (scheduled (sampleStream 2000 77 160) (restartSchedule (millis 1000)) 240 0 0))
      ((sampleStream 2000 77 160).packet 100) := by
    intro mixerFed
    apply restart_recovers (samplePlayed_reached 10 mixerFed) _ _ (by decide) rfl
      (restartSchedule_along _ _ _ _) (samplePlayed_ahead mixerFed) (by rw [hcount]; decide) _
      (le_refl 100) (by rw [hcount]; decide)
    · cases mixerFed <;> exact fun cur hcur => (by cases hcur; rfl)
    · cases mixerFed <;> decide +kernel
    cases mixerFed with
    | false => exact fun hfed => (by cases hfed)
    | true =>
      exact fun _ =>
        ⟨by decide +kernel, by decide +kernel, by decide +kernel, by decide +kernel⟩
  exact ⟨hboth false, hboth true⟩

/-- Of 150 packets of a restarted sender none is played, and at most the newest 16 are
queued. -/
def Stranded (c : TrackedClock) (stream : Stream) (σ : Schedule) : Prop :=
  c.Reached ∧ c.ssrc = some stream.ssrc ∧ c.clockRate.toNat = 50 * stream.step.toNat ∧
    σ.period = frame ∧
    ∃ inputs, Along step (Follows stream σ) c inputs ∧ arrivals inputs = 150 ∧
      handedOut (trace step c inputs) = [] ∧
      (exec step c inputs).queue.size ≤ 16

/-- Sequence numbers that restart below the old ones; timestamps that restart behind the
anchor; timestamps that restart ahead of it. -/
theorem restart_strands :
    Stranded (samplePlayed 1000 false) (sampleStream 500 0 160) (restartSchedule (millis 80)) ∧
    Stranded (samplePlayed 1000 true) (sampleStream 1001 0 160) (restartSchedule (millis 80)) ∧
    Stranded (samplePlayed 1000 true) (sampleStream 1001 500000 160)
      (restartSchedule (millis 80)) := by
  refine ⟨⟨samplePlayed_reached _ _, rfl, by decide +kernel, rfl, _,
      restartSchedule_along _ _ 300 _, ?_, ?_, ?_⟩,
    ⟨samplePlayed_reached _ _, rfl, by decide +kernel, rfl, _,
      restartSchedule_along _ _ 300 _, ?_, ?_, ?_⟩,
    ⟨samplePlayed_reached _ _, rfl, by decide +kernel, rfl, _,
      restartSchedule_along _ _ 300 _, ?_, ?_, ?_⟩⟩
  all_goals decide +kernel

end RtpBridge.Session.Playout
