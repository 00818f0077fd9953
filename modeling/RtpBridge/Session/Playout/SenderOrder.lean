/-
The order in which the playout buffer of a network source hands packets out, against the
order in which the sender sent them.
-/
import RtpBridge.Session.Playout.Order

namespace RtpBridge.Session.Playout

open Machine List

abbrev IndexedCall := Call × Nat

def Call.time : Call → Int
  | .push _ arrival => arrival
  | .drainTick gridNow => gridNow

namespace TrackedClock

variable {c c' : TrackedClock}

def sent (calls : List IndexedCall) : List (RoutedRtpPacket × Nat) :=
  calls.filterMap fun
    | (.push pkt _, i) => some (pkt, i)
    | (.drainTick _, _) => none

variable {base i k m n newest : Nat} {pkt : RoutedRtpPacket}

theorem sent_of_pushes {calls : List IndexedCall} (h : pkt ∈ pushes (calls.map Prod.fst)) :
    ∃ i, (pkt, i) ∈ sent calls := by
  induction calls with
  | nil => exact absurd h not_mem_nil
  | cons x rest ih =>
    obtain ⟨x, i⟩ := x
    cases x with
    | push p arrival =>
      rcases mem_cons.mp h with rfl | h
      · exact ⟨i, mem_cons_self⟩
      · obtain ⟨j, hj⟩ := ih h
        exact ⟨j, mem_cons_of_mem _ hj⟩
    | drainTick gridNow => exact ih h

def Close : Nat → List IndexedCall → Prop
  | _, [] => True
  | newest, (.push pkt _, i) :: rest =>
    pkt.sequenceNumber.toNat = i % 2 ^ 16 ∧ i ≤ newest + (2 ^ 15 - 1) ∧
      newest ≤ i + (2 ^ 15 - 1) ∧ Close (max newest i) rest
  | newest, (.drainTick _, _) :: rest => Close newest rest

/-- The packets can be given indices under which they were sent, in ascending order. -/
def InSenderOrder (sent : List (RoutedRtpPacket × Nat)) (out : List RoutedRtpPacket) : Prop :=
  ∃ indices : List Nat, indices.Pairwise (· < ·) ∧
    List.Forall₂ (fun pkt i => ∃ p ∈ sent, p.2 = i ∧ strip p.1 = strip pkt) out indices

/-! ## The counter follows the sender -/

def Known (base : Nat) (sent : List (RoutedRtpPacket × Nat)) (e : Entry) : Prop :=
  ∃ p ∈ sent, p.2 = e.1 + base ∧ strip p.1 = bare e

theorem Known.mono {sent sent' : List (RoutedRtpPacket × Nat)} {e : Entry} (h : Known base sent e)
    (hsu : ∀ p ∈ sent, p ∈ sent') : Known base sent' e := by
  obtain ⟨p, hp, hi, hs⟩ := h
  exact ⟨p, hsu p hp, hi, hs⟩

structure Tracks (base newest : Nat) (sent : List (RoutedRtpPacket × Nat)) (c : TrackedClock) :
    Prop where
  seen : c.seenAny = true
  newest : c.extMax + base = newest
  queue : ∀ e ∈ c.queue.entries, Known base sent e

theorem extendSeq_close {seq : UInt16} (hs : c.seenAny = true)
    (hn : c.extMax + base = newest) (hb : base % 2 ^ 16 = 0) (hse : seq.toNat = i % 2 ^ 16)
    (hup : i ≤ newest + (2 ^ 15 - 1)) (hdo : newest ≤ i + (2 ^ 15 - 1)) (hi : i < base + 2 ^ 48) :
    (∀ ext ∈ (c.extendSeq seq).2, ext + base = i) ∧
      (c.extendSeq seq).1.extMax + base = max newest i := by
  have hl : c.extMax % 2 ^ 16 = c.maxSeq.toNat := by
    have hlt := c.maxSeq.toNat_lt
    unfold extMax
    omega
  by_cases ha : newest ≤ i
  · have hd : seq.toNat = (c.extMax + (i - newest)) % 2 ^ 16 := by omega
    obtain ⟨hk, hm⟩ := extendSeq_forward hs (by omega) hd
    grind
  have hd : (seq.toNat + (newest - i)) % 2 ^ 16 = c.maxSeq.toNat := by omega
  obtain ⟨hk, hm⟩ := extendSeq_backward hs (by omega) (by omega) hd
  grind

theorem push_counter (c : TrackedClock) (pkt : RoutedRtpPacket) (arrival : Int) :
    (c.push pkt arrival).extMax = ((c.meet pkt arrival).extendSeq pkt.sequenceNumber).1.extMax ∧
      (c.push pkt arrival).seenAny = true := by
  have hs := (c.meet pkt arrival).seenAny_extendSeq pkt.sequenceNumber
  unfold push
  generalize (c.meet pkt arrival).extendSeq pkt.sequenceNumber = r at hs
  obtain ⟨d, key⟩ := r
  cases key with
  | none => exact ⟨rfl, hs⟩
  | some ext =>
    dsimp only
    split <;> exact ⟨rfl, hs⟩

theorem Arrived.known {queue : OrderedMap RoutedRtpPacket} {last : Option Nat} {cap : Nat}
    {key : Option Nat} (ha : Arrived queue last cap pkt key c')
    {sent : List (RoutedRtpPacket × Nat)} (hq : ∀ e ∈ queue.entries, Known base sent e)
    (hk : ∀ ext ∈ key, ext + base = i) :
    ∀ e ∈ c'.queue.entries, Known base (sent ++ [(pkt, i)]) e := by
  have hold : ∀ e ∈ queue.entries, Known base (sent ++ [(pkt, i)]) e := fun e he =>
    (hq e he).mono fun p hp => mem_append_left _ hp
  cases ha with
  | late hsame hl hla =>
    rw [hsame]
    exact hold
  | joined ext het hn hj hl =>
    intro e he
    rw [hj] at he
    rcases OrderedMap.mem_insertEntry (mem_of_mem_drop he) with rfl | he
    · exact ⟨(pkt, i), mem_append_right _ mem_cons_self, (hk ext het).symm, rfl⟩
    · exact hold e he

theorem Tracks.push {sent : List (RoutedRtpPacket × Nat)} (h : Tracks base newest sent c)
    (hs : ∀ cur ∈ c.ssrc, cur = pkt.ssrc) (hb : base % 2 ^ 16 = 0)
    (hsq : pkt.sequenceNumber.toNat = i % 2 ^ 16) (hup : i ≤ newest + (2 ^ 15 - 1))
    (hdo : newest ≤ i + (2 ^ 15 - 1)) (hi : i < base + 2 ^ 48) (arrival : Int) :
    Tracks base (max newest i) (sent ++ [(pkt, i)]) (c.push pkt arrival) := by
  have hm := meet_of_same hs arrival
  have he := extendSeq_of_eq hm.roc hm.maxSeq hm.seenAny pkt.sequenceNumber
  obtain ⟨hk, hma⟩ := extendSeq_close h.seen h.newest hb hsq hup hdo hi
  obtain ⟨hc, hse⟩ := c.push_counter pkt arrival
  have ha := c.push_arrived pkt arrival
  rw [he] at hc ha
  rw [adopt_of_same hs] at ha
  exact ⟨hse, (congrArg (· + base) hc).trans hma, ha.known h.queue hk⟩

theorem Tracks.drainTick {sent : List (RoutedRtpPacket × Nat)} (h : Tracks base newest sent c)
    (gridNow : Int) :
    Tracks base newest sent (c.drainTick gridNow).1 ∧
      ∀ e ∈ (c.call (.drainTick gridNow)).2, Known base sent e := by
  obtain ⟨⟨popped, hpo⟩, -⟩ := c.drainTick_popped gridNow
  have hd := c.drainTick_drained gridNow
  have hs := hpo.steady
  refine ⟨⟨hs.seenAny.trans h.seen, ?_, fun e he => h.queue e ?_⟩, ?_⟩
  · unfold extMax
    rw [hs.roc, hs.maxSeq]
    exact h.newest
  · rw [hpo.split]
    exact mem_append_right _ he
  unfold call
  dsimp only
  generalize c.drainTick gridNow = r at hd
  obtain ⟨c', out⟩ := r
  cases hd with
  | none skipped hsp hl => exact fun e he => (Option.not_mem_none e he).elim
  | some skipped e pkt hsp hl hpk =>
    intro e' he'
    rw [hl] at he'
    cases he'
    obtain ⟨p, hp, hi, hst⟩ := h.queue e (by
      rw [hsp]
      exact mem_append_right _ mem_cons_self)
    exact ⟨p, hp, hi, hst.trans hpk.symm⟩

theorem Tracks.emitted {known : List (RoutedRtpPacket × Nat)} (h : Tracks base newest known c)
    (hba : base % 2 ^ 16 = 0) {ssrc : UInt32} {calls : List IndexedCall}
    (hs : OneSsrc ssrc c (calls.map Prod.fst)) (hc : Close newest calls)
    (hb : ∀ p ∈ sent calls, p.2 < base + 2 ^ 48) :
    ∀ e ∈ c.emitted (calls.map Prod.fst), Known base (known ++ sent calls) e := by
  induction calls generalizing c newest known with
  | nil => exact fun e he => absurd he not_mem_nil
  | cons x rest ih =>
    obtain ⟨x, i⟩ := x
    rw [map_cons, emitted_cons]
    cases x with
    | push pkt arrival =>
      obtain ⟨hse, hup, hdo, hr⟩ := hc
      have hsame : ∀ cur ∈ c.ssrc, cur = pkt.ssrc := fun cur hcu =>
        (hs.buffer cur hcu).trans (hs.pushed pkt mem_cons_self).symm
      have hpu := h.push hsame hba hse hup hdo (hb _ mem_cons_self) arrival
      have hn := ih hpu hs.tail hr
        fun p hp => hb p (mem_cons_of_mem _ hp)
      intro e he
      rw [show sent ((.push pkt arrival, i) :: rest) = [(pkt, i)] ++ sent rest from rfl,
        ← append_assoc]
      exact hn e he
    | drainTick gridNow =>
      obtain ⟨hd, ho⟩ := h.drainTick gridNow
      intro e he
      rcases mem_append.mp he with he | he
      · exact (ho e (Option.mem_toList.mp he)).mono
          fun p hp => mem_append_left _ hp
      · exact ih hd hs.tail hc hb e he

/-! ## The first packet of a sender -/

structure Fresh (c : TrackedClock) : Prop where
  seenAny : c.seenAny = false
  roc : c.roc = 0
  queue : c.queue.entries = []

theorem fresh_run (sourceId : EndpointId) (clockRate : UInt32) (mixerFed : Bool)
    (calls : List Call) :
    (exec call (tracked sourceId clockRate mixerFed) calls).ssrc = none →
      Fresh (exec call (tracked sourceId clockRate mixerFed) calls) := by
  apply exec_induction (P := fun c => c.ssrc = none → Fresh c)
  · exact fun _ => ⟨rfl, rfl, rfl⟩
  intro c x h hn
  cases x with
  | push pkt arrival =>
    have hss := c.ssrc_push pkt arrival
    exact absurd (hss.symm.trans hn) (by simp)
  | drainTick gridNow =>
    obtain ⟨⟨popped, hpo⟩, -⟩ := c.drainTick_popped gridNow
    have hs := hpo.steady
    have hf := h (hs.ssrc.symm.trans hn)
    have he := hpo.split.symm.trans hf.queue
    exact ⟨hs.seenAny.trans hf.seenAny, hs.roc.trans hf.roc, (append_eq_nil_iff.mp he).2⟩

theorem adopt_fresh {ssrc : UInt32} (h : c.ssrc = none → Fresh c) (hne : c.ssrc ≠ some ssrc) :
    Fresh (c.adopt ssrc) := by
  unfold adopt
  split
  · rename_i cur hcu
    rw [if_neg fun heq => hne (by rw [hcu, heq])]
    exact ⟨rfl, rfl, rfl⟩
  · rename_i hn
    exact ⟨(h hn).seenAny, (h hn).roc, (h hn).queue⟩

theorem Fresh.first (h : Fresh (c.adopt pkt.ssrc)) {first : Nat}
    (hse : pkt.sequenceNumber.toNat = first % 2 ^ 16) (arrival : Int) :
    Tracks (first - first % 2 ^ 16) first [(pkt, first)] (c.push pkt arrival) := by
  have hm : (c.meet pkt arrival).seenAny = false ∧ (c.meet pkt arrival).roc = 0 := by
    unfold meet endSpurt
    split <;> exact ⟨h.seenAny, h.roc⟩
  have hed : ((c.meet pkt arrival).extendSeq pkt.sequenceNumber).2 = some pkt.sequenceNumber.toNat ∧
      ((c.meet pkt arrival).extendSeq pkt.sequenceNumber).1.extMax = pkt.sequenceNumber.toNat := by
    unfold extendSeq extMax
    rw [if_pos hm.1, hm.2]
    exact ⟨congrArg some (Nat.zero_add _), Nat.zero_add _⟩
  obtain ⟨hc, hs⟩ := c.push_counter pkt arrival
  have hq : ∀ e ∈ (c.adopt pkt.ssrc).queue.entries, Known (first - first % 2 ^ 16) [] e := by
    intro e he
    rw [h.queue] at he
    exact absurd he not_mem_nil
  have hk : ∀ ext ∈ ((c.meet pkt arrival).extendSeq pkt.sequenceNumber).2,
      ext + (first - first % 2 ^ 16) = first := by
    intro ext het
    rw [hed.1] at het
    cases het
    omega
  refine ⟨hs, ?_, (c.push_arrived pkt arrival).known hq hk⟩
  omega

theorem inSenderOrder_of_known {sent : List (RoutedRtpPacket × Nat)} {out : List Entry}
    (hi : out.Pairwise fun a b => a.1 < b.1) (hk : ∀ e ∈ out, Known base sent e) :
    InSenderOrder sent (out.map Prod.snd) := by
  refine ⟨out.map fun e => e.1 + base, ?_, ?_⟩
  · rw [pairwise_map]
    exact hi.imp fun hlt => Nat.add_lt_add_right hlt base
  · rw [List.forall₂_map_left_iff, List.forall₂_map_right_iff, List.forall₂_same]
    exact hk

/-- Packets leave the buffer in order, each at most once and as it was sent but for the
marker and the source; between two changes of the SSRC their extended sequence numbers
ascend, and so do the sender's own indices while they have fewer than `2 ^ 48` values. -/
theorem tracked_playout_in_order (sourceId : EndpointId) (clockRate : UInt32) (mixerFed : Bool)
    (before : List Call) (c : TrackedClock)
    (hc : c = exec call (tracked sourceId clockRate mixerFed) before) :
    (∀ l ∈ c.lastEmittedExt, ∀ e ∈ c.queue.entries, l < e.1) ∧
      c.queue.size ≤ (if mixerFed then 16 else 256) ∧
      (mixerFed = true → c.queue.entries ≠ [] → c.anchor.isSome) ∧
      ((emitted (tracked sourceId clockRate mixerFed) before).map bare).Subperm
        ((pushes before).map strip) ∧
      (∀ ssrc after, OneSsrc ssrc c after → (emitted c after).Pairwise fun a b => a.1 < b.1) ∧
      (∀ pkt arrival first rest, c.ssrc ≠ some pkt.ssrc → (∀ p ∈ sent rest, p.1.ssrc = pkt.ssrc) →
        Close first ((.push pkt arrival, first) :: rest) →
        (∀ p ∈ sent rest, p.2 < first - first % 2 ^ 16 + 2 ^ 48) →
        InSenderOrder (sent ((.push pkt arrival, first) :: rest))
          ((emitted c (.push pkt arrival :: rest.map Prod.fst)).map Prod.snd)) := by
  have hkept : Kept (tracked sourceId clockRate mixerFed) c := by
    rw [hc]
    exact kept_run sourceId clockRate mixerFed before
  have hsize : c.queue.size ≤ if mixerFed then 16 else 256 := hkept.within.size
  refine ⟨hkept.within.above, hsize, fun _ => hkept.sound.anchored, ?_,
    fun ssrc after hssrc => (hkept.increasing hssrc).1, ?_⟩
  · exact (sublist_append_left _ _).subperm.trans
      (accounted_run sourceId clockRate mixerFed before)
  intro pkt arrival first rest hnew hssrc hclose hbound
  obtain ⟨hseq, -, -, hrest⟩ := hclose
  rw [max_self] at hrest
  have hfresh : Fresh (c.adopt pkt.ssrc) := by
    apply adopt_fresh _ hnew
    rw [hc]
    exact fresh_run sourceId clockRate mixerFed before
  have hone : OneSsrc pkt.ssrc (c.push pkt arrival) (rest.map Prod.fst) := by
    refine ⟨fun cur hcur => ?_, fun p hp => ?_⟩
    · rw [ssrc_push] at hcur
      cases hcur
      rfl
    · obtain ⟨i, hi⟩ := sent_of_pushes hp
      exact hssrc (p, i) hi
  have hbase : (first - first % 2 ^ 16) % 2 ^ 16 = 0 := by omega
  exact inSenderOrder_of_known ((hkept.call (.push pkt arrival)).increasing hone).1
    ((hfresh.first hseq arrival).emitted hbase hone hrest hbound)

def indexedPacket (i : Nat) : RoutedRtpPacket :=
  { sourceEndpointId := 1, payloadType := 0, sequenceNumber := UInt16.ofNat i, timestamp := 0,
    ssrc := 1, marker := false, payload := if i < 2 ^ 48 then [] else [1] }

def indexedPush (i : Nat) : IndexedCall := (.push (indexedPacket i) 0, i)

def swappedAtWrap : List IndexedCall :=
  [indexedPush 65536, indexedPush 65535, (.drainTick (millis 60), 0),
    (.drainTick (millis 60), 0), (.drainTick (millis 60), 0)]

theorem swappedAtWrap_in_order :
    ((emitted (tracked 1 8000 true) ((indexedPush 65534 :: swappedAtWrap).map Prod.fst)).map
        fun e => (e.1, e.2.sequenceNumber)) = [(65534, 65534), (65535, 65535), (65536, 0)] ∧
      InSenderOrder (sent (indexedPush 65534 :: swappedAtWrap))
        ((emitted (tracked 1 8000 true)
          ((indexedPush 65534 :: swappedAtWrap).map Prod.fst)).map Prod.snd) := by
  refine ⟨by decide +kernel, ?_⟩
  refine (tracked_playout_in_order 1 8000 true [] _ rfl).2.2.2.2.2 (indexedPacket 65534) 0 65534
    swappedAtWrap (by decide) (by decide) ?_ (by decide)
  exact ⟨by decide, by decide, by decide, by decide, by decide, by decide, by decide, by decide,
    by decide, trivial⟩

/-! ## Past `2 ^ 48` packets -/

theorem emitted_append (c : TrackedClock) (calls after : List Call) :
    emitted c (calls ++ after) = emitted c calls ++ emitted (exec call c calls) after := by
  unfold emitted
  rw [trace_append, outputs_append]

theorem emitted_indexedPush (c : TrackedClock) (i : Nat) (rest : List Call) :
    emitted c ((indexedPush i).1 :: rest) = emitted (c.push (indexedPacket i) 0) rest := by
  rfl

def spaced (k n : Nat) : List IndexedCall :=
  (List.range' k n).map fun j => indexedPush (j * 2 ^ 14)

theorem spaced_succ (k n : Nat) :
    spaced k (n + 1) = indexedPush (k * 2 ^ 14) :: spaced (k + 1) n := by
  unfold spaced
  rw [List.range'_succ, map_cons]

theorem emitted_spaced (c : TrackedClock) (k n : Nat) :
    emitted c ((spaced k n).map Prod.fst) = [] := by
  induction n generalizing c k with
  | zero => rfl
  | succ n ih =>
    rw [spaced_succ, map_cons, emitted_indexedPush, ih]

def spacedEntry (k : Nat) : Entry := (k * 2 ^ 14, indexedPacket (k * 2 ^ 14))

structure Holds (n : Nat) (c : TrackedClock) : Prop where
  queue : c.queue.entries =
    ((List.range (min n (2 ^ 34))).drop (min n (2 ^ 34) - 256)).map spacedEntry
  last : c.lastEmittedExt = if n ≤ 256 then none else some ((min n (2 ^ 34) - 257) * 2 ^ 14)

structure Filled (n : Nat) (c : TrackedClock) : Prop where
  kept : Kept (tracked 1 8000 false) c
  seen : c.seenAny = true
  ssrc : c.ssrc = some 1
  newest : c.extMax = (n - 1) % 2 ^ 34 * 2 ^ 14
  holds : Holds n c

theorem window_shift {entries : List Entry}
    (hq : entries = ((List.range m).drop (m - 256)).map spacedEntry) :
    (entries ++ [spacedEntry m]).drop (entries.length + 1 - 256) =
        ((List.range (m + 1)).drop (m + 1 - 256)).map spacedEntry ∧
      ((entries ++ [spacedEntry m]).take (entries.length + 1 - 256)).getLast?.map Prod.fst =
        if m + 1 ≤ 256 then none else some ((m + 1 - 257) * 2 ^ 14) := by
  have hl : entries.length = m - (m - 256) := by
    rw [hq, length_map, length_drop, length_range]
  have hs : entries ++ [spacedEntry m] = ((List.range (m + 1)).drop (m - 256)).map spacedEntry := by
    rw [hq, range_succ, drop_append_of_le_length (by simp), map_append]
    rfl
  rw [hs, hl, ← map_drop, drop_drop]
  refine ⟨congrArg (fun d => ((List.range (m + 1)).drop d).map spacedEntry) (by omega), ?_⟩
  by_cases hr : m + 1 ≤ 256
  · rw [if_pos hr, show m - (m - 256) + 1 - 256 = 0 by omega]
    rfl
  rw [if_neg hr, show m - (m - 256) + 1 - 256 = 1 by omega,
    drop_eq_getElem_cons (by rw [length_range]; omega), getElem_range]
  rw [show m + 1 - 257 = m - 256 by omega]
  rfl

theorem indexedPacket_seq (i : Nat) :
    (indexedPacket i).sequenceNumber.toNat = i % 2 ^ 16 := UInt16.toNat_ofNat'

theorem Filled.arrived (h : Filled n c) {d : Nat} (hd : d < 2 ^ 15)
    (hi : i % 2 ^ 16 = (c.extMax + d) % 2 ^ 16) :
    Arrived c.queue c.lastEmittedExt 256 (indexedPacket i) (some ((c.extMax + d) % 2 ^ 48))
        (c.push (indexedPacket i) 0) ∧
      (c.push (indexedPacket i) 0).extMax = (c.extMax + d) % 2 ^ 48 := by
  have hs : ∀ cur ∈ c.ssrc, cur = (indexedPacket i).ssrc := by
    intro cur hcu
    rw [h.ssrc] at hcu
    cases hcu
    rfl
  have hm := meet_of_same hs 0
  obtain ⟨hk, hma⟩ := extendSeq_forward h.seen hd ((indexedPacket_seq i).trans hi)
  have hc := (c.push_counter (indexedPacket i) 0).1
  have ha := c.push_arrived (indexedPacket i) 0
  rw [extendSeq_of_eq hm.roc hm.maxSeq hm.seenAny] at hc ha
  rw [adopt_of_same hs, hk] at ha
  have hf : c.maxFrames = 256 := h.kept.sound.maxFrames
  exact ⟨hf ▸ ha, hc.trans hma⟩

theorem Holds.join (h : Holds n c) (hn : n < 2 ^ 34)
    (ha : Arrived c.queue c.lastEmittedExt 256 (indexedPacket (n * 2 ^ 14))
      (some (n * 2 ^ 14)) c') : Holds (n + 1) c' := by
  have hen := h.queue
  have hold := h.last
  rw [Nat.min_eq_left hn.le] at hen hold
  obtain ⟨hd, ht⟩ := window_shift hen
  cases ha with
  | late hsame hla hlat =>
    obtain ⟨l, hl, hle⟩ := hlat _ rfl
    rw [hold] at hl
    split at hl
    · exact (Option.not_mem_none _ hl).elim
    · have hl := Option.some.inj hl
      omega
  | joined ext het hne hj hla =>
    cases het
    have hlt : ∀ e ∈ c.queue.entries, e.1 < n * 2 ^ 14 := by
      intro e he
      rw [hen] at he
      obtain ⟨k, hk, rfl⟩ := mem_map.mp he
      have hlt := mem_range.mp (mem_of_mem_drop hk)
      show k * 2 ^ 14 < n * 2 ^ 14
      omega
    have hi : (c.queue.insert (n * 2 ^ 14) (indexedPacket (n * 2 ^ 14))).entries =
        c.queue.entries ++ [spacedEntry n] := OrderedMap.entries_insert_last _ hlt
    have hs : (c.queue.insert (n * 2 ^ 14) (indexedPacket (n * 2 ^ 14))).size =
        c.queue.entries.length + 1 := by
      rw [OrderedMap.size, hi, length_append]
      rfl
    refine ⟨?_, ?_⟩
    · rw [hj, OrderedMap.entries_drop, hi, hs, hd, Nat.min_eq_left hn]
    rw [hla, hi, hs, ht, hold, Nat.min_eq_left hn]
    by_cases hr : n + 1 ≤ 256
    · rw [if_pos hr, if_pos (by omega)]
      rfl
    · rw [if_neg hr]
      rfl

theorem Holds.stay (h : Holds n c) (hr : 2 ^ 34 ≤ n) (hn : n ≤ 2 ^ 35 - 257)
    (ha : Arrived c.queue c.lastEmittedExt 256 pkt (some (n % 2 ^ 34 * 2 ^ 14)) c') :
    Holds (n + 1) c' := by
  have hl := h.last
  have hq := h.queue
  rw [if_neg (by omega), Nat.min_eq_right hr] at hl
  rw [Nat.min_eq_right hr] at hq
  cases ha with
  | late hsame hk hla =>
    refine ⟨?_, ?_⟩
    · rw [hsame, hq, Nat.min_eq_right (by omega)]
    · rw [hk, hl, if_neg (by omega), Nat.min_eq_right (by omega)]
  | joined ext het hne hj hs =>
    cases het
    have hlt := hne _ hl
    omega

theorem Filled.push (h : Filled n c) (hp : 0 < n) (hn : n ≤ 2 ^ 35 - 257) :
    Filled (n + 1) (c.push (indexedPacket (n * 2 ^ 14)) 0) := by
  have hne := h.newest
  have hse : n * 2 ^ 14 % 2 ^ 16 = (c.extMax + 2 ^ 14) % 2 ^ 16 := by omega
  obtain ⟨ha, hm⟩ := h.arrived (by decide) hse
  have hk : (c.extMax + 2 ^ 14) % 2 ^ 48 = n % 2 ^ 34 * 2 ^ 14 := by omega
  rw [hk] at ha hm
  refine ⟨h.kept.call (.push (indexedPacket (n * 2 ^ 14)) 0),
    (c.push_counter _ _).2, c.ssrc_push _ _, hm, ?_⟩
  grind [h.holds.join, h.holds.stay]

theorem Filled.spaced (h : Filled k c) (hp : 0 < k) (hn : k + n ≤ 2 ^ 35 - 256) :
    Filled (k + n) (exec call c ((spaced k n).map Prod.fst)) := by
  induction n generalizing c k with
  | zero => exact h
  | succ n ih =>
    rw [show k + (n + 1) = k + 1 + n by omega]
    exact ih (h.push hp (by omega)) (by omega) (by omega)

theorem filled_one : Filled 1 ((tracked 1 8000 false).push (indexedPacket 0) 0) :=
  ⟨kept_run 1 8000 false [.push (indexedPacket 0) 0], by decide, by decide, by decide,
    ⟨by decide, by decide⟩⟩

def secondRound : List IndexedCall :=
  spaced 1 (2 ^ 35 - 257) ++
    [indexedPush ((2 ^ 35 - 255) * 2 ^ 14 - 8), (.drainTick 0, 0), (.drainTick 0, 0)]

theorem window_head (hm : 256 ≤ m) : ((List.range m).drop (m - 256)).map spacedEntry =
      spacedEntry (m - 256) :: spacedEntry (m - 255) ::
        ((List.range m).drop (m - 254)).map spacedEntry := by
  rw [drop_eq_getElem_cons (by rw [length_range]; omega),
    drop_eq_getElem_cons (by rw [length_range]; omega), getElem_range,
    getElem_range, show m - 256 + 1 = m - 255 by omega, show m - 255 + 1 = m - 254 by omega]
  rfl

theorem window_tail_length (hm : 254 ≤ m) :
    (((List.range m).drop (m - 254)).map spacedEntry).length = 254 := by
  rw [length_map, length_drop, length_range]
  omega

theorem entries_insert_second {m : OrderedMap RoutedRtpPacket} {e₀ e₁ : Entry} {rest : List Entry}
    (hm : m.entries = e₀ :: e₁ :: rest) (pkt : RoutedRtpPacket) (h₀ : e₀.1 < k) (h₁ : k < e₁.1) :
    (m.insert k pkt).entries = e₀ :: (k, pkt) :: e₁ :: rest := by
  show OrderedMap.insertEntry k pkt m.entries = _
  rw [hm, OrderedMap.insertEntry, if_neg (by omega), if_neg (by omega), OrderedMap.insertEntry,
    if_pos h₁]

theorem Filled.overtake (h : Filled (2 ^ 35 - 256) c) :
    (c.push (indexedPacket ((2 ^ 35 - 255) * 2 ^ 14 - 8)) 0).queue.entries =
      ((2 ^ 34 - 255) * 2 ^ 14 - 8, indexedPacket ((2 ^ 35 - 255) * 2 ^ 14 - 8)) ::
        spacedEntry (2 ^ 34 - 255) ::
          ((List.range (2 ^ 34)).drop (2 ^ 34 - 254)).map spacedEntry := by
  have hn := h.newest
  have hse : ((2 ^ 35 - 255) * 2 ^ 14 - 8) % 2 ^ 16 = (c.extMax + (2 ^ 15 - 8)) % 2 ^ 16 := by
    omega
  obtain ⟨ha, -⟩ := h.arrived (by decide) hse
  have hke : (c.extMax + (2 ^ 15 - 8)) % 2 ^ 48 = (2 ^ 34 - 255) * 2 ^ 14 - 8 := by omega
  have hq := h.holds.queue
  have hla := h.holds.last
  rw [hke] at ha
  rw [Nat.min_eq_right (by omega), window_head (by omega)] at hq
  have hi := entries_insert_second hq (indexedPacket ((2 ^ 35 - 255) * 2 ^ 14 - 8))
    (show (spacedEntry (2 ^ 34 - 256)).1 < (2 ^ 34 - 255) * 2 ^ 14 - 8 by decide)
    (show (2 ^ 34 - 255) * 2 ^ 14 - 8 < (spacedEntry (2 ^ 34 - 255)).1 by decide)
  cases ha with
  | late hsame hk hlt =>
    obtain ⟨l, hl, hle⟩ := hlt _ rfl
    have hl := Option.some.inj (hla.symm.trans hl)
    omega
  | joined ext het hne hj hsh =>
    have het := Option.some.inj het
    rw [← het] at hj
    have hs : (c.queue.insert ((2 ^ 34 - 255) * 2 ^ 14 - 8)
        (indexedPacket ((2 ^ 35 - 255) * 2 ^ 14 - 8))).size = 257 := by
      rw [OrderedMap.size, hi, length_cons, length_cons, length_cons, window_tail_length (by omega)]
    rw [hj, hs, OrderedMap.entries_drop, hi]
    rfl

theorem drainTick_long (hf : c.mixerFed = false) {e : Entry} {rest : List Entry}
    (hq : c.queue.entries = e :: rest) (hl : reorderDepth ≤ c.queue.size) (gridNow : Int) :
    ∃ out, (c.call (.drainTick gridNow)).2 = some out ∧ bare out = bare e ∧
      (c.call (.drainTick gridNow)).1.queue.entries = rest ∧
      (c.call (.drainTick gridNow)).1.mixerFed = false := by
  have hh : c.queue.first? = some e := by
    unfold OrderedMap.first?
    rw [hq]
    rfl
  have hr : c.releasable e = true := by
    unfold releasable
    split
    · rfl
    · rw [decide_eq_true hl, Bool.or_true]
  unfold call drainTick
  rw [hf]
  unfold drainReorder
  rw [hh]
  dsimp only
  rw [if_pos hr]
  refine ⟨_, rfl, rfl, ?_, hf⟩
  show c.queue.entries.drop 1 = rest
  rw [hq]
  rfl

theorem close_spaced {tail : List IndexedCall} (ht : Close ((k + n) * 2 ^ 14) tail) :
    Close (k * 2 ^ 14) (spaced (k + 1) n ++ tail) := by
  induction n generalizing k with
  | zero => exact ht
  | succ n ih =>
    rw [spaced_succ, cons_append]
    refine ⟨indexedPacket_seq _, by omega, by omega, ?_⟩
    grind

theorem sent_spaced {p : RoutedRtpPacket × Nat} (h : p ∈ sent (spaced k n)) :
    p.1 = indexedPacket p.2 ∧ p.2 < (k + n) * 2 ^ 14 := by
  unfold sent spaced at h
  rw [filterMap_map] at h
  obtain ⟨j, hj, hp⟩ := mem_filterMap.mp h
  have hlt := (mem_range'_1.mp hj).2
  have hp : (indexedPacket (j * 2 ^ 14), j * 2 ^ 14) = p := Option.some.inj hp
  rw [← hp]
  exact ⟨rfl, by omega⟩

theorem sent_secondRound {p : RoutedRtpPacket × Nat}
    (h : p ∈ sent (indexedPush 0 :: secondRound)) :
    p.1 = indexedPacket p.2 ∧ p.2 < 2 ^ 64 := by
  rcases mem_cons.mp h with rfl | h
  · exact ⟨rfl, by decide⟩
  unfold secondRound at h
  rw [filterMap_append] at h
  rcases mem_append.mp h with h | h
  · have hp := sent_spaced h
    exact ⟨hp.1, by omega⟩
  · rcases mem_singleton.mp h with rfl
    exact ⟨rfl, by decide⟩

theorem round_of_strip {j : Nat} (h : strip (indexedPacket i) = strip (indexedPacket j)) :
    i < 2 ^ 48 ↔ j < 2 ^ 48 := by
  have hp : (if i < 2 ^ 48 then [] else [1] : List UInt8) = if j < 2 ^ 48 then [] else [1] :=
    congrArg RoutedRtpPacket.payload h
  by_cases hi : i < 2 ^ 48 <;> grind

theorem Filled.emits (h : Filled (2 ^ 35 - 256) c) :
    ∃ a b, emitted c [.push (indexedPacket ((2 ^ 35 - 255) * 2 ^ 14 - 8)) 0, .drainTick 0,
        .drainTick 0] = [a, b] ∧
      bare a = strip (indexedPacket ((2 ^ 35 - 255) * 2 ^ 14 - 8)) ∧
      bare b = strip (indexedPacket ((2 ^ 34 - 255) * 2 ^ 14)) := by
  have hq := h.overtake
  have hf : (c.push (indexedPacket ((2 ^ 35 - 255) * 2 ^ 14 - 8)) 0).mixerFed = false :=
    (h.kept.call (.push _ 0)).sound.mixerFed
  have hl := window_tail_length (m := 2 ^ 34) (by decide)
  show ∃ a b, emitted (c.push (indexedPacket ((2 ^ 35 - 255) * 2 ^ 14 - 8)) 0) _ = [a, b] ∧ _
  obtain ⟨a, ha, hba, hn, hk⟩ := drainTick_long hf hq (by
    rw [OrderedMap.size, hq, length_cons, length_cons, hl]
    decide) 0
  obtain ⟨b, hb, hba', -, -⟩ := drainTick_long hk hn (by
    rw [OrderedMap.size, hn, length_cons, hl]
    decide) 0
  rw [emitted_cons, ha, emitted_cons, hb]
  exact ⟨a, b, rfl, hba, hba'⟩

theorem emitted_secondRound :
    ∃ a b, emitted (tracked 1 8000 false) ((indexedPush 0 :: secondRound).map Prod.fst) = [a, b] ∧
      bare a = strip (indexedPacket ((2 ^ 35 - 255) * 2 ^ 14 - 8)) ∧
      bare b = strip (indexedPacket ((2 ^ 34 - 255) * 2 ^ 14)) := by
  have hf := filled_one.spaced (n := 2 ^ 35 - 257) (by decide) (by decide)
  rw [map_cons, emitted_indexedPush, secondRound, map_append, emitted_append,
    emitted_spaced, nil_append]
  exact hf.emits

/-- The indices stay within half the range of the newest one and the times do not go back,
but the packets come out of order. -/
theorem secondRound_out_of_order : Close 0 (indexedPush 0 :: secondRound) ∧
      (∀ p ∈ sent (indexedPush 0 :: secondRound), p.1.ssrc = 1 ∧ p.2 < 2 ^ 64) ∧
      (∀ x ∈ indexedPush 0 :: secondRound, x.1.time = 0) ∧
      ¬InSenderOrder (sent (indexedPush 0 :: secondRound))
        ((emitted (tracked 1 8000 false)
          ((indexedPush 0 :: secondRound).map Prod.fst)).map Prod.snd) := by
  refine ⟨⟨indexedPacket_seq 0, by decide, by decide, ?_⟩, fun p hp => ?_, ?_, ?_⟩
  · refine close_spaced (k := 0) ⟨indexedPacket_seq _, by decide, by decide, trivial⟩
  · obtain ⟨hp, hlt⟩ := sent_secondRound hp
    rw [hp]
    exact ⟨rfl, hlt⟩
  · intro x hx
    rcases mem_cons.mp hx with rfl | hx
    · rfl
    rcases mem_append.mp hx with hx | hx
    · obtain ⟨k, -, rfl⟩ := mem_map.mp hx
      rfl
    · simp only [mem_cons, not_mem_nil, or_false] at hx
      rcases hx with rfl | rfl | rfl <;> rfl
  rintro ⟨indices, hascending, hall⟩
  obtain ⟨a, b, hemitted, ha, hb⟩ := emitted_secondRound
  rw [hemitted] at hall
  cases hall with
  | cons hfirst hrest =>
    cases hrest with
    | cons hsecond hnil =>
      obtain ⟨p, hp, rfl, hstrip⟩ := hfirst
      obtain ⟨q, hq, rfl, hstrip'⟩ := hsecond
      have hlt : p.2 < q.2 := by
        have hpair := (pairwise_cons.mp hascending).1
        exact hpair _ mem_cons_self
      rw [(sent_secondRound hp).1] at hstrip
      rw [(sent_secondRound hq).1] at hstrip'
      have hsecond := round_of_strip (hstrip.trans ha)
      have hfirst := round_of_strip (hstrip'.trans hb)
      omega

end TrackedClock
end RtpBridge.Session.Playout
