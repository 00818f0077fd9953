/-
Packets leave the playout buffer of a network source in order, each at most once.
-/
import RtpBridge.Session.Playout.Tracked

namespace RtpBridge.Session.Playout

open Machine List Option

variable {queue : OrderedMap RoutedRtpPacket} {key last : Option Nat} {cap : Nat} {out : List Entry}
  {pkt : RoutedRtpPacket} {start : TrackedClock} {pushed : List RoutedRtpPacket} {ssrc : UInt32}

inductive Call where
  | push (pkt : RoutedRtpPacket) (arrival : Int)
  | drainTick (gridNow : Int)
deriving DecidableEq

variable {calls : List Call}

namespace TrackedClock

variable {c c' : TrackedClock}

def call (c : TrackedClock) : Call → TrackedClock × Option Entry
  | .push pkt arrival => (c.push pkt arrival, none)
  | .drainTick gridNow =>
    let (c, out) := c.drainTick gridNow
    (c, out.map fun pkt => (c.lastEmittedExt.getD 0, pkt))

/-! ## One drain -/

inductive Drained (c c' : TrackedClock) : Option RoutedRtpPacket → Prop
  | none (skipped : List Entry) (hs : c.queue.entries = skipped ++ c'.queue.entries)
      (hl : c'.lastEmittedExt = (skipped.getLast?.map Prod.fst).or c.lastEmittedExt) :
      Drained c c' none
  | some (skipped : List Entry) (e : Entry) (pkt : RoutedRtpPacket)
      (hs : c.queue.entries = skipped ++ e :: c'.queue.entries)
      (hl : c'.lastEmittedExt = some e.1) (hp : strip pkt = strip e.2) :
      Drained c c' (some pkt)

theorem drained_takeHead {head : Entry} (h : c.queue.first? = some head) :
    Drained c (c.takeHead head).1 (some (c.takeHead head).2) :=
  .some [] head _ (entries_of_first? h) rfl rfl

theorem drainPaced_drained (c : TrackedClock) (gridNow : Int) :
    Drained c (c.drainPaced gridNow).1 (c.drainPaced gridNow).2 := by
  unfold drainPaced
  split
  · exact .none [] rfl rfl
  rename_i anchor ha
  have hs : c.queue.entries = c.queue.entries.takeWhile (c.isStale anchor gridNow) ++
      (c.skipStale anchor gridNow).queue.entries := takeWhile_append_dropWhile.symm
  dsimp only
  split
  · refine .none (c.queue.entries.takeWhile (c.isStale anchor gridNow)) ?_ ?_
    · rw [queue_underflow]
      exact hs
    · exact lastEmittedExt_underflow _
  rename_i head hh
  split
  · exact .none _ hs rfl
  refine .some (c.queue.entries.takeWhile (c.isStale anchor gridNow)) head _ ?_ rfl rfl
  rw [entries_of_first? hh] at hs
  exact hs

theorem drainReorder_drained (c : TrackedClock) : Drained c c.drainReorder.1 c.drainReorder.2 := by
  unfold drainReorder
  split
  · exact .none [] rfl rfl
  rename_i head hh
  split
  · exact drained_takeHead hh
  · exact .none [] rfl rfl

theorem drainTick_drained (c : TrackedClock) (gridNow : Int) :
    Drained c (c.drainTick gridNow).1 (c.drainTick gridNow).2 := by
  grind [drainTick, c.drainPaced_drained, c.drainReorder_drained]

/-! ## One arrival -/

inductive Arrived (queue : OrderedMap RoutedRtpPacket) (last : Option Nat) (cap : Nat)
    (pkt : RoutedRtpPacket) (key : Option Nat) (c' : TrackedClock) : Prop
  | late (hq : c'.queue = queue) (hl : c'.lastEmittedExt = last)
      (hla : ∀ ext ∈ key, ∃ l ∈ last, ext ≤ l) :
      Arrived queue last cap pkt key c'
  | joined (ext : Nat) (hk : key = some ext) (hn : ∀ l ∈ last, l < ext)
      (hq : c'.queue = (queue.insert ext pkt).drop ((queue.insert ext pkt).size - cap))
      (hl : c'.lastEmittedExt = (((queue.insert ext pkt).entries.take
          ((queue.insert ext pkt).size - cap)).getLast?.map Prod.fst).or last) :
      Arrived queue last cap pkt key c'

theorem queue_endSpurt (c : TrackedClock) (arrival : Int) : (c.endSpurt arrival).queue = c.queue ∧
      (c.endSpurt arrival).lastEmittedExt = c.lastEmittedExt ∧
      (c.endSpurt arrival).maxFrames = c.maxFrames := by
  unfold endSpurt
  split <;> exact ⟨rfl, rfl, rfl⟩

theorem push_arrived (c : TrackedClock) (pkt : RoutedRtpPacket) (arrival : Int) :
    Arrived (c.adopt pkt.ssrc).queue (c.adopt pkt.ssrc).lastEmittedExt
      (c.adopt pkt.ssrc).maxFrames pkt
      ((c.meet pkt arrival).extendSeq pkt.sequenceNumber).2 (c.push pkt arrival) := by
  obtain ⟨hq, hla, hf⟩ := (c.adopt pkt.ssrc).queue_endSpurt arrival
  -- extending the sequence number touches neither the queue nor the last packet
  unfold push
  rw [extendSeq_of_eq (c := c.meet pkt arrival) (d := c.meet pkt arrival) rfl rfl rfl]
  cases ((c.meet pkt arrival).extendSeq pkt.sequenceNumber).2 with
  | none => exact .late hq hla fun _ he => (not_mem_none _ he).elim
  | some ext =>
    dsimp only
    rw [show (c.meet pkt arrival).lastEmittedExt = (c.adopt pkt.ssrc).lastEmittedExt from hla]
    split
    · rename_i hlt
      refine .late hq rfl fun x hx => ?_
      obtain ⟨l, hl, hle⟩ := any_eq_true _ _ |>.mp hlt
      cases hx
      exact ⟨l, hl, of_decide_eq_true hle⟩
    rename_i hn
    rw [← hq, ← hf]
    refine .joined ext rfl (fun l hl => ?_) rfl ?_
    · rw [hl, any_some, decide_eq_true_eq] at hn
      omega
    · rfl

theorem adopt_cases (c : TrackedClock) (ssrc : UInt32) :
    (c.adopt ssrc).queue = c.queue ∧ (c.adopt ssrc).lastEmittedExt = c.lastEmittedExt ∨
      (c.adopt ssrc).queue = ∅ ∧ (c.adopt ssrc).lastEmittedExt = none := by
  unfold adopt
  split
  · split
    · exact .inl ⟨rfl, rfl⟩
    · exact .inr ⟨rfl, rfl⟩
  · exact .inl ⟨rfl, rfl⟩

/-! ## What holds after every call -/

structure Within (queue : OrderedMap RoutedRtpPacket) (last : Option Nat) (cap : Nat) : Prop where
  above : ∀ l ∈ last, ∀ e ∈ queue.entries, l < e.1
  size : queue.size ≤ cap

theorem Within.empty (cap : Nat) : Within ∅ none cap :=
  ⟨fun _ hl => (not_mem_none _ hl).elim, Nat.zero_le cap⟩

theorem Within.suffix {queue' : OrderedMap RoutedRtpPacket}
    (h : ∀ l ∈ last, ∀ e ∈ queue.entries, l < e.1) {gone : List Entry}
    (hs : queue.entries = gone ++ queue'.entries) (hsi : queue'.size ≤ cap) :
    Within queue' ((gone.getLast?.map Prod.fst).or last) cap := by
  refine ⟨fun l hl e he => ?_, hsi⟩
  have ha := queue.ascending
  rw [hs] at ha
  rcases or_eq_some_iff.mp hl with hgo | ⟨-, hold⟩
  · obtain ⟨g, hg, rfl⟩ := map_eq_some_iff.mp hgo
    exact (pairwise_append.mp ha).2.2 g (mem_of_getLast? hg) e he
  apply h l hold
  rw [hs]
  exact mem_append_right _ he

theorem Within.drained (h : Within c.queue c.lastEmittedExt cap) {out : Option RoutedRtpPacket}
    (hd : Drained c c' out) : Within c'.queue c'.lastEmittedExt cap := by
  have hsi := h.size
  unfold OrderedMap.size at hsi
  cases hd with
  | none skipped hs hl =>
    rw [hl]
    refine Within.suffix h.above hs ?_
    rw [hs, length_append] at hsi
    unfold OrderedMap.size
    omega
  | some skipped e pkt hs hl hp =>
    have hs : c.queue.entries = (skipped ++ [e]) ++ c'.queue.entries := by
      rw [hs, append_assoc]
      rfl
    have hsu : Within c'.queue (((skipped ++ [e]).getLast?.map Prod.fst).or
        c.lastEmittedExt) cap := by
      refine Within.suffix h.above hs ?_
      rw [hs, length_append] at hsi
      unfold OrderedMap.size
      omega
    rw [List.getLast?_append] at hsu
    rw [hl]
    exact hsu

theorem Within.arrived (h : Within queue last cap) (ha : Arrived queue last cap pkt key c') :
    Within c'.queue c'.lastEmittedExt cap := by
  cases ha with
  | late hq hla hlt =>
    rw [hq, hla]
    exact h
  | joined ext hk hn hq hla =>
    rw [hla]
    have hab : ∀ l ∈ last, ∀ e ∈ (queue.insert ext pkt).entries, l < e.1 := by
      intro l hl e he
      rcases OrderedMap.mem_insertEntry he with rfl | hold
      · exact hn l hl
      · exact h.above l hl e hold
    rw [hq]
    refine Within.suffix hab (take_append_drop _ _).symm ?_
    show ((queue.insert ext pkt).entries.drop _).length ≤ cap
    rw [length_drop]
    unfold OrderedMap.size
    omega

structure Kept (start c : TrackedClock) : Prop where
  sound : Sound start c
  within : Within c.queue c.lastEmittedExt start.maxFrames

theorem Kept.call (h : Kept start c) (x : Call) : Kept start (c.call x).1 := by
  cases x with
  | push pkt arrival =>
    refine ⟨h.sound.push pkt arrival, ?_⟩
    have ha := c.push_arrived pkt arrival
    rw [(h.sound.adopt pkt.ssrc).maxFrames] at ha
    refine Within.arrived ?_ ha
    rcases c.adopt_cases pkt.ssrc with ⟨hq, hl⟩ | ⟨hq, hl⟩
    · rw [hq, hl]
      exact h.within
    · rw [hq, hl]
      exact Within.empty _
  | drainTick gridNow =>
    obtain ⟨⟨popped, hp⟩, -⟩ := c.drainTick_popped gridNow
    exact ⟨h.sound.popped hp, h.within.drained (c.drainTick_drained gridNow)⟩

theorem kept_run (sourceId : EndpointId) (clockRate : UInt32) (mixerFed : Bool)
    (calls : List Call) :
    Kept (tracked sourceId clockRate mixerFed)
      (exec call (tracked sourceId clockRate mixerFed) calls) := by
  apply exec_induction
  · exact ⟨sound_run sourceId clockRate mixerFed [], Within.empty _⟩
  · exact fun c x h => h.call x

/-! ## Every packet handed out was pushed -/

def pushes (calls : List Call) : List RoutedRtpPacket :=
  calls.filterMap fun
    | .push pkt _ => some pkt
    | .drainTick _ => none

def outputs (tr : List (Call × Option Entry)) : List Entry := tr.filterMap Prod.snd

theorem outputs_append (tr after : List (Call × Option Entry)) :
    outputs (tr ++ after) = outputs tr ++ outputs after := filterMap_append

theorem outputs_singleton (x : Call) (out : Option Entry) : outputs [(x, out)] = out.toList := by
  cases out with
  | none => rfl
  | some e => rfl

theorem pushes_append (calls after : List Call) :
    pushes (calls ++ after) = pushes calls ++ pushes after := filterMap_append

def emitted (c : TrackedClock) (calls : List Call) : List Entry := outputs (trace call c calls)

theorem emitted_cons (c : TrackedClock) (x : Call) (rest : List Call) :
    emitted c (x :: rest) = (c.call x).2.toList ++ emitted (c.call x).1 rest := by
  unfold emitted
  rw [trace_cons, ← singleton_append, outputs_append, outputs_singleton]

def bare (e : Entry) : RoutedRtpPacket := strip e.2

/-- What was handed out and what waits was pushed, no packet more often than it was. -/
def Accounted (pushed : List RoutedRtpPacket) (out : List Entry) (queue : List Entry) : Prop :=
  (out.map bare ++ queue.map bare).Subperm (pushed.map strip)

theorem Accounted.fewer {queue queue' : List Entry} (h : Accounted pushed out queue)
    (hf : queue'.Subperm queue) : Accounted pushed out queue' := by
  obtain ⟨part, hp, hpa⟩ := hf
  have hm : (queue'.map bare).Subperm (queue.map bare) :=
    ⟨part.map bare, hp.map bare, hpa.map bare⟩
  exact ((subperm_append_left _).mpr hm).trans h

theorem Accounted.push {queue : List Entry} (h : Accounted pushed out queue) (ext : Nat)
    (pkt : RoutedRtpPacket) : Accounted (pushed ++ [pkt]) out ((ext, pkt) :: queue) := by
  unfold Accounted
  rw [map_append]
  have hp : (out.map bare ++ queue.map bare ++ [strip pkt]).Subperm
      (pushed.map strip ++ [strip pkt]) := (subperm_append_right _).mpr h
  refine List.Subperm.trans (List.Perm.subperm ?_) hp
  rw [append_assoc]
  exact perm_middle.trans (perm_append_singleton _ _).symm |>.trans
    (List.Perm.of_eq (append_assoc _ _ _))

theorem Accounted.late {queue : List Entry} (h : Accounted pushed out queue)
    (pkt : RoutedRtpPacket) : Accounted (pushed ++ [pkt]) out queue :=
  (h.push 0 pkt).fewer (sublist_cons_self _ _).subperm

theorem Accounted.arrived (h : Accounted pushed out queue.entries)
    (ha : Arrived queue last cap pkt key c') :
    Accounted (pushed ++ [pkt]) out c'.queue.entries := by
  cases ha with
  | late hq hl hla =>
    rw [hq]
    exact h.late pkt
  | joined ext hk hn hq hl =>
    rw [hq]
    refine (h.push ext pkt).fewer (List.Subperm.trans ?_
      (OrderedMap.insertEntry_subperm ext pkt queue.entries))
    exact (drop_sublist _ _).subperm

theorem Accounted.drained (h : Accounted pushed out c.queue.entries) {pkt : Option RoutedRtpPacket}
    (hd : Drained c c' pkt) :
    Accounted pushed (out ++ (pkt.map fun p => (c'.lastEmittedExt.getD 0, p)).toList)
      c'.queue.entries := by
  cases hd with
  | none skipped hs hl =>
    rw [hs] at h
    rw [map_none, toList_none, append_nil]
    exact h.fewer (sublist_append_right _ _).subperm
  | some skipped e p hs hl hp =>
    rw [hs] at h
    have hk := h.fewer (sublist_append_right skipped (e :: c'.queue.entries)).subperm
    unfold Accounted at hk ⊢
    rw [map_some, toList_some, map_append, append_assoc]
    rw [map_singleton, show bare (c'.lastEmittedExt.getD 0, p) = bare e from hp]
    exact hk

theorem accounted_run (sourceId : EndpointId) (clockRate : UInt32) (mixerFed : Bool)
    (calls : List Call) :
    Accounted (pushes calls) (emitted (tracked sourceId clockRate mixerFed) calls)
      (exec call (tracked sourceId clockRate mixerFed) calls).queue.entries := by
  have hi := @trace_inputs _ _ _ call (tracked sourceId clockRate mixerFed) calls
  nth_rewrite 1 [← hi]
  refine history_induction (P := fun tr (c : TrackedClock) =>
    Accounted (pushes (tr.map Prod.fst)) (outputs tr) c.queue.entries) ?_ ?_ calls
  · exact nil_subperm
  intro tr c x h
  rw [map_append, pushes_append, outputs_append]
  cases x with
  | push pkt arrival =>
    have hb : Accounted (pushes (tr.map Prod.fst)) (outputs tr)
        (c.adopt pkt.ssrc).queue.entries := by
      rcases c.adopt_cases pkt.ssrc with ⟨hq, -⟩ | ⟨hq, -⟩
      · rw [hq]
        exact h
      · rw [hq]
        exact h.fewer nil_subperm
    have ha := hb.arrived (c.push_arrived pkt arrival)
    rw [← append_nil (outputs tr)] at ha
    exact ha
  | drainTick gridNow =>
    have ha := h.drained (c.drainTick_drained gridNow)
    rw [← append_nil (pushes (tr.map Prod.fst))] at ha
    exact ha

/-! ## Between two changes of the SSRC -/

def Advances (last last' : Option Nat) : Prop := ∀ l ∈ last, ∃ l' ∈ last', l ≤ l'

theorem advances_or {gone : List Entry} (h : ∀ l ∈ last, ∀ e ∈ gone, l < e.1) :
    Advances last ((gone.getLast?.map Prod.fst).or last) := by
  intro l hl
  cases hgo : gone.getLast? with
  | none => exact ⟨l, hl, le_refl l⟩
  | some e => exact ⟨e.1, rfl, (h l hl e (mem_of_getLast? hgo)).le⟩

theorem Within.drained_advances (h : Within c.queue c.lastEmittedExt cap)
    {out : Option RoutedRtpPacket} (hd : Drained c c' out) :
    Advances c.lastEmittedExt c'.lastEmittedExt := by
  cases hd with
  | none skipped hs hla =>
    rw [hla]
    refine advances_or fun l hl e he => h.above l hl e ?_
    rw [hs]
    exact mem_append_left _ he
  | some skipped e pkt hs hla hp =>
    intro l hl
    refine ⟨e.1, hla, (h.above l hl e ?_).le⟩
    rw [hs]
    exact mem_append_right _ mem_cons_self

theorem Within.arrived_advances (h : Within queue last cap)
    (ha : Arrived queue last cap pkt key c') : Advances last c'.lastEmittedExt := by
  cases ha with
  | late hq hla hlt =>
    rw [hla]
    exact fun l hl => ⟨l, hl, le_refl l⟩
  | joined ext hk hn hq hla =>
    rw [hla]
    refine advances_or fun l hl e he => ?_
    rcases OrderedMap.mem_insertEntry (mem_of_mem_take he) with rfl | hold
    · exact hn l hl
    · exact h.above l hl e hold

theorem ssrc_push (c : TrackedClock) (pkt : RoutedRtpPacket) (arrival : Int) :
    (c.push pkt arrival).ssrc = some pkt.ssrc := by
  have ha : (c.adopt pkt.ssrc).ssrc = some pkt.ssrc := by
    unfold adopt
    split
    · split
      · rename_i cur hc heq
        rw [hc, heq]
      · rfl
    · rfl
  have hm : (c.meet pkt arrival).ssrc = some pkt.ssrc := by
    unfold meet endSpurt
    split <;> exact ha
  unfold push
  rw [extendSeq_of_eq (c := c.meet pkt arrival) (d := c.meet pkt arrival) rfl rfl rfl]
  cases ((c.meet pkt arrival).extendSeq pkt.sequenceNumber).2 with
  | none => exact hm
  | some ext =>
    dsimp only
    split <;> exact hm

/-- Every packet that arrives is of this SSRC, and so is the buffer once it has one. -/
structure OneSsrc (ssrc : UInt32) (c : TrackedClock) (calls : List Call) : Prop where
  buffer : ∀ cur ∈ c.ssrc, cur = ssrc
  pushed : ∀ pkt ∈ pushes calls, pkt.ssrc = ssrc

theorem OneSsrc.tail {x : Call} (h : OneSsrc ssrc c (x :: calls)) :
    OneSsrc ssrc (c.call x).1 calls := by
  cases x with
  | push pkt arrival =>
    refine ⟨fun cur hc => ?_, fun p hp => h.pushed p (mem_cons_of_mem _ hp)⟩
    rw [show (c.call (.push pkt arrival)).1.ssrc = _ from c.ssrc_push pkt arrival] at hc
    cases hc
    exact h.pushed pkt mem_cons_self
  | drainTick gridNow =>
    obtain ⟨⟨popped, hpo⟩, -⟩ := c.drainTick_popped gridNow
    refine ⟨fun cur hc => h.buffer cur ?_, h.pushed⟩
    rw [← hpo.steady.ssrc]
    exact hc

theorem Kept.call_output (h : Kept start c) {x : Call} (hs : OneSsrc ssrc c (x :: calls)) :
    Advances c.lastEmittedExt (c.call x).1.lastEmittedExt ∧
      ∀ e ∈ (c.call x).2, (c.call x).1.lastEmittedExt = some e.1 ∧
        ∀ l ∈ c.lastEmittedExt, l < e.1 := by
  cases x with
  | push pkt arrival =>
    refine ⟨?_, fun e he => (not_mem_none e he).elim⟩
    have hsame : ∀ cur ∈ c.ssrc, cur = pkt.ssrc := fun cur hc =>
      (hs.buffer cur hc).trans (hs.pushed pkt mem_cons_self).symm
    have ha := c.push_arrived pkt arrival
    rw [adopt_of_same hsame] at ha
    have hw := h.within
    rw [← h.sound.maxFrames] at hw
    exact hw.arrived_advances ha
  | drainTick gridNow =>
    have hd := c.drainTick_drained gridNow
    refine ⟨h.within.drained_advances hd, ?_⟩
    unfold TrackedClock.call
    dsimp only
    generalize c.drainTick gridNow = r at hd
    obtain ⟨c', out⟩ := r
    cases hd with
    | none skipped hsp hl => exact fun e he => (not_mem_none e he).elim
    | some skipped e pkt hsp hl hp =>
      grind [h.within.above]

theorem Kept.increasing (h : Kept start c) (hs : OneSsrc ssrc c calls) :
    (emitted c calls).Pairwise (fun a b => a.1 < b.1) ∧
      ∀ e ∈ emitted c calls, ∀ l ∈ c.lastEmittedExt, l < e.1 := by
  -- everything the rest of the run hands out is above the last packet of the state it starts in
  induction calls generalizing c with
  | nil => exact ⟨List.Pairwise.nil, fun e he => absurd he not_mem_nil⟩
  | cons x rest ih =>
    obtain ⟨had, ho⟩ := h.call_output hs
    obtain ⟨hr, hab⟩ := ih (h.call x) hs.tail
    have hold : ∀ e ∈ emitted (c.call x).1 rest, ∀ l ∈ c.lastEmittedExt, l < e.1 := by
      intro e he l hl
      obtain ⟨l', hl', hle⟩ := had l hl
      exact lt_of_le_of_lt hle (hab e he l' hl')
    rw [emitted_cons]
    refine ⟨pairwise_append.mpr ⟨?_, hr, fun a ha b hb => ?_⟩, fun e he l hl => ?_⟩
    · grind
    · exact hab b hb a.1 (ho a (mem_toList.mp ha)).1
    grind

end TrackedClock
end RtpBridge.Session.Playout
