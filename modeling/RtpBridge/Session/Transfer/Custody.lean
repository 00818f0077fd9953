/-
Who holds an endpoint while transfers run: the moves of the coordinators and the commands of
a transfer keep every endpoint in one place.
-/
import RtpBridge.Session.Transfer.Coordinator

namespace RtpBridge.Session

open Custody List Option Machine

variable {st st' : SessionState} {c : Command} {bundle : EndpointTransferBundle}

/-! ## The invariant -/

inductive Holder
  | session (sid : SessionId)
  | slot (i : Nat)
deriving DecidableEq

namespace System

def held (s : System) : Holder → EndpointId → Option Endpoint
  | .session sid, id => (s.state sid).bind fun st => st.find id
  | .slot i, id => s.transfers[i]?.bind fun op => op.carried id

def Reserves (s : System) (i : Nat) (p : SessionId × EndpointId) : Prop :=
  ∃ op, s.transfers[i]? = some op ∧ op.Reserves p

def Promised (s : System) (p : SessionId × EndpointId) : Prop :=
  ∃ st, s.state p.1 = some st ∧ p.2 ∈ st.reservedTransfers

def Queued (s : System) (sid : SessionId) (c : Command) : Prop :=
  c = .detach ∨ ∃ i op, c.transfer = some i ∧ s.transfers[i]? = some op ∧ op.Expects sid c

structure Inv (s : System) : Prop where
  sound : ∀ (i : Nat) (op : Transfer), s.transfers[i]? = some op → op.Sound
  queued : ∀ sid, ∀ c ∈ s.queue sid, s.Queued sid c
  ordered : ∀ sid, (s.queue sid).Pairwise Command.Before
  ledger : Ledger s.Reserves s.Promised
  exclusive : Exclusive s.held

variable {s s' : System} {i : Nat} {op op' : Transfer} {sid : SessionId}

theorem transfers_set (ht : s'.transfers = s.transfers.set i op')
    (hop : s.transfers[i]? = some op) (j : Nat) :
    s'.transfers[j]? = if j = i then some op' else s.transfers[j]? := by grind

theorem Inv.sound_set (h : s.Inv) (hop : s.transfers[i]? = some op)
    (ht : s'.transfers = s.transfers.set i op') (hs : op'.Sound) :
    ∀ (j : Nat) (op : Transfer), s'.transfers[j]? = some op → op.Sound := by
  grind [h.sound]

theorem Queued.set (h : s.Queued sid c) (hop : s.transfers[i]? = some op)
    (ht : s'.transfers = s.transfers.set i op')
    (he : c.transfer = some i → op.Expects sid c → op'.Expects sid c) : s'.Queued sid c := by
  rcases h with hd | ⟨j, op'', hc, hj, he'⟩
  · exact .inl hd
  by_cases hji : j = i
  · subst hji
    rw [hop] at hj
    cases hj
    refine .inr ⟨j, op', hc, ?_, he hc he'⟩
    rw [transfers_set ht hop, if_pos rfl]
  · refine .inr ⟨j, op'', hc, ?_, he'⟩
    rw [transfers_set ht hop, if_neg hji, hj]

theorem reserves_set (ht : s'.transfers = s.transfers.set i op')
    (hop : s.transfers[i]? = some op) (j : Nat) (p : SessionId × EndpointId) :
    s'.Reserves j p ↔ if j = i then op'.Reserves p else s.Reserves j p := by
  grind [Reserves]

theorem reserves_self (hop : s.transfers[i]? = some op) (p : SessionId × EndpointId) :
    s.Reserves i p ↔ op.Reserves p := by
  simp [Reserves, hop]

/-! ### A coordinator moves -/

theorem pairwise_of_length_le_one {commands : List Command} (h : commands.length ≤ 1) :
    commands.Pairwise Command.Before := by
  match commands, h with
  | [], _ => exact .nil
  | [c], _ => exact pairwise_singleton _ c

theorem coordinate_views (f : Nat → Transfer → Transfer × List Action)
    (hop : s.transfers[i]? = some op) :
    (s.coordinate i f).transfers = s.transfers.set i (f i op).1 ∧
      (∀ j, (s.coordinate i f).state j = s.state j) ∧
      ∀ j, (s.coordinate i f).queue j =
        s.queue j ++ if (s.state j).isSome then (f i op).2.flatMap (Action.sentTo j) else [] := by
  have hd : s.coordinate i f =
      (f i op).2.foldl perform { s with transfers := s.transfers.set i (f i op).1 } := by
    rw [coordinate, hop]
  rw [hd]
  exact ⟨transfers_performed _ _, state_performed _ _, queue_performed _ _⟩

theorem held_coordinate (s : System) (i : Nat) {f : Nat → Transfer → Transfer × List Action}
    (hf : ∀ i op, Transfer.Coordinated i op (f i op)) : (s.coordinate i f).held = s.held := by
  cases hop : s.transfers[i]? with
  | none => rw [coordinate, hop]
  | some op =>
    obtain ⟨ht, hs, _⟩ := coordinate_views f hop
    have hm : Transfer.Coordinated i op ((f i op).1, (f i op).2) := hf i op
    have hb := hm.same.2.2.2.1
    funext holder id
    cases holder with
    | session sid => simp only [held, hs]
    | slot j => grind [held, Transfer.carried]

theorem Inv.coordinate (h : s.Inv) (i : Nat) {f : Nat → Transfer → Transfer × List Action}
    (hf : ∀ i op, Transfer.Coordinated i op (f i op)) : (s.coordinate i f).Inv := by
  cases hop : s.transfers[i]? with
  | none =>
    have hsame : s.coordinate i f = s := by rw [System.coordinate, hop]
    rw [hsame]
    exact h
  | some op =>
    obtain ⟨ht, hst, hq⟩ := coordinate_views f hop
    have hh := held_coordinate s i hf
    generalize s.coordinate i f = s' at *
    have hm : Transfer.Coordinated i op ((f i op).1, (f i op).2) := hf i op
    generalize (f i op).1 = op' at *
    generalize (f i op).2 = actions at *
    have hs := h.sound i op hop
    obtain ⟨hso, hta, hid, hbu, hr⟩ := hm.same
    have hpa : ∀ sid, ∀ c ∈ s.queue sid, s'.Queued sid c := fun sid c hc =>
      (h.queued sid c hc).set hop ht fun _ he => he.coordinated hm
    have hne : ∀ sid, ∀ c ∈ (if (s.state sid).isSome then
        actions.flatMap (Action.sentTo sid) else []), c ∈ actions.flatMap (Action.sentTo sid) := by
      intro sid c hc
      split at hc
      · exact hc
      · contradiction
    constructor
    · exact h.sound_set hop ht (hs.coordinated hm)
    · intro sid c hc
      rw [hq, mem_append] at hc
      rcases hc with hc | hc
      · exact hpa sid c hc
      obtain ⟨htr, he, _⟩ := hm.sent hs (hne sid c hc)
      refine .inr ⟨i, op', htr, ?_, he⟩
      rw [transfers_set ht hop, if_pos rfl]
    · intro sid
      rw [hq, pairwise_append]
      refine ⟨h.ordered sid, ?_, ?_⟩
      · grind [hm.length_sent, pairwise_of_length_le_one]
      -- a coordinator that sends prepare has nothing in any queue yet
      intro a ha b hb j id hpr
      obtain ⟨hj, hea⟩ := (hm.sent hs (hne sid b hb)).2.2 j id hpr
      have hn : a.transfer ≠ some j := by
        intro htr
        rcases h.queued sid a ha with rfl | ⟨k, opk, hk, ho, he⟩
        · contradiction
        · grind [he.not_early]
      exact ⟨fun id' ha => hn (by rw [ha]; rfl), fun id' ha => hn (by rw [ha]; rfl)⟩
    · have hre : s'.Reserves = s.Reserves := by
        funext j p
        rw [reserves_set ht hop]
        split
        · rename_i hj
          rw [hj, reserves_self hop, Transfer.Reserves, Transfer.Reserves, hso, hid, hr]
        · rfl
      have hp : s'.Promised = s.Promised := by
        funext p
        rw [Promised, hst]
        rfl
      rw [hre, hp]
      exact h.ledger
    · exact hh ▸ h.exclusive

/-! ### A session handles a command -/

theorem process_cases (s : System) (sid : SessionId) :
    s.process sid = s ∨ ∃ t c commands, s.task sid = some t ∧
      t.commands.queue = c :: commands.queue ∧
      s.process sid = s.handleCommand sid { t with commands } c := by
  grind [process, Channel.queue_of_recv]

structure Handled (s s' : System) (sid : SessionId) (c : Command) (st st' : SessionState)
    (i : Nat) (op op' : Transfer) : Prop where
  found : s.transfers[i]? = some op
  before : s.state sid = some st
  state : ∀ j, s'.state j = if j = sid then some st' else s.state j
  transfers : s'.transfers = s.transfers.set i op'
  queue : ∃ rest, s.queue sid = c :: rest ∧ ∀ j, s'.queue j = if j = sid then rest else s.queue j

namespace Handled

variable {c : Command} {st st' : SessionState} {id : EndpointId} {ep : Endpoint}

theorem of_handleCommand {t : Task} {commands : Channel Command} (ht : s.task sid = some t)
    (hq : t.commands.queue = c :: commands.queue) (hop : s.transfers[i]? = some op)
    (st' : SessionState) (op' : Transfer) :
    Handled s ((s.setTask sid { state := st', commands }).setTransfer i op') sid c t.state st'
      i op op' where
  found := hop
  before := state_of_task ht
  state := state_setTask s sid _
  transfers := rfl
  queue := ⟨commands.queue, by rw [queue_of_task ht, hq], queue_setTask s sid _⟩

section

variable (hh : Handled s s' sid c st st' i op op')
include hh

theorem expects (h : s.Inv)
    (hc : c.transfer = some i) : op.Expects sid c := by
  obtain ⟨rest, hq, _⟩ := hh.queue
  rcases h.queued sid c (by rw [hq]; exact mem_cons_self) with rfl | ⟨j, op'', hj, hop, he⟩
  · contradiction
  rw [hc] at hj
  cases hj
  rw [hh.found] at hop
  cases hop
  exact he

theorem mem_queue {j : SessionId} {d : Command}
    (hd : d ∈ s'.queue j) : d ∈ s.queue j := by grind [hh.queue]

/-- No second prepare of a transfer waits behind its first, nor behind its end. -/
theorem no_prepare (h : s.Inv)
    (hc : (∃ id, c = .prepareTransfer i id) ∨ ∃ id, c = .finishTransfer i id)
    (hso : op.source = sid) {j : SessionId} (hd : .prepareTransfer i id ∈ s'.queue j) :
    ¬ op.Expects j (.prepareTransfer i id) := by
  intro he
  obtain rfl : j = sid := he.1.symm.trans hso
  obtain ⟨rest, hq, hq'⟩ := hh.queue
  rw [hq', if_pos rfl] at hd
  have ho := h.ordered j
  rw [hq] at ho
  have hb := (pairwise_cons.mp ho).1 _ hd i id rfl
  grind

theorem inv (h : s.Inv) (hs : op'.Sound)
    (hk : op'.source = op.source ∧ op'.target = op.target ∧ op'.endpointId = op.endpointId ∧
      op'.phase = op.phase)
    (hp : ∀ j id, .prepareTransfer i id ∈ s'.queue j → op.Expects j (.prepareTransfer i id) →
      op'.Expects j (.prepareTransfer i id))
    (hl : Ledger s'.Reserves s'.Promised) (hhe : HandOver s.held s'.held) : s'.Inv where
  sound := h.sound_set hh.found hh.transfers hs
  queued j d hd := by
    refine (h.queued j d (hh.mem_queue hd)).set hh.found hh.transfers fun htr he => ?_
    cases d with
    | prepareTransfer k id =>
      cases htr
      exact hp j id hd he
    | commitTransfer _ | finishTransfer _ _ => simpa only [Transfer.Expects, hk] using he
    | _ => contradiction
  ordered j := by
    obtain ⟨rest, hq, hq'⟩ := hh.queue
    rw [hq']
    split
    · have ho := h.ordered sid
      rw [hq] at ho
      exact (pairwise_cons.mp ho).2
    · exact h.ordered j
  ledger := hl
  exclusive := hhe.exclusive h.exclusive

theorem promised (p : SessionId × EndpointId) :
    s'.Promised p ↔ if p.1 = sid then p.2 ∈ st'.reservedTransfers else s.Promised p := by
  unfold Promised
  rw [hh.state]
  split
  · simp
  · rfl

theorem promised_before (id : EndpointId) : s.Promised (sid, id) ↔ id ∈ st.reservedTransfers := by
  unfold Promised
  rw [hh.before]
  simp

theorem ledger_same (h : s.Inv)
    (hr : st'.reservedTransfers = st.reservedTransfers)
    (hop : ∀ p, op'.Reserves p ↔ op.Reserves p) : Ledger s'.Reserves s'.Promised := by
  have hre : s'.Reserves = s.Reserves := by
    funext j p
    rw [reserves_set hh.transfers hh.found]
    split
    · rename_i hj
      rw [hj, reserves_self hh.found, hop]
    · rfl
  have hp : s'.Promised = s.Promised := by
    funext p
    rw [hh.promised]
    split
    · grind [hh.promised_before]
    · rfl
  rw [hre, hp]
  exact h.ledger

theorem held_eq (holder : Holder) (k : EndpointId) :
    s'.held holder k = if holder = .session sid then st'.find k
      else if holder = .slot i then op'.carried k else s.held holder k := by
  cases holder with
  | session j => grind [held, hh.state]
  | slot j => grind [held, hh.transfers, hh.found]

theorem held_before (id : EndpointId) : s.held (.session sid) id = st.find id := by
  simp only [held, hh.before, bind_some]

theorem carried_before (id : EndpointId) : s.held (.slot i) id = op.carried id := by
  simp only [held, hh.found, bind_some]

theorem held_same (hst : ∀ k, st'.find k = st.find k)
    (hop : op'.slot.bundle = op.slot.bundle) : HandOver s.held s'.held := by
  have hhe : s'.held = s.held := by
    funext holder k
    grind [hh.held_eq, hh.held_before, hh.carried_before, Transfer.carried]
  rw [hhe]
  exact .same

theorem held_extracted (hep : st.find id = some ep)
    (hst : ∀ k, st'.find k = if k = id then none else st.find k)
    (he : op.slot.bundle = none)
    (hc : ∀ k, op'.carried k = if ep.id = k then some ep else none) :
    HandOver s.held s'.held := by
  have hid := SessionState.id_of_find hep
  have hm : s'.held = move s.held (.session sid) (.slot i) id := by
    funext holder k
    grind [move, hh.held_eq, hh.held_before, hh.carried_before, Transfer.carried_of_none]
  rw [hm]
  exact .moved _ _ id ep (by rw [hh.held_before, hep])

theorem held_inserted (hb : op.slot.bundle = some bundle)
    (hst : ∀ k, st'.find k = if k = bundle.endpoint.id then some bundle.endpoint else st.find k)
    (he : op'.slot.bundle = none) : HandOver s.held s'.held := by
  have hc := Transfer.carried_of_some hb
  have hm : s'.held = move s.held (.slot i) (.session sid) bundle.endpoint.id := by
    funext holder k
    grind [move, hh.held_eq, hh.held_before, hh.carried_before, Transfer.carried_of_none]
  rw [hm]
  exact .moved _ _ _ bundle.endpoint (by rw [hh.carried_before, hc, if_pos rfl])

end

/-! Each of the three commands hands over at most one endpoint. -/

variable {slot : TransferState} {r : Except String Unit} {restored : Bool}

theorem handOver_prepare (hh : Handled s s' sid (.prepareTransfer i id) st st' i op op')
    (h : s.Inv) (hou : st.Prepared op.slot id (st', slot, r)) (hsl : op'.slot = slot) :
    HandOver s.held s'.held := by
  have hr := (hh.expects h rfl).2.2.2.1
  cases hou with
  | refused e => exact hh.held_same (fun _ => rfl) (by rw [hsl])
  | extracted ep ho hfr hfi =>
    have he : op.slot.bundle = none := by
      cases hb : op.slot.bundle with
      | none => rfl
      | some bundle =>
        rw [((h.sound i op hh.found).bundle bundle hb).2.1] at hr
        contradiction
    grind [hh.held_extracted, SessionState.find_erase, SessionState.find_reserve, Transfer.carried]

theorem handOver_commit (hh : Handled s s' sid c st st' i op op')
    (hou : st.Committed op.slot (st', slot, r)) (hsl : op'.slot = slot) :
    HandOver s.held s'.held := by
  cases hou with
  | refused e => exact hh.held_same (fun _ => rfl) (by rw [hsl])
  | inserted bundle ho hb hn =>
    exact hh.held_inserted hb (st.find_put bundle.endpoint) (by rw [hsl])

theorem handOver_finish (hh : Handled s s' sid c st st' i op op')
    (hou : st.Finished op.slot id (st', slot, restored)) (hsl : op'.slot = slot) :
    HandOver s.held s'.held := by
  cases hou with
  | unreserved hr => exact hh.held_same (fun _ => rfl) (by rw [hsl])
  | closed hr he => exact hh.held_same (fun _ => rfl) (by rw [hsl])
  | restored bundle hr ho hb hn =>
    exact hh.held_inserted hb (st.find_put bundle.endpoint) (by rw [hsl])

/-! And each keeps the invariant. -/

theorem inv_prepare (hh : Handled s s' sid (.prepareTransfer i id) st st' i op op') (h : s.Inv)
    {reply : Reply (Except String Unit)} (hou : st.Prepared op.slot id (st', slot, r))
    (hop' : op' = { op with slot, prepared := reply }) : s'.Inv := by
  obtain ⟨hso, hid, hp, hr, hc, hf⟩ := hh.expects h rfl
  subst hid
  have hs := (h.sound i op hh.found).prepared hp hc hf hou reply
  rw [← hop'] at hs
  refine hh.inv h hs (hop' ▸ ⟨rfl, rfl, rfl, rfl⟩)
    (fun _ _ hd he => absurd he (hh.no_prepare h (.inl ⟨_, rfl⟩) hso hd)) ?_
    (hh.handOver_prepare h hou (by rw [hop']))
  cases hou with
  | refused e =>
    refine hh.ledger_same h rfl fun p => ?_
    rw [hop']
    rfl
  | extracted ep ho hfr hfi =>
    have hne : ¬ s.Promised (sid, op.endpointId) := by
      rw [hh.promised_before]
      exact hfr
    refine h.ledger.add (i := i) hne ?_ ?_
    · intro j p
      rw [reserves_set hh.transfers hh.found]
      by_cases hj : j = i
      · rw [hj, reserves_self hh.found, hop', Transfer.Reserves, Transfer.Reserves, hr, hso]
        simp [eq_comm]
      · simp [hj]
    rintro ⟨sid', id'⟩
    rw [hh.promised]
    by_cases hsi : sid' = sid
    · subst hsi
      rw [hh.promised_before]
      simp [SessionState.reserve, or_comm]
    · simp [hsi]

theorem inv_commit (hh : Handled s s' sid (.commitTransfer i) st st' i op op') (h : s.Inv)
    {reply : Reply (Except String Unit)} (hou : st.Committed op.slot (st', slot, r))
    (hop' : op' = { op with slot, commitment := reply, inserted := op.inserted || r.isOk }) :
    s'.Inv := by
  obtain ⟨hta, hp⟩ := hh.expects h rfl
  have hs := (h.sound i op hh.found).committed hp hou reply
  rw [← hop'] at hs
  have hhe := hh.handOver_commit hou (by rw [hop'])
  refine hh.inv h hs (hop' ▸ ⟨rfl, rfl, rfl, rfl⟩) ?_ ?_ hhe
  · intro j id' _ he
    cases hou with
    | refused e =>
      rw [hop']
      exact he
    | inserted bundle ho hb hn =>
      -- the endpoint is in the slot, so prepare has been handled
      have hr := ((h.sound i op hh.found).bundle bundle hb).2.1
      rw [he.2.2.2.1] at hr
      contradiction
  · cases hou <;> exact hh.ledger_same h rfl fun p => by rw [hop']; rfl

theorem inv_finish (hh : Handled s s' sid (.finishTransfer i id) st st' i op op') (h : s.Inv)
    (hou : st.Finished op.slot id (st', slot, restored))
    (hop' : op' = { op with slot, restored := op.restored || restored, finished := true }) :
    s'.Inv := by
  obtain ⟨hso, hid, hp⟩ := hh.expects h rfl
  subst hid
  have hs := (h.sound i op hh.found).finish hp hou
  rw [← hop'] at hs
  -- the reservation ends with the transfer that made it
  have hl : op.slot.reserved = true → slot.reserved = false →
      st'.reservedTransfers = st.reservedTransfers.erase op.endpointId →
      Ledger s'.Reserves s'.Promised := by
    intro hr hc hst
    refine h.ledger.discharge (i := i) (p := (sid, op.endpointId))
      ((reserves_self hh.found _).mpr ⟨by rw [hso], hr⟩) ?_ ?_
    · intro j p
      rw [reserves_set hh.transfers hh.found]
      by_cases hj : j = i
      · rw [hj, reserves_self hh.found, Transfer.Reserves, Transfer.Reserves]
        grind
      · simp [hj]
    rintro ⟨sid', id'⟩
    rw [hh.promised]
    by_cases hsi : sid' = sid
    · subst hsi
      rw [hh.promised_before, hst, and_comm]
      simp
    · simp [hsi]
  refine hh.inv h hs (hop' ▸ ⟨rfl, rfl, rfl, rfl⟩)
    (fun _ _ hd he => absurd he (hh.no_prepare h (.inr ⟨_, rfl⟩) hso hd)) ?_
    (hh.handOver_finish hou (by rw [hop']))
  cases hou with
  | unreserved hr =>
    refine hh.ledger_same h rfl fun p => ?_
    rw [hop']
    rfl
  | closed hr hem => exact hl hr rfl rfl
  | restored bundle hr ho hb hn => exact hl hr rfl rfl

end Handled

end System
end RtpBridge.Session
