/-
Bridge endpoints come and go in pairs.
-/
import RtpBridge.Session.Pairing.Runs
import RtpBridge.Session.Transfer.HandOver

namespace RtpBridge.Session

open List Option AList Machine

variable {op : Transfer} {j : Nat}

/-! ## Bridge endpoints of the sessions -/

def Endpoint.asBridge : Endpoint → Option BridgeEndpoint
  | .bridge endpoint => some endpoint
  | _ => none

def TransferState.Plain (slot : TransferState) : Prop :=
  ∀ bundle, slot.bundle = some bundle → bundle.endpoint.asBridge = none

theorem TransferState.plain_of_none {slot : TransferState} (h : slot.bundle = none) :
    slot.Plain := by
  intro bundle hb
  rw [h] at hb
  contradiction

namespace SessionState

variable {st : SessionState} {slot : TransferState} {id : EndpointId} {ep : Endpoint}

def bridge (st : SessionState) (id : EndpointId) : Option BridgeEndpoint :=
  (st.find id).bind Endpoint.asBridge

theorem bridge_erase (st : SessionState) (id x : EndpointId) :
    (st.erase id).bridge x = if x = id then none else st.bridge x := by
  unfold bridge
  rw [find_erase]
  split <;> rfl

theorem bridge_put (st : SessionState) (ep : Endpoint) (x : EndpointId) :
    (st.put ep).bridge x = if x = ep.id then ep.asBridge else st.bridge x := by
  unfold bridge
  rw [find_put]
  split <;> rfl

theorem bridge_of_find_none (h : st.find id = none) : st.bridge id = none := by
  rw [bridge, h]
  rfl

theorem bridge_erase_same (h : st.bridge id = none) (x : EndpointId) :
    (st.erase id).bridge x = st.bridge x := by
  rw [bridge_erase]
  split
  · rename_i hx
    rw [hx, h]
  · rfl

theorem bridge_put_same (h : st.bridge ep.id = none) (hep : ep.asBridge = none) (x : EndpointId) :
    (st.put ep).bridge x = st.bridge x := by
  rw [bridge_put]
  split
  · rename_i hx
    rw [hx, h, hep]
  · rfl

theorem handleInsertEndpoint_plain (st : SessionState) {bundle : EndpointTransferBundle}
    (h : bundle.endpoint.asBridge = none) (x : EndpointId) :
    (st.handleInsertEndpoint bundle).1.bridge x = st.bridge x := by
  rcases st.handleInsertEndpoint_cases bundle with ⟨e, ho⟩ | ⟨hn, ho⟩
  · rw [ho]
  · rw [ho]
    exact bridge_put_same (bridge_of_find_none hn) h x

theorem handleRemoveEndpoint_cases (st : SessionState) (id : EndpointId) :
    (∃ bridge, st.bridge id = some bridge ∧ st.handleRemoveEndpoint id =
      (st.erase id, some (bridge.pairedCmdTx, bridge.pairedEndpointId), .ok ())) ∨
    st.bridge id = none ∧ ∃ st' value, (∀ x, st'.bridge x = st.bridge x) ∧
      st.handleRemoveEndpoint id = (st', none, value) := by
  unfold handleRemoveEndpoint
  split
  · rename_i bridge hf
    refine .inl ⟨bridge, ?_, rfl⟩
    rw [SessionState.bridge, hf]
    rfl
  · rename_i ep hep hf
    have hn : st.bridge id = none := by
      rw [bridge, hf]
      cases ep with
      | bridge endpoint => exact absurd rfl (hep endpoint)
      | _ => rfl
    exact .inr ⟨hn, _, _, bridge_erase_same hn, rfl⟩
  · rename_i hf
    exact .inr ⟨bridge_of_find_none hf, st, _, fun _ => rfl, rfl⟩

/-! The commands of a transfer leave the bridge endpoints alone, unless one is transferred. -/

theorem prepareTransfer_plain (hid : st.bridge id = none) (hs : slot.Plain) :
    (∀ x, (st.prepareTransfer slot id).1.bridge x = st.bridge x) ∧
      (st.prepareTransfer slot id).2.1.Plain := by
  have hid : (st.reserve id).bridge id = none := hid
  unfold prepareTransfer
  split
  · exact ⟨fun _ => rfl, hs⟩
  split
  · exact ⟨fun _ => rfl, hs⟩
  rcases (st.reserve id).handleExtractEndpoint_cases id with ⟨e, ho⟩ | ⟨ep, hf, ho⟩
  · rw [ho]
    exact ⟨fun _ => rfl, hs⟩
  rw [ho]
  refine ⟨bridge_erase_same hid, fun other hot => ?_⟩
  cases hot
  rwa [bridge, hf] at hid

theorem commitTransfer_plain (st : SessionState) (hs : slot.Plain) :
    (∀ x, (st.commitTransfer slot).1.bridge x = st.bridge x) ∧
      (st.commitTransfer slot).2.1.Plain := by
  have ho := st.commitTransfer_committed slot
  generalize st.commitTransfer slot = out at ho
  cases ho with
  | refused e => exact ⟨fun _ => rfl, hs⟩
  | inserted bundle _ hb hn =>
    exact ⟨bridge_put_same (bridge_of_find_none hn) (hs bundle hb), TransferState.plain_of_none rfl⟩

theorem finishTransfer_plain (st : SessionState) (id : EndpointId) (hs : slot.Plain) :
    (∀ x, (st.finishTransfer slot id).1.bridge x = st.bridge x) ∧
      (st.finishTransfer slot id).2.1.Plain := by
  unfold finishTransfer
  split
  · exact ⟨fun _ => rfl, hs⟩
  split
  · exact ⟨fun _ => rfl, hs⟩
  split
  · exact ⟨fun _ => rfl, hs⟩
  rename_i bundle hb
  have hk := st.handleInsertEndpoint_plain (hs bundle hb)
  split
  · rename_i st' ho
    rw [ho] at hk
    exact ⟨hk, TransferState.plain_of_none rfl⟩
  rename_i st' e ho
  rw [ho] at hk
  exact ⟨hk, TransferState.plain_of_none rfl⟩

end SessionState

def Command.removes (id : EndpointId) : Command → Bool
  | .removeEndpoint x _ => x = id
  | _ => false

instance (req : BridgeRequest) : Decidable req.MayTimeOut := by
  unfold BridgeRequest.MayTimeOut
  split <;> infer_instance

namespace System

variable {s s' : System} {sid : SessionId} {id : EndpointId} {t : Task} {c : Command}

def bridgeAt (s : System) (sid : SessionId) (id : EndpointId) : Option BridgeEndpoint :=
  (s.state sid).bind fun st => st.bridge id

def view (s : System) : BridgeView where
  held := s.bridgeAt
  wire sid := (s.queue sid).filter Command.aboutBridge
  live sid := (s.state sid).isSome
  requests := s.bridges

/-! ### How the view changes -/

theorem bridgeAt_of_task (ht : s.task sid = some t) (id : EndpointId) :
    s.bridgeAt sid id = t.state.bridge id := by
  rw [bridgeAt, state_of_task ht]
  rfl

theorem wire_of_task (ht : s.task sid = some t) :
    s.view.wire sid = t.commands.queue.filter Command.aboutBridge := by
  unfold view
  dsimp only
  rw [queue_of_task ht]

theorem live_of_task (ht : s.task sid = some t) : s.view.live sid = true := by
  unfold view
  dsimp only
  rw [state_of_task ht]
  rfl

theorem not_live_of_task (ht : s.task sid = none) : s.view.live sid = false := by
  unfold view state
  dsimp only
  rw [ht]
  rfl

theorem view_congr (hs : ∀ j, s'.state j = s.state j)
    (hq : ∀ j, (s'.queue j).filter Command.aboutBridge = (s.queue j).filter Command.aboutBridge)
    (hb : s'.bridges = s.bridges) : s'.view = s.view := by
  unfold view bridgeAt
  simp only [hs, hq, hb]

theorem queue_trySend_of_room (ht : s.task sid = some t) (hr : t.commands.HasRoom)
    (j : SessionId) :
    (s.trySend sid c).queue j = if j = sid then s.queue j ++ [c] else s.queue j := by
  grind [trySend, queue_onChannel, queue_of_task, Channel.trySend_of_hasRoom]

theorem view_trySend (ht : s.task sid = some t) (hr : t.commands.HasRoom)
    (hc : c.aboutBridge = true) : (s.trySend sid c).view = s.view.post sid c := by
  apply BridgeView.ext
  · funext j id
    simp only [view, bridgeAt, state_trySend, BridgeView.post]
  · funext j
    simp only [view, queue_trySend_of_room ht hr, BridgeView.wire_post]
    split
    · simp [hc]
    · rfl
  · funext j
    simp only [view, state_trySend, BridgeView.post]
  · exact bridges_onChannel s sid _

theorem view_trySend_lost (h : ∀ t, s.task sid = some t → ¬t.commands.HasRoom) :
    (s.trySend sid c).view = s.view := by
  refine view_congr (state_trySend s sid c) (fun j => ?_) (bridges_onChannel s sid _)
  unfold trySend
  rw [queue_onChannel]
  split
  · rename_i hj
    rw [hj]
    cases ht : s.task sid with
    | none =>
      rw [queue, ht]
      rfl
    | some t => grind [queue_of_task, Channel.trySend]
  · rfl

theorem view_trySend_other (hc : c.aboutBridge = false) : (s.trySend sid c).view = s.view := by
  refine view_congr (state_trySend s sid c) (fun j => ?_) (bridges_onChannel s sid _)
  rcases queue_trySend s sid c j with hsame | ⟨-, hs⟩
  · rw [hsame]
  · rw [hs, filter_append, filter_cons_of_neg (by rw [hc]; exact Bool.false_ne_true), filter_nil,
      append_nil]

theorem view_setBridge (s : System) (j : Nat) (req : BridgeRequest) :
    (s.setBridge j req).view = s.view.setRequest j req := rfl

theorem view_answer (s : System) (j : Nat) (value : Except String SessionId) :
    (s.answer j value).view = s.view.answer j value := by
  have hr : s.view.requests = s.bridges := rfl
  unfold answer BridgeView.answer
  rw [hr]
  cases s.bridges[j]? with
  | none => rfl
  | some req => rfl

theorem view_dropTask (s : System) (sid : SessionId) : (s.dropTask sid).view = s.view.drop sid := by
  apply BridgeView.ext
  · funext j id
    simp only [view, bridgeAt, state, task_dropTask, BridgeView.drop, Function.update_apply]
    split <;> rfl
  · funext j
    simp only [view, queue, task_dropTask, BridgeView.drop, Function.update_apply]
    split <;> rfl
  · funext j
    simp only [view, state, task_dropTask, BridgeView.drop, Function.update_apply]
    split <;> rfl
  · rfl

section Taken

variable {st : SessionState} {commands : Channel Command}

section

variable (ht : s.task sid = some t)
include ht

theorem view_taken : (s.setTask sid ⟨st, commands⟩).view =
      { s.view.deliver sid (commands.queue.filter Command.aboutBridge) with
        held := Function.update s.bridgeAt sid st.bridge } := by
  apply BridgeView.ext
  · funext j id
    simp only [view, bridgeAt, state_setTask, Function.update_apply]
    split <;> rfl
  · funext j
    simp only [view, queue_setTask, BridgeView.wire_deliver]
    split <;> rfl
  · funext j
    simp only [view, state_setTask, BridgeView.deliver]
    grind [state_of_task ht]
  · rfl

theorem view_taken_same (hst : ∀ x, st.bridge x = t.state.bridge x) :
    (s.setTask sid ⟨st, commands⟩).view =
      s.view.deliver sid (commands.queue.filter Command.aboutBridge) := by
  have hh : Function.update s.bridgeAt sid st.bridge = s.bridgeAt := by
    apply Function.update_eq_self_iff.mpr
    funext x
    rw [hst, bridgeAt_of_task ht]
  rw [view_taken ht, hh]
  rfl

theorem view_taken_place {o : Option BridgeEndpoint}
    (hst : ∀ x, st.bridge x = if x = id then o else t.state.bridge x) :
    (s.setTask sid ⟨st, commands⟩).view =
      (s.view.deliver sid (commands.queue.filter Command.aboutBridge)).place sid id o := by
  have hh : st.bridge = Function.update (s.bridgeAt sid) id o := by
    funext x
    rw [hst, Function.update_apply, bridgeAt_of_task ht]
  rw [view_taken ht, hh]
  rfl

theorem view_taken_other (hq : t.commands.queue = c :: commands.queue)
    (hc : c.aboutBridge = false) (hst : ∀ x, st.bridge x = t.state.bridge x) :
    (s.setTask sid ⟨st, commands⟩).view = s.view := by
  have hw : s.view.wire sid = commands.queue.filter Command.aboutBridge := by
    rw [wire_of_task ht, hq, filter_cons_of_neg (by rw [hc]; exact Bool.false_ne_true)]
  rw [view_taken_same ht hst, ← hw]
  unfold BridgeView.deliver
  rw [Function.update_eq_self]

theorem wire_taken (hq : t.commands.queue = c :: commands.queue)
    (hc : c.aboutBridge = true) :
    s.view.wire sid = c :: commands.queue.filter Command.aboutBridge := by
  rw [wire_of_task ht, hq, filter_cons_of_pos hc]

end

end Taken

/-! ## Orderly runs -/

def Unpaired (s : System) (sid : SessionId) : Prop :=
  (∀ t ∈ s.task sid, ∀ p ∈ t.state.endpoints.entries, p.2.asBridge.isNone) ∧
    ∀ req ∈ s.bridges, req.result.isNone → req.source ≠ sid ∧ req.target ≠ sid

def Free (s : System) (id : EndpointId) : Prop :=
  ∀ req ∈ s.bridges, req.result.isNone → req.drawn → req.bridgeA.id ≠ id ∧ req.bridgeB.id ≠ id

def Unused (s : System) (id : EndpointId) : Prop :=
  (∀ req ∈ s.bridges, req.drawn → req.bridgeA.id ≠ id ∧ req.bridgeB.id ≠ id) ∧
    ∀ p ∈ s.sessions.entries, ∀ c ∈ p.2.commands.queue, ¬c.removes id

def Harmless (s : System) (sid : SessionId) : Command → Prop
  | .prepareTransfer _ id => (s.bridgeAt sid id).isNone
  | .destroy => s.Unpaired sid
  -- the other end, if there is one, can be told
  | .removeEndpoint id _ => ∀ bridge ∈ s.bridgeAt sid id,
      (s.bridgeAt bridge.pairedCmdTx bridge.pairedEndpointId).isSome →
        ∃ t ∈ s.task bridge.pairedCmdTx, t.commands.HasRoom
  | _ => True

def Orderly (s : System) : Event → Prop
  | .transfer (.process sid) => ∀ t ∈ s.task sid, ∀ c ∈ t.commands.queue.head?, s.Harmless sid c
  | .bridgeReply j a b => ∀ req ∈ s.bridges[j]?, req.result.isNone → req.stage = .getTarget →
      a ≠ b ∧ s.Unused a ∧ s.Unused b
  | .bridgeTimeout j => ∀ req ∈ s.bridges[j]?, req.result.isNone → req.MayTimeOut
  | .remove _ id => s.Free id
  | .destroy sid => ∀ t ∈ s.task sid, ¬t.commands.HasRoom → s.Unpaired sid
  | _ => True

instance (s : System) (sid : SessionId) : Decidable (s.Unpaired sid) :=
  inferInstanceAs (Decidable (_ ∧ _))

instance (s : System) (id : EndpointId) : Decidable (s.Free id) := by
  unfold Free
  infer_instance

instance (s : System) (id : EndpointId) : Decidable (s.Unused id) :=
  inferInstanceAs (Decidable (_ ∧ _))

instance (s : System) (sid : SessionId) (c : Command) : Decidable (s.Harmless sid c) := by
  unfold Harmless
  split <;> infer_instance

instance (s : System) (ev : Event) : Decidable (s.Orderly ev) := by
  unfold Orderly
  split <;> infer_instance

theorem bridgeAt_eq_none (h : ∀ t ∈ s.task sid, ∀ p ∈ t.state.endpoints.entries,
    p.2.asBridge = none) (id : EndpointId) : s.bridgeAt sid id = none := by
  cases ht : s.task sid with
  | none =>
    rw [bridgeAt, state, ht]
    rfl
  | some t =>
    rw [bridgeAt_of_task ht, SessionState.bridge]
    cases hf : t.state.find id with
    | none => rfl
    | some ep => exact h t ht ⟨id, ep⟩ (mem_lookup_iff.mp hf)

theorem exists_task_of_mem_queue (h : c ∈ s.queue sid) :
    ∃ p ∈ s.sessions.entries, c ∈ p.2.commands.queue := by
  cases ht : s.task sid with
  | none =>
    rw [queue, ht] at h
    cases h
  | some t =>
    rw [queue_of_task ht] at h
    exact ⟨⟨sid, t⟩, mem_lookup_iff.mp ht, h⟩

theorem Unpaired.view (h : s.Unpaired sid) : s.view.Unpaired sid := by
  refine ⟨bridgeAt_eq_none fun t ht p hp => ?_, fun req hr hf t => ?_⟩
  · exact isNone_iff_eq_none.mp (h.1 t ht p hp)
  · have hh := h.2 req hr (by rw [hf]; rfl)
    cases t with
    | false => exact hh.1
    | true => exact hh.2

theorem Free.view (h : s.Free id) : s.view.Free id := by
  intro req hr hf hd t
  have hid := h req hr (by rw [hf]; rfl) hd
  cases t with
  | false => exact hid.1
  | true => exact hid.2

theorem Unused.view (h : s.Unused id) : s.view.Unused id := by
  refine ⟨fun req hr hd t => ?_, fun sid reply hm => ?_⟩
  · have hid := h.1 req hr hd
    cases t with
    | false => exact hid.1
    | true => exact hid.2
  obtain ⟨p, hp, hc⟩ := exists_task_of_mem_queue (mem_of_mem_filter hm)
  exact h.2 p hp _ hc (decide_eq_true rfl)

def Apart (s : System) : Prop := ∀ op ∈ s.transfers, op.slot.Plain

structure Simulates (s s' : System) : Prop where
  step : BridgeView.Step s.view s'.view
  apart : s'.Apart

theorem Simulates.of_same (hv : s'.view = s.view) (ha : s'.Apart) : Simulates s s' :=
  ⟨by rw [hv]; exact .same, ha⟩

theorem Apart.set (h : s.Apart) {i : Nat} (hop : op.slot.Plain) : (s.setTransfer i op).Apart := by
  intro other ho
  rcases mem_or_eq_of_mem_set ho with hold | rfl
  · exact h other hold
  · exact hop

theorem Apart.of_transfers (h : s.Apart) (ht : s'.transfers = s.transfers) : s'.Apart := by
  intro op hop
  rw [ht] at hop
  exact h op hop

/-! ### Transfers -/

theorem sent_other {i : Nat} {op' : Transfer} {actions : List Action}
    (hm : Transfer.Coordinated i op (op', actions)) (sid : SessionId) :
    (actions.flatMap (Action.sentTo sid)).filter Command.aboutBridge = [] := by
  have ho : ∀ sid' c, c.aboutBridge = false →
      (Action.sentTo sid (.send sid' c)).filter Command.aboutBridge = [] := by
    intro sid' c hc
    rw [Action.sentTo]
    split
    · rw [filter_cons_of_neg (by rw [hc]; exact Bool.false_ne_true), filter_nil]
    · rfl
  cases hm with
  | stay => rfl
  | wait _ _ _ _ _ _ hs =>
    rw [hs sid]
    rfl
  | prepare =>
    rw [flatMap_singleton]
    exact ho _ _ rfl
  | commit =>
    rw [flatMap_singleton]
    exact ho _ _ rfl
  | leave =>
    rw [flatMap_append, Transfer.unused_silent, flatMap_singleton]
    exact ho _ _ rfl

theorem bridges_performed (actions : List Action) (s : System) :
    (actions.foldl perform s).bridges = s.bridges := by
  induction actions generalizing s with
  | nil => rfl
  | cons a rest ih =>
    obtain ⟨sid, f, ha⟩ := s.perform_cases a
    rw [foldl_cons, ih, ha, bridges_onChannel]

theorem simulates_coordinate (ha : s.Apart) (i : Nat)
    {f : Nat → Transfer → Transfer × List Action}
    (hf : ∀ i op, Transfer.Coordinated i op (f i op)) : Simulates s (s.coordinate i f) := by
  cases hop : s.transfers[i]? with
  | none =>
    have hsame : s.coordinate i f = s := by rw [coordinate, hop]
    rw [hsame]
    exact .of_same rfl ha
  | some op =>
    obtain ⟨ht, hs, hq⟩ := coordinate_views f hop
    have hm : Transfer.Coordinated i op ((f i op).1, (f i op).2) := hf i op
    have hbr : (s.coordinate i f).bridges = s.bridges := by
      unfold coordinate
      rw [hop]
      exact bridges_performed _ _
    constructor
    · rw [view_congr hs (fun j => ?_) hbr]
      · exact .same
      grind [sent_other]
    have hp : (f i op).1.slot.Plain := by
      intro bundle hb
      rw [hm.same.2.2.2.1] at hb
      exact ha op (mem_of_getElem? hop) bundle hb
    exact (ha.set hp).of_transfers ht

theorem simulates_reserve (ha : s.Apart) (i : Nat) : Simulates s (s.reserveSlot i) := by
  unfold reserveSlot
  split
  · exact .of_same rfl ha
  split
  · exact .of_same rfl ha
  split
  · exact simulates_coordinate ha i Transfer.coordinated_closed
  split
  · exact simulates_coordinate ha i Transfer.coordinated_granted
  · exact .of_same rfl ha

theorem simulates_start (ha : s.Apart) (source target : SessionId) (id : EndpointId) :
    Simulates s (s.startTransfer source target id) := by
  have hn : ∀ op : Transfer, op.slot.bundle = none →
      Simulates s { s with transfers := s.transfers ++ [op] } := by
    intro op hop
    refine .of_same rfl fun other ho => ?_
    rcases mem_append.mp ho with hold | hl
    · exact ha other hold
    · rw [mem_singleton.mp hl]
      exact TransferState.plain_of_none hop
  unfold startTransfer
  split
  · exact .of_same rfl ha
  · split <;> exact hn _ rfl

/-! ### A session handles a command -/

theorem transfers_answer (s : System) (j : Nat) (value : Except String SessionId) :
    (s.answer j value).transfers = s.transfers := by
  unfold answer
  split <;> rfl

theorem simulates_answer (ha : s.Apart) (ht : s'.transfers = s.transfers)
    {value : Except String SessionId} (hs : BridgeView.Step s.view (s'.view.answer j value)) :
    Simulates s (s'.answer j value) where
  step := by
    rw [view_answer]
    exact hs
  apart := ha.of_transfers ((transfers_answer s' j value).trans ht)

theorem simulates_answerTo (ha : s.Apart) (ht : s'.transfers = s.transfers)
    (reply : Option Nat) {value : Except String SessionId} :
    BridgeView.Step s.view (s'.view.answerTo reply value) →
      Simulates s (match reply with | some j => s'.answer j value | none => s') := by
  intro hs
  cases reply with
  | none => exact ⟨hs, ha.of_transfers ht⟩
  | some j => exact simulates_answer ha ht hs

section Handle

variable {commands : Channel Command}

theorem simulates_remove (h : s.view.Inv) (ha : s.Apart) (ht : s.task sid = some t)
    {reply : Option Nat} (hq : t.commands.queue = .removeEndpoint id reply :: commands.queue)
    (hh : s.Harmless sid (.removeEndpoint id reply)) :
    Simulates s (s.handleCommand sid { t with commands } (.removeEndpoint id reply)) := by
  have hw := wire_taken ht hq rfl
  unfold handleCommand
  dsimp only
  rcases t.state.handleRemoveEndpoint_cases id with ⟨bridge, hf, ho⟩ | ⟨hn, st, value, hst, ho⟩
  · have hb : s.bridgeAt sid id = some bridge := by rw [bridgeAt_of_task ht, hf]
    have hp : (s.setTask sid ⟨t.state.erase id, commands⟩).view =
        (s.view.deliver sid (commands.queue.filter Command.aboutBridge)).place sid id none :=
      view_taken_place ht (t.state.bridge_erase id)
    have hfa : (s.setTask sid ⟨t.state.erase id, commands⟩).task bridge.pairedCmdTx =
        s.task bridge.pairedCmdTx := by
      rw [task_setTask, if_neg (h.paired_ne hb)]
    rw [ho]
    refine simulates_answerTo ha ?_ reply ?_
    · exact transfers_trySend _ _ _
    by_cases hr : ∃ t' ∈ s.task bridge.pairedCmdTx, t'.commands.HasRoom
    · obtain ⟨t', ht', hr⟩ := hr
      rw [view_trySend (hfa.trans ht') hr rfl, hp]
      exact .removed sid id reply _ bridge _ hw hb (live_of_task ht')
    -- the other end is not told: it must not be there
    have hl : ∀ t', (s.setTask sid ⟨t.state.erase id, commands⟩).task bridge.pairedCmdTx =
        some t' → ¬t'.commands.HasRoom := by
      intro t' ht' hr'
      rw [hfa] at ht'
      exact hr ⟨t', ht', hr'⟩
    rw [view_trySend_lost hl, hp]
    refine .single sid id reply _ bridge _ hw hb ?_
    by_contra hs
    exact hr (hh bridge hb (isSome_iff_ne_none.mpr hs))
  · rw [ho]
    refine simulates_answerTo ha ?_ reply ?_
    · rfl
    rw [view_taken_same ht hst]
    refine .missing sid id reply _ _ hw ?_
    show s.bridgeAt sid id = none
    rw [bridgeAt_of_task ht, hn]

section

variable (ha : s.Apart) (hta : s.task sid = some t)
include ha hta

theorem simulates_getPacketTx (hq : t.commands.queue = .getPacketTx j :: commands.queue) :
    Simulates s (s.handleCommand sid { t with commands } (.getPacketTx j)) := by
  have ht : (s.setTask sid { t with commands }).transfers = s.transfers := rfl
  apply simulates_answer ha ht
  rw [view_taken_same hta fun _ => rfl]
  exact .located sid j _ (wire_taken hta hq rfl)

theorem simulates_insert {bridge : BridgeEndpoint}
    (hq : t.commands.queue = .insertBridgeEndpoint j bridge :: commands.queue) :
    Simulates s (s.handleCommand sid { t with commands } (.insertBridgeEndpoint j bridge)) := by
  have hw := wire_taken hta hq rfl
  unfold handleCommand SessionState.handleInsertBridgeEndpoint
  dsimp only
  split
  · have ht : (s.setTask sid { t with commands }).transfers = s.transfers := rfl
    apply simulates_answer ha ht
    rw [view_taken_same hta fun _ => rfl]
    exact .full sid j bridge _ _ hw
  have ht : (s.setTask sid ⟨t.state.put (.bridge bridge), commands⟩).transfers = s.transfers := rfl
  apply simulates_answer ha ht
  rw [view_taken_place hta (t.state.bridge_put (.bridge bridge))]
  exact .inserted sid j bridge _ hw

theorem simulates_transfer (hq : t.commands.queue = c :: commands.queue)
    (hc : c.aboutBridge = false) {st : SessionState} (hst : ∀ x, st.bridge x = t.state.bridge x)
    (i : Nat) (hop : op.slot.Plain) :
    Simulates s ((s.setTask sid ⟨st, commands⟩).setTransfer i op) := by
  have ht : ((s.setTask sid ⟨st, commands⟩).setTransfer i op).transfers =
      (s.setTransfer i op).transfers := rfl
  refine .of_same ?_ ((ha.set hop).of_transfers ht)
  exact view_taken_other hta hq hc hst

end

theorem simulates_handle (h : s.view.Inv) (ha : s.Apart) (ht : s.task sid = some t)
    (hq : t.commands.queue = c :: commands.queue) (hh : s.Harmless sid c) :
    Simulates s (s.handleCommand sid { t with commands } c) := by
  have hp : ∀ (i : Nat) (op : Transfer), s.transfers[i]? = some op → op.slot.Plain :=
    fun i op hop => ha op (mem_of_getElem? hop)
  have hn : c.aboutBridge = false → Simulates s (s.setTask sid { t with commands }) :=
    fun hc => .of_same (view_taken_other ht hq hc fun _ => rfl) ha
  cases c with
  | detach => exact hn rfl
  | destroy =>
    refine ⟨?_, ha⟩
    have hv : (s.handleCommand sid { t with commands } .destroy).view = s.view.drop sid :=
      view_dropTask s sid
    rw [hv]
    exact .drop sid hh.view
  | removeEndpoint id reply => exact simulates_remove h ha ht hq hh
  | prepareTransfer i id =>
    unfold handleCommand
    dsimp only
    split
    · exact hn rfl
    rename_i op hop
    have hid : t.state.bridge id = none := by
      rw [← bridgeAt_of_task ht]
      exact isNone_iff_eq_none.mp hh
    obtain ⟨hst, hs⟩ := SessionState.prepareTransfer_plain hid (hp i op hop)
    exact simulates_transfer ha ht hq rfl hst i hs
  | commitTransfer i =>
    unfold handleCommand
    dsimp only
    split
    · exact hn rfl
    rename_i op hop
    obtain ⟨hst, hs⟩ := t.state.commitTransfer_plain (hp i op hop)
    exact simulates_transfer ha ht hq rfl hst i hs
  | finishTransfer i id =>
    unfold handleCommand
    dsimp only
    split
    · exact hn rfl
    rename_i op hop
    obtain ⟨hst, hs⟩ := t.state.finishTransfer_plain id (hp i op hop)
    exact simulates_transfer ha ht hq rfl hst i hs
  | getPacketTx j => exact simulates_getPacketTx ha ht hq
  | insertBridgeEndpoint j bridge => exact simulates_insert ha ht hq

theorem simulates_process (h : s.view.Inv) (ha : s.Apart) (sid : SessionId)
    (ho : s.Orderly (.transfer (.process sid))) : Simulates s (s.process sid) := by
  unfold process
  split
  · exact .of_same rfl ha
  rename_i t ht
  split
  · exact .of_same rfl ha
  rename_i c commands hr
  have hq := Channel.queue_of_recv hr
  refine simulates_handle h ha ht hq (ho t ht c ?_)
  rw [hq]
  rfl

end Handle

/-! ### Bridge requests -/

theorem simulates_bridge (ha : s.Apart) (source target : SessionId) :
    Simulates s (s.startBridge source target) := by
  unfold startBridge
  split
  · exact .of_same rfl ha
  · rename_i hs
    exact ⟨.start source target fun heq => hs (.inl heq), ha⟩

theorem simulates_send (ha : s.Apart) (j : Nat) : Simulates s (s.bridgeSend j) := by
  unfold bridgeSend
  split
  · exact .of_same rfl ha
  rename_i req hre
  split
  · exact .of_same rfl ha
  rename_i ho
  have hf : req.result = none := by
    simpa using fun hs => ho (.inl hs)
  have hu : req.sent = false := by
    simpa using fun hse => ho (.inr hse)
  split
  · rename_i ht
    exact ⟨.gone j req _ hre hf (not_live_of_task ht), ha⟩
  rename_i t ht
  split
  · rename_i hr
    have hab : (req.command j).2.aboutBridge = true := by
      unfold BridgeRequest.command
      split <;> rfl
    refine ⟨?_, ha.of_transfers (transfers_trySend _ _ _)⟩
    rw [view_setBridge, view_trySend ht hr hab]
    exact .send j req hre hf hu (live_of_task ht)
  · exact .of_same rfl ha

theorem simulates_reply (h : s.view.Inv) (hap : s.Apart) (j : Nat) (a b : EndpointId)
    (ho : s.Orderly (.bridgeReply j a b)) : Simulates s (s.bridgeReply j a b) := by
  unfold bridgeReply
  split
  · exact .of_same rfl hap
  rename_i req hre
  split
  · exact .of_same rfl hap
  rename_i hop
  have hf : req.result = none := by
    simpa using fun hso => hop (.inl hso)
  split
  · rename_i value hr
    refine ⟨.reply j req value a b hre hf hr fun hs => ?_, hap⟩
    obtain ⟨hab, ha, hb⟩ := ho req hre (by rw [hf]; rfl) hs
    exact ⟨hab, ha.view, hb.view⟩
  · rename_i hl
    exact absurd hl (h.agrees j req hre).kept
  split
  · rename_i hn
    have ht := isNone_iff_eq_none.mp hn
    exact ⟨.gone j req _ hre hf (not_live_of_task ht), hap⟩
  · exact .of_same rfl hap

theorem simulates_timeout (ha : s.Apart) (j : Nat) (ho : s.Orderly (.bridgeTimeout j)) :
    Simulates s (s.bridgeTimeout j) := by
  unfold bridgeTimeout
  split
  · exact .of_same rfl ha
  rename_i req hr
  split
  · exact .of_same rfl ha
  rename_i hop
  have hf : req.result = none := by simpa using hop
  exact ⟨.timeout j req _ hr hf (ho req hr (by rw [hf]; rfl)), ha⟩

theorem simulates_asked (ha : s.Apart) (sid : SessionId) (id : EndpointId)
    (ho : s.Orderly (.remove sid id)) :
    Simulates s (s.trySend sid (.removeEndpoint id none)) := by
  refine ⟨?_, ha.of_transfers (transfers_trySend _ _ _)⟩
  by_cases hr : ∃ t ∈ s.task sid, t.commands.HasRoom
  · obtain ⟨t, ht, hr⟩ := hr
    rw [view_trySend ht hr rfl]
    exact .ask sid id (live_of_task ht) (Free.view ho)
  · rw [view_trySend_lost fun t ht hr' => hr ⟨t, ht, hr'⟩]
    exact .same

theorem simulates_destroy (ha : s.Apart) (sid : SessionId)
    (ho : s.Orderly (.destroy sid)) : Simulates s (s.destroySession sid) := by
  unfold destroySession
  split
  · exact .of_same rfl ha
  rename_i t ht
  split
  · exact .of_same (view_trySend_other rfl) (ha.of_transfers (transfers_trySend _ _ _))
  rename_i hr
  refine ⟨?_, ha⟩
  rw [view_dropTask]
  exact .drop sid (Unpaired.view (ho t ht hr))

theorem simulates_event (h : s.view.Inv) (ha : s.Apart) {ev : Event}
    (ho : s.Orderly ev) : Simulates s (s.onEvent ev) := by
  cases ev with
  | transfer ev =>
    cases ev with
    | start source target id => exact simulates_start ha source target id
    | reserve i => exact simulates_reserve ha i
    | expire i => exact simulates_coordinate ha i Transfer.coordinated_expire
    | poll i => exact simulates_coordinate ha i Transfer.coordinated_poll
    | loseReply i => exact simulates_coordinate ha i Transfer.coordinated_loseReply
    | cancel i => exact simulates_coordinate ha i Transfer.coordinated_cancel
    | abort i => exact simulates_coordinate ha i Transfer.coordinated_abort
    | detach sid =>
      exact .of_same (view_trySend_other rfl) (ha.of_transfers (transfers_trySend _ _ _))
    | process sid => exact simulates_process h ha sid ho
  | bridge source target => exact simulates_bridge ha source target
  | bridgeSend j => exact simulates_send ha j
  | bridgeReply j a b => exact simulates_reply h ha j a b ho
  | bridgeTimeout j => exact simulates_timeout ha j ho
  | remove sid id => exact simulates_asked ha sid id ho
  | destroy sid => exact simulates_destroy ha sid ho

/-! ## Whole runs -/

structure Unbridged (s : System) : Prop where
  sessions : ∀ p ∈ s.sessions.entries, p.2.commands.queue = [] ∧
    ∀ e ∈ p.2.state.endpoints.entries, e.2.asBridge = none
  transfers : s.transfers.length = 0
  bridges : s.bridges.length = 0

def Quiet (s : System) : Prop := ∀ p ∈ s.sessions.entries, p.2.commands.queue = []

/-- The partner of the endpoint is in the session that all its handles denote, and points back. -/
def Paired (s : System) (sid : SessionId) (id : EndpointId) (bridge : BridgeEndpoint) : Prop :=
  ∃ far ∈ s.bridgeAt bridge.pairedSessionId bridge.pairedEndpointId,
    bridge.remotePacketTx = bridge.pairedSessionId ∧
    bridge.pairedCmdTx = bridge.pairedSessionId ∧
    far.pairedSessionId = sid ∧ far.pairedEndpointId = id

instance (s : System) : Decidable s.Quiet := by
  unfold Quiet
  infer_instance

instance (s : System) (sid : SessionId) (id : EndpointId) (bridge : BridgeEndpoint) :
    Decidable (s.Paired sid id bridge) := by
  unfold Paired
  infer_instance

theorem Quiet.queue (h : s.Quiet) (sid : SessionId) : s.queue sid = [] := by
  refine eq_nil_iff_forall_not_mem.mpr fun c hc => ?_
  obtain ⟨p, hp, hm⟩ := exists_task_of_mem_queue hc
  rw [h p hp] at hm
  cases hm

theorem Unbridged.bridgeAt (h : s.Unbridged) (sid : SessionId) (id : EndpointId) :
    s.bridgeAt sid id = none :=
  bridgeAt_eq_none (fun t ht => (h.sessions ⟨sid, t⟩ (mem_lookup_iff.mp ht)).2) id

theorem Quiet.wire (h : s.Quiet) (sid : SessionId) : s.view.wire sid = [] := by
  unfold view
  dsimp only
  rw [h.queue]
  rfl

theorem Unbridged.inv (h : s.Unbridged) : s.view.Inv := by
  have hbr : s.view.requests = [] := length_eq_zero_iff.mp h.bridges
  have hq : s.Quiet := fun p hp => (h.sessions p hp).1
  have hw := hq.wire
  have hh : ∀ sid id, s.view.held sid id = none := h.bridgeAt
  have hn : ∀ (j : Nat) (req : BridgeRequest), s.view.requests[j]? ≠ some req := by
    intro j req hr
    rw [hbr] at hr
    contradiction
  constructor
  · exact fun j req hr => absurd hr (hn j req)
  · intro sid c hc
    rw [hw] at hc
    cases hc
  · intro sid j
    rw [hw]
    exact Nat.zero_le 1
  · intro sid id bridge hb
    rw [hh] at hb
    cases hb
  · exact fun j req _ hr => absurd hr (hn j req)
  · exact fun sid _ => ⟨hw sid, hh sid⟩

theorem Unbridged.apart (h : s.Unbridged) : s.Apart := by
  intro op hop
  rw [length_eq_zero_iff.mp h.transfers] at hop
  cases hop

theorem inv_run (hs : s.Unbridged) {events : List Event}
    (ho : Along step (fun _ s ev => s.Orderly ev) s events) :
    (exec step s events).view.Inv := by
  have hr : (exec step s events).view.Inv ∧ (exec step s events).Apart :=
    along_induction (P := fun _ s => s.view.Inv ∧ s.Apart) ⟨hs.inv, hs.apart⟩
      (fun _ s ev hev hI => by
        have hsi := simulates_event hI.1 hI.2 hev
        exact ⟨hsi.step.inv hI.1, hsi.apart⟩) ho
  exact hr.1

/-- In an orderly run, whenever the queues are empty, an end of a bridge has its partner in place
unless its request is still in flight, and a request that failed has left nothing behind. -/
theorem bridge_pairs_consistent {s : System} (hstart : s.Unbridged) {events : List Event}
    (horderly : Along step (fun _ s ev => s.Orderly ev) s events)
    (hquiet : (exec step s events).Quiet) :
    (∀ sid id bridge, (exec step s events).bridgeAt sid id = some bridge →
      (∃ req ∈ (exec step s events).bridges,
        req.result = none ∧ req.drawn = true ∧ ∃ t, bridge = req.endpoint t) ∨
      (exec step s events).Paired sid id bridge) ∧
    ∀ req ∈ (exec step s events).bridges, ∀ e, req.result = some (.error e) →
      req.drawn = true → ∀ t sid, (exec step s events).bridgeAt sid (req.endpoint t).id = none := by
  have hinv := inv_run hstart horderly
  have hempty := hquiet.wire
  refine ⟨fun sid id bridge hheld => hinv.paired hempty hheld, ?_⟩
  intro req hreq e hresult hdrawn t sid
  exact hinv.unpaired hempty hreq hresult hdrawn t sid

/-! The sessions of the sample are bridged by endpoints 30 and 40. -/

def sampleOpening : List Event :=
  [.bridge 1 2, .bridgeSend 0, .transfer (.process 1), .bridgeReply 0 0 0, .bridgeSend 0,
    .transfer (.process 2), .bridgeReply 0 30 40, .bridgeSend 0, .transfer (.process 1)]

def sampleBridge : List Event :=
  sampleOpening ++ [.bridgeReply 0 0 0, .bridgeSend 0, .transfer (.process 2), .bridgeReply 0 0 0]

theorem sampleSystem_unbridged : sampleSystem.Unbridged where
  sessions := by decide +kernel
  transfers := rfl
  bridges := rfl

theorem sampleBridge_consistent :
    (exec step sampleSystem sampleBridge).bridgeAt 1 30 = some ⟨30, 2, 40, 2, 2⟩ ∧
      (exec step sampleSystem sampleBridge).Paired 1 30 ⟨30, 2, 40, 2, 2⟩ := by
  have hreturned : ∀ req ∈ (exec step sampleSystem sampleBridge).bridges,
      req.result.isSome := by decide +kernel
  have hpresent : (exec step sampleSystem sampleBridge).bridgeAt 1 30 =
      some ⟨30, 2, 40, 2, 2⟩ := by decide +kernel
  refine ⟨hpresent, ?_⟩
  rcases (bridge_pairs_consistent sampleSystem_unbridged (by decide +kernel)
    (by decide +kernel)).1 1 30 _ hpresent with ⟨req, hreq, hnone, -⟩ | hpaired
  · grind
  · exact hpaired

/-! Runs that are not orderly. -/

/-- Nothing is on its way, no request in flight, and yet an end is left without its partner. -/
def Stray (s : System) (sid : SessionId) (id : EndpointId) : Prop :=
  s.Quiet ∧ (∀ req ∈ s.bridges, req.result.isSome) ∧
    ∃ bridge ∈ s.bridgeAt sid id, ¬s.Paired sid id bridge

instance (s : System) (sid : SessionId) (id : EndpointId) : Decidable (s.Stray sid id) :=
  inferInstanceAs (Decidable (_ ∧ _))

def sampleDestroyed : List Event := sampleBridge ++ [.destroy 1, .transfer (.process 1)]

def sampleTrio : System :=
  { sampleSystem with
    sessions := sampleSystem.sessions.insert 3 (sampleSession 3 (.webRtc 50)) }

def sampleTransferred : List Event :=
  sampleBridge ++ [.transfer (.start 1 3 30), .transfer (.reserve 0), .transfer (.reserve 0),
    .transfer (.reserve 0), .transfer (.poll 0), .transfer (.process 1), .transfer (.poll 0),
    .transfer (.process 3), .transfer (.poll 0), .transfer (.process 1)]

def sampleTimedOut : List Event := sampleOpening ++ [.bridgeTimeout 0]

def sampleCrowded : List Event :=
  sampleBridge ++ List.replicate 64 (.transfer (.detach 2)) ++
    [.remove 1 30, .transfer (.process 1)] ++ List.replicate 64 (.transfer (.process 2))

theorem bridge_leaves_stray_ends : (exec step sampleSystem sampleDestroyed).Stray 2 40 ∧
    ((exec step sampleTrio sampleTransferred).Stray 2 40 ∧
      ((exec step sampleTrio sampleTransferred).bridgeAt 3 30).isSome) ∧
    ((exec step sampleSystem sampleTimedOut).Stray 1 30 ∧
      (exec step sampleSystem sampleTimedOut).bridges.map
        (fun req => req.result.map Except.isOk) = [some false]) ∧
    (exec step sampleSystem sampleCrowded).Stray 2 40 :=
  ⟨by decide +kernel, by decide +kernel, by decide +kernel, by decide +kernel⟩

end System
end RtpBridge.Session
