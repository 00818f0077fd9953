/-
Transfers between sessions hand an endpoint over exactly once.
-/
import RtpBridge.Session.Transfer.Custody

namespace RtpBridge.Session

open Custody List Option Machine

variable {st st' : SessionState} {c : Command} {bundle : EndpointTransferBundle}

namespace System

variable {s s' : System} {i : Nat} {op op' : Transfer} {sid : SessionId}

/-! ## Every step -/

inductive Stepped (s : System) : System → Prop
  | quiet {s' : System} (hst : ∀ j, s'.state j = s.state j)
      (ht : s'.transfers = s.transfers)
      (hq : ∀ j, ∀ d ∈ s'.queue j, d = .detach ∨ d ∈ s.queue j)
      (ho : ∀ j, (s'.queue j).Pairwise Command.Before) : Stepped s s'
  | started {s' : System} (op : Transfer) (hso : op.Sound) (hsl : op.slot = {})
      (hs : s'.sessions = s.sessions) (ht : s'.transfers = s.transfers ++ [op]) :
      Stepped s s'
  | coordinated (i : Nat) (f : Nat → Transfer → Transfer × List Action)
      (hf : ∀ i op, Transfer.Coordinated i op (f i op)) : Stepped s (s.coordinate i f)
  | prepared {s' : System} {sid : SessionId} {id : EndpointId} {st st' : SessionState} {i : Nat}
      {op : Transfer} {slot : TransferState} {r : Except String Unit}
      (reply : Reply (Except String Unit))
      (hh : Handled s s' sid (.prepareTransfer i id) st st' i op
        { op with slot, prepared := reply })
      (hou : st.Prepared op.slot id (st', slot, r)) : Stepped s s'
  | committed {s' : System} {sid : SessionId} {st st' : SessionState} {i : Nat} {op : Transfer}
      {slot : TransferState} {r : Except String Unit} (reply : Reply (Except String Unit))
      (hh : Handled s s' sid (.commitTransfer i) st st' i op
        { op with slot, commitment := reply, inserted := op.inserted || r.isOk })
      (hou : st.Committed op.slot (st', slot, r)) : Stepped s s'
  | finished {s' : System} {sid : SessionId} {id : EndpointId} {st st' : SessionState} {i : Nat}
      {op : Transfer} {slot : TransferState} {restored : Bool}
      (hh : Handled s s' sid (.finishTransfer i id) st st' i op
        { op with slot, restored := op.restored || restored, finished := true })
      (hou : st.Finished op.slot id (st', slot, restored)) : Stepped s s'

theorem Inv.unchanged (h : s.Inv) : Stepped s s :=
  .quiet (fun _ => rfl) rfl (fun _ _ hd => .inr hd) h.ordered

theorem startTransfer_stepped (h : s.Inv) (source target : SessionId) (id : EndpointId) :
    Stepped s (s.startTransfer source target id) := by
  unfold startTransfer
  split
  · exact h.unchanged
  split
  · exact .started _ (Transfer.Sound.started source target id _ none rfl nofun) rfl rfl rfl
  refine .started _ (Transfer.Sound.started source target id _ _ rfl fun r hr => ?_) rfl rfl rfl
  cases hr
  exact ⟨rfl, rfl⟩

theorem reserveSlot_stepped (h : s.Inv) (i : Nat) : Stepped s (s.reserveSlot i) := by
  unfold reserveSlot
  split
  · exact h.unchanged
  split
  · exact h.unchanged
  split
  · exact .coordinated i _ Transfer.coordinated_closed
  split
  · exact .coordinated i _ Transfer.coordinated_granted
  · exact h.unchanged

theorem detach_stepped (h : s.Inv) (sid : SessionId) : Stepped s (s.trySend sid .detach) := by
  refine .quiet (state_trySend s sid _) (transfers_trySend s sid _) ?_ ?_
  · grind [queue_trySend]
  intro j
  rcases queue_trySend s sid .detach j with hq | ⟨_, hq⟩
  · rw [hq]
    exact h.ordered j
  rw [hq, pairwise_append]
  refine ⟨h.ordered j, pairwise_singleton _ _, ?_⟩
  intro a _ b hb k id hpr
  rw [mem_singleton.mp hb] at hpr
  contradiction

theorem process_stepped (h : s.Inv) (sid : SessionId) : Stepped s (s.process sid) := by
  rcases s.process_cases sid with hsame | ⟨t, c, commands, ht, hq, hpr⟩
  · rw [hsame]
    exact h.unchanged
  rw [hpr]
  have hh : c ∈ s.queue sid := by
    rw [queue_of_task ht, hq]
    exact mem_cons_self
  rcases h.queued sid c hh with rfl | ⟨i, op, hc, hop, he⟩
  · have ho := h.ordered sid
    rw [queue_of_task ht] at ho
    refine .quiet (fun j => ?_) rfl (fun j d hd => ?_) (fun j => ?_)
    · grind [handleCommand, state_setTask, state_of_task]
    · grind [handleCommand, queue_setTask, queue_of_task]
    grind [handleCommand, queue_setTask, h.ordered]
  have hso := h.sound i op hop
  have hs := state_of_task ht
  cases c with
  | prepareTransfer k id =>
    cases hc
    have hou := t.state.prepareTransfer_prepared op.slot id (fun hr => by
        rw [he.2.2.2.1] at hr
        contradiction)
    simp only [handleCommand, hop]
    exact .prepared _ (.of_handleCommand ht hq hop _ _) hou
  | commitTransfer k =>
    cases hc
    simp only [handleCommand, hop]
    exact .committed _ (.of_handleCommand ht hq hop _ _)
      (t.state.commitTransfer_committed op.slot)
  | finishTransfer k id =>
    cases hc
    have hou := t.state.finishTransfer_finished op.slot id (fun bundle hb => by
        obtain ⟨hid, hr, hoe⟩ := hso.bundle bundle hb
        refine ⟨hoe, ?_, ?_⟩
        · -- the slot's reservation is the session's
          have hp := h.ledger.promised_of_owner i (op.source, op.endpointId)
            ((reserves_self hop _).mpr ⟨rfl, hr⟩)
          obtain ⟨st, hst, hm⟩ := hp
          rw [he.1, hs] at hst
          cases hst
          rw [hid]
          exact hm
        -- and the slot is the only holder
        have hsl : s.held (.slot i) bundle.endpoint.id = some bundle.endpoint := by
          simp only [held, hop, bind_some, Transfer.carried_of_some hb, if_true]
        have hn : s.held (.session sid) bundle.endpoint.id = none :=
          h.exclusive.eq_none hsl (by simp)
        simpa only [held, hs, bind_some] using hn)
    simp only [handleCommand, hop]
    exact .finished (.of_handleCommand ht hq hop _ _) hou
  | _ => contradiction

theorem onTransfer_stepped (h : s.Inv) (ev : TransferEvent) : Stepped s (s.onTransfer ev) := by
  cases ev with
  | start source target id => exact startTransfer_stepped h source target id
  | reserve i => exact reserveSlot_stepped h i
  | expire i => exact .coordinated i _ Transfer.coordinated_expire
  | poll i => exact .coordinated i _ Transfer.coordinated_poll
  | loseReply i => exact .coordinated i _ Transfer.coordinated_loseReply
  | cancel i => exact .coordinated i _ Transfer.coordinated_cancel
  | abort i => exact .coordinated i _ Transfer.coordinated_abort
  | detach sid => exact detach_stepped h sid
  | process sid => exact process_stepped h sid

theorem held_quiet (hs : ∀ j, s'.state j = s.state j)
    (ht : s'.transfers = s.transfers) : s'.held = s.held := by
  funext holder id
  cases holder with
  | session sid => simp only [held, hs]
  | slot i => simp only [held, ht]

theorem held_started (hsl : op.slot = {}) (hs : s'.sessions = s.sessions)
    (ht : s'.transfers = s.transfers ++ [op]) : s'.held = s.held := by
  funext holder id
  cases holder with
  | session sid => simp only [held, state, task, hs]
  | slot j =>
    grind [held, Transfer.carried_of_none]

theorem Inv.quiet (h : s.Inv) (hs : ∀ j, s'.state j = s.state j)
    (ht : s'.transfers = s.transfers)
    (hqu : ∀ j, ∀ d ∈ s'.queue j, d = .detach ∨ d ∈ s.queue j)
    (ho : ∀ j, (s'.queue j).Pairwise Command.Before) : s'.Inv where
  sound := by
    rw [ht]
    exact h.sound
  queued j d hd := by
    rcases hqu j d hd with hde | hold
    · exact .inl hde
    have hq := h.queued j d hold
    rw [Queued, ← ht] at hq
    exact hq
  ordered := ho
  ledger := by
    have hre : s'.Reserves = s.Reserves := by
      funext i p
      rw [Reserves, ht]
      rfl
    have hp : s'.Promised = s.Promised := by
      funext p
      rw [Promised, hs]
      rfl
    rw [hre, hp]
    exact h.ledger
  exclusive := by
    rw [held_quiet hs ht]
    exact h.exclusive

theorem Inv.started (h : s.Inv) (hso : op.Sound) (hsl : op.slot = {})
    (hs : s'.sessions = s.sessions) (ht : s'.transfers = s.transfers ++ [op]) :
    s'.Inv := by
  have hta : ∀ j, s'.task j = s.task j := by
    intro j
    rw [task, hs]
    rfl
  have hold : ∀ (j : Nat) (op' : Transfer), s.transfers[j]? = some op' →
      s'.transfers[j]? = some op' := by grind
  refine ⟨?_, ?_, ?_, ?_, ?_⟩
  · grind [h.sound]
  · intro sid c hc
    rw [queue, hta] at hc
    rcases h.queued sid c hc with hd | ⟨j, op', htr, hj, he⟩
    · exact .inl hd
    · exact .inr ⟨j, op', htr, hold j op' hj, he⟩
  · intro sid
    rw [queue, hta]
    exact h.ordered sid
  · have hre : s'.Reserves = s.Reserves := by
      funext j p
      grind [Reserves, Transfer.Reserves]
    have hp : s'.Promised = s.Promised := by
      funext p
      rw [Promised, state, hta]
      rfl
    rw [hre, hp]
    exact h.ledger
  · rw [held_started hsl hs ht]
    exact h.exclusive

theorem Stepped.inv (hse : Stepped s s') (h : s.Inv) : s'.Inv := by
  cases hse with
  | quiet hst ht hq ho => exact h.quiet hst ht hq ho
  | started op hso hsl hs ht => exact h.started hso hsl hs ht
  | coordinated i f hf => exact h.coordinate i hf
  | prepared reply hh hou => exact hh.inv_prepare h hou rfl
  | committed reply hh hou => exact hh.inv_commit h hou rfl
  | finished hh hou => exact hh.inv_finish h hou rfl

theorem Stepped.handOver (hse : Stepped s s') (h : s.Inv) : HandOver s.held s'.held := by
  cases hse with
  | quiet hst ht _ _ =>
    rw [held_quiet hst ht]
    exact .same
  | started op _ hsl hs ht =>
    rw [held_started hsl hs ht]
    exact .same
  | coordinated i f hf =>
    rw [held_coordinate s i hf]
    exact .same
  | prepared reply hh hou => exact hh.handOver_prepare h hou rfl
  | committed reply hh hou => exact hh.handOver_commit hou rfl
  | finished hh hou => exact hh.handOver_finish hou rfl

/-! ## What a transfer keeps -/

structure Recorded (s s' : System) (i : Nat) (op op' : Transfer) : Prop where
  inserted : op.inserted = false → op'.inserted = true →
    ∃ ep, s.held (.slot i) op.endpointId = some ep ∧
      s'.held (.session op.target) op.endpointId = some ep
  restored : op.restored = false → op'.restored = true →
    ∃ ep, s.held (.slot i) op.endpointId = some ep ∧
      s'.held (.session op.source) op.endpointId = some ep

theorem Recorded.same (hi : op'.inserted = op.inserted)
    (hr : op'.restored = op.restored) : Recorded s s' i op op' where
  inserted hn hy := by
    rw [hi, hn] at hy
    contradiction
  restored hn hy := by
    rw [hr, hn] at hy
    contradiction

theorem Handled.landed (hh : Handled s s' sid c st st' i op op') (h : s.Inv)
    (hb : op.slot.bundle = some bundle)
    (hst : ∀ k, st'.find k = if k = bundle.endpoint.id then some bundle.endpoint else st.find k) :
    ∃ ep, s.held (.slot i) op.endpointId = some ep ∧
      s'.held (.session sid) op.endpointId = some ep := by
  have hid := ((h.sound i op hh.found).bundle bundle hb).1
  refine ⟨bundle.endpoint, ?_, ?_⟩
  · rw [hh.carried_before, Transfer.carried_of_some hb, if_pos hid]
  · rw [hh.held_eq, if_pos rfl, hst, if_pos hid.symm]

theorem Handled.follows (hh : Handled s s' sid c st st' i op op') (hl : op.Later op')
    (hr : Recorded s s' i op op') {j : Nat} {opj : Transfer} (hj : s.transfers[j]? = some opj) :
    ∃ opj', s'.transfers[j]? = some opj' ∧ opj.Later opj' ∧ Recorded s s' j opj opj' := by
  rw [transfers_set hh.transfers hh.found]
  split
  · grind [hh.found]
  · exact ⟨opj, hj, .refl opj, .same rfl rfl⟩

theorem Stepped.follows (hse : Stepped s s') (h : s.Inv) {j : Nat} {opj : Transfer}
    (hj : s.transfers[j]? = some opj) :
    ∃ opj', s'.transfers[j]? = some opj' ∧ opj.Later opj' ∧ Recorded s s' j opj opj' := by
  have hsame : s'.transfers[j]? = some opj → ∃ opj', s'.transfers[j]? = some opj' ∧
      opj.Later opj' ∧ Recorded s s' j opj opj' := fun hj' => ⟨opj, hj', .refl opj, .same rfl rfl⟩
  cases hse with
  | quiet _ ht => exact hsame (by rw [ht, hj])
  | started op _ _ _ ht => exact hsame (by grind)
  | coordinated i f hf =>
    cases hop : s.transfers[i]? with
    | none => exact hsame (by rw [coordinate, hop]; exact hj)
    | some op =>
      rw [transfers_set (coordinate_views f hop).1 hop]
      split
      · rename_i hji
        subst hji
        cases hop.symm.trans hj
        obtain ⟨hi, hre⟩ := (hf j opj).record
        exact ⟨_, rfl, .coordinated (h.sound j opj hop) (hf j opj), .same hi hre⟩
      · exact ⟨opj, hj, .refl opj, .same rfl rfl⟩
  | prepared reply hh hou =>
    exact hh.follows ⟨rfl, rfl, rfl, fun _ h => h, fun h => h, fun h => h⟩ (.same rfl rfl) hj
  | committed reply hh hou =>
    refine hh.follows ⟨rfl, rfl, rfl, fun _ h => h, fun h => by simp [h], fun h => h⟩ ?_ hj
    obtain ⟨hta, _⟩ := hh.expects h rfl
    cases hou with
    | refused e => exact .same (Bool.or_false _) rfl
    | inserted bundle ho hb hn =>
      refine ⟨fun _ _ => ?_, fun hno hy => ?_⟩
      · rw [hta]
        exact hh.landed h hb (SessionState.find_put _ bundle.endpoint)
      · rw [hno] at hy
        contradiction
  | finished hh hou =>
    refine hh.follows ⟨rfl, rfl, rfl, fun _ h => h, fun h => h, fun h => by simp [h]⟩ ?_ hj
    obtain ⟨hso, _⟩ := hh.expects h rfl
    cases hou with
    | unreserved hr => exact .same rfl (Bool.or_false _)
    | closed hr he => exact .same rfl (Bool.or_false _)
    | restored bundle hr ho hb hn =>
      refine ⟨fun hno hy => ?_, fun _ _ => ?_⟩
      · rw [hno] at hy
        contradiction
      · rw [hso]
        exact hh.landed h hb (SessionState.find_put _ bundle.endpoint)

/-! ## Runs -/

structure Idle (s : System) : Prop where
  transfers : s.transfers = []
  queues : ∀ sid, s.queue sid = []
  reserved : ∀ sid st, s.state sid = some st → st.reservedTransfers = ∅
  apart : ∀ id sid sid' st st', s.state sid = some st → s.state sid' = some st' →
    (st.find id).isSome → (st'.find id).isSome → sid = sid'

theorem Idle.inv (h : s.Idle) : s.Inv where
  sound := by simp [h.transfers]
  queued := by simp [h.queues]
  ordered := by simp [h.queues]
  ledger :=
    { promised_of_owner := by simp [Reserves, h.transfers]
      owned := by
        rintro p ⟨st, hst, hm⟩
        rw [h.reserved p.1 st hst] at hm
        contradiction
      unique := by simp [Reserves, h.transfers] }
  exclusive := by
    intro id holder holder' ep ep' hh hh'
    cases holder with
    | slot i => simp [held, h.transfers] at hh
    | session sid =>
      cases holder' with
      | slot i => simp [held, h.transfers] at hh'
      | session sid' =>
        obtain ⟨st, hst, hep⟩ := bind_eq_some_iff.mp hh
        obtain ⟨st', hst', hep'⟩ := bind_eq_some_iff.mp hh'
        have hsi := h.apart id sid sid' st st' hst hst' (by rw [hep]; rfl) (by rw [hep']; rfl)
        rw [hsi]

section

variable (h : s.Inv) (events : List TransferEvent)
include h

theorem Inv.exec : (exec transferStep s events).Inv :=
  exec_induction h (fun _ ev hs => (onTransfer_stepped hs ev).inv hs) events

theorem Inv.kept (id : EndpointId) (ep : Endpoint) :
    (∃ holder, (Machine.exec transferStep s events).held holder id = some ep) ↔
      ∃ holder, s.held holder id = some ep := by
  induction events generalizing s with
  | nil => rfl
  | cons ev rest ih =>
    have hse := onTransfer_stepped h ev
    exact (ih (hse.inv h)).trans ((hse.handOver h).kept h.exclusive)

theorem Inv.later (i : Nat) (op : Transfer)
    (hop : s.transfers[i]? = some op) :
    ∃ op', (Machine.exec transferStep s events).transfers[i]? = some op' ∧ op.Later op' := by
  induction events generalizing s op with
  | nil => exact ⟨op, hop, .refl op⟩
  | cons ev rest ih =>
    have hse := onTransfer_stepped h ev
    obtain ⟨op', hop', hl, -⟩ := hse.follows h hop
    obtain ⟨op'', hop'', hl'⟩ := ih (hse.inv h) op' hop'
    exact ⟨op'', hop'', hl.trans hl'⟩

end

/-- The promise of a transfer between the state `now` and any state `after` it: `before` is
where the run began. -/
structure HandsOverOnce (before now after : System) : Prop where
  one_holder : ∀ holder id ep, before.held holder id = some ep →
    ∃! holder, now.held holder id = some ep
  no_other : ∀ id holder holder' ep ep', now.held holder id = some ep →
    now.held holder' id = some ep' → holder = holder'
  returned : ∀ (i : Nat) (op : Transfer), now.transfers[i]? = some op →
    ∃ op', after.transfers[i]? = some op' ∧ op'.target = op.target ∧
      op'.source = op.source ∧ op'.endpointId = op.endpointId ∧
      (op.result = some (.ok ()) → op'.inserted = true ∧ op'.restored = false) ∧
      ∀ e, op.result = some (.error e) → op'.inserted = false
  finished : ∀ (i : Nat) (op : Transfer), now.transfers[i]? = some op → op.finished = true →
    op.slot.bundle = none ∧ op.slot.reserved = false ∧
      ∀ st, now.state op.source = some st → op.endpointId ∈ st.reservedTransfers →
        ∃ j, j ≠ i ∧ now.Reserves j (op.source, op.endpointId)
  recorded : ∀ (ev : TransferEvent) (i : Nat) (op op' : Transfer), now.transfers[i]? = some op →
    (now.onTransfer ev).transfers[i]? = some op' → Recorded now (now.onTransfer ev) i op op'

theorem transfer_hands_over_once (s : System) (hidle : s.Idle)
    (events later : List TransferEvent) :
    HandsOverOnce s (Machine.exec transferStep s events)
      (Machine.exec transferStep s (events ++ later)) := by
  have hnow := hidle.inv.exec events
  rw [Machine.exec_append]
  refine ⟨?_, hnow.exclusive, ?_, ?_, ?_⟩
  · intro holder id ep hheld
    obtain ⟨holder', hheld'⟩ := (hidle.inv.kept events id ep).mpr ⟨holder, hheld⟩
    exact hnow.exclusive.existsUnique hheld'
  · intro i op hop
    obtain ⟨op', hop', hlater⟩ := hnow.later later i op hop
    have hsound := (hnow.exec later).sound i op' hop'
    refine ⟨op', hop', hlater.target, hlater.source, hlater.endpointId, ?_, ?_⟩
    · intro hok
      have hcommitted := (hsound.result _ (hlater.result _ hok)).2
      refine ⟨by rw [hsound.inserted, ← hcommitted]; rfl, ?_⟩
      rw [Bool.eq_false_iff]
      intro hrestored
      rw [(hsound.restored hrestored).2] at hcommitted
      contradiction
    intro e herror
    rw [hsound.inserted, ← (hsound.result _ (hlater.result _ herror)).2]
    rfl
  · intro i op hop hfinished
    have hsound := hnow.sound i op hop
    have hreserved := (hsound.finished hfinished).2
    refine ⟨?_, hreserved, fun st hst hmem => ?_⟩
    · cases hbundle : op.slot.bundle with
      | none => rfl
      | some bundle =>
        rw [(hsound.bundle bundle hbundle).2.1] at hreserved
        contradiction
    obtain ⟨j, hj⟩ := hnow.ledger.owned (op.source, op.endpointId) ⟨st, hst, hmem⟩
    refine ⟨j, ?_, hj⟩
    rintro rfl
    rw [((reserves_self hop _).mp hj).2] at hreserved
    contradiction
  · intro ev i op op' hop hop'
    obtain ⟨next, hnext, -, hrecorded⟩ := (onTransfer_stepped hnow ev).follows hnow hop
    cases hop'.symm.trans hnext
    exact hrecorded

/-! Two sessions with an endpoint each.  The first transfer loses its last reply
and succeeds, a second one of the same endpoint is refused, and one in the other
direction runs into its deadline while its endpoint is in the slot. -/

def sampleSession (sid : SessionId) (ep : Endpoint) : Task where
  state :=
    { sessionId := sid, endpoints := ∅, reservedTransfers := ∅, maxEndpoints := 2
      keyed := by simp : SessionState }.put ep
  commands := .opened 64

def sampleSystem : System where
  sessions := ((∅ : HashMap SessionId Task).insert 1 (sampleSession 1 (.webRtc 10))).insert 2
    (sampleSession 2 (.webRtc 20))

def sampleTransfers : List TransferEvent :=
  [.start 1 2 10, .start 1 2 10, .start 2 1 20,
    .reserve 0, .reserve 0, .reserve 0, .reserve 1, .reserve 1, .reserve 1,
    .reserve 2, .reserve 2, .reserve 2,
    .poll 0, .poll 1, .poll 2, .process 1, .process 1, .process 2,
    .poll 0, .poll 1, .expire 2, .process 2, .process 2, .loseReply 0, .poll 0,
    .process 1, .process 1]

theorem sampleSystem_task (sid : SessionId) : sampleSystem.task sid =
      if sid = 2 then some (sampleSession 2 (.webRtc 20))
      else if sid = 1 then some (sampleSession 1 (.webRtc 10)) else none := by
  unfold task sampleSystem
  by_cases h2 : sid = 2
  · rw [if_pos h2, h2, AList.lookup_insert]
  rw [if_neg h2, AList.lookup_insert_ne h2]
  by_cases h1 : sid = 1
  · rw [if_pos h1, h1, AList.lookup_insert]
  · rw [if_neg h1, AList.lookup_insert_ne h1]
    rfl

theorem sampleSession_find {sid : SessionId} {ep : Endpoint} {id : EndpointId}
    (h : ((sampleSession sid ep).state.find id).isSome) : id = ep.id := by
  rw [sampleSession, SessionState.find_put] at h
  by_cases hid : id = ep.id
  · exact hid
  · rw [if_neg hid] at h
    contradiction

theorem sampleSystem_idle : sampleSystem.Idle where
  transfers := rfl
  queues sid := by
    rw [queue, sampleSystem_task]
    split
    · rfl
    · split <;> rfl
  reserved sid st hst := by
    rw [state, sampleSystem_task] at hst
    split at hst
    · cases hst
      rfl
    split at hst
    · cases hst
      rfl
    · contradiction
  apart id sid sid' st st' hst hst' hep hep' := by
    have hc : ∀ sid st, sampleSystem.state sid = some st → (st.find id).isSome →
        sid = 2 ∧ id = 20 ∨ sid = 1 ∧ id = 10 := by
      intro sid st hst hep
      rw [state, sampleSystem_task] at hst
      split at hst
      · rename_i hsi
        cases hst
        exact .inl ⟨hsi, sampleSession_find hep⟩
      split at hst
      · rename_i hsi
        cases hst
        exact .inr ⟨hsi, sampleSession_find hep⟩
      · contradiction
    grind

/-- Result, inserted, put back and finished, for each of the three. -/
theorem sampleTransfers_handed_over : (exec transferStep sampleSystem sampleTransfers).transfers.map
        (fun op => (op.result.map Except.isOk, op.inserted, op.restored, op.finished)) =
      [(some true, true, false, true), (some false, false, false, true),
        (some false, false, true, true)] ∧
    HandsOverOnce sampleSystem (exec transferStep sampleSystem sampleTransfers)
      (exec transferStep sampleSystem (sampleTransfers ++ [.process 1])) :=
  ⟨by decide +kernel, transfer_hands_over_once sampleSystem sampleSystem_idle _ _⟩

end System
end RtpBridge.Session
