/-
The books a session keeps about its endpoints.
-/
import RtpBridge.Session.Capacity

namespace RtpBridge.Session

def SessionCommand.drawn : SessionCommand → Option EndpointId
  | .createFromOffer _ (.ok ep) | .createOffer _ (.ok ep) => some ep.id
  | .createWithFile _ id _ | .createWithTone id | .createWebSocket id => some id
  | .insertBridgeEndpoint bridge => some bridge.id
  | _ => none

namespace MediaSession

variable {m m' : MediaSession} {id : EndpointId} {fresh : Prop} {ev : SessionEvent} {gauge : Int}

/-- What the empty-session timeout and the session manager read is right. -/
structure Settled (m : MediaSession) : Prop where
  empty : m.emptySince = none ↔ 0 < HashMap.size m.state.endpoints
  count : m.endpointCount = HashMap.size m.state.endpoints

theorem settled_rebuilt (m : MediaSession) (change : Int) :
    (m.rebuildRouting.active change).Settled := by
  refine ⟨?_, rfl⟩
  show (if HashMap.size m.state.endpoints = 0 then m.emptySince.or (some m.now) else none) = none ↔
    0 < HashMap.size m.state.endpoints
  grind

structure Books (fresh : Prop) (m m' : MediaSession) : Prop where
  settled : m.Settled → m'.Settled
  gauge : fresh → m'.endpointsActive - HashMap.size m'.state.endpoints =
    m.endpointsActive - HashMap.size m.state.endpoints
  running : m'.running = m.running

theorem Books.refl (fresh : Prop) (m : MediaSession) : Books fresh m m :=
  ⟨fun h => h, fun _ => rfl, rfl⟩

theorem Books.trans {m'' : MediaSession} (h : Books fresh m m') (h' : Books fresh m' m'') :
    Books fresh m m'' where
  settled := fun hm => h'.settled (h.settled hm)
  gauge := fun hf => (h'.gauge hf).trans (h.gauge hf)
  running := h'.running.trans h.running

theorem Books.imp {fresh' : Prop} (h : Books fresh m m') (hf : fresh' → fresh) :
    Books fresh' m m' :=
  ⟨h.settled, fun h' => h.gauge (hf h'), h.running⟩

theorem Books.same (fresh : Prop)
    (hs : HashMap.size m'.state.endpoints = HashMap.size m.state.endpoints)
    (hc : m'.endpointCount = m.endpointCount) (he : m'.emptySince = m.emptySince)
    (hg : m'.endpointsActive = m.endpointsActive) (hr : m'.running = m.running) :
    Books fresh m m' := by
  refine ⟨fun hm => ⟨?_, ?_⟩, fun _ => ?_, hr⟩
  · rw [he, hs]
    exact hm.empty
  · rw [hc, hs]
    exact hm.count
  · rw [hg, hs]

theorem Books.rebuilt (middle : MediaSession) (change : Int)
    (hg : middle.endpointsActive = m.endpointsActive) (hr : middle.running = m.running)
    (hs : fresh → (HashMap.size middle.state.endpoints : Int) =
      HashMap.size m.state.endpoints + change) :
    Books fresh m (middle.rebuildRouting.active change) := by
  refine ⟨fun _ => settled_rebuilt middle change, fun hf => ?_, hr⟩
  have hs := hs hf
  show middle.endpointsActive + change - (HashMap.size middle.state.endpoints : Int) = _
  omega

/-! ## The commands -/

theorem active_zero (m : MediaSession) : m.active 0 = m := by
  unfold active
  rw [Int.add_zero]

theorem size_put_new {st : SessionState} (ep : Endpoint) (hn : ep.id ∉ st.endpoints) :
    (HashMap.size (st.put ep).endpoints : Int) = HashMap.size st.endpoints + 1 := by
  have h := HashMap.size_insert_new ep hn
  show ((HashMap.size (st.endpoints.insert ep.id ep) : Nat) : Int) = _
  omega

theorem size_erase_old {st : SessionState} (hold : id ∈ st.endpoints) :
    (HashMap.size (st.erase id).endpoints : Int) = HashMap.size st.endpoints + (-1) := by
  have h := HashMap.size_erase hold
  show ((HashMap.size (st.endpoints.erase id) : Nat) : Int) = _
  omega

theorem create_books (m : MediaSession) (refusal : String) (made : Except String Endpoint) :
    Books (∀ ep, made = .ok ep → ep.id ∉ m.state.endpoints) m (m.create refusal made).1 := by
  unfold create
  split
  · exact .refl _ m
  cases made with
  | error e => exact .refl _ m
  | ok ep => exact .rebuilt (m.insert ep) 1 rfl rfl fun h => size_put_new ep (h ep rfl)

section

variable (fresh : Prop) (m : MediaSession) (id : EndpointId)

theorem handleFileInitialized_books (result : Except String Unit) (replyClosed : Bool) :
    Books fresh m (m.handleFileInitialized id result replyClosed) := by
  unfold handleFileInitialized
  split
  · split
    · rename_i hold
      rw [← active_zero (m.insert (.file id)).rebuildRouting]
      refine .rebuilt (m.insert (.file id)) 0 rfl rfl fun _ => ?_
      have h := HashMap.size_insert_old (Endpoint.file id) hold
      show ((HashMap.size (m.state.endpoints.insert id (Endpoint.file id)) : Nat) : Int) = _
      omega
    · exact .refl _ m
  split
  · rename_i hold
    exact .rebuilt (m.remove id) (-1) rfl rfl fun _ => size_erase_old hold
  · exact .refl _ m

theorem handleFileReady_books (result : Except String Unit) (queueFree : Bool) :
    Books fresh m (m.handleFileReady id result queueFree) := by
  unfold handleFileReady
  split
  · exact handleFileInitialized_books fresh m _ _ _
  split
  · split
    · exact .refl _ m
    · exact handleFileInitialized_books fresh m _ _ _
  · exact .refl _ m

theorem handleRemoveEndpoint_books : Books fresh m (m.handleRemoveEndpoint id).1 := by
  unfold handleRemoveEndpoint SessionState.handleRemoveEndpoint
  cases hf : m.state.find id with
  | none => exact .refl _ m
  | some ep =>
    have hold : id ∈ m.state.endpoints := AList.lookup_isSome.mp (Option.isSome_of_mem hf)
    cases ep <;> exact .rebuilt (m.remove id) (-1) rfl rfl fun _ => size_erase_old hold

end

theorem insertBridgeEndpoint_books (m : MediaSession) (bridge : BridgeEndpoint) :
    Books (bridge.id ∉ m.state.endpoints) m (m.insertBridgeEndpoint bridge).1 := by
  unfold insertBridgeEndpoint SessionState.handleInsertBridgeEndpoint
  by_cases hf : m.state.Full
  · rw [if_pos hf]
    exact .refl _ m
  rw [if_neg hf]
  exact .rebuilt (m.insert (.bridge bridge)) 1 rfl rfl fun hn =>
    size_put_new (.bridge bridge) hn

section

variable (fresh : Prop) (m : MediaSession)

theorem commitTransfer_books (slot : TransferState) : Books fresh m (m.commitTransfer slot).1 := by
  have hc := m.state.commitTransfer_committed slot
  unfold commitTransfer
  generalize m.state.commitTransfer slot = result at hc
  cases hc with
  | refused e => exact .refl _ m
  | inserted bundle ho hb hn =>
    exact .rebuilt (m.insert bundle.endpoint) 1 rfl rfl fun _ =>
      size_put_new bundle.endpoint (AList.lookup_eq_none.mp hn)

theorem prepareTransfer_books (i : Nat) : Books fresh m (m.prepareTransfer i).1 := by
  unfold prepareTransfer
  cases m.slots[i]? with
  | none => exact .refl _ m
  | some entry =>
    obtain ⟨id, slot⟩ := entry
    dsimp only
    rcases m.state.prepareTransfer_cases slot id with ⟨slot', e, -, h⟩ | ⟨ep, -, hf, h⟩
    · rw [h]
      exact .same _ rfl rfl rfl rfl rfl
    have hold : id ∈ m.state.endpoints := AList.lookup_isSome.mp (Option.isSome_of_mem hf)
    rw [h]
    exact .rebuilt (m := m) ({ m with state := (m.state.reserve id).erase id }.setSlot i id _) (-1)
      rfl rfl fun _ => size_erase_old hold

theorem finishTransfer_books (i : Nat) : Books fresh m (m.finishTransfer i) := by
  unfold finishTransfer
  cases m.slots[i]? with
  | none => exact .refl _ m
  | some entry =>
    obtain ⟨id, slot⟩ := entry
    dsimp only
    rcases m.state.finishTransfer_cases slot id with
      h | ⟨-, slot', -, -, h | ⟨ep, hn, -, h⟩⟩
    · rw [h]
      exact .same _ rfl rfl rfl rfl rfl
    · rw [h]
      exact .same _ rfl rfl rfl rfl rfl
    rw [h]
    exact .rebuilt (m := m) ({ m with state := (m.state.put ep).unreserve id }.setSlot i id slot') 1
      rfl rfl fun _ => size_put_new ep hn

end

def Fresh (m : MediaSession) : SessionEvent → Prop
  | .command c => ∀ id, c.drawn = some id → id ∉ m.state.endpoints
  | _ => True

def OpensLocalFile (m : MediaSession) : SessionEvent → Prop
  | .command (.createWithFile false _ (.ok ())) => ¬m.state.Full
  | _ => False

theorem createWithFile_books {isUrl : Bool} {id : EndpointId} {started : Except String Unit}
    (h : ¬m.OpensLocalFile (.command (.createWithFile isUrl id started))) :
    Books (id ∉ m.state.endpoints) m (m.createWithFile isUrl id started).1 := by
  unfold createWithFile
  cases isUrl with
  | false =>
    by_cases hf : m.state.Full
    · simp only [hf]
      exact .refl _ m
    cases started with
    | error e =>
      simp only [hf]
      exact .refl _ m
    | ok => exact (h hf).elim
  | true =>
    refine (m.create_books _ _).imp fun hn ep hep => ?_
    cases started with
    | error e => cases hep
    | ok =>
      cases hep
      exact hn

theorem handleCommand_books {c : SessionCommand} (hc : c ≠ .destroy)
    (hl : ¬m.OpensLocalFile (.command c)) :
    Books (m.Fresh (.command c)) m (m.handleCommand c).1 := by
  cases c with
  | createFromOffer selected made =>
    cases selected with
    | error e => exact .refl _ m
    | ok =>
      refine (m.create_books _ _).imp fun hf ep hep => ?_
      subst hep
      exact hf _ rfl
  | createOffer plan made =>
    cases plan with
    | error e => exact .refl _ m
    | ok =>
      refine (m.create_books _ _).imp fun hf ep hep => ?_
      subst hep
      exact hf _ rfl
  | createWithFile isUrl id started =>
    exact (createWithFile_books hl).imp fun hf => hf id rfl
  | createWithTone id =>
    refine (m.create_books _ _).imp fun hf ep hep => ?_
    cases hep
    exact hf _ rfl
  | createWebSocket id =>
    refine (m.create_books _ _).imp fun hf ep hep => ?_
    cases hep
    exact hf _ rfl
  | fileReady id result queueFree => exact handleFileReady_books _ m id result queueFree
  | fileInitialized id result replyClosed =>
    exact handleFileInitialized_books _ m id result replyClosed
  | removeEndpoint id => exact handleRemoveEndpoint_books _ m id
  | insertBridgeEndpoint bridge =>
    exact (m.insertBridgeEndpoint_books bridge).imp fun hf => hf _ rfl
  | prepareTransfer i => exact prepareTransfer_books _ m i
  | commitTransfer slot => exact commitTransfer_books _ m slot
  | finishTransfer i => exact finishTransfer_books _ m i
  | destroy => exact (hc rfl).elim
  | other => exact .refl _ m

/-! ## Runs -/

section

variable (fresh : Prop) (m : MediaSession)

theorem removeAll_books (ids : List EndpointId) : Books fresh m (m.removeAll ids) := by
  induction ids generalizing m with
  | nil => exact .refl _ m
  | cons id rest ih => exact (handleRemoveEndpoint_books fresh m id).trans (ih _)

theorem transferCancelled_books (i : Nat) : Books fresh m (m.transferCancelled i) := by
  unfold transferCancelled
  cases m.slots[i]? with
  | none => exact .refl _ m
  | some entry => exact .same _ rfl rfl rfl rfl rfl

theorem transferCommitted_books (i : Nat) : Books fresh m (m.transferCommitted i) := by
  unfold transferCommitted
  cases m.slots[i]? with
  | none => exact .refl _ m
  | some entry =>
    dsimp only
    split
    · exact .refl _ m
    · exact .same _ rfl rfl rfl rfl rfl

end

theorem call_books (hl : ¬m.OpensLocalFile ev) : Books (m.Fresh ev) m (m.call ev).1 ∨
      m.running = true ∧ ((m.call ev).1 = m.finish ∨ (m.call ev).1 = m.cleanupGuard) := by
  unfold call
  by_cases hr : m.running = true
  · rw [if_neg (by simp [hr]), and_iff_right hr]
    cases ev with
    | command c =>
      by_cases hc : c = .destroy
      · subst hc
        exact .inr (.inl rfl)
      · exact .inl (handleCommand_books hc hl)
    | connectTimeouts expired => exact .inl (removeAll_books _ m expired)
    | checkTimeouts idle =>
      dsimp only
      unfold checkTimeouts
      split
      · exact .inr (.inl rfl)
      split
      · exact .inr (.inl rfl)
      · exact .inl (.refl _ m)
    | wait duration => exact .inl (.same _ rfl rfl rfl rfl rfl)
    | abort => exact .inr (.inr rfl)
    | transferOpened id => exact .inl (.same _ rfl rfl rfl rfl rfl)
    | transferCancelled i => exact .inl (transferCancelled_books _ m i)
    | transferCommitted i => exact .inl (transferCommitted_books _ m i)
  · rw [if_pos (by simpa using hr)]
    exact .inl (.refl _ m)

theorem settled_call (hl : ¬m.OpensLocalFile ev) (h : m.running = true → m.Settled) :
    (m.call ev).1.running = true → (m.call ev).1.Settled := by
  intro hr
  rcases call_books hl with hb | ⟨-, he | he⟩
  · exact hb.settled (h (hb.running ▸ hr))
  · rw [he] at hr
    exact (Bool.false_ne_true hr).elim
  · rw [he] at hr
    exact (Bool.false_ne_true hr).elim

def Owes (gauge : Int) (m : MediaSession) : Prop :=
  m.endpointsActive = gauge + if m.running then (HashMap.size m.state.endpoints : Int) else 0

theorem owes_finish (hr : m.running = true) (h : m.Owes gauge) : m.finish.Owes gauge := by
  unfold Owes at h ⊢
  rw [if_pos hr] at h
  show m.endpointsActive - (HashMap.size m.state.endpoints : Int) - ((0 : Nat) : Int) = gauge + 0
  omega

theorem owes_cleanupGuard (hr : m.running = true) (hm : m.Settled) (h : m.Owes gauge) :
    m.cleanupGuard.Owes gauge := by
  unfold Owes at h ⊢
  rw [if_pos hr] at h
  show m.endpointsActive - (m.endpointCount : Int) = gauge + 0
  rw [hm.count]
  omega

theorem owes_call (hl : ¬m.OpensLocalFile ev) (hf : m.Fresh ev)
    (hm : m.running = true → m.Settled) (h : m.Owes gauge) : (m.call ev).1.Owes gauge := by
  rcases call_books hl with hb | ⟨hr, he | he⟩
  · have hg := hb.gauge hf
    unfold Owes at h ⊢
    rw [hb.running]
    cases hr : m.running with
    | true =>
      rw [hr, if_pos rfl] at h
      rw [if_pos rfl]
      omega
    | false =>
      -- an ended task does not move any more
      have hs : (m.call ev).1 = m := by
        unfold call
        rw [hr]
        rfl
      rw [hs]
      rwa [hr] at h
  · rw [he]
    exact owes_finish hr h
  · rw [he]
    exact owes_cleanupGuard hr (hm hr) h

section

variable (sessionId : SessionId) (maxEndpoints timeout : Nat) (gauge : Int) (now : Nat)

theorem settled_start : (start sessionId maxEndpoints timeout gauge now).Settled :=
  ⟨⟨fun h => (Option.some_ne_none _ h).elim, fun h => (Nat.lt_irrefl 0 h).elim⟩, rfl⟩

theorem owes_start : (start sessionId maxEndpoints timeout gauge now).Owes gauge :=
  (Int.add_zero gauge).symm

end

theorem empty_of_checkTimeouts (hr : m.running = true) (hm : m.Settled)
    (he : (m.call (.checkTimeouts false)).1.running = false) :
    HashMap.size m.state.endpoints = 0 := by
  have hc : (m.call (.checkTimeouts false)).1 = if m.emptyTimedOut then m.finish else m := by
    unfold call
    rw [if_neg (by simp [hr])]
    rfl
  rw [hc] at he
  cases hs : m.emptySince with
  | none =>
    have hn : m.emptyTimedOut = false := by
      unfold emptyTimedOut
      rw [hs]
    rw [hn, if_neg Bool.false_ne_true, hr] at he
    exact (Bool.false_ne_true he.symm).elim
  | some since =>
    have hn : ¬0 < HashMap.size m.state.endpoints := fun hp =>
      Option.some_ne_none since (hs.symm.trans (hm.empty.mpr hp))
    omega

/-- In a run that opens no local file the books are right after every step, the
timeout spares a session that has an endpoint, and the task leaves the gauge as it
found it, provided that the ids it drew were new. -/
theorem emptiness_exact (sessionId : SessionId) (maxEndpoints timeout : Nat) (gauge : Int)
    (now : Nat) {events : List SessionEvent}
    (hlocal : Machine.Along call (fun _ m ev => ¬m.OpensLocalFile ev)
      (start sessionId maxEndpoints timeout gauge now) events)
    {m : MediaSession}
    (hm : m = Machine.exec call (start sessionId maxEndpoints timeout gauge now) events) :
    (m.running = true → (m.emptySince = none ↔ 0 < HashMap.size m.state.endpoints) ∧
        m.endpointCount = HashMap.size m.state.endpoints ∧
        ((m.call (.checkTimeouts false)).1.running = false → HashMap.size m.state.endpoints = 0)) ∧
      (Machine.Along call (fun _ m ev => m.Fresh ev)
          (start sessionId maxEndpoints timeout gauge now) events →
        m.running = false → m.endpointsActive = gauge) := by
  subst hm
  refine ⟨fun hrunning => ?_, fun hfresh hended => ?_⟩
  · have hsettled := Machine.along_induction (P := fun _ m => m.running = true → m.Settled)
      (fun _ => settled_start sessionId maxEndpoints timeout gauge now)
      (fun _ _ _ hlocal h => settled_call hlocal h) hlocal hrunning
    exact ⟨hsettled.empty, hsettled.count, empty_of_checkTimeouts hrunning hsettled⟩
  have howes := Machine.along_induction
    (P := fun _ m => (m.running = true → m.Settled) ∧ m.Owes gauge)
    ⟨fun _ => settled_start sessionId maxEndpoints timeout gauge now,
      owes_start sessionId maxEndpoints timeout gauge now⟩
    (fun _ _ _ h hP => ⟨settled_call h.1 hP.1, owes_call h.1 h.2 hP.1 hP.2⟩)
    (hlocal.and hfresh)
  have hgauge := howes.2
  unfold Owes at hgauge
  rw [hended] at hgauge
  exact hgauge.trans (Int.add_zero gauge)

def sampleTone : List SessionEvent :=
  [.wait 3, .command (.createWithTone 1), .wait 9, .checkTimeouts false,
    .command (.removeEndpoint 1), .wait 5, .checkTimeouts false]

theorem sampleTone_exact :
    (Machine.exec call (start 0 4 5 7 0) (sampleTone.take 4)).running = true ∧
      (Machine.exec call (start 0 4 5 7 0) sampleTone).running = false ∧
      (Machine.exec call (start 0 4 5 7 0) sampleTone).endpointsActive = 7 := by
  have hlocal : Machine.Along call (fun _ m ev => ¬m.OpensLocalFile ev) (start 0 4 5 7 0)
      sampleTone :=
    ⟨fun h => h, fun h => h, fun h => h, fun h => h, fun h => h, fun h => h, fun h => h, trivial⟩
  have hfresh : Machine.Along call (fun _ m ev => m.Fresh ev) (start 0 4 5 7 0) sampleTone :=
    ⟨trivial, fun _ _ => AList.notMem_empty _, trivial, trivial,
      fun _ h => (Option.some_ne_none _ h.symm).elim, trivial, trivial, trivial⟩
  exact ⟨rfl, rfl, (emptiness_exact 0 4 5 7 0 hlocal rfl).2 hfresh rfl⟩

def sampleOpening : MediaSession :=
  Machine.exec call (start 0 4 5 0 0) [.command (.createWithFile false 1 (.ok ()))]

/-- The session counts as empty while it holds an endpoint: it times out, and a
task that is aborted then leaves the endpoint on the gauge. -/
theorem local_file_uncounted :
    HashMap.size sampleOpening.state.endpoints = 1 ∧ sampleOpening.emptySince = some 0 ∧
      sampleOpening.endpointCount = 0 ∧
      HashMap.size (Machine.exec call sampleOpening [.wait 5]).state.endpoints = 1 ∧
      (Machine.exec call sampleOpening [.wait 5, .checkTimeouts false]).running = false ∧
      (Machine.exec call sampleOpening [.abort]).running = false ∧
      (Machine.exec call sampleOpening [.abort]).endpointsActive = 1 :=
  ⟨rfl, rfl, rfl, rfl, rfl, rfl, rfl⟩

end RtpBridge.Session.MediaSession
