/-
The part of a media session that owns endpoints.

A session keeps its endpoints by id and the ids whose return it has promised to
accept while they are out for a transfer.  The handlers below add, remove, take
out and put back an endpoint.  Prepare, commit and finish are the three commands
of a transfer; they share a slot, which holds the endpoint between extraction
and insertion together with the flags the parties agree through.

A channel handle is named by the session that receives from it.  The state that
travels with an endpoint (detectors, decoders, recordings, routing, events) is
left out: it follows the endpoint and decides nothing here.
-/
import RtpBridge.Session.Rtp.Endpoint

namespace RtpBridge.Session

open AList

abbrev SessionId := BitVec 128

structure BridgeEndpoint where
  id : EndpointId
  remotePacketTx : SessionId
  pairedEndpointId : EndpointId
  pairedSessionId : SessionId
  /-- The session that is told when this endpoint is removed. -/
  pairedCmdTx : SessionId
deriving DecidableEq

inductive Endpoint
  | webRtc (id : EndpointId)
  | rtp (endpoint : RtpEndpoint)
  | file (id : EndpointId)
  | tone (id : EndpointId)
  | bridge (endpoint : BridgeEndpoint)
  | webSocket (id : EndpointId)

def Endpoint.id : Endpoint → EndpointId
  | .webRtc id | .file id | .tone id | .webSocket id => id
  | .rtp endpoint => endpoint.id
  | .bridge endpoint => endpoint.id

structure SessionState where
  sessionId : SessionId
  endpoints : HashMap EndpointId Endpoint
  reservedTransfers : Finset EndpointId
  maxEndpoints : Nat
  keyed : ∀ id ep, endpoints.lookup id = some ep → ep.id = id

namespace SessionState

variable {st : SessionState} {id j : EndpointId} {ep : Endpoint}

def find (st : SessionState) (id : EndpointId) : Option Endpoint := st.endpoints.lookup id

def erase (st : SessionState) (id : EndpointId) : SessionState :=
  { st with
    endpoints := st.endpoints.erase id
    keyed := by
      intro j ep hl
      by_cases hj : j = id
      · subst hj
        simp at hl
      · rw [lookup_erase_ne hj] at hl
        exact st.keyed j ep hl }

def put (st : SessionState) (ep : Endpoint) : SessionState :=
  { st with
    endpoints := st.endpoints.insert ep.id ep
    keyed := by
      intro j ep' hl
      by_cases hj : j = ep.id
      · subst hj
        rw [lookup_insert] at hl
        cases hl
        rfl
      · rw [lookup_insert_ne hj] at hl
        exact st.keyed j ep' hl }

def reserve (st : SessionState) (id : EndpointId) : SessionState :=
  { st with reservedTransfers := insert id st.reservedTransfers }

def unreserve (st : SessionState) (id : EndpointId) : SessionState :=
  { st with reservedTransfers := st.reservedTransfers.erase id }

def Full (st : SessionState) : Prop :=
  0 < st.maxEndpoints ∧
    st.maxEndpoints ≤ HashMap.size st.endpoints + st.reservedTransfers.card

instance (st : SessionState) : Decidable st.Full := inferInstanceAs (Decidable (_ ∧ _))

theorem id_of_find (h : st.find id = some ep) : ep.id = id := st.keyed id ep h

theorem find_erase (st : SessionState) (id j : EndpointId) :
    (st.erase id).find j = if j = id then none else st.find j := by
  split
  · rename_i hj
    subst hj
    exact lookup_erase j st.endpoints
  · rename_i hj
    exact lookup_erase_ne hj

theorem find_put (st : SessionState) (ep : Endpoint) (j : EndpointId) :
    (st.put ep).find j = if j = ep.id then some ep else st.find j := by
  split
  · rename_i hj
    subst hj
    exact lookup_insert st.endpoints
  · rename_i hj
    exact lookup_insert_ne hj

@[simp] theorem find_reserve : (st.reserve id).find j = st.find j := rfl

@[simp] theorem find_unreserve : (st.unreserve id).find j = st.find j := rfl

@[simp] theorem reserved_erase : (st.erase id).reservedTransfers = st.reservedTransfers := rfl

@[simp] theorem reserved_put : (st.put ep).reservedTransfers = st.reservedTransfers := rfl

theorem unreserve_reserve (h : id ∉ st.reservedTransfers) : (st.reserve id).unreserve id = st := by
  unfold reserve unreserve
  simp [Finset.erase_insert h]

end SessionState

structure EndpointTransferBundle where
  endpoint : Endpoint
  sourceSessionId : SessionId

structure TransferState where
  bundle : Option EndpointTransferBundle := none
  reserved : Bool := false
  cancelled : Bool := false
  committed : Bool := false

/-! ## Handlers of the session task -/

namespace SessionState

def handleExtractEndpoint (st : SessionState) (id : EndpointId) :
    SessionState × Except String EndpointTransferBundle :=
  match st.find id with
  | some (.file _) | some (.tone _) | some (.webSocket _) =>
    (st, .error "File, tone, and websocket endpoints cannot be transferred")
  | some ep => (st.erase id, .ok ⟨ep, st.sessionId⟩)
  | none => (st, .error "Endpoint not found")

def handleInsertEndpoint (st : SessionState) (bundle : EndpointTransferBundle) :
    SessionState × Except String Unit :=
  -- an id this session has reserved comes home whatever the capacity
  if bundle.endpoint.id ∉ st.reservedTransfers ∧ st.Full then
    (st, .error "Maximum endpoints per session reached")
  else if bundle.endpoint.id ∈ st.endpoints then
    (st, .error "endpoint already exists in target session")
  else (st.put bundle.endpoint, .ok ())

def handleInsertBridgeEndpoint (st : SessionState) (bridge : BridgeEndpoint) :
    SessionState × Except String EndpointId :=
  if st.Full then (st, .error "Maximum endpoints per session reached")
  else (st.put (.bridge bridge), .ok bridge.id)

def handleRemoveEndpoint (st : SessionState) (id : EndpointId) :
    SessionState × Option (SessionId × EndpointId) × Except String Unit :=
  match st.find id with
  | some (.bridge bridge) =>
    (st.erase id, some (bridge.pairedCmdTx, bridge.pairedEndpointId), .ok ())
  | some _ => (st.erase id, none, .ok ())
  | none => (st, none, .error "Endpoint not found")

def prepareTransfer (st : SessionState) (slot : TransferState) (id : EndpointId) :
    SessionState × TransferState × Except String Unit :=
  if slot.cancelled then (st, slot, .error "transfer cancelled")
  else if id ∈ st.reservedTransfers then (st, slot, .error "endpoint transfer already pending")
  else
    match (st.reserve id).handleExtractEndpoint id with
    | (st', .ok bundle) => (st', { slot with reserved := true, bundle := some bundle }, .ok ())
    | (st', .error e) => (st'.unreserve id, { slot with reserved := false }, .error e)

def commitTransfer (st : SessionState) (slot : TransferState) :
    SessionState × TransferState × Except String Unit :=
  if slot.cancelled then (st, slot, .error "transfer cancelled")
  else
    match slot.bundle with
    | none => (st, slot, .error "transfer has no endpoint")
    | some bundle =>
      match st.handleInsertEndpoint bundle with
      | (st', .ok ()) => (st', { slot with committed := true, bundle := none }, .ok ())
      | (st', .error e) => (st', slot, .error e)

def finishTransfer (st : SessionState) (slot : TransferState) (id : EndpointId) :
    SessionState × TransferState × Bool :=
  if !slot.reserved then (st, slot, false)
  else if slot.committed then (st.unreserve id, { slot with reserved := false }, false)
  else
    match slot.bundle with
    | none => (st.unreserve id, { slot with reserved := false }, false)
    | some bundle =>
      match st.handleInsertEndpoint bundle with
      | (st', .ok ()) =>
        (st'.unreserve id, { slot with reserved := false, bundle := none }, true)
      | (st', .error _) =>
        (st'.unreserve id, { slot with reserved := false, bundle := none }, false)

/-! ## What the handlers of a transfer do -/

section Outcomes

variable {st : SessionState} {slot : TransferState} {id : EndpointId}
  {bundle : EndpointTransferBundle}

theorem handleInsertEndpoint_cases (st : SessionState) (bundle : EndpointTransferBundle) :
    (∃ e, st.handleInsertEndpoint bundle = (st, .error e)) ∨
      st.find bundle.endpoint.id = none ∧
        st.handleInsertEndpoint bundle = (st.put bundle.endpoint, .ok ()) := by
  unfold handleInsertEndpoint
  split
  · exact .inl ⟨_, rfl⟩
  split
  · exact .inl ⟨_, rfl⟩
  · rename_i hn
    exact .inr ⟨lookup_eq_none.mpr hn, rfl⟩

theorem handleInsertEndpoint_of_reserved (hr : bundle.endpoint.id ∈ st.reservedTransfers)
    (hn : st.find bundle.endpoint.id = none) :
    st.handleInsertEndpoint bundle = (st.put bundle.endpoint, .ok ()) := by
  unfold handleInsertEndpoint
  rw [if_neg (fun hf => hf.1 hr), if_neg (lookup_eq_none.mp hn)]

theorem handleExtractEndpoint_cases (st : SessionState) (id : EndpointId) :
    (∃ e, st.handleExtractEndpoint id = (st, .error e)) ∨
      ∃ ep, st.find id = some ep ∧
        st.handleExtractEndpoint id = (st.erase id, .ok ⟨ep, st.sessionId⟩) := by
  unfold handleExtractEndpoint
  split
  · exact .inl ⟨_, rfl⟩
  · exact .inl ⟨_, rfl⟩
  · exact .inl ⟨_, rfl⟩
  · rename_i ep _ _ _ hf
    exact .inr ⟨ep, hf, rfl⟩
  · exact .inl ⟨_, rfl⟩

inductive Prepared (st : SessionState) (slot : TransferState) (id : EndpointId) :
    SessionState × TransferState × Except String Unit → Prop
  | refused (e : String) : Prepared st slot id (st, slot, .error e)
  | extracted (ep : Endpoint) (ho : slot.cancelled = false) (hf : id ∉ st.reservedTransfers)
      (hfi : st.find id = some ep) :
      Prepared st slot id ((st.reserve id).erase id,
        { slot with reserved := true, bundle := some ⟨ep, st.sessionId⟩ }, .ok ())

theorem prepareTransfer_prepared (st : SessionState) (slot : TransferState) (id : EndpointId)
    (hr : slot.reserved = true → id ∈ st.reservedTransfers) :
    Prepared st slot id (st.prepareTransfer slot id) := by
  unfold prepareTransfer
  split
  · exact .refused _
  rename_i ho
  split
  · exact .refused _
  rename_i hf
  rcases (st.reserve id).handleExtractEndpoint_cases id with ⟨e, h⟩ | ⟨ep, hfi, h⟩
  · -- nothing was taken out, so the reservation goes as it came
    have hs : { slot with reserved := false } = slot := by
      have hn : slot.reserved = false := by
        simpa using fun h => hf (hr h)
      rw [← hn]
    rw [h]
    dsimp only
    rw [unreserve_reserve hf, hs]
    exact .refused e
  · rw [h]
    exact .extracted ep (by simpa using ho) hf hfi

inductive Committed (st : SessionState) (slot : TransferState) :
    SessionState × TransferState × Except String Unit → Prop
  | refused (e : String) : Committed st slot (st, slot, .error e)
  | inserted (bundle : EndpointTransferBundle) (ho : slot.cancelled = false)
      (hb : slot.bundle = some bundle) (hn : st.find bundle.endpoint.id = none) :
      Committed st slot
        (st.put bundle.endpoint, { slot with committed := true, bundle := none }, .ok ())

theorem commitTransfer_committed (st : SessionState) (slot : TransferState) :
    Committed st slot (st.commitTransfer slot) := by
  unfold commitTransfer
  split
  · exact .refused _
  rename_i ho
  split
  · exact .refused _
  rename_i bundle hb
  rcases st.handleInsertEndpoint_cases bundle with ⟨e, h⟩ | ⟨hn, h⟩
  · rw [h]
    exact .refused e
  · rw [h]
    exact .inserted bundle (by simpa using ho) hb hn

inductive Finished (st : SessionState) (slot : TransferState) (id : EndpointId) :
    SessionState × TransferState × Bool → Prop
  | unreserved (h : slot.reserved = false) : Finished st slot id (st, slot, false)
  | closed (hr : slot.reserved = true) (he : slot.bundle = none) :
      Finished st slot id (st.unreserve id, { slot with reserved := false }, false)
  | restored (bundle : EndpointTransferBundle) (hr : slot.reserved = true)
      (ho : slot.committed = false) (hb : slot.bundle = some bundle)
      (hn : st.find bundle.endpoint.id = none) :
      Finished st slot id ((st.put bundle.endpoint).unreserve id,
        { slot with reserved := false, bundle := none }, true)

theorem finishTransfer_finished (st : SessionState) (slot : TransferState) (id : EndpointId)
    (hb : ∀ bundle, slot.bundle = some bundle → slot.committed = false ∧
      bundle.endpoint.id ∈ st.reservedTransfers ∧ st.find bundle.endpoint.id = none) :
    Finished st slot id (st.finishTransfer slot id) := by
  have he : slot.committed = true → slot.bundle = none := by
    intro hc
    cases hs : slot.bundle with
    | none => rfl
    | some bundle => simp [(hb bundle hs).1] at hc
  unfold finishTransfer
  split
  · rename_i hr
    exact .unreserved (by simpa using hr)
  rename_i hr
  have hr : slot.reserved = true := by simpa using hr
  split
  · rename_i hc
    exact .closed hr (he hc)
  split
  · rename_i hs
    exact .closed hr hs
  rename_i ho bundle hs
  obtain ⟨hc, hh, hn⟩ := hb bundle hs
  rw [handleInsertEndpoint_of_reserved hh hn]
  exact .restored bundle hr hc hs hn

end Outcomes

end SessionState
end RtpBridge.Session
