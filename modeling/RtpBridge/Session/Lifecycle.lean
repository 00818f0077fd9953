/-
One session task from its first command to its end.

To the endpoints and reservations of a session this adds what the task keeps
about them: since when the session is empty, the number of endpoints it shows to
the session manager, and its part of the gauge of active endpoints.  The
commands that create, replace or remove an endpoint are here with the refusals
they send; what a constructor, the file cache or a queue answers is part of the
input.  The slots of transfers out of the session belong to it, the slots of
transfers into it come with the command.

A command is one step.  The task can also be aborted while a command waits; the
count and the gauge are then still those from before the command, so an abort is
a step between two commands.
-/
import RtpBridge.Session.State

namespace RtpBridge.Session

def SessionState.clear (st : SessionState) : SessionState :=
  { st with
    endpoints := ∅
    keyed := by
      intro id ep hl
      rw [AList.lookup_empty] at hl
      cases hl }

structure MediaSession where
  state : SessionState
  /-- The transfers out of this session, each with the endpoint it is for. -/
  slots : List (EndpointId × TransferState)
  emptySince : Option Nat
  endpointCount : Nat
  endpointsActive : Int
  now : Nat
  emptySessionTimeout : Nat
  running : Bool

/-- The commands that reach the endpoint table.  An `Except` is the answer of the
part of the handler that can fail before the table changes. -/
inductive SessionCommand
  | createFromOffer (selected : Except String Unit) (made : Except String Endpoint)
  | createOffer (plan : Except String Unit) (made : Except String Endpoint)
  | createWithFile (isUrl : Bool) (id : EndpointId) (started : Except String Unit)
  | createWithTone (id : EndpointId)
  | createWebSocket (id : EndpointId)
  | fileReady (id : EndpointId) (result : Except String Unit) (queueFree : Bool)
  | fileInitialized (id : EndpointId) (result : Except String Unit) (replyClosed : Bool)
  | removeEndpoint (id : EndpointId)
  | insertBridgeEndpoint (bridge : BridgeEndpoint)
  | prepareTransfer (slot : Nat)
  | commitTransfer (slot : TransferState)
  | finishTransfer (slot : Nat)
  | destroy
  | other

inductive SessionEvent
  | command (c : SessionCommand)
  | connectTimeouts (expired : List EndpointId)
  | checkTimeouts (idle : Bool)
  | wait (duration : Nat)
  | abort
  | transferOpened (id : EndpointId)
  | transferCancelled (slot : Nat)
  | transferCommitted (slot : Nat)

abbrev CommandReply := Option (Except String Unit)

namespace MediaSession

def start (sessionId : SessionId) (maxEndpoints : Nat) (emptySessionTimeout : Nat)
    (endpointsActive : Int) (now : Nat) : MediaSession where
  state :=
    { sessionId
      endpoints := ∅
      reservedTransfers := ∅
      maxEndpoints
      keyed := by
        intro id ep hl
        rw [AList.lookup_empty] at hl
        cases hl }
  slots := []
  emptySince := some now
  endpointCount := 0
  endpointsActive
  now
  emptySessionTimeout
  running := true

/-! ## Handlers -/

def rebuildRouting (m : MediaSession) : MediaSession :=
  { m with
    endpointCount := HashMap.size m.state.endpoints
    emptySince :=
      if HashMap.size m.state.endpoints = 0 then m.emptySince.or (some m.now) else none }

def active (m : MediaSession) (change : Int) : MediaSession :=
  { m with endpointsActive := m.endpointsActive + change }

def insert (m : MediaSession) (ep : Endpoint) : MediaSession :=
  { m with state := m.state.put ep }

def remove (m : MediaSession) (id : EndpointId) : MediaSession :=
  { m with state := m.state.erase id }

/-- The course of the create handlers: refuse, fail to build the endpoint, or
insert it and rebuild.  The caller counts the endpoint. -/
def create (m : MediaSession) (refusal : String) (made : Except String Endpoint) :
    MediaSession × CommandReply :=
  if m.state.Full then (m, some (.error refusal))
  else
    match made with
    | .error e => (m, some (.error e))
    | .ok ep => ((m.insert ep).rebuildRouting.active 1, some (.ok ()))

def createFromOffer (m : MediaSession) (selected : Except String Unit)
    (made : Except String Endpoint) : MediaSession × CommandReply :=
  match selected with
  | .error e => (m, some (.error e))
  | .ok () => m.create "MAX_ENDPOINTS_REACHED" made

def createOffer (m : MediaSession) (plan : Except String Unit)
    (made : Except String Endpoint) : MediaSession × CommandReply :=
  match plan with
  | .error e => (m, some (.error e))
  | .ok () => m.create "MAX_ENDPOINTS_REACHED" made

/-- A local file is opened by a task of its own that sends the reply; the
endpoint is in the table from now on, but nothing is rebuilt for it. -/
def createWithFile (m : MediaSession) (isUrl : Bool) (id : EndpointId)
    (started : Except String Unit) : MediaSession × CommandReply :=
  if !isUrl then
    if m.state.Full then (m, some (.error "MAX_ENDPOINTS_REACHED"))
    else
      match started with
      | .error e => (m, some (.error e))
      | .ok () => ((m.insert (.file id)).active 1, none)
  else m.create "MAX_ENDPOINTS_REACHED" (started.map fun _ => .file id)

def createWithTone (m : MediaSession) (id : EndpointId) : MediaSession × CommandReply :=
  m.create "max endpoints reached" (.ok (.tone id))

def createWebSocket (m : MediaSession) (id : EndpointId) : MediaSession × CommandReply :=
  m.create "max endpoints reached" (.ok (.webSocket id))

def handleFileInitialized (m : MediaSession) (id : EndpointId) (result : Except String Unit)
    (replyClosed : Bool) : MediaSession :=
  match (if replyClosed then .error "playback creation cancelled" else result) with
  | .ok () =>
    if id ∈ m.state.endpoints then (m.insert (.file id)).rebuildRouting else m
  | .error _ =>
    if id ∈ m.state.endpoints then ((m.remove id).rebuildRouting).active (-1) else m

/-- Without an error the file is prepared by a task that sends `fileInitialized`;
that task needs a place in the command queue. -/
def handleFileReady (m : MediaSession) (id : EndpointId) (result : Except String Unit)
    (queueFree : Bool) : MediaSession :=
  match result with
  | .error e => m.handleFileInitialized id (.error e) false
  | .ok () =>
    match m.state.find id with
    | some (.file _) =>
      if queueFree then m else m.handleFileInitialized id (.error "PLAYBACK_BUSY") false
    | _ => m

def handleRemoveEndpoint (m : MediaSession) (id : EndpointId) : MediaSession × CommandReply :=
  match m.state.handleRemoveEndpoint id with
  | (st, _, .ok ()) => (({ m with state := st }.rebuildRouting).active (-1), some (.ok ()))
  | (st, _, .error e) => ({ m with state := st }, some (.error e))

def insertBridgeEndpoint (m : MediaSession) (bridge : BridgeEndpoint) :
    MediaSession × CommandReply :=
  match m.state.handleInsertBridgeEndpoint bridge with
  | (st, .ok _) => (({ m with state := st }.rebuildRouting).active 1, some (.ok ()))
  | (st, .error e) => ({ m with state := st }, some (.error e))

def setSlot (m : MediaSession) (i : Nat) (id : EndpointId) (slot : TransferState) : MediaSession :=
  { m with slots := m.slots.set i (id, slot) }

def prepareTransfer (m : MediaSession) (i : Nat) : MediaSession × CommandReply :=
  match m.slots[i]? with
  | none => (m, none)
  | some (id, slot) =>
    match m.state.prepareTransfer slot id with
    | (st, slot', .ok ()) =>
      ((({ m with state := st }.setSlot i id slot').rebuildRouting).active (-1), some (.ok ()))
    | (st, slot', .error e) => ({ m with state := st }.setSlot i id slot', some (.error e))

def commitTransfer (m : MediaSession) (slot : TransferState) : MediaSession × CommandReply :=
  match m.state.commitTransfer slot with
  | (st, _, .ok ()) => (({ m with state := st }.rebuildRouting).active 1, some (.ok ()))
  | (st, _, .error e) => ({ m with state := st }, some (.error e))

def finishTransfer (m : MediaSession) (i : Nat) : MediaSession :=
  match m.slots[i]? with
  | none => m
  | some (id, slot) =>
    match m.state.finishTransfer slot id with
    | (st, slot', true) => (({ m with state := st }.setSlot i id slot').rebuildRouting).active 1
    | (st, slot', false) => { m with state := st }.setSlot i id slot'

/-! ## The end of the task -/

/-- The guard that runs when the task is dropped takes the shared count off the gauge. -/
def cleanupGuard (m : MediaSession) : MediaSession :=
  { m with endpointsActive := m.endpointsActive - m.endpointCount, running := false }

def finish (m : MediaSession) : MediaSession :=
  { m with
    endpointsActive := m.endpointsActive - HashMap.size m.state.endpoints
    state := m.state.clear
    endpointCount := 0 }.cleanupGuard

def emptyTimedOut (m : MediaSession) : Bool :=
  match m.emptySince with
  | some since => decide (0 < m.emptySessionTimeout ∧ m.emptySessionTimeout ≤ m.now - since)
  | none => false

/-! ## The task as a machine -/

def handleCommand (m : MediaSession) : SessionCommand → MediaSession × CommandReply
  | .createFromOffer selected made => m.createFromOffer selected made
  | .createOffer plan made => m.createOffer plan made
  | .createWithFile isUrl id started => m.createWithFile isUrl id started
  | .createWithTone id => m.createWithTone id
  | .createWebSocket id => m.createWebSocket id
  | .fileReady id result queueFree => (m.handleFileReady id result queueFree, none)
  | .fileInitialized id result replyClosed => (m.handleFileInitialized id result replyClosed, none)
  | .removeEndpoint id => m.handleRemoveEndpoint id
  | .insertBridgeEndpoint bridge => m.insertBridgeEndpoint bridge
  | .prepareTransfer i => m.prepareTransfer i
  | .commitTransfer slot => m.commitTransfer slot
  | .finishTransfer i => (m.finishTransfer i, none)
  | .destroy => (m.finish, none)
  | .other => (m, none)

def removeAll (m : MediaSession) (ids : List EndpointId) : MediaSession :=
  ids.foldl (fun m id => (m.handleRemoveEndpoint id).1) m

def checkTimeouts (m : MediaSession) (idle : Bool) : MediaSession :=
  if idle then m.finish else if m.emptyTimedOut then m.finish else m

def transferCancelled (m : MediaSession) (i : Nat) : MediaSession :=
  match m.slots[i]? with
  | none => m
  | some (id, slot) => m.setSlot i id { slot with cancelled := !slot.committed }

def transferCommitted (m : MediaSession) (i : Nat) : MediaSession :=
  match m.slots[i]? with
  | none => m
  | some (id, slot) =>
    if slot.cancelled || slot.bundle.isNone then m
    else m.setSlot i id { slot with committed := true, bundle := none }

def call (m : MediaSession) (ev : SessionEvent) : MediaSession × CommandReply :=
  if !m.running then (m, none)
  else
    match ev with
    | .command c => m.handleCommand c
    | .connectTimeouts expired => (m.removeAll expired, none)
    | .checkTimeouts idle => (m.checkTimeouts idle, none)
    | .wait duration => ({ m with now := m.now + duration }, none)
    | .abort => (m.cleanupGuard, none)
    | .transferOpened id => ({ m with slots := m.slots ++ [(id, {})] }, none)
    | .transferCancelled i => (m.transferCancelled i, none)
    | .transferCommitted i => (m.transferCommitted i, none)

end MediaSession
end RtpBridge.Session
