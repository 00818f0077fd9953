/-
The recording manager of `recording/recorder.rs`.

A step gives the packets it has put into the queues of the recordings, in order.  What
the queues answer is an input of the step.  An encoded descriptor stands as the descriptor
itself, and the text of an address in it as what the text shows; both are one to one.
-/
import RtpBridge.Base.Bytes
import RtpBridge.Base.HashMap
import RtpBridge.Base.IpAddr
import RtpBridge.Base.Machine

namespace RtpBridge.Recorder

open Wire

abbrev EndpointId := Nat

abbrev RecordingId := Nat

/-! ## Descriptors and packets -/

/-- What the text of a socket address shows: the flow information of IPv6 is not in it. -/
abbrev Shown := IpAddr × UInt16 × UInt32

def shown : SocketAddr → Shown
  | .v4 ip port => (.v4 ip, port, 0)
  | .v6 ip port _ scopeId => (.v6 ip, port, scopeId)

structure StreamInfo where
  role : String
  epType : String
  codec : String
  pt : UInt8
  clockRate : UInt32
  channels : UInt8
  endian : Option String
deriving DecidableEq

/-- A descriptor; `v` and `ssrc` are always the same here. -/
structure StreamDescriptor where
  endpointId : EndpointId
  info : StreamInfo
  localAddr : Option Shown
  remoteAddr : Option Shown
deriving DecidableEq

def endpointStreamDescriptor (id : EndpointId) (info : StreamInfo)
    (localAddr remoteAddr : Option SocketAddr) : StreamDescriptor :=
  ⟨id, info, localAddr.map shown, remoteAddr.map shown⟩

inductive Payload where
  | descriptor (desc : StreamDescriptor)
  | rtp (bytes : Bytes)
  | rtcp (bytes : Bytes)

structure RecordPacket where
  src : SocketAddr
  dst : SocketAddr
  payload : Payload

def syntheticAddr (index : Nat) : SocketAddr :=
  if index = 0xFFFF then .v4 (10#8 ++ 255#8 ++ 0#8 ++ 1#8) 10000
  else
    .v4 (10#8 ++ BitVec.ofNat 8 (min (index / 254 + 1) 254) ++ 0#8 ++
      BitVec.ofNat 8 (index % 254 + 1)) 10000

/-! ## The manager -/

inductive Enqueue where
  | ok
  | full
  | closed

structure DescriptorState where
  desc : StreamDescriptor
  version : Nat
  src : SocketAddr
  dst : SocketAddr

structure Recording where
  endpointId : Option EndpointId
  packetCount : Nat := 0
  droppedPacketCount : Nat := 0
  lastWrittenVersion : HashMap EndpointId Nat := ∅

structure RecordingManager where
  recordings : HashMap RecordingId Recording := ∅
  pendingStarts : Nat := 0
  endpointRecordings : HashMap EndpointId (List RecordingId) := ∅
  nextEndpointIndex : Nat := 0
  endpointIndices : HashMap EndpointId Nat := ∅
  freeIndices : List Nat := []
  maxRecordings : Nat
  latestDescriptors : HashMap EndpointId DescriptorState := ∅
  nextRecording : RecordingId := 0

structure Enqueued where
  recording : RecordingId
  packet : RecordPacket

namespace Recording

def take (rec : Recording) (id : EndpointId) (desc : Option DescriptorState)
    (packet : RecordPacket) (first second : Enqueue) : Recording × List RecordPacket × Bool :=
  let behind := desc.filter fun d => (rec.lastWrittenVersion.lookup id).getD 0 < d.version
  match behind with
  | none => push rec packet [] first
  | some d =>
    match first with
    | .ok =>
      push
        { rec with
          packetCount := rec.packetCount + 1
          lastWrittenVersion := rec.lastWrittenVersion.insert id d.version }
        packet [⟨packet.src, packet.dst, .descriptor d.desc⟩] second
    | .closed => (rec, [], true)
    -- The media is dropped with its descriptor.
    | .full => ({ rec with droppedPacketCount := rec.droppedPacketCount + 1 }, [], false)
where
  push (rec : Recording) (packet : RecordPacket) (before : List RecordPacket) (answer : Enqueue) :
      Recording × List RecordPacket × Bool :=
    match answer with
    | .ok => ({ rec with packetCount := rec.packetCount + 1 }, before ++ [packet], false)
    | .closed => (rec, before, true)
    | .full => ({ rec with droppedPacketCount := rec.droppedPacketCount + 1 }, before, false)

end Recording

namespace RecordingManager

def isRecording (m : RecordingManager) : Bool := !m.recordings.entries.isEmpty

def getEndpointIndex (m : RecordingManager) (id : EndpointId) : RecordingManager × Nat :=
  match m.endpointIndices.lookup id with
  | some index => (m, index)
  | none =>
    match m.freeIndices with
    | index :: rest =>
      ({ m with
        endpointIndices := m.endpointIndices.insert id index
        freeIndices := rest }, index)
    | [] =>
      ({ m with
        endpointIndices := m.endpointIndices.insert id m.nextEndpointIndex
        nextEndpointIndex := min (m.nextEndpointIndex + 1) 0xFFFE }, m.nextEndpointIndex)

def frame (m : RecordingManager) (id : EndpointId) (localAddr remoteAddr : Option SocketAddr) :
    RecordingManager × SocketAddr × SocketAddr :=
  match localAddr, remoteAddr with
  | some localAddr, some remoteAddr => (m, remoteAddr, localAddr)
  | _, _ =>
    let (m, index) := m.getEndpointIndex id
    (m, syntheticAddr index, syntheticAddr 0xFFFF)

/-- `note_descriptor`.  The version is a `u64`. -/
def noteDescriptor (m : RecordingManager) (id : EndpointId) (desc : StreamDescriptor)
    (localAddr remoteAddr : Option SocketAddr) : RecordingManager :=
  let old := m.latestDescriptors.lookup id
  if old.map DescriptorState.desc = some desc then m
  else
    let (m, src, dst) := m.frame id localAddr remoteAddr
    let version := (old.map fun d => (d.version + 1) % 2 ^ 64).getD 1
    { m with latestDescriptors := m.latestDescriptors.insert id ⟨desc, version, src, dst⟩ }

def forgetEndpoint (m : RecordingManager) (id : EndpointId) : RecordingManager :=
  { m with latestDescriptors := m.latestDescriptors.erase id }

def targets (m : RecordingManager) (id : EndpointId) : List RecordingId :=
  (m.endpointRecordings.lookup id).getD [] ++
    (m.recordings.entries.filter fun e => e.2.endpointId.isNone).map Sigma.fst

def removeRecording (m : RecordingManager) (rid : RecordingId) : RecordingManager :=
  match m.recordings.lookup rid with
  | none => m
  | some rec =>
    let m := { m with recordings := m.recordings.erase rid }
    match rec.endpointId.bind fun id => (m.endpointRecordings.lookup id).map (id, ·) with
    | none => m
    | some (id, ids) =>
      { m with endpointRecordings :=
          m.endpointRecordings.insert id (ids.filter fun x => x ≠ rid) }

def deliverTo (id : EndpointId) (desc : Option DescriptorState) (packet : RecordPacket)
    (answer : RecordingId → Enqueue × Enqueue) :
    List RecordingId → HashMap RecordingId Recording →
      HashMap RecordingId Recording × List Enqueued × List RecordingId
  | [], recordings => (recordings, [], [])
  | rid :: rest, recordings =>
    match recordings.lookup rid with
    | none => deliverTo id desc packet answer rest recordings
    | some rec =>
      let (rec, sent, closed) := rec.take id desc packet (answer rid).1 (answer rid).2
      let (recordings, sent', dead) :=
        deliverTo id desc packet answer rest (recordings.insert rid rec)
      (recordings, sent.map (⟨rid, ·⟩) ++ sent', if closed then rid :: dead else dead)

def deliver (m : RecordingManager) (id : EndpointId) (packet : RecordPacket)
    (withDescriptor : Bool) (answer : RecordingId → Enqueue × Enqueue) :
    RecordingManager × List Enqueued :=
  if m.isRecording then
    let desc := if withDescriptor then m.latestDescriptors.lookup id else none
    let (recordings, sent, dead) := deliverTo id desc packet answer (m.targets id) m.recordings
    (dead.foldl removeRecording { m with recordings := recordings }, sent)
  else (m, [])

def recordPacketAddr (m : RecordingManager) (id : EndpointId) (bytes : Bytes)
    (localAddr remoteAddr : Option SocketAddr) (answer : RecordingId → Enqueue × Enqueue) :
    RecordingManager × List Enqueued :=
  let (m, src, dst) := m.frame id localAddr remoteAddr
  m.deliver id ⟨src, dst, .rtp bytes⟩ true answer

def recordRtcp (m : RecordingManager) (id : EndpointId) (bytes : Bytes)
    (localAddr remoteAddr : Option SocketAddr) (answer : RecordingId → Enqueue × Enqueue) :
    RecordingManager × List Enqueued :=
  let (m, src, dst) := m.frame id localAddr remoteAddr
  m.deliver id ⟨src, dst, .rtcp bytes⟩ false answer

/-- `record_inbound` for a packet of an endpoint that has a codec. -/
def recordInbound (m : RecordingManager) (id : EndpointId) (info : StreamInfo) (bytes : Bytes)
    (localAddr remoteAddr : Option SocketAddr) (answer : RecordingId → Enqueue × Enqueue) :
    RecordingManager × List Enqueued :=
  if m.isRecording then
    let desc := endpointStreamDescriptor id info localAddr remoteAddr
    (m.noteDescriptor id desc localAddr remoteAddr).recordPacketAddr id bytes localAddr remoteAddr
      answer
  else (m, [])

def beginStart (m : RecordingManager) : RecordingManager :=
  if m.maxRecordings ≤ m.recordings.size + m.pendingStarts then m
  else { m with pendingStarts := m.pendingStarts + 1 }

def replay (rid : RecordingId) (answer : EndpointId → Enqueue) :
    List (Sigma fun _ : EndpointId => DescriptorState) → Recording → Recording × List Enqueued
  | [], rec => (rec, [])
  | ⟨id, d⟩ :: rest, rec =>
    match answer id with
    | .ok =>
      let (rec, sent) := replay rid answer rest
        { rec with
          packetCount := rec.packetCount + 1
          lastWrittenVersion := rec.lastWrittenVersion.insert id d.version }
      (rec, ⟨rid, ⟨d.src, d.dst, .descriptor d.desc⟩⟩ :: sent)
    | .full | .closed => replay rid answer rest rec

/-- `complete_start`; `prepared`: the file is there. -/
def completeStart (m : RecordingManager) (endpointId : Option EndpointId) (prepared : Bool)
    (answer : EndpointId → Enqueue) : RecordingManager × List Enqueued :=
  let m := { m with pendingStarts := m.pendingStarts - 1 }
  if prepared then
    let rid := m.nextRecording
    let cached := m.latestDescriptors.entries.filter fun e => endpointId.all fun id => id = e.1
    let (rec, sent) := replay rid answer cached { endpointId := endpointId }
    let endpointRecordings :=
      match endpointId with
      | none => m.endpointRecordings
      | some id =>
        m.endpointRecordings.insert id ((m.endpointRecordings.lookup id).getD [] ++ [rid])
    ({ m with
      recordings := m.recordings.insert rid rec
      endpointRecordings := endpointRecordings
      nextRecording := rid + 1 }, sent)
  else (m, [])

/-- `stop_endpoint_recordings`, with the recycling of the endpoint's index. -/
def stopEndpointRecordings (m : RecordingManager) (id : EndpointId) : RecordingManager :=
  let ids := (m.endpointRecordings.lookup id).getD []
  let m := { m with
    endpointRecordings := m.endpointRecordings.erase id
    recordings := ids.foldl (fun recordings rid => recordings.erase rid) m.recordings }
  match m.endpointIndices.lookup id with
  | none => m
  | some index =>
    { m with
      endpointIndices := m.endpointIndices.erase id
      freeIndices := index :: m.freeIndices }

/-! ## Steps -/

inductive RecorderEvent where
  | note (id : EndpointId) (info : StreamInfo) (localAddr remoteAddr : Option SocketAddr)
  | inbound (id : EndpointId) (info : StreamInfo) (bytes : Bytes)
      (localAddr remoteAddr : Option SocketAddr) (answer : RecordingId → Enqueue × Enqueue)
  | rtcp (id : EndpointId) (bytes : Bytes) (localAddr remoteAddr : Option SocketAddr)
      (answer : RecordingId → Enqueue × Enqueue)
  | beginStart
  | start (endpointId : Option EndpointId) (prepared : Bool) (answer : EndpointId → Enqueue)
  | stop (rid : RecordingId)
  | leave (id : EndpointId)

def step (m : RecordingManager) : RecorderEvent → RecordingManager × List Enqueued
  | .note id info localAddr remoteAddr =>
    (m.noteDescriptor id (endpointStreamDescriptor id info localAddr remoteAddr) localAddr
      remoteAddr, [])
  | .inbound id info bytes localAddr remoteAddr answer =>
    m.recordInbound id info bytes localAddr remoteAddr answer
  | .rtcp id bytes localAddr remoteAddr answer => m.recordRtcp id bytes localAddr remoteAddr answer
  | .beginStart => (m.beginStart, [])
  | .start endpointId prepared answer => m.completeStart endpointId prepared answer
  | .stop rid => (m.removeRecording rid, [])
  | .leave id => ((m.forgetEndpoint id).stopEndpointRecordings id, [])

end RecordingManager

end RtpBridge.Recorder
