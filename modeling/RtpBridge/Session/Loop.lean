/-
The loop of a session, as far as its routing goes.

One iteration takes a packet, a command or a timeout, then the packets that wait,
then polls the media stacks, the file players and the tones, routes what they gave,
and once a second drops WebSocket endpoints nobody dialed into.  Routing is rebuilt
by the handlers that change it, and by the loop when it hears that an endpoint
became connected or that a player ended.

The tables are current at the end of an iteration unless a media stack changed an
endpoint behind the loop's back.  The loop does not ask for a rebuild when a
connected endpoint loses its connection or gets another audio line, and it never
sees the changes of a poll that fails after it made some.
-/
import RtpBridge.Session.Routing
import RtpBridge.Session.Rtp.Steps

namespace RtpBridge.Session

open Srtp Sdp Wire Machine

/-! ## The media stack of a WebRTC endpoint -/

inductive IceConnectionState where
  | new
  | checking
  | connected
  | completed
  | disconnected
deriving DecidableEq

inductive RtcEvent where
  | connected
  | iceConnectionStateChange (state : IceConnectionState)
  | mediaAdded (codec : Option NegotiatedCodec)
  | other
deriving DecidableEq

structure Poll where
  events : List RtcEvent := []
  failed : Bool := false

/-- `WebRtcEvent::StateChanged`. -/
structure StateChange where
  old : EndpointState
  new : EndpointState
deriving DecidableEq

/-- The answer of `emit_webrtc_events`: the changes that ask for new routes. -/
def emitWebrtcEvents (changes : List StateChange) : Bool :=
  changes.any fun c => c.new = .connected && c.old ≠ .connected

namespace WebRtcPeer

def handleEvent (ep : WebRtcPeer) : RtcEvent → WebRtcPeer × List StateChange
  | .connected => ({ ep with state := .connected }, [⟨ep.state, .connected⟩])
  | .iceConnectionStateChange .connected | .iceConnectionStateChange .completed =>
    if ep.state ≠ .connected then ({ ep with state := .connected }, [⟨ep.state, .connected⟩])
    else (ep, [])
  | .iceConnectionStateChange .disconnected =>
    if ep.state ≠ .disconnected then
      ({ ep with state := .disconnected }, [⟨ep.state, .disconnected⟩])
    else (ep, [])
  | .mediaAdded codec => ({ ep with codec := codec }, [])
  | .iceConnectionStateChange .new | .iceConnectionStateChange .checking | .other => (ep, [])

def handleEvents (ep : WebRtcPeer) : List RtcEvent → WebRtcPeer × List StateChange
  | [] => (ep, [])
  | event :: rest =>
    let (ep, changes) := ep.handleEvent event
    let (ep, later) := ep.handleEvents rest
    (ep, changes ++ later)

def pollOutput (ep : WebRtcPeer) (poll : Poll) : WebRtcPeer × List StateChange :=
  let (ep, changes) := ep.handleEvents poll.events
  (ep, if poll.failed then [] else changes)

def setDirectionOverride (ep : WebRtcPeer) : EndpointDirectionUpdate → WebRtcPeer
  | .set direction => { ep with direction := direction }
  | .auto => { ep with direction := ep.autoDirection }

end WebRtcPeer

def BridgeLink.setDirectionOverride (ep : BridgeLink) : EndpointDirectionUpdate → BridgeLink
  | .set direction => { ep with direction := direction }
  | .auto => { ep with direction := ep.autoDirection }

def WebSocketLink.setDirectionOverride (ep : WebSocketLink) :
    EndpointDirectionUpdate → WebSocketLink
  | .set direction => { ep with direction := direction }
  | .auto => { ep with direction := ep.autoDirection }

/-! ## RTP endpoints -/

def EndpointDirection.isSending : EndpointDirection → Bool
  | .sendRecv | .recvOnly => true
  | .sendOnly | .inactive => false

structure FreshSender where
  ssrc : UInt32
  seq : UInt16
  timestamp : UInt32

namespace RtpEndpoint

def bumpOnUnhold (ep : RtpEndpoint) (previous : EndpointDirection) (fresh : FreshSender) :
    RtpEndpoint :=
  if !previous.isSending && ep.direction.direction.isSending then
    ep.bumpOutboundSsrc fresh.ssrc fresh.seq fresh.timestamp
  else ep

def isRtcpMuxPacket (data : Bytes) : Bool :=
  match data with
  | _ :: pt :: _ => 200 ≤ pt && pt ≤ 204
  | _ => false

end RtpEndpoint

structure MediaWork where
  endpointId : EndpointId
  event : RtpEvent
  media : event.call.isMedia = true

structure InboundPacket where
  endpointId : EndpointId
  data : Bytes
  source : SocketAddr
  recvAt : Nat
  isRtcp : Bool
  now : Nat
  unix : Nat
  poll : Poll

def InboundPacket.work (pkt : InboundPacket) (ep : RtpEndpoint) : MediaWork where
  endpointId := pkt.endpointId
  event :=
    { now := pkt.now, unix := pkt.unix, call :=
        if pkt.isRtcp || (ep.latch.rtcpMux && RtpEndpoint.isRtcpMuxPacket pkt.data) then
          .handleRtcpAt pkt.data pkt.source pkt.recvAt
        else .handleRtpAt pkt.data pkt.source pkt.recvAt }
  media := by split <;> rfl

/-! ## Commands -/

structure RtcNegotiation where
  codec : Option NegotiatedCodec
  opusSendProfile : OpusProfile

def WebRtcPeer.negotiate (ep : WebRtcPeer) (n : RtcNegotiation) : WebRtcPeer :=
  { ep with codec := n.codec, opusSendProfile := n.opusSendProfile }

inductive LoopCommand where
  /-- Everything that makes an endpoint and routes it: offers, tones, downloads,
  WebSocket endpoints and the ends of bridges. -/
  | create (id : EndpointId) (ep : LiveEndpoint)
  /-- A file of the media directory is opened in the background. -/
  | createWithLocalFile (id : EndpointId)
  | fileInitialized (id : EndpointId) (result : Except String FilePlayer)
  | filePause (id : EndpointId)
  | fileResume (id : EndpointId)
  | acceptAnswer (id : EndpointId) (now : Nat) (txKey : Vector UInt8 30) (sdp : Text)
      (stack : Except String RtcNegotiation)
  | acceptOffer (id : EndpointId) (stack : Except String RtcNegotiation)
  | updateRemoteSdp (id : EndpointId) (now : Nat) (txKey : Vector UInt8 30) (sdp : Text)
      (fresh : FreshSender)
  | updateDirection (id : EndpointId) (update : EndpointDirectionUpdate) (now : Nat)
      (fresh : FreshSender)
  | srtpRekey (id : EndpointId) (key : Vector UInt8 30) (now : Nat)
  /-- An audio socket dialed in; `bound` says whether there was room for its task. -/
  | attachWebSocketAudio (id : EndpointId) (bound : Bool)
  | webSocketDisconnected (id : EndpointId)
  | vadStart (id : EndpointId)
  | vadStop (id : EndpointId)
  | faxDetectStart (id : EndpointId)
  | faxDetectStop (id : EndpointId)
  | removeEndpoint (id : EndpointId)
  | extractEndpoint (id : EndpointId)
  | insertEndpoint (id : EndpointId) (ep : LiveEndpoint) (vad fax : Bool)
  /-- Commands that read, record, inject or are refused at once. -/
  | other

namespace RoutingState

variable (P : Primitives) (encodes : AudioCodec → OpusProfile → Bool)

def put (s : RoutingState) (id : EndpointId) (ep : LiveEndpoint) : RoutingState :=
  { s with endpoints := s.endpoints.insert id ep }

def cleanupEndpointState (s : RoutingState) (id : EndpointId) : RoutingState :=
  { s with
    vadMonitors := s.vadMonitors.erase id
    faxDetectors := s.faxDetectors.erase id
    mixers := fun d => if d = id then none else (s.mixers d).map fun m => m.removeSource id
    playoutPolicy := fun j => if j = id then none else s.playoutPolicy j }

def handleRemoveEndpoint (s : RoutingState) (id : EndpointId) : RoutingState :=
  let cleaned := { s with endpoints := s.endpoints.erase id }.cleanupEndpointState id
  if id ∈ s.endpoints then cleaned.rebuildRouting encodes else cleaned

def handleFileInitialized (s : RoutingState) (id : EndpointId) (result : Except String FilePlayer) :
    RoutingState :=
  match result with
  | .ok player =>
    if id ∈ s.endpoints then (s.put id (.file player)).rebuildRouting encodes else s
  | .error _ =>
    if id ∈ s.endpoints then
      ({ s with endpoints := s.endpoints.erase id }.cleanupEndpointState id).rebuildRouting encodes
    else s

def handleFileState (s : RoutingState) (id : EndpointId) (before after : EndpointState) :
    RoutingState :=
  match s.endpoints.lookup id with
  | some (.file player) =>
    if player.state = before then
      (s.put id (.file { player with state := after })).rebuildRouting encodes
    else s
  | _ => s

def handleFilePause (s : RoutingState) (id : EndpointId) : RoutingState :=
  s.handleFileState encodes id .playing .paused

def handleFileResume (s : RoutingState) (id : EndpointId) : RoutingState :=
  s.handleFileState encodes id .paused .playing

def handleAcceptAnswer (s : RoutingState) (id : EndpointId) (now : Nat) (txKey : Vector UInt8 30)
    (sdp : Text) (stack : Except String RtcNegotiation) : RoutingState :=
  match s.endpoints.lookup id with
  | some (.rtp ep) =>
    match ep.acceptAnswer P now txKey sdp with
    | (ep, .ok ()) => (s.put id (.rtp ep)).rebuildRouting encodes
    | (ep, .error _) => s.put id (.rtp ep)
  | some (.webRtc ep) =>
    match stack with
    | .ok n => (s.put id (.webRtc (ep.negotiate n))).rebuildRouting encodes
    | .error _ => s
  | _ => s

def handleAcceptOffer (s : RoutingState) (id : EndpointId) (stack : Except String RtcNegotiation) :
    RoutingState :=
  match s.endpoints.lookup id, stack with
  | some (.webRtc ep), .ok n => (s.put id (.webRtc (ep.negotiate n))).rebuildRouting encodes
  | _, _ => s

def handleUpdateRemoteSdp (s : RoutingState) (id : EndpointId) (now : Nat)
    (txKey : Vector UInt8 30) (sdp : Text) (fresh : FreshSender) : RoutingState :=
  match s.endpoints.lookup id with
  | some (.rtp ep) =>
    match ep.updateRemoteSdp P now txKey sdp with
    | (ep', .ok _) =>
      (s.put id (.rtp (ep'.bumpOnUnhold ep.direction.direction fresh))).rebuildRouting encodes
    | (ep', .error _) => s.put id (.rtp ep')
  | _ => s

def handleUpdateDirection (s : RoutingState) (id : EndpointId) (update : EndpointDirectionUpdate)
    (now : Nat) (fresh : FreshSender) : RoutingState :=
  match s.endpoints.lookup id with
  | some (.rtp ep) =>
    let ep' := (ep.setDirectionOverride update).resetAddrLock now
    (s.put id (.rtp (ep'.bumpOnUnhold ep.direction.direction fresh))).rebuildRouting encodes
  | some (.webRtc ep) =>
    (s.put id (.webRtc (ep.setDirectionOverride update))).rebuildRouting encodes
  | some (.bridge ep) =>
    (s.put id (.bridge (ep.setDirectionOverride update))).rebuildRouting encodes
  | some (.webSocket ep) =>
    (s.put id (.webSocket (ep.setDirectionOverride update))).rebuildRouting encodes
  | some (.file _) | some (.tone _) | none => s

def handleAttachWebSocketAudio (s : RoutingState) (id : EndpointId) (bound : Bool) : RoutingState :=
  match s.endpoints.lookup id with
  | some (.webSocket ep) =>
    if !ep.connected && bound then
      (s.put id (.webSocket { ep with connected := true, state := .connected })).rebuildRouting
        encodes
    else s
  | _ => s

def handleWebSocketDisconnected (s : RoutingState) (id : EndpointId) : RoutingState :=
  match s.endpoints.lookup id with
  | some (.webSocket ep) =>
    if ep.state = .disconnected then s
    else (s.put id (.webSocket { ep with state := .disconnected })).rebuildRouting encodes
  | _ => s

def handleVadStart (s : RoutingState) (id : EndpointId) : RoutingState :=
  { s with
    vadMonitors := if id ∈ s.endpoints then insert id s.vadMonitors
      else s.vadMonitors }.recomputePlayoutPolicy

def handleVadStop (s : RoutingState) (id : EndpointId) : RoutingState :=
  { s with vadMonitors := s.vadMonitors.erase id }.recomputePlayoutPolicy

def handleFaxDetectStart (s : RoutingState) (id : EndpointId) : RoutingState :=
  { s with
    faxDetectors := if id ∈ s.endpoints then insert id s.faxDetectors
      else s.faxDetectors }.recomputePlayoutPolicy

def handleFaxDetectStop (s : RoutingState) (id : EndpointId) : RoutingState :=
  { s with faxDetectors := s.faxDetectors.erase id }.recomputePlayoutPolicy

def handleExtractEndpoint (s : RoutingState) (id : EndpointId) : RoutingState :=
  match s.endpoints.lookup id with
  | none | some (.file _) | some (.tone _) | some (.webSocket _) => s
  | some (.webRtc _) | some (.rtp _) | some (.bridge _) =>
    { s with
      endpoints := s.endpoints.erase id
      vadMonitors := s.vadMonitors.erase id
      faxDetectors := s.faxDetectors.erase id }.rebuildRouting encodes

def handleInsertEndpoint (s : RoutingState) (id : EndpointId) (ep : LiveEndpoint)
    (vad fax : Bool) : RoutingState :=
  if id ∈ s.endpoints then s
  else
    { s.put id ep with
      vadMonitors := if vad then insert id s.vadMonitors else s.vadMonitors
      faxDetectors := if fax then insert id s.faxDetectors else s.faxDetectors }.rebuildRouting
        encodes

def mediaWork (s : RoutingState) (work : MediaWork) : RoutingState :=
  match s.endpoints.lookup work.endpointId with
  | some (.rtp ep) => s.put work.endpointId (.rtp (ep.step P work.event).1)
  | _ => s

def handleSrtpRekey (s : RoutingState) (id : EndpointId) (key : Vector UInt8 30) (now : Nat) :
    RoutingState :=
  s.mediaWork P ⟨id, { now := now, call := .srtpRekey key }, rfl⟩

def handleCommand (s : RoutingState) : LoopCommand → RoutingState
  | .create id ep => (s.put id ep).rebuildRouting encodes
  -- the player takes the place of this one when it is ready, and is routed then
  | .createWithLocalFile id => s.put id (.file ⟨.buffering, 0⟩)
  | .fileInitialized id result => s.handleFileInitialized encodes id result
  | .filePause id => s.handleFilePause encodes id
  | .fileResume id => s.handleFileResume encodes id
  | .acceptAnswer id now txKey sdp stack => s.handleAcceptAnswer P encodes id now txKey sdp stack
  | .acceptOffer id stack => s.handleAcceptOffer encodes id stack
  | .updateRemoteSdp id now txKey sdp fresh =>
    s.handleUpdateRemoteSdp P encodes id now txKey sdp fresh
  | .updateDirection id update now fresh => s.handleUpdateDirection encodes id update now fresh
  | .srtpRekey id key now => s.handleSrtpRekey P id key now
  | .attachWebSocketAudio id bound => s.handleAttachWebSocketAudio encodes id bound
  | .webSocketDisconnected id => s.handleWebSocketDisconnected encodes id
  | .vadStart id => s.handleVadStart id
  | .vadStop id => s.handleVadStop id
  | .faxDetectStart id => s.handleFaxDetectStart id
  | .faxDetectStop id => s.handleFaxDetectStop id
  | .removeEndpoint id => s.handleRemoveEndpoint encodes id
  | .extractEndpoint id => s.handleExtractEndpoint encodes id
  | .insertEndpoint id ep vad fax => s.handleInsertEndpoint encodes id ep vad fax
  | .other => s

/-! ## One iteration -/

/-- `drain_webrtc_output_into_inbound`, for one endpoint. -/
def drainWebrtcOutput (s : RoutingState) (x : EndpointId × Poll) :
    RoutingState × List StateChange :=
  match s.endpoints.lookup x.1 with
  | some (.webRtc ep) =>
    (s.put x.1 (.webRtc (ep.pollOutput x.2).1), (ep.pollOutput x.2).2)
  | _ => (s, [])

def handleInboundPacket (s : RoutingState) (pkt : InboundPacket) : RoutingState :=
  match s.endpoints.lookup pkt.endpointId with
  | some (.rtp ep) => s.mediaWork P (pkt.work ep)
  | _ => s

def receive (s : RoutingState) (pkt : InboundPacket) : RoutingState × List StateChange :=
  (s.handleInboundPacket P pkt).drainWebrtcOutput (pkt.endpointId, pkt.poll)

/-- A file or a tone plays its next frame or ends; the answer says that it ended. -/
def pollPlayer (s : RoutingState) (x : EndpointId × Bool) : RoutingState × Bool :=
  match s.endpoints.lookup x.1 with
  | some (.file player) =>
    if player.state = .playing ∧ x.2 = true then
      (s.put x.1 (.file { player with state := .finished }), true)
    else (s, false)
  | some (.tone state) =>
    if state = .playing ∧ x.2 = true then (s.put x.1 (.tone .finished), true) else (s, false)
  | _ => (s, false)

def feedMixers (s : RoutingState) (source : EndpointId) : RoutingState :=
  { s with
    mixers := fun d =>
      if d ∈ s.routing.routes source then
        (s.mixers d).map fun mixer => { mixer with sources := insert source mixer.sources }
      else s.mixers d }

inductive Arm where
  | packet (pkt : InboundPacket)
  | command (cmd : LoopCommand)
  | timeout

structure Iteration where
  arm : Arm
  batch : List InboundPacket := []
  polls : List (EndpointId × Poll) := []
  players : List (EndpointId × Bool) := []
  fed : List EndpointId := []
  writes : List MediaWork := []
  expired : List EndpointId := []
  closing : List MediaWork := []

def Iteration.packets (it : Iteration) : List InboundPacket :=
  match it.arm with
  | .packet pkt => pkt :: it.batch
  | _ => it.batch

def Iteration.command (it : Iteration) : LoopCommand :=
  match it.arm with
  | .command cmd => cmd
  | _ => .other

def rebuildIf (s : RoutingState) (needed : Bool) : RoutingState :=
  if needed then s.rebuildRouting encodes else s

def reported {A : Type} (tr : List (A × List StateChange)) : List StateChange :=
  tr.flatMap Prod.snd

def receiveAll (s : RoutingState) (it : Iteration) : RoutingState :=
  let commanded := s.handleCommand P encodes it.command
  (exec (receive P) commanded it.packets).rebuildIf encodes
    (emitWebrtcEvents (reported (trace (receive P) commanded it.packets)))

/-- `poll_and_route` and the rebuild it asks for. -/
def pollAndRoute (s : RoutingState) (it : Iteration) : RoutingState :=
  let polled := exec drainWebrtcOutput s it.polls
  let played := exec pollPlayer polled it.players
  let mixed := it.fed.foldl feedMixers played
  (it.writes.foldl (mediaWork P) mixed).rebuildIf encodes
    (emitWebrtcEvents (reported (trace drainWebrtcOutput s it.polls)) ||
      (trace pollPlayer polled it.players).any Prod.snd)

def iterate (s : RoutingState) (it : Iteration) : RoutingState :=
  let routed := (s.receiveAll P encodes it).pollAndRoute P encodes it
  let kept := it.expired.foldl (handleRemoveEndpoint encodes) routed
  it.closing.foldl (mediaWork P) kept

end RoutingState

end RtpBridge.Session
