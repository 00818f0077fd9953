/-
The RTP endpoint of `session/endpoint_rtp.rs`: its creation from an offer or with
one, the descriptions that change it, the packets it receives and the ones it
sends.

The fields are grouped by concern: keys, latch, negotiated media, direction and the
outbound stream.  What the source reads from outside is an argument: the clock, the
random bytes and the result of a socket send.  Sockets, tasks and log lines are
left out.  A call that fails may have changed the endpoint, so it returns the
endpoint with the result; `acceptAnswer_cases` and `updateRemoteSdp_cases` show
that a refused description changes nothing.
-/
import RtpBridge.Base.Machine
import RtpBridge.Media.Rtcp
import RtpBridge.Media.Rtp
import RtpBridge.Session.Rtp.Keys
import RtpBridge.Session.Rtp.Latch

namespace RtpBridge.Session

open Srtp Sdp Rtp Rtcp Wire

abbrev EndpointId := BitVec 128

/-- `id.as_u128() as u64`. -/
def sessionIdOf (id : EndpointId) : Nat := id.toNat % 2 ^ 64

inductive EndpointDirection where
  | sendRecv
  | recvOnly
  | sendOnly
  | inactive
deriving DecidableEq

inductive EndpointDirectionUpdate where
  | auto
  | set (direction : EndpointDirection)
deriving DecidableEq

inductive EndpointState where
  | new
  | buffering
  | connecting
  | connected
  | playing
  | paused
  | disconnected
  | finished
deriving DecidableEq

structure EndpointStats where
  inboundPackets : Nat := 0
  inboundBytes : Nat := 0
  outboundPackets : Nat := 0
  outboundBytes : Nat := 0
  lastReceived : Option Nat := none
  createdAt : Nat
deriving DecidableEq

structure RoutedRtpPacket where
  sourceEndpointId : EndpointId
  payloadType : UInt8
  sequenceNumber : UInt16
  timestamp : UInt32
  ssrc : UInt32
  marker : Bool
  payload : Bytes
deriving DecidableEq

inductive RtpMediaSecurity where
  | plainRtp
  | optionalSrtp
  | srtp
deriving DecidableEq

def endpointDirectionFromSdp : SdpDirection → EndpointDirection
  | .sendrecv => .sendRecv
  | .recvonly => .recvOnly
  | .sendonly => .sendOnly
  | .inactive => .inactive

/-! ## Direction -/

structure RtpDirection where
  direction : EndpointDirection
  directionAuto : Bool
  lastRemoteDirection : Option EndpointDirection := none
deriving DecidableEq

namespace RtpDirection

protected def new (direction : EndpointDirection) : RtpDirection :=
  { direction := direction, directionAuto := direction = .sendRecv }

def setOverride (d : RtpDirection) : EndpointDirectionUpdate → RtpDirection
  | .set direction => { d with direction := direction, directionAuto := false }
  | .auto => { d with directionAuto := true, direction := d.lastRemoteDirection.getD .sendRecv }

def setRemote (d : RtpDirection) (remote : Option SdpDirection) : RtpDirection :=
  match remote.map endpointDirectionFromSdp with
  | none => d
  | some dir =>
    { d with lastRemoteDirection := some dir,
             direction := if d.directionAuto then dir else d.direction }

end RtpDirection

/-! ## Negotiated media -/

structure RtpMedia where
  codecs : List SdpCodec := []
  sendCodec : Option SdpCodec := none
  recvClockRate : UInt32 := 8000
  telephoneEventPt : Option UInt8 := none
  telephoneEventClockRate : UInt32 := 8000
  offerCodecConstrained : Bool := false
  opusReceiveProfile : OpusProfile := OpusProfile.advertisedDefault
deriving DecidableEq

namespace RtpMedia

def acceptsPayloadType (media : RtpMedia) (pt : UInt8) : Bool :=
  media.codecs.any (·.pt == pt) || media.sendCodec.any (·.pt == pt) ||
    media.telephoneEventPt == some pt

def answerCodecs (media : RtpMedia) : List SdpCodec :=
  media.sendCodec.toList ++ media.codecs.filter fun c => !media.sendCodec.any (·.pt == c.pt)

def ofOffer (parsed : ParsedSdp) (codec : Option Text) : Except String RtpMedia :=
  let selected : Except String (Option SdpCodec) :=
    match codec with
    | some name =>
      match parsed.codecs.find? fun c =>
          Text.eqIgnoreAsciiCase c.name name && !c.isTelephoneEvent with
      | some c => .ok (some c)
      | none => .error "Requested audio codec is absent from offer"
    | none => .ok (selectAnswerCodec parsed.codecs)
  match selected with
  | .error e => .error e
  | .ok sendCodec =>
    let recvClockRate := (sendCodec.map SdpCodec.clockRate).getD 8000
    let telephone := selectTelephoneEventCodec parsed.codecs recvClockRate
    let telephoneEventPt := telephone.map SdpCodec.pt
    .ok { codecs := sendCodec.toList ++
            (parsed.codecs.filter fun c => telephoneEventPt == some c.pt).take 1,
          sendCodec := sendCodec,
          recvClockRate := recvClockRate,
          telephoneEventPt := telephoneEventPt,
          telephoneEventClockRate := (telephone.map SdpCodec.clockRate).getD 8000 }

def forOffer (codecs : List SdpCodec) : RtpMedia :=
  let audioCodecs := codecs.filter fun c => !c.isTelephoneEvent
  let telephone := codecs.find? SdpCodec.isTelephoneEvent
  let profile :=
    ((codecs.find? fun c => c.name == codecOpus.name).map OpusProfile.fromCodec).getD {}
  { codecs := codecs, sendCodec := audioCodecs.head?, telephoneEventPt := telephone.map SdpCodec.pt,
    telephoneEventClockRate := (telephone.map SdpCodec.clockRate).getD 8000,
    offerCodecConstrained := audioCodecs.length = 1,
    opusReceiveProfile := { profile with maxPacketMs := 20 } }

def hasUnofferedFormat (media : RtpMedia) (parsed : ParsedSdp) : Bool :=
  media.offerCodecConstrained &&
    ((parsed.selectedAudioSection.bind fun index => parsed.mediaSections[index]?).any fun s =>
      s.formats.any fun format =>
        (Text.parseU8 format).all fun pt => !media.codecs.any (·.pt == pt))

def answeredCodecs (media : RtpMedia) (parsed : ParsedSdp) : List SdpCodec :=
  parsed.codecs.filter fun c =>
    media.codecs.isEmpty ||
      if media.offerCodecConstrained then
        media.codecs.any fun o =>
          o.pt == c.pt && Text.toAsciiUppercase o.name == Text.toAsciiUppercase c.name &&
            o.clockRate == c.clockRate
      else media.codecs.any fun o => Text.eqIgnoreAsciiCase o.name c.name

def validateAnswer (media : RtpMedia) (parsed : ParsedSdp) : Except String (List SdpCodec) :=
  if media.hasUnofferedFormat parsed then
    .error "SDP answer includes an unoffered payload type"
  else if parsed.codecs.isEmpty then .error "SDP answer has no supported audio codec"
  else if !(media.answeredCodecs parsed).any fun c => !c.isTelephoneEvent then
    .error "SDP answer contains no codecs from the original offer"
  else .ok (media.answeredCodecs parsed)

def setAnswer (media : RtpMedia) (parsed : ParsedSdp) (valid : List SdpCodec) : RtpMedia :=
  let sendCodec := valid.find? fun c => !c.isTelephoneEvent
  { media with
      codecs := valid,
      sendCodec := sendCodec,
      telephoneEventPt := parsed.telephoneEventPt,
      telephoneEventClockRate := parsed.telephoneEventClockRate.getD 8000,
      recvClockRate := (sendCodec.map SdpCodec.clockRate).getD media.recvClockRate }

end RtpMedia

/-! ## The outbound stream -/

structure RtpOutbound where
  ourSsrc : UInt32
  seqNo : UInt16
  lastRtpTimestamp : UInt32 := 0
  lastOutboundTs : Option UInt32 := none
  lastSourceId : Option EndpointId := none
  lastSourceTs : Option UInt32 := none
  learnedStep : Option UInt32 := none
  dtmfWireTs : Option UInt32 := none
deriving DecidableEq

namespace RtpOutbound

def saturatingMul32 (a : UInt32) (k : Nat) : UInt32 := UInt32.ofNat (min (a.toNat * k) (2 ^ 32 - 1))

/-- The wire timestamp and marker of an audio packet.  Within one source the
timestamp follows the source's steps, a jump or another source advances it by one
packet and starts a talk spurt. -/
def advanceOutboundTimeline (out : RtpOutbound) (sendCodec : Option SdpCodec)
    (sourceId : EndpointId) (sourceTs : UInt32) (sourceMarker : Bool) :
    RtpOutbound × UInt32 × Bool :=
  let nominalStep := (sendCodec.map fun c => c.clockRate / 50).getD 160
  let bump := out.learnedStep.getD nominalStep
  let (learnedStep, outboundTs, markerOverride) :=
    match out.lastOutboundTs with
    | none => (out.learnedStep, sourceTs, sourceMarker)
    | some lastOut =>
      match out.lastSourceId, out.lastSourceTs with
      | some lastSrc, some lastSrcTs =>
        if lastSrc = sourceId then
          let delta := sourceTs - lastSrcTs
          if delta = 0 then (out.learnedStep, lastOut, false)
          else if saturatingMul32 bump 10 < delta then (out.learnedStep, lastOut + bump, true)
          else
            (if delta ≤ saturatingMul32 bump 2 then some delta else out.learnedStep,
              lastOut + delta, false)
        else (out.learnedStep, lastOut + bump, true)
      | _, _ => (out.learnedStep, lastOut + bump, true)
  ({ out with learnedStep := learnedStep, lastOutboundTs := some outboundTs,
              lastSourceId := some sourceId, lastSourceTs := some sourceTs },
    outboundTs, sourceMarker || markerOverride)

def dtmfOutboundTs (out : RtpOutbound) (telephoneEventClockRate : UInt32) (marker : Bool)
    (fallbackTs : UInt32) : RtpOutbound × UInt32 :=
  match (if marker then none else out.dtmfWireTs) with
  | some ts => (out, ts)
  | none =>
    let anchor := (out.lastOutboundTs.map (· + telephoneEventClockRate / 50)).getD fallbackTs
    ({ out with dtmfWireTs := some anchor, lastOutboundTs := some anchor }, anchor)

def bump (out : RtpOutbound) (ssrc : UInt32) (seq : UInt16) (timestamp : UInt32) : RtpOutbound :=
  { out with ourSsrc := ssrc, seqNo := seq, lastOutboundTs := none, lastSourceId := none,
             lastSourceTs := none, dtmfWireTs := none, lastRtpTimestamp := timestamp }

end RtpOutbound

/-! ## The endpoint -/

structure RtpEndpoint where
  id : EndpointId
  state : EndpointState := .new
  stats : EndpointStats
  sourceRejections : Nat := 0
  latch : RtpLatch
  rxKeys : RtpRxKeys := {}
  txKeys : RtpTxKeys := {}
  srtpOptional : Bool := false
  media : RtpMedia := {}
  direction : RtpDirection
  outbound : RtpOutbound
  remoteSsrc : Option UInt32 := none
  rtcpStats : RtcpStats := {}
  lastRtcpSent : Nat

def defaultRtpSourceNetworks : List IpNet := [.v4 0 0, .v6 0 0]

/-- What a new endpoint is given: its name, its bound socket, random bases for the
outbound stream and thirty bytes for a key, and the time. -/
structure RtpSetup where
  id : EndpointId
  direction : EndpointDirection
  localRtpAddr : SocketAddr
  ssrc : UInt32
  seqNo : UInt16
  keyBytes : Vector UInt8 30
  now : Nat
deriving DecidableEq

namespace RtpEndpoint

protected def new (setup : RtpSetup) : RtpEndpoint :=
  { id := setup.id, stats := { createdAt := setup.now },
    latch := { localRtpAddr := setup.localRtpAddr, sourceNetworks := defaultRtpSourceNetworks,
               rtpLatchResetAt := setup.now,
               rtcpLatchResetAt := setup.now },
    direction := .new setup.direction,
    outbound := { ourSsrc := setup.ssrc, seqNo := setup.seqNo },
    lastRtcpSent := setup.now }

def withSourceNetworks (ep : RtpEndpoint) (networks : List IpNet) : RtpEndpoint :=
  { ep with latch := { ep.latch with sourceNetworks := networks } }

def hasSrtp (ep : RtpEndpoint) : Bool := ep.rxKeys.hasSrtp

def answerCrypto (keyB64 : Text) (offered : Option SdpCrypto) : SdpCrypto :=
  { tag := (offered.map SdpCrypto.tag).getD 1,
    suite := (offered.map SdpCrypto.suite).getD supportedSuite,
    keyB64 := keyB64,
    keyLifetimePackets := none }

variable (P : Primitives)

def offerKeys (ep : RtpEndpoint) (setup : RtpSetup) (crypto : SdpCrypto) :
    Except String (RtpRxKeys × RtpTxKeys × Text) :=
  match remoteSrtpContexts P crypto with
  | .error e => .error ("SRTP RX init failed: " ++ e)
  | .ok (srtp, srtcp) =>
    match ep.txKeys.install P setup.keyBytes "init" with
    | (_, .error e) => .error e
    | (txKeys, .ok keyB64) =>
      .ok ({ ep.rxKeys with srtp := { rx := some srtp }, srtcp := { rx := some srtcp },
                            srtpRxKeyB64 := some crypto.keyB64 }, txKeys, keyB64)

def localParameters (codec : SdpCodec) : SdpCodec :=
  if codec.name == codecOpus.name then { codec with fmtp := codecOpus.fmtp } else codec

def fromOfferWithCodec (setup : RtpSetup) (bindIp : IpAddr) (offerSdp : Text)
    (codec : Option Text) : Except String (RtpEndpoint × Text) :=
  let parsed := parseSdp P offerSdp
  match parsed.validatePlainOffer P with
  | .error e => .error e
  | .ok () =>
    let ep := RtpEndpoint.new setup
    match RtpMedia.ofOffer parsed codec with
    | .error e => .error e
    | .ok media =>
      let ep :=
        { ep with latch := ep.latch.setRemote parsed.rtcpMux parsed,
                  direction := ep.direction.setRemote parsed.direction,
                  media := media }
      let keyed : Except String (RtpEndpoint × Option SdpCrypto) :=
        match parsed.crypto with
        | none => .ok (ep, none)
        | some crypto =>
          match ep.offerKeys P setup crypto with
          | .error e => .error e
          | .ok (rxKeys, txKeys, keyB64) =>
            .ok ({ ep with rxKeys := rxKeys, txKeys := txKeys },
              some (answerCrypto keyB64 (some crypto)))
      match keyed with
      | .error e => .error e
      | .ok (ep, crypto) =>
        let port := ep.latch.localRtpAddr.port
        match generateSdpAnswerForOffer (SocketAddr.new bindIp port) port
            (ep.media.answerCodecs.map localParameters) crypto (sessionIdOf ep.id) parsed with
        | .error e => .error e
        | .ok answer => .ok ({ ep with state := .connected }, answer)

def offerText (ep : RtpEndpoint) (bindIp : IpAddr) (crypto : Option SdpCrypto) : Text :=
  let port := ep.latch.localRtpAddr.port
  let localAddr := SocketAddr.new bindIp port
  match ep.srtpOptional, crypto with
  | true, some crypto =>
    generateOsrtpSdpOffer localAddr port ep.media.codecs crypto (sessionIdOf ep.id)
  | _, _ => generateSdpOffer localAddr port ep.media.codecs crypto (sessionIdOf ep.id)

def createOffer (setup : RtpSetup) (bindIp : IpAddr) (codecs : List SdpCodec)
    (mediaSecurity : RtpMediaSecurity) : Except String (RtpEndpoint × Text) :=
  let ep := { RtpEndpoint.new setup with media := RtpMedia.forOffer codecs }
  if mediaSecurity = .plainRtp then
    .ok ({ ep with state := .connecting }, ep.offerText bindIp none)
  else
    match ep.txKeys.install P setup.keyBytes "init" with
    | (_, .error e) => .error e
    | (txKeys, .ok keyB64) =>
      let ep := { ep with
        txKeys := txKeys, srtpOptional := mediaSecurity == RtpMediaSecurity.optionalSrtp }
      .ok ({ ep with state := .connecting }, ep.offerText bindIp (some (answerCrypto keyB64 none)))

/-! ### Descriptions -/

def resetAddrLock (ep : RtpEndpoint) (now : Nat) : RtpEndpoint :=
  { ep with latch := ep.latch.resetAddrLock now }

def installKeys (ep : RtpEndpoint) (now : Nat) (txKey : Vector UInt8 30)
    (crypto : Option SdpCrypto) : RtpEndpoint × Except String Unit :=
  match crypto with
  | none => (ep, .ok ())
  | some crypto =>
    match ep.rxKeys.install P now crypto with
    | (rxKeys, .error e) => ({ ep with rxKeys := rxKeys }, .error e)
    | (rxKeys, .ok ()) =>
      let ep := { ep with rxKeys := rxKeys }
      if ep.txKeys.srtpTx.isSome then (ep, .ok ())
      else
        match ep.txKeys.install P txKey "init" with
        | (txKeys, .error e) => ({ ep with txKeys := txKeys }, .error e)
        | (txKeys, .ok _) => ({ ep with txKeys := txKeys }, .ok ())

/-- The addresses and the direction of an accepted description; rtcp-mux stays once
it was agreed. -/
def setRemote (ep : RtpEndpoint) (parsed : ParsedSdp) : RtpEndpoint :=
  { ep with direction := ep.direction.setRemote parsed.direction,
            latch := ep.latch.setRemote (ep.latch.rtcpMux || parsed.rtcpMux) parsed }

def reopen (ep : RtpEndpoint) (now : Nat) : RtpEndpoint :=
  { ep.resetAddrLock now with remoteSsrc := none }

def checkLifetime (ep : RtpEndpoint) (crypto : Option SdpCrypto) : Except String Unit :=
  match crypto with
  | none => .ok ()
  | some crypto => ep.rxKeys.validateRemoteSrtpLifetimeUpdate crypto

def selectedPlainRtp (ep : RtpEndpoint) (parsed : ParsedSdp) : Bool :=
  ep.txKeys.srtpTxKeyB64.isSome && parsed.crypto.isNone && ep.srtpOptional && !ep.hasSrtp

def declineKey (ep : RtpEndpoint) (parsed : ParsedSdp) : RtpEndpoint :=
  if ep.selectedPlainRtp parsed then { ep with txKeys := {}, srtpOptional := false } else ep

def checkAnswer (ep : RtpEndpoint) (parsed : ParsedSdp) : Except String (List SdpCodec) :=
  let security := fun srtp : Bool => if srtp then "SRTP" else "RTP"
  let offeredSrtp := ep.txKeys.srtpTxKeyB64.isSome
  let answeredSrtp := parsed.crypto.isSome
  match parsed.validatePlainTransport P with
  | .error e => .error e
  | .ok () =>
  if offeredSrtp ≠ answeredSrtp ∧ ep.selectedPlainRtp parsed = false then
    .error ("SDP answer media security does not match the offer (offered " ++
      security offeredSrtp ++ ", answered " ++ security answeredSrtp ++ ")")
  else
  match ep.latch.rejectFamilyChange parsed.remoteAddr with
  | .error e => .error e
  | .ok () =>
  if parsed.remoteAddr.isNone then .error "SDP answer has no connection address"
  else
  match ep.media.validateAnswer parsed with
  | .error e => .error e
  | .ok valid =>
  match ep.checkLifetime parsed.crypto with
  | .error e => .error e
  | .ok () => .ok valid

def setAnswerMedia (ep : RtpEndpoint) (parsed : ParsedSdp) (valid : List SdpCodec) : RtpEndpoint :=
  let media := ep.media.setAnswer parsed valid
  let clockOf := fun media : RtpMedia => media.sendCodec.map SdpCodec.clockRate
  { ep with
      media := media,
      rtcpStats :=
        if clockOf ep.media ≠ clockOf media ∧ ep.rtcpStats.remoteReceiverReport.isSome then
          ep.rtcpStats.resetRemoteReceiverReport
        else ep.rtcpStats }

def acceptAnswer (ep : RtpEndpoint) (now : Nat) (txKey : Vector UInt8 30) (answerSdp : Text) :
    RtpEndpoint × Except String Unit :=
  let parsed := parseSdp P answerSdp
  match ep.checkAnswer P parsed with
  | .error e => (ep, .error e)
  | .ok valid =>
    match (((ep.declineKey parsed).setRemote parsed).setAnswerMedia parsed valid).installKeys P
        now txKey parsed.crypto with
    | (ep, .error e) => (ep, .error e)
    | (ep, .ok ()) => (({ ep with state := .connected } : RtpEndpoint).reopen now, .ok ())

def checkOffer (ep : RtpEndpoint) (parsed : ParsedSdp) : Except String Unit :=
  match parsed.validatePlainOffer P with
  | .error e => .error e
  | .ok () =>
  if ep.hasSrtp && parsed.crypto.isNone then
    .error "SDP renegotiation cannot remove established SRTP security"
  else
  match ep.latch.rejectFamilyChange parsed.remoteAddr with
  | .error e => .error e
  | .ok () => ep.checkLifetime parsed.crypto

def updateRemoteSdp (ep : RtpEndpoint) (now : Nat) (txKey : Vector UInt8 30) (sdp : Text) :
    RtpEndpoint × Except String Text :=
  let parsed := parseSdp P sdp
  match ep.checkOffer P parsed with
  | .error e => (ep, .error e)
  | .ok () =>
    match (ep.setRemote parsed).installKeys P now txKey parsed.crypto with
    | (ep, .error e) => (ep, .error e)
    | (ep, .ok ()) =>
      let ep := ep.reopen now
      let addr := ep.latch.localRtpAddr
      let crypto := ep.txKeys.srtpTxKeyB64.map fun key => answerCrypto key parsed.crypto
      (ep, generateSdpAnswerForOffer (SocketAddr.new addr.ip addr.port) addr.port
        ep.media.answerCodecs crypto (sessionIdOf ep.id) parsed)

def srtpRekey (ep : RtpEndpoint) (key : Vector UInt8 30) : RtpEndpoint × Except String Text :=
  if ep.txKeys.srtpTx.isNone then (ep, .error "SRTP is not active on this endpoint")
  else
    match ep.txKeys.install P key "rekey" with
    | (txKeys, .error e) => ({ ep with txKeys := txKeys }, .error e)
    | (txKeys, .ok keyB64) =>
      let ep := { ep with txKeys := txKeys }
      (ep, .ok (ep.offerText ep.latch.localRtpAddr.ip (some (answerCrypto keyB64 none))))

/-! ### Packets -/

def checkRekeySwitchover (ep : RtpEndpoint) (now : Nat) : RtpEndpoint :=
  { ep with rxKeys := ep.rxKeys.checkRekeySwitchover now }

def recordSourceRejection (ep : RtpEndpoint) : RtpEndpoint :=
  { ep with sourceRejections := ep.sourceRejections + 1 }

def plainHeader (plain : Bytes) : Option RtpHeader :=
  match RtpHeader.parse plain with
  | none => none
  | some header =>
    let padding := (plain.getLastD 0).toNat
    if header.padding ∧ (padding = 0 ∨ plain.length - header.headerLen < padding) then none
    else some header

def acceptRtp (ep : RtpEndpoint) (now : Nat) (header : RtpHeader) (payload : Bytes)
    (source : SocketAddr) : RtpEndpoint :=
  { ep with
      remoteSsrc := some header.ssrc,
      latch := ep.latch.acceptRtp source,
      stats := { ep.stats with inboundPackets := ep.stats.inboundPackets + 1,
                               inboundBytes := ep.stats.inboundBytes + payload.length,
                               lastReceived := some now },
      rtcpStats := ep.rtcpStats.recordReceived now header.ssrc header.sequenceNumber
        header.timestamp payload.length ep.media.recvClockRate }

def routedPacket (ep : RtpEndpoint) (header : RtpHeader) (payload : Bytes) : RoutedRtpPacket :=
  { sourceEndpointId := ep.id, payloadType := header.payloadType,
    sequenceNumber := header.sequenceNumber,
    timestamp := header.timestamp,
    ssrc := header.ssrc,
    marker := header.marker,
    payload := payload }

def handleRtpAt (ep : RtpEndpoint) (now : Nat) (data : Bytes) (source : SocketAddr)
    (receivedAt : Nat) : RtpEndpoint × Option RoutedRtpPacket :=
  let ep := ep.checkRekeySwitchover now
  if ep.latch.sourceAllowed source receivedAt false = false then (ep.recordSourceRejection, none)
  else
    match RtpHeader.parse data with
    | none => (ep, none)
    | some wireHeader =>
      if ep.media.acceptsPayloadType wireHeader.payloadType = false then (ep, none)
      else
        match ep.rxKeys.decryptRtp P data with
        | (rxKeys, none) => ({ ep with rxKeys := rxKeys }, none)
        | (rxKeys, some plain) =>
          let ep := { ep with rxKeys := rxKeys }
          match plainHeader plain with
          | none => (ep, none)
          | some header =>
            let payload := header.payload plain
            (ep.acceptRtp now header payload source, some (ep.routedPacket header payload))

def lastBye (packets : List RtcpPacket) : Option ByePacket :=
  (packets.filterMap fun
    | .bye bye => some bye
    | _ => none).getLast?

def acceptRtcp (ep : RtpEndpoint) (now unix : Nat) (packets : List RtcpPacket)
    (source : SocketAddr) : RtpEndpoint :=
  { ep with
      latch := ep.latch.acceptRtcp source,
      rtcpStats := packets.foldl
        (fun stats packet => stats.processPacket now unix ep.outbound.ourSsrc packet)
        ep.rtcpStats }

def handleRtcpAt (ep : RtpEndpoint) (now unix : Nat) (data : Bytes) (source : SocketAddr)
    (receivedAt : Nat) : RtpEndpoint × Option ByePacket × Option Bytes :=
  let ep := ep.checkRekeySwitchover now
  if ep.latch.sourceAllowed source receivedAt true = false then
    (ep.recordSourceRejection, none, none)
  else
    match ep.rxKeys.decryptRtcp P data with
    | (rxKeys, none) => ({ ep with rxKeys := rxKeys }, none, none)
    | (rxKeys, some plain) =>
      let ep := { ep with rxKeys := rxKeys }
      if validCompound plain = false then (ep, none, none)
      else
        let packets := parseRtcp plain
        (ep.acceptRtcp now unix packets source, lastBye packets, some plain)

def outboundTimestamp (ep : RtpEndpoint) (packet : RoutedRtpPacket) : RtpOutbound × UInt32 × Bool :=
  if some packet.payloadType = ep.media.telephoneEventPt then
    let (outbound, ts) :=
      ep.outbound.dtmfOutboundTs ep.media.telephoneEventClockRate packet.marker packet.timestamp
    (outbound, ts, packet.marker)
  else
    ep.outbound.advanceOutboundTimeline ep.media.sendCodec packet.sourceEndpointId
      packet.timestamp packet.marker

structure Written where
  datagram : Option (SocketAddr × Bytes) := none
  result : Except String (Option Bytes)

def Written.ofSend (remote : SocketAddr) (datagram plain : Bytes)
    (sendResult : Except String Unit) : Written :=
  { datagram := some (remote, datagram), result :=
      match sendResult with
      | .ok () => .ok (some plain)
      | .error e => .error e }

def writeRtp (ep : RtpEndpoint) (packet : RoutedRtpPacket) (sendResult : Except String Unit) :
    RtpEndpoint × Written :=
  match ep.latch.remoteRtpAddr with
  | none => (ep, { result := .error "No remote RTP address" })
  | some remote =>
    if ep.remoteSsrc.isNone then (ep, { result := .ok none })
    else
      let (outbound, outboundTs, marker) := ep.outboundTimestamp packet
      let unencrypted := RtpHeader.build packet.payloadType outbound.seqNo outboundTs
        outbound.ourSsrc marker packet.payload
      let ep :=
        { ep with
            outbound := { outbound with seqNo := outbound.seqNo + 1,
                                        lastRtpTimestamp := outboundTs },
            stats := { ep.stats with
              outboundPackets := ep.stats.outboundPackets + 1,
              outboundBytes := ep.stats.outboundBytes + packet.payload.length },
            rtcpStats := ep.rtcpStats.recordSent packet.payload.length }
      match ep.txKeys.srtpTx with
      | none => (ep, .ofSend remote unencrypted unencrypted sendResult)
      | some ctx =>
        let (ctx, sealed) := ctx.protect P unencrypted
        let ep := { ep with txKeys := { ep.txKeys with srtpTx := some ctx } }
        match sealed with
        | .error e => (ep, { result := .error e })
        | .ok encrypted => (ep, .ofSend remote encrypted unencrypted sendResult)

def rtcpInterval : Nat := 5 * 10 ^ 9

def maybeSendRtcp (ep : RtpEndpoint) (now unix : Nat) (sendResult : Except String Unit) :
    RtpEndpoint × Written :=
  match ep.latch.remoteRtcpAddr, ep.remoteSsrc with
  | some remoteRtcp, some remoteSsrc =>
    if now - ep.lastRtcpSent < rtcpInterval then (ep, { result := .ok none })
    else
      let clockRate := (ep.media.sendCodec.map SdpCodec.clockRate).getD 8000
      let (rtcpStats, rtcpData) := buildSrRr ep.outbound.ourSsrc remoteSsrc ep.rtcpStats
        ep.outbound.lastRtpTimestamp clockRate now unix
      let ep := { ep with rtcpStats := rtcpStats }
      let sent := fun (ep : RtpEndpoint) (sendData : Bytes) =>
        (if sendResult.isOk then { ep with lastRtcpSent := now } else ep,
          Written.ofSend remoteRtcp sendData rtcpData sendResult)
      match ep.txKeys.srtcpTx with
      | none => sent ep rtcpData
      | some ctx =>
        let (ctx, sealed) := ctx.protectRtcp P rtcpData
        let ep := { ep with txKeys := { ep.txKeys with srtcpTx := some ctx } }
        match sealed with
        | .error e => (ep, { result := .error e })
        | .ok sendData => sent ep sendData
  | _, _ => (ep, { result := .ok none })

def bumpOutboundSsrc (ep : RtpEndpoint) (ssrc : UInt32) (seq : UInt16) (timestamp : UInt32) :
    RtpEndpoint :=
  { ep with outbound := ep.outbound.bump ssrc seq timestamp,
            rtcpStats := ep.rtcpStats.resetRemoteReceiverReport }

def setDirectionOverride (ep : RtpEndpoint) (update : EndpointDirectionUpdate) : RtpEndpoint :=
  { ep with direction := ep.direction.setOverride update }

end RtpEndpoint

/-! ## Runs -/

inductive RtpCall where
  | acceptAnswer (sdp : Text) (txKey : Vector UInt8 30)
  | updateRemoteSdp (sdp : Text) (txKey : Vector UInt8 30)
  | srtpRekey (key : Vector UInt8 30)
  | checkRekeySwitchover
  | setDirectionOverride (update : EndpointDirectionUpdate)
  | bumpOutboundSsrc (ssrc : UInt32) (seq : UInt16) (timestamp : UInt32)
  | resetAddrLock
  | handleRtpAt (data : Bytes) (source : SocketAddr) (receivedAt : Nat)
  | handleRtcpAt (data : Bytes) (source : SocketAddr) (receivedAt : Nat)
  | writeRtp (packet : RoutedRtpPacket) (sendResult : Except String Unit)
  | maybeSendRtcp (sendResult : Except String Unit)

def RtpCall.isMedia : RtpCall → Bool
  | .srtpRekey _ | .checkRekeySwitchover | .handleRtpAt _ _ _ | .handleRtcpAt _ _ _
  | .writeRtp _ _ | .maybeSendRtcp _ => true
  | .acceptAnswer _ _ | .updateRemoteSdp _ _ | .setDirectionOverride _ | .bumpOutboundSsrc _ _ _
  | .resetAddrLock => false

structure RtpEvent where
  now : Nat
  unix : Nat := 0
  call : RtpCall

inductive RtpOutcome where
  | none
  | answered (result : Except String Unit)
  | described (result : Except String Text)
  | routed (packet : Option RoutedRtpPacket)
  | control (bye : Option ByePacket) (plain : Option Bytes)
  | written (w : RtpEndpoint.Written)

def RtpCall.sdp? : RtpCall → Option Text
  | .acceptAnswer sdp _ => some sdp
  | .updateRemoteSdp sdp _ => some sdp
  | _ => none

def RtpOutcome.packet? : RtpOutcome → Option RoutedRtpPacket
  | .routed packet => packet
  | _ => Option.none

def RtpOutcome.rtcp? : RtpOutcome → Option Bytes
  | .control _ plain => plain
  | _ => Option.none

namespace RtpEndpoint

def step (P : Primitives) (ep : RtpEndpoint) (ev : RtpEvent) : RtpEndpoint × RtpOutcome :=
  match ev.call with
  | .acceptAnswer sdp txKey =>
    let (ep, result) := ep.acceptAnswer P ev.now txKey sdp
    (ep, .answered result)
  | .updateRemoteSdp sdp txKey =>
    let (ep, result) := ep.updateRemoteSdp P ev.now txKey sdp
    (ep, .described result)
  | .srtpRekey key =>
    let (ep, result) := ep.srtpRekey P key
    (ep, .described result)
  | .checkRekeySwitchover => (ep.checkRekeySwitchover ev.now, .none)
  | .setDirectionOverride update => (ep.setDirectionOverride update, .none)
  | .bumpOutboundSsrc ssrc seq timestamp => (ep.bumpOutboundSsrc ssrc seq timestamp, .none)
  | .resetAddrLock => (ep.resetAddrLock ev.now, .none)
  | .handleRtpAt data source receivedAt =>
    let (ep, packet) := ep.handleRtpAt P ev.now data source receivedAt
    (ep, .routed packet)
  | .handleRtcpAt data source receivedAt =>
    let (ep, bye, plain) := ep.handleRtcpAt P ev.now ev.unix data source receivedAt
    (ep, .control bye plain)
  | .writeRtp packet sendResult =>
    let (ep, w) := ep.writeRtp P packet sendResult
    (ep, .written w)
  | .maybeSendRtcp sendResult =>
    let (ep, w) := ep.maybeSendRtcp P ev.now ev.unix sendResult
    (ep, .written w)

inductive Created (P : Primitives) : RtpEndpoint → Prop where
  | fromOffer {setup : RtpSetup} {bindIp : IpAddr} {offer : Text} {codec : Option Text}
      {ep : RtpEndpoint} {answer : Text} (networks : List IpNet)
      (h : fromOfferWithCodec P setup bindIp offer codec = .ok (ep, answer)) :
      Created P (ep.withSourceNetworks networks)
  | withOffer {setup : RtpSetup} {bindIp : IpAddr} {codecs : List SdpCodec}
      {security : RtpMediaSecurity} {ep : RtpEndpoint} {offer : Text} (networks : List IpNet)
      (h : createOffer P setup bindIp codecs security = .ok (ep, offer)) :
      Created P (ep.withSourceNetworks networks)

/-! ## A concrete endpoint -/

def sampleSetup : RtpSetup :=
  { id := 1, direction := .sendRecv, localRtpAddr := .v4 0xC0000201 30000, ssrc := 7, seqNo := 0,
    keyBytes := Vector.replicate 30 1, now := 0 }

def sampleSdp (profile : Text) (attributes : List Text) : Text :=
  (["v=0".toList, "s=-".toList, "c=IN IP4 192.0.2.10".toList, "t=0 0".toList,
    "m=audio 4000 ".toList ++ profile ++ " 0".toList] ++ attributes).flatMap (· ++ crlf)

def samplePlainSdp : Text := sampleSdp "RTP/AVP".toList []

def sampleSecureSdp (key : Text) : Text :=
  sampleSdp "RTP/SAVP".toList
    ["a=crypto:1 AES_CM_128_HMAC_SHA1_80 ".toList ++ "inline:".toList ++ key]

def sampleSource : SocketAddr := .v4 0xC000020A 4000

def sampleOffering (security : RtpMediaSecurity) : RtpEndpoint :=
  match createOffer .reference sampleSetup (.v4 0xC0000201) [codecPcmu] security with
  | .ok (ep, _) => ep
  | .error _ => RtpEndpoint.new sampleSetup

theorem sampleOffering_ok (security : RtpMediaSecurity) :
    ∃ offer, createOffer .reference sampleSetup (.v4 0xC0000201) [codecPcmu] security =
      .ok (sampleOffering security, offer) := by
  cases security with
  | plainRtp => exact ⟨_, rfl⟩
  | optionalSrtp => exact ⟨_, rfl⟩
  | srtp => exact ⟨_, rfl⟩

theorem sampleOffering_created (security : RtpMediaSecurity) :
    Created .reference ((sampleOffering security).withSourceNetworks []) := by
  obtain ⟨offer, ho⟩ := sampleOffering_ok security
  exact .withOffer [] ho

end RtpEndpoint
end RtpBridge.Session
