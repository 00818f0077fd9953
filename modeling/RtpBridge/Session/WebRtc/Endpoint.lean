/-
The outbound stream of the WebRTC endpoint of `session/endpoint_webrtc.rs`.

The media stack behind the endpoint is an argument: what it answers about the
negotiated payload types and about the sender of the audio line are fields that the
endpoint reads.  ICE, DTLS and the inbound side are left out.
-/
import RtpBridge.Base.Timeline
import RtpBridge.Session.Rtp.Endpoint

namespace RtpBridge.Session

open Wire

/-- `WEBRTC_OPUS_RTP_CLOCK_HZ`. -/
def webRtcOpusRtpClockHz : UInt32 := 48000

/-- The codecs the media stack knows; only the first three carry our audio. -/
inductive WebRtcCodec where
  | opus
  | pcmu
  | pcma
  | other
deriving DecidableEq

def WebRtcCodec.name? : WebRtcCodec → Option Text
  | .opus => some "opus".toList
  | .pcmu => some "PCMU".toList
  | .pcma => some "PCMA".toList
  | .other => none

structure PayloadParams where
  pt : UInt8
  codec : WebRtcCodec
  clockRate : UInt32
  channels : Option UInt8 := none
deriving DecidableEq

structure NegotiatedCodec where
  name : Text
  pt : UInt8
  clockRate : UInt32
  channels : UInt8
deriving DecidableEq

structure Rtc where
  params : List PayloadParams := []
  remotePts : Option (List UInt8) := none
  txStream : Bool := false
deriving DecidableEq

structure WebRtcEndpoint where
  id : EndpointId
  rtc : Rtc := {}
  audioMid : Option Text := none
  outboundSeqNo : UInt64
  lastOutboundTs : Option UInt32 := none
  lastSourceId : Option EndpointId := none
  lastSourceTs : Option UInt32 := none
  learnedStep : Option UInt32 := none
  outboundClockRate : Option UInt32 := none
  stats : EndpointStats
deriving DecidableEq

structure RtpWrite where
  pt : UInt8
  seqNo : UInt64
  timestamp : UInt32
  marker : Bool
  payload : Bytes
deriving DecidableEq

namespace WebRtcEndpoint

def negotiatedCodec (ep : WebRtcEndpoint) : Option NegotiatedCodec :=
  match ep.audioMid, ep.rtc.remotePts with
  | some _, some remotePts =>
    ep.rtc.params.findSome? fun p =>
      if remotePts.contains p.pt then
        p.codec.name?.map fun name =>
          { name := name, pt := p.pt, clockRate := p.clockRate, channels := p.channels.getD 1 }
      else none
  | _, _ => none

def clockRate (ep : WebRtcEndpoint) : UInt32 :=
  (ep.negotiatedCodec.map NegotiatedCodec.clockRate).getD webRtcOpusRtpClockHz

def resetClockRate (ep : WebRtcEndpoint) : WebRtcEndpoint :=
  if ep.outboundClockRate = some ep.clockRate then ep
  else { ep with outboundClockRate := some ep.clockRate, learnedStep := none, lastSourceTs := none }

def advanceOutboundTimeline (ep : WebRtcEndpoint) (sourceId : EndpointId) (sourceTs : UInt32)
    (sourceMarker : Bool) : WebRtcEndpoint × UInt32 × Bool :=
  let nominalStep := ep.clockRate / 50
  let ep := ep.resetClockRate
  let bump := ep.learnedStep.getD nominalStep
  let (learnedStep, outboundTs, markerOverride) :=
    match ep.lastOutboundTs with
    | none => (ep.learnedStep, sourceTs, sourceMarker)
    | some lastOut =>
      match ep.lastSourceId, ep.lastSourceTs with
      | some lastSrc, some lastSrcTs =>
        if lastSrc = sourceId then
          let delta := sourceTs - lastSrcTs
          if delta = 0 then (ep.learnedStep, lastOut, false)
          else if RtpOutbound.saturatingMul32 bump 10 < delta then
            (ep.learnedStep, lastOut + bump, true)
          else
            (if delta ≤ RtpOutbound.saturatingMul32 bump 2 then some delta
              else ep.learnedStep, lastOut + delta, false)
        else (ep.learnedStep, lastOut + bump, true)
      | _, _ => (ep.learnedStep, lastOut + bump, true)
  ({ ep with learnedStep := learnedStep, lastOutboundTs := some outboundTs,
             lastSourceId := some sourceId, lastSourceTs := some sourceTs },
    outboundTs, sourceMarker || markerOverride)

def writeRtp (ep : WebRtcEndpoint) (packet : RoutedRtpPacket) :
    WebRtcEndpoint × Except String RtpWrite :=
  match ep.audioMid with
  | none => (ep, .error "No audio mid negotiated")
  | some mid =>
    let seqNo := ep.outboundSeqNo
    let (ep, outboundTs, marker) :=
      { ep with outboundSeqNo := seqNo + 1 }.advanceOutboundTimeline packet.sourceEndpointId
        packet.timestamp packet.marker
    if ep.rtc.txStream = false then
      (ep, .error ("No TX stream for mid " ++ String.ofList mid))
    else
      ({ ep with stats := { ep.stats with
            outboundPackets := ep.stats.outboundPackets + 1,
            outboundBytes := ep.stats.outboundBytes + packet.payload.length } },
        .ok { pt := packet.payloadType, seqNo := seqNo, timestamp := outboundTs,
              marker := marker, payload := packet.payload })

def timeline (ep : WebRtcEndpoint) : Timeline EndpointId :=
  { lastOut := ep.lastOutboundTs, lastSource := ep.lastSourceId,
    lastSourceTs := if ep.outboundClockRate = some ep.clockRate then ep.lastSourceTs else none,
    learned := if ep.outboundClockRate = some ep.clockRate then ep.learnedStep else none }

def nominalStep (ep : WebRtcEndpoint) : UInt32 := ep.clockRate / 50

end WebRtcEndpoint
end RtpBridge.Session
