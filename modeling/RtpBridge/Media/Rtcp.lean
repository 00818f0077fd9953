/-
RTCP of `media/rtcp.rs`: the validation of a compound datagram, the parser of its
reports, the statistics that feed our own reports, and the builder of those.

Instants and the wall clock are nanosecond counts and arguments of the functions
that read them.  A round trip time is kept in the 1/65536 seconds it is computed
in; the source scales it to milliseconds in a `f64`, which is exact there.
-/
import RtpBridge.Base.Bytes

namespace RtpBridge.Rtcp

open Wire

def rtcpSr : UInt8 := 200
def rtcpRr : UInt8 := 201
def rtcpSdes : UInt8 := 202
def rtcpBye : UInt8 := 203

structure ReportBlock where
  ssrc : UInt32
  fractionLost : UInt8
  cumulativeLost : Int
  highestSeq : UInt32
  jitter : UInt32
  lastSr : UInt32
  delaySinceLastSr : UInt32
deriving DecidableEq

structure SenderReport where
  ssrc : UInt32
  ntpTimestamp : UInt64
  rtpTimestamp : UInt32
  senderPacketCount : UInt32
  senderOctetCount : UInt32
  reportBlocks : List ReportBlock
deriving DecidableEq

structure ReceiverReport where
  ssrc : UInt32
  reportBlocks : List ReportBlock
deriving DecidableEq

structure ByePacket where
  ssrcList : List UInt32
  reason : Option Bytes
deriving DecidableEq

inductive RtcpPacket where
  | senderReport (sr : SenderReport)
  | receiverReport (rr : ReceiverReport)
  | bye (bye : ByePacket)
deriving DecidableEq

/-! ## Validation -/

/-- The items of one SDES chunk from `offset` on: the offset after the zero byte
and its alignment, or nothing when the chunk does not end inside the packet. -/
def sdesItems (content : Bytes) : Nat → Nat → Option Nat
  | 0, _ => none
  | fuel + 1, offset =>
    if content.length ≤ offset then none
    else if byteAt content offset = 0 then some ((offset + 4) / 4 * 4)
    else if content.length < offset + 2 then none
    else
      let next := offset + (2 + (byteAt content (offset + 1)).toNat)
      if content.length < next then none else sdesItems content fuel next

def sdesChunks (content : Bytes) : Nat → Nat → Option Nat
  | 0, offset => some offset
  | count + 1, offset =>
    if content.length < offset + 4 then none
    else
      match sdesItems content (content.length + 1) (offset + 4) with
      | none => none
      | some next => sdesChunks content count next

def validContent (packetType : UInt8) (count : Nat) (content : Bytes) : Bool :=
  if packetType = rtcpSr then !(content.length < 28 + count * 24)
  else if packetType = rtcpRr then !(content.length < 8 + count * 24)
  else if packetType = rtcpBye then
    let stop := 4 + count * 4
    if count = 0 ∨ content.length < stop then false
    else !(stop < content.length ∧ content.length < stop + 1 + (byteAt content stop).toNat)
  else if packetType = rtcpSdes then sdesChunks content count 4 = some content.length
  else if 204 ≤ packetType ∧ packetType ≤ 206 then !(content.length < 12)
  else if packetType = 207 then !(content.length < 8)
  else true

def declaredSize (data : Bytes) : Nat := ((u16At data 2).toNat + 1) * 4

/-- The packet at the front without its padding, if it is well formed.  Only the
last packet of a compound may be padded. -/
def frontContent (data : Bytes) : Option Bytes :=
  let size := declaredSize data
  if data.length < 4 ∨ byteAt data 0 >>> 6 ≠ 2 ∨ byteAt data 1 < 192 ∨ 223 < byteAt data 1 ∨
      data.length < size then none
  else if byteAt data 0 &&& 0x20 ≠ 0 then
    let padding := (byteAt data (size - 1)).toNat
    if size ≠ data.length ∨ padding = 0 ∨ size - 4 < padding then none
    else some (data.take (size - padding))
  else some (data.take size)

/-- Every packet takes at least four bytes, so the length of the data bounds the
number of rounds. -/
def validPackets : Nat → Bytes → Bool
  | _, [] => true
  | 0, _ :: _ => false
  | fuel + 1, data =>
    match frontContent data with
    | none => false
    | some content =>
      validContent (byteAt data 1) (byteAt data 0 &&& 31).toNat content &&
        validPackets fuel (data.drop (declaredSize data))

def validCompound (data : Bytes) : Bool := !data.isEmpty && validPackets data.length data

/-! ## Parsing -/

def parseReportBlock (data : Bytes) : ReportBlock :=
  let high : UInt8 := if byteAt data 5 &&& 0x80 ≠ 0 then 0xFF else 0
  { ssrc := u32At data 0, fractionLost := byteAt data 4, cumulativeLost :=
      (BitVec.ofNat 32 (beNat [high, byteAt data 5, byteAt data 6, byteAt data 7])).toInt,
    highestSeq := u32At data 8,
    jitter := u32At data 12,
    lastSr := u32At data 16,
    delaySinceLastSr := u32At data 20 }

def parseReportBlocks (data : Bytes) : Nat → List ReportBlock
  | 0 => []
  | count + 1 =>
    if data.length < 24 then []
    else parseReportBlock data :: parseReportBlocks (data.drop 24) count

def parseByeSsrcs (content : Bytes) : Nat → Nat → List UInt32 × Nat
  | 0, offset => ([], offset)
  | count + 1, offset =>
    if content.length < offset + 4 then ([], offset)
    else
      let (rest, stop) := parseByeSsrcs content count (offset + 4)
      (u32At content offset :: rest, stop)

def parseBye (content : Bytes) (count : Nat) : ByePacket :=
  let (ssrcList, offset) := parseByeSsrcs content count 4
  let len := (byteAt content offset).toNat
  { ssrcList := ssrcList, reason :=
      if offset < content.length ∧ 0 < len ∧ offset + 1 + len ≤ content.length then
        some ((content.drop (offset + 1)).take len)
      else none }

def parsePacket (packetType : UInt8) (count : Nat) (content : Bytes) : Option RtcpPacket :=
  if packetType = rtcpSr ∧ 28 ≤ content.length then
    some (.senderReport
      { ssrc := u32At content 4, ntpTimestamp := UInt64.ofNat (beNat ((content.drop 8).take 8)),
        rtpTimestamp := u32At content 16,
        senderPacketCount := u32At content 20,
        senderOctetCount := u32At content 24,
        reportBlocks := parseReportBlocks (content.drop 28) count })
  else if packetType = rtcpRr ∧ 8 ≤ content.length then
    some (.receiverReport
      { ssrc := u32At content 4, reportBlocks := parseReportBlocks (content.drop 8) count })
  else if packetType = rtcpBye then some (.bye (parseBye content count))
  else none

def stripPadding (packet : Bytes) : Bytes :=
  let padCount := (packet.getLastD 0).toNat
  if (byteAt packet 0 >>> 5) &&& 0x01 ≠ 0 ∧ 0 < padCount ∧ padCount ≤ packet.length then
    packet.take (packet.length - padCount)
  else packet

def parsePackets : Nat → Bytes → List RtcpPacket
  | 0, _ => []
  | fuel + 1, data =>
    let size := declaredSize data
    if data.length < 4 ∨ (byteAt data 0 >>> 6) &&& 0x03 ≠ 2 ∨ data.length < size then []
    else
      (parsePacket (byteAt data 1) (byteAt data 0 &&& 0x1F).toNat
          (stripPadding (data.take size))).toList ++
        parsePackets fuel (data.drop size)

def parseRtcp (data : Bytes) : List RtcpPacket := parsePackets data.length data

/-! ## Statistics -/

def saturatingAdd32 (a b : UInt32) : UInt32 :=
  if a.toNat + b.toNat < 2 ^ 32 then a + b else 0xFFFFFFFF

def saturatingSub32 (a b : UInt32) : UInt32 := if b ≤ a then a - b else 0

def saturatingSucc64 (a : UInt64) : UInt64 := if a = 0xFFFFFFFFFFFFFFFF then a else a + 1

def ntpOfUnix (unix : Nat) : UInt64 :=
  let secs := unix / 10 ^ 9 + 2208988800
  let frac := unix % 10 ^ 9 * 2 ^ 32 / 10 ^ 9
  (UInt64.ofNat secs <<< 32) ||| UInt64.ofNat frac

def ntpMiddle (ntp : UInt64) : UInt32 := (ntp >>> 16).toUInt32

structure RemoteReceiverReport where
  packetsLost : Int
  highestSequence : UInt32
  jitter : UInt32
  receivedAt : Nat
  generation : UInt64
  count : UInt64
deriving DecidableEq

structure RtcpStats where
  packetsReceived : UInt32 := 0
  octetsReceived : UInt32 := 0
  jitter : UInt32 := 0
  lastSrNtp : UInt32 := 0
  lastSrReceived : Option Nat := none
  lastSrSsrc : Option UInt32 := none
  seqInitialized : Bool := false
  baseSeq : UInt32 := 0
  extendedMaxSeq : UInt32 := 0
  expectedPrior : UInt32 := 0
  receivedPrior : UInt32 := 0
  /-- Arrival, RTP timestamp and clock rate of the last packet. -/
  lastJitterSample : Option (Nat × UInt32 × UInt32) := none
  packetsSent : UInt32 := 0
  octetsSent : UInt32 := 0
  ourLastSrNtpMiddle : UInt32 := 0
  rtt : Option UInt32 := none
  rttObservedAt : Option Nat := none
  remoteReceiverReport : Option RemoteReceiverReport := none
  remoteReportGeneration : UInt64 := 0
  remoteReportCount : UInt64 := 0
  currentSsrc : Option UInt32 := none
  lostAccumulated : UInt32 := 0
deriving DecidableEq

namespace RtcpStats

def expectedPackets (stats : RtcpStats) : UInt32 :=
  if stats.seqInitialized then stats.extendedMaxSeq - stats.baseSeq + 1 else 0

def currentGenLost (stats : RtcpStats) : UInt32 :=
  saturatingSub32 stats.expectedPackets stats.packetsReceived

def cumulativeLost (stats : RtcpStats) : UInt32 :=
  saturatingAdd32 stats.lostAccumulated stats.currentGenLost

def startGeneration (stats : RtcpStats) (ssrc : UInt32) : RtcpStats :=
  if stats.currentSsrc = some ssrc then stats
  else
    { stats with
        lostAccumulated :=
          if stats.currentSsrc.isSome then
            saturatingAdd32 stats.lostAccumulated stats.currentGenLost
          else stats.lostAccumulated,
        currentSsrc := some ssrc,
        seqInitialized := false,
        packetsReceived := 0,
        octetsReceived := 0,
        expectedPrior := 0,
        receivedPrior := 0,
        lastJitterSample := none,
        jitter := 0 }

def trackSequence (stats : RtcpStats) (seq : UInt16) : RtcpStats :=
  if stats.seqInitialized then
    let delta := seq - stats.extendedMaxSeq.toUInt16
    if delta ≠ 0 ∧ delta < 0x8000 then
      { stats with extendedMaxSeq := stats.extendedMaxSeq + delta.toUInt32 }
    else stats
  else
    { stats with baseSeq := seq.toUInt32, extendedMaxSeq := seq.toUInt32, seqInitialized := true }

/-- The next jitter estimate, in microseconds.  The saturation of the source's
subtraction lies above the bound that follows it. -/
def nextJitter (jitter : UInt32) (arrivalUs : Nat) (timestampDelta : UInt32) (clockRate : UInt32) :
    UInt32 :=
  let mediaUs := (timestampDelta.toBitVec.toInt * 1000000).tdiv clockRate.toNat
  let d : Int := min ((min arrivalUs (2 ^ 63 - 1) : Nat) - mediaUs).natAbs (2 ^ 32 - 1)
  UInt32.ofNat (jitter.toNat + (d - jitter.toNat) / 16).toNat

def trackJitter (stats : RtcpStats) (now : Nat) (timestamp clockRate : UInt32) : RtcpStats :=
  if 0 < clockRate then
    { stats with
        jitter :=
          match stats.lastJitterSample with
          | some (previousArrival, previousTimestamp, previousRate) =>
            if previousRate = clockRate then
              nextJitter stats.jitter ((now - previousArrival) / 1000)
                (timestamp - previousTimestamp) clockRate
            else 0
          | none => 0,
        lastJitterSample := some (now, timestamp, clockRate) }
  else stats

def recordReceived (stats : RtcpStats) (now : Nat) (ssrc : UInt32) (seq : UInt16)
    (timestamp : UInt32) (payloadLen : Nat) (clockRate : UInt32) : RtcpStats :=
  let stats := stats.startGeneration ssrc
  let stats := { stats with packetsReceived := stats.packetsReceived + 1,
                            octetsReceived := stats.octetsReceived + UInt32.ofNat payloadLen }
  (stats.trackSequence seq).trackJitter now timestamp clockRate

def fractionLostAndUpdate (stats : RtcpStats) : RtcpStats × UInt8 :=
  let expected := stats.expectedPackets
  let expectedInterval := expected - stats.expectedPrior
  let receivedInterval := stats.packetsReceived - stats.receivedPrior
  let updated := { stats with expectedPrior := expected, receivedPrior := stats.packetsReceived }
  if expectedInterval = 0 ∨ expectedInterval ≤ receivedInterval then (updated, 0)
  else
    let lostInterval := (expectedInterval - receivedInterval).toNat
    (updated, UInt8.ofNat (min (lostInterval * 256 / expectedInterval.toNat) 255))

def recordSent (stats : RtcpStats) (payloadLen : Nat) : RtcpStats :=
  { stats with packetsSent := stats.packetsSent + 1,
               octetsSent := stats.octetsSent + UInt32.ofNat payloadLen }

def processSr (stats : RtcpStats) (now : Nat) (sr : SenderReport) : RtcpStats :=
  { stats with lastSrNtp := ntpMiddle sr.ntpTimestamp, lastSrReceived := some now,
               lastSrSsrc := some sr.ssrc }

def processRr (stats : RtcpStats) (now unix : Nat) (block : ReportBlock) (ourSsrc : UInt32) :
    RtcpStats :=
  if block.ssrc ≠ ourSsrc then stats
  else
    let count := saturatingSucc64 stats.remoteReportCount
    let stats :=
      { stats with
          remoteReportCount := count,
          remoteReceiverReport := some
            { packetsLost := block.cumulativeLost, highestSequence := block.highestSeq,
              jitter := block.jitter,
              receivedAt := now,
              generation := stats.remoteReportGeneration,
              count := count } }
    if block.lastSr = 0 then stats
    else
      let rtt := ntpMiddle (ntpOfUnix unix) - block.lastSr - block.delaySinceLastSr
      -- below ten seconds
      if rtt.toNat < 10 * 65536 then
        { stats with rtt := some rtt, rttObservedAt := some now }
      else stats

def resetRemoteReceiverReport (stats : RtcpStats) : RtcpStats :=
  { stats with remoteReportGeneration := saturatingSucc64 stats.remoteReportGeneration,
               remoteReportCount := 0,
               remoteReceiverReport := none }

def recordSrSent (stats : RtcpStats) (ntp : UInt64) : RtcpStats :=
  { stats with ourLastSrNtpMiddle := ntpMiddle ntp }

def processPacket (stats : RtcpStats) (now unix : Nat) (ourSsrc : UInt32) : RtcpPacket → RtcpStats
  | .senderReport sr =>
    (sr.reportBlocks.foldl (fun stats block => stats.processRr now unix block ourSsrc)
      stats).processSr now sr
  | .receiverReport rr =>
    rr.reportBlocks.foldl (fun stats block => stats.processRr now unix block ourSsrc) stats
  | .bye _ => stats

end RtcpStats

/-! ## Our own reports -/

def delaySince (now : Nat) (received : Nat) : UInt32 :=
  let elapsed := now - received
  UInt32.ofNat (min (elapsed / 10 ^ 9) 0xFFFF * 2 ^ 16 + elapsed % 10 ^ 9 / 1000 * 65536 / 1000000)

def buildSrRr (ourSsrc remoteSsrc : UInt32) (stats : RtcpStats) (rtpTimestamp clockRate : UInt32)
    (now unix : Nat) : RtcpStats × Bytes :=
  let ntp := ntpOfUnix unix
  let (stats, fractionLost) := (stats.recordSrSent ntp).fractionLostAndUpdate
  let cumLost := stats.currentGenLost &&& 0x00FFFFFF
  let rate := if 0 < clockRate then clockRate else 8000
  let jitterTs := UInt32.ofNat (stats.jitter.toNat * rate.toNat / 1000000)
  let (lastSr, dlsr) :=
    if stats.lastSrSsrc = some remoteSsrc then
      (stats.lastSrNtp, (stats.lastSrReceived.map (delaySince now)).getD 0)
    else (0, 0)
  (stats, [0x81, rtcpSr] ++ beBytes 2 12 ++ beBytes 4 ourSsrc.toNat ++ beBytes 8 ntp.toNat ++
      beBytes 4 rtpTimestamp.toNat ++ beBytes 4 stats.packetsSent.toNat ++
      beBytes 4 stats.octetsSent.toNat ++ beBytes 4 remoteSsrc.toNat ++ [fractionLost] ++
      beBytes 3 cumLost.toNat ++ beBytes 4 stats.extendedMaxSeq.toNat ++
      beBytes 4 jitterTs.toNat ++ beBytes 4 lastSr.toNat ++ beBytes 4 dlsr.toNat)

end RtpBridge.Rtcp
