/-
The SDP of `media/sdp.rs`: the parser of offers and answers, the checks of a plain
RTP description, and the generator of our own descriptions.

The parser reads the text twice.  The first pass collects the media sections and
picks the audio section the endpoint answers, the second reads that section.
-/
import RtpBridge.Base.IpAddr
import RtpBridge.Media.Srtp.Context

namespace RtpBridge.Sdp

open Srtp Text List Option

variable {P : Primitives}

structure SdpCodec where
  pt : UInt8
  name : Text
  clockRate : UInt32
  channels : Option UInt8
  maxptime : Option UInt32
  fmtp : Option Text
deriving DecidableEq

variable {c : SdpCodec} {codecs : List SdpCodec}

def codecPcmu : SdpCodec :=
  { pt := 0, name := "PCMU".toList, clockRate := 8000, channels := none, maxptime := none,
    fmtp := none }

def codecG722 : SdpCodec :=
  { pt := 9, name := "G722".toList, clockRate := 8000, channels := none, maxptime := none,
    fmtp := none }

def codecOpus : SdpCodec :=
  { pt := 111, name := "opus".toList, clockRate := 48000, channels := some 2, maxptime := none,
    fmtp := some "minptime=10;useinbandfec=1;stereo=0;sprop-stereo=0".toList }

def telephoneEventName : Text := "telephone-event".toList

def codecTelephoneEvent : SdpCodec :=
  { pt := 101, name := telephoneEventName, clockRate := 8000, channels := none, maxptime := none,
    fmtp := some "0-16".toList }

def SdpCodec.isTelephoneEvent (c : SdpCodec) : Bool := c.name == telephoneEventName

def codecQuality (c : SdpCodec) : Nat :=
  let name := toAsciiLowercase c.name
  if name == "opus".toList then 3
  else if name == "g722".toList || name == "g.722".toList then 2
  else if name == "pcmu".toList || name == "g711".toList || name == "g.711".toList then 1
  else 0

def selectAnswerCodec (codecs : List SdpCodec) : Option SdpCodec :=
  match codecs.filter fun c => !c.isTelephoneEvent with
  | [] => none
  | first :: rest =>
    some (rest.foldl (fun best c => if codecQuality best < codecQuality c then c else best) first)

def selectTelephoneEventCodec (codecs : List SdpCodec) (mediaClockRate : UInt32) :
    Option SdpCodec :=
  match codecs.find? SdpCodec.isTelephoneEvent with
  | none => none
  | some first =>
    (codecs.find? fun c => c.isTelephoneEvent && c.clockRate == mediaClockRate).or (some first)

def offerCodecList (prefer : Option (List Text)) : List SdpCodec :=
  let known := [codecOpus, codecG722, codecPcmu]
  let codecs :=
    match prefer with
    | none => known
    | some names =>
      names.foldl (fun ordered name =>
        match known.find? fun c => eqIgnoreAsciiCase name c.name with
        | some c => if ordered.any (·.pt == c.pt) then ordered else ordered ++ [c]
        | none => ordered) []
  codecs ++ [codecTelephoneEvent]

/-! ## Opus parameters -/

structure OpusProfile where
  bitrate : UInt32 := 510000
  playbackRate : UInt32 := 48000
  stereo : Bool := false
  minPacketMs : UInt32 := 3
  maxPacketMs : UInt32 := 120
deriving DecidableEq

namespace OpusProfile

def clamp (low high value : UInt32) : UInt32 := min (max value low) high

def parseItem (profile : OpusProfile) (item : Text) : OpusProfile :=
  match splitOnce (trim item) '=' with
  | none => profile
  | some (key, value) =>
    let key := toAsciiLowercase (trim key)
    let number := parseU32 (trim value)
    if key == "maxaveragebitrate".toList then
      match number with
      | some value => { profile with bitrate := clamp 6000 510000 value }
      | none => profile
    else if key == "maxplaybackrate".toList then
      match number with
      | some value => { profile with playbackRate := clamp 8000 48000 value }
      | none => profile
    else if key == "minptime".toList then
      match number with
      | some value => { profile with minPacketMs := value }
      | none => profile
    else if key == "stereo".toList then { profile with stereo := trim value == ['1'] }
    else profile

def parse (fmtp : Option Text) : OpusProfile :=
  ((fmtp.getD []).splitOn ';').foldl parseItem {}

def advertisedDefault : OpusProfile := { minPacketMs := 10, maxPacketMs := 20 }

def fromCodec (codec : SdpCodec) : OpusProfile :=
  { parse codec.fmtp with maxPacketMs := codec.maxptime.getD 120 }

def fmtp (profile : OpusProfile) : Text :=
  "minptime=".toList ++ ofNat profile.minPacketMs.toNat ++ ";useinbandfec=1;stereo=".toList ++
    (if profile.stereo then ['1'] else ['0']) ++ ";sprop-stereo=0;maxaveragebitrate=".toList ++
    ofNat profile.bitrate.toNat ++ ";maxplaybackrate=".toList ++ ofNat profile.playbackRate.toNat

def encodable (profile : OpusProfile) : Bool :=
  profile.minPacketMs ≤ 20 && 20 ≤ profile.maxPacketMs

end OpusProfile

/-! ## SDES keys -/

structure SdpCrypto where
  tag : UInt32
  suite : Text
  keyB64 : Text
  keyLifetimePackets : Option Nat
deriving DecidableEq

def supportedSuite : Text := "AES_CM_128_HMAC_SHA1_80".toList

def parseCanonicalDecimal (limit : Nat) (value : Text) : Option Nat :=
  if value.isEmpty || !allDigits value || (1 < value.length && startsWith value ['0']) then none
  else parseUnsigned limit value

def parseSdesLifetime (value : Text) : Option Nat := do
  let lifetime ←
    match stripPrefix value ['2', '^'] with
    | some exponent => do
        let exponent ← parseCanonicalDecimal (2 ^ 32) exponent
        if exponent < 64 then some (2 ^ exponent) else none
    | none => parseCanonicalDecimal (2 ^ 64) value
  if 1 ≤ lifetime ∧ lifetime ≤ maxSrtpPacketsPerMasterKey then some lifetime else none

def parseSdesInlineKey (value : Text) : Option (Text × Option Nat) := do
  let value ← stripPrefix value "inline:".toList
  match value.splitOn '|' with
  | [keyB64] => some (keyB64, none)
  | [keyB64, lifetime] => (parseSdesLifetime lifetime).map fun packets => (keyB64, some packets)
  | _ => none

def parseSdesCrypto (value : Text) : Option SdpCrypto :=
  match splitWhitespace value with
  | [tag, suite, inlineKey] =>
    if suite ≠ supportedSuite then none
    else do
      let tag ← parseU32 tag
      if tag = 0 then none
      else
        let (keyB64, keyLifetimePackets) ← parseSdesInlineKey inlineKey
        some { tag := tag, suite := suite, keyB64 := keyB64,
               keyLifetimePackets := keyLifetimePackets }
  | _ => none

def remoteSrtpPacketLifetime (crypto : SdpCrypto) : Nat :=
  crypto.keyLifetimePackets.getD maxSrtpPacketsPerMasterKey

def supportedSdesKey (P : Primitives) (crypto : SdpCrypto) : Bool :=
  (SrtpContext.fromSdesKeyWithLifetime P crypto.keyB64 (remoteSrtpPacketLifetime crypto)).isOk

/-! ## Media sections -/

structure SdpMediaSection where
  media : Text
  protocol : Text
  formats : List Text
  active : Bool
  cryptoPresent : Bool := false
  cryptoSupported : Bool := false
deriving DecidableEq

def audio : Text := "audio".toList

/-- `RTP/AVP` and `RTP/AVPF`. -/
def plainProfile (protocol : Text) : Bool :=
  protocol == "RTP/AVP".toList || protocol == "RTP/AVPF".toList

/-- `RTP/SAVP` and `RTP/SAVPF`. -/
def secureProfile (protocol : Text) : Bool :=
  protocol == "RTP/SAVP".toList || protocol == "RTP/SAVPF".toList

def audioSectionPreference (s : SdpMediaSection) : Option Nat :=
  if s.media ≠ audio ∨ s.active = false then none
  else if secureProfile s.protocol && s.cryptoSupported then some 4
  else if plainProfile s.protocol && s.cryptoSupported then some 3
  else if secureProfile s.protocol then some 2
  else if plainProfile s.protocol && s.cryptoPresent then some 2
  else if plainProfile s.protocol then some 1
  else some 0

def activePort (port : Text) : Option UInt16 := (parseU16 port).filter (0 < ·)

def openSection (rest : Text) : SdpMediaSection :=
  let parts := splitWhitespace rest
  { media := parts.headD [], protocol := parts.getD 2 [], formats := parts.drop 3,
    active := ((parts[1]?).bind activePort).isSome }

def noteCrypto (P : Primitives) (value : Text) (s : SdpMediaSection) : SdpMediaSection :=
  { s with
      cryptoPresent := true,
      cryptoSupported :=
        match parseSdesCrypto value with
        | some crypto => supportedSdesKey P crypto
        | none => s.cryptoSupported }

def scanLine (P : Primitives) (sections : List SdpMediaSection) (line : Text) :
    List SdpMediaSection :=
  match stripPrefix line "m=".toList with
  | some rest => sections ++ [openSection rest]
  | none =>
    match stripPrefix line "a=crypto:".toList with
    | some value => sections.modifyLast (noteCrypto P value)
    | none => sections

structure SectionChoice where
  audioSections : Nat := 0
  selected : Option Nat := none
  bestPreference : Option Nat := none
deriving DecidableEq

def chooseSection (choice : SectionChoice) (entry : SdpMediaSection × Nat) : SectionChoice :=
  match audioSectionPreference entry.1 with
  | none => choice
  | some preference =>
    if choice.bestPreference.all (· < preference) then
      { audioSections := choice.audioSections + 1, selected := some entry.2,
        bestPreference := some preference }
    else { choice with audioSections := choice.audioSections + 1 }

/-! ## The second pass -/

abbrev RtpMap := Text × UInt32 × Option UInt8

inductive SdpDirection where
  | sendrecv
  | recvonly
  | sendonly
  | inactive
deriving DecidableEq

structure ParseState where
  sessionCAddr : Option IpAddr := none
  audioCAddr : Option IpAddr := none
  mPort : Option UInt16 := none
  rtcpPort : Option UInt16 := none
  rtcpIp : Option IpAddr := none
  pts : List UInt8 := []
  maxptime : Option UInt32 := none
  fmtp : HashMap UInt8 Text := ∅
  rtpmap : HashMap UInt8 RtpMap := ∅
  /-- Nothing at the session level, then whether this is the selected section. -/
  mediaSection : Option Bool := none
  currentSection : Option Nat := none
  invalidRtcp : Bool := false
  crypto : Option SdpCrypto := none
  cryptoPresent : Bool := false
  isWebrtc : Bool := false
  direction : Option SdpDirection := none
  rtcpMux : Bool := false
  mediaProtocol : Option Text := none

def maxSdpCodecs : Nat := 32

/-- `c=IN IP4` and `c=IN IP6`. -/
def parseConnection (st : ParseState) (rest : Text) : ParseState :=
  let addr := (splitWhitespace rest).head?.bind IpAddr.parse
  match st.mediaSection with
  | none => { st with sessionCAddr := addr }
  | some true => { st with audioCAddr := addr }
  | some false => st

def parseAudioLine (selected : Option Nat) (st : ParseState) (rest : Text) : ParseState :=
  let parts := splitWhitespace rest
  match parts.head?.bind activePort with
  | none => { st with mediaSection := some false }
  | some port =>
    if st.currentSection ≠ selected then { st with mediaSection := some false }
    else
      { st with
          mediaSection := some true,
          mPort := some port,
          mediaProtocol := (parts[1]?).or st.mediaProtocol,
          pts := (st.pts ++ (parts.drop 2).filterMap parseU8).take maxSdpCodecs }

def parseFmtp (st : ParseState) (rest : Text) : ParseState :=
  match splitOnce rest ' ' with
  | none => st
  | some (pt, value) =>
    match parseU8 pt with
    | some pt =>
      if HashMap.size st.fmtp < 32 then { st with fmtp := st.fmtp.insert pt (trim value) }
      else st
    | none => st

def parseRtpmap (st : ParseState) (rest : Text) : ParseState :=
  match splitOnce rest ' ' with
  | none => st
  | some (pt, codec) =>
    match parseU8 pt with
    | some pt =>
      let parts := codec.splitOn '/'
      let clockRate := ((parts[1]?).bind parseU32).getD 0
      let channels := (parts[2]?).bind parseU8
      if HashMap.size st.rtpmap < 32 then
        { st with rtpmap := st.rtpmap.insert pt (parts.headD [], clockRate, channels) }
      else st
    | none => st

def validRtcpAddress (parts : List Text) (ip : Option IpAddr) : Bool :=
  parts[1]? == some "IN".toList &&
    match ip with
    | some (.v4 _) => parts[2]? == some "IP4".toList
    | some (.v6 _) => parts[2]? == some "IP6".toList
    | none => false

def parseRtcpAttribute (st : ParseState) (rest : Text) : ParseState :=
  let parts := splitWhitespace rest
  let port := parts.head?.bind activePort
  let ip := (parts[3]?).bind IpAddr.parse
  let valid := parts.length == 1 || (parts.length == 4 && validRtcpAddress parts ip)
  { st with rtcpPort := port, rtcpIp := ip, invalidRtcp := st.invalidRtcp || port.isNone || !valid }

def webrtcLine (line : Text) : Bool :=
  startsWith line "a=fingerprint:".toList || startsWith line "a=ice-ufrag:".toList

def directionOfLine (line : Text) : Option SdpDirection :=
  if line == "a=sendrecv".toList then some .sendrecv
  else if line == "a=recvonly".toList then some .recvonly
  else if line == "a=sendonly".toList then some .sendonly
  else if line == "a=inactive".toList then some .inactive
  else none

def parseAttribute (st : ParseState) (line : Text) : ParseState :=
  match stripPrefix line "a=maxptime:".toList with
  | some rest => { st with maxptime := parseU32 rest }
  | none =>
  match stripPrefix line "a=fmtp:".toList with
  | some rest => parseFmtp st rest
  | none =>
  match stripPrefix line "a=rtpmap:".toList with
  | some rest => parseRtpmap st rest
  | none =>
  match stripPrefix line "a=crypto:".toList with
  | some rest => { st with cryptoPresent := true, crypto := (parseSdesCrypto rest).or st.crypto }
  | none =>
  if webrtcLine line then { st with isWebrtc := true }
  else
  match directionOfLine line with
  | some direction => { st with direction := some direction }
  | none =>
  match stripPrefix line "a=rtcp:".toList with
  | some rest => parseRtcpAttribute st rest
  | none =>
  if line == "a=rtcp-mux".toList then { st with rtcpMux := true } else st

def parseLine (selected : Option Nat) (st : ParseState) (line : Text) : ParseState :=
  let opens := startsWith line "m=".toList
  let st :=
    if opens then { st with currentSection := some (st.currentSection.elim 0 (· + 1)) } else st
  match (stripPrefix line "c=IN IP4 ".toList).or (stripPrefix line "c=IN IP6 ".toList) with
  | some rest => parseConnection st rest
  | none =>
  match stripPrefix line "m=audio ".toList with
  | some rest => parseAudioLine selected st rest
  | none =>
  if opens then { st with mediaSection := some false }
  else if st.mediaSection = some false then
    if webrtcLine line then { st with isWebrtc := true } else st
  else parseAttribute st line

/-! ## Codecs -/

def RtpMap.isCodec (entry : RtpMap) (name : Text) (clockRate : UInt32) (channels : UInt8) : Bool :=
  eqIgnoreAsciiCase entry.1 name && entry.2.1 == clockRate && entry.2.2.all (· == channels)

/-- The codec of a payload type; only dynamic ones need an rtpmap line.  An Opus
mapping we cannot encode for is reported by its profile alone. -/
def mapCodec (st : ParseState) (pt : UInt8) : Option SdpCodec × Option OpusProfile :=
  let entry := st.rtpmap.lookup pt
  if pt = 0 ∧ entry.all (·.isCodec codecPcmu.name 8000 1) then (some codecPcmu, none)
  else if pt = 9 ∧ entry.all (·.isCodec codecG722.name 8000 1) then (some codecG722, none)
  else if pt < 96 then (none, none)
  else
    match entry with
    | none => (none, none)
    | some entry =>
      if eqIgnoreAsciiCase entry.1 telephoneEventName then
        let clockRate := if 0 < entry.2.1 then entry.2.1 else codecTelephoneEvent.clockRate
        (some { codecTelephoneEvent with pt := pt, clockRate := clockRate }, none)
      else if entry.isCodec codecOpus.name 48000 2 then
        let opus :=
          { codecOpus with pt := pt, maxptime := st.maxptime, fmtp := st.fmtp.lookup pt }
        let profile := OpusProfile.fromCodec opus
        (if profile.encodable then some opus else none, some profile)
      else if entry.isCodec codecPcmu.name 8000 1 then (some { codecPcmu with pt := pt }, none)
      else if entry.isCodec codecG722.name 8000 1 then (some { codecG722 with pt := pt }, none)
      else (none, none)

structure ParsedSdp where
  remoteAddr : Option SocketAddr
  remoteRtcpAddr : Option SocketAddr
  invalidRtcp : Bool
  codecs : List SdpCodec
  opusProfile : Option OpusProfile
  telephoneEventPt : Option UInt8
  telephoneEventClockRate : Option UInt32
  crypto : Option SdpCrypto
  cryptoPresent : Bool
  audioSections : Nat
  mediaSections : List SdpMediaSection
  selectedAudioSection : Option Nat
  isWebrtc : Bool
  direction : Option SdpDirection
  rtcpMux : Bool
  mediaProtocol : Option Text
  isOsrtp : Bool
deriving DecidableEq

variable {sdp : ParsedSdp}

def finishSdp (sections : List SdpMediaSection) (choice : SectionChoice) (st : ParseState) :
    ParsedSdp :=
  let cAddr := st.audioCAddr.or st.sessionCAddr
  let mapped := st.pts.map (mapCodec st)
  let codecs := mapped.filterMap Prod.fst
  let mediaClock := ((selectAnswerCodec codecs).map SdpCodec.clockRate).getD 8000
  let telephone := selectTelephoneEventCodec codecs mediaClock
  { remoteAddr := do return SocketAddr.new (← cAddr) (← st.mPort),
    remoteRtcpAddr := do return SocketAddr.new (← st.rtcpIp.or cAddr) (← st.rtcpPort),
    invalidRtcp := st.invalidRtcp,
    codecs := codecs,
    opusProfile := (mapped.filterMap Prod.snd).getLast?,
    telephoneEventPt := telephone.map SdpCodec.pt,
    telephoneEventClockRate := telephone.map SdpCodec.clockRate,
    crypto := st.crypto,
    cryptoPresent := st.cryptoPresent,
    audioSections := choice.audioSections,
    mediaSections := sections,
    selectedAudioSection := choice.selected,
    isWebrtc := st.isWebrtc,
    direction := st.direction,
    rtcpMux := st.rtcpMux,
    mediaProtocol := st.mediaProtocol,
    isOsrtp := st.crypto.isSome && !st.isWebrtc && st.mediaProtocol == some "RTP/AVP".toList }

def parseSdp (P : Primitives) (sdp : Text) : ParsedSdp :=
  let rows := (lines sdp).map trim
  let sections := rows.foldl (scanLine P) []
  let choice := sections.zipIdx.foldl chooseSection {}
  finishSdp sections choice (rows.foldl (parseLine choice.selected) {})

namespace ParsedSdp

def validateSelectedPlainMedia (P : Primitives) (sdp : ParsedSdp) : Except String Unit :=
  let incomplete := fun s : SdpMediaSection =>
    s.media.isEmpty || s.protocol.isEmpty || s.formats.isEmpty
  let knownProfile := fun protocol => plainProfile protocol || secureProfile protocol
  let otherFamily := fun rtp => sdp.remoteRtcpAddr.any fun rtcp => rtp.isIpv6 != rtcp.isIpv6
  if sdp.selectedAudioSection.isNone || sdp.mediaSections.any incomplete then
    .error "invalid SDP media section"
  else if !sdp.mediaProtocol.any knownProfile then
    .error "unsupported plain RTP transport profile"
  else if (sdp.mediaProtocol.any secureProfile || sdp.cryptoPresent) && sdp.crypto.isNone then
    .error "SDP media security requires a supported valid SDES crypto attribute"
  else if !sdp.crypto.all (supportedSdesKey P) then
    .error "SDP media security has invalid key material"
  else if sdp.invalidRtcp then .error "invalid SDP RTCP destination"
  else if sdp.remoteAddr.isNone then .error "SDP has no connection address"
  else if sdp.remoteAddr.any otherFamily then .error "RTCP address family must match RTP"
  else .ok ()

def validatePlainTransport (P : Primitives) (sdp : ParsedSdp) : Except String Unit :=
  if sdp.audioSections ≠ 1 then .error "SDP must contain exactly one active audio section"
  else sdp.validateSelectedPlainMedia P

def validatePlainOffer (P : Primitives) (sdp : ParsedSdp) : Except String Unit :=
  if sdp.audioSections = 0 then .error "SDP must contain an active audio section"
  else sdp.validateSelectedPlainMedia P

end ParsedSdp

/-! ## Our own descriptions -/

def crlf : Text := ['\r', '\n']

def rtpmapLines (codec : SdpCodec) : Text :=
  let pt := ofNat codec.pt.toNat
  let channels := codec.channels.elim [] fun ch => '/' :: ofNat ch.toNat
  "a=rtpmap:".toList ++ pt ++ [' '] ++ codec.name ++ ['/'] ++ ofNat codec.clockRate.toNat ++
    channels ++ crlf ++
    codec.fmtp.elim [] fun fmtp => "a=fmtp:".toList ++ pt ++ [' '] ++ fmtp ++ crlf

def cryptoLine (c : SdpCrypto) : Text :=
  let lifetime := c.keyLifetimePackets.elim [] fun packets => '|' :: ofNat packets
  "a=crypto:".toList ++ ofNat c.tag.toNat ++ [' '] ++ c.suite ++ " inline:".toList ++ c.keyB64 ++
    lifetime ++ crlf

def rejectedSection (s : SdpMediaSection) : Text :=
  "m=".toList ++ s.media ++ " 0 ".toList ++ s.protocol ++ [' '] ++ join s.formats ' ' ++ crlf

def generateSdp (localAddr : SocketAddr) (rtpPort : UInt16) (codecs : List SdpCodec)
    (crypto : Option SdpCrypto) (sessionId : Nat) (useRtpAvpProfile : Bool)
    (answerSections : Option (List SdpMediaSection × Nat)) : Text :=
  let ip := localAddr.ip.toText
  let ipVer := if localAddr.isIpv6 then "IP6".toList else "IP4".toList
  let proto :=
    match answerSections with
    | some (sections, selected) => ((sections[selected]?).map SdpMediaSection.protocol).getD []
    | none => if crypto.isSome && !useRtpAvpProfile then "RTP/SAVP".toList else "RTP/AVP".toList
  let allCodecs :=
    if codecs.any SdpCodec.isTelephoneEvent then codecs else codecs ++ [codecTelephoneEvent]
  let ptList := join (allCodecs.map fun c => ofNat c.pt.toNat) ' '
  let mediaSdp :=
    "m=audio ".toList ++ ofNat rtpPort.toNat ++ [' '] ++ proto ++ [' '] ++ ptList ++ crlf ++
      allCodecs.flatMap rtpmapLines ++ crypto.elim [] cryptoLine ++
      "a=sendrecv".toList ++ crlf ++ "a=rtcp-mux".toList ++ crlf ++
      "a=ptime:20".toList ++ crlf ++ "a=maxptime:20".toList ++ crlf
  let session :=
    "v=0".toList ++ crlf ++
      "o=rtpbridge ".toList ++ ofNat sessionId ++ " 1 IN ".toList ++ ipVer ++ [' '] ++ ip ++ crlf ++
      "s=rtpbridge".toList ++ crlf ++
      "c=IN ".toList ++ ipVer ++ [' '] ++ ip ++ crlf ++
      "t=0 0".toList ++ crlf
  session ++ match answerSections with
    | none => mediaSdp
    | some (sections, selected) =>
      sections.zipIdx.flatMap fun (s, index) =>
        if index = selected then mediaSdp else rejectedSection s

def generateSdpOffer (localAddr : SocketAddr) (rtpPort : UInt16) (codecs : List SdpCodec)
    (crypto : Option SdpCrypto) (sessionId : Nat) : Text :=
  generateSdp localAddr rtpPort codecs crypto sessionId false none

def generateOsrtpSdpOffer (localAddr : SocketAddr) (rtpPort : UInt16) (codecs : List SdpCodec)
    (crypto : SdpCrypto) (sessionId : Nat) : Text :=
  generateSdp localAddr rtpPort codecs (some crypto) sessionId true none

def generateSdpAnswerForOffer (localAddr : SocketAddr) (rtpPort : UInt16) (codecs : List SdpCodec)
    (crypto : Option SdpCrypto) (sessionId : Nat) (offer : ParsedSdp) : Except String Text :=
  match offer.selectedAudioSection with
  | none => .error "SDP has no selected audio section"
  | some selected =>
    if ((offer.mediaSections[selected]?).map SdpMediaSection.media) ≠ some audio then
      .error "SDP selected media section is not audio"
    else
      .ok (generateSdp localAddr rtpPort codecs crypto sessionId false
        (some (offer.mediaSections, selected)))

/-! ## What the checks say -/

theorem supportedSdesKey_eq_true {crypto : SdpCrypto} : supportedSdesKey P crypto = true ↔
      ∃ ctx, SrtpContext.fromSdesKeyWithLifetime P crypto.keyB64
        (remoteSrtpPacketLifetime crypto) = .ok ctx := by
  unfold supportedSdesKey
  cases SrtpContext.fromSdesKeyWithLifetime P crypto.keyB64 (remoteSrtpPacketLifetime crypto) with
  | error e => simp [Except.toBool]
  | ok ctx => simp [Except.toBool]

namespace ParsedSdp

structure Usable (P : Primitives) (sdp : ParsedSdp) : Prop where
  selected : sdp.selectedAudioSection.isSome
  addr : sdp.remoteAddr.isSome
  key : ∀ crypto, sdp.crypto = some crypto → supportedSdesKey P crypto = true

theorem usable_of_validateSelectedPlainMedia (h : sdp.validateSelectedPlainMedia P = .ok ()) :
    sdp.Usable P := by
  unfold validateSelectedPlainMedia at h
  dsimp only at h
  split at h
  · cases h
  rename_i hs
  split at h
  · cases h
  split at h
  · cases h
  split at h
  · cases h
  rename_i hk
  split at h
  · cases h
  split at h
  · cases h
  rename_i ha
  refine ⟨?_, ?_, ?_⟩
  · rw [Bool.or_eq_true, not_or] at hs
    simpa [isSome_iff_ne_none] using hs.1
  · simpa [isSome_iff_ne_none] using ha
  · intro crypto hc
    simpa [hc] using hk

theorem usable_of_validatePlainTransport (h : sdp.validatePlainTransport P = .ok ()) :
    sdp.Usable P := by
  grind [validatePlainTransport, usable_of_validateSelectedPlainMedia]

theorem usable_of_validatePlainOffer (h : sdp.validatePlainOffer P = .ok ()) : sdp.Usable P := by
  grind [validatePlainOffer, usable_of_validateSelectedPlainMedia]

end ParsedSdp

/-! ## What the codec lists say -/

theorem mapCodec_pt {st : ParseState} {pt : UInt8} (h : (mapCodec st pt).1 = some c) :
    c.pt = pt := by
  unfold mapCodec at h
  dsimp only at h
  split at h
  · rename_i hpt
    cases h
    exact hpt.1.symm
  split at h
  · rename_i hpt
    cases h
    exact hpt.1.symm
  split at h
  · cases h
  split at h
  · cases h
  split at h
  · cases h
    rfl
  grind

theorem parseSdp_codec_unique {sdp : Text} {d : SdpCodec} (hc : c ∈ (parseSdp P sdp).codecs)
    (hd : d ∈ (parseSdp P sdp).codecs) (hpt : c.pt = d.pt) : c = d := by
  obtain ⟨x, hx, hxc⟩ := mem_filterMap.mp hc
  obtain ⟨y, hy, hyd⟩ := mem_filterMap.mp hd
  obtain ⟨p, -, rfl⟩ := mem_map.mp hx
  obtain ⟨q, -, rfl⟩ := mem_map.mp hy
  have hpq : p = q := by rw [← mapCodec_pt hxc, ← mapCodec_pt hyd, hpt]
  rw [hpq, hyd] at hxc
  exact (Option.some.inj hxc).symm

theorem mem_of_foldl_better (codecs : List SdpCodec) : ∀ first : SdpCodec,
      codecs.foldl (fun best c => if codecQuality best < codecQuality c then c else best) first ∈
        first :: codecs := by
  induction codecs with
  | nil => exact mem_singleton_self
  | cons c rest ih => grind

theorem selectAnswerCodec_some (h : selectAnswerCodec codecs = some c) :
    c ∈ codecs ∧ c.isTelephoneEvent = false := by
  grind [selectAnswerCodec, mem_of_foldl_better]

theorem selectTelephoneEventCodec_some {clockRate : UInt32}
    (h : selectTelephoneEventCodec codecs clockRate = some c) :
    c ∈ codecs ∧ c.isTelephoneEvent = true := by
  unfold selectTelephoneEventCodec at h
  split at h
  · cases h
  rename_i first hf
  rcases or_eq_some_iff.mp h with hc | ⟨-, hs⟩
  · grind
  · cases hs
    exact ⟨mem_of_find?_eq_some hf, List.find?_some hf⟩

theorem selectTelephoneEventCodec_none {clockRate : UInt32}
    (h : selectTelephoneEventCodec codecs clockRate = none) :
    ∀ c ∈ codecs, c.isTelephoneEvent = false := by
  grind [selectTelephoneEventCodec]

theorem mem_offerCodecList {prefer : Option (List Text)} (h : c ∈ offerCodecList prefer) :
    c ∈ [codecOpus, codecG722, codecPcmu] ∨ c = codecTelephoneEvent := by
  rcases mem_append.mp h with h | h
  · left
    cases prefer with
    | none => exact h
    | some names =>
      dsimp only at h
      -- every codec the fold keeps was found among the known ones
      refine List.foldlRecOn (motive := fun ordered => c ∈ ordered →
        c ∈ [codecOpus, codecG722, codecPcmu]) names _ (by simp) ?_ h
      intro ordered ih name hn hc
      split at hc
      · grind
      · exact ih hc
  · exact Or.inr (mem_singleton.mp h)

theorem media_of_audioSectionPreference {s : SdpMediaSection} {preference : Nat}
    (h : audioSectionPreference s = some preference) : s.media = audio := by
  grind [audioSectionPreference]

theorem chooseSection_selected {Q : Nat → Prop} (entries : List (SdpMediaSection × Nat))
    (he : ∀ entry ∈ entries, entry.1.media = audio → Q entry.2) {choice : SectionChoice}
    (hc : ∀ i, choice.selected = some i → Q i) :
    ∀ i, (entries.foldl chooseSection choice).selected = some i → Q i := by
  induction entries generalizing choice with
  | nil => exact hc
  | cons entry rest ih =>
    grind [chooseSection, media_of_audioSectionPreference]

theorem parseSdp_selected_audio (P : Primitives) (sdp : Text) {i : Nat}
    (h : (parseSdp P sdp).selectedAudioSection = some i) :
    ((parseSdp P sdp).mediaSections[i]?).map SdpMediaSection.media = some audio := by
  refine chooseSection_selected (Q := fun i =>
    ((parseSdp P sdp).mediaSections[i]?).map SdpMediaSection.media = some audio) _ ?_ ?_ i h
  · rintro ⟨s, j⟩ hme hm
    have hg := mem_zipIdx_iff_getElem?.mp hme
    have hs : (parseSdp P sdp).mediaSections[j]? = some s := hg
    rw [hs]
    exact congrArg some hm
  · intro i hi
    cases hi

theorem generateSdpAnswerForOffer_ok {sdp : Text} (h : (parseSdp P sdp).selectedAudioSection.isSome)
    (localAddr : SocketAddr) (port : UInt16) (codecs : List SdpCodec) (crypto : Option SdpCrypto)
    (sessionId : Nat) :
    ∃ answer, generateSdpAnswerForOffer localAddr port codecs crypto sessionId
      (parseSdp P sdp) = .ok answer := by
  obtain ⟨i, hi⟩ := isSome_iff_exists.mp h
  unfold generateSdpAnswerForOffer
  rw [hi]
  dsimp only
  rw [if_neg (not_not.mpr (parseSdp_selected_audio P sdp hi))]
  exact ⟨_, rfl⟩

end RtpBridge.Sdp
