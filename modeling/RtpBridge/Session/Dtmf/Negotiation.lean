/-
Which inbound packets a session takes for telephone events: `classify_dtmf` of
`session/session_dtmf.rs` against the descriptions its plain RTP endpoints were
created, offered and answered with.
-/
import RtpBridge.Media.Dtmf
import RtpBridge.Session.Rtp.Steps

namespace RtpBridge.Session

open Srtp Sdp Rtp Wire Machine Dtmf AList
open List hiding Vector

variable {ep : RtpEndpoint} {P : Primitives} {codecs : List SdpCodec} {media : RtpMedia}
  {pts : List UInt8} {id : EndpointId}

/-! ## The session -/

structure EndpointDtmf where
  detector : DtmfDetector := {}
  tePt : Option UInt8
deriving DecidableEq

abbrev DtmfState := HashMap EndpointId EndpointDtmf

def classifyDtmf (pkt : RoutedRtpPacket) (dtmfState : DtmfState) : Bool :=
  isTelephoneEventPt pkt.payloadType
    ((dtmfState.lookup pkt.sourceEndpointId).bind EndpointDtmf.tePt)

def shouldRecordInbound (pkt : RoutedRtpPacket) (dtmfState : DtmfState)
    (sensitiveDtmfEndpoints : List EndpointId) : Bool :=
  !sensitiveDtmfEndpoints.contains pkt.sourceEndpointId || !classifyDtmf pkt dtmfState

structure DtmfSession where
  endpoints : HashMap EndpointId RtpEndpoint := ∅
  dtmfState : DtmfState := ∅

variable {s : DtmfSession}

inductive SessionCall where
  | createFromOffer (setup : RtpSetup) (networks : List IpNet) (bindIp : IpAddr) (sdp : Text)
      (codec : Option Text)
  | createOffer (setup : RtpSetup) (networks : List IpNet) (bindIp : IpAddr)
      (codecs : Option (List Text)) (profile : Option OpusProfile)
      (mediaSecurity : RtpMediaSecurity)
  | endpoint (id : EndpointId) (ev : RtpEvent)

inductive SessionReply where
  | created (result : Except String Text)
  | outcome (out : RtpOutcome)
  | notFound

variable {tr : List (SessionCall × SessionReply)} {x : SessionCall × SessionReply}

def SessionReply.packet? : SessionReply → Option RoutedRtpPacket
  | .outcome out => out.packet?
  | _ => none

namespace DtmfSession

variable (P : Primitives)

def insert (s : DtmfSession) (ep : RtpEndpoint) : DtmfSession :=
  { endpoints := s.endpoints.insert ep.id ep,
    dtmfState := s.dtmfState.insert ep.id { tePt := ep.media.telephoneEventPt } }

def handleCreateFromOffer (s : DtmfSession) (setup : RtpSetup) (networks : List IpNet)
    (bindIp : IpAddr) (sdp : Text) (codec : Option Text) : DtmfSession × Except String Text :=
  match RtpEndpoint.fromOfferWithCodec P setup bindIp sdp codec with
  | .error e => (s, .error e)
  | .ok (ep, answer) => (s.insert (ep.withSourceNetworks networks), .ok answer)

def offerCodecs (codecs : Option (List Text)) (profile : Option OpusProfile) : List SdpCodec :=
  match profile with
  | none => offerCodecList codecs
  | some profile => (offerCodecList codecs).map fun codec =>
    if codec.name == codecOpus.name then { codec with fmtp := some profile.fmtp } else codec

def handleCreateOffer (s : DtmfSession) (setup : RtpSetup) (networks : List IpNet)
    (bindIp : IpAddr) (codecs : Option (List Text)) (profile : Option OpusProfile)
    (mediaSecurity : RtpMediaSecurity) : DtmfSession × Except String Text :=
  let offerCodecs := offerCodecs codecs profile
  if !offerCodecs.any fun c => !c.isTelephoneEvent then
    (s, .error "No supported audio codecs requested")
  else
    match RtpEndpoint.createOffer P setup bindIp offerCodecs mediaSecurity with
    | .error e => (s, .error e)
    | .ok (ep, offer) => (s.insert (ep.withSourceNetworks networks), .ok offer)

def refreshTePt (dtmfState : DtmfState) (id : EndpointId) (ep : RtpEndpoint) : DtmfState :=
  match dtmfState.lookup id with
  | none => dtmfState
  | some ds => dtmfState.insert id { ds with tePt := ep.media.telephoneEventPt }

def handleEndpoint (s : DtmfSession) (id : EndpointId) (ev : RtpEvent) :
    DtmfSession × SessionReply :=
  match s.endpoints.lookup id with
  | none => (s, .notFound)
  | some ep =>
    let (ep, out) := ep.step P ev
    ({ endpoints := s.endpoints.insert id ep, dtmfState :=
        match out with
        | .answered (.ok ()) => refreshTePt s.dtmfState id ep
        | _ => s.dtmfState },
      .outcome out)

def step (s : DtmfSession) : SessionCall → DtmfSession × SessionReply
  | .createFromOffer setup networks bindIp sdp codec =>
    let (s, result) := s.handleCreateFromOffer P setup networks bindIp sdp codec
    (s, .created result)
  | .createOffer setup networks bindIp codecs profile mediaSecurity =>
    let (s, result) :=
      s.handleCreateOffer P setup networks bindIp codecs profile mediaSecurity
    (s, .created result)
  | .endpoint id ev => s.handleEndpoint P id ev

end DtmfSession

/-! ## What was negotiated -/

def eventPts (codecs : List SdpCodec) : List UInt8 :=
  (codecs.filter SdpCodec.isTelephoneEvent).map SdpCodec.pt

/-- The telephone-event payload types of the description a call applied to an endpoint:
the ones our answer keeps, the ones of our offer, the ones of the peer's answer. -/
def describedEvents (P : Primitives) (id : EndpointId) :
    SessionCall × SessionReply → Option (List UInt8)
  | (.createFromOffer setup _ _ sdp codec, .created (.ok _)) =>
    if setup.id = id then
      (RtpMedia.ofOffer (parseSdp P sdp) codec).toOption.map fun media => eventPts media.codecs
    else none
  | (.createOffer setup _ _ codecs profile _, .created (.ok _)) =>
    if setup.id = id then some (eventPts (DtmfSession.offerCodecs codecs profile)) else none
  | (.endpoint id' ev, .outcome (.answered (.ok _))) =>
    match ev.call with
    | .acceptAnswer sdp _ => if id' = id then some (eventPts (parseSdp P sdp).codecs) else none
    | _ => none
  | _ => none

def negotiated (P : Primitives) (id : EndpointId) (tr : List (SessionCall × SessionReply)) :
    List UInt8 :=
  (tr.filterMap (describedEvents P id)).getLast?.getD []

theorem negotiated_append (P : Primitives) (id : EndpointId)
    (tr : List (SessionCall × SessionReply)) (x : SessionCall × SessionReply) :
    negotiated P id (tr ++ [x]) = (describedEvents P id x).getD (negotiated P id tr) := by
  simp [negotiated]

/-! ## What an endpoint listens to -/

namespace RtpEndpoint

theorem payloadType_of_decryptRtp {keys : RtpRxKeys} {data plain : Bytes} {wire header : RtpHeader}
    (h : (keys.decryptRtp P data).2 = some plain) (hw : RtpHeader.parse data = some wire)
    (hh : plainHeader plain = some header) : header.payloadType = wire.payloadType := by
  have hp : RtpHeader.parse plain = some header := by
    unfold plainHeader at hh
    split at hh
    · cases hh
    · grind
  rw [RtpHeader.parse_payloadType hp, RtpHeader.parse_payloadType hw]
  have hr := Switchover.receives (SrtpContext.unprotect P) keys.srtp data
  rw [show (Switchover.receive (SrtpContext.unprotect P) keys.srtp data).2 = some plain from h]
    at hr
  by_cases ha : keys.srtp.active = true
  · obtain ⟨ctx, -, ho⟩ := hr.accepted_by ha
    have ht := SrtpContext.take_of_unprotect P ho
    rw [byteAt_of_take_eq ht (by decide)]
  · rw [hr.plain_of_inactive ha]

theorem accepts_of_packet {ev : RtpEvent} {packet : RoutedRtpPacket}
    (ho : (ep.step P ev).2.packet? = some packet) :
    packet.sourceEndpointId = ep.id ∧
      ep.media.acceptsPayloadType packet.payloadType = true := by
  obtain ⟨data, source, receivedAt, hc⟩ := call_of_packet ho
  simp only [step, hc] at ho
  unfold handleRtpAt at ho
  dsimp only at ho
  split at ho
  · cases ho
  split at ho
  · cases ho
  rename_i wire hw
  split at ho
  · cases ho
  rename_i ha
  split at ho
  · cases ho
  rename_i rxKeys plain hd
  split at ho
  · cases ho
  rename_i header hh
  cases ho
  refine ⟨rfl, ?_⟩
  have hpt := payloadType_of_decryptRtp (congrArg Prod.snd hd) hw hh
  show ep.media.acceptsPayloadType header.payloadType = true
  rw [hpt]
  exact Bool.eq_true_of_not_eq_false ha

end RtpEndpoint

theorem mem_eventPts {pt : UInt8} :
    pt ∈ eventPts codecs ↔ ∃ c ∈ codecs, c.isTelephoneEvent = true ∧ c.pt = pt := by
  simp only [eventPts, mem_map, mem_filter, and_assoc]

theorem RtpMedia.acceptsPayloadType_iff {pt : UInt8} : media.acceptsPayloadType pt = true ↔
      (∃ c ∈ media.codecs, c.pt = pt) ∨ (∃ c, media.sendCodec = some c ∧ c.pt = pt) ∨
        media.telephoneEventPt = some pt := by
  cases hs : media.sendCodec with
  | none => simp [RtpMedia.acceptsPayloadType, hs]
  | some c => simp [RtpMedia.acceptsPayloadType, hs, or_assoc]

/-! ## Descriptions that say which packets are events -/

/-- Without telephone events no codec has one of the payload types they are taken for. -/
def NoDefaultAudio (codecs : List SdpCodec) : Prop :=
  (∃ c ∈ codecs, c.isTelephoneEvent = true) ∨ ∀ c ∈ codecs, isTelephoneEventPt c.pt none = false

def OneEventPt (codecs : List SdpCodec) : Prop :=
  ∀ c ∈ codecs, ∀ d ∈ codecs, c.isTelephoneEvent = true → d.isTelephoneEvent = true → c.pt = d.pt

def Unambiguous (P : Primitives) : SessionCall → Prop
  | .createFromOffer _ _ _ sdp _ => NoDefaultAudio (parseSdp P sdp).codecs
  | .createOffer _ _ _ _ _ _ => True
  | .endpoint _ ev =>
    match ev.call with
    | .acceptAnswer sdp _ =>
      NoDefaultAudio (parseSdp P sdp).codecs ∧ OneEventPt (parseSdp P sdp).codecs
    | _ => True

structure Agrees (media : RtpMedia) (pts : List UInt8) : Prop where
  event : ∀ p, media.telephoneEventPt = some p → ∀ q, q ∈ pts ↔ q = p
  silent : media.telephoneEventPt = none →
    pts = [] ∧ ∀ q, media.acceptsPayloadType q = true → isTelephoneEventPt q none = false
  audio : ∀ c, media.sendCodec = some c → c.pt ∉ pts

theorem Agrees.isTelephoneEventPt_iff (h : Agrees media pts) {q : UInt8}
    (hq : media.acceptsPayloadType q = true) :
    isTelephoneEventPt q media.telephoneEventPt = true ↔ q ∈ pts := by
  cases hpt : media.telephoneEventPt with
  | none =>
    obtain ⟨hn, hd⟩ := h.silent hpt
    rw [hd q hq, hn]
    simp
  | some p =>
    rw [h.event p hpt q]
    exact beq_iff_eq

theorem agrees_of_codecs
    (hk : ∀ c ∈ codecs, ∀ d ∈ codecs, c.pt = d.pt → c.isTelephoneEvent = d.isTelephoneEvent)
    (hf : ∀ c ∈ media.codecs, c ∈ codecs)
    (hse : ∀ c, media.sendCodec = some c → c ∈ codecs ∧ c.isTelephoneEvent = false)
    (hp : ∀ q ∈ pts, ∃ c ∈ codecs, c.isTelephoneEvent = true ∧ c.pt = q)
    (he : ∀ p, media.telephoneEventPt = some p → ∀ q, q ∈ pts ↔ q = p)
    (hs : media.telephoneEventPt = none → ∀ c ∈ codecs, c.isTelephoneEvent = false)
    (hcl : NoDefaultAudio codecs) : Agrees media pts := by
  refine ⟨he, fun hn => ?_, fun c hc hm => ?_⟩
  · refine ⟨eq_nil_iff_forall_not_mem.mpr fun q hq => ?_, fun q hq => ?_⟩
    · grind
    rw [RtpMedia.acceptsPayloadType_iff, hn] at hq
    have hco : ∃ c ∈ codecs, c.pt = q := by
      rcases hq with ⟨c, hc, hcq⟩ | ⟨c, hc, hcq⟩ | hq
      · exact ⟨c, hf c hc, hcq⟩
      · exact ⟨c, (hse c hc).1, hcq⟩
      · cases hq
    obtain ⟨c, hc, rfl⟩ := hco
    rcases hcl with ⟨d, hd, hte⟩ | hcl
    · rw [hs hn d hd] at hte
      cases hte
    · exact hcl c hc
  · grind

theorem parseSdp_kind (P : Primitives) (sdp : Text) :
    ∀ c ∈ (parseSdp P sdp).codecs, ∀ d ∈ (parseSdp P sdp).codecs, c.pt = d.pt →
      c.isTelephoneEvent = d.isTelephoneEvent := by
  intro c hc d hd hpt
  rw [parseSdp_codec_unique hc hd hpt]

theorem agrees_ofOffer {sdp : Text} {codec : Option Text}
    (h : RtpMedia.ofOffer (parseSdp P sdp) codec = .ok media)
    (hcl : NoDefaultAudio (parseSdp P sdp).codecs) : Agrees media (eventPts media.codecs) := by
  obtain ⟨telephone, hco, hpt, hs, he, hn⟩ := ofOffer_codecs h
  grind [agrees_of_codecs, parseSdp_kind, Option.map_eq_some_iff, mem_eventPts,
    Option.map_eq_none_iff]

theorem offerCodecs_kind {codecs : Option (List Text)} {profile : Option OpusProfile}
    {c : SdpCodec} (h : c ∈ DtmfSession.offerCodecs codecs profile) :
    c.isTelephoneEvent = decide (c.pt = 101) := by
  have hk : ∀ d ∈ offerCodecList codecs, d.isTelephoneEvent = decide (d.pt = 101) := by
    intro d hd
    rcases mem_offerCodecList hd with hd | rfl
    · simp only [mem_cons, not_mem_nil, or_false] at hd
      rcases hd with rfl | rfl | rfl <;> decide
    · decide
  cases profile with
  | none => exact hk c h
  | some profile =>
    obtain ⟨d, hd, rfl⟩ := mem_map.mp h
    split <;> exact hk d hd

section

variable (codecs : Option (List Text)) (profile : Option OpusProfile)

theorem exists_event_offerCodecs :
    ∃ c ∈ DtmfSession.offerCodecs codecs profile, c.isTelephoneEvent = true := by
  have hm : codecTelephoneEvent ∈ offerCodecList codecs :=
    mem_append_right _ (mem_singleton_self _)
  cases profile with
  | none => exact ⟨codecTelephoneEvent, hm, by decide⟩
  | some profile =>
    refine ⟨_, mem_map_of_mem hm, ?_⟩
    rw [if_neg (by decide)]
    decide

theorem agrees_forOffer : Agrees (RtpMedia.forOffer (DtmfSession.offerCodecs codecs profile))
      (eventPts (DtmfSession.offerCodecs codecs profile)) := by
  have he := exists_event_offerCodecs codecs profile
  refine agrees_of_codecs (fun c hc d hd hpt => ?_) (fun c hc => hc) (fun c hc => ?_)
    (fun q => mem_eventPts.mp) (fun p hp q => ?_) (fun hs => ?_) (Or.inl he)
  · rw [offerCodecs_kind hc, offerCodecs_kind hd, hpt]
  · have hm := mem_filter.mp (mem_of_mem_head? hc)
    exact ⟨hm.1, by simpa using hm.2⟩
  · obtain ⟨t, ht, rfl⟩ := Option.map_eq_some_iff.mp hp
    grind [mem_eventPts, offerCodecs_kind]
  · have hn := List.find?_eq_none.mp (Option.map_eq_none_iff.mp hs)
    exact fun c hc => by simpa using hn c hc

end

theorem answeredCodecs_of_validateAnswer {parsed : ParsedSdp} {valid : List SdpCodec}
    (h : media.validateAnswer parsed = .ok valid) : ∀ c ∈ valid, c ∈ parsed.codecs := by
  unfold RtpMedia.validateAnswer at h
  repeat' split at h
  all_goals cases h
  exact fun c hc => (mem_filter.mp hc).1

theorem agrees_setAnswer {sdp : Text} {valid : List SdpCodec}
    (hv : media.validateAnswer (parseSdp P sdp) = .ok valid)
    (hcl : NoDefaultAudio (parseSdp P sdp).codecs) (ho : OneEventPt (parseSdp P sdp).codecs) :
    Agrees (media.setAnswer (parseSdp P sdp) valid) (eventPts (parseSdp P sdp).codecs) := by
  have hsu := answeredCodecs_of_validateAnswer hv
  have htl : (media.setAnswer (parseSdp P sdp) valid).telephoneEventPt =
      (selectTelephoneEventCodec (parseSdp P sdp).codecs
        (((selectAnswerCodec (parseSdp P sdp).codecs).map SdpCodec.clockRate).getD 8000)).map
          SdpCodec.pt := rfl
  refine agrees_of_codecs (parseSdp_kind P sdp) hsu (fun c hc => ?_) (fun q => mem_eventPts.mp)
    (fun p hp q => ?_) (fun hs => ?_) hcl
  · have hts := List.find?_some hc
    exact ⟨hsu c (mem_of_find?_eq_some hc), by simpa using hts⟩
  · rw [htl, Option.map_eq_some_iff] at hp
    obtain ⟨t, ht, rfl⟩ := hp
    obtain ⟨htm, hte⟩ := selectTelephoneEventCodec_some ht
    rw [mem_eventPts]
    constructor
    · rintro ⟨c, hc, hct, rfl⟩
      exact ho c hc t htm hct hte
    · rintro rfl
      exact ⟨t, htm, hte, rfl⟩
  · rw [htl, Option.map_eq_none_iff] at hs
    exact selectTelephoneEventCodec_none hs

/-! ## Runs of a session -/

structure AgreedAt (P : Primitives) (tr : List (SessionCall × SessionReply)) (s : DtmfSession)
    (id : EndpointId) (ep : RtpEndpoint) : Prop where
  named : ep.id = id
  tracked : (s.dtmfState.lookup id).map EndpointDtmf.tePt = some ep.media.telephoneEventPt
  agrees : Agrees ep.media (negotiated P id tr)

def Agreed (P : Primitives) (tr : List (SessionCall × SessionReply)) (s : DtmfSession) : Prop :=
  ∀ id ep, s.endpoints.lookup id = some ep → AgreedAt P tr s id ep

theorem Agreed.insert (h : Agreed P tr s)
    (hp : ∀ id, describedEvents P id x = if ep.id = id then some pts else none)
    (ha : Agrees ep.media pts) : Agreed P (tr ++ [x]) (s.insert ep) := by
  intro id ep' hl
  unfold DtmfSession.insert at hl
  by_cases hid : id = ep.id
  · subst hid
    rw [lookup_insert] at hl
    cases hl
    refine ⟨rfl, ?_, ?_⟩
    · rw [DtmfSession.insert, lookup_insert]
      rfl
    · rw [negotiated_append, hp, if_pos rfl]
      exact ha
  rw [lookup_insert_ne hid] at hl
  obtain ⟨hn, ht, hold⟩ := h id ep' hl
  refine ⟨hn, ?_, ?_⟩
  · rw [DtmfSession.insert, lookup_insert_ne hid]
    exact ht
  · rw [negotiated_append, hp, if_neg (Ne.symm hid)]
    exact hold

theorem Agreed.of_silent (h : Agreed P tr s) (hx : ∀ id, describedEvents P id x = none) :
    Agreed P (tr ++ [x]) s := by
  intro id ep hl
  obtain ⟨hn, ht, ha⟩ := h id ep hl
  refine ⟨hn, ht, ?_⟩
  rw [negotiated_append, hx]
  exact ha

theorem Agreed.update (h : Agreed P tr s) {dtmfState : DtmfState}
    (hs : ∀ j ≠ id, dtmfState.lookup j = s.dtmfState.lookup j)
    (ho : ∀ j ≠ id, describedEvents P j x = none)
    (hep : AgreedAt P (tr ++ [x]) ⟨s.endpoints.insert id ep, dtmfState⟩ id ep) :
    Agreed P (tr ++ [x]) ⟨s.endpoints.insert id ep, dtmfState⟩ := by
  intro j ep' hl
  by_cases hj : j = id
  · grind [lookup_insert]
  rw [lookup_insert_ne hj] at hl
  obtain ⟨hn, ht, ha⟩ := h j ep' hl
  refine ⟨hn, ?_, ?_⟩
  · rw [hs j hj]
    exact ht
  · rw [negotiated_append, ho j hj]
    exact ha

theorem Agreed.step (h : Agreed P tr s) {call : SessionCall} (hcl : Unambiguous P call) :
    Agreed P (tr ++ [(call, (s.step P call).2)]) (s.step P call).1 := by
  cases call with
  | createFromOffer setup networks bindIp sdp codec =>
    unfold DtmfSession.step DtmfSession.handleCreateFromOffer
    dsimp only
    split
    · exact h.of_silent fun id => rfl
    rename_i ep answer hc
    obtain ⟨⟨hid, hm⟩, -⟩ := RtpEndpoint.fromOfferWithCodec_ok hc
    refine h.insert (fun id => ?_) (agrees_ofOffer hm hcl)
    simp only [describedEvents, hm, RtpEndpoint.withSourceNetworks, hid]
    rfl
  | createOffer setup networks bindIp codecs profile mediaSecurity =>
    unfold DtmfSession.step DtmfSession.handleCreateOffer
    dsimp only
    split
    · exact h.of_silent fun id => rfl
    split
    · exact h.of_silent fun id => rfl
    rename_i ep offer hc
    obtain ⟨⟨hid, hep⟩, -⟩ := RtpEndpoint.createOffer_ok hc
    refine h.insert (fun id => ?_) (hep ▸ agrees_forOffer codecs profile)
    simp only [describedEvents, RtpEndpoint.withSourceNetworks, hid]
  | endpoint id ev =>
    unfold DtmfSession.step DtmfSession.handleEndpoint
    dsimp only
    split
    · exact h.of_silent fun id => rfl
    rename_i ep hl
    obtain ⟨hn, ht, hag⟩ := h id ep hl
    have hm := ep.step_media P ev
    generalize ep.step P ev = result at hm
    obtain ⟨ep', out⟩ := result
    cases hm with
    | kept hk hou =>
      have hs : ∀ j, describedEvents P j (.endpoint id ev, .outcome out) = none := by
        unfold describedEvents
        all_goals simp_all
      dsimp only
      split
      · exact absurd rfl hou
      refine h.update (fun j _ => rfl) (fun j _ => hs j) ⟨hk.id.trans hn, ?_, ?_⟩
      · rw [hk.media]
        exact ht
      · rw [negotiated_append, hs, hk.media]
        exact hag
    | answered hca hv ha =>
      simp only [Unambiguous, hca] at hcl
      have hp : (s.dtmfState.lookup id).isSome := by
        rw [← Option.isSome_map, ht]
        rfl
      refine h.update ?_ (fun j hj => ?_) ⟨ha.id.trans hn, ?_, ?_⟩
      · grind [DtmfSession.refreshTePt, lookup_insert_ne]
      · simp only [describedEvents, hca, if_neg (Ne.symm hj)]
      · grind [DtmfSession.refreshTePt, lookup_insert]
      rw [negotiated_append, ha.media]
      simp only [describedEvents, hca]
      exact agrees_setAnswer (RtpEndpoint.checkAnswer_ok hv).2.1 hcl.1 hcl.2

theorem DtmfSession.delivered {ev : RtpEvent} {packet : RoutedRtpPacket} (s : DtmfSession)
    (h : (s.step P (.endpoint id ev)).2.packet? = some packet) :
    ∃ ep, s.endpoints.lookup id = some ep ∧ (ep.step P ev).2.packet? = some packet ∧
      (s.step P (.endpoint id ev)).1.dtmfState = s.dtmfState := by
  simp only [DtmfSession.step, DtmfSession.handleEndpoint] at h ⊢
  cases hep : s.endpoints.lookup id with
  | none =>
    simp only [hep] at h
    cases h
  | some ep =>
    simp only [hep] at h
    refine ⟨ep, rfl, h, ?_⟩
    dsimp only
    split
    · rename_i ha
      rw [ha] at h
      cases h
    · rfl

/-- If every offer and answer without telephone events leaves their usual payload types
free, and every answer has at most one payload type for them, the packets a session takes
for telephone events are those of the negotiated payload types.  None of them is the
audio codec's, and in sensitive mode none is recorded. -/
theorem classifyDtmf_negotiated (P : Primitives) {inputs : List SessionCall}
    (hclear : Along (DtmfSession.step P) (fun _ _ call => Unambiguous P call) {} inputs)
    {id : EndpointId} {ev : RtpEvent} {packet : RoutedRtpPacket}
    (hpacket : ((exec (DtmfSession.step P) {} inputs).step P (.endpoint id ev)).2.packet? =
      some packet) :
    let s := exec (DtmfSession.step P) {} inputs
    let dtmfState := (s.step P (.endpoint id ev)).1.dtmfState
    let events := negotiated P id (trace (DtmfSession.step P) {} inputs)
    (classifyDtmf packet dtmfState = true ↔ packet.payloadType ∈ events) ∧
    (∀ ep c, s.endpoints.lookup id = some ep → ep.media.sendCodec = some c →
      packet.payloadType = c.pt → classifyDtmf packet dtmfState = false) ∧
    ∀ sensitive, shouldRecordInbound packet dtmfState sensitive = true ↔
      (id ∈ sensitive → packet.payloadType ∉ events) := by
  intro s dtmfState events
  obtain ⟨ep, hep, hout, hstate⟩ := s.delivered hpacket
  obtain ⟨hnamed, htracked, hagrees⟩ := along_induction (P := Agreed P)
    (fun id ep hl => by cases hl) (fun tr s call hc h => h.step hc) hclear id ep hep
  obtain ⟨hsource, haccepts⟩ := RtpEndpoint.accepts_of_packet hout
  have hclassify : classifyDtmf packet dtmfState = true ↔ packet.payloadType ∈ events := by
    rw [← hagrees.isTelephoneEventPt_iff haccepts, classifyDtmf,
      show dtmfState = s.dtmfState from hstate, hsource, hnamed]
    obtain ⟨ds, hds, htePt⟩ := Option.map_eq_some_iff.mp htracked
    rw [hds, Option.bind_some, htePt]
  refine ⟨hclassify, fun ep' c hep' hc hpt => ?_, fun sensitive => ?_⟩
  · cases hep.symm.trans hep'
    rw [← Bool.not_eq_true, hclassify, hpt]
    exact hagrees.audio c hc
  · rw [← hclassify, shouldRecordInbound, hsource, hnamed]
    simp [imp_iff_not_or]

/-! ## Concrete sessions -/

def sampleDescription (lines : List String) : Text :=
  (["v=0", "s=-", "c=IN IP4 192.0.2.10", "t=0 0"] ++ lines).flatMap (·.toList ++ crlf)

def sampleCreate : SessionCall :=
  .createOffer RtpEndpoint.sampleSetup defaultRtpSourceNetworks (.v4 0xC0000201) none none .plainRtp

def sampleAnswered (lines : List String) : SessionCall :=
  .endpoint 1 ⟨1, 0, .acceptAnswer (sampleDescription lines) (Vector.replicate 30 2)⟩

def sampleFrom (payloadType : UInt8) : RtpEvent :=
  ⟨2, 0, .handleRtpAt (RtpHeader.build payloadType 1 160 5 false [5, 10, 0, 160])
    RtpEndpoint.sampleSource 2⟩

def sampleFromRouted (payloadType : UInt8) : RoutedRtpPacket :=
  { sourceEndpointId := 1, payloadType := payloadType, sequenceNumber := 1, timestamp := 160,
    ssrc := 5, marker := false, payload := [5, 10, 0, 160] }

instance (codecs : List SdpCodec) : Decidable (NoDefaultAudio codecs) :=
  inferInstanceAs (Decidable (_ ∨ _))

instance (codecs : List SdpCodec) : Decidable (OneEventPt codecs) :=
  inferInstanceAs (Decidable (∀ c ∈ codecs, _))

instance (P : Primitives) (call : SessionCall) : Decidable (Unambiguous P call) := by
  unfold Unambiguous
  split
  · infer_instance
  · infer_instance
  · split <;> infer_instance

def sampleNegotiation : List SessionCall :=
  [sampleCreate, sampleAnswered ["m=audio 4000 RTP/AVP 0 97", "a=rtpmap:97 telephone-event/8000"]]

theorem sampleNegotiation_classified :
    let s := exec (DtmfSession.step .reference) {} sampleNegotiation
    let dtmfState := (s.step .reference (.endpoint 1 (sampleFrom 97))).1.dtmfState
    let events := negotiated .reference 1 (trace (DtmfSession.step .reference) {} sampleNegotiation)
    events = [97] ∧
    (classifyDtmf (sampleFromRouted 97) dtmfState = true ↔
      (sampleFromRouted 97).payloadType ∈ events) ∧
    (∀ ep c, s.endpoints.lookup 1 = some ep → ep.media.sendCodec = some c →
      (sampleFromRouted 97).payloadType = c.pt →
      classifyDtmf (sampleFromRouted 97) dtmfState = false) ∧
    ∀ sensitive, shouldRecordInbound (sampleFromRouted 97) dtmfState sensitive = true ↔
      (1 ∈ sensitive → (sampleFromRouted 97).payloadType ∉ events) :=
  ⟨by decide +kernel, classifyDtmf_negotiated .reference (by decide +kernel) (by decide +kernel)⟩

def sampleTwoMappings : List SessionCall :=
  [sampleCreate,
    sampleAnswered ["m=audio 4000 RTP/AVP 0 101 110", "a=rtpmap:101 telephone-event/8000",
      "a=rtpmap:110 telephone-event/48000"]]

def sampleOpusOffer : List SessionCall :=
  [.createFromOffer RtpEndpoint.sampleSetup defaultRtpSourceNetworks (.v4 0xC0000201)
    (sampleDescription ["m=audio 4000 RTP/AVP 96", "a=rtpmap:96 opus/48000/2"]) none]

theorem classifyDtmf_disagrees : (let s := exec (DtmfSession.step .reference) {} sampleTwoMappings
     let after := s.step .reference (.endpoint 1 (sampleFrom 110))
     negotiated .reference 1 (trace (DtmfSession.step .reference) {} sampleTwoMappings) =
        [101, 110] ∧
      after.2.packet? = some (sampleFromRouted 110) ∧
      classifyDtmf (sampleFromRouted 110) after.1.dtmfState = false ∧
      shouldRecordInbound (sampleFromRouted 110) after.1.dtmfState [1] = true) ∧
    (let s := exec (DtmfSession.step .reference) {} sampleOpusOffer
     let after := s.step .reference (.endpoint 1 (sampleFrom 96))
     negotiated .reference 1 (trace (DtmfSession.step .reference) {} sampleOpusOffer) = [] ∧
      ((s.endpoints.lookup 1).bind fun ep => ep.media.sendCodec.map SdpCodec.pt) = some 96 ∧
      after.2.packet? = some (sampleFromRouted 96) ∧
      classifyDtmf (sampleFromRouted 96) after.1.dtmfState = true) := by
  decide +kernel

end RtpBridge.Session
