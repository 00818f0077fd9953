/-
The answers of an endpoint to the offers of its peer.
-/
import RtpBridge.Media.SdpBinding
import RtpBridge.Session.Rtp.Steps

namespace RtpBridge.Session

open Srtp Sdp Rtp Rtcp Wire Text Machine Option
open List hiding Vector

variable {ep ep' : RtpEndpoint} {answer offer sdp : Text} {codecs : List SdpCodec} {c : SdpCodec}
  {codec : Option Text} {P : Primitives} {port : UInt16} {txKey : Vector UInt8 30} {ev : RtpEvent}

/-! ## The stored codecs -/

theorem nodup_withTelephoneEvent (h : (codecs.map SdpCodec.pt).Nodup)
    (hf : codecs.any SdpCodec.isTelephoneEvent = true ∨ ∀ c ∈ codecs, c.pt ≠ 101) :
    ((withTelephoneEvent codecs).map SdpCodec.pt).Nodup := by
  unfold withTelephoneEvent
  split
  · exact h
  rename_i hn
  have hf := hf.resolve_left hn
  rw [map_append, nodup_append]
  refine ⟨h, nodup_singleton _, fun p hp q hq heq => ?_⟩
  obtain ⟨c, hc, rfl⟩ := mem_map.mp hp
  exact hf c hc (heq.trans (mem_singleton.mp hq))

namespace RtpMedia

variable {media : RtpMedia}

theorem mem_answerCodecs (h : c ∈ media.answerCodecs) :
    media.sendCodec = some c ∨ c ∈ media.codecs := by
  rcases mem_append.mp h with h | h
  · exact .inl (mem_toList.mp h)
  · exact .inr (mem_filter.mp h).1

theorem answerCodecs_cons (h : media.sendCodec = some c) :
    ∃ rest, media.answerCodecs = c :: rest := by
  unfold answerCodecs
  rw [h]
  exact ⟨_, rfl⟩

theorem mem_answerCodecs_of_ne (hc : c ∈ media.codecs)
    (hne : ∀ s, media.sendCodec = some s → s.pt ≠ c.pt) : c ∈ media.answerCodecs := by
  refine mem_append_right _ (mem_filter.mpr ⟨hc, ?_⟩)
  cases hs : media.sendCodec with
  | none => rfl
  | some s =>
    rw [any_some, beq_false_of_ne (hne s hs)]
    rfl

theorem nodup_answerCodecs (h : (media.codecs.map SdpCodec.pt).Nodup) :
    (media.answerCodecs.map SdpCodec.pt).Nodup := by
  have hs : ((media.codecs.filter fun c => !media.sendCodec.any (·.pt == c.pt)).map
      SdpCodec.pt).Nodup := (filter_sublist.map SdpCodec.pt).nodup h
  unfold answerCodecs
  grind

theorem distinct_of_codecs (codecs : List SdpCodec)
    (hu : ∀ c ∈ codecs, ∀ d ∈ codecs, c.pt = d.pt → c = d)
    (hf : ∀ c ∈ media.codecs, c ∈ codecs)
    (hs : ∀ c, media.sendCodec = some c → c ∈ codecs ∧ c.isTelephoneEvent = false)
    (hn : (media.codecs.map SdpCodec.pt).Nodup)
    (hfr : (∃ t ∈ media.codecs, t.isTelephoneEvent = true) ∨ ∀ c ∈ codecs, c.pt ≠ 101) :
    ((withTelephoneEvent media.answerCodecs).map SdpCodec.pt).Nodup := by
  grind [nodup_withTelephoneEvent, nodup_answerCodecs, mem_answerCodecs_of_ne, mem_answerCodecs]

end RtpMedia

namespace RtpEndpoint

theorem checkAnswer_codecs {parsed : ParsedSdp} {valid : List SdpCodec}
    (h : ep.checkAnswer P parsed = .ok valid) :
    parsed.validatePlainOffer P = .ok () ∧ valid = ep.media.answeredCodecs parsed := by
  unfold checkAnswer at h
  dsimp only at h
  split at h
  · cases h
  rename_i hv
  split at h
  · cases h
  split at h
  · cases h
  grind [ParsedSdp.validatePlainTransport, ParsedSdp.validatePlainOffer, RtpMedia.validateAnswer]

theorem setAnswer_codecs {valid : List SdpCodec}
    (h : ep.checkAnswer P (parseSdp P sdp) = .ok valid) :
    (∀ c ∈ (ep.media.setAnswer (parseSdp P sdp) valid).codecs, c ∈ (parseSdp P sdp).codecs) ∧
      ∀ c, (ep.media.setAnswer (parseSdp P sdp) valid).sendCodec = some c →
        c ∈ (parseSdp P sdp).codecs ∧ c.isTelephoneEvent = false := by
  obtain ⟨-, rfl⟩ := checkAnswer_codecs h
  refine ⟨fun c hc => (mem_filter.mp hc).1, fun c hc => ?_⟩
  have ha := List.find?_some hc
  rw [Bool.not_eq_true'] at ha
  exact ⟨(mem_filter.mp (mem_of_find?_eq_some hc)).1, ha⟩

/-! ## Endpoints that can answer -/

structure Answerable (P : Primitives) (ep : RtpEndpoint) : Prop where
  port : 0 < ep.latch.localRtpAddr.port
  key : ep.txKeys.Own P
  known : ∀ c ∈ ep.media.answerCodecs, Known c

theorem Answerable.step (h : Answerable P ep) (ev : RtpEvent) : Answerable P (ep.step P ev).1 := by
  have hs := ep.step_media P ev
  generalize ep.step P ev = result at hs
  obtain ⟨ep', out⟩ := result
  cases hs with
  | kept hk =>
    refine ⟨?_, hk.key h.key, ?_⟩
    · rw [hk.addr]
      exact h.port
    · rw [hk.media]
      exact h.known
  | answered _ hch hk =>
    obtain ⟨hv, -⟩ := checkAnswer_codecs hch
    obtain ⟨hco, hs⟩ := setAnswer_codecs hch
    obtain ⟨i, b, -, hb, -, hr, -⟩ := selected_of_valid hv
    refine ⟨?_, hk.key h.key, fun c hc => ?_⟩
    · rw [hk.addr]
      exact h.port
    rw [hk.media] at hc
    rcases RtpMedia.mem_answerCodecs hc with hc | hc
    · exact (codec_of_mem hr hb (hs c hc).1).2.1
    · exact (codec_of_mem hr hb (hco c hc)).2.1

theorem carries_answerCrypto (hbase64 : ∀ data, Solid (P.base64Encode data)) (keys : RtpTxKeys)
    (ho : keys.Own P) {offered : Option SdpCrypto}
    (hs : ∀ c, offered = some c → c.suite = supportedSuite) :
    ∀ c, (keys.srtpTxKeyB64.map fun key => answerCrypto key offered) = some c → Carries c := by
  intro c hc
  obtain ⟨key, hk, rfl⟩ := map_eq_some_iff.mp hc
  obtain ⟨data, rfl⟩ := ho key hk
  refine ⟨?_, hbase64 data⟩
  have hw : Word supportedSuite := by decide
  unfold answerCrypto
  cases offered with
  | none => exact hw
  | some c =>
    show Word c.suite
    rw [hs c rfl]
    exact hw

/-! ## How an answer was written -/

def WrittenAnswer (P : Primitives) (offer answer : Text) (port : UInt16)
    (codecs : List SdpCodec) : Prop :=
  ∃ localAddr crypto sessionId selected,
    Writable codecs crypto (parseSdp P offer).mediaSections selected ∧
      answer = generateSdp localAddr port codecs crypto sessionId false
        (some ((parseSdp P offer).mediaSections, selected))

theorem writtenAnswer_of_ok {localAddr : SocketAddr} {crypto : Option SdpCrypto} {sessionId : Nat}
    (hv : (parseSdp P offer).validatePlainOffer P = .ok ()) (hco : ∀ c ∈ codecs, Known c)
    (hcr : ∀ c, crypto = some c → Carries c)
    (h : generateSdpAnswerForOffer localAddr port codecs crypto sessionId (parseSdp P offer) =
      .ok answer) : WrittenAnswer P offer answer port codecs := by
  obtain ⟨i, b, hi, -, hl, -, -⟩ := selected_of_valid hv
  unfold generateSdpAnswerForOffer at h
  rw [hi] at h
  dsimp only at h
  split at h
  · cases h
  cases h
  exact ⟨localAddr, crypto, sessionId, i,
    ⟨listed_of_valid hv, hl, fun c hc => (hco c hc).printable, hcr⟩, rfl⟩

section Written

variable {P : Primitives} (hbase64 : ∀ data, Solid (P.base64Encode data))
include hbase64

theorem updateRemoteSdp_written (hr : Answerable P ep) {now : Nat}
    (h : ep.updateRemoteSdp P now txKey sdp = (ep', .ok answer)) :
    (parseSdp P sdp).validatePlainOffer P = .ok () ∧
      WrittenAnswer P sdp answer ep.latch.localRtpAddr.port ep.media.answerCodecs ∧
      ep'.latch.rtcpMux = (ep.latch.rtcpMux || (parseSdp P sdp).rtcpMux) ∧
      ep'.media = ep.media := by
  rcases updateRemoteSdp_cases P ep now txKey sdp with ⟨e, he⟩ | ⟨ep'', text, he, ha, hm, -⟩
  · rw [he] at h
    cases h
  rw [he] at h
  cases h
  have hl : ep'.latch.rtcpMux = (ep.latch.rtcpMux || (parseSdp P sdp).rtcpMux) := by
    rw [ha.latch]
    rfl
  unfold updateRemoteSdp at he
  dsimp only at he
  split at he
  · cases he
  rename_i hch
  have hv : (parseSdp P sdp).validatePlainOffer P = .ok () := by
    unfold checkOffer at hch
    split at hch
    · cases hch
    · rename_i hva
      exact hva
  obtain ⟨i, b, -, -, -, -, hs⟩ := selected_of_valid hv
  split at he
  · cases he
  obtain ⟨rfl, han⟩ := Prod.mk.inj he
  have hw := writtenAnswer_of_ok hv (fun c hc => hr.known c (by
    rw [hm] at hc
    exact hc)) (carries_answerCrypto hbase64 _ (ha.key hr.key) hs) han
  rw [ha.addr, hm] at hw
  exact ⟨hv, hw, hl, hm⟩

omit hbase64 in
theorem localParameters_same (c : SdpCodec) :
    (localParameters c).pt = c.pt ∧ (localParameters c).name = c.name ∧
      (localParameters c).clockRate = c.clockRate := by grind [localParameters]

omit hbase64 in
theorem known_localParameters (hc : Known c) : Known (localParameters c) := by
  cases hc with
  | pcmu h => exact .pcmu h
  | g722 h => exact .g722 h
  | opus h hr hm =>
    refine .opus h (fun f hf => ?_) (by decide +kernel)
    cases hf
    exact Word.row (by decide +kernel)
  | telephoneEvent h hcl => exact .telephoneEvent h hcl

omit hbase64 in
theorem withTelephoneEvent_localParameters (codecs : List SdpCodec) :
    withTelephoneEvent (codecs.map localParameters) =
      (withTelephoneEvent codecs).map localParameters := by
  have he : (codecs.map localParameters).any SdpCodec.isTelephoneEvent =
      codecs.any SdpCodec.isTelephoneEvent := by
    rw [List.any_map]
    refine congrArg (codecs.any ·) (funext fun c => ?_)
    show ((localParameters c).name == telephoneEventName) = (c.name == telephoneEventName)
    rw [(localParameters_same c).2.1]
  unfold withTelephoneEvent
  rw [he]
  split
  · rfl
  · rw [map_append]
    rfl

theorem fromOfferWithCodec_written {setup : RtpSetup} {bindIp : IpAddr}
    (hp : 0 < setup.localRtpAddr.port)
    (h : fromOfferWithCodec P setup bindIp offer codec = .ok (ep, answer)) :
    (parseSdp P offer).validatePlainOffer P = .ok () ∧
      RtpMedia.ofOffer (parseSdp P offer) codec = .ok ep.media ∧ Answerable P ep ∧
      ep.latch.rtcpMux = (parseSdp P offer).rtcpMux ∧
      WrittenAnswer P offer answer setup.localRtpAddr.port
        (ep.media.answerCodecs.map localParameters) := by
  unfold fromOfferWithCodec at h
  dsimp only at h
  split at h
  · cases h
  rename_i hv
  obtain ⟨i, b, -, hb, -, hr, hs⟩ := selected_of_valid hv
  split at h
  · cases h
  rename_i media hm
  obtain ⟨telephone, hco, -, hse, he, -⟩ := ofOffer_codecs hm
  have hkn : ∀ c ∈ media.answerCodecs, Known c := by
    intro c hc
    have hme : c ∈ (parseSdp P offer).codecs := by
      rcases RtpMedia.mem_answerCodecs hc with hc | hc
      · exact (hse c hc).1
      · grind
    exact (codec_of_mem hr hb hme).2.1
  have hl : ∀ c ∈ media.answerCodecs.map localParameters, Known c := by
    intro c hc
    obtain ⟨d, hd, rfl⟩ := mem_map.mp hc
    exact known_localParameters (hkn d hd)
  have hf : (RtpEndpoint.new setup).txKeys.Own P := by
    intro key hky
    cases hky
  cases hcr : (parseSdp P offer).crypto with
  | none =>
    rw [hcr] at h
    dsimp only at h
    split at h
    · cases h
    rename_i text han
    cases h
    refine ⟨hv, hm, ⟨hp, hf, hkn⟩, rfl, writtenAnswer_of_ok hv hl (fun c hc => ?_) han⟩
    cases hc
  | some crypto =>
    rw [hcr] at h
    dsimp only at h
    split at h
    · cases h
    rename_i keyed ours hke
    split at hke
    · cases hke
    rename_i rxKeys txKeys key hk
    cases hke
    have hi : (txKeys, .ok key) =
        (RtpEndpoint.new setup).txKeys.install P setup.keyBytes "init" := by
      unfold offerKeys at hk
      split at hk
      · cases hk
      split at hk
      · cases hk
      rename_i hpa
      cases hk
      exact hpa.symm
    obtain ⟨keys, hok, -, ho⟩ := RtpTxKeys.install_ok P (RtpEndpoint.new setup).txKeys
      setup.keyBytes "init"
    rw [hok] at hi
    obtain rfl := (Prod.mk.inj hi).1
    have hky : key = P.base64Encode setup.keyBytes.toList :=
      Except.ok.inj (Prod.mk.inj hi).2
    have hca := carries_answerCrypto hbase64 { srtpTxKeyB64 := some key }
      (fun text ht => ⟨_, (Option.some.inj ht).symm.trans hky⟩)
      (fun c hc => hs c (hcr.trans hc))
    split at h
    · cases h
    rename_i text han
    cases h
    exact ⟨hv, hm, ⟨hp, ho, hkn⟩, rfl, writtenAnswer_of_ok hv hl hca han⟩

end Written

/-! ## Bindings -/

def Distinct (ep : RtpEndpoint) : Prop :=
  ((withTelephoneEvent ep.media.answerCodecs).map SdpCodec.pt).Nodup

/-- An offer whose rtpmap rows the parser reads in full, and which has a telephone event or
leaves 101 free. -/
def ClearOffer (P : Primitives) (offer : Text) : Prop :=
  ∀ theirs, selectedBlock P offer = some theirs →
    ((theirs.told offer).filterMap rtpmapEntry).length ≤ 32 ∧
      ((parseSdp P offer).codecs.any SdpCodec.isTelephoneEvent = true ∨
        101 ∉ theirs.payloadTypes)

/-- An answer that lists every payload type once, and which has a telephone event we offered or
leaves 101 free. -/
def ClearAnswer (P : Primitives) (media : RtpMedia) (sdp : Text) : Prop :=
  ∀ theirs, selectedBlock P sdp = some theirs → theirs.payloadTypes.Nodup ∧
      ((media.answeredCodecs (parseSdp P sdp)).any SdpCodec.isTelephoneEvent = true ∨
        101 ∉ theirs.payloadTypes)

/-- An offer that binds the payload types of the stored codecs as they are stored. -/
def AgreesWith (P : Primitives) (media : RtpMedia) (offer : Text) : Prop :=
  ∀ theirs, selectedBlock P offer = some theirs →
    ∀ c ∈ withTelephoneEvent media.answerCodecs, c.pt ∈ theirs.payloadTypes →
      binding (theirs.told offer) c.pt = some c.announced

def ClearStep (P : Primitives) (_ : List (RtpEvent × RtpOutcome)) (ep : RtpEndpoint)
    (ev : RtpEvent) : Prop :=
  match ev.call with
  | .updateRemoteSdp sdp _ => AgreesWith P ep.media sdp
  | .acceptAnswer sdp _ => ClearAnswer P ep.media sdp
  | _ => True

theorem distinct_step {tr : List (RtpEvent × RtpOutcome)} (hcl : ClearStep P tr ep ev)
    (h : Distinct ep) : Distinct (ep.step P ev).1 := by
  unfold Distinct at h ⊢
  have hs := ep.step_media P ev
  generalize ep.step P ev = result at hs
  obtain ⟨ep', out⟩ := result
  cases hs with
  | kept hk =>
    rw [hk.media]
    exact h
  | @answered sdp _ _ _ hca hch hk =>
    unfold ClearStep at hcl
    rw [hca] at hcl
    obtain ⟨hv, rfl⟩ := checkAnswer_codecs hch
    obtain ⟨hco, hs⟩ := setAnswer_codecs hch
    obtain ⟨i, b, -, hb, -, hr, -⟩ := selected_of_valid hv
    obtain ⟨ho, he⟩ := hcl b hb
    rw [hk.media]
    refine RtpMedia.distinct_of_codecs (parseSdp P sdp).codecs
      (fun c hc d hd => parseSdp_codec_unique hc hd) hco hs
      ((filter_sublist.map SdpCodec.pt).nodup (nodup_codecs hr hb ho)) ?_
    rcases he with he | hf
    · exact .inl (any_eq_true.mp he)
    refine .inr fun c hc heq => hf ?_
    rw [← heq]
    exact (codec_of_mem hr hb hc).1

theorem ofOffer_clear {media : RtpMedia} (hv : (parseSdp P offer).validatePlainOffer P = .ok ())
    (hm : RtpMedia.ofOffer (parseSdp P offer) codec = .ok media) (hcl : ClearOffer P offer) :
    ((withTelephoneEvent media.answerCodecs).map SdpCodec.pt).Nodup ∧
      AgreesWith P media offer := by
  obtain ⟨i, b, -, hb, -, hr, -⟩ := selected_of_valid hv
  obtain ⟨hcu, he⟩ := hcl b hb
  obtain ⟨telephone, hco, -, hse, htl, hno⟩ := ofOffer_codecs hm
  have hfr : ∀ c ∈ media.codecs, c ∈ (parseSdp P offer).codecs := by
    intro c hc
    rw [hco] at hc
    rcases mem_append.mp hc with hc | hc
    · exact (hse c (mem_toList.mp hc)).1
    · exact (htl c (mem_toList.mp hc)).1
  have hal : ∀ c ∈ media.answerCodecs, c ∈ (parseSdp P offer).codecs := by
    intro c hc
    rcases RtpMedia.mem_answerCodecs hc with hc | hc
    · exact (hse c hc).1
    · exact hfr c hc
  have hap : ∀ s t, media.sendCodec = some s → telephone = some t → s.pt ≠ t.pt := by
    intro s t hs ht heq
    obtain ⟨hsM, ha⟩ := hse s hs
    obtain ⟨htM, hte⟩ := htl t ht
    rw [parseSdp_codec_unique hsM htM heq, hte] at ha
    cases ha
  have hn : (media.codecs.map SdpCodec.pt).Nodup := by
    rw [hco]
    cases hs : media.sendCodec with
    | none => grind
    | some s => grind
  -- Without a telephone event in the offer, 101 is none of its payload types.
  have hf : telephone = none → 101 ∉ b.payloadTypes := by
    intro htel
    rcases he with han | hf
    · grind
    · exact hf
  constructor
  · refine RtpMedia.distinct_of_codecs (parseSdp P offer).codecs
      (fun c hc d hd => parseSdp_codec_unique hc hd) hfr hse hn ?_
    cases htel : telephone with
    | none => grind [codec_of_mem]
    | some t => grind
  intro theirs hth c hc hpt
  rw [hb] at hth
  cases hth
  unfold withTelephoneEvent at hc
  split at hc
  · exact (codec_of_mem hr hb (hal c hc)).2.2 hcu
  rename_i han
  rcases mem_append.mp hc with hc | hc
  · exact (codec_of_mem hr hb (hal c hc)).2.2 hcu
  rw [mem_singleton.mp hc] at hpt
  refine absurd hpt (hf ?_)
  cases htel : telephone with
  | none => rfl
  | some t =>
    grind [RtpMedia.mem_answerCodecs_of_ne, mem_append_right, mem_cons_self]

theorem updateRemoteSdp_keepsBindings (hbase64 : ∀ data, Solid (P.base64Encode data))
    (hr : Answerable P ep) (hd : Distinct ep) {now : Nat}
    (ha : AgreesWith P ep.media sdp)
    (h : ep.updateRemoteSdp P now txKey sdp = (ep', .ok answer)) :
    KeepsBindings P sdp answer ep'.media.sendCodec := by
  obtain ⟨hv, ⟨localAddr, crypto, sessionId, selected, hw, rfl⟩, -, hm⟩ :=
    updateRemoteSdp_written hbase64 hr h
  obtain ⟨i, b, -, hb, -, -, -⟩ := selected_of_valid hv
  refine hw.keepsBindings hr.port localAddr sessionId hr.known hd hb
    (ha b hb) fun c hc => ?_
  grind [RtpMedia.answerCodecs_cons]

theorem fromOfferWithCodec_keepsBindings (hbase64 : ∀ data, Solid (P.base64Encode data))
    {setup : RtpSetup} {bindIp : IpAddr} (hp : 0 < setup.localRtpAddr.port)
    (h : fromOfferWithCodec P setup bindIp offer codec = .ok (ep, answer))
    (hcl : ClearOffer P offer) : KeepsBindings P offer answer ep.media.sendCodec := by
  obtain ⟨hv, hm, hr, -, localAddr, crypto, sessionId, selected, hw, rfl⟩ :=
    fromOfferWithCodec_written hbase64 hp h
  obtain ⟨i, b, -, hb, -, -, -⟩ := selected_of_valid hv
  obtain ⟨hdi, ha⟩ := ofOffer_clear hv hm hcl
  have hps : (withTelephoneEvent (ep.media.answerCodecs.map localParameters)).map SdpCodec.pt =
      (withTelephoneEvent ep.media.answerCodecs).map SdpCodec.pt := by
    rw [withTelephoneEvent_localParameters, List.map_map]
    exact map_congr_left fun c _ => (localParameters_same c).1
  refine hw.keepsBindings hp localAddr sessionId (fun c hc => ?_) ?_ hb
    (fun c hc hpt => ?_) fun c hc => ?_
  · obtain ⟨d, hd, rfl⟩ := mem_map.mp hc
    exact known_localParameters (hr.known d hd)
  · rw [hps]
    exact hdi
  · rw [withTelephoneEvent_localParameters] at hc
    obtain ⟨d, hd, rfl⟩ := mem_map.mp hc
    obtain ⟨hs, hn, hco⟩ := localParameters_same d
    have hsame : (localParameters d).announced = d.announced := by
      unfold SdpCodec.announced
      rw [hn, hco]
    rw [hs] at hpt
    rw [hs, hsame]
    exact ha b hb d hd hpt
  grind [RtpMedia.answerCodecs_cons, localParameters, localParameters_same]

theorem described_of_step {reply : Text} (hca : ev.call = .updateRemoteSdp sdp txKey)
    (h : (ep.step P ev).2 = .described (.ok reply)) :
    ep.updateRemoteSdp P ev.now txKey sdp = ((ep.step P ev).1, .ok reply) := by
  unfold step at h ⊢
  grind

theorem Answerable.withSourceNetworks (h : Answerable P ep) (networks : List IpNet) :
    Answerable P (ep.withSourceNetworks networks) :=
  ⟨h.port, h.key, h.known⟩

/-- An endpoint that was created by a clear offer answers it, and every later offer that agrees
with the codecs it has stored, without binding a payload type twice or to another codec. -/
theorem answers_keep_bindings (P : Primitives) (hbase64 : ∀ data, Solid (P.base64Encode data))
    (setup : RtpSetup) (hport : 0 < setup.localRtpAddr.port) (bindIp : IpAddr)
    (offer answer : Text) (codec : Option Text) (ep : RtpEndpoint)
    (hcreated : fromOfferWithCodec P setup bindIp offer codec = .ok (ep, answer))
    (hclear : ClearOffer P offer) (networks : List IpNet) (events : List RtpEvent)
    (hrun : Along (step P) (ClearStep P) (ep.withSourceNetworks networks) events) :
    KeepsBindings P offer answer ep.media.sendCodec ∧
      ∀ before ev after sdp txKey reply, events = before ++ ev :: after →
        ev.call = .updateRemoteSdp sdp txKey →
        ((exec (step P) (ep.withSourceNetworks networks) before).step P ev).2 =
          .described (.ok reply) →
        KeepsBindings P sdp reply
          ((exec (step P) (ep.withSourceNetworks networks) before).step
            P ev).1.media.sendCodec := by
  refine ⟨fromOfferWithCodec_keepsBindings hbase64 hport hcreated hclear, ?_⟩
  intro before ev after sdp txKey reply hevents hcall hreply
  obtain ⟨hvalid, hmedia, hready, -, -⟩ := fromOfferWithCodec_written hbase64 hport hcreated
  obtain ⟨hdistinct, -⟩ := ofOffer_clear hvalid hmedia hclear
  subst hevents
  obtain ⟨hbefore, hhere, -⟩ := (along_append _ before (ev :: after)).mp hrun
  -- Both invariants hold at the start and after every call before this one.
  have hstate : Answerable P (exec (step P) (ep.withSourceNetworks networks) before) ∧
      Distinct (exec (step P) (ep.withSourceNetworks networks) before) :=
    along_induction (P := fun _ s => Answerable P s ∧ Distinct s)
      ⟨hready.withSourceNetworks networks, hdistinct⟩
      (fun _ s ev hstep hs => ⟨hs.1.step ev, distinct_step hstep hs.2⟩) hbefore
  unfold ClearStep at hhere
  rw [hcall] at hhere
  exact updateRemoteSdp_keepsBindings hbase64 hstate.1 hstate.2 hhere
    (described_of_step hcall hreply)

/-! ### Concrete offers -/

theorem solid_encode (data : Bytes) : Solid (Primitives.reference.base64Encode data) := by
  have hs : ∀ i, isWhitespace (Base64.symbol i) = false := by
    intro i
    have hsm : ∀ k < 64, isWhitespace (Base64.symbol k) = false := by decide +kernel
    by_cases hi : i < 64
    · exact hsm i hi
    have hsl : Base64.symbol i = '/' := by
      unfold Base64.symbol
      rw [if_neg (by omega), if_neg (by omega), if_neg (by omega), if_neg (by omega)]
    rw [hsl]
    decide
  have he : isWhitespace '=' = false := by decide
  show Solid (Base64.encode data)
  fun_induction Base64.encode data with
  | case1 => exact fun c hc => absurd hc not_mem_nil
  | case2 a =>
    intro c hc
    grind
  | case3 a b =>
    intro c hc
    grind
  | case4 a b c rest ih =>
    intro d hd
    simp only [mem_cons] at hd
    rcases hd with rfl | rfl | rfl | rfl | hd
    · exact hs _
    · exact hs _
    · exact hs _
    · exact hs _
    · exact ih d hd

def sampleFormatsSdp (formats : Text) (attributes : List Text) : Text :=
  (["v=0".toList, "s=-".toList, "c=IN IP4 192.0.2.10".toList, "t=0 0".toList,
    "m=audio 4000 RTP/AVP ".toList ++ formats] ++ attributes).flatMap (· ++ crlf)

def sampleFromOffer (offer : Text) : RtpEndpoint × Text :=
  match fromOfferWithCodec .reference sampleSetup (.v4 0xC0000201) offer none with
  | .ok result => result
  | .error _ => (RtpEndpoint.new sampleSetup, [])

theorem sampleAnswered_ok (offer : Text)
    (h : (fromOfferWithCodec .reference sampleSetup (.v4 0xC0000201) offer none).isOk = true) :
    fromOfferWithCodec .reference sampleSetup (.v4 0xC0000201) offer none =
      .ok (sampleFromOffer offer) := by
  unfold sampleFromOffer
  cases hr : fromOfferWithCodec .reference sampleSetup (.v4 0xC0000201) offer none with
  | error e =>
    rw [hr] at h
    cases h
  | ok result => rfl

def sampleClearOffer : Text :=
  sampleFormatsSdp "111 0 101".toList
    ["a=rtpmap:111 opus/48000/2".toList, "a=rtpmap:101 telephone-event/8000".toList]

def sampleClashingOffer : Text := sampleFormatsSdp "101".toList ["a=rtpmap:101 opus/48000/2".toList]

def sampleReboundOffer : Text := sampleFormatsSdp "111".toList ["a=rtpmap:111 PCMU/8000".toList]

def sampleReoffer (offer : Text) : RtpEvent :=
  ⟨1, 0, .updateRemoteSdp offer (Vector.replicate 30 2)⟩

def sampleReanswering (first second : Text) : RtpEndpoint × RtpOutcome :=
  ((sampleFromOffer first).1.withSourceNetworks []).step .reference (sampleReoffer second)

def sampleReply (first second : Text) : Text :=
  match (sampleReanswering first second).2 with
  | .described (.ok reply) => reply
  | _ => []

theorem sampleReply_ok (first second : Text) (h : sampleReply first second ≠ []) :
    (sampleReanswering first second).2 = .described (.ok (sampleReply first second)) := by
  grind [sampleReply]

theorem sampleClearOffer_kept :
    KeepsBindings .reference sampleClearOffer (sampleFromOffer sampleClearOffer).2
        (sampleFromOffer sampleClearOffer).1.media.sendCodec ∧
      KeepsBindings .reference sampleClearOffer (sampleReply sampleClearOffer sampleClearOffer)
        (sampleReanswering sampleClearOffer sampleClearOffer).1.media.sendCodec := by
  have hport : 0 < sampleSetup.localRtpAddr.port := by decide
  have hcreated := sampleAnswered_ok sampleClearOffer (by decide +kernel)
  have hclear : ClearOffer .reference sampleClearOffer := by
    intro theirs htheirs
    have hblock : ∀ b ∈ (selectedBlock .reference sampleClearOffer).toList,
        ((b.told sampleClearOffer).filterMap rtpmapEntry).length ≤ 32 ∧
          ((parseSdp .reference sampleClearOffer).codecs.any SdpCodec.isTelephoneEvent = true ∨
            101 ∉ b.payloadTypes) := by
      decide +kernel
    exact hblock theirs (mem_toList.mpr htheirs)
  obtain ⟨hvalid, hmedia, -, -, -⟩ := fromOfferWithCodec_written solid_encode hport hcreated
  obtain ⟨-, hagrees⟩ := ofOffer_clear hvalid hmedia hclear
  have hkept := answers_keep_bindings .reference solid_encode sampleSetup hport _ _ _ _ _ hcreated
    hclear [] [sampleReoffer sampleClearOffer] ⟨hagrees, trivial⟩
  exact ⟨hkept.1, hkept.2 [] (sampleReoffer sampleClearOffer) [] sampleClearOffer _ _ rfl rfl
    (sampleReply_ok sampleClearOffer sampleClearOffer (by decide +kernel))⟩

/-- Opus under 101 is answered together with a telephone event under 101, and a payload type
that a later offer binds to PCMU is still answered as Opus. -/
theorem bindings_broken :
    (∃ ep answer, fromOfferWithCodec .reference sampleSetup (.v4 0xC0000201) sampleClashingOffer
        none = .ok (ep, answer) ∧
      ¬ KeepsBindings .reference sampleClashingOffer answer ep.media.sendCodec) ∧
      ∃ ep answer, fromOfferWithCodec .reference sampleSetup (.v4 0xC0000201) sampleClearOffer
          none = .ok (ep, answer) ∧
        ∃ reply, ((ep.withSourceNetworks []).step .reference (sampleReoffer sampleReboundOffer)).2 =
            .described (.ok reply) ∧
          ∀ send, ¬ KeepsBindings .reference sampleReboundOffer reply send := by
  constructor
  · have hcreated := sampleAnswered_ok sampleClashingOffer (by decide +kernel)
    refine ⟨_, _, hcreated, ?_⟩
    rintro ⟨theirs, ours, -, hactive, hnodup, -⟩
    have htwice : ∀ b ∈ (layout (rows (sampleFromOffer sampleClashingOffer).2)).2.filter
        (fun b => b.ActiveAudio), ¬ b.payloadTypes.Nodup := by
      decide +kernel
    exact htwice ours (hactive ▸ mem_cons_self) hnodup
  have hcreated := sampleAnswered_ok sampleClearOffer (by decide +kernel)
  refine ⟨_, _, hcreated, sampleReply sampleClearOffer sampleReboundOffer,
    sampleReply_ok sampleClearOffer sampleReboundOffer (by decide +kernel), ?_⟩
  rintro send ⟨theirs, ours, htheirs, hactive, -, -, hsame, -⟩
  have hother : ∀ b ∈ (layout (rows (sampleReply sampleClearOffer sampleReboundOffer))).2.filter
      (fun b => b.ActiveAudio), ∀ t ∈ (selectedBlock .reference sampleReboundOffer).toList,
      ¬ ∀ pt ∈ b.payloadTypes, pt ∈ t.payloadTypes →
        binding b.rows pt = binding (t.told sampleReboundOffer) pt := by
    decide +kernel
  exact hother ours (hactive ▸ mem_cons_self) theirs (mem_toList.mpr htheirs) hsame

/-! ## Direction and rtcp-mux -/

def mayAnswer : SdpDirection → SdpDirection → Bool
  | .sendrecv, _ => true
  | .sendonly, answer => answer == .recvonly || answer == .inactive
  | .recvonly, answer => answer == .sendonly || answer == .inactive
  | .inactive, answer => answer == .inactive

def directionOf (parsed : ParsedSdp) : SdpDirection := parsed.direction.getD .sendrecv

def negotiatedMux (P : Primitives) (offer answer : Text) : Bool :=
  (parseSdp P offer).rtcpMux && (parseSdp P answer).rtcpMux

def rtcpTarget (parsed : ParsedSdp) (mux : Bool) : Option SocketAddr :=
  if mux then parsed.remoteAddr
  else parsed.remoteRtcpAddr.or (parsed.remoteAddr.bind rtcpAddrFromRtp)

/-- The answer offers rtcp-mux only in return, its direction may answer the offer's, and the
endpoint sends RTCP as the two have agreed. -/
structure FollowsOffer (P : Primitives) (offer answer : Text) (latch : RtpLatch) : Prop where
  mux : (parseSdp P answer).rtcpMux = true → (parseSdp P offer).rtcpMux = true
  direction : mayAnswer (directionOf (parseSdp P offer)) (directionOf (parseSdp P answer)) = true
  flag : latch.rtcpMux = negotiatedMux P offer answer
  target : latch.remoteRtcpAddr = rtcpTarget (parseSdp P offer) (negotiatedMux P offer answer)

def TwoWayMux (P : Primitives) (offer : Text) : Prop :=
  (parseSdp P offer).rtcpMux = true ∧ directionOf (parseSdp P offer) = .sendrecv

theorem WrittenAnswer.attributes (h : WrittenAnswer P offer answer port codecs) (hp : 0 < port) :
    (parseSdp P answer).rtcpMux = true ∧ directionOf (parseSdp P answer) = .sendrecv := by
  obtain ⟨localAddr, crypto, sessionId, selected, hw, rfl⟩ := h
  obtain ⟨st, -, -, -, -, -, hd, hm⟩ := hw.parse hp P localAddr sessionId
  refine ⟨hm, ?_⟩
  unfold directionOf
  rw [hd]
  rfl

theorem followsOffer_iff (h : WrittenAnswer P offer answer port codecs) (hp : 0 < port)
    {latch : RtpLatch} (hfl : (parseSdp P offer).rtcpMux = true → latch.rtcpMux = true)
    (ht : latch.rtcpMux = true → latch.remoteRtcpAddr = (parseSdp P offer).remoteAddr) :
    FollowsOffer P offer answer latch ↔ TwoWayMux P offer := by
  obtain ⟨hmu, hd⟩ := h.attributes hp
  constructor
  · intro hf
    refine ⟨hf.mux hmu, ?_⟩
    have hm := hf.direction
    rw [hd] at hm
    cases hoff : directionOf (parseSdp P offer) with
    | sendrecv => rfl
    | sendonly =>
      rw [hoff] at hm
      cases hm
    | recvonly =>
      rw [hoff] at hm
      cases hm
    | inactive =>
      rw [hoff] at hm
      cases hm
  · rintro ⟨ho, hof⟩
    have hn : negotiatedMux P offer answer = true := by
      unfold negotiatedMux
      rw [ho, hmu]
      rfl
    refine ⟨fun _ => ho, ?_, ?_, ?_⟩
    · rw [hof]
      rfl
    · rw [hn]
      exact hfl ho
    · rw [hn]
      exact ht (hfl ho)

theorem remoteRtcpAddr_setRemote {latch : RtpLatch} {parsed : ParsedSdp} {mux : Bool}
    (ha : parsed.remoteAddr.isSome) (hm : mux = true) :
    (latch.setRemote mux parsed).remoteRtcpAddr = parsed.remoteAddr := by grind [RtpLatch.setRemote]

/-- Every accepted offer is followed exactly when it sends and receives over one port: the first
one, and each later one whatever was called before it. -/
theorem offers_followed_iff (P : Primitives) (hbase64 : ∀ data, Solid (P.base64Encode data))
    (setup : RtpSetup) (hport : 0 < setup.localRtpAddr.port) (bindIp : IpAddr)
    (offer answer : Text) (codec : Option Text) (ep : RtpEndpoint)
    (hcreated : fromOfferWithCodec P setup bindIp offer codec = .ok (ep, answer))
    (networks : List IpNet) (before : List RtpEvent) :
    (FollowsOffer P offer answer ep.latch ↔ TwoWayMux P offer) ∧
      ∀ ev sdp txKey reply, ev.call = .updateRemoteSdp sdp txKey →
        ((exec (step P) (ep.withSourceNetworks networks) before).step P ev).2 =
          .described (.ok reply) →
        (FollowsOffer P sdp reply
            ((exec (step P) (ep.withSourceNetworks networks) before).step P ev).1.latch ↔
          TwoWayMux P sdp) := by
  obtain ⟨hvalid, -, hready, hmux, hwritten⟩ := fromOfferWithCodec_written hbase64 hport hcreated
  obtain ⟨-, husable, hlatch, -, -⟩ := fromOfferWithCodec_ok hcreated
  constructor
  · refine followsOffer_iff hwritten hport (fun hoffer => hmux.trans hoffer) fun hflag => ?_
    rw [hlatch]
    exact remoteRtcpAddr_setRemote husable.addr (hmux.symm.trans hflag)
  intro ev sdp txKey reply hcall hreply
  have hstate : Answerable P (exec (step P) (ep.withSourceNetworks networks) before) :=
    exec_induction (hready.withSourceNetworks networks) (fun _ ev hs => hs.step ev) before
  generalize exec (step P) (ep.withSourceNetworks networks) before = s at hstate hreply ⊢
  have hupdate := described_of_step hcall hreply
  obtain ⟨-, hsWritten, hsMux, -⟩ := updateRemoteSdp_written hbase64 hstate hupdate
  rcases updateRemoteSdp_cases P s ev.now txKey sdp with ⟨e, he⟩ | ⟨s', text, he, happlies, -⟩
  · rw [hupdate] at he
    cases (Prod.mk.inj he).2
  rw [hupdate] at he
  cases he
  refine followsOffer_iff hsWritten hstate.port (fun hoffer => ?_) fun hflag => ?_
  · rw [hsMux, hoffer, Bool.or_true]
  rw [hsMux] at hflag
  rw [happlies.latch]
  exact remoteRtcpAddr_setRemote happlies.usable.addr hflag

def sampleMuxOffer : Text := sampleFormatsSdp "0".toList ["a=rtcp-mux".toList, "a=sendrecv".toList]

def sampleSendonlyOffer : Text := sampleFormatsSdp "0".toList ["a=sendonly".toList]

theorem sampleMuxOffer_followed :
    FollowsOffer .reference sampleMuxOffer (sampleFromOffer sampleMuxOffer).2
        (sampleFromOffer sampleMuxOffer).1.latch ∧
      FollowsOffer .reference sampleMuxOffer (sampleReply sampleMuxOffer sampleMuxOffer)
        (sampleReanswering sampleMuxOffer sampleMuxOffer).1.latch := by
  have hcreated := sampleAnswered_ok sampleMuxOffer (by decide +kernel)
  have htwoWay : TwoWayMux .reference sampleMuxOffer := ⟨by decide +kernel, by decide +kernel⟩
  have hiff := offers_followed_iff .reference solid_encode sampleSetup (by decide) _ _ _ _ _
    hcreated [] []
  exact ⟨hiff.1.mpr htwoWay, (hiff.2 (sampleReoffer sampleMuxOffer) sampleMuxOffer _ _ rfl
    (sampleReply_ok sampleMuxOffer sampleMuxOffer (by decide +kernel))).mpr htwoWay⟩

/-- A peer that only sends, without rtcp-mux, is answered with both; and after an offer with
rtcp-mux the endpoint sends RTCP to the RTP port of an offer without it. -/
theorem sampleSendonlyOffer_not_followed :
    (∃ ep answer, fromOfferWithCodec .reference sampleSetup (.v4 0xC0000201) sampleSendonlyOffer
        none = .ok (ep, answer) ∧
      (parseSdp .reference sampleSendonlyOffer).rtcpMux = false ∧
      (parseSdp .reference answer).rtcpMux = true ∧
      (parseSdp .reference sampleSendonlyOffer).direction = some .sendonly ∧
      (parseSdp .reference answer).direction = some .sendrecv) ∧
      ∃ ep answer, fromOfferWithCodec .reference sampleSetup (.v4 0xC0000201) sampleMuxOffer
          none = .ok (ep, answer) ∧
        ∃ reply, ((ep.withSourceNetworks []).step .reference
            (sampleReoffer sampleSendonlyOffer)).2 = .described (.ok reply) ∧
          ((ep.withSourceNetworks []).step .reference
            (sampleReoffer sampleSendonlyOffer)).1.latch.rtcpMux = true ∧
          ((ep.withSourceNetworks []).step .reference
            (sampleReoffer sampleSendonlyOffer)).1.latch.remoteRtcpAddr =
            some (.v4 0xC000020A 4000) ∧
          rtcpTarget (parseSdp .reference sampleSendonlyOffer)
            (negotiatedMux .reference sampleSendonlyOffer reply) = some (.v4 0xC000020A 4001) := by
  constructor
  · have hcreated := sampleAnswered_ok sampleSendonlyOffer (by decide +kernel)
    exact ⟨_, _, hcreated, by decide +kernel, by decide +kernel, by decide +kernel,
      by decide +kernel⟩
  have hcreated := sampleAnswered_ok sampleMuxOffer (by decide +kernel)
  exact ⟨_, _, hcreated, sampleReply sampleMuxOffer sampleSendonlyOffer,
    sampleReply_ok sampleMuxOffer sampleSendonlyOffer (by decide +kernel), by decide +kernel,
    by decide +kernel, by decide +kernel⟩

end RtpEndpoint
end RtpBridge.Session
