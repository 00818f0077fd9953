/-
What one call can do to an RTP endpoint.
-/
import RtpBridge.Session.Rtp.Endpoint

namespace RtpBridge.Session

open Srtp Sdp Rtp Rtcp Wire

variable {P : Primitives} {ep : RtpEndpoint} {data plain : Bytes} {ev : RtpEvent}

inductive RxUpdate (P : Primitives) (now : Nat) :
    Option SdpCrypto → RtpRxKeys → RtpRxKeys → Prop where
  | none {keys : RtpRxKeys} : RxUpdate P now none keys keys
  | some {crypto : SdpCrypto} {material : Bytes} {keys keys' : RtpRxKeys}
      (hd : base64Decode P crypto.keyB64 = .ok material)
      (h : RtpRxKeys.Installs P now crypto material keys keys') :
      RxUpdate P now (some crypto) keys keys'

inductive TxUpdate : Option SdpCrypto → RtpTxKeys → RtpTxKeys → Prop where
  | kept {crypto : Option SdpCrypto} {keys : RtpTxKeys}
      (h : crypto = none ∨ keys.srtpTx.isSome) : TxUpdate crypto keys keys
  | made {crypto : SdpCrypto} {keys keys' : RtpTxKeys} (h : keys'.Present) :
      TxUpdate (some crypto) keys keys'

namespace RtpEndpoint

structure Carried (P : Primitives) (ep ep' : RtpEndpoint) : Prop where
  id : ep'.id = ep.id
  media : ep'.media = ep.media
  addr : ep'.latch.localRtpAddr = ep.latch.localRtpAddr
  key : ep.txKeys.Own P → ep'.txKeys.Own P

theorem Carried.refl (P : Primitives) (ep : RtpEndpoint) : Carried P ep ep :=
  ⟨rfl, rfl, rfl, fun h => h⟩

structure Applies (P : Primitives) (now : Nat) (parsed : ParsedSdp) (ep ep' : RtpEndpoint) :
    Prop where
  usable : parsed.Usable P
  lifetime : ep.checkLifetime parsed.crypto = .ok ()
  rx : RxUpdate P now parsed.crypto ep.rxKeys ep'.rxKeys
  latch : ep'.latch =
    (ep.latch.setRemote (ep.latch.rtcpMux || parsed.rtcpMux) parsed).resetAddrLock now
  remoteSsrc : ep'.remoteSsrc = none
  id : ep'.id = ep.id
  key : ep.txKeys.Own P → ep'.txKeys.Own P

theorem installKeys_ok {crypto : Option SdpCrypto}
    (h : ∀ c, crypto = some c → supportedSdesKey P c = true) (ep : RtpEndpoint) (now : Nat)
    (txKey : Vector UInt8 30) :
    ∃ rxKeys txKeys, ep.installKeys P now txKey crypto =
        ({ ep with rxKeys := rxKeys, txKeys := txKeys }, .ok ()) ∧
      RxUpdate P now crypto ep.rxKeys rxKeys ∧ TxUpdate crypto ep.txKeys txKeys ∧
      (ep.txKeys.Own P → txKeys.Own P) := by
  cases crypto with
  | none => exact ⟨_, _, rfl, .none, .kept (Or.inl rfl), fun h => h⟩
  | some c =>
    obtain ⟨material, rxKeys, hd, hin, hi⟩ :=
      RtpRxKeys.install_ok (h c rfl) ep.rxKeys now
    unfold installKeys
    simp only [hin]
    by_cases htx : ep.txKeys.srtpTx.isSome
    · rw [if_pos htx]
      exact ⟨_, _, rfl, .some hd hi, .kept (Or.inr htx), fun h => h⟩
    rw [if_neg htx]
    obtain ⟨txKeys, hk, hp, ho⟩ := ep.txKeys.install_ok P txKey "init"
    simp only [hk]
    exact ⟨_, _, rfl, .some hd hi, .made hp, fun _ => ho⟩

variable {parsed : ParsedSdp}

theorem checkAnswer_ok {valid : List SdpCodec} (h : ep.checkAnswer P parsed = .ok valid) :
    parsed.Usable P ∧ ep.media.validateAnswer parsed = .ok valid ∧
      ep.checkLifetime parsed.crypto = .ok () ∧
      (ep.txKeys.srtpTxKeyB64.isSome = parsed.crypto.isSome ∨
        ep.selectedPlainRtp parsed = true) := by
  unfold checkAnswer at h
  dsimp only at h
  split at h
  · cases h
  rename_i hv
  split at h
  · cases h
  split at h
  · cases h
  split at h
  · cases h
  split at h
  · cases h
  rename_i hm
  split at h
  · cases h
  rename_i hl
  cases h
  refine ⟨ParsedSdp.usable_of_validatePlainTransport hv, hm, hl, ?_⟩
  grind

theorem acceptAnswer_cases (P : Primitives) (ep : RtpEndpoint) (now : Nat)
    (txKey : Vector UInt8 30) (sdp : Text) :
    (∃ e, ep.acceptAnswer P now txKey sdp = (ep, .error e)) ∨
    ∃ ep' valid, ep.acceptAnswer P now txKey sdp = (ep', .ok ()) ∧
      (ep.checkAnswer P (parseSdp P sdp) = .ok valid ∧
        ep'.media = ep.media.setAnswer (parseSdp P sdp) valid) ∧
      ep.Applies P now (parseSdp P sdp) ep' ∧
      (TxUpdate (parseSdp P sdp).crypto ep.txKeys ep'.txKeys ∧
          ep'.srtpOptional = ep.srtpOptional ∧
          ep.txKeys.srtpTxKeyB64.isSome = (parseSdp P sdp).crypto.isSome ∨
        ep.selectedPlainRtp (parseSdp P sdp) = true ∧ ep'.txKeys = {} ∧
          ep'.srtpOptional = false) := by
  unfold acceptAnswer
  dsimp only
  cases hc : ep.checkAnswer P (parseSdp P sdp) with
  | error e => exact Or.inl ⟨e, rfl⟩
  | ok valid =>
    right
    obtain ⟨hu, -, hl, hs⟩ := checkAnswer_ok hc
    by_cases hp : ep.selectedPlainRtp (parseSdp P sdp) = true
    · have hn : (parseSdp P sdp).crypto = none := by
        simp only [selectedPlainRtp, Bool.and_eq_true, Option.isNone_iff_eq_none] at hp
        exact hp.1.1.2
      rw [declineKey, if_pos hp, hn]
      refine ⟨_, valid, rfl, ⟨rfl, rfl⟩, ⟨hu, hl, ?_, rfl, rfl, rfl, fun _ => nofun⟩,
        Or.inr ⟨hp, rfl, rfl⟩⟩
      rw [hn]
      exact .none
    obtain ⟨rxKeys, txKeys, hin, hrx, htx, ho⟩ := installKeys_ok hu.key
      ((ep.setRemote (parseSdp P sdp)).setAnswerMedia (parseSdp P sdp) valid) now txKey
    rw [declineKey, if_neg hp]
    dsimp only
    rw [hin]
    exact ⟨_, valid, rfl, ⟨rfl, rfl⟩, ⟨hu, hl, hrx, rfl, rfl, rfl, ho⟩,
      Or.inl ⟨htx, rfl, hs.resolve_right hp⟩⟩

theorem checkOffer_ok (h : ep.checkOffer P parsed = .ok ()) :
    parsed.Usable P ∧ ep.checkLifetime parsed.crypto = .ok () ∧
      (ep.hasSrtp = true → parsed.crypto.isSome) := by
  unfold checkOffer at h
  split at h
  · cases h
  rename_i hv
  split at h
  · cases h
  rename_i hd
  split at h
  · cases h
  refine ⟨ParsedSdp.usable_of_validatePlainOffer hv, h, fun hs => ?_⟩
  rw [hs] at hd
  simpa [Option.isSome_iff_ne_none] using hd

theorem updateRemoteSdp_cases (P : Primitives) (ep : RtpEndpoint) (now : Nat)
    (txKey : Vector UInt8 30) (sdp : Text) :
    (∃ e, ep.updateRemoteSdp P now txKey sdp = (ep, .error e)) ∨
    ∃ ep' answer, ep.updateRemoteSdp P now txKey sdp = (ep', .ok answer) ∧
      ep.Applies P now (parseSdp P sdp) ep' ∧ ep'.media = ep.media ∧
      TxUpdate (parseSdp P sdp).crypto ep.txKeys ep'.txKeys ∧
      ep'.srtpOptional = ep.srtpOptional ∧
      (ep.hasSrtp = true → (parseSdp P sdp).crypto.isSome) := by
  unfold updateRemoteSdp
  dsimp only
  cases hc : ep.checkOffer P (parseSdp P sdp) with
  | error e => exact Or.inl ⟨e, rfl⟩
  | ok u =>
    right
    obtain ⟨hu, hl, hs⟩ := checkOffer_ok hc
    obtain ⟨rxKeys, txKeys, hin, hrx, htx, ho⟩ := installKeys_ok hu.key
      (ep.setRemote (parseSdp P sdp)) now txKey
    rw [hin]
    obtain ⟨answer, ha⟩ := generateSdpAnswerForOffer_ok hu.selected
      (SocketAddr.new ep.latch.localRtpAddr.ip ep.latch.localRtpAddr.port)
      ep.latch.localRtpAddr.port ep.media.answerCodecs
      (txKeys.srtpTxKeyB64.map fun key => answerCrypto key (parseSdp P sdp).crypto)
      (sessionIdOf ep.id)
    exact ⟨_, answer, congrArg (Prod.mk _) ha, ⟨hu, hl, hrx, rfl, rfl, rfl, ho⟩, rfl, htx, rfl,
      hs⟩

/-- A refused description leaves every field of the endpoint as it was. -/
theorem refused_description_unchanged (P : Primitives) (ep : RtpEndpoint) (now : Nat)
    (txKey : Vector UInt8 30) (sdp : Text) :
    (∀ e, (ep.acceptAnswer P now txKey sdp).2 = .error e →
      (ep.acceptAnswer P now txKey sdp).1 = ep) ∧
    ∀ e, (ep.updateRemoteSdp P now txKey sdp).2 = .error e →
      (ep.updateRemoteSdp P now txKey sdp).1 = ep := by
  constructor
  · intro e h
    rcases ep.acceptAnswer_cases P now txKey sdp with ⟨e', hout⟩ | ⟨ep', valid, hout, -⟩
    · rw [hout]
    · rw [hout] at h
      cases h
  intro e h
  rcases ep.updateRemoteSdp_cases P now txKey sdp with ⟨e', hout⟩ | ⟨ep', answer, hout, -⟩
  · rw [hout]
  · rw [hout] at h
    cases h

/-- A plain answer to an offer with a key, and a description without media. -/
theorem refused_description_unchanged_plain :
    ((sampleOffering .srtp).acceptAnswer .reference 0 (Vector.replicate 30 2) samplePlainSdp).1 =
        sampleOffering .srtp ∧
      ((sampleOffering .srtp).updateRemoteSdp .reference 0 (Vector.replicate 30 2)
        "v=0".toList).1 = sampleOffering .srtp :=
  ⟨(refused_description_unchanged .reference (sampleOffering .srtp) 0 (Vector.replicate 30 2)
      samplePlainSdp).1
        "SDP answer media security does not match the offer (offered SRTP, answered RTP)" rfl,
    (refused_description_unchanged .reference (sampleOffering .srtp) 0 (Vector.replicate 30 2)
      "v=0".toList).2 "SDP must contain an active audio section" rfl⟩

/-! ## Datagrams -/

inductive RtpHandled (P : Primitives) (ep : RtpEndpoint) (now : Nat) (data : Bytes)
    (source : SocketAddr) (receivedAt : Nat) : RtpEndpoint → Option RoutedRtpPacket → Prop where
  | rejected (h : ep.latch.sourceAllowed source receivedAt false = false) :
      RtpHandled P ep now data source receivedAt
        (ep.checkRekeySwitchover now).recordSourceRejection none
  | ignored : RtpHandled P ep now data source receivedAt (ep.checkRekeySwitchover now) none
  | dropped : RtpHandled P ep now data source receivedAt
        { ep.checkRekeySwitchover now with
            rxKeys := ((ep.checkRekeySwitchover now).rxKeys.decryptRtp P data).1 } none
  | accepted {plain : Bytes} {header : RtpHeader}
      (h : ep.latch.sourceAllowed source receivedAt false = true)
      (hp : ((ep.checkRekeySwitchover now).rxKeys.decryptRtp P data).2 = some plain)
      (hh : plainHeader plain = some header) :
      RtpHandled P ep now data source receivedAt
        (({ ep.checkRekeySwitchover now with
              rxKeys := ((ep.checkRekeySwitchover now).rxKeys.decryptRtp P data).1 } :
            RtpEndpoint).acceptRtp now header (header.payload plain) source)
        (some (ep.routedPacket header (header.payload plain)))

theorem handleRtpAt_cases (P : Primitives) (ep : RtpEndpoint) (now : Nat) (data : Bytes)
    (source : SocketAddr) (receivedAt : Nat) :
    RtpHandled P ep now data source receivedAt (ep.handleRtpAt P now data source receivedAt).1
      (ep.handleRtpAt P now data source receivedAt).2 := by
  unfold handleRtpAt
  dsimp only
  split
  · rename_i hs
    exact .rejected hs
  rename_i hs
  split
  · exact .ignored
  split
  · exact .ignored
  split
  · rename_i rxKeys hd
    have hk : ((ep.checkRekeySwitchover now).rxKeys.decryptRtp P data).1 = rxKeys := by
      rw [hd]
    rw [← hk]
    exact .dropped
  rename_i rxKeys plain hd
  have hk : ((ep.checkRekeySwitchover now).rxKeys.decryptRtp P data).1 = rxKeys := by
    rw [hd]
  rw [← hk]
  split
  · exact .dropped
  · rename_i header hh
    exact .accepted (Bool.eq_true_of_not_eq_false hs) (by rw [hd]) hh

inductive RtcpHandled (P : Primitives) (ep : RtpEndpoint) (now unix : Nat) (data : Bytes)
    (source : SocketAddr) (receivedAt : Nat) :
    RtpEndpoint → Option ByePacket → Option Bytes → Prop where
  | rejected (h : ep.latch.sourceAllowed source receivedAt true = false) :
      RtcpHandled P ep now unix data source receivedAt
        (ep.checkRekeySwitchover now).recordSourceRejection none none
  | dropped : RtcpHandled P ep now unix data source receivedAt
        { ep.checkRekeySwitchover now with
            rxKeys := ((ep.checkRekeySwitchover now).rxKeys.decryptRtcp P data).1 } none none
  | accepted {plain : Bytes} (h : ep.latch.sourceAllowed source receivedAt true = true)
      (hp : ((ep.checkRekeySwitchover now).rxKeys.decryptRtcp P data).2 = some plain)
      (hv : validCompound plain = true) :
      RtcpHandled P ep now unix data source receivedAt
        (({ ep.checkRekeySwitchover now with
              rxKeys := ((ep.checkRekeySwitchover now).rxKeys.decryptRtcp P data).1 } :
            RtpEndpoint).acceptRtcp now unix (parseRtcp plain) source)
        (lastBye (parseRtcp plain)) (some plain)

theorem handleRtcpAt_cases (P : Primitives) (ep : RtpEndpoint) (now unix : Nat) (data : Bytes)
    (source : SocketAddr) (receivedAt : Nat) :
    RtcpHandled P ep now unix data source receivedAt
      (ep.handleRtcpAt P now unix data source receivedAt).1
      (ep.handleRtcpAt P now unix data source receivedAt).2.1
      (ep.handleRtcpAt P now unix data source receivedAt).2.2 := by
  unfold handleRtcpAt
  dsimp only
  split
  · rename_i hs
    exact .rejected hs
  rename_i hs
  split
  · rename_i rxKeys hd
    have hk : ((ep.checkRekeySwitchover now).rxKeys.decryptRtcp P data).1 = rxKeys := by
      rw [hd]
    rw [← hk]
    exact .dropped
  rename_i rxKeys plain hd
  have hk : ((ep.checkRekeySwitchover now).rxKeys.decryptRtcp P data).1 = rxKeys := by
    rw [hd]
  rw [← hk]
  split
  · exact .dropped
  rename_i hv
  exact .accepted (Bool.eq_true_of_not_eq_false hs) (by rw [hd])
    (Bool.eq_true_of_not_eq_false hv)

/-! ## Everything else -/

structure Quiet (P : Primitives) (ep ep' : RtpEndpoint) : Prop where
  id : ep'.id = ep.id
  media : ep'.media = ep.media
  rxKeys : ep'.rxKeys = ep.rxKeys
  latch : ep'.latch = ep.latch
  remoteSsrc : ep'.remoteSsrc = ep.remoteSsrc
  srtpOptional : ep'.srtpOptional = ep.srtpOptional
  txKeys : ep.txKeys.Kept P ep'.txKeys

structure Silent (P : Primitives) (ep ep' : RtpEndpoint) : Prop extends Quiet P ep ep' where
  state : ep'.state = ep.state
  direction : ep'.direction = ep.direction

theorem silent_of_kept (ep : RtpEndpoint) {stats : EndpointStats} {txKeys : RtpTxKeys}
    {outbound : RtpOutbound} {rtcpStats : RtcpStats} {lastRtcpSent : Nat}
    (h : ep.txKeys.Kept P txKeys) : ep.Silent P
      { ep with stats := stats, txKeys := txKeys, outbound := outbound, rtcpStats := rtcpStats,
                lastRtcpSent := lastRtcpSent } :=
  ⟨⟨rfl, rfl, rfl, rfl, rfl, rfl, h⟩, rfl, rfl⟩

section

variable (P : Primitives) (ep : RtpEndpoint)

theorem srtpRekey_silent (key : Vector UInt8 30) : ep.Silent P (ep.srtpRekey P key).1 := by
  unfold srtpRekey
  by_cases hn : ep.txKeys.srtpTx.isNone
  · rw [if_pos hn]
    exact ep.silent_of_kept .refl
  rw [if_neg hn]
  obtain ⟨txKeys, hin, hp, ho⟩ := ep.txKeys.install_ok P key "rekey"
  simp only [hin]
  have hs : ep.txKeys.srtpTx.isSome = true := by
    simpa [Option.isSome_iff_ne_none] using hn
  exact ep.silent_of_kept ⟨hp.srtp.trans hs.symm, fun _ => hp.srtcp, fun _ => hp.key, fun _ => ho⟩

theorem writeRtp_silent (packet : RoutedRtpPacket)
    (sendResult : Except String Unit) : ep.Silent P (ep.writeRtp P packet sendResult).1 := by
  unfold writeRtp
  split
  · exact ep.silent_of_kept .refl
  split
  · exact ep.silent_of_kept .refl
  dsimp only
  split
  · exact ep.silent_of_kept .refl
  · rename_i ctx hc
    split <;>
      exact ep.silent_of_kept ⟨by rw [hc]; rfl, fun h => h, fun h => h, fun h => h⟩

theorem maybeSendRtcp_silent (now unix : Nat) (sendResult : Except String Unit) :
    ep.Silent P (ep.maybeSendRtcp P now unix sendResult).1 := by
  unfold maybeSendRtcp
  split
  · split
    · exact ep.silent_of_kept .refl
    dsimp only
    split
    · split <;> exact ep.silent_of_kept .refl
    split
    · exact ep.silent_of_kept ⟨rfl, fun _ => rfl, fun h => h, fun h => h⟩
    · split <;> exact ep.silent_of_kept ⟨rfl, fun _ => rfl, fun h => h, fun h => h⟩
  · exact ep.silent_of_kept .refl

end

inductive Stepped (P : Primitives) (ep : RtpEndpoint) (ev : RtpEvent) :
    RtpEndpoint → RtpOutcome → Prop where
  | refused {e : String} (out : RtpOutcome)
      (h : out = .answered (.error e) ∨ out = .described (.error e)) : Stepped P ep ev ep out
  | answered {sdp : Text} {txKey : Vector UInt8 30} {ep' : RtpEndpoint}
      (hc : ev.call = .acceptAnswer sdp txKey)
      (h : ep.Applies P ev.now (parseSdp P sdp) ep')
      (htx : TxUpdate (parseSdp P sdp).crypto ep.txKeys ep'.txKeys ∧
          ep'.srtpOptional = ep.srtpOptional ∧
          ep.txKeys.srtpTxKeyB64.isSome = (parseSdp P sdp).crypto.isSome ∨
        ep.selectedPlainRtp (parseSdp P sdp) = true ∧ ep'.txKeys = {} ∧
          ep'.srtpOptional = false)
      {valid : List SdpCodec} (hv : ep.checkAnswer P (parseSdp P sdp) = .ok valid)
      (hm : ep'.media = ep.media.setAnswer (parseSdp P sdp) valid) :
      Stepped P ep ev ep' (.answered (.ok ()))
  | described {sdp : Text} {txKey : Vector UInt8 30} {ep' : RtpEndpoint} {answer : Text}
      (hc : ev.call = .updateRemoteSdp sdp txKey)
      (h : ep.Applies P ev.now (parseSdp P sdp) ep')
      (htx : TxUpdate (parseSdp P sdp).crypto ep.txKeys ep'.txKeys)
      (ho : ep'.srtpOptional = ep.srtpOptional)
      (hs : ep.hasSrtp = true → (parseSdp P sdp).crypto.isSome) (hm : ep'.media = ep.media) :
      Stepped P ep ev ep' (.described (.ok answer))
  | switchover (hc : ev.call = .checkRekeySwitchover) :
      Stepped P ep ev (ep.checkRekeySwitchover ev.now) .none
  | reset (hc : ev.call = .resetAddrLock) : Stepped P ep ev (ep.resetAddrLock ev.now) .none
  | rtp {data : Bytes} {source : SocketAddr} {receivedAt : Nat} {ep' : RtpEndpoint}
      {packet : Option RoutedRtpPacket} (hc : ev.call = .handleRtpAt data source receivedAt)
      (h : RtpHandled P ep ev.now data source receivedAt ep' packet) :
      Stepped P ep ev ep' (.routed packet)
  | rtcp {data : Bytes} {source : SocketAddr} {receivedAt : Nat} {ep' : RtpEndpoint}
      {bye : Option ByePacket} {plain : Option Bytes}
      (hc : ev.call = .handleRtcpAt data source receivedAt)
      (h : RtcpHandled P ep ev.now ev.unix data source receivedAt ep' bye plain) :
      Stepped P ep ev ep' (.control bye plain)
  | rekeyed {ep' : RtpEndpoint} {key : Vector UInt8 30} {result : Except String Text}
      (hc : ev.call = .srtpRekey key) (h : ep.Silent P ep') :
      Stepped P ep ev ep' (.described result)
  | wrote {ep' : RtpEndpoint} {w : Written} (h : ep.Silent P ep') :
      Stepped P ep ev ep' (.written w)
  | adjusted {ep' : RtpEndpoint} (hc : ev.call ≠ .resetAddrLock ∧ ev.call.isMedia = false)
      (h : ep.Quiet P ep') : Stepped P ep ev ep' .none

theorem step_cases (P : Primitives) (ep : RtpEndpoint) (ev : RtpEvent) :
    Stepped P ep ev (ep.step P ev).1 (ep.step P ev).2 := by
  unfold step
  cases hc : ev.call with
  | acceptAnswer sdp txKey =>
    rcases ep.acceptAnswer_cases P ev.now txKey sdp with
      ⟨e, h⟩ | ⟨ep', valid, h, ⟨hv, hm⟩, ha, htx⟩
    · simp only [h]
      exact .refused _ (Or.inl rfl)
    · simp only [h]
      exact .answered hc ha htx hv hm
  | updateRemoteSdp sdp txKey =>
    rcases ep.updateRemoteSdp_cases P ev.now txKey sdp with
      ⟨e, h⟩ | ⟨ep', answer, h, ha, hm, htx, ho, hs⟩
    · simp only [h]
      exact .refused _ (Or.inr rfl)
    · simp only [h]
      exact .described hc ha htx ho hs hm
  | srtpRekey key => exact .rekeyed hc (ep.srtpRekey_silent P key)
  | checkRekeySwitchover => exact .switchover hc
  | setDirectionOverride update =>
    exact .adjusted (by rw [hc]; exact ⟨nofun, rfl⟩) ⟨rfl, rfl, rfl, rfl, rfl, rfl, .refl⟩
  | bumpOutboundSsrc ssrc seq timestamp =>
    exact .adjusted (by rw [hc]; exact ⟨nofun, rfl⟩) ⟨rfl, rfl, rfl, rfl, rfl, rfl, .refl⟩
  | resetAddrLock => exact .reset hc
  | handleRtpAt data source receivedAt =>
    exact .rtp hc (ep.handleRtpAt_cases P ev.now data source receivedAt)
  | handleRtcpAt data source receivedAt =>
    exact .rtcp hc (ep.handleRtcpAt_cases P ev.now ev.unix data source receivedAt)
  | writeRtp packet sendResult => exact .wrote (ep.writeRtp_silent P packet sendResult)
  | maybeSendRtcp sendResult =>
    exact .wrote (ep.maybeSendRtcp_silent P ev.now ev.unix sendResult)

/-! ## What every step keeps -/

theorem acceptRtp_addr (latch : RtpLatch) (source : SocketAddr) :
    (latch.acceptRtp source).localRtpAddr = latch.localRtpAddr := by
  unfold RtpLatch.acceptRtp RtpLatch.latchRemoteAddr
  split <;> rfl

theorem acceptRtcp_addr (latch : RtpLatch) (source : SocketAddr) :
    (latch.acceptRtcp source).localRtpAddr = latch.localRtpAddr := by
  unfold RtpLatch.acceptRtcp
  dsimp only
  split <;> rfl

variable {ep' : RtpEndpoint}

theorem Quiet.carried (h : ep.Quiet P ep') : Carried P ep ep' :=
  ⟨h.id, h.media, congrArg RtpLatch.localRtpAddr h.latch, h.txKeys.own⟩

theorem Applies.addr {now : Nat} (h : ep.Applies P now parsed ep') :
    ep'.latch.localRtpAddr = ep.latch.localRtpAddr := by
  rw [h.latch]
  rfl

/-- Only an accepted answer changes the media of an endpoint. -/
inductive MediaStep (P : Primitives) (ep : RtpEndpoint) (ev : RtpEvent) :
    RtpEndpoint → RtpOutcome → Prop where
  | kept {ep' : RtpEndpoint} {out : RtpOutcome} (h : Carried P ep ep')
      (ho : out ≠ .answered (.ok ())) : MediaStep P ep ev ep' out
  | answered {sdp : Text} {txKey : Vector UInt8 30} {valid : List SdpCodec} {ep' : RtpEndpoint}
      (hc : ev.call = .acceptAnswer sdp txKey)
      (hv : ep.checkAnswer P (parseSdp P sdp) = .ok valid)
      (h : Carried P { ep with media := ep.media.setAnswer (parseSdp P sdp) valid } ep') :
      MediaStep P ep ev ep' (.answered (.ok ()))

theorem step_media (P : Primitives) (ep : RtpEndpoint) (ev : RtpEvent) :
    MediaStep P ep ev (ep.step P ev).1 (ep.step P ev).2 := by
  have h := ep.step_cases P ev
  generalize ep.step P ev = result at h
  obtain ⟨ep', out⟩ := result
  cases h with
  | refused out ho => exact .kept (.refl P _) (by rcases ho with rfl | rfl <;> nofun)
  | answered hc ha _ hv hm => exact .answered hc hv ⟨ha.id, hm, ha.addr, ha.key⟩
  | described hc ha _ _ _ hm => exact .kept ⟨ha.id, hm, ha.addr, ha.key⟩ nofun
  | switchover | reset => exact .kept ⟨rfl, rfl, rfl, fun h => h⟩ nofun
  | rtp hc h =>
    cases h with
    | rejected | ignored | dropped => exact .kept ⟨rfl, rfl, rfl, fun h => h⟩ nofun
    | accepted => exact .kept ⟨rfl, rfl, acceptRtp_addr .., fun h => h⟩ nofun
  | rtcp hc h =>
    cases h with
    | rejected | dropped => exact .kept ⟨rfl, rfl, rfl, fun h => h⟩ nofun
    | accepted => exact .kept ⟨rfl, rfl, acceptRtcp_addr .., fun h => h⟩ nofun
  | rekeyed hc h | adjusted hc h => exact .kept h.carried nofun
  | wrote h => exact .kept h.carried nofun

def appliedSdp (x : RtpEvent × RtpOutcome) : Option Text :=
  match x.1.call, x.2 with
  | .acceptAnswer sdp _, .answered (.ok _) => some sdp
  | .updateRemoteSdp sdp _, .described (.ok _) => some sdp
  | _, _ => none

/-! ## The receiving keys -/

inductive RxStep (P : Primitives) (ev : RtpEvent) (keys : RtpRxKeys) : RtpRxKeys → Prop where
  | same : RxStep P ev keys keys
  | switchover : RxStep P ev keys (keys.checkRekeySwitchover ev.now)
  | described {sdp : Text} {keys' : RtpRxKeys} (hc : ev.call.sdp? = some sdp)
      (hl : ∀ crypto, (parseSdp P sdp).crypto = some crypto →
        keys.validateRemoteSrtpLifetimeUpdate crypto = .ok ())
      (h : RxUpdate P ev.now (parseSdp P sdp).crypto keys keys') : RxStep P ev keys keys'
  | rtp {data : Bytes} {source : SocketAddr} {receivedAt : Nat}
      (hc : ev.call = .handleRtpAt data source receivedAt) :
      RxStep P ev keys ((keys.checkRekeySwitchover ev.now).decryptRtp P data).1
  | rtcp {data : Bytes} {source : SocketAddr} {receivedAt : Nat}
      (hc : ev.call = .handleRtcpAt data source receivedAt) :
      RxStep P ev keys ((keys.checkRekeySwitchover ev.now).decryptRtcp P data).1

theorem Applies.rxStep {sdp : Text} (h : ep.Applies P ev.now (parseSdp P sdp) ep')
    (hca : ev.call.sdp? = some sdp) :
    RxStep P ev ep.rxKeys ep'.rxKeys := by
  refine .described hca ?_ h.rx
  intro crypto hc
  have hl := h.lifetime
  rw [hc] at hl
  exact hl

theorem Stepped.rxStep {out : RtpOutcome} (h : Stepped P ep ev ep' out) :
    RxStep P ev ep.rxKeys ep'.rxKeys := by
  cases h with
  | refused out h => exact .same
  | answered hc h htx => exact h.rxStep (by rw [hc]; rfl)
  | described hc h htx ho hs => exact h.rxStep (by rw [hc]; rfl)
  | switchover hc => exact .switchover
  | reset hc => exact .same
  | rtp hc h =>
    cases h with
    | rejected h => exact .switchover
    | ignored => exact .switchover
    | dropped => exact .rtp hc
    | accepted h hp hh => exact .rtp hc
  | rtcp hc h =>
    cases h with
    | rejected h => exact .switchover
    | dropped => exact .rtcp hc
    | accepted h hp hv => exact .rtcp hc
  | rekeyed hc h => exact h.rxKeys ▸ .same
  | wrote h => exact h.rxKeys ▸ .same
  | adjusted hc h => exact h.rxKeys ▸ .same

theorem step_rxKeys (P : Primitives) (ep : RtpEndpoint) (ev : RtpEvent) :
    RxStep P ev ep.rxKeys (ep.step P ev).1.rxKeys :=
  (step_cases P ep ev).rxStep

theorem call_of_packet {packet : RoutedRtpPacket} (ho : (ep.step P ev).2.packet? = some packet) :
    ∃ data source receivedAt, ev.call = .handleRtpAt data source receivedAt := by
  cases hc : ev.call with
  | handleRtpAt data source receivedAt => exact ⟨data, source, receivedAt, rfl⟩
  | _ =>
    simp only [step, hc] at ho
    cases ho

theorem call_of_rtcp (ho : (ep.step P ev).2.rtcp? = some plain) :
    ∃ data source receivedAt, ev.call = .handleRtcpAt data source receivedAt := by
  cases hc : ev.call with
  | handleRtcpAt data source receivedAt => exact ⟨data, source, receivedAt, rfl⟩
  | _ =>
    simp only [step, hc] at ho
    cases ho

theorem decrypted_of_packet {source : SocketAddr} {receivedAt : Nat} {packet : RoutedRtpPacket}
    (hca : ev.call = .handleRtpAt data source receivedAt)
    (ho : (ep.step P ev).2.packet? = some packet) :
    ep.latch.sourceAllowed source receivedAt false = true ∧
      (∃ plain, ((ep.rxKeys.checkRekeySwitchover ev.now).decryptRtp P data).2 = some plain) ∧
      (ep.step P ev).1.rxKeys = ((ep.rxKeys.checkRekeySwitchover ev.now).decryptRtp P data).1 := by
  simp only [step, hca] at ho ⊢
  generalize hr : ep.handleRtpAt P ev.now data source receivedAt = result at ho ⊢
  obtain ⟨ep', packet'⟩ := result
  have hc := ep.handleRtpAt_cases P ev.now data source receivedAt
  rw [hr] at hc
  cases hc with
  | rejected h => cases ho
  | ignored => cases ho
  | dropped => cases ho
  | accepted h hp hh => exact ⟨h, ⟨_, hp⟩, rfl⟩

theorem decrypted_of_rtcp {source : SocketAddr} {receivedAt : Nat}
    (hca : ev.call = .handleRtcpAt data source receivedAt)
    (ho : (ep.step P ev).2.rtcp? = some plain) :
    ep.latch.sourceAllowed source receivedAt true = true ∧
      ((ep.rxKeys.checkRekeySwitchover ev.now).decryptRtcp P data).2 = some plain ∧
      (ep.step P ev).1.rxKeys = ((ep.rxKeys.checkRekeySwitchover ev.now).decryptRtcp P data).1 := by
  simp only [step, hca] at ho ⊢
  generalize hr : ep.handleRtcpAt P ev.now ev.unix data source receivedAt = result at ho ⊢
  obtain ⟨ep', bye', plain'⟩ := result
  have hc := ep.handleRtcpAt_cases P ev.now ev.unix data source receivedAt
  rw [hr] at hc
  cases hc with
  | rejected h => cases ho
  | dropped => cases ho
  | accepted h hp hv =>
    cases ho
    exact ⟨h, hp, rfl⟩

theorem verified_of_decryptRtp {keys : RtpRxKeys} {now : Nat} (ha : keys.hasSrtp = true)
    (h : ((keys.checkRekeySwitchover now).decryptRtp P data).2 = some plain) :
    ∃ ctx ∈ (keys.checkRekeySwitchover now).srtp, ctx.Verifies P (ctx.estimate data).1 data := by
  obtain ⟨ctx, hc, hp⟩ := Switchover.accepted_by h
    (keys.hasSrtp_checkRekeySwitchover now |>.trans ha)
  exact ⟨ctx, hc, SrtpContext.verifies_of_unprotect P hp⟩

theorem verified_of_decryptRtcp {keys : RtpRxKeys} {now : Nat} (ha : keys.srtcp.active = true)
    (h : ((keys.checkRekeySwitchover now).decryptRtcp P data).2 = some plain) :
    ∃ ctx ∈ (keys.checkRekeySwitchover now).srtcp, ctx.Verifies P data := by
  obtain ⟨ctx, hc, hp⟩ := Switchover.accepted_by h
    (keys.srtcp_active_checkRekeySwitchover now |>.trans ha)
  exact ⟨ctx, hc, SrtcpContext.verifies_of_unprotectRtcp P hp⟩

/-! ## Creation -/

def firstKeys (P : Primitives) (crypto : SdpCrypto) (material : Bytes) : RtpRxKeys :=
  let lifetime := remoteSrtpPacketLifetime crypto
  { srtp := { rx := some (SrtpContext.ofKeyMaterial P material lifetime) },
    srtcp := { rx := some (SrtcpContext.ofKeyMaterial P material lifetime) },
    srtpRxKeyB64 := some crypto.keyB64 }

/-- An endpoint as it is created: no switchover, no peer heard, and either no keys
at all, our own key only, or a key for each direction. -/
structure Initial (P : Primitives) (ep : RtpEndpoint) : Prop where
  remoteSsrc : ep.remoteSsrc = none
  unlocked : ep.latch.addrLocked = false ∧ ep.latch.rtcpAddrLocked = false
  sameReset : ep.latch.rtcpLatchResetAt = ep.latch.rtpLatchResetAt
  mux : ep.latch.rtcpMux = true → ep.latch.remoteRtpAddr = ep.latch.remoteRtcpAddr
  keys : ep.rxKeys = {} ∧ (ep.txKeys = {} ∨ ep.txKeys.Present) ∨
    ep.txKeys.Present ∧ ∃ crypto material, base64Decode P crypto.keyB64 = .ok material ∧
      ep.rxKeys = firstKeys P crypto material

theorem createOffer_ok {setup : RtpSetup} {bindIp : IpAddr} {codecs : List SdpCodec}
    {security : RtpMediaSecurity} {offer : Text}
    (h : createOffer P setup bindIp codecs security = .ok (ep, offer)) :
    (ep.id = setup.id ∧ ep.media = RtpMedia.forOffer codecs) ∧
      ep.latch = (RtpEndpoint.new setup).latch ∧ ep.rxKeys = {} ∧ ep.remoteSsrc = none ∧
      (security = .plainRtp ∧ ep.txKeys = {} ∨ security ≠ .plainRtp ∧ ep.txKeys.Present) ∧
      (ep.srtpOptional = true ↔ security = .optionalSrtp) := by
  unfold createOffer at h
  by_cases hp : security = .plainRtp
  · rw [if_pos hp] at h
    cases h
    refine ⟨⟨rfl, rfl⟩, rfl, rfl, rfl, Or.inl ⟨hp, rfl⟩, ?_⟩
    subst hp
    exact ⟨fun h => (Bool.false_ne_true h).elim, fun h => nomatch h⟩
  rw [if_neg hp] at h
  obtain ⟨txKeys, hin, hpr, -⟩ :=
    RtpTxKeys.install_ok P (RtpEndpoint.new setup).txKeys setup.keyBytes "init"
  rw [hin] at h
  cases h
  exact ⟨⟨rfl, rfl⟩, rfl, rfl, rfl, Or.inr ⟨hp, hpr⟩, beq_iff_eq⟩

theorem offerKeys_ok {crypto : SdpCrypto} (hk : supportedSdesKey P crypto = true)
    (ep : RtpEndpoint) (setup : RtpSetup) (hrx : ep.rxKeys = {}) :
    ∃ material txKeys keyB64, base64Decode P crypto.keyB64 = .ok material ∧
      ep.offerKeys P setup crypto = .ok (firstKeys P crypto material, txKeys, keyB64) ∧
      txKeys.Present := by
  obtain ⟨material, hd, hc⟩ := RtpRxKeys.remoteSrtpContexts_ok hk
  obtain ⟨txKeys, hin, hp, -⟩ := ep.txKeys.install_ok P setup.keyBytes "init"
  refine ⟨material, txKeys, P.base64Encode setup.keyBytes.toList, hd, ?_, hp⟩
  unfold offerKeys
  rw [hc, hin, hrx]
  rfl

theorem fromOfferWithCodec_ok {setup : RtpSetup} {bindIp : IpAddr} {offer : Text}
    {codec : Option Text} {answer : Text}
    (h : fromOfferWithCodec P setup bindIp offer codec = .ok (ep, answer)) :
    (ep.id = setup.id ∧ RtpMedia.ofOffer (parseSdp P offer) codec = .ok ep.media) ∧
      (parseSdp P offer).Usable P ∧
      ep.latch = (RtpEndpoint.new setup).latch.setRemote (parseSdp P offer).rtcpMux
        (parseSdp P offer) ∧
      ep.remoteSsrc = none ∧
      (ep.rxKeys = {} ∧ ep.txKeys = {} ∧ (parseSdp P offer).crypto = none ∨
        ep.txKeys.Present ∧ ∃ crypto material, (parseSdp P offer).crypto = some crypto ∧
          base64Decode P crypto.keyB64 = .ok material ∧
          ep.rxKeys = firstKeys P crypto material) := by
  unfold fromOfferWithCodec at h
  dsimp only at h
  split at h
  · cases h
  rename_i hv
  have hu := ParsedSdp.usable_of_validatePlainOffer hv
  split at h
  · cases h
  rename_i media hm
  cases hc : (parseSdp P offer).crypto with
  | none =>
    rw [hc] at h
    dsimp only at h
    split at h
    · cases h
    · cases h
      exact ⟨⟨rfl, hm⟩, hu, rfl, rfl, Or.inl ⟨rfl, rfl, rfl⟩⟩
  | some crypto =>
    rw [hc] at h
    dsimp only at h
    obtain ⟨material, txKeys, keyB64, hd, hk, hp⟩ :=
      offerKeys_ok (hu.key crypto hc)
        { RtpEndpoint.new setup with
            latch := (RtpEndpoint.new setup).latch.setRemote (parseSdp P offer).rtcpMux
              (parseSdp P offer),
            direction := (RtpEndpoint.new setup).direction.setRemote
              (parseSdp P offer).direction,
            media := media } setup rfl
    rw [hk] at h
    dsimp only at h
    split at h
    · cases h
    · cases h
      exact ⟨⟨rfl, hm⟩, hu, rfl, rfl, Or.inr ⟨hp, crypto, material, rfl, hd, rfl⟩⟩

theorem Created.initial (h : Created P ep) : Initial P ep := by
  cases h with
  | withOffer networks h =>
    obtain ⟨-, hl, hrx, hs, htx, -⟩ := createOffer_ok h
    refine ⟨hs, ?_, ?_, ?_, Or.inl ⟨hrx, ?_⟩⟩
    · simp [withSourceNetworks, hl, RtpEndpoint.new]
    · simp [withSourceNetworks, hl, RtpEndpoint.new]
    · simp [withSourceNetworks, hl, RtpEndpoint.new]
    rcases htx with ⟨-, hn⟩ | ⟨-, hp⟩
    · exact Or.inl hn
    · exact Or.inr hp
  | fromOffer networks h =>
    obtain ⟨-, hu, hl, hs, hk⟩ := fromOfferWithCodec_ok h
    refine ⟨hs, ?_, ?_, ?_, ?_⟩
    · simp [withSourceNetworks, hl, RtpEndpoint.new, RtpLatch.setRemote]
    · simp [withSourceNetworks, hl, RtpEndpoint.new, RtpLatch.setRemote]
    · grind [hu.addr, withSourceNetworks, RtpLatch.setRemote]
    rcases hk with ⟨hrx, htx, -⟩ | ⟨hp, crypto, material, -, hd, hrx⟩
    · exact Or.inl ⟨hrx, Or.inl htx⟩
    · exact Or.inr ⟨hp, crypto, material, hd, hrx⟩

end RtpEndpoint

/-! ## The codecs of an answered offer -/

theorem take_eventMapping {codecs : List SdpCodec} {t : SdpCodec} (ht : t ∈ codecs)
    (hu : ∀ c ∈ codecs, c.pt = t.pt → c = t) :
    (codecs.filter fun c => some t.pt == some c.pt).take 1 = [t] := by
  have hm : t ∈ codecs.filter fun c => some t.pt == some c.pt :=
    List.mem_filter.mpr ⟨ht, beq_self_eq_true _⟩
  cases hf : codecs.filter fun c => some t.pt == some c.pt with
  | nil =>
    rw [hf] at hm
    cases hm
  | cons d rest =>
    have hd : d ∈ codecs.filter fun c => some t.pt == some c.pt := by
      rw [hf]
      exact List.mem_cons_self
    grind

theorem ofOffer_codecs {sdp : Text} {codec : Option Text} {media : RtpMedia}
    (h : RtpMedia.ofOffer (parseSdp P sdp) codec = .ok media) :
    ∃ telephone, media.codecs = media.sendCodec.toList ++ telephone.toList ∧
      media.telephoneEventPt = telephone.map SdpCodec.pt ∧
      (∀ c, media.sendCodec = some c → c ∈ (parseSdp P sdp).codecs ∧ c.isTelephoneEvent = false) ∧
      (∀ c, telephone = some c → c ∈ (parseSdp P sdp).codecs ∧ c.isTelephoneEvent = true) ∧
      (telephone = none → ∀ c ∈ (parseSdp P sdp).codecs, c.isTelephoneEvent = false) := by
  unfold RtpMedia.ofOffer at h
  dsimp only at h
  split at h
  · cases h
  rename_i sendCodec hs
  have hse : ∀ c, sendCodec = some c →
      c ∈ (parseSdp P sdp).codecs ∧ c.isTelephoneEvent = false := by
    intro c hc
    subst hc
    cases codec with
    | none => exact selectAnswerCodec_some (Except.ok.inj hs)
    | some name => grind
  cases h
  refine ⟨_, ?_, rfl, hse, fun c => selectTelephoneEventCodec_some, selectTelephoneEventCodec_none⟩
  dsimp only
  congr 1
  cases hte : selectTelephoneEventCodec (parseSdp P sdp).codecs
      ((sendCodec.map SdpCodec.clockRate).getD 8000) with
  | none => simp
  | some t =>
    have ht := (selectTelephoneEventCodec_some hte).1
    exact take_eventMapping ht fun c hc => parseSdp_codec_unique hc ht

end RtpBridge.Session
