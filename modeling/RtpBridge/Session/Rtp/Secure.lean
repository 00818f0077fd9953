/-
SRTP is not dropped on the way.
-/
import RtpBridge.Media.Srtp.Replay
import RtpBridge.Session.Rtp.Steps

namespace RtpBridge.Session

open Srtp Sdp Rtp Rtcp Wire Machine

variable {P : Primitives} {now : Nat} {keys keys' : RtpRxKeys}

namespace RtpRxKeys

section

variable (P : Primitives) (keys : RtpRxKeys) (data : Bytes)

@[simp] theorem hasSrtp_decryptRtp : (keys.decryptRtp P data).1.hasSrtp = keys.hasSrtp :=
  (Switchover.receives (SrtpContext.unprotect P) keys.srtp data).active

@[simp] theorem srtcp_active_decryptRtcp :
    (keys.decryptRtcp P data).1.srtcp.active = keys.srtcp.active :=
  (Switchover.receives (SrtcpContext.unprotectRtcp P) keys.srtcp data).active

@[simp] theorem srtcp_decryptRtp : (keys.decryptRtp P data).1.srtcp = keys.srtcp := rfl

@[simp] theorem hasSrtp_decryptRtcp : (keys.decryptRtcp P data).1.hasSrtp = keys.hasSrtp := rfl

end

def Paired (keys : RtpRxKeys) : Prop := keys.srtcp.active = keys.hasSrtp

theorem Installs.hasSrtp {crypto : SdpCrypto} {material : Bytes}
    (h : Installs P now crypto material keys keys') :
    keys'.hasSrtp = true := by
  cases h with
  | first hrx => rfl
  | rekey hrx hk => exact Bool.or_true _
  | same hrx hk =>
    show (keys.srtp.mapNewest _).active = true
    rw [Switchover.active_mapNewest, Switchover.active, hrx, Bool.true_or]

theorem Installs.paired {crypto : SdpCrypto} {material : Bytes}
    (h : Installs P now crypto material keys keys') (hp : keys.Paired) : keys'.Paired := by
  have ha := h.hasSrtp
  unfold Paired
  rw [ha]
  cases h with
  | first hrx => rfl
  | rekey hrx hk => exact Bool.or_true _
  | same hrx hk =>
    show (keys.srtcp.mapNewest _).active = true
    rw [Switchover.active_mapNewest, hp]
    exact (Switchover.active_mapNewest _ keys.srtp).symm.trans ha

end RtpRxKeys

theorem RxUpdate.hasSrtp {crypto : Option SdpCrypto} (h : RxUpdate P now crypto keys keys') :
    keys'.hasSrtp = (keys.hasSrtp || crypto.isSome) := by
  cases h with
  | none => exact (Bool.or_false _).symm
  | some hd hi => rw [hi.hasSrtp, Option.isSome_some, Bool.or_true]

theorem RxUpdate.paired {crypto : Option SdpCrypto} (h : RxUpdate P now crypto keys keys')
    (hp : keys.Paired) :
    keys'.Paired := by
  cases h with
  | none => exact hp
  | some hd hi => exact hi.paired hp

namespace RtpEndpoint

variable {ep ep' : RtpEndpoint} {P : Primitives} {ev : RtpEvent}

theorem RxStep.paired (h : RxStep P ev keys keys') (hp : keys.Paired) :
    keys'.Paired := by
  cases h with
  | same => exact hp
  | switchover => simpa [RtpRxKeys.Paired] using hp
  | described hc hl h => exact h.paired hp
  | rtp hc => simpa [RtpRxKeys.Paired] using hp
  | rtcp hc => simpa [RtpRxKeys.Paired] using hp

theorem RxStep.hasSrtp (h : RxStep P ev keys keys') (ha : keys.hasSrtp = true) :
    keys'.hasSrtp = true := by
  cases h with
  | same => exact ha
  | switchover => simpa using ha
  | described hc hl h => rw [h.hasSrtp, ha, Bool.true_or]
  | rtp hc => simpa using ha
  | rtcp hc => simpa using ha

/-! ## An active endpoint stays active -/

structure TxKept (ep ep' : RtpEndpoint) : Prop where
  present : ep.txKeys.Present → ep'.txKeys.Present
  srtpTx : ep'.txKeys.srtpTx.isSome → ep.txKeys.srtpTx.isSome
  active : ep'.hasSrtp = true → ep.hasSrtp = true ∨ ep.txKeys.srtpTx.isSome

theorem TxKept.of_eq (htx : ep'.txKeys = ep.txKeys) (hrx : ep'.hasSrtp = ep.hasSrtp) :
    TxKept ep ep' := by
  constructor
  · rw [htx]
    exact fun h => h
  · rw [htx]
    exact fun h => h
  · rw [hrx]
    exact Or.inl

theorem Quiet.txKept (h : ep.Quiet P ep') : TxKept ep ep' := by
  have hk := h.txKeys
  refine ⟨fun hp => ⟨hk.srtp ▸ hp.srtp, hk.srtcp hp.srtcp, hk.key hp.key⟩, ?_, ?_⟩
  · exact fun hs => hk.srtp ▸ hs
  intro hs
  rw [RtpEndpoint.hasSrtp, h.rxKeys] at hs
  exact Or.inl hs

theorem txKept_or_present {crypto : Option SdpCrypto}
    (hrx : RxUpdate P now crypto ep.rxKeys ep'.rxKeys)
    (htx : TxUpdate crypto ep.txKeys ep'.txKeys) :
    TxKept ep ep' ∨ ep'.txKeys.Present := by
  have ha : ep'.hasSrtp = (ep.hasSrtp || crypto.isSome) := hrx.hasSrtp
  generalize hk : ep'.txKeys = txKeys at htx
  cases htx with
  | made h => exact Or.inr h
  | kept h =>
    refine Or.inl ⟨fun hp => hk ▸ hp, fun hs => hk ▸ hs, fun hs => ?_⟩
    grind

theorem Stepped.txKeys {out : RtpOutcome} (h : Stepped P ep ev ep' out) :
    TxKept ep ep' ∨ ep'.txKeys.Present ∨ ep'.hasSrtp = false ∧ ep'.txKeys = {} := by
  cases h with
  | refused out h => exact Or.inl (.of_eq rfl rfl)
  | answered hca h htx =>
    rcases htx with ⟨htx, -, -⟩ | ⟨hp, htx, -⟩
    · exact (txKept_or_present h.rx htx).imp_right Or.inl
    have ha : ep'.hasSrtp = (ep.hasSrtp || _) := h.rx.hasSrtp
    simp only [selectedPlainRtp, Bool.and_eq_true, Bool.not_eq_true',
      Option.isNone_iff_eq_none] at hp
    rw [hp.2, hp.1.1.2] at ha
    exact Or.inr (Or.inr ⟨ha, htx⟩)
  | described hca h htx ho hs => exact (txKept_or_present h.rx htx).imp_right Or.inl
  | switchover hca =>
    exact Or.inl (.of_eq rfl (RtpRxKeys.hasSrtp_checkRekeySwitchover _ _))
  | reset hca => exact Or.inl (.of_eq rfl rfl)
  | rtp hca h =>
    have hc := ep.rxKeys.hasSrtp_checkRekeySwitchover ev.now
    cases h with
    | rejected h => exact Or.inl (.of_eq rfl hc)
    | ignored => exact Or.inl (.of_eq rfl hc)
    | dropped => exact Or.inl (.of_eq rfl ((RtpRxKeys.hasSrtp_decryptRtp P _ _).trans hc))
    | accepted h hp hh =>
      exact Or.inl (.of_eq rfl ((RtpRxKeys.hasSrtp_decryptRtp P _ _).trans hc))
  | rtcp hca h =>
    have hc := ep.rxKeys.hasSrtp_checkRekeySwitchover ev.now
    cases h with
    | rejected h => exact Or.inl (.of_eq rfl hc)
    | dropped => exact Or.inl (.of_eq rfl hc)
    | accepted h hp hv => exact Or.inl (.of_eq rfl hc)
  | rekeyed hca h => exact Or.inl h.txKept
  | wrote h => exact Or.inl h.txKept
  | adjusted hca h => exact Or.inl h.txKept

structure Secured (ep : RtpEndpoint) : Prop where
  paired : ep.rxKeys.Paired
  sending : ep.hasSrtp = true → ep.txKeys.Present
  complete : ep.txKeys.srtpTx.isSome → ep.txKeys.Present

theorem Created.secured (h : Created P ep) : ep.Secured := by
  rcases h.initial.keys with ⟨hrx, hn | hp⟩ | ⟨hp, crypto, material, -, hrx⟩
  · refine ⟨by rw [hrx]; rfl, fun ha => ?_, fun hs => ?_⟩
    · rw [RtpEndpoint.hasSrtp, hrx] at ha
      cases ha
    · rw [hn] at hs
      cases hs
  · exact ⟨by rw [hrx]; rfl, fun _ => hp, fun _ => hp⟩
  · exact ⟨by rw [hrx]; rfl, fun _ => hp, fun _ => hp⟩

theorem Secured.step (h : ep.Secured) (P : Primitives) (ev : RtpEvent) :
    (ep.step P ev).1.Secured := by
  refine ⟨(step_rxKeys P ep ev).paired h.paired, ?_, ?_⟩
  · intro ha
    rcases (step_cases P ep ev).txKeys with hk | hp | ⟨hpl, -⟩
    · exact hk.present ((hk.active ha).elim h.sending h.complete)
    · exact hp
    · rw [hpl] at ha
      cases ha
  intro hs
  rcases (step_cases P ep ev).txKeys with hk | hp | ⟨-, hn⟩
  · exact hk.present (h.complete (hk.srtpTx hs))
  · exact hp
  · rw [hn] at hs
    cases hs

theorem Created.secured_exec (h : Created P ep) (events : List RtpEvent) :
    (exec (step P) ep events).Secured :=
  exec_induction h.secured (fun _ ev hs => hs.step P ev) events

theorem hasSrtp_exec (h : ep.hasSrtp = true) (events : List RtpEvent) :
    (exec (step P) ep events).hasSrtp = true :=
  exec_induction (P := fun ep : RtpEndpoint => ep.hasSrtp = true) h
    (fun ep ev hs => (step_rxKeys P ep ev).hasSrtp hs) events

/-! ## An endpoint that offered mandatory SRTP -/

/-- Our key was offered and is not optional, and without a key of the peer there is no
address to hear from. -/
structure Mandatory (ep : RtpEndpoint) : Prop where
  key : ep.txKeys.srtpTxKeyB64.isSome
  required : ep.srtpOptional = false
  silent : ep.hasSrtp = false → ep.latch.remoteRtpAddr = none ∧ ep.latch.remoteRtcpAddr = none

def KeyedOffer (P : Primitives) (_ : List (RtpEvent × RtpOutcome)) (ep : RtpEndpoint)
    (ev : RtpEvent) : Prop :=
  match ev.call with
  | .updateRemoteSdp sdp _ => ep.hasSrtp = true ∨ (parseSdp P sdp).crypto.isSome
  | _ => True

theorem mandatory_of_createOffer {setup : RtpSetup} {bindIp : IpAddr} {codecs : List SdpCodec}
    {offer : Text} (h : createOffer P setup bindIp codecs .srtp = .ok (ep, offer))
    (networks : List IpNet) : (ep.withSourceNetworks networks).Mandatory := by
  obtain ⟨-, hl, -, -, htx, ho⟩ := createOffer_ok h
  rcases htx with ⟨hpl, -⟩ | ⟨-, hp⟩
  · cases hpl
  refine ⟨hp.key, ?_, fun _ => ?_⟩
  · show ep.srtpOptional = false
    rw [← Bool.not_eq_true, ho]
    exact fun h => nomatch h
  show ep.latch.remoteRtpAddr = none ∧ ep.latch.remoteRtcpAddr = none
  rw [hl]
  exact ⟨rfl, rfl⟩

theorem Mandatory.hasSrtp_of_sourceAllowed (h : ep.Mandatory) {source : SocketAddr}
    {receivedAt : Nat} {rtcp : Bool}
    (ha : ep.latch.sourceAllowed source receivedAt rtcp = true) : ep.hasSrtp = true := by
  by_contra hp
  obtain ⟨hrt, hr⟩ := h.silent (Bool.eq_false_of_not_eq_true hp)
  obtain ⟨expected, he, -⟩ := RtpLatch.sourceAllowed_eq_true ha
  cases rtcp
  · rw [RtpLatch.expected, hrt] at he
    cases he
  · rw [RtpLatch.expected, hr] at he
    cases he

theorem Mandatory.of_applies {parsed : ParsedSdp} (h : ep.Mandatory)
    (hap : ep.Applies P now parsed ep') (hc : parsed.crypto.isSome)
    (htx : TxUpdate parsed.crypto ep.txKeys ep'.txKeys) (ho : ep'.srtpOptional = ep.srtpOptional) :
    ep'.Mandatory := by
  refine ⟨?_, ho.trans h.required, ?_⟩
  · generalize ep'.txKeys = txKeys at htx ⊢
    generalize parsed.crypto = crypto at htx
    cases htx with
    | kept _ => exact h.key
    | made hp => exact hp.key
  intro hpl
  have ha : ep'.hasSrtp = (ep.hasSrtp || parsed.crypto.isSome) := hap.rx.hasSrtp
  rw [hc, Bool.or_true, hpl] at ha
  cases ha

theorem Mandatory.of_quiet (h : ep.Mandatory) (hq : ep.Quiet P ep') : ep'.Mandatory := by
  refine ⟨hq.txKeys.key h.key, hq.srtpOptional.trans h.required, ?_⟩
  grind [RtpEndpoint.hasSrtp, hq.rxKeys, hq.latch, h.silent]

theorem Stepped.mandatory {out : RtpOutcome} {tr : List (RtpEvent × RtpOutcome)}
    (hst : Stepped P ep ev ep' out) (hk : KeyedOffer P tr ep ev) (h : ep.Mandatory) :
    ep'.Mandatory := by
  have hch := ep.rxKeys.hasSrtp_checkRekeySwitchover ev.now
  have hrt := RtpRxKeys.hasSrtp_decryptRtp P (ep.rxKeys.checkRekeySwitchover ev.now)
  cases hst with
  | refused out hou => exact h
  | answered hca hap htx =>
    rcases htx with ⟨htx, ho, hse⟩ | ⟨hp, -, -⟩
    · exact h.of_applies hap (hse.symm.trans h.key) htx ho
    · rw [selectedPlainRtp, h.required, Bool.and_false] at hp
      cases hp
  | described hca hap htx ho hsc =>
    rw [KeyedOffer, hca] at hk
    exact h.of_applies hap (hk.elim hsc fun hc => hc) htx ho
  | switchover hca =>
    exact ⟨h.key, h.required, fun hp => h.silent (hch.symm.trans hp)⟩
  | reset hca => exact ⟨h.key, h.required, h.silent⟩
  | rtp hca hh =>
    cases hh with
    | rejected hs =>
      exact ⟨h.key, h.required, fun hp => h.silent (hch.symm.trans hp)⟩
    | ignored => exact ⟨h.key, h.required, fun hp => h.silent (hch.symm.trans hp)⟩
    | dropped =>
      exact ⟨h.key, h.required, fun hp =>
        h.silent (hch.symm.trans ((hrt _).symm.trans hp))⟩
    | accepted hs hop hhe =>
      refine ⟨h.key, h.required, fun hp => ?_⟩
      have hac := h.hasSrtp_of_sourceAllowed hs
      have ha : ep.hasSrtp = false := hch.symm.trans ((hrt _).symm.trans hp)
      rw [hac] at ha
      cases ha
  | rtcp hca hh =>
    cases hh with
    | rejected hs =>
      exact ⟨h.key, h.required, fun hp => h.silent (hch.symm.trans hp)⟩
    | dropped => exact ⟨h.key, h.required, fun hp => h.silent (hch.symm.trans hp)⟩
    | accepted hs hop hv =>
      refine ⟨h.key, h.required, fun hp => ?_⟩
      have hac := h.hasSrtp_of_sourceAllowed hs
      have ha : ep.hasSrtp = false := hch.symm.trans hp
      rw [hac] at ha
      cases ha
  | rekeyed hca hq => exact h.of_quiet hq.toQuiet
  | wrote hq => exact h.of_quiet hq.toQuiet
  | adjusted hca hq => exact h.of_quiet hq

/-! ## What is delivered -/

/-- The call delivers only what a context of the endpoint authenticates. -/
structure Authenticates (P : Primitives) (ep : RtpEndpoint) (ev : RtpEvent) : Prop where
  rtp : ∀ packet, (ep.step P ev).2.packet? = some packet →
    ∃ data source receivedAt, ev.call = .handleRtpAt data source receivedAt ∧
      ∃ ctx ∈ ep.rxKeys.srtp, ctx.Verifies P (ctx.estimate data).1 data
  rtcp : ∀ plain, (ep.step P ev).2.rtcp? = some plain →
    ∃ data source receivedAt, ev.call = .handleRtcpAt data source receivedAt ∧
      ∃ ctx ∈ ep.rxKeys.srtcp, ctx.Verifies P data

theorem Mandatory.authenticates (h : ep.Mandatory) (hs : ep.Secured) (P : Primitives)
    (ev : RtpEvent) : ep.Authenticates P ev := by
  constructor
  · intro packet hp
    obtain ⟨data, source, receivedAt, hc⟩ := call_of_packet hp
    obtain ⟨ha, ⟨plain, hpl⟩, -⟩ := decrypted_of_packet hc hp
    obtain ⟨ctx, hct, hv⟩ :=
      verified_of_decryptRtp (h.hasSrtp_of_sourceAllowed ha) hpl
    exact ⟨data, source, receivedAt, hc, ctx, RtpRxKeys.mem_srtp_of_checkRekeySwitchover hct, hv⟩
  intro plain hr
  obtain ⟨data, source, receivedAt, hc⟩ := call_of_rtcp hr
  obtain ⟨ha, hpl, -⟩ := decrypted_of_rtcp hc hr
  have hac := hs.paired.trans (h.hasSrtp_of_sourceAllowed ha)
  grind [verified_of_decryptRtcp, RtpRxKeys.mem_srtcp_of_checkRekeySwitchover]

/-- An endpoint that offered mandatory SRTP delivers only authenticated datagrams, in
every run whose offers before the peer's key carry one; and every endpoint that once
has a receiving context keeps one, and both of its sending contexts. -/
theorem mandatory_srtp_kept (P : Primitives) :
    (∀ (setup : RtpSetup) (bindIp : IpAddr) (codecs : List SdpCodec) (ep : RtpEndpoint)
        (offer : Text) (networks : List IpNet) (before : List RtpEvent) (ev : RtpEvent),
      createOffer P setup bindIp codecs .srtp = .ok (ep, offer) →
      Along (step P) (KeyedOffer P) (ep.withSourceNetworks networks) before →
        (exec (step P) (ep.withSourceNetworks networks) before).Authenticates P ev) ∧
    ∀ (ep : RtpEndpoint) (before after : List RtpEvent), Created P ep →
      (exec (step P) ep before).hasSrtp = true →
        (exec (step P) ep (before ++ after)).hasSrtp = true ∧
        (exec (step P) ep (before ++ after)).txKeys.srtpTx.isSome ∧
        (exec (step P) ep (before ++ after)).txKeys.srtcpTx.isSome := by
  constructor
  · intro setup bindIp codecs ep offer networks before ev hoffer hkeyed
    have hmandatory := along_induction
      (P := fun _ (s : RtpEndpoint) => s.Mandatory) (mandatory_of_createOffer hoffer networks)
      (fun tr s a hC hs => (step_cases P s a).mandatory hC hs) hkeyed
    exact hmandatory.authenticates ((Created.withOffer networks hoffer).secured_exec before) P ev
  intro ep before after hcreated hactive
  have hafter : (exec (step P) ep (before ++ after)).hasSrtp = true := by
    rw [exec_append]
    exact hasSrtp_exec hactive after
  have hpresent := (hcreated.secured_exec (before ++ after)).sending hafter
  exact ⟨hafter, hpresent.srtp, hpresent.srtcp⟩

/-- The answer with the sample key, and then a datagram under it. -/
theorem sampleOffering_kept :
    (((exec (step .reference) ((sampleOffering .srtp).withSourceNetworks [])
        [⟨1, 0, .acceptAnswer (sampleSecureSdp sampleKey) (Vector.replicate 30 2)⟩]).step .reference
          ⟨2, 0, .handleRtpAt SrtpContext.sampleDatagram sampleSource 2⟩).2.packet?).isSome = true ∧
    (exec (step .reference) ((sampleOffering .srtp).withSourceNetworks [])
      [⟨1, 0, .acceptAnswer (sampleSecureSdp sampleKey) (Vector.replicate 30 2)⟩]).Authenticates
        .reference ⟨2, 0, .handleRtpAt SrtpContext.sampleDatagram sampleSource 2⟩ ∧
    (exec (step .reference) ((sampleOffering .srtp).withSourceNetworks [])
      ([⟨1, 0, .acceptAnswer (sampleSecureSdp sampleKey) (Vector.replicate 30 2)⟩] ++
        [⟨2, 0, .srtpRekey (Vector.replicate 30 3)⟩])).hasSrtp = true := by
  obtain ⟨offer, hoffer⟩ := sampleOffering_ok .srtp
  obtain ⟨hauthenticated, hkept⟩ := mandatory_srtp_kept .reference
  refine ⟨by decide +kernel, ?_, ?_⟩
  · exact hauthenticated _ _ _ _ _ [] _ _ hoffer ⟨trivial, trivial⟩
  · exact (hkept _ _ _ (.withOffer [] hoffer) (by decide +kernel)).1

/-- A plain offer before the answer: the endpoint then takes a plain packet, though it
offered mandatory SRTP. -/
theorem sampleOffering_downgraded :
    createOffer .reference sampleSetup (.v4 0xC0000201) [codecPcmu] .srtp =
        .ok (sampleOffering .srtp, (sampleOffering .srtp).offerText (.v4 0xC0000201)
          (some (answerCrypto (Base64.encode (List.replicate 30 1)) none))) ∧
    (((exec (step .reference) (sampleOffering .srtp)
        [⟨1, 0, .updateRemoteSdp samplePlainSdp (Vector.replicate 30 2)⟩]).step .reference
          ⟨2, 0, .handleRtpAt [128, 0, 0, 1, 0, 0, 0, 160, 17, 34, 51, 68, 255] sampleSource
            2⟩).2.packet?).isSome = true ∧
    ¬ (exec (step .reference) (sampleOffering .srtp)
        [⟨1, 0, .updateRemoteSdp samplePlainSdp (Vector.replicate 30 2)⟩]).Authenticates .reference
          ⟨2, 0, .handleRtpAt [128, 0, 0, 1, 0, 0, 0, 160, 17, 34, 51, 68, 255] sampleSource
            2⟩ := by
  have hrouted : (((exec (step .reference) (sampleOffering .srtp)
      [⟨1, 0, .updateRemoteSdp samplePlainSdp (Vector.replicate 30 2)⟩]).step .reference
        ⟨2, 0, .handleRtpAt [128, 0, 0, 1, 0, 0, 0, 160, 17, 34, 51, 68, 255] sampleSource
          2⟩).2.packet?).isSome = true := by decide +kernel
  have hinactive : (exec (step .reference) (sampleOffering .srtp)
      [⟨1, 0, .updateRemoteSdp samplePlainSdp (Vector.replicate 30 2)⟩]).rxKeys.srtp.active =
        false := by decide +kernel
  refine ⟨rfl, hrouted, fun hauthenticates => ?_⟩
  obtain ⟨packet, hpacket⟩ := Option.isSome_iff_exists.mp hrouted
  obtain ⟨-, -, -, -, ctx, hctx, -⟩ := hauthenticates.rtp packet hpacket
  rw [Switchover.active_iff.mpr ⟨ctx, hctx⟩] at hinactive
  cases hinactive

end RtpEndpoint
end RtpBridge.Session
