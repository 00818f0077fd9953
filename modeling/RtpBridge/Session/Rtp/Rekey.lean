/-
The switchover from one receiving key to the next.
-/
import RtpBridge.Session.Rtp.Secure

namespace RtpBridge.Session

open Srtp Sdp Rtp Rtcp Wire Machine Switchover

namespace RtpRxKeys

variable {P : Primitives} {keys keys' : RtpRxKeys} {text : Text} {now : Nat} {crypto : SdpCrypto}
  {material : Bytes} {ev : RtpEvent} {ep s : RtpEndpoint} {after run : List RtpEvent}

structure TracksKey (P : Primitives) (keys : RtpRxKeys) (text : Text) : Prop where
  tracked : keys.srtpRxKeyB64 = some text
  rx : keys.srtp.rx.isSome
  deadline : keys.srtp.rxNew.isSome ∨ keys.srtcp.rxNew.isSome → keys.rekeySwitchover.isSome
  newest : ∃ material srtp srtcp, base64Decode P text = .ok material ∧
    keys.srtp.newest = some srtp ∧ srtp.Holds P material ∧
    keys.srtcp.newest = some srtcp ∧ srtcp.Holds P material ∧
    srtcp.packetLifetime = min srtp.packetLifetime maxSrtcpPacketsPerMasterKey

def Tracking (P : Primitives) (keys : RtpRxKeys) : Prop :=
  keys = {} ∨ ∃ text, keys.TracksKey P text

section

variable (h : keys.TracksKey P text)
include h

theorem TracksKey.checkRekeySwitchover (now : Nat) :
    (keys.checkRekeySwitchover now).TracksKey P text := by
  refine ⟨?_, ?_, ?_, ?_⟩
  · rw [srtpRxKeyB64_checkRekeySwitchover, h.tracked]
  · grind [RtpRxKeys.checkRekeySwitchover, isSome_rx_promote, h.rx]
  · unfold RtpRxKeys.checkRekeySwitchover
    split
    · -- nothing is left to switch to
      intro hn
      simp at hn
    · exact h.deadline
  · rw [newest_srtp_checkRekeySwitchover, newest_srtcp_checkRekeySwitchover]
    exact h.newest

theorem TracksKey.decryptRtp (data : Bytes) : (keys.decryptRtp P data).1.TracksKey P text := by
  have hr := receives (SrtpContext.unprotect P) keys.srtp data
  obtain ⟨material, srtp, srtcp, hd, hsr, hh, hs, hh', hl⟩ := h.newest
  obtain ⟨hk, hsame⟩ := srtp.unprotect_kept P data
  refine ⟨h.tracked, hr.isSome_rx h.rx, ?_, ?_⟩
  · intro hn
    exact h.deadline (hn.imp_left hr.isSome_rxNew)
  refine ⟨material, (srtp.unprotect P data).1, srtcp, hd, ?_, hk.holds hh, hs, hh', ?_⟩
  · show (receive _ keys.srtp data).1.newest = _
    rw [hr.newest, hsr]
    rfl
  · rw [hsame, hl]

theorem TracksKey.decryptRtcp (data : Bytes) : (keys.decryptRtcp P data).1.TracksKey P text := by
  have hr := receives (SrtcpContext.unprotectRtcp P) keys.srtcp data
  obtain ⟨material, srtp, srtcp, hd, hsr, hh, hs, hh', hl⟩ := h.newest
  obtain ⟨hk, hsame⟩ := srtcp.unprotectRtcp_kept P data
  refine ⟨h.tracked, h.rx, ?_, ?_⟩
  · intro hn
    exact h.deadline (hn.imp_right hr.isSome_rxNew)
  refine ⟨material, srtp, (srtcp.unprotectRtcp P data).1, hd, hsr, hh, ?_, hk.holds hh', ?_⟩
  · show (receive _ keys.srtcp data).1.newest = _
    rw [hr.newest, hs]
    rfl
  · rw [hsame, hl]

theorem TracksKey.tighten (crypto : SdpCrypto) :
    (keys.tightenRemoteSrtpLifetime crypto).TracksKey P text := by
  obtain ⟨material, srtp, srtcp, hd, hsr, hh, hs, hh', -⟩ := h.newest
  refine ⟨h.tracked, ?_, ?_, ?_⟩
  · show (keys.srtp.mapNewest _).rx.isSome
    rw [isSome_rx_mapNewest]
    exact h.rx
  · intro hn
    apply h.deadline
    simpa [tightenRemoteSrtpLifetime] using hn
  refine ⟨material, srtp.tightenPacketLifetime (remoteSrtpPacketLifetime crypto),
    srtcp.tightenPacketLifetime (remoteSrtpPacketLifetime crypto), hd, ?_, hh, ?_,
    hh', rfl⟩
  · show (keys.srtp.mapNewest _).newest = _
    rw [newest_mapNewest, hsr]
    rfl
  show (keys.srtcp.mapNewest _).newest = _
  rw [newest_mapNewest, hs]
  rfl

end

theorem Tracking.installs (h : keys.Tracking P)
    (hd : base64Decode P crypto.keyB64 = .ok material)
    (hi : Installs P now crypto material keys keys') : keys'.TracksKey P crypto.keyB64 := by
  cases hi with
  | first hrx =>
    rcases h with rfl | ⟨text, h⟩
    · refine ⟨rfl, rfl, fun hn => ?_, material, _, _, hd, rfl, ⟨rfl, rfl, rfl⟩, rfl,
        ⟨rfl, rfl, rfl⟩, rfl⟩
      rcases hn with hn | hn <;> cases hn
    have hs := h.rx
    rw [hrx] at hs
    cases hs
  | rekey hrx hk =>
    exact ⟨rfl, hrx, fun _ => rfl, material, _, _, hd, rfl, ⟨rfl, rfl, rfl⟩, rfl,
      ⟨rfl, rfl, rfl⟩, rfl⟩
  | same hrx hk =>
    rcases h with rfl | ⟨text, h⟩
    · cases hrx
    have ht : text = crypto.keyB64 := Option.some.inj (h.tracked.symm.trans hk)
    rw [← ht]
    exact h.tighten crypto

end RtpRxKeys

theorem RxUpdate.tracking {crypto : Option SdpCrypto} (h : RxUpdate P now crypto keys keys')
    (hk : keys.Tracking P) : keys'.Tracking P := by
  cases h with
  | none => exact hk
  | some hd hi => exact Or.inr ⟨_, hk.installs hd hi⟩

namespace RtpEndpoint

theorem RxStep.tracking (h : RxStep P ev keys keys') (hk : keys.Tracking P) : keys'.Tracking P := by
  cases h with
  | same => exact hk
  | switchover =>
    rcases hk with rfl | ⟨text, ht⟩
    · exact Or.inl rfl
    · exact Or.inr ⟨text, ht.checkRekeySwitchover ev.now⟩
  | described hc hl hu => exact hu.tracking hk
  | rtp hc =>
    rcases hk with rfl | ⟨text, ht⟩
    · exact Or.inl rfl
    · exact Or.inr ⟨text, (ht.checkRekeySwitchover ev.now).decryptRtp _⟩
  | rtcp hc =>
    rcases hk with rfl | ⟨text, ht⟩
    · exact Or.inl rfl
    · exact Or.inr ⟨text, (ht.checkRekeySwitchover ev.now).decryptRtcp _⟩

theorem Created.tracking (h : Created P ep) : ep.rxKeys.Tracking P := by
  rcases h.initial.keys with ⟨hrx, -⟩ | ⟨-, crypto, material, hd, hrx⟩
  · exact Or.inl hrx
  rw [hrx]
  refine Or.inr ⟨crypto.keyB64, rfl, rfl, fun hn => ?_, material, _, _, hd, rfl,
    ⟨rfl, rfl, rfl⟩, rfl, ⟨rfl, rfl, rfl⟩, rfl⟩
  rcases hn with hn | hn <;> cases hn

theorem Created.tracking_exec (h : Created P ep) (events : List RtpEvent) :
    (exec (step P) ep events).rxKeys.Tracking P :=
  exec_induction (P := fun ep : RtpEndpoint => ep.rxKeys.Tracking P) h.tracking
    (fun ep ev hs => (step_rxKeys P ep ev).tracking hs) events

/-! ## The lifetime of the tracked key -/

structure NoLongerLived (keys keys' : RtpRxKeys) : Prop where
  srtp : ∀ ctx ctx', keys.srtp.newest = some ctx → keys'.srtp.newest = some ctx' →
    ctx'.packetLifetime ≤ ctx.packetLifetime
  srtcp : ∀ ctx ctx', keys.srtcp.newest = some ctx → keys'.srtcp.newest = some ctx' →
    ctx'.packetLifetime ≤ ctx.packetLifetime

theorem NoLongerLived.of_newest {f : SrtpContext → SrtpContext} {g : SrtcpContext → SrtcpContext}
    (hsr : keys'.srtp.newest = keys.srtp.newest.map f)
    (hf : ∀ ctx, keys.srtp.newest = some ctx → (f ctx).packetLifetime ≤ ctx.packetLifetime)
    (hs : keys'.srtcp.newest = keys.srtcp.newest.map g)
    (hg : ∀ ctx, keys.srtcp.newest = some ctx → (g ctx).packetLifetime ≤ ctx.packetLifetime) :
    NoLongerLived keys keys' := by
  constructor <;> grind

theorem noLongerLived_refl (keys : RtpRxKeys) : NoLongerLived keys keys :=
  .of_newest (f := fun ctx => ctx) (g := fun ctx => ctx) (by simp) (fun _ _ => le_refl _) (by simp)
    (fun _ _ => le_refl _)

theorem noLongerLived_tighten (h : keys.TracksKey P crypto.keyB64)
    (hv : keys.validateRemoteSrtpLifetimeUpdate crypto = .ok ()) :
    NoLongerLived keys (keys.tightenRemoteSrtpLifetime crypto) := by
  obtain ⟨material, srtp, srtcp, -, hsr, -, hst, -, hl⟩ := h.newest
  have hs : remoteSrtpPacketLifetime crypto ≤ srtp.packetLifetime := by
    unfold RtpRxKeys.validateRemoteSrtpLifetimeUpdate at hv
    rw [if_neg (not_not.mpr h.tracked)] at hv
    rw [hsr] at hv
    dsimp only at hv
    split at hv
    · cases hv
    · omega
  refine .of_newest (newest_mapNewest _ _) ?_ (newest_mapNewest _ _) ?_
  · intro ctx hc
    rw [hsr] at hc
    cases hc
    exact hs
  intro ctx hc
  rw [hst] at hc
  cases hc
  show min (remoteSrtpPacketLifetime crypto) maxSrtcpPacketsPerMasterKey ≤ srtcp.packetLifetime
  omega

theorem RxStep.noLongerLived (h : RxStep P ev keys keys') (hk : keys.Tracking P)
    (hsame : keys'.srtpRxKeyB64 = keys.srtpRxKeyB64) : NoLongerLived keys keys' := by
  cases h with
  | same => exact noLongerLived_refl keys
  | switchover =>
    exact .of_newest (f := fun ctx => ctx) (g := fun ctx => ctx) (by simp)
      (fun _ _ => le_refl _) (by simp) (fun _ _ => le_refl _)
  | @described sdp keys' hc hl hu =>
    generalize (parseSdp P sdp).crypto = crypto at hl hu
    cases hu with
    | none => exact noLongerLived_refl keys
    | some hd hi =>
      cases hi with
      | first hrx =>
        rcases hk with rfl | ⟨text, ht⟩
        · cases hsame
        have hs := ht.rx
        rw [hrx] at hs
        cases hs
      | rekey hrx hke => exact absurd hsame.symm hke
      | same hrx hke =>
        rcases hk with rfl | ⟨text, ht⟩
        · cases hrx
        have heq := Option.some.inj (ht.tracked.symm.trans hke)
        rw [heq] at ht
        exact noLongerLived_tighten ht (hl _ rfl)
  | @rtp data source receivedAt hc =>
    refine .of_newest (f := fun ctx => (ctx.unprotect P data).1) (g := fun ctx => ctx)
      ?_ ?_ ?_ ?_
    · rw [← keys.newest_srtp_checkRekeySwitchover ev.now]
      exact (receives (SrtpContext.unprotect P) _ data).newest
    · exact fun ctx _ => le_of_eq (ctx.unprotect_kept P data).2
    · simp
    · exact fun _ _ => le_refl _
  | @rtcp data source receivedAt hc =>
    refine .of_newest (f := fun ctx => ctx) (g := fun ctx => (ctx.unprotectRtcp P data).1)
      ?_ ?_ ?_ ?_
    · show (keys.checkRekeySwitchover ev.now).srtp.newest = _
      simp
    · exact fun _ _ => le_refl _
    · rw [← keys.newest_srtcp_checkRekeySwitchover ev.now]
      exact (receives (SrtcpContext.unprotectRtcp P) _ data).newest
    · exact fun ctx _ => le_of_eq (ctx.unprotectRtcp_kept P data).2

/-! ## The contexts of old keys -/

structure Descends (keys keys' : RtpRxKeys) : Prop where
  srtp : ∀ ctx ∈ keys'.srtp, keys'.srtp.newest = some ctx ∨ ∃ b ∈ keys.srtp, ctx.SameKeys b
  srtcp : ∀ ctx ∈ keys'.srtcp, keys'.srtcp.newest = some ctx ∨ ∃ b ∈ keys.srtcp, ctx.SameKeys b

theorem descends_of_subset (hsr : ∀ ctx ∈ keys'.srtp, ctx ∈ keys.srtp)
    (hs : ∀ ctx ∈ keys'.srtcp, ctx ∈ keys.srtcp) : Descends keys keys' :=
  ⟨fun ctx hc => Or.inr ⟨ctx, hsr ctx hc, rfl, rfl, rfl⟩,
    fun ctx hc => Or.inr ⟨ctx, hs ctx hc, rfl, rfl, rfl⟩⟩

theorem descends_of_installs (hk : keys.Tracking P)
    (h : RtpRxKeys.Installs P now crypto material keys keys') : Descends keys keys' := by
  cases h with
  | first hrx =>
    -- before the first key there is no context at all
    rcases hk with rfl | ⟨text, ht⟩
    · exact ⟨fun ctx hc => Or.inl (newest_of_mem rfl hc),
        fun ctx hc => Or.inl (newest_of_mem rfl hc)⟩
    have hs := ht.rx
    rw [hrx] at hs
    cases hs
  | rekey hrx hke =>
    constructor
    · rintro ctx (hc | hc)
      · exact Or.inr ⟨ctx, Or.inl hc, rfl, rfl, rfl⟩
      · exact Or.inl (congrArg (Option.or · _) hc)
    rintro ctx (hc | hc)
    · exact Or.inr ⟨ctx, Or.inl hc, rfl, rfl, rfl⟩
    · exact Or.inl (congrArg (Option.or · _) hc)
  | same hrx hke =>
    have hst := all_mapNewest
      (T := fun ctx : SrtpContext => ∃ b ∈ keys.srtp, ctx.SameKeys b)
      (f := fun ctx => ctx.tightenPacketLifetime (remoteSrtpPacketLifetime crypto))
      (fun ctx h => h) (fun ctx hc => ⟨ctx, hc, rfl, rfl, rfl⟩)
    have hsr := all_mapNewest
      (T := fun ctx : SrtcpContext => ∃ b ∈ keys.srtcp, ctx.SameKeys b)
      (f := fun ctx => ctx.tightenPacketLifetime (remoteSrtpPacketLifetime crypto))
      (fun ctx h => h) (fun ctx hc => ⟨ctx, hc, rfl, rfl, rfl⟩)
    exact ⟨fun ctx hc => Or.inr (hst ctx hc), fun ctx hc => Or.inr (hsr ctx hc)⟩

theorem RxStep.descends (h : RxStep P ev keys keys') (hk : keys.Tracking P) :
    Descends keys keys' := by
  have hrt : ∀ ctx ∈ (keys.checkRekeySwitchover ev.now).srtp, ctx ∈ keys.srtp :=
    fun ctx => RtpRxKeys.mem_srtp_of_checkRekeySwitchover
  have hr : ∀ ctx ∈ (keys.checkRekeySwitchover ev.now).srtcp, ctx ∈ keys.srtcp :=
    fun ctx => RtpRxKeys.mem_srtcp_of_checkRekeySwitchover
  cases h with
  | same => exact descends_of_subset (fun _ h => h) (fun _ h => h)
  | switchover => exact descends_of_subset hrt hr
  | @described sdp keys' hc hl hu =>
    generalize (parseSdp P sdp).crypto = crypto at hu
    cases hu with
    | none => exact descends_of_subset (fun _ h => h) (fun _ h => h)
    | some hd hi => exact descends_of_installs hk hi
  | @rtp data source receivedAt hc =>
    have ha := (receives (SrtpContext.unprotect P)
      (keys.checkRekeySwitchover ev.now).srtp data).all
      (T := fun ctx : SrtpContext => ∃ b ∈ keys.srtp, ctx.SameKeys b) ?_ ?_
    · exact ⟨fun ctx hct => Or.inr (ha ctx hct),
        fun ctx hct => Or.inr ⟨ctx, hr ctx hct, rfl, rfl, rfl⟩⟩
    · rintro ctx ⟨b, hb, hsame⟩
      exact ⟨b, hb, (ctx.unprotect_kept P data).1.trans hsame⟩
    · exact fun ctx hct => ⟨ctx, hrt ctx hct, rfl, rfl, rfl⟩
  | @rtcp data source receivedAt hc =>
    have ha := (receives (SrtcpContext.unprotectRtcp P)
      (keys.checkRekeySwitchover ev.now).srtcp data).all
      (T := fun ctx : SrtcpContext => ∃ b ∈ keys.srtcp, ctx.SameKeys b) ?_ ?_
    · exact ⟨fun ctx hct => Or.inr ⟨ctx, hrt ctx hct, rfl, rfl, rfl⟩,
        fun ctx hct => Or.inr (ha ctx hct)⟩
    · rintro ctx ⟨b, hb, hsame⟩
      exact ⟨b, hb, (ctx.unprotectRtcp_kept P data).1.trans hsame⟩
    · exact fun ctx hct => ⟨ctx, hr ctx hct, rfl, rfl, rfl⟩

/-! ## After the deadline -/

/-- A description with another key than the tracked one does not come after the
deadline of a switchover that is still open. -/
def NoLateRekey (P : Primitives) (_ : List (RtpEvent × RtpOutcome)) (ep : RtpEndpoint)
    (ev : RtpEvent) : Prop :=
  ∀ sdp crypto deadline, ev.call.sdp? = some sdp → (parseSdp P sdp).crypto = some crypto →
    ep.rxKeys.srtpRxKeyB64 ≠ some crypto.keyB64 → ep.rxKeys.rekeySwitchover = some deadline →
      ev.now < deadline

theorem RxStep.expired {tr : List (RtpEvent × RtpOutcome)} {deadline : Nat}
    (h : RxStep P ev ep.rxKeys keys') (hl : NoLateRekey P tr ep ev)
    (hd : ep.rxKeys.rekeySwitchover = some deadline) (hp : deadline ≤ ev.now) :
    keys'.srtp.rxNew = none ∧ keys'.srtcp.rxNew = none ∨ keys'.rekeySwitchover = some deadline := by
  obtain ⟨hsr, hs⟩ := RtpRxKeys.checkRekeySwitchover_expired hd hp
  cases h with
  | same => exact Or.inr hd
  | switchover => exact Or.inl ⟨hsr, hs⟩
  | @described sdp keys' hc hli hu =>
    have hk := fun crypto => hl sdp crypto deadline hc
    generalize (parseSdp P sdp).crypto = crypto at hu hk
    cases hu with
    | none => exact Or.inr hd
    | some hde hi =>
      cases hi with
      | first hrx => exact Or.inr hd
      | same hrx hsame => exact Or.inr hd
      | rekey hrx ho =>
        have he := hk _ rfl ho hd
        omega
  | rtp hc => exact Or.inl ⟨(receives _ _ _).rxNew_eq_none hsr, hs⟩
  | rtcp hc => exact Or.inl ⟨hsr, (receives _ _ _).rxNew_eq_none hs⟩

theorem retired_exec {C : Type} (sw : RtpRxKeys → Switchover C) {T : C → Prop}
    (hki : ∀ keys keys', Descends keys keys' → (∀ c ∈ sw keys, T c) →
      (∀ c, (sw keys').newest = some c → T c) → ∀ c ∈ sw keys', T c)
    (ho : ∀ keys : RtpRxKeys, keys.srtp.rxNew = none → keys.srtcp.rxNew = none →
      (sw keys).rxNew = none) {tr : List (RtpEvent × RtpOutcome)} (ht : s.rxKeys.Tracking P)
    (hl : AlongFrom (step P) (NoLateRekey P) tr s after)
    (hne : ∀ mid, mid <+: after → ∀ c, (sw (exec (step P) s mid).rxKeys).newest = some c → T c)
    (hst : (∀ c ∈ sw s.rxKeys, T c) ∨
      ∃ deadline, s.rxKeys.rekeySwitchover = some deadline ∧
        ∀ e ∈ after ++ [ev], deadline ≤ e.now) :
    (∀ c ∈ sw (exec (step P) s after).rxKeys, T c) ∨
      ∃ deadline, (exec (step P) s after).rxKeys.rekeySwitchover = some deadline ∧
        deadline ≤ ev.now := by
  induction after generalizing s tr with
  | nil =>
    rcases hst with ha | ⟨deadline, hd, hp⟩
    · exact Or.inl ha
    · exact Or.inr ⟨deadline, hd, hp ev (List.mem_singleton_self ev)⟩
  | cons e rest ih =>
    have hs := step_rxKeys P s e
    have hn : ∀ mid, mid <+: rest →
        ∀ c, (sw (exec (step P) (s.step P e).1 mid).rxKeys).newest = some c → T c := by
      intro mid hm
      exact hne (e :: mid) (List.cons_prefix_cons.mpr ⟨rfl, hm⟩)
    refine ih (hs.tracking ht) hl.2 hn ?_
    have hno : ∀ c, (sw (s.step P e).1.rxKeys).newest = some c → T c := hn [] (by simp)
    rcases hst with ha | ⟨deadline, hd, hp⟩
    · exact Or.inl (hki _ _ (hs.descends ht) ha hno)
    rcases hs.expired hl.1 hd (hp e (by simp)) with ⟨hsrt, hsr⟩ | hk
    · grind [newest_of_mem]
    · exact Or.inr ⟨deadline, hk, fun x hx => hp x (List.mem_cons_of_mem e hx)⟩

/-! ## What is accepted after a switchover -/

def TrackedSince (P : Primitives) (s : RtpEndpoint) (run : List RtpEvent) (material : Bytes) :
    Prop :=
  ∃ mid, mid <+: run ∧ ∃ text, (exec (step P) s mid).rxKeys.srtpRxKeyB64 = some text ∧
      base64Decode P text = .ok material

theorem trackedSince_newest (ht : s.rxKeys.Tracking P) {mid : List RtpEvent}
    (hm : mid <+: run) :
    (∀ ctx, (exec (step P) s mid).rxKeys.srtp.newest = some ctx →
      ∃ material, TrackedSince P s run material ∧ ctx.Holds P material) ∧
    ∀ ctx, (exec (step P) s mid).rxKeys.srtcp.newest = some ctx →
      ∃ material, TrackedSince P s run material ∧ ctx.Holds P material := by
  have hk := exec_induction (P := fun ep : RtpEndpoint => ep.rxKeys.Tracking P)
    ht (fun ep ev hs => (step_rxKeys P ep ev).tracking hs) mid
  rcases hk with hi | ⟨text, hte⟩
  · rw [hi]
    exact ⟨fun ctx hc => (nomatch hc), fun ctx hc => (nomatch hc)⟩
  grind [hte.newest, TrackedSince, hte.tracked]

def RtpTakenByNewest (P : Primitives) (ep : RtpEndpoint) (ev : RtpEvent) : Prop :=
  ∃ data source receivedAt packet ctx plain, ev.call = .handleRtpAt data source receivedAt ∧
    (ep.step P ev).2.packet? = some packet ∧ ep.rxKeys.srtp.newest = some ctx ∧
    (ctx.unprotect P data).2 = .ok plain

def RtcpTakenByNewest (P : Primitives) (ep : RtpEndpoint) (ev : RtpEvent) : Prop :=
  ∃ data source receivedAt packet ctx plain, ev.call = .handleRtcpAt data source receivedAt ∧
    (ep.step P ev).2.rtcp? = some packet ∧ ep.rxKeys.srtcp.newest = some ctx ∧
    (ctx.unprotectRtcp P data).2 = .ok plain

theorem newest_of_rtpTaken (h : RtpTakenByNewest P ep ev) :
    (ep.step P ev).1.hasSrtp = true ∧ ∀ ctx ∈ (ep.step P ev).1.rxKeys.srtp,
      (ep.step P ev).1.rxKeys.srtp.newest = some ctx := by
  obtain ⟨data, source, receivedAt, packet, ctx, plain, hca, hp, hct, hpl⟩ := h
  obtain ⟨-, -, hk⟩ := decrypted_of_packet hca hp
  rw [← RtpRxKeys.newest_srtp_checkRekeySwitchover _ ev.now] at hct
  rw [RtpEndpoint.hasSrtp, hk]
  exact (receives (SrtpContext.unprotect P) _ data).newest_accepts hct hpl

theorem newest_of_rtcpTaken (h : RtcpTakenByNewest P ep ev) :
    (ep.step P ev).1.rxKeys.srtcp.active = true ∧ ∀ ctx ∈ (ep.step P ev).1.rxKeys.srtcp,
      (ep.step P ev).1.rxKeys.srtcp.newest = some ctx := by
  obtain ⟨data, source, receivedAt, packet, ctx, plain, hca, hp, hct, hpl⟩ := h
  obtain ⟨-, -, hk⟩ := decrypted_of_rtcp hca hp
  rw [← RtpRxKeys.newest_srtcp_checkRekeySwitchover _ ev.now] at hct
  rw [hk]
  exact (receives (SrtcpContext.unprotectRtcp P) _ data).newest_accepts hct hpl

/-- The deadline of a switchover has passed when the first call of the run comes. -/
def DeadlinePassed (ep : RtpEndpoint) (run : List RtpEvent) : Prop :=
  ∃ deadline next, ep.rxKeys.rekeySwitchover = some deadline ∧ run.head? = some next ∧
    deadline ≤ next.now

theorem DeadlinePassed.forall (h : DeadlinePassed ep run)
    (hc : run.Pairwise fun a b => a.now ≤ b.now) :
    ∃ deadline, ep.rxKeys.rekeySwitchover = some deadline ∧ ∀ e ∈ run, deadline ≤ e.now := by
  obtain ⟨deadline, next, hd, hn, hp⟩ := h
  cases run with
  | nil => cases hn
  | cons first rest => grind [List.rel_of_pairwise_cons]

theorem DeadlinePassed.hasSrtp (h : DeadlinePassed ep run) (ht : ep.rxKeys.Tracking P) :
    ep.hasSrtp = true := by
  obtain ⟨deadline, next, hd, -⟩ := h
  rcases ht with hi | ⟨text, hte⟩
  · rw [hi] at hd
    cases hd
  · show ep.rxKeys.srtp.active = true
    rw [active, hte.rx, Bool.true_or]

section

variable (ht : s.rxKeys.Tracking P) (hl : Along (step P) (NoLateRekey P) s after)
include ht hl

theorem rtp_tracked_since (ha : s.hasSrtp = true)
    (hst : (∀ ctx ∈ s.rxKeys.srtp, s.rxKeys.srtp.newest = some ctx) ∨
      ∃ deadline, s.rxKeys.rekeySwitchover = some deadline ∧ ∀ e ∈ after ++ [ev], deadline ≤ e.now)
    {data : Bytes} {source : SocketAddr} {receivedAt : Nat} {packet : RoutedRtpPacket}
    (hca : ev.call = .handleRtpAt data source receivedAt)
    (hp : ((exec (step P) s after).step P ev).2.packet? = some packet) :
    ∃ ctx ∈ (exec (step P) s after).rxKeys.srtp, ctx.Verifies P (ctx.estimate data).1 data ∧
      ∃ material, TrackedSince P s after material ∧ ctx.Holds P material := by
  have hn := fun mid (hm : mid <+: after) => (trackedSince_newest ht hm).1
  obtain ⟨-, ⟨plain, hpl⟩, -⟩ := decrypted_of_packet hca hp
  obtain ⟨ctx, hct, hv⟩ := verified_of_decryptRtp (hasSrtp_exec ha after) hpl
  refine ⟨ctx, RtpRxKeys.mem_srtp_of_checkRekeySwitchover hct, hv, ?_⟩
  have hr := retired_exec (fun keys => keys.srtp)
    (T := fun ctx => ∃ material, TrackedSince P s after material ∧ ctx.Holds P material)
    (fun keys keys' hd hb hw => ?_) (fun keys hsr _ => hsr) ht hl
    hn (hst.imp_left fun ho c hc => hn [] List.nil_prefix c (ho c hc))
  · rcases hr with hal | ⟨deadline, hde, hpa⟩
    · exact hal ctx (RtpRxKeys.mem_srtp_of_checkRekeySwitchover hct)
    -- the call itself ends the switchover first
    have ho := (RtpRxKeys.checkRekeySwitchover_expired hde hpa).1
    apply hn after (List.prefix_refl after)
    rw [← RtpRxKeys.newest_srtp_checkRekeySwitchover _ ev.now]
    exact newest_of_mem ho hct
  intro c hc
  rcases hd.srtp c hc with hne | ⟨b, hb', hsame⟩
  · exact hw c hne
  obtain ⟨material, hs, hh⟩ := hb b hb'
  exact ⟨material, hs, hsame.holds hh⟩

theorem rtcp_tracked_since (ha : (exec (step P) s after).rxKeys.srtcp.active = true)
    (hst : (∀ ctx ∈ s.rxKeys.srtcp, s.rxKeys.srtcp.newest = some ctx) ∨
      ∃ deadline, s.rxKeys.rekeySwitchover = some deadline ∧ ∀ e ∈ after ++ [ev], deadline ≤ e.now)
    {data plain : Bytes} {source : SocketAddr} {receivedAt : Nat}
    (hca : ev.call = .handleRtcpAt data source receivedAt)
    (hpl : ((exec (step P) s after).step P ev).2.rtcp? = some plain) :
    ∃ ctx ∈ (exec (step P) s after).rxKeys.srtcp, ctx.Verifies P data ∧
      ∃ material, TrackedSince P s after material ∧ ctx.Holds P material := by
  have hn := fun mid (hm : mid <+: after) => (trackedSince_newest ht hm).2
  obtain ⟨-, ho, -⟩ := decrypted_of_rtcp hca hpl
  obtain ⟨ctx, hct, hv⟩ := verified_of_decryptRtcp ha ho
  refine ⟨ctx, RtpRxKeys.mem_srtcp_of_checkRekeySwitchover hct, hv, ?_⟩
  have hr := retired_exec (fun keys => keys.srtcp)
    (T := fun ctx => ∃ material, TrackedSince P s after material ∧ ctx.Holds P material)
    (fun keys keys' hd hb hw => ?_) (fun keys _ hs => hs) ht
    hl hn (hst.imp_left fun hon c hc => hn [] List.nil_prefix c (hon c hc))
  · rcases hr with hal | ⟨deadline, hde, hp⟩
    · exact hal ctx (RtpRxKeys.mem_srtcp_of_checkRekeySwitchover hct)
    have hon := (RtpRxKeys.checkRekeySwitchover_expired hde hp).2
    apply hn after (List.prefix_refl after)
    rw [← RtpRxKeys.newest_srtcp_checkRekeySwitchover _ ev.now]
    exact newest_of_mem hon hct
  intro c hc
  rcases hd.srtcp c hc with hne | ⟨b, hb', hsame⟩
  · exact hw c hne
  obtain ⟨material, hsi, hh⟩ := hb b hb'
  exact ⟨material, hsi, hsame.holds hh⟩

end

/-- The tracked text is the key of the newest context of either protocol, and a second
context has a deadline. -/
structure KeysTracked (P : Primitives) (keys : RtpRxKeys) : Prop where
  deadline : keys.srtp.rxNew.isSome ∨ keys.srtcp.rxNew.isSome → keys.rekeySwitchover.isSome
  srtp : ∀ ctx, keys.srtp.newest = some ctx → ∃ text material,
    keys.srtpRxKeyB64 = some text ∧ base64Decode P text = .ok material ∧ ctx.Holds P material
  srtcp : ∀ ctx, keys.srtcp.newest = some ctx → ∃ text material,
    keys.srtpRxKeyB64 = some text ∧ base64Decode P text = .ok material ∧ ctx.Holds P material
  present : keys.srtpRxKeyB64.isSome → keys.srtp.newest.isSome ∧ keys.srtcp.newest.isSome

theorem keysTracked_of_tracking (h : keys.Tracking P) : KeysTracked P keys := by
  rcases h with rfl | ⟨text, h⟩
  · refine ⟨fun hn => ?_, fun ctx hc => (nomatch hc), fun ctx hc => (nomatch hc),
      fun hso => (nomatch hso)⟩
    rcases hn with hn | hn <;> cases hn
  obtain ⟨material, srtp, srtcp, hd, hsr, hh, hs, hh', -⟩ := h.newest
  refine ⟨h.deadline, fun ctx hc => ?_, fun ctx hc => ?_, fun _ => ?_⟩
  · grind [h.tracked]
  · grind [h.tracked]
  · rw [hsr, hs]
    exact ⟨rfl, rfl⟩

/-- Once the newest context took a datagram in the last call of `before`, or the
deadline has passed at the next call, a datagram that `ev` accepts after `after` is one
of a key tracked since `before`; RTP and RTCP are judged on their own. -/
structure OldKeysRefused (P : Primitives) (ep : RtpEndpoint) (before after : List RtpEvent)
    (ev : RtpEvent) : Prop where
  rtp : (∃ pre last, before = pre ++ [last] ∧
        RtpTakenByNewest P (exec (step P) ep pre) last) ∨
      DeadlinePassed (exec (step P) ep before) (after ++ [ev]) →
    ∀ data source receivedAt packet, ev.call = .handleRtpAt data source receivedAt →
      ((exec (step P) ep (before ++ after)).step P ev).2.packet? = some packet →
        ∃ ctx ∈ (exec (step P) ep (before ++ after)).rxKeys.srtp,
          ctx.Verifies P (ctx.estimate data).1 data ∧
          ∃ material, TrackedSince P (exec (step P) ep before) after material ∧
            ctx.Holds P material
  rtcp : (∃ pre last, before = pre ++ [last] ∧
        RtcpTakenByNewest P (exec (step P) ep pre) last) ∨
      DeadlinePassed (exec (step P) ep before) (after ++ [ev]) →
    ∀ data source receivedAt plain, ev.call = .handleRtcpAt data source receivedAt →
      ((exec (step P) ep (before ++ after)).step P ev).2.rtcp? = some plain →
        ∃ ctx ∈ (exec (step P) ep (before ++ after)).rxKeys.srtcp, ctx.Verifies P data ∧
          ∃ material, TrackedSince P (exec (step P) ep before) after material ∧
            ctx.Holds P material

theorem exec_concat (ep : RtpEndpoint) (pre : List RtpEvent) (last : RtpEvent) :
    exec (step P) ep (pre ++ [last]) = ((exec (step P) ep pre).step P last).1 := by
  rw [exec_append]
  rfl

theorem Created.oldKeysRefused (h : Created P ep) {before : List RtpEvent}
    (hcl : (after ++ [ev]).Pairwise fun a b => a.now ≤ b.now)
    (hl : Along (step P) (NoLateRekey P) (exec (step P) ep before) after) :
    OldKeysRefused P ep before after ev := by
  have ht := h.tracking_exec before
  constructor
  · intro htr data source receivedAt packet hc hpa
    rw [exec_append] at hpa ⊢
    rcases htr with ⟨pre, last, rfl, hta⟩ | hp
    · rw [exec_concat] at ht hl hpa ⊢
      obtain ⟨ha, ho⟩ := newest_of_rtpTaken hta
      exact rtp_tracked_since ht hl ha (Or.inl ho) hc hpa
    · exact rtp_tracked_since ht hl (hp.hasSrtp ht)
        (Or.inr (hp.forall hcl)) hc hpa
  intro htr data source receivedAt plain hc hpl
  have hpi := (h.secured_exec (before ++ after)).paired
  rw [exec_append] at hpl hpi ⊢
  rcases htr with ⟨pre, last, rfl, hta⟩ | hp
  · rw [exec_concat] at ht hl hpl hpi ⊢
    obtain ⟨ha, ho⟩ := newest_of_rtcpTaken hta
    have hsr : ((exec (step P) ep pre).step P last).1.hasSrtp = true := by
      have hpr := (h.secured_exec (pre ++ [last])).paired
      rw [exec_concat] at hpr
      exact hpr.symm.trans ha
    exact rtcp_tracked_since ht hl (hpi.trans (hasSrtp_exec hsr after))
      (Or.inl ho) hc hpl
  exact rtcp_tracked_since ht hl
    (hpi.trans (hasSrtp_exec (hp.hasSrtp ht) after))
    (Or.inr (hp.forall hcl)) hc hpl

/-- After every run of an endpoint the tracked key is that of its newest contexts and a
second context has a deadline; no call makes the tracked key live longer; and with a
clock that does not run back, old keys are refused after a switchover as long as no
description with another key comes between the deadline and the next packet. -/
theorem rekey_switchover_safe (P : Primitives) {ep : RtpEndpoint} (hcreated : Created P ep)
    (before : List RtpEvent) :
    KeysTracked P (exec (step P) ep before).rxKeys ∧
    (∀ ev, ((exec (step P) ep before).step P ev).1.rxKeys.srtpRxKeyB64 =
        (exec (step P) ep before).rxKeys.srtpRxKeyB64 →
      NoLongerLived (exec (step P) ep before).rxKeys
        ((exec (step P) ep before).step P ev).1.rxKeys) ∧
    ∀ after ev, (before ++ after ++ [ev]).Pairwise (fun a b => a.now ≤ b.now) →
      Along (step P) (NoLateRekey P) (exec (step P) ep before) after →
        OldKeysRefused P ep before after ev := by
  have htracking := hcreated.tracking_exec before
  refine ⟨keysTracked_of_tracking htracking, ?_, ?_⟩
  · intro ev hsame
    exact (step_rxKeys P _ ev).noLongerLived htracking hsame
  grind [hcreated.oldKeysRefused]

def sampleKeyA : Text := List.replicate 40 'A'
def sampleKeyB : Text := List.replicate 40 'B'

/-- The answer with one key and, five seconds before the datagram, an offer with the
sample key. -/
theorem sampleRekeyed_safe :
    OldKeysRefused .reference ((sampleOffering .srtp).withSourceNetworks [])
      [⟨1, 0, .acceptAnswer (sampleSecureSdp sampleKeyA) (Vector.replicate 30 2)⟩,
        ⟨2, 0, .updateRemoteSdp (sampleSecureSdp sampleKey) (Vector.replicate 30 2)⟩]
      [⟨6000000000, 0, .checkRekeySwitchover⟩]
      ⟨6000000001, 0, .handleRtpAt SrtpContext.sampleDatagram sampleSource 6000000001⟩ ∧
    DeadlinePassed (exec (step .reference) ((sampleOffering .srtp).withSourceNetworks [])
      [⟨1, 0, .acceptAnswer (sampleSecureSdp sampleKeyA) (Vector.replicate 30 2)⟩,
        ⟨2, 0, .updateRemoteSdp (sampleSecureSdp sampleKey) (Vector.replicate 30 2)⟩])
      [⟨6000000000, 0, .checkRekeySwitchover⟩,
        ⟨6000000001, 0, .handleRtpAt SrtpContext.sampleDatagram sampleSource 6000000001⟩] ∧
    (((exec (step .reference) ((sampleOffering .srtp).withSourceNetworks [])
      [⟨1, 0, .acceptAnswer (sampleSecureSdp sampleKeyA) (Vector.replicate 30 2)⟩,
        ⟨2, 0, .updateRemoteSdp (sampleSecureSdp sampleKey) (Vector.replicate 30 2)⟩,
        ⟨6000000000, 0, .checkRekeySwitchover⟩]).step .reference
      ⟨6000000001, 0, .handleRtpAt SrtpContext.sampleDatagram sampleSource
        6000000001⟩).2.packet?).isSome = true := by
  refine ⟨?_, ⟨5000000002, _, by decide +kernel, rfl, by decide⟩, by decide +kernel⟩
  refine (rekey_switchover_safe .reference (sampleOffering_created .srtp) _).2.2 _ _ ?_
    ⟨?_, trivial⟩
  · simp
  · intro sdp crypto deadline hsdp
    cases hsdp

def sampleSwitching : List RtpEvent :=
  [⟨0, 0, .acceptAnswer (sampleSecureSdp sampleKey) (Vector.replicate 30 2)⟩,
    ⟨0, 0, .updateRemoteSdp (sampleSecureSdp sampleKeyA) (Vector.replicate 30 2)⟩]

def sampleSwitched : RtpEndpoint :=
  exec (step .reference) ((sampleOffering .srtp).withSourceNetworks []) sampleSwitching

def sampleLateRekey : RtpEvent :=
  ⟨6000000000, 0, .updateRemoteSdp (sampleSecureSdp sampleKeyB) (Vector.replicate 30 2)⟩

def sampleLateDatagram : RtpEvent :=
  ⟨7000000000, 0, .handleRtpAt SrtpContext.sampleDatagram sampleSource 7000000000⟩

theorem sampleSwitched_run : sampleSwitched.rxKeys.srtpRxKeyB64 = some sampleKeyA ∧
    sampleSwitched.rxKeys.rekeySwitchover = some 5000000000 ∧
    (sampleSwitched.step .reference sampleLateRekey).1.rxKeys.srtpRxKeyB64 = some sampleKeyB ∧
    (sampleSwitched.step .reference sampleLateRekey).1.rxKeys.srtp.rx.all (fun ctx =>
      decide (¬ ctx.Holds .reference (List.replicate 30 0) ∧
        ¬ ctx.Holds .reference (List.replicate 10 [4, 16, 65]).flatten)) = true ∧
    (sampleSwitched.step .reference sampleLateRekey).1.rxKeys.srtp.rxNew.all (fun ctx =>
      decide (¬ ctx.Verifies .reference (ctx.estimate SrtpContext.sampleDatagram).1
        SrtpContext.sampleDatagram)) = true ∧
    (((sampleSwitched.step .reference sampleLateRekey).1.step .reference
      sampleLateDatagram).2.packet?).isSome = true := by
  decide +kernel

theorem sampleSwitched_tracked
    (h : TrackedSince .reference sampleSwitched [sampleLateRekey] material) :
    material = List.replicate 30 0 ∨ material = (List.replicate 10 [4, 16, 65]).flatten := by
  obtain ⟨mid, hm, text, ht, hd⟩ := h
  obtain ⟨hf, -, hs, -⟩ := sampleSwitched_run
  rcases List.prefix_cons_iff.mp hm with rfl | ⟨rest, rfl, hr⟩
  · have hk : text = sampleKeyA := Option.some.inj (ht.symm.trans hf)
    rw [hk] at hd
    exact Or.inl (Except.ok.inj (hd.symm.trans rfl))
  rw [List.prefix_nil.mp hr] at ht
  have hk : text = sampleKeyB := Option.some.inj (ht.symm.trans hs)
  rw [hk] at hd
  exact Or.inr (Except.ok.inj (hd.symm.trans rfl))

/-- A description with a third key, a second after the deadline, keeps the first key in
use: its datagram is accepted seven seconds after it was replaced. -/
theorem sampleSwitched_late : DeadlinePassed sampleSwitched [sampleLateRekey, sampleLateDatagram] ∧
    ¬ OldKeysRefused .reference ((sampleOffering .srtp).withSourceNetworks []) sampleSwitching
      [sampleLateRekey] sampleLateDatagram := by
  obtain ⟨-, hdeadline, -, hrx, hnew, hrouted⟩ := sampleSwitched_run
  have hpassed : DeadlinePassed sampleSwitched [sampleLateRekey, sampleLateDatagram] :=
    ⟨5000000000, sampleLateRekey, hdeadline, rfl, by decide⟩
  refine ⟨hpassed, fun hrefused => ?_⟩
  obtain ⟨packet, hpacket⟩ := Option.isSome_iff_exists.mp hrouted
  have hrtp := hrefused.rtp (Or.inr hpassed) _ _ _ packet rfl
  have hsplit : exec (step .reference) ((sampleOffering .srtp).withSourceNetworks [])
      (sampleSwitching ++ [sampleLateRekey]) =
        (sampleSwitched.step .reference sampleLateRekey).1 := exec_concat _ _ _
  rw [hsplit] at hrtp
  obtain ⟨ctx, hctx, hverifies, material, hsince, hholds⟩ := hrtp hpacket
  rcases hctx with hctx | hctx
  · rw [hctx] at hrx
    obtain ⟨hnotA, hnotB⟩ := of_decide_eq_true hrx
    rcases sampleSwitched_tracked hsince with rfl | rfl
    · exact hnotA hholds
    · exact hnotB hholds
  · rw [hctx] at hnew
    exact of_decide_eq_true hnew hverifies

end RtpEndpoint
end RtpBridge.Session
