/-
No SRTP datagram is delivered twice, across renegotiation.
-/
import RtpBridge.Session.Rtp.Rekey

namespace RtpBridge.Session

open Srtp Sdp Rtp Rtcp Wire Option Machine
open List hiding Vector

variable {ep s : RtpEndpoint} {data datagram material : Bytes} {index : UInt64}
  {delivered : List Bytes} {P : Primitives} {ctx : SrtpContext} {tr : List (RtpEvent × RtpOutcome)}
  {ev : RtpEvent}

/-! ## One key -/

abbrev Sender := Bytes → Option (Bytes × UInt64)

variable {sender : Sender}

def sentUnder (sender : Sender) (material : Bytes) (delivered : List Bytes) : List (UInt32 × Nat) :=
  delivered.filterMap fun datagram =>
    match sender datagram with
    | none => none
    | some (key, index) => if key = material then some (rtpSsrc datagram, index.toNat) else none

theorem sentUnder_append (sender : Sender) (material : Bytes) (delivered : List Bytes)
    (datagram : Bytes) :
    sentUnder sender material (delivered ++ [datagram]) =
      sentUnder sender material delivered ++ sentUnder sender material [datagram] :=
  filterMap_append

theorem sentUnder_own (h : sender datagram = some (material, index)) :
    sentUnder sender material [datagram] = [(rtpSsrc datagram, index.toNat)] := by
  simp [sentUnder, h]

theorem sentUnder_other {other : Bytes} (h : sender datagram = some (other, index))
    (hne : other ≠ material) : sentUnder sender material [datagram] = [] := by
  simp [sentUnder, h, hne]

theorem mem_sentUnder (hm : datagram ∈ delivered) (h : sender datagram = some (material, index)) :
    (rtpSsrc datagram, index.toNat) ∈ sentUnder sender material delivered := by
  refine mem_filterMap.mpr ⟨datagram, hm, ?_⟩
  simp [h]

structure Covers (P : Primitives) (sender : Sender) (delivered : List Bytes) (material : Bytes)
    (ctx : SrtpContext) : Prop where
  holds : ctx.Holds P material
  windows : Window.TracksAll ctx.window (sentUnder sender material delivered)

theorem Covers.unprotect (h : Covers P sender delivered material ctx) (datagram : Bytes) :
    Covers P sender delivered material (ctx.unprotect P datagram).1 := by
  refine ⟨(ctx.unprotect_kept P datagram).1.holds h.holds, ?_⟩
  rcases ctx.receive_window P datagram with ⟨hr, -⟩ | ⟨hsame, -⟩
  · exact h.windows.received_unseen hr
  intro ssrc
  rw [show (ctx.unprotect P datagram).1.window ssrc = ctx.window ssrc from hsame ssrc]
  exact h.windows ssrc

theorem Covers.accept (h : Covers P sender delivered material ctx) {plain : Bytes}
    (ho : (ctx.unprotect P datagram).2 = .ok plain)
    (hs : sender datagram = some (material, (ctx.estimate datagram).2)) :
    datagram ∉ delivered ∧
      Covers P sender (delivered ++ [datagram]) material (ctx.unprotect P datagram).1 := by
  have ht : (ctx.receive P datagram).2 ≠ none := by
    simp [SrtpContext.receive, ho]
  rcases ctx.receive_window P datagram with ⟨hr, -⟩ | ⟨-, hn⟩
  · constructor
    · intro hm
      exact h.windows.not_mem hr (mem_sentUnder hm hs)
    refine ⟨(ctx.unprotect_kept P datagram).1.holds h.holds, ?_⟩
    rw [sentUnder_append, sentUnder_own hs]
    exact h.windows.received hr
  · exact absurd hn ht

theorem Covers.other {other : Bytes} (h : Covers P sender delivered material ctx)
    (hs : sender datagram = some (other, index)) (hne : other ≠ material) :
    Covers P sender (delivered ++ [datagram]) material ctx := by
  refine ⟨h.holds, ?_⟩
  rw [sentUnder_append, sentUnder_other hs hne, append_nil]
  exact h.windows

theorem Covers.tighten (h : Covers P sender delivered material ctx) (lifetime : Nat) :
    Covers P sender delivered material (ctx.tightenPacketLifetime lifetime) :=
  ⟨h.holds, h.windows⟩

/-! ## The contexts of an endpoint -/

def Recorded (P : Primitives) (sender : Sender) (seen delivered : List Bytes)
    (sw : Switchover SrtpContext) : Prop :=
  ∃ old new, old ≠ new ∧
    (∀ ctx, sw.rx = some ctx → old ∈ seen ∧ Covers P sender delivered old ctx) ∧
    ∀ ctx, sw.rxNew = some ctx → new ∈ seen ∧ Covers P sender delivered new ctx

section

variable {P : Primitives} {sender : Sender} {seen delivered : List Bytes}
  {sw sw' : Switchover SrtpContext}

theorem Recorded.mono {seen' : List Bytes} (h : Recorded P sender seen delivered sw)
    (hs : seen ⊆ seen') : Recorded P sender seen' delivered sw := by
  obtain ⟨old, new, hne, hold, hn⟩ := h
  exact ⟨old, new, hne, fun ctx hc => ⟨hs (hold ctx hc).1, (hold ctx hc).2⟩,
    fun ctx hc => ⟨hs (hn ctx hc).1, (hn ctx hc).2⟩⟩

theorem recorded_one (hs : material ∈ seen) (h : Covers P sender delivered material ctx) :
    Recorded P sender seen delivered { rx := some ctx, rxNew := none } := by
  refine ⟨material, material ++ [0], fun heq => ?_, ?_, ?_⟩
  · have hl := congrArg List.length heq
    simp at hl
  · rintro _ ⟨⟩
    exact ⟨hs, h⟩
  · rintro _ ⟨⟩

theorem recorded_none : Recorded P sender seen delivered {} := by
  refine ⟨[], [0], cons_ne_nil _ _ |>.symm, ?_, ?_⟩
  · rintro _ ⟨⟩
  · rintro _ ⟨⟩

theorem Recorded.promote (h : Recorded P sender seen delivered sw) :
    Recorded P sender seen delivered sw.promote := by
  obtain ⟨rx, rxNew⟩ := sw
  cases rxNew with
  | none => exact h
  | some new =>
    obtain ⟨-, material, -, -, hn⟩ := h
    obtain ⟨hs, hc⟩ := hn new rfl
    exact recorded_one hs hc

theorem Recorded.tighten (h : Recorded P sender seen delivered sw) (lifetime : Nat) :
    Recorded P sender seen delivered (sw.mapNewest (·.tightenPacketLifetime lifetime)) := by
  obtain ⟨old, new, hne, hold, hn⟩ := h
  obtain ⟨rx, rxNew⟩ := sw
  cases rxNew with
  | none =>
    refine ⟨old, new, hne, ?_, fun ctx hc => (nomatch hc)⟩
    intro ctx hc
    obtain ⟨b, hb, rfl⟩ := map_eq_some_iff.mp hc
    exact ⟨(hold b hb).1, (hold b hb).2.tighten lifetime⟩
  | some b =>
    refine ⟨old, new, hne, hold, ?_⟩
    rintro _ ⟨⟩
    exact ⟨(hn b rfl).1, (hn b rfl).2.tighten lifetime⟩

theorem Recorded.receive {out : Option Bytes} (h : Recorded P sender seen delivered sw)
    (hr : Switchover.Receives (SrtpContext.unprotect P) data sw sw' out) :
    Recorded P sender seen delivered sw' := by
  obtain ⟨old, new, hne, hold, hn⟩ := h
  have hm : ∀ {material : Bytes} {o : Option SrtpContext},
      (∀ ctx, o = some ctx → material ∈ seen ∧ Covers P sender delivered material ctx) →
      ∀ ctx, o.map (fun b => (b.unprotect P data).1) = some ctx →
        material ∈ seen ∧ Covers P sender delivered material ctx := by
    intro material o ho ctx hct
    obtain ⟨b, hb, rfl⟩ := map_eq_some_iff.mp hct
    exact ⟨(ho b hb).1, (ho b hb).2.unprotect data⟩
  cases hr with
  | plain => exact ⟨old, new, hne, hold, hn⟩
  | @newAccepts rx c c' plain hc =>
    have hco := (hn c rfl).2.unprotect data
    rw [hc] at hco
    exact recorded_one (hn c rfl).1 hco
  | @oldAccepts rxNew c c' plain hc hre =>
    have hco := (hold c rfl).2.unprotect data
    rw [hc] at hco
    refine ⟨old, new, hne, ?_, hm hn⟩
    rintro _ ⟨⟩
    exact ⟨(hold c rfl).1, hco⟩
  | refused ha hrx hrN => exact ⟨old, new, hne, hm hold, hm hn⟩

theorem Recorded.deliver {plain : Bytes} (h : Recorded P sender seen delivered sw)
    (hr : Switchover.Receives (SrtpContext.unprotect P) data sw sw' (some plain))
    (hac : sw.active = true) (hg : ∀ ctx ∈ sw, ∀ material ∈ seen, ctx.Holds P material →
      ctx.Verifies P (ctx.estimate data).1 data →
        sender data = some (material, (ctx.estimate data).2)) :
    data ∉ delivered ∧ (∃ material ∈ seen, ∃ index, sender data = some (material, index)) ∧
      Recorded P sender seen (delivered ++ [data]) sw' := by
  obtain ⟨old, new, hne, hold, hn⟩ := h
  cases hr with
  | plain => cases hac
  | @newAccepts rx c c' plain hc =>
    obtain ⟨hs, hco⟩ := hn c rfl
    have ho : (c.unprotect P data).2 = .ok plain := by rw [hc]
    have hse := hg c (Or.inr rfl) new hs hco.holds
      (SrtpContext.verifies_of_unprotect P ho)
    grind [hco.accept, recorded_one]
  | @oldAccepts rxNew c c' plain hc hre =>
    obtain ⟨hs, hco⟩ := hold c rfl
    have ho : (c.unprotect P data).2 = .ok plain := by rw [hc]
    have hse := hg c (Or.inl rfl) old hs hco.holds
      (SrtpContext.verifies_of_unprotect P ho)
    obtain ⟨hf, ha⟩ := hco.accept ho hse
    rw [hc] at ha
    refine ⟨hf, ⟨old, hs, _, hse⟩, old, new, hne, ?_, ?_⟩
    · rintro _ ⟨⟩
      exact ⟨hs, ha⟩
    intro ctx hct
    obtain ⟨b, hb, rfl⟩ := map_eq_some_iff.mp hct
    exact ⟨(hn b hb).1, ((hn b hb).2.unprotect data).other hse hne⟩

theorem covers_fresh (hf : material ∉ seen)
    (hs : ∀ d ∈ delivered, ∃ key ∈ seen, ∃ index, sender d = some (key, index)) (lifetime : Nat) :
    Covers P sender delivered material (SrtpContext.ofKeyMaterial P material lifetime) := by
  have hn : sentUnder sender material delivered = [] := by
    refine filterMap_eq_nil_iff.mpr ?_
    intro d hd
    obtain ⟨key, hk, index, hi⟩ := hs d hd
    have hne : key ≠ material := fun heq => hf (heq ▸ hk)
    simp [hi, hne]
  refine ⟨⟨rfl, rfl, rfl⟩, ?_⟩
  rw [hn]
  exact Window.tracksAll_nil _

end

/-! ## The keys and datagrams of a run -/

def appliedCrypto (P : Primitives) (x : RtpEvent × RtpOutcome) : Option SdpCrypto :=
  (RtpEndpoint.appliedSdp x).bind fun sdp => (parseSdp P sdp).crypto

def materialOf (P : Primitives) (text : Text) : Option Bytes := (base64Decode P text).toOption

theorem materialOf_eq {text : Text} (h : base64Decode P text = .ok material) :
    materialOf P text = some material := by
  rw [materialOf, h]
  rfl

def keysSeen (P : Primitives) (ep : RtpEndpoint) (tr : List (RtpEvent × RtpOutcome)) : List Bytes :=
  (ep.rxKeys.srtpRxKeyB64.bind (materialOf P)).toList ++
    tr.filterMap fun x => (appliedCrypto P x).bind fun crypto => materialOf P crypto.keyB64

def deliveredDatagram (x : RtpEvent × RtpOutcome) : Option Bytes :=
  match x.1.call, x.2.packet? with
  | .handleRtpAt data _ _, some _ => some data
  | _, _ => none

theorem keysSeen_append (P : Primitives) (ep : RtpEndpoint) (tr : List (RtpEvent × RtpOutcome))
    (x : RtpEvent × RtpOutcome) : keysSeen P ep tr ⊆ keysSeen P ep (tr ++ [x]) := by
  simp [keysSeen]

theorem mem_keysSeen_append {x : RtpEvent × RtpOutcome} {crypto : SdpCrypto}
    (hc : appliedCrypto P x = some crypto)
    (hd : base64Decode P crypto.keyB64 = .ok material) :
    material ∈ keysSeen P ep (tr ++ [x]) := by
  grind [keysSeen, materialOf_eq]

namespace RtpEndpoint

def FreshKey (P : Primitives) (ep : RtpEndpoint) (tr : List (RtpEvent × RtpOutcome))
    (s : RtpEndpoint) (ev : RtpEvent) : Prop :=
  ∀ crypto, appliedCrypto P (ev, (s.step P ev).2) = some crypto →
    s.rxKeys.srtpRxKeyB64 = some crypto.keyB64 ∨
      ∀ material, base64Decode P crypto.keyB64 = .ok material → material ∉ keysSeen P ep tr

/-- A datagram that verifies under a key of the run was protected with this key and with
the index it is checked with. -/
def Genuine (P : Primitives) (sender : Sender) (ep : RtpEndpoint)
    (tr : List (RtpEvent × RtpOutcome)) (s : RtpEndpoint) (ev : RtpEvent) : Prop :=
  ∀ data source receivedAt, ev.call = .handleRtpAt data source receivedAt →
    ∀ ctx ∈ s.rxKeys.srtp, ∀ material ∈ keysSeen P ep tr, ctx.Holds P material →
      ctx.Verifies P (ctx.estimate data).1 data →
        sender data = some (material, (ctx.estimate data).2)

structure History (P : Primitives) (sender : Sender) (seen delivered : List Bytes)
    (ep : RtpEndpoint) : Prop where
  tracking : ep.rxKeys.Tracking P
  recorded : Recorded P sender seen delivered ep.rxKeys.srtp
  sent : ∀ d ∈ delivered, ∃ key ∈ seen, ∃ index, sender d = some (key, index)
  nodup : delivered.Nodup

theorem recorded_of_update {seen seen' : List Bytes} {now : Nat} {crypto : Option SdpCrypto}
    {keys keys' : RtpRxKeys} (hu : RxUpdate P now crypto keys keys')
    (ht : keys.Tracking P) (h : Recorded P sender seen delivered keys.srtp)
    (hs : ∀ d ∈ delivered, ∃ key ∈ seen, ∃ index, sender d = some (key, index))
    (hsu : seen ⊆ seen')
    (hse : ∀ c material, crypto = some c → base64Decode P c.keyB64 = .ok material →
      material ∈ seen') (hf : ∀ c, crypto = some c → keys.srtpRxKeyB64 = some c.keyB64 ∨
      ∀ material, base64Decode P c.keyB64 = .ok material → material ∉ seen) :
    Recorded P sender seen' delivered keys'.srtp := by
  cases hu with
  | none => exact h.mono hsu
  | @some c material keys keys' hd hi =>
    have hm := hse c material rfl hd
    cases hi with
    | first hrx =>
      rcases ht with rfl | ⟨text, hte⟩
      · have hn := (hf c rfl).resolve_left (fun hsame => nomatch hsame) material hd
        exact recorded_one hm (covers_fresh hn hs _)
      have hso := hte.rx
      rw [hrx] at hso
      cases hso
    | rekey hrx hk =>
      have hn := (hf c rfl).resolve_left hk material hd
      obtain ⟨old, -, -, hold, -⟩ := h
      obtain ⟨ctx, hc⟩ := isSome_iff_exists.mp hrx
      refine ⟨old, material, fun heq => hn (heq ▸ (hold ctx hc).1), ?_, ?_⟩
      · intro b hb
        exact ⟨hsu (hold b hb).1, (hold b hb).2⟩
      · rintro _ ⟨⟩
        exact ⟨hm, covers_fresh hn hs _⟩
    | same hrx hk => exact (h.tighten _).mono hsu

theorem recorded_checkRekeySwitchover {seen : List Bytes} {keys : RtpRxKeys}
    (h : Recorded P sender seen delivered keys.srtp) (now : Nat) :
    Recorded P sender seen delivered (keys.checkRekeySwitchover now).srtp := by
  unfold RtpRxKeys.checkRekeySwitchover
  split
  · exact h.promote
  · exact h

theorem Stepped.recorded {s' : RtpEndpoint} {out : RtpOutcome} (hst : Stepped P s ev s' out)
    (hf : ∀ crypto, appliedCrypto P (ev, out) = some crypto →
      s.rxKeys.srtpRxKeyB64 = some crypto.keyB64 ∨
        ∀ material, base64Decode P crypto.keyB64 = .ok material → material ∉ keysSeen P ep tr)
    (h : History P sender (keysSeen P ep tr) delivered s) :
    Recorded P sender (keysSeen P ep (tr ++ [(ev, out)])) delivered s'.rxKeys.srtp := by
  have hsu := keysSeen_append P ep tr (ev, out)
  have hsame := h.recorded.mono hsu
  have hc := recorded_checkRekeySwitchover hsame ev.now
  cases hst with
  | refused out hou => exact hsame
  | answered hca ha htx =>
    grind [recorded_of_update, ha.rx, h.tracking, h.recorded, h.sent, mem_keysSeen_append,
      appliedCrypto, appliedSdp]
  | described hca ha htx hop hse =>
    grind [recorded_of_update, ha.rx, h.tracking, h.recorded, h.sent, mem_keysSeen_append,
      appliedCrypto, appliedSdp]
  | switchover hca => exact hc
  | reset hca => exact hsame
  | rtp hca hh =>
    cases hh with
    | rejected hs => exact hc
    | ignored => exact hc
    | dropped => exact hc.receive (Switchover.receives _ _ _)
    | accepted hs ho hhe => exact hc.receive (Switchover.receives _ _ _)
  | rtcp hca hh =>
    cases hh with
    | rejected hs => exact hc
    | dropped => exact hc
    | accepted hs ho hv => exact hc
  | rekeyed hca hq => exact hq.rxKeys ▸ hsame
  | wrote hq => exact hq.rxKeys ▸ hsame
  | adjusted hca hq => exact hq.rxKeys ▸ hsame

theorem History.quiet_step (h : History P sender (keysSeen P ep tr) delivered s)
    (hf : FreshKey P ep tr s ev) :
    History P sender (keysSeen P ep (tr ++ [(ev, (s.step P ev).2)])) delivered
      (s.step P ev).1 := by
  refine ⟨(step_rxKeys P s ev).tracking h.tracking, (step_cases P s ev).recorded hf h, ?_, h.nodup⟩
  grind [h.sent, keysSeen_append]

theorem deliveredDatagram_eq_some {x : RtpEvent × RtpOutcome}
    (h : deliveredDatagram x = some data) :
    ∃ source receivedAt packet, x.1.call = .handleRtpAt data source receivedAt ∧
      x.2.packet? = some packet := by grind [deliveredDatagram]

theorem History.step (h : History P sender (keysSeen P ep tr) delivered s)
    (ha : s.hasSrtp = true) (hf : FreshKey P ep tr s ev)
    (hg : Genuine P sender ep tr s ev) :
    History P sender (keysSeen P ep (tr ++ [(ev, (s.step P ev).2)]))
      (delivered ++ (deliveredDatagram (ev, (s.step P ev).2)).toList) (s.step P ev).1 := by
  have hq := h.quiet_step hf
  cases hd : deliveredDatagram (ev, (s.step P ev).2) with
  | none =>
    rw [toList_none, append_nil]
    exact hq
  | some data =>
    obtain ⟨source, receivedAt, packet, hca, hp⟩ := deliveredDatagram_eq_some hd
    obtain ⟨-, ⟨plain, hpl⟩, hk⟩ := decrypted_of_packet hca hp
    have hr := Switchover.receives (SrtpContext.unprotect P)
      (s.rxKeys.checkRekeySwitchover ev.now).srtp data
    rw [show (Switchover.receive (SrtpContext.unprotect P)
      (s.rxKeys.checkRekeySwitchover ev.now).srtp data).2 = some plain from hpl] at hr
    have hc : (s.rxKeys.checkRekeySwitchover ev.now).srtp.active = true :=
      (RtpRxKeys.hasSrtp_checkRekeySwitchover _ _).trans ha
    have hv : ∀ ctx ∈ (s.rxKeys.checkRekeySwitchover ev.now).srtp,
        ∀ material ∈ keysSeen P ep tr, ctx.Holds P material →
          ctx.Verifies P (ctx.estimate data).1 data →
            sender data = some (material, (ctx.estimate data).2) := by
      intro ctx hct
      exact hg data source receivedAt hca ctx
        (RtpRxKeys.mem_srtp_of_checkRekeySwitchover hct)
    obtain ⟨hn, ⟨key, hke, hs⟩, hre⟩ :=
      (recorded_checkRekeySwitchover h.recorded ev.now).deliver hr hc hv
    have hsu := keysSeen_append P ep tr (ev, (s.step P ev).2)
    refine ⟨hq.tracking, ?_, ?_, ?_⟩
    · rw [hk]
      exact hre.mono hsu
    · grind [hq.sent]
    · exact nodup_append.mpr ⟨h.nodup, nodup_singleton data, by grind⟩

theorem Created.history (h : Created P ep) (sender : Sender) :
    History P sender (keysSeen P ep []) [] ep := by
  refine ⟨h.tracking, ?_, fun d hd => absurd hd not_mem_nil, nodup_nil⟩
  rcases h.initial.keys with ⟨hrx, -⟩ | ⟨-, crypto, material, hde, hrx⟩
  · rw [hrx]
    exact recorded_none
  have hm : material ∈ keysSeen P ep [] := by
    have hk : ep.rxKeys.srtpRxKeyB64 = some crypto.keyB64 := by rw [hrx]; rfl
    simp [keysSeen, hk, materialOf_eq hde]
  rw [hrx]
  exact recorded_one hm ⟨⟨rfl, rfl, rfl⟩, Window.tracksAll_nil _⟩

theorem History.run {after : List RtpEvent} (h : History P sender (keysSeen P ep tr) delivered s)
    (ha : s.hasSrtp = true) (hru : AlongFrom (RtpEndpoint.step P)
      (fun tr s ev => FreshKey P ep tr s ev ∧ Genuine P sender ep tr s ev) tr s after) :
    (delivered ++ (trace (RtpEndpoint.step P) s after).filterMap deliveredDatagram).Nodup := by
  induction after generalizing s tr delivered with
  | nil =>
    show (delivered ++ []).Nodup
    rw [append_nil]
    exact h.nodup
  | cons ev rest ih =>
    obtain ⟨⟨hf, hg⟩, hr⟩ := hru
    have hn := ih (h.step ha hf hg) ((step_rxKeys P s ev).hasSrtp ha) hr
    rw [trace_cons]
    grind

/-- From the moment an endpoint has SRTP, no datagram is delivered twice, in every run
whose applied descriptions do not go back to an earlier key. -/
theorem srtp_datagram_delivered_once (P : Primitives) {ep : RtpEndpoint}
    (hcreated : Created P ep) (sender : Sender) (before after : List RtpEvent)
    (hactive : (exec (step P) ep before).hasSrtp = true)
    (hrun : Along (step P)
      (fun tr s ev => FreshKey P ep tr s ev ∧ Genuine P sender ep tr s ev) ep (before ++ after)) :
    ((trace (step P) (exec (step P) ep before) after).filterMap
      deliveredDatagram).Nodup := by
  obtain ⟨hbefore, hafter⟩ := (alongFrom_append [] ep before after).mp hrun
  have hhistory := along_induction
    (P := fun tr s => History P sender (keysSeen P ep tr) [] s) (hcreated.history sender)
    (fun tr s ev hC hs => hs.quiet_step hC.1) hbefore
  have hnodup := hhistory.run hactive hafter
  rwa [nil_append] at hnodup

/-! ## A concrete run -/

def freshFor (P : Primitives) (ep : RtpEndpoint) (tr : List (RtpEvent × RtpOutcome))
    (s : RtpEndpoint) (ev : RtpEvent) : Bool :=
  (appliedCrypto P (ev, (s.step P ev).2)).all fun crypto =>
    (materialOf P crypto.keyB64).all fun material => decide (material ∉ keysSeen P ep tr)

theorem freshKey_of_freshFor (h : freshFor P ep tr s ev = true) : FreshKey P ep tr s ev := by
  intro crypto hcrypto
  right
  intro material hdecode
  rw [freshFor, hcrypto, all_some, materialOf_eq hdecode] at h
  exact of_decide_eq_true h

def genuineFor (P : Primitives) (sender : Sender) (ep : RtpEndpoint)
    (tr : List (RtpEvent × RtpOutcome)) (s : RtpEndpoint) (ev : RtpEvent) : Bool :=
  match ev.call with
  | .handleRtpAt data _ _ =>
    (s.rxKeys.srtp.rx.toList ++ s.rxKeys.srtp.rxNew.toList).all fun ctx =>
      (keysSeen P ep tr).all fun material =>
        decide (ctx.Verifies P (ctx.estimate data).1 data → ctx.Holds P material →
          sender data = some (material, (ctx.estimate data).2))
  | _ => true

theorem genuine_of_genuineFor (h : genuineFor P sender ep tr s ev = true) :
    Genuine P sender ep tr s ev := by
  intro data source receivedAt hca ctx hc material hm hh hv
  rw [genuineFor, hca] at h
  have hme : ctx ∈ s.rxKeys.srtp.rx.toList ++ s.rxKeys.srtp.rxNew.toList := by
    rcases hc with hrx | hn
    · simp [hrx]
    · simp [hn]
  have ha := all_eq_true.mp (all_eq_true.mp h ctx hme) material hm
  exact of_decide_eq_true ha hv hh

def sampleSender : Sender := fun _ => (materialOf .reference sampleKey).map fun m => (m, 0xFFFF)

def sampleAnswer : RtpEvent :=
  ⟨1, 0, .acceptAnswer (sampleSecureSdp sampleKey) (Vector.replicate 30 2)⟩

def sampleOffer (key : Text) : RtpEvent :=
  ⟨2, 0, .updateRemoteSdp (sampleSecureSdp key) (Vector.replicate 30 2)⟩

def sampleReceived : RtpEvent := ⟨3, 0, .handleRtpAt SrtpContext.sampleDatagram sampleSource 3⟩

def sampleAnswering : RtpEndpoint := (sampleOffering .srtp).withSourceNetworks []

theorem sampleAnswering_run : Along (step .reference)
      (fun tr s ev => genuineFor .reference sampleSender sampleAnswering tr s ev = true)
      sampleAnswering [sampleAnswer, sampleReceived, sampleOffer sampleKeyA, sampleReceived,
        sampleOffer sampleKey, sampleReceived] ∧
    Along (step .reference)
      (fun tr s ev => freshFor .reference sampleAnswering tr s ev = true)
      sampleAnswering [sampleAnswer, sampleReceived, sampleOffer sampleKeyA, sampleReceived] ∧
    (exec (step .reference) sampleAnswering [sampleAnswer]).hasSrtp = true ∧
    (trace (step .reference) (exec (step .reference) sampleAnswering [sampleAnswer])
      [sampleReceived, sampleOffer sampleKeyA, sampleReceived]).filterMap deliveredDatagram =
        [SrtpContext.sampleDatagram] ∧
    (trace (step .reference) (exec (step .reference) sampleAnswering [sampleAnswer])
      [sampleReceived, sampleOffer sampleKeyA, sampleReceived, sampleOffer sampleKey,
        sampleReceived]).filterMap deliveredDatagram =
        [SrtpContext.sampleDatagram, SrtpContext.sampleDatagram] := by
  decide +kernel

theorem sampleAnswering_once :
    (trace (step .reference) (exec (step .reference) sampleAnswering [sampleAnswer])
      [sampleReceived, sampleOffer sampleKeyA, sampleReceived]).filterMap deliveredDatagram =
        [SrtpContext.sampleDatagram] ∧
    ((trace (step .reference) (exec (step .reference) sampleAnswering [sampleAnswer])
      [sampleReceived, sampleOffer sampleKeyA, sampleReceived]).filterMap
        deliveredDatagram).Nodup := by
  obtain ⟨hgenuine, hfresh, hactive, honce, -⟩ := sampleAnswering_run
  refine ⟨honce, srtp_datagram_delivered_once .reference (sampleOffering_created .srtp) sampleSender
    [sampleAnswer] [sampleReceived, sampleOffer sampleKeyA, sampleReceived] hactive ?_⟩
  have hshort := ((alongFrom_append [] sampleAnswering
    [sampleAnswer, sampleReceived, sampleOffer sampleKeyA, sampleReceived]
    [sampleOffer sampleKey, sampleReceived]).mp hgenuine).1
  exact (AlongFrom.and hfresh hshort).imp fun tr s ev h =>
    ⟨freshKey_of_freshFor h.1, genuine_of_genuineFor h.2⟩

/-- A description that goes back to the first key: the datagram is delivered twice,
though it was protected once. -/
theorem sampleAnswering_twice :
    (exec (step .reference) sampleAnswering [sampleAnswer]).hasSrtp = true ∧
    Along (step .reference) (Genuine .reference sampleSender sampleAnswering)
      sampleAnswering [sampleAnswer, sampleReceived, sampleOffer sampleKeyA, sampleReceived,
        sampleOffer sampleKey, sampleReceived] ∧
    ¬ ((trace (step .reference)
      (exec (step .reference) sampleAnswering [sampleAnswer])
      [sampleReceived, sampleOffer sampleKeyA, sampleReceived, sampleOffer sampleKey,
        sampleReceived]).filterMap deliveredDatagram).Nodup := by
  obtain ⟨hgenuine, -, hactive, -, htwice⟩ := sampleAnswering_run
  refine ⟨hactive, AlongFrom.imp (fun tr s ev h => genuine_of_genuineFor h) hgenuine, ?_⟩
  rw [htwice]
  exact fun hnodup => (nodup_cons.mp hnodup).1 (mem_singleton_self _)

end RtpEndpoint
end RtpBridge.Session
