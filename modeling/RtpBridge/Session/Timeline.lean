/-
The wire timeline of the RTP and the WebRTC endpoint.

Both endpoints number and stamp what they send themselves, by the rule of
`Base/Timeline.lean`; a WebRTC endpoint forgets the learned step when the clock
rate changes.  A stamp is read back from the datagram, which is in the clear also
under SRTP.  The rule bounds each step by ten times the step learned last, so the
bound moves with the traffic: a learned step above the nominal one lets the timeline
leap, and one far below it is never corrected.
-/
import RtpBridge.Session.Rtp.LatchSafety
import RtpBridge.Session.WebRtc.Endpoint

namespace RtpBridge.Session

open Srtp Sdp Rtp Wire Machine

/-! ## Stamps -/

structure Stamp (N : Type) where
  seqNo : N
  timestamp : UInt32
  marker : Bool
deriving DecidableEq

namespace Stamp

variable {N : Type} [Add N] [OfNat N 1]

/-- `b` follows `a` on the wire; `switched` says that another source fed it. -/
structure Next (nominal : UInt32) (switched : Prop) (a b : Stamp N) : Prop where
  forward : (b.timestamp - a.timestamp).toNat < 2 ^ 31
  bounded : (b.timestamp - a.timestamp).toNat ≤ 10 * nominal.toNat
  talkSpurt : switched → b.timestamp - a.timestamp ≠ 0 ∧ b.marker = true
  numbered : b.seqNo = a.seqNo + 1

structure Behind (t : Timeline EndpointId) (seqNo : N) (source : EndpointId) (a : Stamp N) :
    Prop where
  lastOut : t.lastOut = some a.timestamp
  lastSource : t.lastSource = some source
  seqNo : seqNo = a.seqNo + 1

end Stamp

def WithinNominal (t : Timeline EndpointId) (nominal : UInt32) : Prop :=
  t.bump nominal ≠ 0 ∧ (t.bump nominal).toNat ≤ nominal.toNat

instance (t : Timeline EndpointId) (nominal : UInt32) : Decidable (WithinNominal t nominal) :=
  inferInstanceAs (Decidable (_ ∧ _))

theorem toNat_div_fifty (clockRate : UInt32) : (clockRate / 50).toNat ≤ 2 ^ 32 / 50 := by
  have hlt := clockRate.toNat_lt
  have hd : (clockRate / 50).toNat = clockRate.toNat / 50 := UInt32.toNat_div _ _
  omega

theorem Stamp.Behind.next {N : Type} [Add N] [OfNat N 1] {t t' : Timeline EndpointId}
    {seqNo : N} {source source' : EndpointId} {a : Stamp N} {nominal ts out : UInt32}
    {marker marker' : Bool} (h : Behind t seqNo source a)
    (ha : t.Advanced nominal source' ts marker (t', out, marker'))
    (hn : nominal.toNat ≤ 2 ^ 32 / 50) (hw : WithinNominal t nominal) :
    Next nominal (source ≠ source') a ⟨seqNo, out, marker'⟩ := by
  have hb := ha.bounded h.lastOut hw.2
  refine ⟨?_, hb, fun hs => ?_, h.seqNo⟩
  · show (out - a.timestamp).toNat < 2 ^ 31
    omega
  apply ha.switched h.lastOut _ hw.1
  rw [h.lastSource]
  exact fun hsame => hs (Option.some.inj hsame)

/-! ## The RTP endpoint -/

def RtpOutbound.timeline (out : RtpOutbound) : Timeline EndpointId :=
  { lastOut := out.lastOutboundTs, lastSource := out.lastSourceId,
    lastSourceTs := out.lastSourceTs, learned := out.learnedStep }

def nominalStep (sendCodec : Option SdpCodec) : UInt32 :=
  (sendCodec.map fun c => c.clockRate / 50).getD 160

theorem toNat_nominalStep (sendCodec : Option SdpCodec) :
    (nominalStep sendCodec).toNat ≤ 2 ^ 32 / 50 := by
  cases sendCodec with
  | none => decide
  | some codec => exact toNat_div_fifty codec.clockRate

theorem RtpOutbound.advanceOutboundTimeline_eq (out : RtpOutbound) (sendCodec : Option SdpCodec)
    (sourceId : EndpointId) (sourceTs : UInt32) (sourceMarker : Bool) :
    let advanced := out.timeline.advance (nominalStep sendCodec) sourceId sourceTs sourceMarker
    out.advanceOutboundTimeline sendCodec sourceId sourceTs sourceMarker =
      ({ out with lastOutboundTs := advanced.1.lastOut, lastSourceId := advanced.1.lastSource,
                  lastSourceTs := advanced.1.lastSourceTs,
                  learnedStep := advanced.1.learned }, advanced.2) := by
  obtain ⟨_, _, _, lastOut, lastSource, lastTs, _, _⟩ := out
  cases lastOut with
  | none => rfl
  | some =>
    cases lastSource with
    | none => rfl
    | some =>
      cases lastTs with
      | none => rfl
      | some => rfl

variable {packet : RoutedRtpPacket}

namespace RtpEndpoint

def Written.stamp? (w : Written) : Option (Stamp UInt16) :=
  (w.datagram.bind fun d => RtpHeader.parse d.2).map fun h =>
    ⟨h.sequenceNumber, h.timestamp, h.marker⟩

theorem rtpHeaderLen_build (payloadType : UInt8) (seqNo : UInt16) (timestamp ssrc : UInt32)
    (marker : Bool) (payload : Bytes) :
    rtpHeaderLen (RtpHeader.build payloadType seqNo timestamp ssrc marker payload) = some 12 := by
  have hl : (RtpHeader.build payloadType seqNo timestamp ssrc marker payload).length =
      12 + payload.length := by
    simp [RtpHeader.build]
    omega
  have hf : byteAt (RtpHeader.build payloadType seqNo timestamp ssrc marker payload) 0 = 0x80 := rfl
  have he : (0x80 : UInt8) &&& 0x10 = 0 := by decide
  rw [rtpHeaderLen, hl, hf]
  simp [he]

theorem sealRtp_build (P : Primitives) (ctx : SrtpContext) (roc : UInt32) (payloadType : UInt8)
    (seqNo : UInt16) (timestamp ssrc : UInt32) (marker : Bool) (payload : Bytes) :
    ∃ rest, ctx.sealRtp P roc 12
        (RtpHeader.build payloadType seqNo timestamp ssrc marker payload) =
      RtpHeader.build payloadType seqNo timestamp ssrc marker rest := by
  have ht : (RtpHeader.build payloadType seqNo timestamp ssrc marker payload).take 12 =
      RtpHeader.build payloadType seqNo timestamp ssrc marker [] := List.take_left' (by simp)
  simp only [SrtpContext.sealRtp, SrtpContext.cryptPayload, ht]
  simp only [RtpHeader.build, List.append_assoc]
  exact ⟨_, rfl⟩

theorem writeRtp_stamp {P : Primitives} {ep : RtpEndpoint} {sendResult : Except String Unit}
    {stamp : Stamp UInt16} (h : (ep.writeRtp P packet sendResult).2.stamp? = some stamp) :
    stamp = ⟨(ep.outboundTimestamp packet).1.seqNo, (ep.outboundTimestamp packet).2.1,
      (ep.outboundTimestamp packet).2.2⟩ ∧
      (ep.writeRtp P packet sendResult).1.outbound = { (ep.outboundTimestamp packet).1 with
            seqNo := (ep.outboundTimestamp packet).1.seqNo + 1,
            lastRtpTimestamp := (ep.outboundTimestamp packet).2.1 } := by
  unfold writeRtp at h ⊢
  split at h
  · cases h
  split at h
  · cases h
  rename_i hh
  rw [if_neg hh]
  dsimp only at h ⊢
  split at h
  · simp only [Written.stamp?, Written.ofSend, Option.bind_some, RtpHeader.parse_build,
      Option.map_some, Option.some.injEq] at h
    exact ⟨h.symm, rfl⟩
  rename_i ctx hc
  split at h
  · cases h
  rename_i encrypted hs
  obtain ⟨-, hp⟩ | ⟨-, ⟨e, he⟩, -⟩ :=
    SrtpContext.protect_cases P ctx (rtpHeaderLen_build packet.payloadType
      (ep.outboundTimestamp packet).1.seqNo (ep.outboundTimestamp packet).2.1
      (ep.outboundTimestamp packet).1.ourSsrc (ep.outboundTimestamp packet).2.2
      packet.payload)
  · obtain ⟨rest, hr⟩ := sealRtp_build P ctx _ packet.payloadType
      (ep.outboundTimestamp packet).1.seqNo (ep.outboundTimestamp packet).2.1
      (ep.outboundTimestamp packet).1.ourSsrc (ep.outboundTimestamp packet).2.2
      packet.payload
    rw [hp] at hs
    cases hs
    rw [hr] at h
    simp only [Written.stamp?, Written.ofSend, Option.bind_some, RtpHeader.parse_build,
      Option.map_some, Option.some.injEq] at h
    exact ⟨h.symm, rfl⟩
  · rw [he] at hs
    cases hs

theorem writeRtp_media (P : Primitives) (ep : RtpEndpoint) (packet : RoutedRtpPacket)
    (sendResult : Except String Unit) : (ep.writeRtp P packet sendResult).1.media = ep.media := by
  grind [writeRtp]

def nominalStep (ep : RtpEndpoint) : UInt32 := Session.nominalStep ep.media.sendCodec

def IsAudio (ep : RtpEndpoint) (packet : RoutedRtpPacket) : Prop :=
  some packet.payloadType ≠ ep.media.telephoneEventPt

def writeStep (P : Primitives) (ep : RtpEndpoint) (x : RoutedRtpPacket × Except String Unit) :
    RtpEndpoint × Written :=
  ep.writeRtp P x.1 x.2

theorem writeRtp_audio {P : Primitives} {ep : RtpEndpoint} {sendResult : Except String Unit}
    {stamp : Stamp UInt16} (ha : ep.IsAudio packet)
    (h : (ep.writeRtp P packet sendResult).2.stamp? = some stamp) :
    ep.outbound.timeline.Advanced ep.nominalStep packet.sourceEndpointId packet.timestamp
        packet.marker
        ((ep.writeRtp P packet sendResult).1.outbound.timeline, stamp.timestamp, stamp.marker) ∧
      stamp.seqNo = ep.outbound.seqNo ∧
      (ep.writeRtp P packet sendResult).1.outbound.seqNo = ep.outbound.seqNo + 1 := by
  obtain ⟨hs, ho⟩ := writeRtp_stamp h
  have hts : ep.outboundTimestamp packet =
      ep.outbound.advanceOutboundTimeline ep.media.sendCodec packet.sourceEndpointId
        packet.timestamp packet.marker := if_neg ha
  rw [hts, RtpOutbound.advanceOutboundTimeline_eq] at hs ho
  rw [hs, ho]
  exact ⟨ep.outbound.timeline.advance_cases _ _ _ _, rfl, rfl⟩

theorem writeRtp_chain (P : Primitives) (ep : RtpEndpoint)
    {inputs : List (RoutedRtpPacket × Except String Unit)}
    (hau : ∀ x ∈ inputs, ep.IsAudio x.1)
    (hw : Along (writeStep P)
      (fun _ ep _ => WithinNominal ep.outbound.timeline ep.nominalStep) ep inputs) :
    (trace (writeStep P) ep inputs).IsChain fun x y => ∀ a b, x.2.stamp? = some a →
      y.2.stamp? = some b →
        a.Next ep.nominalStep (x.1.1.sourceEndpointId ≠ y.1.1.sourceEndpointId) b := by
  have hk : ∀ (s : RtpEndpoint) (x : RoutedRtpPacket × Except String Unit),
      s.media = ep.media → (writeStep P s x).1.media = ep.media :=
    fun s x hm => (writeRtp_media P s x.1 x.2).trans hm
  have hau' : Along (writeStep P) (fun _ s x => s.IsAudio x.1) ep inputs := by
    apply alongFrom_of_invariant hk _ [] rfl
    intro s x hx hm
    rw [IsAudio, hm]
    exact hau x hx
  have hr : Along (writeStep P)
      (fun _ s x => s.IsAudio x.1 ∧ WithinNominal s.outbound.timeline s.nominalStep) ep inputs :=
    hau'.and hw
  apply isChain_trace (I := fun s => s.media = ep.media)
    (Q := fun s x => ∀ a, x.2.stamp? = some a →
      a.Behind s.outbound.timeline s.outbound.seqNo x.1.1.sourceEndpointId) hk _ _ rfl hr
  · intro s x _ hx a ha
    obtain ⟨had, hse, hn⟩ := writeRtp_audio hx.1 ha
    have hs := had.standsAt
    exact ⟨hs.lastOut, hs.lastSource, by rw [hse]; exact hn⟩
  intro s x y hm hx hbe a b ha hb
  obtain ⟨had, hse, -⟩ := writeRtp_audio hx.1 hb
  have hno : s.nominalStep = ep.nominalStep := by
    rw [nominalStep, nominalStep, hm]
  have hn := (hbe a ha).next had (toNat_nominalStep _) hx.2
  rw [← hse, hno] at hn
  exact hn

end RtpEndpoint

/-! ## The WebRTC endpoint -/

namespace WebRtcEndpoint

theorem toNat_nominalStep (ep : WebRtcEndpoint) : ep.nominalStep.toNat ≤ 2 ^ 32 / 50 :=
  toNat_div_fifty ep.clockRate

theorem clockRate_congr {ep ep' : WebRtcEndpoint} (hr : ep'.rtc = ep.rtc)
    (hm : ep'.audioMid = ep.audioMid) : ep'.clockRate = ep.clockRate := by
  simp only [clockRate, negotiatedCodec, hr, hm]

def withTimeline (ep : WebRtcEndpoint) (t : Timeline EndpointId) : WebRtcEndpoint :=
  { ep with outboundClockRate := some ep.clockRate, lastOutboundTs := t.lastOut,
            lastSourceId := t.lastSource, lastSourceTs := t.lastSourceTs,
            learnedStep := t.learned }

section

variable (ep : WebRtcEndpoint)

theorem timeline_withTimeline (t : Timeline EndpointId) : (ep.withTimeline t).timeline = t := by
  have hn : (ep.withTimeline t).outboundClockRate = some (ep.withTimeline t).clockRate :=
    congrArg some (clockRate_congr rfl rfl)
  rw [timeline, if_pos hn, if_pos hn]
  rfl

theorem resetClockRate_eq : ep.resetClockRate = ep.withTimeline ep.timeline := by
  unfold resetClockRate withTimeline timeline
  split
  · rename_i hsame
    rw [← hsame]
  · rfl

theorem advanceOutboundTimeline_eq (sourceId : EndpointId)
    (sourceTs : UInt32) (sourceMarker : Bool) :
    let advanced := ep.timeline.advance ep.nominalStep sourceId sourceTs sourceMarker
    ep.advanceOutboundTimeline sourceId sourceTs sourceMarker =
      (ep.withTimeline advanced.1, advanced.2) := by
  rw [advanceOutboundTimeline, resetClockRate_eq]
  obtain ⟨lastOut, lastSource, lastTs, learned⟩ := ep.timeline
  cases lastOut with
  | none => rfl
  | some =>
    cases lastSource with
    | none => rfl
    | some =>
      cases lastTs with
      | none => rfl
      | some => rfl

theorem advanceOutboundTimeline_advanced (sourceId : EndpointId)
    (sourceTs : UInt32) (sourceMarker : Bool) :
    let moved := ep.advanceOutboundTimeline sourceId sourceTs sourceMarker
    ep.timeline.Advanced ep.nominalStep sourceId sourceTs sourceMarker
        (moved.1.timeline, moved.2) ∧
      moved.1.rtc = ep.rtc ∧ moved.1.audioMid = ep.audioMid ∧
      moved.1.outboundSeqNo = ep.outboundSeqNo := by
  have hc := ep.timeline.advance_cases ep.nominalStep sourceId sourceTs sourceMarker
  rw [advanceOutboundTimeline_eq]
  refine ⟨?_, rfl, rfl, rfl⟩
  rw [timeline_withTimeline]
  exact hc

end

theorem writeRtp_stamped {ep : WebRtcEndpoint} {w : RtpWrite} (h : (ep.writeRtp packet).2 = .ok w) :
    ep.timeline.Advanced ep.nominalStep packet.sourceEndpointId packet.timestamp packet.marker
        ((ep.writeRtp packet).1.timeline, w.timestamp, w.marker) ∧
      w.seqNo = ep.outboundSeqNo ∧ (ep.writeRtp packet).1.outboundSeqNo = ep.outboundSeqNo + 1 := by
  unfold writeRtp at h ⊢
  split at h
  · cases h
  dsimp only at h ⊢
  obtain ⟨ha, hr, hm, hse⟩ :=
    advanceOutboundTimeline_advanced { ep with outboundSeqNo := ep.outboundSeqNo + 1 }
      packet.sourceEndpointId packet.timestamp packet.marker
  split at h
  · cases h
  rename_i hs
  cases h
  rw [if_neg hs]
  exact ⟨ha, rfl, hse⟩

theorem writeRtp_rtc (ep : WebRtcEndpoint) (packet : RoutedRtpPacket) :
    (ep.writeRtp packet).1.rtc = ep.rtc ∧ (ep.writeRtp packet).1.audioMid = ep.audioMid := by
  obtain ⟨-, hr, hm, -⟩ :=
    advanceOutboundTimeline_advanced { ep with outboundSeqNo := ep.outboundSeqNo + 1 }
      packet.sourceEndpointId packet.timestamp packet.marker
  grind [writeRtp]

def stampOf (w : RtpWrite) : Stamp UInt64 := ⟨w.seqNo, w.timestamp, w.marker⟩

theorem writeRtp_chain (ep : WebRtcEndpoint) {inputs : List RoutedRtpPacket}
    (hru : Along writeRtp (fun _ ep _ => WithinNominal ep.timeline ep.nominalStep) ep inputs) :
    (trace writeRtp ep inputs).IsChain fun x y => ∀ v w, x.2 = .ok v → y.2 = .ok w →
      (stampOf v).Next ep.nominalStep (x.1.sourceEndpointId ≠ y.1.sourceEndpointId)
        (stampOf w) := by
  apply isChain_trace (I := fun s => s.rtc = ep.rtc ∧ s.audioMid = ep.audioMid)
    (Q := fun s x => ∀ v, x.2 = .ok v →
      (stampOf v).Behind s.timeline s.outboundSeqNo x.1.sourceEndpointId) _ _ _ ⟨rfl, rfl⟩ hru
  · intro s packet hr
    obtain ⟨hr', hmid'⟩ := s.writeRtp_rtc packet
    exact ⟨hr'.trans hr.1, hmid'.trans hr.2⟩
  · intro s packet _ _ v hv
    obtain ⟨ha, hse, hn⟩ := writeRtp_stamped hv
    have hs := ha.standsAt
    exact ⟨hs.lastOut, hs.lastSource, hn.trans (congrArg (· + 1) hse.symm)⟩
  intro s packet x hr hwi hbe v w hv hw
  obtain ⟨ha, hse, -⟩ := writeRtp_stamped hw
  have hno : s.nominalStep = ep.nominalStep := by
    rw [nominalStep, nominalStep, clockRate_congr hr.1 hr.2]
  have hn := (hbe v hv).next ha s.toNat_nominalStep hwi
  rw [← hse, hno] at hn
  exact hn

end WebRtcEndpoint

/-! ## Runs of audio -/

instance (ep : RtpEndpoint) (packet : RoutedRtpPacket) : Decidable (ep.IsAudio packet) :=
  inferInstanceAs (Decidable (_ ≠ _))

/-- As long as the current step is at most the nominal one, each audio packet moves the
wire timeline forward by at most ten nominal steps, another source moves it and sets the
marker, and the sequence numbers count. -/
theorem outbound_timeline_monotone (P : Primitives) :
    (∀ (ep : RtpEndpoint) (inputs : List (RoutedRtpPacket × Except String Unit)),
      (∀ x ∈ inputs, ep.IsAudio x.1) →
      Along (RtpEndpoint.writeStep P)
        (fun _ ep _ => WithinNominal ep.outbound.timeline ep.nominalStep) ep inputs →
      (trace (RtpEndpoint.writeStep P) ep inputs).IsChain fun x y =>
        ∀ a b, x.2.stamp? = some a → y.2.stamp? = some b →
          a.Next ep.nominalStep (x.1.1.sourceEndpointId ≠ y.1.1.sourceEndpointId) b) ∧
    (∀ (ep : WebRtcEndpoint) (inputs : List RoutedRtpPacket), Along WebRtcEndpoint.writeRtp
        (fun _ ep _ => WithinNominal ep.timeline ep.nominalStep) ep inputs →
      (trace WebRtcEndpoint.writeRtp ep inputs).IsChain fun x y =>
        ∀ v w, x.2 = .ok v → y.2 = .ok w → (WebRtcEndpoint.stampOf v).Next ep.nominalStep
            (x.1.sourceEndpointId ≠ y.1.sourceEndpointId) (WebRtcEndpoint.stampOf w)) :=
  ⟨fun ep _ haudio hwithin => RtpEndpoint.writeRtp_chain P ep haudio hwithin,
    fun ep _ hwithin => ep.writeRtp_chain hwithin⟩

def sampleHeard : RtpEndpoint :=
  exec (RtpEndpoint.step .reference) RtpEndpoint.samplePlain
    [RtpEndpoint.samplePlainAnswer, RtpEndpoint.sampleRtp]

def sampleWebRtc : WebRtcEndpoint :=
  { id := 3, outboundSeqNo := 7, audioMid := some "0".toList, stats := { createdAt := 0 },
    rtc := { params := [⟨111, .opus, 48000, some 2⟩], remotePts := some [111], txStream := true } }

def sampleAudio (source : EndpointId) (timestamp : UInt32) : RoutedRtpPacket :=
  { RtpEndpoint.sampleRouted with sourceEndpointId := source, timestamp := timestamp }

def sampleSwitch : List RoutedRtpPacket := [sampleAudio 1 0, sampleAudio 1 160, sampleAudio 2 9]

theorem sampleSwitch_monotone : ((trace (RtpEndpoint.writeStep .reference) sampleHeard
        (sampleSwitch.map (·, .ok ()))).map fun x => x.2.stamp?) =
      [some ⟨0, 0, false⟩, some ⟨1, 160, false⟩, some ⟨2, 320, true⟩] ∧
    ((trace (RtpEndpoint.writeStep .reference) sampleHeard
        (sampleSwitch.map (·, .ok ()))).IsChain fun x y =>
      ∀ a b, x.2.stamp? = some a → y.2.stamp? = some b → a.Next sampleHeard.nominalStep
          (x.1.1.sourceEndpointId ≠ y.1.1.sourceEndpointId) b) ∧
    (trace WebRtcEndpoint.writeRtp sampleWebRtc sampleSwitch).IsChain fun x y =>
      ∀ v w, x.2 = .ok v → y.2 = .ok w → (WebRtcEndpoint.stampOf v).Next sampleWebRtc.nominalStep
          (x.1.sourceEndpointId ≠ y.1.sourceEndpointId) (WebRtcEndpoint.stampOf w) :=
  ⟨by decide +kernel, (outbound_timeline_monotone _).1 _ _ (by decide +kernel) (by decide +kernel),
    (outbound_timeline_monotone .reference).2 _ _ (by decide +kernel)⟩

def sampleDoubling (step : UInt32) (count : Nat) : List RoutedRtpPacket :=
  (List.range count).map fun k => sampleAudio 1 (step * (2 ^ k - 1))

/-- Every doubled step is learned, so the wire timeline leaps by more than ten nominal
steps and in the end by more than half its range. -/
theorem outbound_timeline_leaps : sampleHeard.nominalStep = 160 ∧ sampleWebRtc.nominalStep = 960 ∧
    (((trace (RtpEndpoint.writeStep .reference) sampleHeard
        ((sampleDoubling 320 25).map (·, .ok ()))).map fun x => x.2.stamp?).drop 3).take 2 =
      [some ⟨3, 2240, false⟩, some ⟨4, 4800, false⟩] ∧
    (((trace (RtpEndpoint.writeStep .reference) sampleHeard
        ((sampleDoubling 320 25).map (·, .ok ()))).map fun x => x.2.stamp?).drop 23) =
      [some ⟨23, 2684354240, false⟩, some ⟨24, 1073741504, false⟩] ∧
    (1073741504 - 2684354240 : UInt32).toNat = 2684354560 ∧
    (((trace WebRtcEndpoint.writeRtp sampleWebRtc (sampleDoubling 1920 5)).map
        fun x => x.2.toOption.map WebRtcEndpoint.stampOf).drop 3) =
      [some ⟨10, 13440, false⟩, some ⟨11, 28800, false⟩] := by
  decide +kernel

/-! ## One source with a constant step -/

section Fed

variable {E : Type} (advance : E → UInt32 → Bool → E × UInt32 × Bool)

def fed (e : E) (ts d : UInt32) (marker : Nat → Bool) : Nat → E
  | 0 => e
  | k + 1 => (advance (fed e ts d marker k) (ts + UInt32.ofNat k * d) (marker k)).1

def sentAs (e : E) (ts d : UInt32) (marker : Nat → Bool) (k : Nat) : UInt32 × Bool :=
  (advance (fed advance e ts d marker k) (ts + UInt32.ofNat k * d) (marker k)).2

structure Advances (view : E → Timeline EndpointId) (nominal : UInt32) (source : EndpointId)
    (I : E → Prop) : Prop where
  keep : ∀ e ts marker, I e → I (advance e ts marker).1
  timeline : ∀ e ts marker, I e → (view (advance e ts marker).1, (advance e ts marker).2) =
      (view e).advance nominal source ts marker

variable {advance} {view : E → Timeline EndpointId} {nominal : UInt32} {source : EndpointId}
  {I : E → Prop}

variable {e : E}

section

variable (h : Advances advance view nominal source I) (he : I e) (ts d : UInt32)
  (marker : Nat → Bool) (k : Nat)
include h he

theorem Advances.fed : I (fed advance e ts d marker k) := by
  induction k with
  | zero => exact he
  | succ k ih => exact h.keep _ _ _ ih

theorem Advances.standsAt :
    (view (Session.fed advance e ts d marker (k + 1))).StandsAt source (ts + UInt32.ofNat k * d)
      (sentAs advance e ts d marker k).1 := by
  have hv := h.timeline _ (ts + UInt32.ofNat k * d) (marker k) (h.fed he ts d marker k)
  have hc := (view (Session.fed advance e ts d marker k)).advance_cases nominal source
    (ts + UInt32.ofNat k * d) (marker k)
  rw [← hv] at hc
  exact hc.standsAt

end

theorem next_timestamp (ts d : UInt32) (k : Nat) :
    ts + UInt32.ofNat (k + 1) * d = ts + UInt32.ofNat k * d + d := by
  rw [UInt32.ofNat_add, add_mul, add_assoc]
  congr 2
  exact one_mul d

section

variable (h : Advances advance view nominal source I) (he : I e) (ts d : UInt32)
  (marker : Nat → Bool)
include h he

theorem Advances.succ (k : Nat) :
    (view (Session.fed advance e ts d marker (k + 2)), sentAs advance e ts d marker (k + 1)) =
      (view (Session.fed advance e ts d marker (k + 1))).advance nominal source
        (ts + UInt32.ofNat k * d + d) (marker (k + 1)) := by
  rw [← next_timestamp]
  exact h.timeline _ _ _ (h.fed he ts d marker (k + 1))

theorem Advances.follows_iff (k : Nat) :
    sentAs advance e ts d marker (k + 1) =
        ((sentAs advance e ts d marker k).1 + d, marker (k + 1)) ↔
      (view (Session.fed advance e ts d marker 1)).Follows nominal d := by
  have hfollows := fun k
      (hf : (view (Session.fed advance e ts d marker (k + 1))).Follows nominal d) =>
    (h.standsAt he ts d marker k).advance_follows hf (marker (k + 1))
  have hjumps := fun k
      (hf : ¬(view (Session.fed advance e ts d marker (k + 1))).Follows nominal d) =>
    (h.standsAt he ts d marker k).advance_jumps hf (marker (k + 1))
  simp only [← h.succ he] at hfollows hjumps
  have hk : (view (Session.fed advance e ts d marker (k + 1))).Follows nominal d ↔
      (view (Session.fed advance e ts d marker 1)).Follows nominal d := by
    induction k with
    | zero => exact Iff.rfl
    | succ k ih =>
      rw [← ih]
      by_cases hf : (view (Session.fed advance e ts d marker (k + 1))).Follows nominal d
      · exact iff_of_true (hfollows k hf).2 hf
      · exact iff_of_false (hjumps k hf).2 hf
  rw [← hk]
  by_cases hf : (view (Session.fed advance e ts d marker (k + 1))).Follows nominal d
  · exact iff_of_true (hfollows k hf).1 hf
  -- a jump goes by the current step, and `d` is more than ten of these
  refine iff_of_false (fun heq => hf ?_) hf
  have hb := add_left_cancel (congrArg Prod.fst ((hjumps k hf).1.symm.trans heq))
  rw [Timeline.Follows, hb]
  omega

end

end Fed

theorem RtpOutbound.advances (sendCodec : Option SdpCodec) (source : EndpointId) :
    Advances (fun out ts marker =>
        RtpOutbound.advanceOutboundTimeline out sendCodec source ts marker)
      RtpOutbound.timeline (nominalStep sendCodec) source fun _ => True where
  keep _ _ _ _ := trivial
  timeline out ts marker _ := by
    rw [RtpOutbound.advanceOutboundTimeline_eq]
    rfl

theorem WebRtcEndpoint.advances (source : EndpointId) (clockRate : UInt32) :
    Advances (fun ep ts marker => WebRtcEndpoint.advanceOutboundTimeline ep source ts marker)
      WebRtcEndpoint.timeline (clockRate / 50) source fun ep => ep.clockRate = clockRate where
  keep ep ts marker hr := by
    obtain ⟨-, hrt, hm, -⟩ := ep.advanceOutboundTimeline_advanced source ts marker
    exact (clockRate_congr hrt hm).trans hr
  timeline ep ts marker hr := by
    rw [advanceOutboundTimeline_eq, timeline_withTimeline, nominalStep, hr]

/-- After one packet of a source with the constant step `d`, every packet is sent with the
step `d` and its own marker if `d` is then at most ten times the current step, and none is
otherwise. -/
theorem outbound_timeline_recovers (source : EndpointId) (ts d : UInt32) (marker : Nat → Bool) :
    (∀ (out : RtpOutbound) (sendCodec : Option SdpCodec),
      let advance := fun (out : RtpOutbound) ts marker =>
        out.advanceOutboundTimeline sendCodec source ts marker
      ∀ k, sentAs advance out ts d marker (k + 1) =
          ((sentAs advance out ts d marker k).1 + d, marker (k + 1)) ↔
        (fed advance out ts d marker 1).timeline.Follows (nominalStep sendCodec) d) ∧
    (∀ ep : WebRtcEndpoint, let advance := fun (ep : WebRtcEndpoint) ts marker =>
        ep.advanceOutboundTimeline source ts marker
      ∀ k, sentAs advance ep ts d marker (k + 1) =
          ((sentAs advance ep ts d marker k).1 + d, marker (k + 1)) ↔
        (fed advance ep ts d marker 1).timeline.Follows ep.nominalStep d) :=
  ⟨fun _ sendCodec => (RtpOutbound.advances sendCodec source).follows_iff trivial ts d marker,
    fun ep => (WebRtcEndpoint.advances source ep.clockRate).follows_iff rfl ts d marker⟩

instance (t : Timeline EndpointId) (nominal d : UInt32) : Decidable (t.Follows nominal d) :=
  inferInstanceAs (Decidable (_ ≤ _))

def sampleAdvance (out : RtpOutbound) (ts : UInt32) (marker : Bool) : RtpOutbound × UInt32 × Bool :=
  out.advanceOutboundTimeline (some codecPcmu) 1 ts marker

def sampleTick : RtpOutbound :=
  (sampleAdvance (sampleAdvance { ourSsrc := 7, seqNo := 0 } 0 false).1 1 false).1

def sampleWebRtcAdvance (ep : WebRtcEndpoint) (ts : UInt32) (marker : Bool) :
    WebRtcEndpoint × UInt32 × Bool :=
  ep.advanceOutboundTimeline 1 ts marker

def sampleWebRtcTick : WebRtcEndpoint :=
  (sampleWebRtcAdvance (sampleWebRtcAdvance sampleWebRtc 0 false).1 1 false).1

theorem sampleAdvance_recovers :
    (∀ k, sentAs sampleAdvance { ourSsrc := 7, seqNo := 0 } 5 320 (fun _ => false) (k + 1) =
      ((sentAs sampleAdvance { ourSsrc := 7, seqNo := 0 } 5 320 (fun _ => false) k).1 + 320,
        false)) ∧
    ∀ k, sentAs sampleWebRtcAdvance sampleWebRtc 5 960 (fun _ => false) (k + 1) =
      ((sentAs sampleWebRtcAdvance sampleWebRtc 5 960 (fun _ => false) k).1 + 960, false) :=
  ⟨fun k => ((outbound_timeline_recovers 1 5 320 fun _ => false).1 _ (some codecPcmu) k).mpr
      (by decide +kernel),
    fun k => ((outbound_timeline_recovers 1 5 960 fun _ => false).2 _ k).mpr (by decide +kernel)⟩

/-- After one step of a single tick the nominal step is out of reach: no packet of a
source that steps by it is ever sent without a forced marker again. -/
theorem outbound_timeline_stuck :
    nominalStep (some codecPcmu) = 160 ∧ sampleWebRtcTick.nominalStep = 960 ∧
    (∀ k, sentAs sampleAdvance sampleTick 161 160 (fun _ => false) (k + 1) ≠
      ((sentAs sampleAdvance sampleTick 161 160 (fun _ => false) k).1 + 160, false)) ∧
    ∀ k, sentAs sampleWebRtcAdvance sampleWebRtcTick 961 960 (fun _ => false) (k + 1) ≠
      ((sentAs sampleWebRtcAdvance sampleWebRtcTick 961 960 (fun _ => false) k).1 + 960,
        false) := by
  have hrtp := (RtpOutbound.advances (some codecPcmu) 1).follows_iff (e := sampleTick) trivial
    161 160 fun _ => false
  have hwebRtc := (WebRtcEndpoint.advances 1 48000).follows_iff (e := sampleWebRtcTick)
    (by decide +kernel) 961 960 fun _ => false
  exact ⟨by decide, by decide +kernel, fun k => (hrtp k).not.mpr (by decide +kernel),
    fun k => (hwebRtc k).not.mpr (by decide +kernel)⟩

end RtpBridge.Session
