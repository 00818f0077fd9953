/-
The wire timestamps of telephone events on an RTP endpoint.
-/
import RtpBridge.Session.Timeline

namespace RtpBridge.Session

open Srtp Sdp Rtp Wire Machine Option RtpEndpoint
open List hiding Vector

namespace RtpEndpoint

/-! ## Writes on the timeline -/

def Ready (ep : RtpEndpoint) : Prop :=
  ep.latch.remoteRtpAddr.isSome ∧ ep.remoteSsrc.isSome

theorem writeRtp_not_ready {P : Primitives} {ep : RtpEndpoint} (h : ¬ep.Ready)
    (packet : RoutedRtpPacket) (sendResult : Except String Unit) :
    (ep.writeRtp P packet sendResult).1 = ep ∧
      (ep.writeRtp P packet sendResult).2.stamp? = none := by
  unfold writeRtp
  split
  · exact ⟨rfl, rfl⟩
  rename_i remote hr
  have hs : ep.remoteSsrc.isNone = true := by
    cases hs : ep.remoteSsrc with
    | none => rfl
    | some ssrc => exact absurd ⟨by simp [hr], by simp [hs]⟩ h
  rw [if_pos hs]
  exact ⟨rfl, rfl⟩

theorem writeRtp_outbound {P : Primitives} {ep : RtpEndpoint} (h : ep.Ready)
    (packet : RoutedRtpPacket) (sendResult : Except String Unit) :
    (ep.writeRtp P packet sendResult).1.outbound = { (ep.outboundTimestamp packet).1 with
          seqNo := (ep.outboundTimestamp packet).1.seqNo + 1,
          lastRtpTimestamp := (ep.outboundTimestamp packet).2.1 } := by
  obtain ⟨remote, hr⟩ := isSome_iff_exists.mp h.1
  obtain ⟨ssrc, hs⟩ := isSome_iff_exists.mp h.2
  simp only [writeRtp, hr, hs, isNone_some, Bool.false_eq_true, if_false]
  split
  · rfl
  split <;> rfl

def advanceOf (before after : RtpOutbound) : Nat :=
  match before.lastOutboundTs, after.lastOutboundTs with
  | some a, some b => (b - a).toNat
  | _, _ => 0

def travelStep (P : Primitives) (s : RtpEndpoint × Nat)
    (x : RoutedRtpPacket × Except String Unit) : (RtpEndpoint × Nat) × Written :=
  let (ep, w) := s.1.writeRtp P x.1 x.2
  ((ep, s.2 + advanceOf s.1.outbound ep.outbound), w)

end RtpEndpoint

/-! ## Events -/

def eventOf (packet : RoutedRtpPacket) : EndpointId × UInt32 :=
  (packet.sourceEndpointId, packet.timestamp)

abbrev WriteTrace := List ((RoutedRtpPacket × Except String Unit) × RtpEndpoint.Written)

def lastEvent (pt : UInt8) (tr : WriteTrace) : Option (EndpointId × UInt32) :=
  (last (fun x => decide (x.1.1.payloadType = pt)) tr).map fun x => eventOf x.1.1

def OneAtATime (pt : UInt8) (tr : WriteTrace) (packet : RoutedRtpPacket) : Prop :=
  packet.payloadType = pt → (∃ x ∈ tr, x.1.1.payloadType = pt ∧ eventOf x.1.1 = eventOf packet) →
      lastEvent pt tr = some (eventOf packet)

def MarkedFirst (pt : UInt8) (tr : WriteTrace) (packet : RoutedRtpPacket) : Prop :=
  packet.payloadType = pt → (packet.marker = true ↔ lastEvent pt tr ≠ some (eventOf packet))

def NotAround (P : Primitives) (s : RtpEndpoint × Nat)
    (x : RoutedRtpPacket × Except String Unit) : Prop :=
  (travelStep P s x).1.2 < 2 ^ 32

/-! ## Positions on the timeline -/

theorem position_inj {base : UInt32} {u v : Nat} (hu : u < 2 ^ 32) (hv : v < 2 ^ 32)
    (h : base + UInt32.ofNat u = base + UInt32.ofNat v) : u = v := by
  have hn := congrArg UInt32.toNat (add_left_cancel h)
  rwa [UInt32.toNat_ofNat_of_lt' hu, UInt32.toNat_ofNat_of_lt' hv] at hn

theorem position_add (base d : UInt32) (u : Nat) :
    base + UInt32.ofNat u + d = base + UInt32.ofNat (u + d.toNat) := by
  rw [UInt32.ofNat_add, UInt32.ofNat_toNat, add_assoc]

structure Anchored (pt : UInt8) (tr : WriteTrace) (out : RtpOutbound) (travelled : Nat)
    (base : UInt32) (pos : EndpointId × UInt32 → Nat) : Prop where
  stands : ∀ t, out.lastOutboundTs = some t → t = base + UInt32.ofNat travelled
  fresh : out.lastOutboundTs = none → travelled = 0 ∧ ∀ x ∈ tr, x.1.1.payloadType ≠ pt
  passed : ∀ x ∈ tr, x.1.1.payloadType = pt → pos (eventOf x.1.1) ≤ travelled
  stamps : ∀ x ∈ tr, x.1.1.payloadType = pt → ∀ a, x.2.stamp? = some a →
    a.timestamp = base + UInt32.ofNat (pos (eventOf x.1.1))
  apart : ∀ x ∈ tr, ∀ y ∈ tr, x.1.1.payloadType = pt → y.1.1.payloadType = pt →
    pos (eventOf x.1.1) = pos (eventOf y.1.1) → eventOf x.1.1 = eventOf y.1.1
  held : ∀ e, lastEvent pt tr = some e → out.dtmfWireTs = some (base + UInt32.ofNat (pos e))

theorem lastEvent_append (pt : UInt8) (tr : WriteTrace)
    (x : (RoutedRtpPacket × Except String Unit) × RtpEndpoint.Written) :
    lastEvent pt (tr ++ [x]) =
      if x.1.1.payloadType = pt then some (eventOf x.1.1) else lastEvent pt tr := by
  grind [lastEvent, last_append]

theorem mem_of_lastEvent {pt : UInt8} {tr : WriteTrace} {e : EndpointId × UInt32}
    (h : lastEvent pt tr = some e) : ∃ x ∈ tr, x.1.1.payloadType = pt ∧ eventOf x.1.1 = e := by
  obtain ⟨x, hx, he⟩ := map_eq_some_iff.mp h
  have hm := mem_of_find?_eq_some hx
  have hpt := List.find?_some hx
  exact ⟨x, mem_reverse.mp hm, of_decide_eq_true hpt, he⟩

section Moves

variable {pt : UInt8} {tr : WriteTrace} {out out' : RtpOutbound} {travelled : Nat}
  {base : UInt32} {pos : EndpointId × UInt32 → Nat}
  {x : (RoutedRtpPacket × Except String Unit) × RtpEndpoint.Written}

theorem Anchored.continued (h : Anchored pt tr out travelled base pos)
    (hpt : x.1.1.payloadType = pt) (hev : lastEvent pt tr = some (eventOf x.1.1))
    (hl : out'.lastOutboundTs = out.lastOutboundTs) (hh : out'.dtmfWireTs = out.dtmfWireTs)
    (hs : ∀ a, x.2.stamp? = some a → some a.timestamp = out.dtmfWireTs) :
    Anchored pt (tr ++ [x]) out' travelled base pos := by
  obtain ⟨y, hy, hyp, hye⟩ := mem_of_lastEvent hev
  have hold : ∀ z ∈ tr ++ [x], z.1.1.payloadType = pt →
      ∃ w ∈ tr, w.1.1.payloadType = pt ∧ eventOf w.1.1 = eventOf z.1.1 := by
    intro z hz hzp
    obtain hz | hz := mem_append.mp hz
    · exact ⟨z, hz, hzp, rfl⟩
    · rw [mem_singleton.mp hz]
      exact ⟨y, hy, hyp, hye⟩
  refine ⟨fun t ht => h.stands t (hl ▸ ht), fun hn => ?_, fun z hz hzp => ?_,
    fun z hz hzp a ha => ?_, fun z hz w hw hzp hwp hp => ?_, fun e he => ?_⟩
  · exact absurd hyp ((h.fresh (hl ▸ hn)).2 y hy)
  · obtain ⟨w, hw, hwp, hwe⟩ := hold z hz hzp
    rw [← hwe]
    exact h.passed w hw hwp
  · obtain hz | hz := mem_append.mp hz
    · exact h.stamps z hz hzp a ha
    · cases mem_singleton.mp hz
      exact Option.some.inj ((hs a ha).trans (h.held _ hev))
  · grind [h.apart]
  rw [lastEvent_append, if_pos hpt] at he
  rw [hh]
  exact h.held e (hev.trans he)

variable {ts : UInt32}

section

variable (h : Anchored pt tr out travelled base pos)
include h

theorem Anchored.audio (hpt : x.1.1.payloadType ≠ pt)
    (hl : out'.lastOutboundTs = some ts) (hh : out'.dtmfWireTs = out.dtmfWireTs) :
    ∃ base pos, Anchored pt (tr ++ [x]) out' (travelled + advanceOf out out') base
      pos := by
  have hold : ∀ z ∈ tr ++ [x], z.1.1.payloadType = pt → z ∈ tr := by
    intro z hz hzp
    obtain hz | hz := mem_append.mp hz
    · exact hz
    · exact absurd (mem_singleton.mp hz ▸ hzp) hpt
  have hev : lastEvent pt (tr ++ [x]) = lastEvent pt tr := by
    rw [lastEvent_append, if_neg hpt]
  cases hb : out.lastOutboundTs with
  | none =>
    -- the first packet ever: nothing stands on the timeline yet
    obtain ⟨hze, hn⟩ := h.fresh hb
    have hno : ∀ z ∈ tr ++ [x], z.1.1.payloadType ≠ pt :=
      fun z hz hzp => hn z (hold z hz hzp) hzp
    refine ⟨ts, pos, fun t ht => ?_, by simp [hl], fun z hz hzp => absurd hzp (hno z hz),
      fun z hz hzp => absurd hzp (hno z hz), fun z hz _ _ hzp => absurd hzp (hno z hz),
      fun e he => ?_⟩
    · cases Option.some.inj (hl.symm.trans ht)
      simp [advanceOf, hb, hze]
    · obtain ⟨z, hz, hzp, -⟩ := mem_of_lastEvent he
      exact absurd hzp (hno z hz)
  | some t =>
    have ha : advanceOf out out' = (ts - t).toNat := by
      simp only [advanceOf, hb, hl]
    rw [ha]
    refine ⟨base, pos, fun u hu => ?_, by simp [hl], fun z hz hzp => ?_,
      fun z hz hzp => h.stamps z (hold z hz hzp) hzp,
      fun z hz w hw hzp hwp => h.apart z (hold z hz hzp) w (hold w hw hwp) hzp hwp,
      fun e he => hh.trans (h.held e (hev ▸ he))⟩
    · cases Option.some.inj (hl.symm.trans hu)
      rw [← position_add, ← h.stands t hb, add_sub_cancel]
    · exact Nat.le_trans (h.passed z (hold z hz hzp) hzp) (Nat.le_add_right _ _)

theorem Anchored.placed (hpt : x.1.1.payloadType = pt)
    (hn : ∀ y ∈ tr, y.1.1.payloadType = pt → eventOf y.1.1 ≠ eventOf x.1.1) {base' : UInt32}
    {there : Nat} (hl : out'.lastOutboundTs = some ts) (hh : out'.dtmfWireTs = some ts)
    (hs : ∀ a, x.2.stamp? = some a → a.timestamp = ts)
    (hth : ts = base' + UInt32.ofNat there)
    (hb : ∀ y ∈ tr, y.1.1.payloadType = pt → base' = base ∧ travelled < there) :
    Anchored pt (tr ++ [x]) out' there base'
      (Function.update pos (eventOf x.1.1) there) := by
  have hlt : ∀ y ∈ tr, y.1.1.payloadType = pt → pos (eventOf y.1.1) < there :=
    fun y hy hyp => Nat.lt_of_le_of_lt (h.passed y hy hyp) (hb y hy hyp).2
  refine ⟨fun t ht => ?_, by simp [hl], fun z hz hzp => ?_, fun z hz hzp a ha => ?_,
    fun z hz w hw hzp hwp hp => ?_, fun e he => ?_⟩
  · rw [← hth]
    exact Option.some.inj (ht.symm.trans hl)
  · grind
  · grind [h.stamps]
  · -- positions before `there` belong to the past, the position `there` to the new event
    obtain hz | hz := mem_append.mp hz
    · grind [h.apart]
    · grind
  grind [lastEvent_append]

theorem Anchored.marked (hpt : x.1.1.payloadType = pt)
    (hne : ∀ y ∈ tr, y.1.1.payloadType = pt → eventOf y.1.1 ≠ eventOf x.1.1)
    (hl : out'.lastOutboundTs = some ts) (hh : out'.dtmfWireTs = some ts)
    (hs : ∀ a, x.2.stamp? = some a → a.timestamp = ts)
    (hm : ∀ t, out.lastOutboundTs = some t → 0 < (ts - t).toNat) :
    ∃ base pos, Anchored pt (tr ++ [x]) out' (travelled + advanceOf out out') base
      pos := by
  cases hb : out.lastOutboundTs with
  | none =>
    obtain ⟨hze, hn⟩ := h.fresh hb
    have ha : travelled + advanceOf out out' = 0 := by
      simp only [advanceOf, hb, hze]
    rw [ha]
    exact ⟨ts, _, h.placed hpt hne hl hh hs (by simp)
      fun y hy hyp => absurd hyp (hn y hy)⟩
  | some t =>
    have ha : advanceOf out out' = (ts - t).toNat := by
      simp only [advanceOf, hb, hl]
    have hp := hm t hb
    rw [ha]
    refine ⟨base, _, h.placed hpt hne hl hh hs ?_ fun y hy hyp => ⟨rfl, by omega⟩⟩
    rw [← position_add, ← h.stands t hb, add_sub_cancel]

end

end Moves

/-! ## Whole runs -/

theorem Anchored.write {P : Primitives} {pt : UInt8} {tr : WriteTrace} {ep : RtpEndpoint}
    {travelled : Nat} {base : UInt32} {pos : EndpointId × UInt32 → Nat}
    (h : Anchored pt tr ep.outbound travelled base pos) (hr : ep.Ready)
    (hpt : ep.media.telephoneEventPt = some pt)
    (hc : 50 ≤ ep.media.telephoneEventClockRate.toNat)
    (x : RoutedRtpPacket × Except String Unit) (hon : OneAtATime pt tr x.1)
    (hmr : MarkedFirst pt tr x.1) :
    ∃ base pos, Anchored pt (tr ++ [(x, (ep.writeRtp P x.1 x.2).2)])
      (ep.writeRtp P x.1 x.2).1.outbound
      (travelled + advanceOf ep.outbound (ep.writeRtp P x.1 x.2).1.outbound)
      base pos := by
  have hs : ∀ a, (ep.writeRtp P x.1 x.2).2.stamp? = some a →
      a.timestamp = (ep.outboundTimestamp x.1).2.1 := by
    intro a ha
    rw [(writeRtp_stamp ha).1]
  have ho := writeRtp_outbound (P := P) hr x.1 x.2
  by_cases hev : x.1.payloadType = pt
  · have hts : ep.outboundTimestamp x.1 =
        ((ep.outbound.dtmfOutboundTs ep.media.telephoneEventClockRate x.1.marker
            x.1.timestamp).1,
          (ep.outbound.dtmfOutboundTs ep.media.telephoneEventClockRate x.1.marker
            x.1.timestamp).2, x.1.marker) := by
      rw [outboundTimestamp, hpt, hev, if_pos rfl]
    by_cases hf : lastEvent pt tr = some (eventOf x.1)
    · -- the anchor is held
      have hma : x.1.marker = false :=
        Bool.eq_false_of_not_eq_true fun hm => (hmr hev).mp hm hf
      have hh := h.held _ hf
      simp only [hma, RtpOutbound.dtmfOutboundTs, Bool.false_eq_true, if_false, hh] at hts
      rw [hts] at ho hs
      have hsi : advanceOf ep.outbound (ep.writeRtp P x.1 x.2).1.outbound = 0 := by
        rw [ho, advanceOf]
        split
        · rename_i a b ha hb
          cases Option.some.inj (ha.symm.trans hb)
          simp
        · rfl
      rw [hsi]
      refine ⟨base, pos, h.continued hev hf (by rw [ho]) (by rw [ho]) fun a ha => ?_⟩
      rw [hh, hs a ha]
    · have hma : x.1.marker = true := (hmr hev).mpr hf
      have hn : ∀ y ∈ tr, y.1.1.payloadType = pt → eventOf y.1.1 ≠ eventOf x.1 :=
        fun y hy hyp heq => hf (hon hev ⟨y, hy, hyp, heq⟩)
      simp only [hma, RtpOutbound.dtmfOutboundTs, if_true] at hts
      rw [hts] at ho hs
      refine h.marked hev hn (by rw [ho]) (by rw [ho]) hs fun t ht => ?_
      have hd : (ep.media.telephoneEventClockRate / 50).toNat =
          ep.media.telephoneEventClockRate.toNat / 50 := UInt32.toNat_div _ _
      rw [ht, map_some, getD_some, add_sub_cancel_left]
      omega
  · have hts : ep.outboundTimestamp x.1 =
        ep.outbound.advanceOutboundTimeline ep.media.sendCodec x.1.sourceEndpointId
          x.1.timestamp x.1.marker := by
      rw [outboundTimestamp, hpt, if_neg fun heq => hev (Option.some.inj heq)]
    rw [hts, RtpOutbound.advanceOutboundTimeline_eq] at ho
    have hst := (ep.outbound.timeline.advance_cases (nominalStep ep.media.sendCodec)
      x.1.sourceEndpointId x.1.timestamp x.1.marker).standsAt
    exact h.audio hev (by rw [ho]; exact hst.lastOut) (by rw [ho])

namespace RtpEndpoint

theorem writeRtp_ready {ep : RtpEndpoint} (h : ep.Ready) (P : Primitives)
    (packet : RoutedRtpPacket) (sendResult : Except String Unit) :
    (ep.writeRtp P packet sendResult).1.Ready := by
  have hq := writeRtp_silent P ep packet sendResult
  exact ⟨by rw [hq.latch]; exact h.1, by rw [hq.remoteSsrc]; exact h.2⟩

end RtpEndpoint

structure Running (pt : UInt8) (ep : RtpEndpoint) (tr : WriteTrace) (s : RtpEndpoint × Nat) :
    Prop where
  ready : s.1.Ready
  media : s.1.media = ep.media
  notAround : s.2 < 2 ^ 32
  anchored : ∃ base pos, Anchored pt tr s.1.outbound s.2 base pos

theorem running_start {ep : RtpEndpoint} (hr : ep.Ready) (pt : UInt8) :
    Running pt ep [] (ep, 0) := by
  refine ⟨hr, rfl, Nat.two_pow_pos 32, ep.outbound.lastOutboundTs.getD 0, fun _ => 0, ?_⟩
  refine ⟨fun t ht => ?_, by simp, by simp, by simp, by simp, fun e he => ?_⟩
  · rw [ht]
    simp
  · simp [lastEvent, last] at he

theorem Running.step {P : Primitives} {pt : UInt8} {ep : RtpEndpoint} {tr : WriteTrace}
    {s : RtpEndpoint × Nat} (h : Running pt ep tr s)
    (hpt : ep.media.telephoneEventPt = some pt)
    (hc : 50 ≤ ep.media.telephoneEventClockRate.toNat)
    {x : RoutedRtpPacket × Except String Unit} (hon : OneAtATime pt tr x.1)
    (hmr : MarkedFirst pt tr x.1) (har : NotAround P s x) :
    Running pt ep (tr ++ [(x, (travelStep P s x).2)])
      (travelStep P s x).1 := by
  obtain ⟨base, pos, ha⟩ := h.anchored
  exact ⟨writeRtp_ready h.ready P x.1 x.2, (writeRtp_media P s.1 x.1 x.2).trans h.media, har,
    ha.write h.ready (by rw [h.media]; exact hpt) (by rw [h.media]; exact hc) x hon
      hmr⟩

/-- If exactly the first packet of each telephone event carries the marker and the
timeline has gone less than once around, two packets have one wire timestamp exactly if
they belong to one event. -/
theorem dtmf_event_one_timestamp (P : Primitives) (ep : RtpEndpoint) {pt : UInt8}
    (hpt : ep.media.telephoneEventPt = some pt)
    (inputs : List (RoutedRtpPacket × Except String Unit))
    (hone : Along (travelStep P) (fun tr _ x => OneAtATime pt tr x.1) (ep, 0) inputs)
    (hmarked : Along (travelStep P)
      (fun tr s x => MarkedFirst pt tr x.1 ∧ NotAround P s x) (ep, 0) inputs)
    (hclock : 50 ≤ ep.media.telephoneEventClockRate.toNat) :
    ∀ x ∈ trace (travelStep P) (ep, 0) inputs,
    ∀ y ∈ trace (travelStep P) (ep, 0) inputs, x.1.1.payloadType = pt → y.1.1.payloadType = pt →
      ∀ a b, x.2.stamp? = some a → y.2.stamp? = some b →
        (a.timestamp = b.timestamp ↔ eventOf x.1.1 = eventOf y.1.1) := by
  by_cases hready : ep.Ready
  · have hrun := along_induction (running_start hready pt)
      (fun tr s x hx h => h.step hpt hclock hx.1 hx.2.1 hx.2.2) (hone.and hmarked)
    obtain ⟨base, pos, hanchored⟩ := hrun.anchored
    intro x hx y hy hxpt hypt a b ha hb
    have hxpos := Nat.lt_of_le_of_lt (hanchored.passed x hx hxpt) hrun.notAround
    have hypos := Nat.lt_of_le_of_lt (hanchored.passed y hy hypt) hrun.notAround
    rw [hanchored.stamps x hx hxpt a ha, hanchored.stamps y hy hypt b hb]
    grind [hanchored.apart, position_inj]
  -- nothing is sent before the peer is heard
  have hsilent : (exec (travelStep P) (ep, 0) inputs).1 = ep ∧
      ∀ x ∈ trace (travelStep P) (ep, 0) inputs, x.2.stamp? = none := by
    apply history_induction (P := fun (tr : WriteTrace) (s : RtpEndpoint × Nat) =>
      s.1 = ep ∧ ∀ x ∈ tr, x.2.stamp? = none) ⟨rfl, by simp⟩
    intro tr s x h
    obtain ⟨hstay, hstamp⟩ := writeRtp_not_ready (P := P) (h.1 ▸ hready) x.1 x.2
    refine ⟨hstay.trans h.1, fun y hy => ?_⟩
    obtain hy | hy := mem_append.mp hy
    · exact h.2 y hy
    · rw [mem_singleton.mp hy]
      exact hstamp
  intro x hx y _ _ _ a _ ha _
  simp [hsilent.2 x hx] at ha

/-! ## A concrete endpoint -/

instance (pt : UInt8) (tr : WriteTrace) (packet : RoutedRtpPacket) :
    Decidable (OneAtATime pt tr packet) :=
  inferInstanceAs (Decidable (_ → _ → _))

instance (pt : UInt8) (tr : WriteTrace) (packet : RoutedRtpPacket) :
    Decidable (MarkedFirst pt tr packet) :=
  inferInstanceAs (Decidable (_ → (_ ↔ _)))

instance (P : Primitives) (s : RtpEndpoint × Nat) (x : RoutedRtpPacket × Except String Unit) :
    Decidable (NotAround P s x) :=
  inferInstanceAs (Decidable (_ < _))

def sampleDtmfSdp : Text :=
  ["v=0", "s=-", "c=IN IP4 192.0.2.10", "t=0 0", "m=audio 4000 RTP/AVP 0 101",
    "a=rtpmap:101 telephone-event/8000"].flatMap (·.toList ++ crlf)

def sampleDtmfEndpoint : RtpEndpoint :=
  match createOffer .reference sampleSetup (.v4 0xC0000201)
      [codecPcmu, codecTelephoneEvent] .plainRtp with
  | .ok (ep, _) =>
    exec (step .reference) ep
      [⟨1, 0, .acceptAnswer sampleDtmfSdp (Vector.replicate 30 2)⟩, sampleRtp]
  | .error _ => RtpEndpoint.new RtpEndpoint.sampleSetup

def sampleTone (timestamp : UInt32) (marker : Bool) : RoutedRtpPacket × Except String Unit :=
  ({ sampleRouted with
      sourceEndpointId := 1, payloadType := 101, timestamp := timestamp, marker := marker,
      payload := [5, 10, 0, 160] }, .ok ())

def sampleTones : List (RoutedRtpPacket × Except String Unit) :=
  [sampleTone 100 true, (sampleAudio 2 160, .ok ()), sampleTone 100 false,
    (sampleAudio 2 320, .ok ()), sampleTone 900 true, sampleTone 900 false]

theorem sampleTones_one_timestamp :
    ((trace (travelStep .reference) (sampleDtmfEndpoint, 0) sampleTones).map
        fun x => x.2.stamp?.map Stamp.timestamp) =
      [some 100, some 260, some 100, some 420, some 580, some 580] ∧
    ∀ x ∈ trace (travelStep .reference) (sampleDtmfEndpoint, 0) sampleTones,
    ∀ y ∈ trace (travelStep .reference) (sampleDtmfEndpoint, 0) sampleTones,
      x.1.1.payloadType = 101 → y.1.1.payloadType = 101 →
      ∀ a b, x.2.stamp? = some a → y.2.stamp? = some b →
        (a.timestamp = b.timestamp ↔ eventOf x.1.1 = eventOf y.1.1) :=
  ⟨by decide +kernel,
    dtmf_event_one_timestamp .reference sampleDtmfEndpoint (by decide +kernel) sampleTones
      (by decide +kernel) (by decide +kernel) (by decide +kernel)⟩

/-- Without its marker the second event takes the timestamp of the first, and a marker
that comes twice splits an event. -/
theorem dtmf_marker_lost_or_doubled : ((trace (travelStep .reference) (sampleDtmfEndpoint, 0)
        [sampleTone 100 true, sampleTone 900 false]).map
        fun x => x.2.stamp?.map Stamp.timestamp) = [some 100, some 100] ∧
    ((trace (travelStep .reference) (sampleDtmfEndpoint, 0)
        [sampleTone 100 true, sampleTone 100 true]).map
        fun x => x.2.stamp?.map Stamp.timestamp) = [some 100, some 260] := by
  decide +kernel

end RtpBridge.Session
