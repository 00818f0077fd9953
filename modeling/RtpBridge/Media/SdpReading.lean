/-
What of an SDP text reaches the endpoint.
-/
import RtpBridge.Media.Rtp
import RtpBridge.Media.SdpSections

namespace RtpBridge.Sdp

open Srtp Text Rtp List

variable {st st' : ParseState} {sdp : Text} {pt : UInt8}

/-! ## Sections that are not selected -/

theorem foldl_noteRow_keys (P : Primitives) (inner : List Text) (s : SdpMediaSection) :
    inner.foldl (noteRow P) s = (inner.filter cryptoRow).foldl (noteRow P) s := by
  induction inner generalizing s with
  | nil => rfl
  | cons row inner ih =>
    rw [foldl_cons, ih, filter_cons]
    cases hr : stripPrefix row "a=crypto:".toList with
    | some value =>
      have hk : cryptoRow row = true := by rw [cryptoRow, hr]; rfl
      rw [if_pos hk, foldl_cons]
    | none =>
      have hk : ¬cryptoRow row = true := by rw [cryptoRow, hr]; exact Bool.false_ne_true
      have hn : noteRow P s row = s := by simp only [noteRow, hr]
      rw [if_neg hk, hn]

def MediaBlock.marks (b : MediaBlock) : Text × List Text := (b.head, b.rows.filter cryptoRow)

/-- The texts differ at most in rows of the sections other than `selected`, and not in keys. -/
structure AgreeOutside (selected : Option Nat) (sdp sdp' : Text) : Prop where
  session : (layout (rows sdp')).1 = (layout (rows sdp)).1
  marks : (layout (rows sdp')).2.map MediaBlock.marks = (layout (rows sdp)).2.map MediaBlock.marks
  own : ∀ i, selected = some i → (layout (rows sdp')).2[i]? = (layout (rows sdp)).2[i]?

theorem mediaSections_of_marks (P : Primitives) {sdp' : Text}
    (h : (layout (rows sdp')).2.map MediaBlock.marks = (layout (rows sdp)).2.map MediaBlock.marks) :
    (parseSdp P sdp').mediaSections = (parseSdp P sdp).mediaSections := by
  have hs : MediaBlock.scan P =
      (fun m : Text × List Text => m.2.foldl (noteRow P) (openSection m.1)) ∘ MediaBlock.marks := by
    funext b
    exact foldl_noteRow_keys P b.rows _
  rw [mediaSections_eq, mediaSections_eq, hs, ← map_map, h, map_map]

theorem eq_of_core (h : st'.core = st.core) : ∃ place index webrtc,
      st' = { st with mediaSection := place, currentSection := index, isWebrtc := webrtc } := by
  cases st'
  simp only [ParseState.core, ParseState.mk.injEq] at h ⊢
  simp [h]

theorem readRow_congr (h : st'.core = st.core) (hp : st'.mediaSection = st.mediaSection)
    (row : Text) : (readRow st' row).core = (readRow st row).core := by
  obtain ⟨place, index, webrtc, rfl⟩ := eq_of_core h
  obtain rfl : place = st.mediaSection := hp
  unfold readRow
  split
  · unfold parseConnection
    cases st.mediaSection with
    | none => rfl
    | some own => cases own <;> rfl
  dsimp only
  split
  · split <;> rfl
  unfold parseAttribute parseFmtp parseRtpmap parseRtcpAttribute
  repeat' (split <;> try simp only [*])
  all_goals rfl

theorem foldl_readRow_congr (inner : List Text) (h : st'.core = st.core)
    (hp : st'.mediaSection = st.mediaSection) :
    (inner.foldl readRow st').core = (inner.foldl readRow st).core := by
  induction inner generalizing st st' with
  | nil => exact h
  | cons row inner ih =>
    apply ih (readRow_congr h hp row)
    rw [(readRow_current st' row).2.1, (readRow_current st row).2.1, hp]

theorem openBlock_congr (h : st'.core = st.core) (i : Nat) (head : Text) :
    (openBlock (some i) i st' head).core = (openBlock (some i) i st head).core ∧
      (openBlock (some i) i st' head).mediaSection =
        (openBlock (some i) i st head).mediaSection := by
  obtain ⟨place, index, webrtc, rfl⟩ := eq_of_core h
  unfold openBlock parseAudioLine
  dsimp only
  repeat' split
  all_goals exact ⟨rfl, rfl⟩

theorem parse_layout_none (rows : List Text) :
    (rows.foldl (parseLine none) {}).core = ((layout rows).1.foldl readRow {}).core := by
  obtain ⟨hr, hp, hb⟩ := layout_rows rows
  have hf : rows.foldl (parseLine none) {} = ((layout rows).2.flatMap MediaBlock.all).foldl
      (parseLine none) ((layout rows).1.foldl readRow {}) := by
    rw [← foldl_parseLine_inner hp none, ← foldl_append, ← hr]
  rw [hf]
  exact (parse_blocks_other hb none _ fun j hj => by simp).1

theorem selected_inside (P : Primitives) (sdp : Text) (i : Nat)
    (h : (parseSdp P sdp).selectedAudioSection = some i) : ((layout (rows sdp)).2[i]?).isSome := by
  have ha := parseSdp_selected_audio P sdp h
  grind [mediaSections_eq]

theorem AgreeOutside.core {selected : Option Nat} {sdp' : Text} (h : AgreeOutside selected sdp sdp')
    (hi : ∀ i, selected = some i → ((layout (rows sdp)).2[i]?).isSome) :
    ((rows sdp').foldl (parseLine selected) {}).core =
      ((rows sdp).foldl (parseLine selected) {}).core := by
  cases selected with
  | none => rw [parse_layout_none, parse_layout_none, h.session]
  | some i =>
    obtain ⟨b, hb⟩ := Option.isSome_iff_exists.mp (hi i rfl)
    obtain ⟨st, hst, hr⟩ := parse_layout hb
    obtain ⟨st', hst', hr'⟩ := parse_layout ((h.own i rfl).trans hb)
    rw [h.session, ← hst] at hst'
    obtain ⟨hc, hp⟩ := openBlock_congr hst' i b.head
    rw [hr, hr']
    exact foldl_readRow_congr b.rows hc hp

theorem finishSdp_congr (h : st'.core = st.core) (sections : List SdpMediaSection)
    (choice : SectionChoice) :
    ∃ webrtc osrtp, finishSdp sections choice st' =
      { finishSdp sections choice st with isWebrtc := webrtc, isOsrtp := osrtp } := by
  obtain ⟨place, index, webrtc, rfl⟩ := eq_of_core h
  exact ⟨_, _, rfl⟩

/-- Rows of a section that is not selected change nothing but the WebRTC flag: address, RTCP
address, codecs, Opus profile, telephone events, key, direction, multiplexing, protocol and the
selected section are those of the other text. -/
theorem unselected_sections_ignored (P : Primitives) (sdp sdp' : Text)
    (h : AgreeOutside (parseSdp P sdp).selectedAudioSection sdp sdp') :
    ∃ webrtc osrtp, parseSdp P sdp' =
      { parseSdp P sdp with isWebrtc := webrtc, isOsrtp := osrtp } := by
  have hsections := mediaSections_of_marks P h.marks
  obtain ⟨webrtc, osrtp, hfinish⟩ := finishSdp_congr (h.core (selected_inside P sdp))
    (parseSdp P sdp).mediaSections ((parseSdp P sdp).mediaSections.zipIdx.foldl chooseSection {})
  grind [parseSdp, finishSdp, rows]

def samplePlainRows : List Text :=
  ["v=0".toList, "c=IN IP4 192.0.2.10".toList, "m=audio 4000 RTP/AVP 0".toList,
    "a=sendonly".toList, "m=video 0 RTP/AVP 96".toList]

def sampleForeignRows : List Text :=
  ["c=IN IP4 198.51.100.9".toList, "a=rtpmap:0 opus/48000/2".toList, "a=inactive".toList,
    "a=rtcp:9".toList, "a=maxptime:40".toList]

theorem sampleForeignRows_ignored : ∃ webrtc osrtp,
      parseSdp .reference ((samplePlainRows ++ sampleForeignRows).flatMap (· ++ crlf)) =
        { parseSdp .reference (samplePlainRows.flatMap (· ++ crlf)) with
          isWebrtc := webrtc, isOsrtp := osrtp } :=
  unselected_sections_ignored .reference _ _
    ⟨by decide +kernel, by decide +kernel, fun i hi => by
      have hfirst : (parseSdp .reference
        (samplePlainRows.flatMap (· ++ crlf))).selectedAudioSection = some 0 := by decide +kernel
      rw [hfirst] at hi
      cases hi
      decide +kernel⟩

/-! ## Payload types on the wire -/

def Lists (sdp : Text) (pt : UInt8) : Prop :=
  ∃ b ∈ (layout (rows sdp)).2, ∃ f ∈ (openSection b.head).formats, parseU8 f = some pt

theorem foldl_readRow_pts (inner : List Text) (st : ParseState) :
    (inner.foldl readRow st).pts = st.pts := by
  induction inner generalizing st with
  | nil => rfl
  | cons row inner ih =>
    rw [foldl_cons, ih]
    unfold readRow parseConnection parseAttribute parseFmtp parseRtpmap parseRtcpAttribute
    repeat' split
    all_goals rfl

theorem mem_pts_openBlock {selected : Option Nat} {i : Nat} {head : Text}
    (h : pt ∈ (openBlock selected i st head).pts) :
    pt ∈ st.pts ∨ ∃ f ∈ (openSection head).formats, parseU8 f = some pt := by
  unfold openBlock at h
  split at h
  · rename_i rest hs
    have hl := stripPrefix_eq_some hs
    grind [openSection, splitWhitespace_audio, parseAudioLine]
  · exact .inl h

theorem lists_of_mem_codecs {P : Primitives} {c : SdpCodec} (hc : c ∈ (parseSdp P sdp).codecs) :
    Lists sdp c.pt := by
  obtain ⟨mapped, hm, hco⟩ := mem_filterMap.mp hc
  obtain ⟨pt, hpt, rfl⟩ := mem_map.mp hm
  rw [mapCodec_pt hco]
  have hse : ((layout (rows sdp)).1.foldl readRow {}).pts = [] := foldl_readRow_pts _ _
  change pt ∈ ((rows sdp).foldl (parseLine (parseSdp P sdp).selectedAudioSection) {}).core.pts
    at hpt
  cases hs : (parseSdp P sdp).selectedAudioSection with
  | none =>
    rw [hs, parse_layout_none] at hpt
    change pt ∈ ((layout (rows sdp)).1.foldl readRow {}).pts at hpt
    grind
  | some i =>
    obtain ⟨b, hb⟩ := Option.isSome_iff_exists.mp (selected_inside P sdp i hs)
    obtain ⟨st, hst, hr⟩ := parse_layout hb
    have hn : st.pts = [] := (congrArg ParseState.pts hst).trans hse
    rw [hs, hr] at hpt
    change pt ∈ (b.rows.foldl readRow (openBlock (some i) i st b.head)).pts at hpt
    rw [foldl_readRow_pts] at hpt
    have hl := mem_pts_openBlock hpt
    rw [hn] at hl
    exact ⟨b, mem_of_getElem? hb, hl.resolve_left not_mem_nil⟩

def Carried (pt : UInt8) : Prop :=
  ∀ sequenceNumber timestamp ssrc marker payload, ∃ header,
    RtpHeader.parse (RtpHeader.build pt sequenceNumber timestamp ssrc marker payload) =
      some header ∧ header.payloadType = pt ∧ header.marker = marker

theorem low_bits_iff : pt &&& 0x7F = pt ↔ pt < 128 := by
  have ha : ∀ n : Fin 256, UInt8.ofNat n &&& 0x7F = UInt8.ofNat n ↔ UInt8.ofNat n < 128 := by
    decide +kernel
  have hpt := ha ⟨pt.toNat, pt.toNat_lt⟩
  rwa [UInt8.ofNat_toNat] at hpt

theorem carried_iff : Carried pt ↔ pt < 128 := by
  constructor
  · intro h
    obtain ⟨header, hparse, hpt, -⟩ := h 0 0 0 false []
    rw [RtpHeader.parse_build] at hparse
    cases hparse
    exact low_bits_iff.mp hpt
  · intro h sequenceNumber timestamp ssrc marker payload
    refine ⟨_, RtpHeader.parse_build pt sequenceNumber timestamp ssrc marker payload, ?_, rfl⟩
    exact low_bits_iff.mpr h

/-- Every codec read from a text is carried, and two of them with different numbers differ on
the wire, if and only if their numbers have seven bits; so it is where the text lists no others. -/
theorem accepted_codec_carried (P : Primitives) (sdp : Text) :
    ((∀ c ∈ (parseSdp P sdp).codecs, Carried c.pt ∧
      ∀ d ∈ (parseSdp P sdp).codecs, c.pt ≠ d.pt →
        ∀ sequenceNumber timestamp ssrc marker payload
          sequenceNumber' timestamp' ssrc' marker' payload',
        (RtpHeader.parse (RtpHeader.build c.pt sequenceNumber timestamp ssrc marker payload)).map
            RtpHeader.payloadType ≠
          (RtpHeader.parse (RtpHeader.build d.pt sequenceNumber' timestamp' ssrc' marker'
            payload')).map RtpHeader.payloadType) ↔
      ∀ c ∈ (parseSdp P sdp).codecs, c.pt < 128) ∧
    ((∀ pt, Lists sdp pt → pt < 128) → ∀ c ∈ (parseSdp P sdp).codecs, c.pt < 128) := by
  refine ⟨⟨fun h c hc => carried_iff.mp (h c hc).1, fun h c hc => ?_⟩, fun h c hc => ?_⟩
  · refine ⟨carried_iff.mpr (h c hc), fun d hd hne _ _ _ _ _ _ _ _ _ _ heq => hne ?_⟩
    rw [RtpHeader.parse_build, RtpHeader.parse_build] at heq
    have hbits : c.pt &&& 0x7F = d.pt &&& 0x7F := Option.some.inj heq
    rwa [low_bits_iff.mpr (h c hc), low_bits_iff.mpr (h d hd)] at hbits
  · exact h c.pt (lists_of_mem_codecs hc)

def sampleNarrowSdp : Text :=
  ["c=IN IP4 192.0.2.10".toList, "m=audio 4000 RTP/AVP 96".toList,
    "a=rtpmap:96 PCMU/8000".toList].flatMap (· ++ crlf)

theorem sampleNarrowSdp_carried : Carried 96 :=
  have hcodec : { codecPcmu with pt := 96 } ∈ (parseSdp .reference sampleNarrowSdp).codecs := by
    decide +kernel
  have hlists : ∀ pt, Lists sampleNarrowSdp pt → pt < 128 := by
    have hlayout : (layout (rows sampleNarrowSdp)).2.flatMap
        (fun b => (openSection b.head).formats.filterMap parseU8) = [96] := by decide +kernel
    rintro pt ⟨b, hb, f, hf, hpt⟩
    have hmem : pt ∈ [96] := by
      rw [← hlayout]
      exact mem_flatMap.mpr ⟨b, hb, mem_filterMap.mpr ⟨f, hf, hpt⟩⟩
    obtain rfl := mem_singleton.mp hmem
    decide
  have hcarried := accepted_codec_carried .reference sampleNarrowSdp
  (hcarried.1.mpr (hcarried.2 hlists) _ hcodec).1

def sampleWideSdp : Text :=
  ["c=IN IP4 192.0.2.10".toList, "m=audio 4000 RTP/AVP 96 224".toList,
    "a=rtpmap:96 PCMU/8000".toList, "a=rtpmap:224 G722/8000".toList].flatMap (· ++ crlf)

/-- Both codecs are accepted, and the packets of the second are those of the first. -/
theorem sampleWideSdp_collides :
    (parseSdp .reference sampleWideSdp).codecs.map SdpCodec.pt = [96, 224] ∧
      ¬Carried 224 ∧ RtpHeader.build 224 1 160 7 true [] = RtpHeader.build 96 1 160 7 true [] := by
  exact ⟨by decide +kernel, fun h => absurd (carried_iff.mp h) (by decide), by decide +kernel⟩

end RtpBridge.Sdp
