/-
The codec a description binds to a payload type.
-/
import RtpBridge.Media.SdpAnswer

namespace RtpBridge.Sdp

open Srtp Text List Option HashMap

variable {pt : UInt8} {c : SdpCodec} {entry : RtpMap} {st : ParseState} {crypto : Option SdpCrypto}
  {sections : List SdpMediaSection} {selected : Nat} {sdp : Text} {P : Primitives} {b : MediaBlock}
  {codecs : List SdpCodec}

/-! ## Bindings -/

def MediaBlock.payloadTypes (b : MediaBlock) : List UInt8 :=
  (openSection b.head).formats.filterMap parseU8

def rtpmaps (rows : List Text) (pt : UInt8) : List RtpMap :=
  ((rows.filterMap rtpmapEntry).filter fun e => e.1 = pt).map Prod.snd

def bindingOf (entry : Option RtpMap) (pt : UInt8) : Option (Text × UInt32) :=
  match entry with
  | some (name, clockRate, _) =>
    let name := toAsciiLowercase name
    some (name, if name = telephoneEventName ∧ clockRate = 0 then 8000 else clockRate)
  | none =>
    if pt = 0 then some ("pcmu".toList, 8000)
    else if pt = 9 then some ("g722".toList, 8000)
    else none

def binding (rows : List Text) (pt : UInt8) : Option (Text × UInt32) :=
  bindingOf (rtpmaps rows pt).getLast? pt

def SdpCodec.announced (c : SdpCodec) : Text × UInt32 := (toAsciiLowercase c.name, c.clockRate)

/-! ## The codecs of the parser -/

inductive Known : SdpCodec → Prop where
  | pcmu {pt : UInt8} (h : pt = 0 ∨ 96 ≤ pt) : Known { codecPcmu with pt := pt }
  | g722 {pt : UInt8} (h : pt = 9 ∨ 96 ≤ pt) : Known { codecG722 with pt := pt }
  | opus {pt : UInt8} {maxptime : Option UInt32} {fmtp : Option Text} (h : 96 ≤ pt)
      (hr : ∀ f, fmtp = some f → Row f) (hm : (OpusProfile.parse fmtp).minPacketMs ≤ 20) :
      Known { codecOpus with pt := pt, maxptime := maxptime, fmtp := fmtp }
  | telephoneEvent {pt : UInt8} {clockRate : UInt32} (h : 96 ≤ pt) (hc : 0 < clockRate) :
      Known { codecTelephoneEvent with pt := pt, clockRate := clockRate }

theorem Known.printable (hc : Known c) : Printable c := by
  have hn : ∀ known ∈ [codecPcmu, codecG722, codecOpus, codecTelephoneEvent],
      Word known.name ∧ '/' ∉ known.name := by decide
  cases hc with
  | pcmu h =>
    obtain ⟨hw, hs⟩ := hn codecPcmu (by decide)
    exact ⟨hw, hs, fun f hf => by cases hf⟩
  | g722 h =>
    obtain ⟨hw, hs⟩ := hn codecG722 (by decide)
    exact ⟨hw, hs, fun f hf => by cases hf⟩
  | opus h hr hm =>
    obtain ⟨hw, hs⟩ := hn codecOpus (by decide)
    exact ⟨hw, hs, hr⟩
  | telephoneEvent h hcl =>
    obtain ⟨hw, hs⟩ := hn codecTelephoneEvent (by decide)
    exact ⟨hw, hs, printable_codecTelephoneEvent.fmtp⟩

theorem RtpMap.isCodec_eq_true {name : Text} {clockRate : UInt32} {channels : UInt8}
    (h : entry.isCodec name clockRate channels = true) :
    toAsciiLowercase entry.1 = toAsciiLowercase name ∧ entry.2.1 = clockRate := by
  unfold RtpMap.isCodec eqIgnoreAsciiCase at h
  rw [Bool.and_eq_true, Bool.and_eq_true, beq_iff_eq, beq_iff_eq] at h
  exact h.1

theorem bindingOf_isCodec {name : Text} {clockRate : UInt32} {channels : UInt8}
    (h : entry.isCodec name clockRate channels = true)
    (hn : toAsciiLowercase name ≠ telephoneEventName) (pt : UInt8) :
    bindingOf (some entry) pt = some (toAsciiLowercase name, clockRate) := by
  obtain ⟨hl, hc⟩ := RtpMap.isCodec_eq_true h
  show some (toAsciiLowercase entry.1,
    if toAsciiLowercase entry.1 = telephoneEventName ∧ entry.2.1 = 0 then 8000 else entry.2.1) = _
  rw [hl, hc, if_neg fun he => hn he.1]

theorem mapCodec_known (hr : ∀ f, st.fmtp.lookup pt = some f → Row f)
    (h : (mapCodec st pt).1 = some c) :
    Known c ∧ bindingOf (st.rtpmap.lookup pt) pt = some c.announced := by
  unfold mapCodec at h
  dsimp only at h
  split at h
  · rename_i hp
    cases h
    obtain ⟨rfl, hen⟩ := hp
    refine ⟨.pcmu (.inl rfl), ?_⟩
    cases hl : st.rtpmap.lookup 0 with
    | none => decide
    | some entry =>
      rw [hl] at hen
      exact bindingOf_isCodec hen (by decide) 0
  split at h
  · rename_i hg
    cases h
    obtain ⟨rfl, hen⟩ := hg
    refine ⟨.g722 (.inl rfl), ?_⟩
    cases hl : st.rtpmap.lookup 9 with
    | none => decide
    | some entry =>
      rw [hl] at hen
      exact bindingOf_isCodec hen (by decide) 9
  split at h
  · cases h
  rename_i hd
  have hpt : 96 ≤ pt := UInt8.not_lt.mp hd
  split at h
  · cases h
  rename_i entry hl
  rw [hl]
  split at h
  · rename_i hev
    cases h
    have hlo : toAsciiLowercase entry.1 = telephoneEventName := by
      unfold eqIgnoreAsciiCase at hev
      rw [beq_iff_eq] at hev
      exact hev
    refine ⟨.telephoneEvent hpt ?_, ?_⟩
    · split
      · rename_i hc
        exact hc
      · decide
    show some (toAsciiLowercase entry.1, if toAsciiLowercase entry.1 = telephoneEventName ∧
      entry.2.1 = 0 then 8000 else entry.2.1) = _
    rw [hlo]
    by_cases hz : entry.2.1 = 0
    · rw [hz]
      rfl
    rw [if_neg fun hb => hz hb.2]
    have hpo : 0 < entry.2.1 := UInt32.pos_iff_ne_zero.mpr hz
    rw [if_pos hpo]
    rfl
  split at h
  · rename_i ho
    split at h
    · rename_i he
      cases h
      unfold OpusProfile.encodable at he
      rw [Bool.and_eq_true, decide_eq_true_eq] at he
      exact ⟨.opus hpt hr he.1, bindingOf_isCodec ho (by decide) pt⟩
    · cases h
  split at h
  · rename_i hp
    cases h
    exact ⟨.pcmu (.inr hpt), bindingOf_isCodec hp (by decide) pt⟩
  split at h
  · rename_i hg
    cases h
    exact ⟨.g722 (.inr hpt), bindingOf_isCodec hg (by decide) pt⟩
  · cases h

theorem mapCodec_dynamic (hpt : 96 ≤ pt) (hen : st.rtpmap.lookup pt = some entry) :
    (mapCodec st pt).1 = if eqIgnoreAsciiCase entry.1 telephoneEventName then
        some { codecTelephoneEvent with
          pt := pt
          clockRate := if 0 < entry.2.1 then entry.2.1 else codecTelephoneEvent.clockRate }
      else if entry.isCodec codecOpus.name 48000 2 then
        if (OpusProfile.fromCodec { codecOpus with
          pt := pt
          maxptime := st.maxptime
          fmtp := st.fmtp.lookup pt }).encodable then
          some { codecOpus with
            pt := pt
            maxptime := st.maxptime
            fmtp := st.fmtp.lookup pt }
        else none
      else if entry.isCodec codecPcmu.name 8000 1 then some { codecPcmu with pt := pt }
      else if entry.isCodec codecG722.name 8000 1 then some { codecG722 with pt := pt }
      else none := by
  grind [mapCodec]

theorem Known.mapCodec (hc : Known c) (hen : st.rtpmap.lookup c.pt = some (rtpmapOf c).2)
    (hf : st.fmtp.lookup c.pt = c.fmtp) (hm : st.maxptime = some 20) :
    ∃ c', (Sdp.mapCodec st c.pt).1 = some c' ∧ c'.pt = c.pt ∧ c'.name = c.name ∧
      c'.clockRate = c.clockRate := by
  cases hc with
  | pcmu h =>
    rcases h with rfl | hpt
    · unfold Sdp.mapCodec
      rw [hen]
      exact ⟨_, rfl, rfl, rfl, rfl⟩
    · rw [mapCodec_dynamic hpt hen]
      exact ⟨_, rfl, rfl, rfl, rfl⟩
  | g722 h =>
    rcases h with rfl | hpt
    · unfold Sdp.mapCodec
      rw [hen]
      exact ⟨_, rfl, rfl, rfl, rfl⟩
    · rw [mapCodec_dynamic hpt hen]
      exact ⟨_, rfl, rfl, rfl, rfl⟩
  | opus hpt hr hmi =>
    rename_i pt maxptime fmtp
    have he : (OpusProfile.fromCodec { codecOpus with
        pt := pt
        maxptime := st.maxptime
        fmtp := st.fmtp.lookup pt }).encodable = true := by
      rw [hm, show st.fmtp.lookup pt = fmtp from hf]
      show (decide ((OpusProfile.parse fmtp).minPacketMs ≤ 20) && decide (20 ≤ 20)) = true
      rw [decide_eq_true hmi]
      rfl
    have ho : st.rtpmap.lookup pt = some (codecOpus.name, 48000, some 2) := hen
    rw [mapCodec_dynamic hpt ho, if_neg (by decide), if_pos (by decide), if_pos he]
    exact ⟨_, rfl, rfl, rfl, rfl⟩
  | telephoneEvent hpt hcl =>
    rename_i pt clockRate
    refine ⟨_, (mapCodec_dynamic hpt hen).trans (if_pos rfl), rfl, rfl, ?_⟩
    show (if 0 < clockRate then clockRate else _) = clockRate
    rw [if_pos hcl]

/-! ## The first codec of an answer -/

theorem withTelephoneEvent_cons (c : SdpCodec) (rest : List SdpCodec) :
    ∃ rest', withTelephoneEvent (c :: rest) = c :: rest' := by
  unfold withTelephoneEvent
  split
  · exact ⟨rest, rfl⟩
  · exact ⟨rest ++ [codecTelephoneEvent], rfl⟩

theorem Writable.head_codec {rest : List SdpCodec}
    (h : Writable (c :: rest) crypto sections selected) {port : UInt16} (hpo : 0 < port)
    (P : Primitives) (localAddr : SocketAddr) (sessionId : Nat) (hc : Known c)
    (hn : ((withTelephoneEvent (c :: rest)).map SdpCodec.pt).Nodup) :
    ∃ c', (parseSdp P (generateSdp localAddr port (c :: rest) crypto sessionId false
        (some (sections, selected)))).codecs.head? = some c' ∧
      c'.pt = c.pt ∧ c'.name = c.name ∧ c'.clockRate = c.clockRate := by
  obtain ⟨st, hr, hfm, hpt, hm, hco, -, -⟩ :=
    h.parse hpo P localAddr sessionId
  obtain ⟨rest', ha⟩ := withTelephoneEvent_cons c rest
  rw [ha] at hr hfm hpt hn
  rw [map_cons, nodup_cons] at hn
  have ho : ∀ c' ∈ rest', c'.pt ≠ c.pt := by
    intro c' hc' heq
    exact hn.1 (heq ▸ mem_map_of_mem hc')
  -- The rows of the first codec are taken, those of the others do not touch its entries.
  have hen : st.rtpmap.lookup c.pt = some (rtpmapOf c).2 := by
    rw [hr, map_cons, foldl_cons, lookup_foldl_insertBelow_ne]
    · exact AList.lookup_insert _
    intro e he
    obtain ⟨c', hc', rfl⟩ := mem_map.mp he
    exact ho c' hc'
  have hre : ∀ e ∈ rest'.filterMap fun c => c.fmtp.map fun f => (c.pt, f), e.1 ≠ c.pt := by
    intro e he
    obtain ⟨c', hc', hmp⟩ := mem_filterMap.mp he
    obtain ⟨f, -, rfl⟩ := map_eq_some_iff.mp hmp
    exact ho c' hc'
  have hp : st.fmtp.lookup c.pt = c.fmtp := by
    rw [hfm]
    cases hf : c.fmtp with
    | none =>
      rw [filterMap_cons_none (by rw [hf]; rfl), lookup_foldl_insertBelow_ne _ hre]
      rfl
    | some f =>
      rw [filterMap_cons_some (by rw [hf]; rfl), foldl_cons, lookup_foldl_insertBelow_ne _ hre]
      exact AList.lookup_insert _
  obtain ⟨c', hma, hsame⟩ := hc.mapCodec hen hp hm
  refine ⟨c', ?_, hsame⟩
  rw [hco, hpt]
  show ((mapCodec st c.pt :: _).filterMap Prod.fst).head? = some c'
  rw [filterMap_cons_some hma]
  rfl

/-! ## The codecs of a description -/

def selectedBlock (P : Primitives) (sdp : Text) : Option MediaBlock :=
  (parseSdp P sdp).selectedAudioSection.bind fun i => (layout (rows sdp)).2[i]?

def MediaBlock.told (sdp : Text) (b : MediaBlock) : List Text :=
  (layout (Sdp.rows sdp)).1 ++ b.rows

theorem row_of_fmtpEntry {row f : Text} (hr : row ∈ rows sdp) (h : fmtpEntry row = some (pt, f)) :
    Row f := by
  obtain ⟨line, hl, rfl⟩ := mem_map.mp hr
  have hn := no_newline_of_mem_lines hl
  unfold fmtpEntry at h
  split at h
  · cases h
  rename_i rest hst
  split at h
  · cases h
  rename_i number value hs
  obtain ⟨k, -, hv⟩ := map_eq_some_iff.mp h
  cases hv
  -- The line ends in the value, and the trimmed line does not end in white space.
  have hre : rest = number ++ ' ' :: value := by
    unfold splitOnce at hs
    split at hs
    · cases hs
    · grind [List.head?_dropWhile_not, takeWhile_append_dropWhile]
  have hl : trim line = ("a=fmtp:".toList ++ number ++ [' ']) ++ value := by
    rw [stripPrefix_eq_some hst, hre]
    simp only [append_assoc, singleton_append]
  have ht : Row (trim line) := row_trim hn (by rw [hl]; exact cons_ne_nil _ _)
  obtain ⟨z, hla, hz⟩ := ht.last
  have hm : z ∈ value := by
    rw [hl, List.getLast?_append] at hla
    cases he : value.getLast? with
    | none =>
      rw [he, List.getLast?_concat] at hla
      cases hla
      cases hz
    | some y => grind
  grind [row_trim, ht.no_newline, trim_ne_nil]

theorem tables_of_core {s t : ParseState} (h : s.core = t.core) :
    s.rtpmap = t.rtpmap ∧ s.fmtp = t.fmtp ∧ s.pts = t.pts ∧ s.mediaProtocol = t.mediaProtocol := by
  have hr := congrArg ParseState.rtpmap h
  have hf := congrArg ParseState.fmtp h
  have hpt := congrArg ParseState.pts h
  have hp := congrArg ParseState.mediaProtocol h
  exact ⟨hr, hf, hpt, hp⟩

theorem selected_codecs (hr : (parseSdp P sdp).mediaProtocol.isSome)
    (hb : selectedBlock P sdp = some b) :
    ∃ st : ParseState, (parseSdp P sdp).codecs = (st.pts.map (mapCodec st)).filterMap Prod.fst ∧
      st.rtpmap = ((b.told sdp).filterMap rtpmapEntry).foldl (HashMap.insertBelow 32) ∅ ∧
      st.fmtp = ((b.told sdp).filterMap fmtpEntry).foldl (HashMap.insertBelow 32) ∅ ∧
      st.pts = b.payloadTypes.take maxSdpCodecs := by
  obtain ⟨i, hsl, hb⟩ := bind_eq_some_iff.mp hb
  obtain ⟨before, hbe, hfi⟩ := parse_layout hb
  obtain ⟨st, hst⟩ : ∃ st, st = (rows sdp).foldl (parseLine (some i)) {} := ⟨_, rfl⟩
  have hp : (parseSdp P sdp).codecs = (st.pts.map (mapCodec st)).filterMap Prod.fst ∧
      (parseSdp P sdp).mediaProtocol = st.mediaProtocol := by
    rw [hst, ← hsl]
    exact ⟨rfl, rfl⟩
  rw [← hst] at hfi
  obtain ⟨hse, hses, hss⟩ := foldl_readRow_tables (layout (rows sdp)).1
    (by decide : ({} : ParseState).mediaSection ≠ some false)
  obtain ⟨-, -, hs⟩ := foldl_readRow_current (layout (rows sdp)).1 {}
  have hn : before.mediaProtocol = none :=
    (congrArg ParseState.mediaProtocol hbe).trans hs
  obtain ⟨-, -, hk⟩ := foldl_readRow_current b.rows (openBlock (some i) i before b.head)
  let final := b.rows.foldl readRow (openBlock (some i) i before b.head)
  obtain ⟨hfn, hfl, hfin, hf⟩ :=
    tables_of_core (s := st) (t := final) hfi
  have hbf : before.rtpmap = _ := (congrArg ParseState.rtpmap hbe).trans hse
  have hbr : before.fmtp = _ := (congrArg ParseState.fmtp hbe).trans hses
  have hbef : before.pts = [] := (congrArg ParseState.pts hbe).trans hss
  have hop : (openBlock (some i) i before b.head).mediaProtocol.isSome := by
    rw [← hk, ← hf, ← hp.2]
    exact hr
  obtain ⟨-, hsc, -, hoe, hopn, ho⟩ := openBlock_read hn hop
  have hon : (openBlock (some i) i before b.head).mediaSection ≠ some false := by
    rw [hsc]
    decide
  obtain ⟨hoR, hoF, how⟩ := foldl_readRow_tables b.rows hon
  refine ⟨st, hp.1, ?_, ?_, ?_⟩
  · grind [MediaBlock.told]
  · grind [MediaBlock.told]
  · rw [hfin, how, ho, hbef]
    rfl

theorem mem_rows_of_told {row : Text} (hb : selectedBlock P sdp = some b) (hro : row ∈ b.told sdp) :
    row ∈ rows sdp := by
  obtain ⟨i, -, hb⟩ := bind_eq_some_iff.mp hb
  obtain ⟨hr, -, -⟩ := layout_rows (rows sdp)
  rw [hr]
  rcases mem_append.mp hro with hro | hro
  · exact mem_append_left _ hro
  · exact mem_append_right _ (mem_flatMap.mpr
      ⟨b, mem_of_getElem? hb, mem_cons_of_mem _ hro⟩)

theorem codec_of_mem (hre : (parseSdp P sdp).mediaProtocol.isSome)
    (hb : selectedBlock P sdp = some b) (hc : c ∈ (parseSdp P sdp).codecs) :
    c.pt ∈ b.payloadTypes ∧ Known c ∧
      (((b.told sdp).filterMap rtpmapEntry).length ≤ 32 →
        binding (b.told sdp) c.pt = some c.announced) := by
  obtain ⟨st, hco, hr, hfm, hp⟩ := selected_codecs hre hb
  rw [hco] at hc
  obtain ⟨x, hx, hxc⟩ := mem_filterMap.mp hc
  obtain ⟨pt, hpt, rfl⟩ := mem_map.mp hx
  have hro : ∀ f, st.fmtp.lookup pt = some f → Row f := by
    intro f hf
    rw [hfm] at hf
    rcases mem_of_lookup_foldl_insertBelow hf with he | hm
    · cases he
    · obtain ⟨row, hin, hen⟩ := mem_filterMap.mp hm
      exact row_of_fmtpEntry (mem_rows_of_told hb hin) hen
  obtain ⟨hk, hbo⟩ := mapCodec_known hro hxc
  rw [mapCodec_pt hxc]
  rw [hp] at hpt
  refine ⟨mem_of_mem_take hpt, hk, fun hcu => ?_⟩
  have hl : st.rtpmap.lookup pt = (rtpmaps (b.told sdp) pt).getLast? := by
    rw [hr, lookup_foldl_insertBelow]
    · simp [rtpmaps]
    · rw [show HashMap.size (∅ : HashMap UInt8 RtpMap) = 0 from rfl, Nat.zero_add]
      exact hcu
  unfold binding
  rw [← hl]
  exact hbo

theorem nodup_codecs (hr : (parseSdp P sdp).mediaProtocol.isSome)
    (hb : selectedBlock P sdp = some b) (hn : b.payloadTypes.Nodup) :
    ((parseSdp P sdp).codecs.map SdpCodec.pt).Nodup := by
  obtain ⟨st, hco, -, -, hpt⟩ := selected_codecs hr hb
  have hs : ∀ l : List UInt8,
      (((l.map (mapCodec st)).filterMap Prod.fst).map SdpCodec.pt).Sublist l := by
    intro l
    induction l with
    | nil => exact List.Sublist.slnil
    | cons pt l ih =>
      cases hmp : (mapCodec st pt).1 with
      | none =>
        rw [map_cons, filterMap_cons_none hmp]
        exact ih.cons pt
      | some c =>
        rw [map_cons, filterMap_cons_some hmp, map_cons, mapCodec_pt hmp]
        exact ih.cons_cons pt
  grind

/-! ## What a valid description gives an answer -/

theorem listed_of_valid (hv : (parseSdp P sdp).validatePlainOffer P = .ok ()) :
    ∀ s ∈ (parseSdp P sdp).mediaSections, Listed s := by
  intro s hs
  have hc : s.media ≠ [] ∧ s.protocol ≠ [] ∧ s.formats ≠ [] := by
    unfold ParsedSdp.validatePlainOffer ParsedSdp.validateSelectedPlainMedia at hv
    dsimp only at hv
    split at hv
    · cases hv
    split at hv
    · cases hv
    rename_i hi
    rw [Bool.or_eq_true, not_or, List.any_eq_true] at hi
    have hn : ¬ (s.media.isEmpty || s.protocol.isEmpty || s.formats.isEmpty) = true :=
      fun he => hi.2 ⟨s, hs, he⟩
    simpa [and_assoc] using hn
  rw [mediaSections_eq] at hs
  obtain ⟨b, -, rfl⟩ := mem_map.mp hs
  obtain ⟨hme, hp, hfo, -, -, -⟩ := foldl_noteRow P b.rows (openSection b.head)
  have hwo : ∀ w ∈ splitWhitespace b.head, Word w := fun w hw => word_of_mem_splitWhitespace hw
  rw [show (b.scan P).media = _ from hme, show (b.scan P).protocol = _ from hp,
    show (b.scan P).formats = _ from hfo] at hc
  obtain ⟨hm, hpr, hfr⟩ := hc
  refine ⟨?_, ?_, ?_, fun f hf => ?_⟩
  · rw [show (b.scan P).media = _ from hme]
    unfold openSection at hm ⊢
    cases hpa : splitWhitespace b.head with
    | nil =>
      rw [hpa] at hm
      exact absurd rfl hm
    | cons w rest => exact hwo w (hpa ▸ mem_cons_self)
  · rw [show (b.scan P).protocol = _ from hp]
    unfold openSection at hpr ⊢
    grind
  · rw [show (b.scan P).formats = _ from hfo]
    exact hfr
  · rw [show (b.scan P).formats = _ from hfo] at hf
    exact hwo f (mem_of_mem_drop hf)

theorem selected_of_valid (hva : (parseSdp P sdp).validatePlainOffer P = .ok ()) :
    ∃ i b, (parseSdp P sdp).selectedAudioSection = some i ∧ selectedBlock P sdp = some b ∧
      i < (parseSdp P sdp).mediaSections.length ∧ (parseSdp P sdp).mediaProtocol.isSome ∧
      ∀ c, (parseSdp P sdp).crypto = some c → c.suite = supportedSuite := by
  obtain ⟨hso, hr, -, -⟩ := validatePlainOffer_ok hva
  obtain ⟨i, hi⟩ := isSome_iff_exists.mp hso
  have ha := parseSdp_selected_audio P sdp hi
  obtain ⟨s, hs, -⟩ := map_eq_some_iff.mp ha
  obtain ⟨hl, -⟩ := List.getElem?_eq_some_iff.mp hs
  rw [mediaSections_eq, List.getElem?_map] at hs
  obtain ⟨b, hb, -⟩ := map_eq_some_iff.mp hs
  obtain ⟨-, -, hk⟩ := selected_read P sdp hi hb hr
  refine ⟨i, b, hi, ?_, hl, hr, fun c hc => ?_⟩
  · unfold selectedBlock
    rw [hi]
    exact hb
  obtain ⟨row, -, value, -, hv⟩ := hk c hc
  unfold parseSdesCrypto at hv
  split at hv
  · split at hv
    · cases hv
    rename_i hsu
    rw [not_not] at hsu
    obtain ⟨tag, -, hv⟩ := bind_eq_some_iff.mp hv
    split at hv
    · cases hv
    obtain ⟨key, -, hv⟩ := bind_eq_some_iff.mp hv
    cases hv
    exact hsu
  · cases hv

/-! ## The bindings of an answer -/

/-- The answer to an offer lists every payload type once, with one rtpmap row, binds none of
those in the offer to another codec, and is read with the codec we send in front. -/
def KeepsBindings (P : Primitives) (offer answer : Text) (sendCodec : Option SdpCodec) : Prop :=
  ∃ theirs ours, selectedBlock P offer = some theirs ∧
    (layout (rows answer)).2.filter (fun b => b.ActiveAudio) = [ours] ∧
    ours.payloadTypes.Nodup ∧
    (∀ pt ∈ ours.payloadTypes, (rtpmaps ours.rows pt).length = 1) ∧
    (∀ pt ∈ ours.payloadTypes, pt ∈ theirs.payloadTypes →
      binding ours.rows pt = binding (theirs.told offer) pt) ∧
    ∀ c, sendCodec = some c → ∃ c', (parseSdp P answer).codecs.head? = some c' ∧
      c'.pt = c.pt ∧ c'.name = c.name ∧ c'.clockRate = c.clockRate

theorem Known.clockRate_ne_zero (hc : Known c) : c.clockRate ≠ 0 := by
  cases hc with
  | pcmu h => exact (by decide : codecPcmu.clockRate ≠ 0)
  | g722 h => exact (by decide : codecG722.clockRate ≠ 0)
  | opus h hr hm => exact (by decide : codecOpus.clockRate ≠ 0)
  | telephoneEvent h hcl => exact UInt32.pos_iff_ne_zero.mp hcl

theorem known_codecTelephoneEvent : Known codecTelephoneEvent :=
  .telephoneEvent (by decide) (by decide)

theorem known_withTelephoneEvent (h : ∀ c ∈ codecs, Known c) :
    ∀ c ∈ withTelephoneEvent codecs, Known c := by
  grind [withTelephoneEvent, known_codecTelephoneEvent]

theorem rtpmaps_own (hp : ∀ c ∈ codecs, Printable c)
    (hn : (codecs.map SdpCodec.pt).Nodup) (port : UInt16) (proto : Text)
    (crypto : Option SdpCrypto) (hc : c ∈ codecs) :
    rtpmaps (ownBlock port proto codecs crypto).rows c.pt = [(rtpmapOf c).2] := by
  have hf : ∀ l : List SdpCodec, (l.map SdpCodec.pt).Nodup → c ∈ l →
      (l.map rtpmapOf).filter (fun e => e.1 = c.pt) = [rtpmapOf c] := by
    intro l
    induction l with
    | nil => exact fun _ hin => absurd hin not_mem_nil
    | cons d l ih =>
      intro hdi hin
      rw [map_cons, nodup_cons] at hdi
      rw [map_cons, filter_cons]
      rcases mem_cons.mp hin with rfl | hin
      · rw [if_pos (decide_eq_true (show (rtpmapOf c).1 = c.pt from rfl))]
        refine congrArg (rtpmapOf c :: ·) (filter_eq_nil_iff.mpr fun e he => ?_)
        obtain ⟨d, hd, rfl⟩ := mem_map.mp he
        rw [decide_eq_true_eq]
        exact fun heq => hdi.1 (heq ▸ mem_map_of_mem hd)
      have hne : d.pt ≠ c.pt := fun heq =>
        hdi.1 (heq ▸ mem_map_of_mem hin)
      have hs : ¬ decide ((rtpmapOf d).1 = c.pt) = true :=
        fun heq => hne (of_decide_eq_true heq)
      rw [if_neg hs]
      exact ih hdi.2 hin
  grind [rtpmaps, ownBlock_entries]

theorem binding_own (hk : ∀ c ∈ codecs, Known c) (hn : (codecs.map SdpCodec.pt).Nodup)
    (port : UInt16) (proto : Text) (crypto : Option SdpCrypto) (hc : c ∈ codecs) :
    binding (ownBlock port proto codecs crypto).rows c.pt = some c.announced := by
  unfold binding
  rw [rtpmaps_own (fun d hd => (hk d hd).printable) hn port proto crypto hc]
  show some (toAsciiLowercase c.name, if toAsciiLowercase c.name = telephoneEventName ∧
    c.clockRate = 0 then 8000 else c.clockRate) = some c.announced
  rw [if_neg fun hz => (hk c hc).clockRate_ne_zero hz.2]
  rfl

theorem Writable.payloadTypes (h : Writable codecs crypto sections selected) (port : UInt16) :
    (ownSection port codecs crypto sections selected).payloadTypes =
      (withTelephoneEvent codecs).map SdpCodec.pt := by
  have hsc := ownBlock_section port _ crypto h.proto (withTelephoneEvent_ne_nil codecs)
  unfold MediaBlock.payloadTypes ownSection
  rw [hsc]
  rw [filterMap_map, ← filterMap_eq_map]
  exact congrArg (List.filterMap · (withTelephoneEvent codecs))
    (funext fun c => parseU8_ofNat c.pt)

theorem Writable.keepsBindings {offer : Text} (h : Writable codecs crypto sections selected)
    {port : UInt16} (hpo : 0 < port) (localAddr : SocketAddr) (sessionId : Nat)
    (hk : ∀ c ∈ codecs, Known c) (hn : ((withTelephoneEvent codecs).map SdpCodec.pt).Nodup)
    {theirs : MediaBlock} (hth : selectedBlock P offer = some theirs)
    (ha : ∀ c ∈ withTelephoneEvent codecs, c.pt ∈ theirs.payloadTypes →
      binding (theirs.told offer) c.pt = some c.announced) {sendCodec : Option SdpCodec}
    (hs : ∀ c, sendCodec = some c → ∃ d rest,
      codecs = d :: rest ∧ d.pt = c.pt ∧ d.name = c.name ∧ d.clockRate = c.clockRate) :
    KeepsBindings P offer (generateSdp localAddr port codecs crypto sessionId false
      (some (sections, selected))) sendCodec := by
  have hal := known_withTelephoneEvent hk
  refine ⟨theirs, ownSection port codecs crypto sections selected, hth, ?_, ?_, ?_, ?_, ?_⟩
  · rw [h.layout]
    exact h.active hpo
  · rw [h.payloadTypes]
    exact hn
  · intro pt hpt
    rw [h.payloadTypes] at hpt
    obtain ⟨c, hc, rfl⟩ := mem_map.mp hpt
    unfold ownSection
    rw [rtpmaps_own (fun d hd => (hal d hd).printable) hn _ _ _ hc]
    rfl
  · intro pt hpt ht
    rw [h.payloadTypes] at hpt
    obtain ⟨c, hc, rfl⟩ := mem_map.mp hpt
    rw [ha c hc ht]
    exact binding_own hal hn _ _ _ hc
  intro c hc
  obtain ⟨d, rest, rfl, hpt, hna, hcl⟩ := hs c hc
  obtain ⟨c', hh, hpt', hna', hcl'⟩ := h.head_codec hpo P localAddr sessionId
    (hk d mem_cons_self) hn
  exact ⟨c', hh, hpt'.trans hpt, hna'.trans hna, hcl'.trans hcl⟩

end RtpBridge.Sdp
