/-
An answer as the offerer reads it.
-/
import RtpBridge.Base.Rows
import RtpBridge.Media.SdpSections

namespace RtpBridge.Sdp

open Srtp Text List Option

variable {st : ParseState}

/-! ## The rows of an answer -/

def withTelephoneEvent (codecs : List SdpCodec) : List SdpCodec :=
  if codecs.any SdpCodec.isTelephoneEvent then codecs else codecs ++ [codecTelephoneEvent]

def encoding (c : SdpCodec) : Text :=
  c.name ++ ['/'] ++ ofNat c.clockRate.toNat ++ c.channels.elim [] fun ch => '/' :: ofNat ch.toNat

def rtpmapRow (c : SdpCodec) : Text :=
  "a=rtpmap:".toList ++ ofNat c.pt.toNat ++ [' '] ++ encoding c

def fmtpRow (c : SdpCodec) (fmtp : Text) : Text :=
  "a=fmtp:".toList ++ ofNat c.pt.toNat ++ [' '] ++ fmtp

def codecRows (c : SdpCodec) : List Text := rtpmapRow c :: c.fmtp.toList.map (fmtpRow c)

def cryptoText (c : SdpCrypto) : Text :=
  "a=crypto:".toList ++ ofNat c.tag.toNat ++ [' '] ++ c.suite ++ " inline:".toList ++ c.keyB64 ++
    c.keyLifetimePackets.elim [] fun packets => '|' :: ofNat packets

def closingRows : List Text :=
  ["a=sendrecv".toList, "a=rtcp-mux".toList, "a=ptime:20".toList, "a=maxptime:20".toList]

def ownBlock (port : UInt16) (proto : Text) (codecs : List SdpCodec) (crypto : Option SdpCrypto) :
    MediaBlock where
  head := "audio ".toList ++ ofNat port.toNat ++ [' '] ++ proto ++ [' '] ++
    join (codecs.map fun c => ofNat c.pt.toNat) ' '
  rows := codecs.flatMap codecRows ++ crypto.toList.map cryptoText ++ closingRows

def rejectedBlock (s : SdpMediaSection) : MediaBlock where
  head := s.media ++ " 0 ".toList ++ s.protocol ++ [' '] ++ join s.formats ' '
  rows := []

def sessionRows (localAddr : SocketAddr) (sessionId : Nat) : List Text :=
  let ip := localAddr.ip.toText
  let ipVer := if localAddr.isIpv6 then "IP6".toList else "IP4".toList
  ["v=0".toList,
    "o=rtpbridge ".toList ++ ofNat sessionId ++ " 1 IN ".toList ++ ipVer ++ [' '] ++ ip,
    "s=rtpbridge".toList,
    "c=IN ".toList ++ ipVer ++ [' '] ++ ip,
    "t=0 0".toList]

def answerBlocks (sections : List SdpMediaSection) (selected : Nat) (own : MediaBlock) :
    List MediaBlock :=
  sections.zipIdx.map fun (s, index) => if index = selected then own else rejectedBlock s

theorem rtpmapLines_eq (c : SdpCodec) : rtpmapLines c = (codecRows c).flatMap (· ++ crlf) := by
  unfold rtpmapLines codecRows rtpmapRow encoding fmtpRow
  cases c.fmtp with
  | none =>
    simp only [toList_none, map_nil, flatMap_cons, flatMap_nil,
      elim_none, append_assoc]
  | some fmtp =>
    simp only [toList_some, map_cons, map_nil, flatMap_cons,
      flatMap_nil, elim_some, append_nil, append_assoc]

theorem cryptoLine_eq (c : SdpCrypto) : cryptoLine c = cryptoText c ++ crlf := by
  unfold cryptoLine cryptoText
  simp only [append_assoc]

theorem generateSdp_rows (localAddr : SocketAddr) (rtpPort : UInt16) (codecs : List SdpCodec)
    (crypto : Option SdpCrypto) (sessionId : Nat) (sections : List SdpMediaSection)
    (selected : Nat) :
    generateSdp localAddr rtpPort codecs crypto sessionId false (some (sections, selected)) =
      (sessionRows localAddr sessionId ++
        (answerBlocks sections selected (ownBlock rtpPort
          (((sections[selected]?).map SdpMediaSection.protocol).getD [])
          (withTelephoneEvent codecs) crypto)).flatMap MediaBlock.all).flatMap (· ++ crlf) := by
  have ho : ∀ (proto : Text) (codecs : List SdpCodec),
      (ownBlock rtpPort proto codecs crypto).all.flatMap (· ++ crlf) =
        "m=audio ".toList ++ ofNat rtpPort.toNat ++ [' '] ++ proto ++ [' '] ++
          join (codecs.map fun c => ofNat c.pt.toNat) ' ' ++ crlf ++
          codecs.flatMap rtpmapLines ++ crypto.elim [] cryptoLine ++
          "a=sendrecv".toList ++ crlf ++ "a=rtcp-mux".toList ++ crlf ++
          "a=ptime:20".toList ++ crlf ++ "a=maxptime:20".toList ++ crlf := by
    intro proto codecs
    have hc : (codecs.flatMap codecRows).flatMap (· ++ crlf) = codecs.flatMap rtpmapLines := by
      rw [flatMap_assoc]
      exact congrArg (codecs.flatMap ·) (funext fun c => (rtpmapLines_eq c).symm)
    have hcr : (crypto.toList.map cryptoText).flatMap (· ++ crlf) =
        crypto.elim [] cryptoLine := by
      cases crypto with
      | none => rfl
      | some c =>
        rw [elim_some, cryptoLine_eq]
        exact append_nil _
    unfold MediaBlock.all ownBlock closingRows
    rw [flatMap_cons, flatMap_append, flatMap_append, hc, hcr]
    simp only [flatMap_cons, append_assoc]
    rfl
  have hr : ∀ s, (rejectedBlock s).all.flatMap (· ++ crlf) = rejectedSection s := by
    intro s
    unfold MediaBlock.all rejectedBlock rejectedSection
    simp only [flatMap_cons, flatMap_nil, append_assoc, append_nil]
  have hb : ∀ own, ((answerBlocks sections selected own).flatMap MediaBlock.all).flatMap
      (· ++ crlf) = sections.zipIdx.flatMap fun (s, index) =>
        if index = selected then own.all.flatMap (· ++ crlf) else rejectedSection s := by
    intro own
    unfold answerBlocks
    rw [flatMap_assoc, flatMap_map]
    refine congrArg (sections.zipIdx.flatMap ·) (funext fun (s, index) => ?_)
    dsimp only
    split
    · rfl
    · exact hr s
  rw [flatMap_append, hb, ho]
  unfold generateSdp sessionRows withTelephoneEvent
  simp only [flatMap_cons, flatMap_nil, append_assoc, append_nil]

/-! ## What is written in one row -/

structure Listed (s : SdpMediaSection) : Prop where
  media : Word s.media
  protocol : Word s.protocol
  nonempty : s.formats ≠ []
  formats : ∀ f ∈ s.formats, Word f

structure Printable (c : SdpCodec) : Prop where
  name : Word c.name
  no_slash : '/' ∉ c.name
  fmtp : ∀ f, c.fmtp = some f → Row f

structure Carries (c : SdpCrypto) : Prop where
  suite : Word c.suite
  key : Solid c.keyB64

theorem word_toText (ip : IpAddr) : Word ip.toText := by
  have hv4 : ∀ bits, Word (IpAddr.showIpv4 bits) := by
    intro bits
    refine word_join (by simp) (fun w hw => ?_) (by decide)
    obtain ⟨shift, -, rfl⟩ := mem_map.mp hw
    exact word_ofNat _
  have hg : ∀ groups, Solid (IpAddr.showGroups groups) := by
    intro groups
    by_cases he : groups = []
    · rw [he]
      exact fun c hc => absurd hc not_mem_nil
    refine (word_join (by simpa using he) (fun w hw => ?_) (by decide)).solid
    obtain ⟨group, -, rfl⟩ := mem_map.mp hw
    exact word_toDigits (by decide) group
  cases ip with
  | v4 bits => exact hv4 bits
  | v6 bits =>
    show Word (IpAddr.showIpv6 bits)
    unfold IpAddr.showIpv6
    split
    · exact Solid.word (by decide) (hv4 _)
    dsimp only
    split
    · have hco : Word [':', ':'] := by decide
      exact ((hg _).word hco).append (hg _)
    unfold IpAddr.showGroups IpAddr.groupsOf
    refine word_join (by simp) (fun w hw => ?_) (by decide)
    obtain ⟨group, -, rfl⟩ := mem_map.mp hw
    exact word_toDigits (by decide) group

theorem row_of_sessionRows (localAddr : SocketAddr) (sessionId : Nat) :
    ∀ row ∈ sessionRows localAddr sessionId, Row row ∧ Inner row := by
  have hip : Row localAddr.ip.toText := (word_toText _).row
  have hv : Row (if localAddr.isIpv6 then "IP6".toList else "IP4".toList) := by
    split <;> exact Word.row (by decide)
  have hf : ∀ row ∈ ["v=0".toList, "s=rtpbridge".toList, "o=rtpbridge".toList, "c=IN".toList],
      Row row := by
    intro row hr
    simp only [mem_cons, not_mem_nil, or_false] at hr
    rcases hr with rfl | rfl | rfl | rfl
    all_goals exact Word.row (by decide)
  have ht : Row "t=0 0".toList :=
    Row.spaced (w := "t=0".toList) (Word.row (by decide))
      (Word.row (w := ['0']) (by decide))
  have ho := ((Row.spaced (hf "o=rtpbridge".toList (by decide))
    (word_ofNat sessionId).row).append (t := " 1 IN ".toList) (by decide) hv).spaced hip
  have hc := (Row.spaced (hf "c=IN".toList (by decide)) hv).spaced hip
  intro row hr
  simp only [sessionRows, mem_cons, not_mem_nil, or_false] at hr
  rcases hr with rfl | rfl | rfl | rfl | rfl
  · exact ⟨hf _ (by decide), rfl⟩
  · exact ⟨ho, rfl⟩
  · exact ⟨hf _ (by decide), rfl⟩
  · exact ⟨hc, rfl⟩
  · exact ⟨ht, rfl⟩

theorem row_of_codecRows {c : SdpCodec} (hc : Printable c) :
    ∀ row ∈ codecRows c, Row row ∧ Inner row := by
  have he : Row (encoding c) := by
    have hs : Solid (['/'] ++ ofNat c.clockRate.toNat) :=
      Solid.append (by decide) (word_ofNat _).solid
    have hb : Word (c.name ++ ['/'] ++ ofNat c.clockRate.toNat) := by
      rw [append_assoc]
      exact hc.name.append hs
    unfold encoding
    cases c.channels with
    | none => exact (hb.append fun _ h => absurd h not_mem_nil).row
    | some ch => exact (hb.append (Solid.append (s := ['/']) (by decide) (word_ofNat _).solid)).row
  have hn : ∀ label : Text, Solid label → Row (label ++ ofNat c.pt.toNat) :=
    fun label hl => (hl.word (word_ofNat _)).row
  intro row hr
  rcases mem_cons.mp hr with rfl | hr
  · exact ⟨(hn "a=rtpmap:".toList (by decide)).spaced he, rfl⟩
  · obtain ⟨f, hf, rfl⟩ := mem_map.mp hr
    exact ⟨(hn "a=fmtp:".toList (by decide)).spaced (hc.fmtp f (mem_toList.mp hf)), rfl⟩

theorem row_cryptoText {c : SdpCrypto} (hc : Carries c) :
    Row (cryptoText c) ∧ Inner (cryptoText c) := by
  have hl : Solid (c.keyLifetimePackets.elim [] fun packets => '|' :: ofNat packets) := by
    cases c.keyLifetimePackets with
    | none => exact fun _ h => absurd h not_mem_nil
    | some packets => exact Solid.append (s := ['|']) (by decide) (word_ofNat _).solid
  have hk : Word ("inline:".toList ++ c.keyB64 ++
      c.keyLifetimePackets.elim [] fun packets => '|' :: ofNat packets) :=
    Word.append (Word.append (by decide) hc.key) hl
  have ht : Row ("a=crypto:".toList ++ ofNat c.tag.toNat) :=
    (Solid.word (by decide) (word_ofNat _)).row
  refine ⟨?_, rfl⟩
  have hr := (ht.spaced hc.suite.row).spaced hk.row
  unfold cryptoText
  simp only [append_assoc] at hr ⊢
  exact hr

theorem row_closingRows : ∀ row ∈ closingRows, Row row ∧ Inner row := by
  intro row hr
  simp only [closingRows, mem_cons, not_mem_nil, or_false] at hr
  rcases hr with rfl | rfl | rfl | rfl
  all_goals exact ⟨Word.row (by decide), rfl⟩

theorem row_head_own {port : UInt16} {proto : Text} (hp : Word proto) {codecs : List SdpCodec}
    (hne : codecs ≠ []) (crypto : Option SdpCrypto) :
    Row ("m=".toList ++ (ownBlock port proto codecs crypto).head) := by
  have hn : Row (join (codecs.map fun c => ofNat c.pt.toNat) ' ') := by
    refine row_join (by simpa using hne) fun w hw => ?_
    obtain ⟨c, -, rfl⟩ := mem_map.mp hw
    exact word_ofNat _
  have hr := ((Row.spaced (w := "m=audio".toList) (Word.row (by decide))
    (word_ofNat port.toNat).row).spaced hp.row).spaced hn
  exact hr

theorem row_head_rejected {s : SdpMediaSection} (hs : Listed s) :
    Row ("m=".toList ++ (rejectedBlock s).head) := by
  have hm : Row ("m=".toList ++ s.media) := (Solid.word (by decide) hs.media).row
  have hr := ((hm.append (t := " 0 ".toList) (by decide) hs.protocol.row).spaced
    (row_join hs.nonempty hs.formats))
  exact hr

/-! ## The layout of an answer -/

theorem layout_append {inner : List Text} (hi : ∀ row ∈ inner, Inner row) (rest : List Text) :
    layout (inner ++ rest) = (inner ++ (layout rest).1, (layout rest).2) := by
  induction inner with
  | nil => rfl
  | cons row inner ih =>
    rw [cons_append, layout_inner (hi row mem_cons_self),
      ih fun r hr => hi r (mem_cons_of_mem _ hr)]
    rfl

theorem layout_blocks {blocks : List MediaBlock}
    (hb : ∀ b ∈ blocks, ∀ row ∈ b.rows, Inner row) :
    layout (blocks.flatMap MediaBlock.all) = ([], blocks) := by
  induction blocks with
  | nil => rfl
  | cons b blocks ih =>
    show layout (("m=".toList ++ b.head) :: (b.rows ++ blocks.flatMap MediaBlock.all)) = _
    rw [layout_media (stripPrefix_append _ _), layout_append (hb b mem_cons_self),
      ih fun b' hb' => hb b' (mem_cons_of_mem _ hb')]
    rw [append_nil]

theorem rows_written {written : List Text} (h : ∀ row ∈ written, Row row) :
    rows (written.flatMap (· ++ crlf)) = written := by
  have hl : lines (written.flatMap (· ++ crlf)) = written :=
    lines_rows fun row hr => (h row hr).no_newline
  have ht : ∀ row ∈ written, trim row = id row := fun row hr => (h row hr).trim
  unfold rows
  rw [hl, List.map_congr_left ht, List.map_id]

structure Writable (codecs : List SdpCodec) (crypto : Option SdpCrypto)
    (sections : List SdpMediaSection) (selected : Nat) : Prop where
  listed : ∀ s ∈ sections, Listed s
  inside : selected < sections.length
  codecs : ∀ c ∈ codecs, Printable c
  crypto : ∀ c, crypto = some c → Carries c

def ownSection (port : UInt16) (codecs : List SdpCodec) (crypto : Option SdpCrypto)
    (sections : List SdpMediaSection) (selected : Nat) : MediaBlock :=
  ownBlock port (((sections[selected]?).map SdpMediaSection.protocol).getD [])
    (withTelephoneEvent codecs) crypto

theorem answerBlocks_eq (sections : List SdpMediaSection) {selected : Nat} (own : MediaBlock) :
    answerBlocks sections selected own = (sections.map rejectedBlock).set selected own := by
  unfold answerBlocks
  refine ext_getElem? fun j => ?_
  grind

theorem withTelephoneEvent_ne_nil (codecs : List SdpCodec) : withTelephoneEvent codecs ≠ [] := by
  unfold withTelephoneEvent
  split
  · rename_i ha
    rintro rfl
    cases ha
  · exact append_ne_nil_of_right_ne_nil _ (cons_ne_nil _ _)

theorem printable_codecTelephoneEvent : Printable codecTelephoneEvent := by
  refine ⟨by decide, by decide, fun f hf => ?_⟩
  cases hf
  exact Word.row (by decide)

theorem printable_withTelephoneEvent {codecs : List SdpCodec} (h : ∀ c ∈ codecs, Printable c) :
    ∀ c ∈ withTelephoneEvent codecs, Printable c := by
  grind [withTelephoneEvent, printable_codecTelephoneEvent]

section Answer

variable {codecs : List SdpCodec} {crypto : Option SdpCrypto} {sections : List SdpMediaSection}
  {selected : Nat}

theorem Writable.block (h : Writable codecs crypto sections selected) (port : UInt16) :
    ∀ b ∈ answerBlocks sections selected (ownSection port codecs crypto sections selected),
      Row ("m=".toList ++ b.head) ∧ ∀ row ∈ b.rows, Row row ∧ Inner row := by
  intro b hb
  rw [answerBlocks_eq] at hb
  rcases mem_or_eq_of_mem_set hb with hb | rfl
  · obtain ⟨s, hs, rfl⟩ := mem_map.mp hb
    exact ⟨row_head_rejected (h.listed s hs), fun row hr => absurd hr not_mem_nil⟩
  have hp : Word (((sections[selected]?).map SdpMediaSection.protocol).getD []) := by
    rw [List.getElem?_eq_getElem h.inside]
    exact (h.listed _ (getElem_mem h.inside)).protocol
  refine ⟨row_head_own hp (withTelephoneEvent_ne_nil codecs) crypto, fun row hr => ?_⟩
  rcases mem_append.mp hr with hr | hr
  · rcases mem_append.mp hr with hr | hr
    · obtain ⟨c, hc, hr⟩ := mem_flatMap.mp hr
      exact row_of_codecRows (printable_withTelephoneEvent h.codecs c hc) row hr
    · obtain ⟨c, hc, rfl⟩ := mem_map.mp hr
      exact row_cryptoText (h.crypto c (mem_toList.mp hc))
  · exact row_closingRows row hr

theorem Writable.layout (h : Writable codecs crypto sections selected) (localAddr : SocketAddr)
    (port : UInt16) (sessionId : Nat) :
    Sdp.layout (rows (generateSdp localAddr port codecs crypto sessionId false
        (some (sections, selected)))) =
      (sessionRows localAddr sessionId,
        answerBlocks sections selected (ownSection port codecs crypto sections selected)) := by
  have hs := row_of_sessionRows localAddr sessionId
  have hbl := h.block port
  rw [generateSdp_rows]
  change Sdp.layout (rows ((sessionRows localAddr sessionId ++
    (answerBlocks sections selected (ownSection port codecs crypto sections selected)).flatMap
      MediaBlock.all).flatMap (· ++ crlf))) = _
  rw [rows_written, layout_append fun row hr => (hs row hr).2,
    layout_blocks fun b hb row hr => ((hbl b hb).2 row hr).2]
  · rw [append_nil]
  intro row hr
  rcases mem_append.mp hr with hr | hr
  · exact (hs row hr).1
  obtain ⟨b, hb, hr⟩ := mem_flatMap.mp hr
  rcases mem_cons.mp hr with rfl | hr
  · exact (hbl b hb).1
  · exact ((hbl b hb).2 row hr).1

end Answer

/-! ## What rows say about payload types -/

def rtpmapEntry (row : Text) : Option (UInt8 × RtpMap) :=
  match stripPrefix row "a=rtpmap:".toList with
  | none => none
  | some rest =>
    match splitOnce rest ' ' with
    | none => none
    | some (pt, codec) =>
      (parseU8 pt).map fun pt =>
        let parts := codec.splitOn '/'
        (pt, parts.headD [], ((parts[1]?).bind parseU32).getD 0, (parts[2]?).bind parseU8)

def fmtpEntry (row : Text) : Option (UInt8 × Text) :=
  match stripPrefix row "a=fmtp:".toList with
  | none => none
  | some rest =>
    match splitOnce rest ' ' with
    | none => none
    | some (pt, value) => (parseU8 pt).map fun pt => (pt, trim value)

theorem readRow_tables (h : st.mediaSection ≠ some false) (row : Text) :
    (readRow st row).rtpmap =
        (rtpmapEntry row).elim st.rtpmap (HashMap.insertBelow 32 st.rtpmap) ∧
      (readRow st row).fmtp = (fmtpEntry row).elim st.fmtp (HashMap.insertBelow 32 st.fmtp) ∧
      (readRow st row).pts = st.pts := by
  cases hr : stripPrefix row "a=rtpmap:".toList with
  | some rest =>
    have hre : readRow st row = parseRtpmap st rest := by
      rw [stripPrefix_eq_some hr]
      exact if_neg h
    have hf : fmtpEntry row = none := by
      rw [stripPrefix_eq_some hr]
      rfl
    simp only [hre, hf, rtpmapEntry, hr, parseRtpmap]
    cases splitOnce rest ' ' with
    | none => exact ⟨rfl, rfl, rfl⟩
    | some parts =>
      cases hpt : parseU8 parts.1 with
      | none => simp [hpt]
      | some pt =>
        simp only [hpt, map_some, Option.elim, HashMap.insertBelow]
        split <;> exact ⟨rfl, rfl, rfl⟩
  | none =>
  cases hf : stripPrefix row "a=fmtp:".toList with
  | some rest =>
    have hre : readRow st row = parseFmtp st rest := by
      rw [stripPrefix_eq_some hf]
      exact if_neg h
    simp only [hre, rtpmapEntry, hr, fmtpEntry, hf, parseFmtp]
    cases splitOnce rest ' ' with
    | none => exact ⟨rfl, rfl, rfl⟩
    | some parts =>
      cases hpt : parseU8 parts.1 with
      | none => simp [hpt]
      | some pt =>
        simp only [hpt, map_some, Option.elim, HashMap.insertBelow]
        split <;> exact ⟨rfl, rfl, rfl⟩
  | none =>
    unfold rtpmapEntry fmtpEntry
    unfold readRow
    split
    · grind [parseConnection]
    unfold parseAttribute parseRtcpAttribute
    simp only [hr, hf]
    repeat' split
    all_goals exact ⟨rfl, rfl, rfl⟩

theorem foldl_readRow_tables (inner : List Text) (h : st.mediaSection ≠ some false) :
    (inner.foldl readRow st).rtpmap =
        (inner.filterMap rtpmapEntry).foldl (HashMap.insertBelow 32) st.rtpmap ∧
      (inner.foldl readRow st).fmtp =
        (inner.filterMap fmtpEntry).foldl (HashMap.insertBelow 32) st.fmtp ∧
      (inner.foldl readRow st).pts = st.pts := by
  induction inner generalizing st with
  | nil => exact ⟨rfl, rfl, rfl⟩
  | cons row inner ih => grind [readRow_current, readRow_tables]

/-! ### The rows of a codec -/

def rtpmapOf (c : SdpCodec) : UInt8 × RtpMap := (c.pt, c.name, c.clockRate, c.channels)

theorem rtpmapEntry_rtpmapRow {c : SdpCodec} (hc : Printable c) :
    rtpmapEntry (rtpmapRow c) = some (rtpmapOf c) := by
  have hs : stripPrefix (rtpmapRow c) "a=rtpmap:".toList =
      some (ofNat c.pt.toNat ++ ' ' :: encoding c) := by
    unfold rtpmapRow
    rw [append_assoc]
    rfl
  have hd : ∀ n, '/' ∉ ofNat n := not_mem_ofNat (by decide)
  have hcl := hd c.clockRate.toNat
  have hp : (encoding c).splitOn '/' =
      c.name :: ofNat c.clockRate.toNat :: (c.channels.map fun ch => ofNat ch.toNat).toList := by
    unfold encoding
    rw [append_assoc, append_assoc, singleton_append, splitOn_append hc.no_slash]
    cases c.channels with
    | none =>
      rw [elim_none, append_nil, splitOn_singleton hcl]
      rfl
    | some ch =>
      rw [elim_some, splitOn_append hcl, splitOn_singleton (hd _)]
      rfl
  unfold rtpmapEntry
  rw [hs]
  dsimp only
  rw [splitOnce_append (not_mem_ofNat (by decide) _)]
  dsimp only
  rw [parseU8_ofNat, hp]
  show some (c.pt, c.name, (parseU32 (ofNat c.clockRate.toNat)).getD 0, _) = _
  rw [parseU32_ofNat]
  cases hch : c.channels with
  | none => simp [rtpmapOf, hch]
  | some ch => simp [rtpmapOf, hch, parseU8_ofNat]

theorem fmtpEntry_fmtpRow (c : SdpCodec) {f : Text} (hf : Row f) :
    fmtpEntry (fmtpRow c f) = some (c.pt, f) := by
  have hs : stripPrefix (fmtpRow c f) "a=fmtp:".toList = some (ofNat c.pt.toNat ++ ' ' :: f) := by
    unfold fmtpRow
    rw [append_assoc]
    rfl
  grind [fmtpEntry, splitOnce_append, not_mem_ofNat, parseU8_ofNat, hf.trim]

section Own

variable {codecs : List SdpCodec} (port : UInt16) (proto : Text) (crypto : Option SdpCrypto)

theorem ownBlock_entries (h : ∀ c ∈ codecs, Printable c) :
    (ownBlock port proto codecs crypto).rows.filterMap rtpmapEntry = codecs.map rtpmapOf ∧
      (ownBlock port proto codecs crypto).rows.filterMap fmtpEntry =
        codecs.filterMap fun c => c.fmtp.map fun f => (c.pt, f) := by
  have hco : ∀ l : List SdpCodec, (∀ c ∈ l, Printable c) →
      (l.flatMap codecRows).filterMap rtpmapEntry = l.map rtpmapOf ∧
        (l.flatMap codecRows).filterMap fmtpEntry =
          l.filterMap fun c => c.fmtp.map fun f => (c.pt, f) := by
    intro l
    induction l with
    | nil => exact fun _ => ⟨rfl, rfl⟩
    | cons c l ih =>
      intro hl
      have hc := hl c mem_cons_self
      obtain ⟨hr, hf⟩ := ih fun c' hc' => hl c' (mem_cons_of_mem _ hc')
      have ho : fmtpEntry (rtpmapRow c) = none := rfl
      rw [flatMap_cons, filterMap_append, filterMap_append, hr, hf]
      unfold codecRows
      rw [filterMap_cons_some (rtpmapEntry_rtpmapRow hc), filterMap_cons_none ho]
      cases hp : c.fmtp with
      | none => grind
      | some f =>
        refine ⟨rfl, ?_⟩
        rw [filterMap_cons_some (by rw [hp]; rfl)]
        show [fmtpRow c f].filterMap fmtpEntry ++ _ = _
        rw [filterMap_cons_some (fmtpEntry_fmtpRow c (hc.fmtp f hp))]
        rfl
  have hk : (crypto.toList.map cryptoText).filterMap rtpmapEntry = [] ∧
      (crypto.toList.map cryptoText).filterMap fmtpEntry = [] := by
    cases crypto with
    | none => exact ⟨rfl, rfl⟩
    | some c => exact ⟨rfl, rfl⟩
  obtain ⟨hr, hf⟩ := hco codecs h
  unfold ownBlock
  simp only [filterMap_append, hr, hf, hk.1, hk.2]
  exact ⟨by rw [append_nil]; exact append_nil _,
    by rw [append_nil]; exact append_nil _⟩

section

variable (hp : Word proto) (hne : codecs ≠ [])
include hp hne

theorem ownBlock_words :
    splitWhitespace (ofNat port.toNat ++ [' '] ++ proto ++ [' '] ++
        join (codecs.map fun c => ofNat c.pt.toNat) ' ') =
      ofNat port.toNat :: proto :: codecs.map fun c => ofNat c.pt.toNat := by
  have hn : splitWhitespace (join (codecs.map fun c => ofNat c.pt.toNat) ' ') =
      codecs.map fun c => ofNat c.pt.toNat := by
    refine splitWhitespace_join (by simpa using hne) fun w hw => ?_
    obtain ⟨c, -, rfl⟩ := mem_map.mp hw
    exact word_ofNat _
  simp only [append_assoc, cons_append, nil_append]
  rw [splitWhitespace_cons (word_ofNat _), splitWhitespace_cons hp, hn]

theorem ownBlock_section :
    openSection (ownBlock port proto codecs crypto).head =
      { media := audio
        protocol := proto
        formats := codecs.map fun c => ofNat c.pt.toNat
        active := decide (0 < port) } := by
  have hw := splitWhitespace_audio (ofNat port.toNat ++ [' '] ++ proto ++ [' '] ++
    join (codecs.map fun c => ofNat c.pt.toNat) ' ')
  rw [ownBlock_words port proto hp hne] at hw
  have hport : (activePort (ofNat port.toNat)).isSome = decide (0 < port) := by
    unfold activePort
    rw [parseU16_ofNat]
    by_cases hz : 0 < port <;> simp [hz]
  unfold openSection ownBlock
  simp only [append_assoc] at hw ⊢
  rw [hw]
  simp only [headD_cons, getD_cons_succ, getD_cons_zero, List.getElem?_cons_succ,
    List.getElem?_cons_zero, bind_some, hport, drop_succ_cons, drop_zero]

theorem openBlock_own (hport : 0 < port) (i : Nat)
    (st : ParseState) :
    openBlock (some i) i st (ownBlock port proto codecs crypto).head =
      { st with
        currentSection := some i
        mediaSection := some true
        mPort := some port
        mediaProtocol := some proto
        pts := (st.pts ++ codecs.map SdpCodec.pt).take maxSdpCodecs } := by
  have hs : stripPrefix ("m=".toList ++ (ownBlock port proto codecs crypto).head)
      "m=audio ".toList = some (ofNat port.toNat ++ [' '] ++ proto ++ [' '] ++
        join (codecs.map fun c => ofNat c.pt.toNat) ' ') := by
    have ha := stripPrefix_append "m=audio ".toList (ofNat port.toNat ++ [' '] ++ proto ++
      [' '] ++ join (codecs.map fun c => ofNat c.pt.toNat) ' ')
    exact ha
  have hac : activePort (ofNat port.toNat) = some port := by
    unfold activePort
    rw [parseU16_ofNat]
    simp [hport]
  have hn : (codecs.map fun c => ofNat c.pt.toNat).filterMap parseU8 =
      codecs.map SdpCodec.pt := by
    rw [filterMap_map, ← filterMap_eq_map]
    exact congrArg (List.filterMap · codecs) (funext fun c => parseU8_ofNat c.pt)
  unfold openBlock
  rw [hs]
  unfold parseAudioLine
  dsimp only
  rw [ownBlock_words port proto hp hne]
  grind

end

end Own

theorem rejected_inactive {s : SdpMediaSection} (hs : Listed s) :
    (openSection (rejectedBlock s).head).active = false := by
  have hw : splitWhitespace (rejectedBlock s).head =
      s.media :: ['0'] :: s.protocol :: s.formats := by
    unfold rejectedBlock
    rw [show " 0 ".toList = ' ' :: (['0'] ++ [' ']) from rfl]
    simp only [append_assoc, cons_append]
    rw [splitWhitespace_cons hs.media]
    have hz := splitWhitespace_cons (w := ['0']) (by decide)
      (s.protocol ++ ' ' :: join s.formats ' ')
    rw [splitWhitespace_cons hs.protocol, splitWhitespace_join hs.nonempty hs.formats] at hz
    exact congrArg (s.media :: ·) hz
  unfold openSection
  rw [hw]
  rfl

theorem foldl_closingRows (h : st.mediaSection = some true) :
    (closingRows.foldl readRow st).maxptime = some 20 ∧
      (closingRows.foldl readRow st).direction = some .sendrecv ∧
      (closingRows.foldl readRow st).rtcpMux = true := by
  have hs : st = { st with mediaSection := some true } := by
    rw [← h]
  have hn : parseU32 "20".toList = some 20 := by decide +kernel
  rw [hs]
  exact ⟨hn, rfl, rfl⟩

/-! ## An answer read again -/

instance (b : MediaBlock) : Decidable b.ActiveAudio :=
  inferInstanceAs (Decidable ((openSection b.head).media = audio ∧
    (openSection b.head).active = true))

theorem preference_isSome_iff (P : Primitives) (b : MediaBlock) :
    (audioSectionPreference (b.scan P)).isSome ↔ b.ActiveAudio := by
  obtain ⟨hm, -, -, hac, -, -⟩ := foldl_noteRow P b.rows (openSection b.head)
  unfold MediaBlock.ActiveAudio audioSectionPreference
  rw [← hm, ← hac]
  change _ ↔ (b.scan P).media = audio ∧ (b.scan P).active = true
  split <;> grind

section Answer

variable {codecs : List SdpCodec} {crypto : Option SdpCrypto} {sections : List SdpMediaSection}
  {selected : Nat} (h : Writable codecs crypto sections selected) {port : UInt16}
  (hport : 0 < port)
include h

theorem Writable.proto :
    Word (((sections[selected]?).map SdpMediaSection.protocol).getD []) := by
  rw [List.getElem?_eq_getElem h.inside]
  exact (h.listed _ (getElem_mem h.inside)).protocol

theorem Writable.getElem?_selected (own : MediaBlock) :
    (answerBlocks sections selected own)[selected]? = some own := by
  rw [answerBlocks_eq, List.getElem?_set_self]
  rw [length_map]
  exact h.inside

include hport

theorem Writable.own_active : (ownSection port codecs crypto sections selected).ActiveAudio := by
  grind [ownBlock_section, h.proto, withTelephoneEvent_ne_nil, MediaBlock.ActiveAudio, ownSection]

theorem Writable.active :
    (answerBlocks sections selected (ownSection port codecs crypto sections selected)).filter
      (fun b => b.ActiveAudio) = [ownSection port codecs crypto sections selected] := by
  have hr : ∀ l : List SdpMediaSection, (∀ s ∈ l, s ∈ sections) →
      (l.map rejectedBlock).filter (fun b => b.ActiveAudio) = [] := by
    intro l hl
    rw [filter_eq_nil_iff]
    intro b hb
    obtain ⟨s, hs, rfl⟩ := mem_map.mp hb
    rw [decide_eq_true_eq]
    intro hac
    have ho := rejected_inactive (h.listed s (hl s hs))
    rw [hac.2] at ho
    cases ho
  rw [answerBlocks_eq, set_eq_take_append_cons_drop, if_pos (by simpa using h.inside),
    filter_append, filter_cons, if_pos (decide_eq_true (h.own_active hport)),
    ← map_take, ← map_drop, hr _ fun s hs => mem_of_mem_take hs,
    hr _ fun s hs => mem_of_mem_drop hs]
  rfl

variable (P : Primitives) (localAddr : SocketAddr) (sessionId : Nat)

theorem Writable.selectedAudioSection :
    (parseSdp P (generateSdp localAddr port codecs crypto sessionId false
      (some (sections, selected)))).selectedAudioSection = some selected := by
  have hl := h.layout localAddr port sessionId
  have how := h.getElem?_selected (ownSection port codecs crypto sections selected)
  generalize generateSdp localAddr port codecs crypto sessionId false
    (some (sections, selected)) = answer at hl ⊢
  obtain ⟨q, hq⟩ := isSome_iff_exists.mp
    ((preference_isSome_iff P _).mpr (h.own_active hport))
  have hc := parseSdp_chosen P answer
  have hse := mediaSections_eq P answer
  rw [hl] at hse
  have he : ((ownSection port codecs crypto sections selected).scan P, selected) ∈
      (parseSdp P answer).mediaSections.zipIdx := by
    rw [mem_zipIdx_iff_getElem?, hse, List.getElem?_map, how]
    rfl
  obtain ⟨p, hbe, -⟩ := hc.best _ he q hq
  obtain ⟨⟨s, i⟩, hm, hsl, hp⟩ := hc.selected p hbe
  rw [selectedAudioSection_eq, hsl]
  rw [mem_zipIdx_iff_getElem?, hse, List.getElem?_map] at hm
  obtain ⟨b, hb, rfl⟩ := map_eq_some_iff.mp hm
  have hac : b.ActiveAudio :=
    (preference_isSome_iff P b).mp (isSome_of_eq_some hp)
  by_contra hne
  have ho : i ≠ selected := fun heq => hne (congrArg some heq)
  rw [answerBlocks_eq, List.getElem?_set_ne ho.symm, List.getElem?_map] at hb
  obtain ⟨s, hs, rfl⟩ := map_eq_some_iff.mp hb
  have hof := rejected_inactive (h.listed s (mem_of_getElem? hs))
  rw [hac.2] at hof
  cases hof

theorem Writable.parse :
    ∃ st : ParseState,
      st.rtpmap = ((withTelephoneEvent codecs).map rtpmapOf).foldl (HashMap.insertBelow 32) ∅ ∧
      st.fmtp = ((withTelephoneEvent codecs).filterMap fun c =>
        c.fmtp.map fun f => (c.pt, f)).foldl (HashMap.insertBelow 32) ∅ ∧
      st.pts = ((withTelephoneEvent codecs).map SdpCodec.pt).take maxSdpCodecs ∧
      st.maxptime = some 20 ∧
      (parseSdp P (generateSdp localAddr port codecs crypto sessionId false
        (some (sections, selected)))).codecs = (st.pts.map (mapCodec st)).filterMap Prod.fst ∧
      (parseSdp P (generateSdp localAddr port codecs crypto sessionId false
        (some (sections, selected)))).direction = some .sendrecv ∧
      (parseSdp P (generateSdp localAddr port codecs crypto sessionId false
        (some (sections, selected)))).rtcpMux = true := by
  have hl := h.layout localAddr port sessionId
  have hsl := h.selectedAudioSection hport P localAddr sessionId
  have hon := h.getElem?_selected (ownSection port codecs crypto sections selected)
  generalize generateSdp localAddr port codecs crypto sessionId false
    (some (sections, selected)) = answer at hl hsl ⊢
  have hb : (Sdp.layout (rows answer)).2[selected]? =
      some (ownSection port codecs crypto sections selected) := by
    rw [hl]
    exact hon
  obtain ⟨before, hbe, hf⟩ := parse_layout hb
  rw [hl] at hbe
  -- The rows of the session say nothing about payload types.
  obtain ⟨hr, hfm, hpt⟩ := foldl_readRow_tables (sessionRows localAddr sessionId)
    (by decide : ({} : ParseState).mediaSection ≠ some false)
  have hbef : before.rtpmap = ∅ := (congrArg ParseState.rtpmap hbe).trans hr
  have hbf : before.fmtp = ∅ := (congrArg ParseState.fmtp hbe).trans hfm
  have hbr : before.pts = [] := (congrArg ParseState.pts hbe).trans hpt
  have ho := openBlock_own port _ crypto h.proto (withTelephoneEvent_ne_nil codecs) hport selected
    before
  obtain ⟨he, hpa⟩ := ownBlock_entries port
    (((sections[selected]?).map SdpMediaSection.protocol).getD []) crypto
    (printable_withTelephoneEvent h.codecs)
  let opened := openBlock (some selected) selected before
    (ownSection port codecs crypto sections selected).head
  have hop : opened.mediaSection = some true := congrArg ParseState.mediaSection ho
  have hre : opened.mediaSection ≠ some false := by
    rw [hop]
    decide
  obtain ⟨how, hoF, hos⟩ :=
    foldl_readRow_tables (ownSection port codecs crypto sections selected).rows hre
  -- The last rows are read behind those of the codecs and the key.
  let middle := ((withTelephoneEvent codecs).flatMap codecRows ++
    crypto.toList.map cryptoText).foldl readRow opened
  have hmi : middle.mediaSection = some true :=
    (foldl_readRow_current _ opened).2.1.trans hop
  have hsp : (ownSection port codecs crypto sections selected).rows.foldl readRow opened =
      closingRows.foldl readRow middle := foldl_append
  obtain ⟨hm, hd, hmu⟩ := foldl_closingRows hmi
  obtain ⟨st, hst⟩ : ∃ st, st = (rows answer).foldl (parseLine (some selected)) {} := ⟨_, rfl⟩
  have hp : (parseSdp P answer).codecs = (st.pts.map (mapCodec st)).filterMap Prod.fst ∧
      (parseSdp P answer).direction = st.direction ∧ (parseSdp P answer).rtcpMux = st.rtcpMux := by
    rw [hst, ← hsl]
    exact ⟨rfl, rfl, rfl⟩
  rw [← hst] at hf
  have hc : st.core = ((ownSection port codecs crypto sections selected).rows.foldl readRow
      opened).core := hf
  have hla := hc.trans (congrArg ParseState.core hsp)
  refine ⟨st, ?_, ?_, ?_, (congrArg ParseState.maxptime hla).trans hm, hp.1,
    hp.2.1.trans ((congrArg ParseState.direction hla).trans hd),
    hp.2.2.trans ((congrArg ParseState.rtcpMux hla).trans hmu)⟩
  · have hs : opened.rtpmap = ∅ := (congrArg ParseState.rtpmap ho).trans hbef
    have ht := (congrArg ParseState.rtpmap hc).trans how
    rw [hs, show (ownSection port codecs crypto sections selected).rows.filterMap rtpmapEntry =
      _ from he] at ht
    exact ht
  · have hs : opened.fmtp = ∅ := (congrArg ParseState.fmtp ho).trans hbf
    have ht := (congrArg ParseState.fmtp hc).trans hoF
    rw [hs, show (ownSection port codecs crypto sections selected).rows.filterMap fmtpEntry =
      _ from hpa] at ht
    exact ht
  have hs : opened.pts = ((withTelephoneEvent codecs).map SdpCodec.pt).take maxSdpCodecs := by
    have hpt := congrArg ParseState.pts ho
    rw [hbr] at hpt
    exact hpt
  exact ((congrArg ParseState.pts hc).trans hos).trans hs

end Answer

end RtpBridge.Sdp
