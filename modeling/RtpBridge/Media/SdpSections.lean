/-
The media sections of a description, and which of them is answered.
-/
import RtpBridge.Media.Sdp

namespace RtpBridge.Sdp

open Srtp Text List Option

variable {row : Text} {i : Nat} {st : ParseState}

/-! ## Rows -/

def rows (sdp : Text) : List Text := (lines sdp).map trim

structure MediaBlock where
  head : Text
  rows : List Text
deriving DecidableEq

variable {b : MediaBlock}

def layout : List Text → List Text × List MediaBlock
  | [] => ([], [])
  | row :: rest =>
    match stripPrefix row "m=".toList with
    | some head => ([], ⟨head, (layout rest).1⟩ :: (layout rest).2)
    | none => (row :: (layout rest).1, (layout rest).2)

theorem layout_media {head : Text} (h : stripPrefix row "m=".toList = some head)
    (rest : List Text) :
    layout (row :: rest) = ([], ⟨head, (layout rest).1⟩ :: (layout rest).2) := by
  rw [layout, h]

theorem layout_inner (h : stripPrefix row "m=".toList = none) (rest : List Text) :
    layout (row :: rest) = (row :: (layout rest).1, (layout rest).2) := by
  rw [layout, h]

def MediaBlock.all (b : MediaBlock) : List Text := ("m=".toList ++ b.head) :: b.rows

def Inner (row : Text) : Prop := stripPrefix row "m=".toList = none

theorem stripPrefix_eq_some {t pre rest : Text} (h : stripPrefix t pre = some rest) :
    t = pre ++ rest := by
  unfold stripPrefix at h
  split at h
  · rename_i hs
    obtain ⟨tail, rfl⟩ := isPrefixOf_iff_prefix.mp hs
    rw [drop_left] at h
    cases h
    rfl
  · cases h

theorem stripPrefix_append (pre rest : Text) : stripPrefix (pre ++ rest) pre = some rest := by
  grind [startsWith, stripPrefix]

theorem startsWith_of_stripPrefix {t pre : Text} :
    t.startsWith pre = (stripPrefix t pre).isSome := by
  unfold stripPrefix
  grind

theorem layout_rows (rows : List Text) :
    rows = (layout rows).1 ++ (layout rows).2.flatMap MediaBlock.all ∧
      (∀ row ∈ (layout rows).1, Inner row) ∧
      ∀ b ∈ (layout rows).2, ∀ row ∈ b.rows, Inner row := by
  induction rows with
  | nil => exact ⟨rfl, fun row h => absurd h not_mem_nil, fun b h => absurd h not_mem_nil⟩
  | cons row rest ih =>
    obtain ⟨hre, hp, hb⟩ := ih
    cases hro : stripPrefix row "m=".toList with
    | some head =>
      grind [layout, MediaBlock.all, stripPrefix_eq_some]
    | none =>
      rw [layout_inner hro]
      refine ⟨?_, fun r hr => ?_, hb⟩
      · show row :: rest = row :: ((layout rest).1 ++ (layout rest).2.flatMap MediaBlock.all)
        rw [← hre]
      rcases mem_cons.mp hr with rfl | hr
      · exact hro
      · exact hp r hr

/-! ## The first pass -/

def noteRow (P : Primitives) (s : SdpMediaSection) (row : Text) : SdpMediaSection :=
  match stripPrefix row "a=crypto:".toList with
  | some value => noteCrypto P value s
  | none => s

def MediaBlock.scan (P : Primitives) (b : MediaBlock) : SdpMediaSection :=
  b.rows.foldl (noteRow P) (openSection b.head)

theorem modifyLast_id {α : Type} (l : List α) : l.modifyLast (fun x => x) = l := by
  rcases eq_nil_or_concat l with rfl | ⟨front, x, rfl⟩
  · rfl
  · rw [concat_eq_append, modifyLast_concat]

theorem modifyLast_modifyLast {α : Type} (f g : α → α) (l : List α) :
    (l.modifyLast f).modifyLast g = l.modifyLast fun x => g (f x) := by
  rcases eq_nil_or_concat l with rfl | ⟨front, x, rfl⟩
  · rfl
  · rw [concat_eq_append, modifyLast_concat, modifyLast_concat, modifyLast_concat]

theorem scan_layout (P : Primitives) (rows : List Text) (sections : List SdpMediaSection) :
    rows.foldl (scanLine P) sections =
      sections.modifyLast (fun s => (layout rows).1.foldl (noteRow P) s) ++
        (layout rows).2.map (MediaBlock.scan P) := by
  induction rows generalizing sections with
  | nil =>
    show sections = sections.modifyLast (fun s => s) ++ []
    rw [modifyLast_id, append_nil]
  | cons row rest ih =>
    rw [foldl_cons, ih]
    unfold scanLine
    cases hro : stripPrefix row "m=".toList with
    | some head =>
      rw [layout_media hro]
      show (sections ++ [openSection head]).modifyLast _ ++ _ =
        sections.modifyLast (fun s => s) ++ MediaBlock.scan P ⟨head, (layout rest).1⟩ :: _
      rw [modifyLast_concat, modifyLast_id, append_assoc]
      rfl
    | none =>
      rw [layout_inner hro]
      dsimp only
      cases hc : stripPrefix row "a=crypto:".toList with
      | some value => grind [modifyLast_modifyLast, noteRow]
      | none => simp only [foldl_cons, noteRow, hc]

theorem mediaSections_eq (P : Primitives) (sdp : Text) :
    (parseSdp P sdp).mediaSections = (layout (rows sdp)).2.map (MediaBlock.scan P) := by
  have hs := scan_layout P (rows sdp) []
  rw [show ([] : List SdpMediaSection).modifyLast _ = [] from rfl, nil_append] at hs
  exact hs

/-! ## The second pass -/

def ParseState.core (st : ParseState) : ParseState :=
  { st with
    mediaSection := none
    currentSection := none
    isWebrtc := false }

def openBlock (selected : Option Nat) (i : Nat) (st : ParseState) (head : Text) : ParseState :=
  match stripPrefix ("m=".toList ++ head) "m=audio ".toList with
  | some rest => parseAudioLine selected { st with currentSection := some i } rest
  | none =>
    { st with
      currentSection := some i
      mediaSection := some false }

def readRow (st : ParseState) (row : Text) : ParseState :=
  match (stripPrefix row "c=IN IP4 ".toList).or (stripPrefix row "c=IN IP6 ".toList) with
  | some rest => parseConnection st rest
  | none =>
    if st.mediaSection = some false then
      if webrtcLine row then { st with isWebrtc := true } else st
    else parseAttribute st row

theorem parseLine_inner (h : Inner row) (selected : Option Nat) (st : ParseState) :
    parseLine selected st row = readRow st row := by
  have ho : row.startsWith "m=".toList = false := by
    rw [startsWith_of_stripPrefix, h]
    rfl
  have ha : stripPrefix row "m=audio ".toList = none := by
    cases hs : stripPrefix row "m=audio ".toList with
    | none => rfl
    | some rest =>
      rw [stripPrefix_eq_some hs] at h
      cases h
  unfold parseLine readRow
  grind

theorem parseLine_media (head : Text) (selected : Option Nat) (st : ParseState) :
    parseLine selected st ("m=".toList ++ head) =
      openBlock selected (st.currentSection.elim 0 (· + 1)) st head := by
  have ho : startsWith ("m=".toList ++ head) "m=".toList = true := by
    rw [startsWith_of_stripPrefix, stripPrefix_append]
    rfl
  have hv4 : stripPrefix ("m=".toList ++ head) "c=IN IP4 ".toList = none := rfl
  have hv6 : stripPrefix ("m=".toList ++ head) "c=IN IP6 ".toList = none := rfl
  unfold parseLine openBlock
  grind

theorem foldl_parseLine_inner {inner : List Text} (h : ∀ row ∈ inner, Inner row)
    (selected : Option Nat) (st : ParseState) :
    inner.foldl (parseLine selected) st = inner.foldl readRow st := by
  induction inner generalizing st with
  | nil => rfl
  | cons row inner ih =>
    rw [foldl_cons, foldl_cons, parseLine_inner (h row mem_cons_self)]
    exact ih (fun r hr => h r (mem_cons_of_mem _ hr)) _

/-! A section that is not read leaves the core alone. -/

theorem readRow_skipped (h : st.mediaSection = some false) (row : Text) :
    (readRow st row).core = st.core ∧ (readRow st row).mediaSection = some false ∧
      (readRow st row).currentSection = st.currentSection := by
  unfold readRow
  split
  · unfold parseConnection
    rw [h]
    exact ⟨rfl, h, rfl⟩
  · rw [if_pos h]
    split <;> exact ⟨rfl, h, rfl⟩

theorem foldl_readRow_skipped (h : st.mediaSection = some false) (inner : List Text) :
    (inner.foldl readRow st).core = st.core ∧
      (inner.foldl readRow st).currentSection = st.currentSection := by
  induction inner generalizing st with
  | nil => exact ⟨rfl, rfl⟩
  | cons row inner ih => grind [readRow_skipped]

theorem readRow_current (st : ParseState) (row : Text) :
    (readRow st row).currentSection = st.currentSection ∧
      (readRow st row).mediaSection = st.mediaSection ∧
      (readRow st row).mediaProtocol = st.mediaProtocol := by
  unfold readRow
  split
  · grind [parseConnection]
  split
  · grind
  unfold parseAttribute parseFmtp parseRtpmap parseRtcpAttribute
  repeat' split
  all_goals exact ⟨rfl, rfl, rfl⟩

theorem foldl_readRow_current (inner : List Text) (st : ParseState) :
    (inner.foldl readRow st).currentSection = st.currentSection ∧
      (inner.foldl readRow st).mediaSection = st.mediaSection ∧
      (inner.foldl readRow st).mediaProtocol = st.mediaProtocol := by
  induction inner generalizing st with
  | nil => exact ⟨rfl, rfl, rfl⟩
  | cons row inner ih => grind [readRow_current, readRow]

section Blocks

variable {selected : Option Nat} {st : ParseState} {b : MediaBlock}

def nextSection (st : ParseState) : Nat := st.currentSection.elim 0 (· + 1)

theorem openBlock_current (selected : Option Nat) (i : Nat) (st : ParseState) (head : Text) :
    (openBlock selected i st head).currentSection = some i := by grind [openBlock, parseAudioLine]

theorem openBlock_other (h : selected ≠ some i) (st : ParseState) (head : Text) :
    (openBlock selected i st head).core = st.core ∧
      (openBlock selected i st head).mediaSection = some false := by
  unfold openBlock
  split
  · unfold parseAudioLine
    dsimp only
    split
    · exact ⟨rfl, rfl⟩
    · rw [if_pos fun heq => h heq.symm]
      exact ⟨rfl, rfl⟩
  · exact ⟨rfl, rfl⟩

section

variable (hb : ∀ row ∈ b.rows, Inner row) (selected : Option Nat) (st : ParseState)
include hb

theorem parse_block : b.all.foldl (parseLine selected) st =
      b.rows.foldl readRow (openBlock selected (nextSection st) st b.head) := by
  show b.rows.foldl (parseLine selected) (parseLine selected st ("m=".toList ++ b.head)) = _
  rw [parseLine_media, foldl_parseLine_inner hb]
  rfl

theorem nextSection_block :
    nextSection (b.all.foldl (parseLine selected) st) = nextSection st + 1 := by
  rw [parse_block hb, nextSection, (foldl_readRow_current _ _).1, openBlock_current]
  rfl

end

theorem parse_blocks_other {blocks : List MediaBlock}
    (hbl : ∀ b ∈ blocks, ∀ row ∈ b.rows, Inner row) (selected : Option Nat) (st : ParseState)
    (h : ∀ j < blocks.length, selected ≠ some (nextSection st + j)) :
    ((blocks.flatMap MediaBlock.all).foldl (parseLine selected) st).core = st.core ∧
      nextSection ((blocks.flatMap MediaBlock.all).foldl (parseLine selected) st) =
        nextSection st + blocks.length := by
  induction blocks generalizing st with
  | nil => exact ⟨rfl, rfl⟩
  | cons b blocks ih =>
    have hb := hbl b mem_cons_self
    have hn := nextSection_block hb selected st
    have hf : selected ≠ some (nextSection st) := h 0 (Nat.succ_pos _)
    obtain ⟨ho, hs⟩ := openBlock_other hf st b.head
    have hco : (b.all.foldl (parseLine selected) st).core = st.core := by
      rw [parse_block hb]
      exact (foldl_readRow_skipped hs b.rows).1.trans ho
    obtain ⟨hre, hc⟩ := ih (fun b' hb' => hbl b' (mem_cons_of_mem _ hb'))
      (b.all.foldl (parseLine selected) st) fun j hj => by
        rw [hn, Nat.add_assoc, Nat.add_comm 1 j]
        exact h (j + 1) (Nat.succ_lt_succ hj)
    grind

theorem parse_layout {rows : List Text} (hb : (layout rows).2[i]? = some b) :
    ∃ st : ParseState, st.core = ((layout rows).1.foldl readRow {}).core ∧
      (rows.foldl (parseLine (some i)) {}).core =
        (b.rows.foldl readRow (openBlock (some i) i st b.head)).core := by
  obtain ⟨hr, hp, hbl⟩ := layout_rows rows
  obtain ⟨hi, hg⟩ := List.getElem?_eq_some_iff.mp hb
  have hsp : (layout rows).2 = (layout rows).2.take i ++ b :: (layout rows).2.drop (i + 1) := by
    rw [← hg, ← drop_eq_getElem_cons hi, take_append_drop]
  have hbe : ∀ b' ∈ (layout rows).2.take i, ∀ row ∈ b'.rows, Inner row :=
    fun b' hb' => hbl b' (mem_of_mem_take hb')
  have ha : ∀ b' ∈ (layout rows).2.drop (i + 1), ∀ row ∈ b'.rows, Inner row :=
    fun b' hb' => hbl b' (mem_of_mem_drop hb')
  have ho := hbl b (mem_of_getElem? hb)
  have hl : ((layout rows).2.take i).length = i := by
    rw [length_take]
    omega
  -- The session, the sections in front, the section itself and those behind it.
  let session := (layout rows).1.foldl readRow {}
  have hs : nextSection session = 0 := by
    rw [nextSection, (foldl_readRow_current _ _).1]
    rfl
  let front := (((layout rows).2.take i).flatMap MediaBlock.all).foldl (parseLine (some i)) session
  obtain ⟨hf, hn⟩ := parse_blocks_other hbe (some i) session
    fun j hj heq => by grind
  rw [hs, hl, Nat.zero_add] at hn
  have hre : b.all.foldl (parseLine (some i)) front =
      b.rows.foldl readRow (openBlock (some i) i front b.head) := by
    rw [parse_block ho]
    exact congrArg (fun k => b.rows.foldl readRow (openBlock (some i) k front b.head)) hn
  have hra : nextSection (b.all.foldl (parseLine (some i)) front) = i + 1 := by
    rw [nextSection_block ho]
    exact congrArg (· + 1) hn
  obtain ⟨hba, -⟩ := parse_blocks_other ha (some i)
    (b.all.foldl (parseLine (some i)) front) fun j hj heq => by grind
  refine ⟨front, hf, ?_⟩
  rw [hr, hsp, flatMap_append, flatMap_cons, foldl_append, foldl_append,
    foldl_append, foldl_parseLine_inner hp]
  exact hba.trans (congrArg ParseState.core hre)

end Blocks

/-! ## The choice -/

structure Chosen (entries : List (SdpMediaSection × Nat)) (choice : SectionChoice) : Prop where
  best : ∀ e ∈ entries, ∀ q, audioSectionPreference e.1 = some q →
    ∃ p, choice.bestPreference = some p ∧ q ≤ p
  selected : ∀ p, choice.bestPreference = some p →
    ∃ e ∈ entries, choice.selected = some e.2 ∧ audioSectionPreference e.1 = some p

theorem Chosen.chooseSection {entries : List (SdpMediaSection × Nat)} {choice : SectionChoice}
    (h : Chosen entries choice) (e : SdpMediaSection × Nat) :
    Chosen (entries ++ [e]) (Sdp.chooseSection choice e) := by
  have hk : ∀ p, choice.bestPreference = some p → ∃ e' ∈ entries ++ [e],
      choice.selected = some e'.2 ∧ audioSectionPreference e'.1 = some p := by
    intro p hp
    obtain ⟨e', he', hf⟩ := h.selected p hp
    exact ⟨e', mem_append_left _ he', hf⟩
  unfold Sdp.chooseSection
  split
  · rename_i hn
    refine ⟨fun e' he' q hq => ?_, hk⟩
    grind [h.best]
  rename_i preference hpr
  split
  · rename_i hbe
    refine ⟨fun e' he' q hq => ⟨preference, rfl, ?_⟩, fun p hp => ?_⟩
    · rcases mem_append.mp he' with he' | he'
      · obtain ⟨p, hp, hle⟩ := h.best e' he' q hq
        rw [hp, all_some, decide_eq_true_eq] at hbe
        omega
      · grind
    · cases hp
      exact ⟨e, mem_append_right _ mem_cons_self, rfl, hpr⟩
  · rename_i hw
    refine ⟨fun e' he' q hq => ?_, hk⟩
    rcases mem_append.mp he' with he' | he'
    · exact h.best e' he' q hq
    rw [mem_singleton.mp he', hpr] at hq
    cases hq
    cases hb : choice.bestPreference with
    | none =>
      rw [hb] at hw
      exact absurd rfl hw
    | some p =>
      rw [hb, all_some, decide_eq_true_eq] at hw
      exact ⟨p, rfl, Nat.not_lt.mp hw⟩

theorem chosen_foldl (rest : List (SdpMediaSection × Nat)) {entries : List (SdpMediaSection × Nat)}
    {choice : SectionChoice} (h : Chosen entries choice) :
    Chosen (entries ++ rest) (rest.foldl chooseSection choice) := by
  induction rest generalizing entries choice with
  | nil =>
    rw [append_nil]
    exact h
  | cons e rest ih =>
    have hre := ih (h.chooseSection e)
    rwa [append_assoc] at hre

theorem parseSdp_chosen (P : Primitives) (sdp : Text) : Chosen (parseSdp P sdp).mediaSections.zipIdx
      ((parseSdp P sdp).mediaSections.zipIdx.foldl chooseSection {}) :=
  chosen_foldl _ ⟨fun e he => absurd he not_mem_nil, fun p hp => by cases hp⟩

theorem selectedAudioSection_eq (P : Primitives) (sdp : Text) :
    (parseSdp P sdp).selectedAudioSection =
      ((parseSdp P sdp).mediaSections.zipIdx.foldl chooseSection {}).selected := rfl

/-! ## The key of an offer -/

def cryptoRow (row : Text) : Bool := (stripPrefix row "a=crypto:".toList).isSome

def KeyIn (rows : List Text) (crypto : SdpCrypto) : Prop :=
  ∃ row ∈ rows, ∃ value, stripPrefix row "a=crypto:".toList = some value ∧
    parseSdesCrypto value = some crypto

theorem readRow_crypto (h : st.mediaSection ≠ some false) (row : Text) :
    (readRow st row).cryptoPresent = (st.cryptoPresent || cryptoRow row) ∧
      ∀ c, (readRow st row).crypto = some c → st.crypto = some c ∨ KeyIn [row] c := by
  unfold cryptoRow
  cases hcr : stripPrefix row "a=crypto:".toList with
  | some value =>
    have hre : readRow st row = { st with
          cryptoPresent := true
          crypto := (parseSdesCrypto value).or st.crypto } := by
      rw [stripPrefix_eq_some hcr]
      exact if_neg h
    rw [hre]
    refine ⟨(Bool.or_true _).symm, fun c hc => ?_⟩
    rcases or_eq_some_iff.mp hc with hv | ⟨-, hold⟩
    · exact .inr ⟨row, mem_singleton.mpr rfl, value, hcr, hv⟩
    · exact .inl hold
  | none =>
    have hk : (readRow st row).cryptoPresent = st.cryptoPresent ∧
        (readRow st row).crypto = st.crypto := by
      unfold readRow
      split
      · grind [parseConnection]
      rw [if_neg h]
      unfold parseAttribute parseFmtp parseRtpmap parseRtcpAttribute
      simp only [hcr]
      repeat' split
      all_goals exact ⟨rfl, rfl⟩
    rw [hk.1, hk.2]
    exact ⟨(Bool.or_false _).symm, fun c hc => .inl hc⟩

theorem foldl_readRow_crypto (inner : List Text) (h : st.mediaSection ≠ some false) :
    (inner.foldl readRow st).cryptoPresent = (st.cryptoPresent || inner.any cryptoRow) ∧
      ∀ c, (inner.foldl readRow st).crypto = some c → st.crypto = some c ∨ KeyIn inner c := by
  induction inner generalizing st with
  | nil => exact ⟨(Bool.or_false _).symm, fun c hc => .inl hc⟩
  | cons row inner ih =>
    have hs : (readRow st row).mediaSection ≠ some false := by
      rw [(readRow_current st row).2.1]
      exact h
    obtain ⟨hp, hk⟩ := readRow_crypto h row
    obtain ⟨hrs, hre⟩ := ih hs
    refine ⟨?_, fun c hc => ?_⟩
    · rw [foldl_cons, hrs, hp, any_cons, Bool.or_assoc]
    rcases hre c hc with hc | ⟨r, hr, hv⟩
    · rcases hk c hc with hc | ⟨r, hr, hv⟩
      · exact .inl hc
      · rw [mem_singleton] at hr
        exact .inr ⟨r, mem_cons.mpr (.inl hr), hv⟩
    · exact .inr ⟨r, mem_cons_of_mem _ hr, hv⟩

theorem foldl_noteRow (P : Primitives) (inner : List Text) (s : SdpMediaSection) :
    (inner.foldl (noteRow P) s).media = s.media ∧
      (inner.foldl (noteRow P) s).protocol = s.protocol ∧
      (inner.foldl (noteRow P) s).formats = s.formats ∧
      (inner.foldl (noteRow P) s).active = s.active ∧
      (inner.foldl (noteRow P) s).cryptoPresent = (s.cryptoPresent || inner.any cryptoRow) ∧
      ((inner.foldl (noteRow P) s).cryptoSupported = true →
        (inner.foldl (noteRow P) s).cryptoPresent = true ∨ s.cryptoSupported = true) := by
  induction inner generalizing s with
  | nil => exact ⟨rfl, rfl, rfl, rfl, (Bool.or_false _).symm, .inr⟩
  | cons row inner ih =>
    rw [foldl_cons, any_cons]
    cases hc : stripPrefix row "a=crypto:".toList with
    | some value =>
      have hn : noteRow P s row = noteCrypto P value s := by
        unfold noteRow
        rw [hc]
      have hro : cryptoRow row = true := by
        unfold cryptoRow
        rw [hc]
        rfl
      obtain ⟨hm, hpr, hf, ha, hp, -⟩ := ih (noteCrypto P value s)
      rw [hn, hro, Bool.true_or, Bool.or_true]
      exact ⟨hm, hpr, hf, ha, hp, fun _ => .inl hp⟩
    | none =>
      have hn : noteRow P s row = s := by
        unfold noteRow
        rw [hc]
      have hro : cryptoRow row = false := by
        unfold cryptoRow
        rw [hc]
        rfl
      rw [hn, hro, Bool.false_or]
      exact ih s

def MediaBlock.ActiveAudio (b : MediaBlock) : Prop :=
  (openSection b.head).media = audio ∧ (openSection b.head).active = true

/-- The section asks for SRTP: by its profile, or by a key in a plain one, usable or not. -/
def MediaBlock.AsksSrtp (b : MediaBlock) : Prop :=
  secureProfile (openSection b.head).protocol = true ∨
    plainProfile (openSection b.head).protocol = true ∧ ∃ row ∈ b.rows, cryptoRow row = true

theorem two_le_preference (P : Primitives) (ha : b.ActiveAudio) (hak : b.AsksSrtp) :
    ∃ q, audioSectionPreference (b.scan P) = some q ∧ 2 ≤ q := by
  obtain ⟨hm, hpr, -, hac, hp, -⟩ := foldl_noteRow P b.rows (openSection b.head)
  have ho : ¬ ((b.scan P).media ≠ audio ∨ (b.scan P).active = false) := by
    rintro (hne | hi)
    · exact hne (hm.trans ha.1)
    · rw [show (b.scan P).active = _ from hac, ha.2] at hi
      cases hi
  have hak' : secureProfile (b.scan P).protocol = true ∨
      plainProfile (b.scan P).protocol = true ∧ (b.scan P).cryptoPresent = true := by
    rw [show (b.scan P).protocol = _ from hpr]
    rcases hak with hs | ⟨hpl, hro⟩
    · exact .inl hs
    · refine .inr ⟨hpl, ?_⟩
      rw [show (b.scan P).cryptoPresent = _ from hp, any_eq_true.mpr hro, Bool.or_true]
  unfold audioSectionPreference
  rw [if_neg ho]
  split
  · exact ⟨4, rfl, by decide⟩
  split
  · exact ⟨3, rfl, by decide⟩
  split
  · exact ⟨2, rfl, by decide⟩
  split
  · exact ⟨2, rfl, by decide⟩
  grind

theorem asksSrtp_of_preference (P : Primitives) {p : Nat}
    (h : audioSectionPreference (b.scan P) = some p) (hp : 2 ≤ p) : b.AsksSrtp := by
  obtain ⟨-, hpr, -, -, hpe, hsu⟩ := foldl_noteRow P b.rows (openSection b.head)
  have hro : (b.scan P).cryptoPresent = true → ∃ row ∈ b.rows, cryptoRow row = true := by
    intro hc
    rw [show (b.scan P).cryptoPresent = _ from hpe] at hc
    exact any_eq_true.mp ((Bool.false_or _).symm.trans hc)
  have hpa : plainProfile (b.scan P).protocol = true → (b.scan P).cryptoPresent = true →
      b.AsksSrtp := by
    intro hpl hc
    rw [show (b.scan P).protocol = _ from hpr] at hpl
    exact .inr ⟨hpl, hro hc⟩
  unfold audioSectionPreference at h
  split at h
  · cases h
  split at h
  · rename_i hs
    rw [Bool.and_eq_true, show (b.scan P).protocol = _ from hpr] at hs
    exact .inl hs.1
  split at h
  · rename_i hpl
    rw [Bool.and_eq_true] at hpl
    refine hpa hpl.1 ((hsu hpl.2).resolve_right fun hf => ?_)
    cases hf
  split at h
  · rename_i hs
    rw [show (b.scan P).protocol = _ from hpr] at hs
    exact .inl hs
  split at h
  · grind
  split at h
  · cases h
    omega
  · cases h
    omega

theorem splitWhitespace_audio (rest : Text) :
    splitWhitespace ("audio ".toList ++ rest) = audio :: splitWhitespace rest := by
  have hsp : ("audio".toList ++ ' ' :: rest).splitOnP isWhitespace =
      "audio".toList :: rest.splitOnP isWhitespace :=
    splitOnP_append_cons_of_forall_mem (by simp [isWhitespace]) ' ' rfl rest
  unfold splitWhitespace
  rw [show "audio ".toList ++ rest = "audio".toList ++ ' ' :: rest from rfl, hsp]
  rfl

theorem openBlock_read {head : Text} (hn : st.mediaProtocol = none)
    (h : (openBlock (some i) i st head).mediaProtocol.isSome) :
    (openBlock (some i) i st head).mediaProtocol = some (openSection head).protocol ∧
      (openBlock (some i) i st head).mediaSection = some true ∧
      (openBlock (some i) i st head).crypto = st.crypto ∧
      (openBlock (some i) i st head).rtpmap = st.rtpmap ∧
      (openBlock (some i) i st head).fmtp = st.fmtp ∧
      (openBlock (some i) i st head).pts =
        (st.pts ++ (openSection head).formats.filterMap parseU8).take maxSdpCodecs := by
  cases ha : stripPrefix ("m=".toList ++ head) "m=audio ".toList with
  | none => grind [openBlock]
  | some rest =>
    have hh : head = "audio ".toList ++ rest :=
      (List.cons.inj (List.cons.inj (stripPrefix_eq_some ha)).2).2
    have ho : openBlock (some i) i st head =
        parseAudioLine (some i) { st with currentSection := some i } rest := by
      unfold openBlock
      rw [ha]
    rw [ho] at h ⊢
    unfold parseAudioLine at h ⊢
    dsimp only at h ⊢
    cases hp : (splitWhitespace rest).head?.bind activePort with
    | none => grind
    | some port =>
      rw [hp] at h
      dsimp only at h ⊢
      rw [if_neg (not_not.mpr rfl)] at h ⊢
      dsimp only at h ⊢
      rw [hn, or_none] at h ⊢
      obtain ⟨protocol, hw⟩ := isSome_iff_exists.mp h
      have hpa : splitWhitespace head = audio :: splitWhitespace rest := by
        rw [hh]
        exact splitWhitespace_audio rest
      grind [openSection, audio, splitWhitespace, List.getElem?_cons_succ]

theorem selected_read (P : Primitives) (sdp : Text)
    (hse : (parseSdp P sdp).selectedAudioSection = some i)
    (hb : (layout (rows sdp)).2[i]? = some b) (hre : (parseSdp P sdp).mediaProtocol.isSome) :
    (parseSdp P sdp).mediaProtocol = some (openSection b.head).protocol ∧
      ((∃ row ∈ b.rows, cryptoRow row = true) → (parseSdp P sdp).cryptoPresent = true) ∧
      ∀ c, (parseSdp P sdp).crypto = some c → KeyIn ((layout (rows sdp)).1 ++ b.rows) c := by
  have hco : ∃ st : ParseState, st.core = ((rows sdp).foldl (parseLine (some i)) {}).core ∧
      (parseSdp P sdp).mediaProtocol = st.core.mediaProtocol ∧
      (parseSdp P sdp).cryptoPresent = st.core.cryptoPresent ∧
      (parseSdp P sdp).crypto = st.core.crypto := by
    refine ⟨(rows sdp).foldl (parseLine (some i)) {}, rfl, ?_⟩
    rw [← hse]
    exact ⟨rfl, rfl, rfl⟩
  obtain ⟨st, hst, hpr, hp, hcr⟩ := hco
  obtain ⟨before, hbe, hf⟩ := parse_layout hb
  rw [hf] at hst
  rw [hpr, hp, hcr, hst]
  rw [hpr, hst] at hre
  obtain ⟨-, -, hs⟩ := foldl_readRow_current (layout (rows sdp)).1 {}
  have hn : before.mediaProtocol = none :=
    (congrArg ParseState.mediaProtocol hbe).trans hs
  obtain ⟨-, hsc, hk⟩ := foldl_readRow_current b.rows (openBlock (some i) i before b.head)
  have hon : (openBlock (some i) i before b.head).mediaProtocol.isSome := by
    rw [← hk]
    exact hre
  obtain ⟨ho, hop, hoe, -⟩ := openBlock_read hn hon
  have how : (openBlock (some i) i before b.head).mediaSection ≠ some false := by
    rw [hop]
    decide
  obtain ⟨hr, hro⟩ := foldl_readRow_crypto b.rows how
  refine ⟨hk.trans ho, fun hrw => ?_, fun c hc => ?_⟩
  · have ha : b.rows.any cryptoRow = true := any_eq_true.mpr hrw
    show (b.rows.foldl readRow (openBlock (some i) i before b.head)).cryptoPresent = true
    rw [hr, ha, Bool.or_true]
  rcases hro c hc with hold | ⟨row, hrw, hv⟩
  · rw [hoe] at hold
    have hss : ((layout (rows sdp)).1.foldl readRow {}).crypto = some c :=
      (congrArg ParseState.crypto hbe).symm.trans hold
    rcases (foldl_readRow_crypto _ (by decide)).2 c hss with he | ⟨row, hrw, hv⟩
    · cases he
    · exact ⟨row, mem_append_left _ hrw, hv⟩
  · exact ⟨row, mem_append_right _ hrw, hv⟩

theorem validatePlainOffer_ok {P : Primitives} {sdp : ParsedSdp}
    (h : sdp.validatePlainOffer P = .ok ()) :
    sdp.selectedAudioSection.isSome ∧ sdp.mediaProtocol.isSome ∧
      ((sdp.mediaProtocol.any secureProfile || sdp.cryptoPresent) = true → sdp.crypto.isSome) ∧
      ∀ c, sdp.crypto = some c → supportedSdesKey P c = true := by
  have hu := ParsedSdp.usable_of_validatePlainOffer h
  unfold ParsedSdp.validatePlainOffer ParsedSdp.validateSelectedPlainMedia at h
  dsimp only at h
  split at h
  · cases h
  split at h
  · cases h
  split at h
  · cases h
  rename_i hp
  split at h
  · cases h
  rename_i hs
  refine ⟨hu.selected, ?_, fun hse => ?_, hu.key⟩
  · cases hpr : sdp.mediaProtocol with
    | none =>
      rw [hpr] at hp
      exact absurd rfl hp
    | some protocol => rfl
  · rw [hse, Bool.true_and] at hs
    simpa [isSome_iff_ne_none] using hs

/-- An offer with an active audio section that asks for SRTP is accepted with a key of thirty
bytes, from the selected section or from the session. -/
theorem no_downgrade_by_section (P : Primitives) (sdp : Text) (b : MediaBlock)
    (hb : b ∈ (layout (rows sdp)).2) (haudio : b.ActiveAudio) (hasks : b.AsksSrtp)
    (hvalid : (parseSdp P sdp).validatePlainOffer P = .ok ()) :
    ∃ crypto material i selected, (parseSdp P sdp).crypto = some crypto ∧
      base64Decode P crypto.keyB64 = .ok material ∧ material.length = 30 ∧
      (parseSdp P sdp).selectedAudioSection = some i ∧
      (layout (rows sdp)).2[i]? = some selected ∧
      KeyIn ((layout (rows sdp)).1 ++ selected.rows) crypto := by
  obtain ⟨-, hread, hsecurity, hkeys⟩ := validatePlainOffer_ok hvalid
  have hchosen := parseSdp_chosen P sdp
  -- The section that asks for SRTP gives a lower bound for the one that is selected.
  have hbest : ∃ p, ((parseSdp P sdp).mediaSections.zipIdx.foldl chooseSection {}).bestPreference =
      some p ∧ 2 ≤ p := by
    obtain ⟨q, hq, hle⟩ := two_le_preference P haudio hasks
    have hmem : b.scan P ∈ (parseSdp P sdp).mediaSections := by
      rw [mediaSections_eq]
      exact mem_map_of_mem hb
    obtain ⟨j, hj⟩ := mem_iff_getElem?.mp hmem
    obtain ⟨p, hp, hqp⟩ := hchosen.best (b.scan P, j) (mem_zipIdx_iff_getElem?.mpr hj) q hq
    exact ⟨p, hp, Nat.le_trans hle hqp⟩
  obtain ⟨p, hp, htwo⟩ := hbest
  obtain ⟨⟨s, i⟩, hentry, hselected, hpreference⟩ := hchosen.selected p hp
  have hget := mem_zipIdx_iff_getElem?.mp hentry
  rw [mediaSections_eq, List.getElem?_map] at hget
  obtain ⟨selected, hblock, rfl⟩ := map_eq_some_iff.mp hget
  obtain ⟨hprotocol, hpresent, hkey⟩ := selected_read P sdp hselected hblock hread
  have hsecure : ((parseSdp P sdp).mediaProtocol.any secureProfile ||
      (parseSdp P sdp).cryptoPresent) = true := by
    rcases asksSrtp_of_preference P hpreference htwo with hprofile | ⟨-, hrow⟩
    · rw [hprotocol, any_some, hprofile, Bool.true_or]
    · rw [hpresent hrow, Bool.or_true]
  obtain ⟨crypto, hcrypto⟩ := isSome_iff_exists.mp (hsecurity hsecure)
  obtain ⟨ctx, hctx⟩ := supportedSdesKey_eq_true.mp (hkeys crypto hcrypto)
  obtain ⟨-, material, hdecode, hlength, -⟩ := SrtpContext.fromSdesKeyWithLifetime_eq_ok.mp hctx
  exact ⟨crypto, material, i, selected, hcrypto, hdecode, hlength, hselected, hblock,
    hkey crypto hcrypto⟩

def sampleMixedSdp : Text :=
  ["v=0".toList, "c=IN IP4 192.0.2.10".toList, "m=audio 4000 RTP/AVP 0".toList,
    "m=audio 4002 RTP/SAVP 0".toList,
    "a=crypto:1 AES_CM_128_HMAC_SHA1_80 inline:".toList ++ sampleKey,
    "m=audio 4004 RTP/AVP 0".toList,
    "a=crypto:1 AEAD_AES_256_GCM inline:".toList ++ sampleKey].flatMap (· ++ crlf)

theorem sampleMixedSdp_keyed :
    ∃ crypto material i selected, (parseSdp .reference sampleMixedSdp).crypto = some crypto ∧
      base64Decode .reference crypto.keyB64 = .ok material ∧ material.length = 30 ∧
      (parseSdp .reference sampleMixedSdp).selectedAudioSection = some i ∧
      (layout (rows sampleMixedSdp)).2[i]? = some selected ∧
      KeyIn ((layout (rows sampleMixedSdp)).1 ++ selected.rows) crypto :=
  no_downgrade_by_section .reference sampleMixedSdp
    ⟨"audio 4004 RTP/AVP 0".toList, ["a=crypto:1 AEAD_AES_256_GCM inline:".toList ++ sampleKey]⟩
    (by decide +kernel) ⟨by decide +kernel, by decide +kernel⟩
    (.inr ⟨by decide +kernel, _, mem_cons_self, by decide +kernel⟩) (by decide +kernel)

end RtpBridge.Sdp
