/-
Rows of a text: what was written row by row is read back row by row.
-/
import Mathlib.Data.List.Infix
import Mathlib.Data.List.TakeWhile
import RtpBridge.Base.Text

namespace RtpBridge.Text

open List Option

variable {s t w : Text} {ws : List Text} {c : Char}

def Solid (t : Text) : Prop := ∀ c ∈ t, isWhitespace c = false

/-- A part of `split_whitespace`. -/
structure Word (t : Text) : Prop where
  nonempty : t ≠ []
  solid : Solid t

instance (t : Text) : Decidable (Solid t) :=
  List.decidableBAll (fun c => isWhitespace c = false) t

instance (t : Text) : Decidable (Word t) :=
  decidable_of_iff (t ≠ [] ∧ Solid t) ⟨fun h => ⟨h.1, h.2⟩, fun h => ⟨h.nonempty, h.solid⟩⟩

theorem Solid.append (hs : Solid s) (ht : Solid t) : Solid (s ++ t) := by
  intro c hc
  rcases mem_append.mp hc with hc | hc
  · exact hs c hc
  · exact ht c hc

theorem Solid.word (hs : Solid s) (ht : Word t) : Word (s ++ t) :=
  ⟨append_ne_nil_of_right_ne_nil s ht.nonempty, hs.append ht.solid⟩

theorem Word.append (hs : Word s) (ht : Solid t) : Word (s ++ t) :=
  ⟨append_ne_nil_of_left_ne_nil hs.nonempty t, hs.solid.append ht⟩

theorem Solid.no_newline (h : Solid t) : '\n' ∉ t := by
  intro hm
  have hs := h '\n' hm
  revert hs
  decide

/-! ## Words -/

theorem forall_of_mem_splitOnP {p : Char → Bool} (h : w ∈ t.splitOnP p) : ∀ c ∈ w, p c = false := by
  induction t generalizing w with
  | nil => grind [splitOnP_nil]
  | cons x t ih =>
    rw [splitOnP_cons_eq_if_modifyHead] at h
    split at h
    · grind
    cases hs : t.splitOnP p with
    | nil => exact absurd hs (splitOnP_ne_nil _ t)
    | cons first rest =>
      rw [hs] at h ih
      rcases mem_cons.mp h with rfl | h
      · grind
      · exact ih (mem_cons_of_mem _ h)

theorem word_of_mem_splitWhitespace (h : w ∈ splitWhitespace t) : Word w := by
  obtain ⟨hm, hne⟩ := mem_filter.mp h
  refine ⟨fun hn => ?_, forall_of_mem_splitOnP hm⟩
  rw [hn] at hne
  cases hne

theorem join_cons (h : ws ≠ []) (sep : Char) : join (w :: ws) sep = w ++ sep :: join ws sep := by
  cases ws with
  | nil => exact absurd rfl h
  | cons v vs => rfl

theorem join_singleton (w : Text) (sep : Char) : join [w] sep = w := by
  show w ++ [] = w
  rw [append_nil]

theorem splitWhitespace_word (hw : Word w) : splitWhitespace w = [w] := by
  have hs : w.splitOnP isWhitespace = [w] := splitOnP_eq_singleton hw.solid
  grind [splitWhitespace, hw.nonempty]

theorem splitWhitespace_cons (hw : Word w) (rest : Text) :
    splitWhitespace (w ++ ' ' :: rest) = w :: splitWhitespace rest := by
  have hs : (w ++ ' ' :: rest).splitOnP isWhitespace = w :: rest.splitOnP isWhitespace :=
    splitOnP_append_cons_of_forall_mem hw.solid ' ' (by decide) rest
  grind [splitWhitespace, hw.nonempty]

theorem splitWhitespace_join (hne : ws ≠ []) (h : ∀ w ∈ ws, Word w) :
    splitWhitespace (join ws ' ') = ws := by
  induction ws with
  | nil => exact absurd rfl hne
  | cons w ws ih =>
    have hw := h w mem_cons_self
    cases ws with
    | nil =>
      rw [join_singleton]
      exact splitWhitespace_word hw
    | cons v vs =>
      have hr := ih (cons_ne_nil v vs) fun x hx => h x (mem_cons_of_mem _ hx)
      rw [join_cons (cons_ne_nil v vs), splitWhitespace_cons hw, hr]

theorem word_join (hne : ws ≠ []) (h : ∀ w ∈ ws, Word w) {sep : Char}
    (hse : isWhitespace sep = false) : Word (join ws sep) := by
  induction ws with
  | nil => exact absurd rfl hne
  | cons w ws ih =>
    have hw := h w mem_cons_self
    cases ws with
    | nil =>
      rw [join_singleton]
      exact hw
    | cons v vs =>
      have hr := ih (cons_ne_nil v vs) fun x hx => h x (mem_cons_of_mem _ hx)
      have hs : Solid [sep] := by
        intro c hc
        rw [mem_singleton.mp hc]
        exact hse
      exact hw.append (hs.append hr.solid)

/-! ## Rows -/

/-- A row that a reader sees as it was written: in one line, and without white space at its
ends. -/
structure Row (t : Text) : Prop where
  no_newline : '\n' ∉ t
  first : ∃ a rest, t = a :: rest ∧ isWhitespace a = false
  last : ∃ z, t.getLast? = some z ∧ isWhitespace z = false

theorem Row.trim (h : Row t) : Text.trim t = t := by
  obtain ⟨a, rest, rfl, ha⟩ := h.first
  obtain ⟨z, hl, hz⟩ := h.last
  have hh : (a :: rest).dropWhile isWhitespace = a :: rest := by
    rw [dropWhile_cons, ha]
    rfl
  obtain ⟨front, hf⟩ := List.getLast?_eq_some_iff.mp hl
  unfold Text.trim
  rw [hh, hf, reverse_append, reverse_singleton, singleton_append, dropWhile_cons, hz]
  show (z :: front.reverse).reverse = front ++ [z]
  rw [reverse_cons, reverse_reverse]

theorem row_trim (hl : '\n' ∉ t) (hne : Text.trim t ≠ []) : Row (Text.trim t) := by
  have hsu : ∀ c ∈ Text.trim t, c ∈ t := by
    intro c hc
    exact (dropWhile_suffix _).subset
      (mem_reverse.mp ((dropWhile_suffix _).subset (mem_reverse.mp hc)))
  refine ⟨fun hm => hl (hsu _ hm), ?_, ?_⟩
  · unfold Text.trim at hne ⊢
    cases hf : t.dropWhile isWhitespace with
    | nil =>
      rw [hf] at hne
      exact absurd rfl hne
    | cons a rest =>
      have ha : isWhitespace a = false := by
        have hh := List.head?_dropWhile_not isWhitespace t
        rw [hf] at hh
        exact hh
      rw [reverse_cons]
      -- What is cut off at the end does not reach the first character.
      have hs : (rest.reverse ++ [a]).dropWhile isWhitespace =
          rest.reverse.dropWhile isWhitespace ++ [a] := by
        rw [dropWhile_append]
        split
        · grind [dropWhile_cons]
        · rfl
      rw [hs, reverse_append]
      exact ⟨a, _, rfl, ha⟩
  · unfold Text.trim at hne ⊢
    cases hb : (t.dropWhile isWhitespace).reverse.dropWhile isWhitespace with
    | nil =>
      rw [hb] at hne
      exact absurd rfl hne
    | cons z rest =>
      have hz : isWhitespace z = false := by
        have hh := List.head?_dropWhile_not isWhitespace (t.dropWhile isWhitespace).reverse
        rw [hb] at hh
        exact hh
      refine ⟨z, ?_, hz⟩
      rw [List.getLast?_reverse]
      rfl

theorem trim_ne_nil (hc : c ∈ t) (hso : isWhitespace c = false) : Text.trim t ≠ [] := by
  have hk : ∀ s : Text, c ∈ s → c ∈ s.dropWhile isWhitespace := by
    intro s hs
    rw [← takeWhile_append_dropWhile (p := isWhitespace) (l := s)] at hs
    rcases mem_append.mp hs with hf | hb
    · grind [mem_takeWhile_imp]
    · exact hb
  have hm : c ∈ Text.trim t :=
    mem_reverse.mpr (hk _ (mem_reverse.mpr (hk t hc)))
  exact ne_nil_of_mem hm

theorem Word.row (hw : Word w) : Row w := by
  refine ⟨hw.solid.no_newline, ?_, ?_⟩
  · cases w with
    | nil => exact absurd rfl hw.nonempty
    | cons a w => exact ⟨a, w, rfl, hw.solid a mem_cons_self⟩
  cases hl : w.getLast? with
  | none => exact absurd (List.getLast?_eq_none_iff.mp hl) hw.nonempty
  | some z => exact ⟨z, rfl, hw.solid z (mem_of_getLast? hl)⟩

theorem Row.append {r : Text} (hw : Row w) (ht : '\n' ∉ t) (hr : Row r) : Row (w ++ t ++ r) := by
  refine ⟨fun hm => ?_, ?_, ?_⟩
  · grind [hw.no_newline, hr.no_newline]
  · obtain ⟨a, rest, rfl, ha⟩ := hw.first
    exact ⟨a, rest ++ t ++ r, rfl, ha⟩
  grind [hr.last]

theorem Row.spaced {r : Text} (hw : Row w) (hr : Row r) : Row (w ++ [' '] ++ r) :=
  hw.append (by decide) hr

theorem row_join (hne : ws ≠ []) (h : ∀ w ∈ ws, Word w) : Row (join ws ' ') := by
  induction ws with
  | nil => exact absurd rfl hne
  | cons w ws ih =>
    have hw := (h w mem_cons_self).row
    cases ws with
    | nil =>
      rw [join_singleton]
      exact hw
    | cons v vs =>
      have hr := ih (cons_ne_nil v vs) fun x hx => h x (mem_cons_of_mem _ hx)
      have ha := hw.append (t := [' ']) (by decide) hr
      rwa [append_assoc] at ha

theorem no_newline_of_mem_lines {line : Text} (h : line ∈ lines t) : '\n' ∉ line := by
  have hp : ∀ part ∈ t.splitOn '\n', '\n' ∉ part := by
    intro part hp hm
    have hne := forall_of_mem_splitOnP hp '\n' hm
    cases hne
  rcases mem_append.mp h with h | h
  · obtain ⟨part, hm, rfl⟩ := mem_map.mp h
    have hc := hp part (mem_of_mem_dropLast hm)
    split
    · exact fun hin => hc (mem_of_mem_dropLast hin)
    · exact hc
  · have hl := (mem_filter.mp h).1
    exact hp line (mem_of_getLast? (mem_toList.mp hl))

theorem lines_rows {rows : List Text} (h : ∀ row ∈ rows, '\n' ∉ row) :
    lines (rows.flatMap (· ++ ['\r', '\n'])) = rows := by
  have hs : ∀ rows : List Text, (∀ row ∈ rows, '\n' ∉ row) →
      (rows.flatMap (· ++ ['\r', '\n'])).splitOn '\n' = rows.map (· ++ ['\r']) ++ [[]] := by
    intro rows
    induction rows with
    | nil => exact fun _ => rfl
    | cons row rows ih =>
      intro h
      have hro : ∀ c ∈ row ++ ['\r'], (c == '\n') = false := by
        intro c hc
        rcases List.mem_append.mp hc with hc | hc
        · exact beq_false_of_ne fun heq => h row List.mem_cons_self (heq ▸ hc)
        · rw [List.mem_singleton.mp hc]
          rfl
      have hf := List.splitOnP_append_cons_of_forall_mem hro '\n' rfl
        (rows.flatMap (· ++ ['\r', '\n']))
      have hre := ih fun r hr => h r (List.mem_cons_of_mem _ hr)
      unfold List.splitOn at hre ⊢
      grind
  unfold lines
  rw [hs rows h]
  dsimp only
  rw [List.dropLast_concat, List.getLast?_concat, List.map_map]
  have hst : ∀ row ∈ rows, ((fun line : Text =>
      if line.getLast? = some '\r' then line.dropLast else line) ∘ (· ++ ['\r'])) row = row := by
    intro row _
    show (if (row ++ ['\r']).getLast? = some '\r' then (row ++ ['\r']).dropLast
      else row ++ ['\r']) = row
    rw [List.getLast?_concat, if_pos rfl, List.dropLast_concat]
  rw [List.map_congr_left hst, List.map_id']
  exact List.append_nil rows

theorem splitOnce_append (hw : c ∉ w) (rest : Text) :
    splitOnce (w ++ c :: rest) c = some (w, rest) := by
  have hf : ∀ x ∈ w, decide (x ≠ c) = true := by
    intro x hx
    exact decide_eq_true fun heq => hw (heq ▸ hx)
  have hs : decide (c ≠ c) = false := decide_eq_false fun hne => hne rfl
  unfold splitOnce
  rw [dropWhile_append_of_pos hf, takeWhile_append_of_pos hf, dropWhile_cons, takeWhile_cons, hs]
  exact congrArg (fun before => some (before, rest)) (append_nil w)

theorem beq_false_of_not_mem (hw : c ∉ w) : ∀ x ∈ w, (x == c) = false := by
  intro x hx
  exact beq_false_of_ne fun heq => hw (heq ▸ hx)

theorem splitOn_append (hw : c ∉ w) (rest : Text) :
    List.splitOn c (w ++ c :: rest) = w :: List.splitOn c rest :=
  splitOnP_append_cons_of_forall_mem (beq_false_of_not_mem hw) c (beq_self_eq_true c) rest

theorem splitOn_singleton (hw : c ∉ w) : List.splitOn c w = [w] :=
  splitOnP_eq_singleton (beq_false_of_not_mem hw)

/-! ## Numbers -/

theorem isWhitespace_digitChar (n : Nat) : isWhitespace (Nat.digitChar n) = false := by
  have hs : ∀ k < 16, isWhitespace (Nat.digitChar k) = false := by decide
  by_cases hn : n < 16
  · exact hs n hn
  have hst : Nat.digitChar n = '*' := by
    unfold Nat.digitChar
    repeat rw [if_neg (by omega)]
  rw [hst]
  decide

theorem digitChar_of_mem_toDigits {b : Nat} (hb : 1 < b) (n : Nat) (h : c ∈ Nat.toDigits b n) :
    ∃ k, c = Nat.digitChar k := by
  induction n using Nat.strongRecOn with
  | _ n ih => grind [Nat.toDigits_eq_if, Nat.div_lt_self]

theorem word_toDigits {b : Nat} (hb : 1 < b) (n : Nat) : Word (Nat.toDigits b n) := by
  refine ⟨Nat.toDigits_ne_nil, fun c hc => ?_⟩
  obtain ⟨k, rfl⟩ := digitChar_of_mem_toDigits hb n hc
  exact isWhitespace_digitChar k

theorem word_ofNat (n : Nat) : Word (ofNat n) := word_toDigits (by decide) n

theorem allDigits_ofNat (n : Nat) : allDigits (ofNat n) = true :=
  all_eq_true.mpr fun _ hc => Nat.isDigit_of_mem_toDigits (by decide) (by decide) hc

theorem not_mem_ofNat (hc : c.isDigit = false) (n : Nat) : c ∉ ofNat n := by
  intro hm
  have hd := all_eq_true.mp (allDigits_ofNat n) c hm
  rw [hc] at hd
  cases hd

theorem digitsValue_ofNat (n : Nat) : digitsValue (ofNat n) = n := by
  have hf : ∀ (t : Text) (acc : Nat),
      t.foldl (fun n c => n * 10 + (c.toNat - '0'.toNat)) acc = Nat.ofDigitChars 10 t acc := by
    intro t
    induction t with
    | nil => exact fun _ => rfl
    | cons c t ih =>
      intro acc
      rw [foldl_cons, ih, Nat.ofDigitChars_cons, Nat.mul_comm]
  grind [digitsValue, ofNat, Nat.ofDigitChars_toDigits]

theorem parseUnsigned_ofNat {limit n : Nat} (h : n < limit) :
    parseUnsigned limit (ofNat n) = some n := by
  have hp : stripPrefix (ofNat n) ['+'] = none := by
    cases hd : ofNat n with
    | nil => exact absurd hd (word_ofNat n).nonempty
    | cons c rest =>
      have hdi : c.isDigit = true :=
        all_eq_true.mp (allDigits_ofNat n) c (hd ▸ mem_cons_self)
      have hne : ('+' == c) = false := by
        refine beq_false_of_ne fun heq => ?_
        rw [← heq] at hdi
        cases hdi
      unfold stripPrefix startsWith
      rw [isPrefixOf_cons_cons, hne]
      rfl
  have he : (ofNat n).isEmpty = false := by
    cases hd : ofNat n with
    | nil => exact absurd hd (word_ofNat n).nonempty
    | cons c rest => rfl
  unfold parseUnsigned
  rw [hp]
  dsimp only [getD_none]
  rw [he, allDigits_ofNat, digitsValue_ofNat]
  simp only [Bool.not_true, Bool.false_or, decide_eq_true_eq]
  rw [if_neg (Nat.not_le.mpr h)]

theorem parseU8_ofNat (n : UInt8) : parseU8 (ofNat n.toNat) = some n := by
  unfold parseU8
  rw [parseUnsigned_ofNat n.toNat_lt, map_some, UInt8.ofNat_toNat]

theorem parseU16_ofNat (n : UInt16) : parseU16 (ofNat n.toNat) = some n := by
  unfold parseU16
  rw [parseUnsigned_ofNat n.toNat_lt, map_some, UInt16.ofNat_toNat]

theorem parseU32_ofNat (n : UInt32) : parseU32 (ofNat n.toNat) = some n := by
  unfold parseU32
  rw [parseUnsigned_ofNat n.toNat_lt, map_some, UInt32.ofNat_toNat]

end RtpBridge.Text
