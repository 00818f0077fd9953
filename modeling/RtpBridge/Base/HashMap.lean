/-
Finite maps with unique keys, for the tables the program keeps in hash maps.
-/
import Mathlib.Data.List.AList
import Mathlib.Data.List.Dedup

namespace RtpBridge

open List AList

abbrev HashMap (K V : Type) := AList fun _ : K => V

namespace HashMap

variable {K V : Type} [DecidableEq K]

def size (m : HashMap K V) : Nat := m.keys.length

variable {a b m : HashMap K V} {i k : K} {v : V}

theorem lookup_insert_cases {j : K} {w : V} (h : (m.insert i v).lookup j = some w) :
    j = i ∧ w = v ∨ j ≠ i ∧ m.lookup j = some w := by
  by_cases hij : j = i
  · subst hij
    exact .inl ⟨rfl, (Option.some.inj ((lookup_insert _).symm.trans h)).symm⟩
  · exact .inr ⟨hij, (lookup_insert_ne hij).symm.trans h⟩

theorem lookup_of_erase {j : K} (h : (m.erase i).lookup j = some v) :
    j ≠ i ∧ m.lookup j = some v := by
  grind [lookup_erase, lookup_erase_ne]

theorem mem_congr (h : ∀ k, a.lookup k = b.lookup k) (k : K) : k ∈ a ↔ k ∈ b := by
  rw [← lookup_isSome, h k, lookup_isSome]

theorem size_congr (h : ∀ k, a.lookup k = b.lookup k) : size a = size b := by
  have hp : a.keys.Perm b.keys :=
    (List.perm_ext_iff_of_nodup a.keys_nodup b.keys_nodup).mpr fun k => by
      exact mem_congr h k
  exact hp.length_eq

theorem insert_congr (h : ∀ k, a.lookup k = b.lookup k) (i : K) (v : V) (k : K) :
    (a.insert i v).lookup k = (b.insert i v).lookup k := by
  by_cases hk : k = i
  · subst hk
    rw [lookup_insert, lookup_insert]
  · rw [lookup_insert_ne hk, lookup_insert_ne hk, h k]

theorem lookup_insert_same (h : m.lookup i = some v) (k : K) :
    (m.insert i v).lookup k = m.lookup k := by grind [lookup_insert, lookup_insert_ne]

theorem size_lt_of_mem {keys : List K} (hsu : ∀ j ∈ m, j ∈ keys) (hk : k ∈ keys) (hne : k ∉ m) :
    size m < keys.dedup.length := by
  have hn : (k :: m.keys).Nodup := nodup_cons.mpr ⟨hne, m.keys_nodup⟩
  have hs : k :: m.keys ⊆ keys.dedup := by
    intro j hj
    rcases mem_cons.mp hj with rfl | hj
    · exact mem_dedup.mpr hk
    · exact mem_dedup.mpr (hsu j hj)
  exact (subperm_of_subset hn hs).length_le

theorem size_insert_new (v : V) (hne : k ∉ m) : size (m.insert k v) = size m + 1 := by
  unfold size
  rw [keys_insert, erase_of_not_mem hne, length_cons]

theorem size_insert_old (v : V) (hold : k ∈ m) : size (m.insert k v) = size m := by
  have hp : 0 < m.keys.length := length_pos_of_mem hold
  unfold size
  rw [keys_insert, length_cons, length_erase_of_mem hold]
  omega

theorem size_erase (hold : k ∈ m) : size (m.erase k) + 1 = size m := by
  have hp : 0 < m.keys.length := length_pos_of_mem hold
  unfold size
  rw [keys_erase, length_erase_of_mem hold]
  omega

theorem size_insert_le (m : HashMap K V) (k : K) (v : V) : size (m.insert k v) ≤ size m + 1 := by
  by_cases hk : k ∈ m
  · rw [size_insert_old v hk]
    omega
  · rw [size_insert_new v hk]

/-! ## Tables with room for so many keys -/

def insertBelow (limit : Nat) (m : HashMap K V) (e : K × V) : HashMap K V :=
  if size m < limit then m.insert e.1 e.2 else m

section Below

variable {limit : Nat} {entries : List (K × V)} {k : K}

theorem lookup_insertBelow_ne (m : HashMap K V) {e : K × V} (hk : e.1 ≠ k) :
    (insertBelow limit m e).lookup k = m.lookup k := by
  unfold insertBelow
  split
  · exact lookup_insert_ne hk.symm
  · rfl

theorem lookup_foldl_insertBelow_ne (m : HashMap K V) (hk : ∀ e ∈ entries, e.1 ≠ k) :
    (entries.foldl (insertBelow limit) m).lookup k = m.lookup k := by
  induction entries generalizing m with
  | nil => rfl
  | cons e entries ih =>
    rw [foldl_cons, ih _ fun e' he' => hk e' (mem_cons_of_mem _ he')]
    exact lookup_insertBelow_ne m (hk e mem_cons_self)

theorem mem_of_lookup_foldl_insertBelow {m : HashMap K V} {v : V}
    (h : (entries.foldl (insertBelow limit) m).lookup k = some v) :
    m.lookup k = some v ∨ (k, v) ∈ entries := by
  induction entries generalizing m with
  | nil => exact .inl h
  | cons e entries ih =>
    grind [insertBelow, lookup_insert_cases]

theorem lookup_foldl_insertBelow (m : HashMap K V) (hr : size m + entries.length ≤ limit) :
    (entries.foldl (insertBelow limit) m).lookup k =
      ((entries.filter fun e => e.1 = k).getLast?.map Prod.snd).or (m.lookup k) := by
  induction entries generalizing m with
  | nil => rfl
  | cons e entries ih =>
    rw [length_cons] at hr
    have hi : insertBelow limit m e = m.insert e.1 e.2 := if_pos (by omega)
    have hs := size_insert_le m e.1 e.2
    rw [foldl_cons, hi, ih _ (by omega), filter_cons]
    by_cases hk : e.1 = k
    · rw [if_pos (decide_eq_true hk), List.getLast?_cons, ← hk, lookup_insert]
      cases (entries.filter fun e' => e'.1 = e.1).getLast? with
      | none => rfl
      | some last => rfl
    · rw [if_neg (by simpa using hk), lookup_insert_ne fun heq => hk heq.symm]

end Below

/-! ## Every value, and some keys -/

section Values

variable {W : Type}

def mapValues (f : V → W) (m : HashMap K V) : HashMap K W :=
  ⟨m.entries.map (.map id fun _ => f), List.NodupKeys.map₂ (fun _ => f) m.entries m.nodupKeys⟩

@[simp] theorem lookup_mapValues (f : V → W) (m : HashMap K V) (k : K) :
    (mapValues f m).lookup k = (m.lookup k).map f :=
  dlookup_map₂ k

def retain (p : K → Bool) (m : HashMap K V) : HashMap K V :=
  ⟨m.entries.filter fun e => p e.1, m.nodupKeys.sublist filter_sublist⟩

theorem lookup_retain (p : K → Bool) (m : HashMap K V) (k : K) :
    (retain p m).lookup k = if p k then m.lookup k else none := by
  ext v
  have hm : m.lookup k = some v ↔ ⟨k, v⟩ ∈ m.entries := mem_dlookup_iff m.nodupKeys
  have hr : (retain p m).lookup k = some v ↔ ⟨k, v⟩ ∈ (retain p m).entries :=
    mem_dlookup_iff (retain p m).nodupKeys
  cases hp : p k with
  | false => simpa [retain, hp] using hr
  | true => simpa [hm, retain, hp] using hr

end Values

end HashMap
end RtpBridge
