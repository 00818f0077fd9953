/-
Sets kept in hash tables, tables that count, and lists with keys.
-/
import RtpBridge.Base.HashMap

namespace RtpBridge

open List AList

theorem find?_eq_some_iff_of_nodup {A K : Type} [DecidableEq K] {key : A → K} {l : List A}
    (hd : (l.map key).Nodup) {k : K} {a : A} :
    l.find? (fun x => key x = k) = some a ↔ a ∈ l ∧ key a = k := by
  constructor
  · grind
  rintro ⟨hm, rfl⟩
  cases hf : l.find? fun x => key x = key a with
  | none => exact absurd (decide_eq_true rfl) (List.find?_eq_none.mp hf a hm)
  | some b =>
    have ht := List.find?_some hf
    rw [inj_on_of_nodup_map hd (mem_of_find?_eq_some hf) hm
      (of_decide_eq_true ht)]

abbrev HashSet (K : Type) := HashMap K Unit

namespace HashSet

variable {K : Type} [DecidableEq K]

def ofList (l : List K) : HashSet K := l.foldl (fun set k => set.insert k ()) ∅

theorem mem_foldl_insert (l : List K) (set : HashSet K) (k : K) :
    k ∈ l.foldl (fun set k => AList.insert k () set) set ↔ k ∈ set ∨ k ∈ l := by
  induction l generalizing set with
  | nil => exact ⟨.inl, fun h => h.resolve_right not_mem_nil⟩
  | cons j l ih => grind [mem_insert]

theorem mem_ofList {l : List K} {k : K} : k ∈ ofList l ↔ k ∈ l :=
  (mem_foldl_insert l ∅ k).trans ⟨fun h => h.resolve_left (notMem_empty k), .inr⟩

theorem size_congr {a b : HashSet K} (h : ∀ k, k ∈ a ↔ k ∈ b) :
    HashMap.size a = HashMap.size b := by
  refine HashMap.size_congr fun k => ?_
  have hm := h k
  rw [← lookup_isSome, ← lookup_isSome] at hm
  cases ha : a.lookup k with
  | none =>
    cases hb : b.lookup k with
    | none => rfl
    | some u =>
      rw [ha, hb] at hm
      cases hm.mpr rfl
  | some u =>
    cases hb : b.lookup k with
    | none =>
      rw [ha, hb] at hm
      cases hm.mp rfl
    | some v => rfl

theorem size_ofList {l : List K} (h : l.Nodup) : HashMap.size (ofList l) = l.length := by
  have hp : (ofList l).keys.Perm l :=
    (List.perm_ext_iff_of_nodup (ofList l).keys_nodup h).mpr fun k => by
      exact mem_ofList
  exact hp.length_eq

end HashSet

namespace HashMap

variable {K : Type} [DecidableEq K]

def count (counts : HashMap K Nat) (k : K) : HashMap K Nat :=
  counts.insert k ((counts.lookup k).getD 0 + 1)

theorem lookup_foldl_count (l : List K) (counts : HashMap K Nat) (k : K) :
    ((l.foldl count counts).lookup k).getD 0 = (counts.lookup k).getD 0 + l.count k := by
  induction l generalizing counts with
  | nil => rfl
  | cons j l ih =>
    rw [foldl_cons, ih, count_cons]
    unfold count
    by_cases hj : j = k
    · subst hj
      rw [lookup_insert, beq_self_eq_true, if_pos rfl, Option.getD_some]
      omega
    · rw [lookup_insert_ne fun heq => hj heq.symm, beq_false_of_ne hj, if_neg Bool.false_ne_true]
      omega

end HashMap
end RtpBridge
