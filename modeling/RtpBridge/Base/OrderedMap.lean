/-
Finite maps in ascending order of their keys, for the tables a program keeps in
balanced trees and empties from the smallest key on.
-/
import Mathlib.Data.List.Perm.Subperm

namespace RtpBridge

open List

structure OrderedMap (V : Type*) where
  entries : List (Nat × V)
  ascending : entries.Pairwise fun a b => a.1 < b.1

namespace OrderedMap

variable {V : Type*}

def empty : OrderedMap V := ⟨[], List.Pairwise.nil⟩

instance : EmptyCollection (OrderedMap V) := ⟨empty⟩

variable {m : OrderedMap V} {k : Nat} {entries : List (Nat × V)}

def size (m : OrderedMap V) : Nat := m.entries.length

def isEmpty (m : OrderedMap V) : Bool := m.entries.isEmpty

theorem isEmpty_iff : m.isEmpty = true ↔ m.entries = [] := List.isEmpty_iff

def first? (m : OrderedMap V) : Option (Nat × V) := m.entries.head?

def drop (m : OrderedMap V) (n : Nat) : OrderedMap V :=
  ⟨m.entries.drop n, m.ascending.sublist (drop_sublist n _)⟩

theorem entries_drop (m : OrderedMap V) (n : Nat) : (m.drop n).entries = m.entries.drop n := rfl

def dropWhile (m : OrderedMap V) (test : Nat × V → Bool) : OrderedMap V :=
  ⟨m.entries.dropWhile test, m.ascending.sublist (dropWhile_sublist test)⟩

/-! ## Inserting -/

def insertEntry (k : Nat) (v : V) : List (Nat × V) → List (Nat × V)
  | [] => [(k, v)]
  | (j, w) :: rest =>
    if k < j then (k, v) :: (j, w) :: rest
    else if k = j then (k, v) :: rest
    else (j, w) :: insertEntry k v rest

theorem mem_insertEntry {v : V} {e : Nat × V} (h : e ∈ insertEntry k v entries) :
    e = (k, v) ∨ e ∈ entries := by
  induction entries with
  | nil => exact Or.inl (mem_singleton.mp h)
  | cons first rest ih => grind [insertEntry]

theorem insertEntry_ascending (k : Nat) (v : V) (h : entries.Pairwise fun a b => a.1 < b.1) :
    (insertEntry k v entries).Pairwise fun a b => a.1 < b.1 := by
  induction entries with
  | nil => exact pairwise_singleton _ _
  | cons first rest ih =>
    obtain ⟨hj, hr⟩ := pairwise_cons.mp h
    rw [insertEntry]
    split
    · refine pairwise_cons.mpr ⟨fun e he => ?_, h⟩
      grind
    split
    · rename_i hkj
      exact pairwise_cons.mpr ⟨fun e he => hkj ▸ hj e he, hr⟩
    refine pairwise_cons.mpr ⟨fun e he => ?_, ih hr⟩
    rcases mem_insertEntry he with rfl | he
    · omega
    · exact hj e he

theorem insertEntry_subperm (k : Nat) (v : V) (entries : List (Nat × V)) :
    (insertEntry k v entries).Subperm ((k, v) :: entries) := by
  induction entries with
  | nil => exact List.Subperm.refl _
  | cons first rest ih =>
    obtain ⟨j, w⟩ := first
    rw [insertEntry]
    split
    · exact List.Subperm.refl _
    split
    · exact ((sublist_cons_self (j, w) rest).cons_cons (k, v)).subperm
    · exact ((subperm_cons (j, w)).mpr ih).trans (List.Perm.swap (k, v) (j, w) rest).subperm

def insert (m : OrderedMap V) (k : Nat) (v : V) : OrderedMap V :=
  ⟨insertEntry k v m.entries, insertEntry_ascending k v m.ascending⟩

theorem insertEntry_last (v : V) (h : ∀ e ∈ entries, e.1 < k) :
    insertEntry k v entries = entries ++ [(k, v)] := by
  induction entries with
  | nil => rfl
  | cons first rest ih =>
    grind [insertEntry]

theorem entries_insert_last (v : V) (h : ∀ e ∈ m.entries, e.1 < k) :
    (m.insert k v).entries = m.entries ++ [(k, v)] :=
  insertEntry_last v h

end OrderedMap
end RtpBridge
