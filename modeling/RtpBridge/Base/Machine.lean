/-
Runs of a state machine that answers every input.

`exec` is the state a list of inputs leads to and `trace` the inputs paired with
the outputs they produced.  `history_induction` is the rule the invariants use:
a property of the trace and the state that holds at the start and that every
step keeps holds after every run.  `Along` restricts a run to the steps that
meet a condition on the trace so far, the state and the input.  `since` and `last`
look back in a trace to the last event of a kind.
-/
import Mathlib.Data.List.Basic

namespace RtpBridge.Machine

open List

variable {S A O : Type*} {step : S → A → S × O}

def exec (step : S → A → S × O) : S → List A → S
  | s, [] => s
  | s, a :: rest => exec step (step s a).1 rest

def trace (step : S → A → S × O) : S → List A → List (A × O)
  | _, [] => []
  | s, a :: rest => (a, (step s a).2) :: trace step (step s a).1 rest

/-- Every step of the run meets `C`, given the trace before it. -/
def AlongFrom (step : S → A → S × O) (C : List (A × O) → S → A → Prop) :
    List (A × O) → S → List A → Prop
  | _, _, [] => True
  | tr, s, a :: rest =>
    C tr s a ∧ AlongFrom step C (tr ++ [(a, (step s a).2)]) (step s a).1 rest

def Along (step : S → A → S × O) (C : List (A × O) → S → A → Prop) (s : S)
    (inputs : List A) : Prop :=
  AlongFrom step C [] s inputs

instance instDecidableAlongFrom {C : List (A × O) → S → A → Prop}
    [∀ tr s a, Decidable (C tr s a)] :
    ∀ (inputs : List A) (tr : List (A × O)) (s : S), Decidable (AlongFrom step C tr s inputs)
  | [], _, _ => isTrue trivial
  | a :: rest, tr, s =>
    let _ := instDecidableAlongFrom (C := C) rest (tr ++ [(a, (step s a).2)]) (step s a).1
    inferInstanceAs (Decidable (C tr s a ∧
      AlongFrom step C (tr ++ [(a, (step s a).2)]) (step s a).1 rest))

instance {C : List (A × O) → S → A → Prop} [∀ tr s a, Decidable (C tr s a)] (s : S)
    (inputs : List A) : Decidable (Along step C s inputs) :=
  instDecidableAlongFrom inputs [] s

section

variable (s : S)

@[simp] theorem exec_nil : exec step s [] = s := rfl

@[simp] theorem exec_cons (a : A) (rest : List A) :
    exec step s (a :: rest) = exec step (step s a).1 rest := rfl

@[simp] theorem trace_nil : trace step s [] = [] := rfl

@[simp] theorem trace_cons (a : A) (rest : List A) :
    trace step s (a :: rest) = (a, (step s a).2) :: trace step (step s a).1 rest := rfl

theorem exec_append (before after : List A) :
    exec step s (before ++ after) = exec step (exec step s before) after := by
  induction before generalizing s with
  | nil => rfl
  | cons a rest ih => exact ih (step s a).1

theorem trace_append (before after : List A) : trace step s (before ++ after) =
      trace step s before ++ trace step (exec step s before) after := by
  induction before generalizing s with
  | nil => rfl
  | cons a rest ih =>
    simp only [cons_append, trace_cons, exec_cons, ih (step s a).1]

theorem trace_inputs (inputs : List A) : (trace step s inputs).map Prod.fst = inputs := by
  induction inputs generalizing s with
  | nil => rfl
  | cons a rest ih => simp [ih (step s a).1]

@[simp] theorem length_trace (inputs : List A) : (trace step s inputs).length = inputs.length := by
  rw [← length_map Prod.fst, trace_inputs]

end

/-- States that answer alike, and go to states that answer alike, have the same traces. -/
theorem trace_congr {R : S → S → Prop} (hR : ∀ s s' a, R s s' →
      (step s a).2 = (step s' a).2 ∧ R (step s a).1 (step s' a).1) {s s' : S} (h : R s s')
    (inputs : List A) : trace step s inputs = trace step s' inputs := by
  induction inputs generalizing s s' with
  | nil => rfl
  | cons a rest ih =>
    obtain ⟨ho, hn⟩ := hR s s' a h
    rw [trace_cons, trace_cons, ho, ih hn]

theorem exists_mem_trace (step : S → A → S × O) (s : S) (inputs : List A) (p : A → Prop) :
    (∃ x ∈ trace step s inputs, p x.1) ↔ ∃ a ∈ inputs, p a := by
  have hi : (trace step s inputs).map Prod.fst = inputs := trace_inputs s inputs
  grind

variable {s : S} {C : List (A × O) → S → A → Prop} {tr : List (A × O)} {inputs : List A}
  {P : List (A × O) → S → Prop}

theorem alongFrom_append (tr : List (A × O)) (s : S) (before after : List A) :
    AlongFrom step C tr s (before ++ after) ↔ AlongFrom step C tr s before ∧
        AlongFrom step C (tr ++ trace step s before) (exec step s before) after := by
  induction before generalizing tr s with
  | nil => simp [AlongFrom]
  | cons a rest ih =>
    simp only [cons_append, AlongFrom, ih, trace_cons, exec_cons, and_assoc,
      append_assoc, nil_append]

theorem along_append (s : S) (before after : List A) : Along step C s (before ++ after) ↔
      Along step C s before ∧
        AlongFrom step C (trace step s before) (exec step s before) after := by
  show AlongFrom step C [] s (before ++ after) ↔ _
  rw [alongFrom_append]
  rfl

theorem AlongFrom.and {D : List (A × O) → S → A → Prop} (hC : AlongFrom step C tr s inputs)
    (hD : AlongFrom step D tr s inputs) :
    AlongFrom step (fun tr s a => C tr s a ∧ D tr s a) tr s inputs := by
  induction inputs generalizing tr s with
  | nil => trivial
  | cons a rest ih => exact ⟨⟨hC.1, hD.1⟩, ih hC.2 hD.2⟩

theorem AlongFrom.imp {D : List (A × O) → S → A → Prop} (h : ∀ tr s a, C tr s a → D tr s a)
    (hC : AlongFrom step C tr s inputs) : AlongFrom step D tr s inputs := by
  induction inputs generalizing tr s with
  | nil => trivial
  | cons a rest ih => exact ⟨h tr s a hC.1, ih hC.2⟩

theorem alongFrom_of_invariant {I : S → Prop} {C : S → A → Prop}
    (hk : ∀ s a, I s → I (step s a).1) (h : ∀ s, ∀ a ∈ inputs, I s → C s a) (tr : List (A × O))
    (hI : I s) : AlongFrom step (fun _ s a => C s a) tr s inputs := by
  induction inputs generalizing tr s with
  | nil => trivial
  | cons a rest ih =>
    have ha := h s a (by simp) hI
    exact ⟨ha, ih (fun s b hb => h s b (by simp [hb])) _ (hk s a hI)⟩

theorem along_prefix (s : S) (inputs : List A) :
    Along step (fun tr _ a => ∃ rest, inputs = tr.map Prod.fst ++ a :: rest) s inputs := by
  have hf : ∀ (rest : List A) (tr : List (A × O)) (s : S), inputs = tr.map Prod.fst ++ rest →
        AlongFrom step (fun tr _ a => ∃ rest, inputs = tr.map Prod.fst ++ a :: rest)
          tr s rest := by
    intro rest
    induction rest with
    | nil => exact fun _ _ _ => trivial
    | cons a rest ih => exact fun tr s h => ⟨⟨rest, h⟩, ih _ _ (by simpa using h)⟩
  exact hf inputs [] s (by simp)

/-! ## Since the last mark

The events after the last one that a test marks, newest first, and that event. -/

def since {X : Type*} (mark : X → Bool) (tr : List X) : List X :=
  tr.reverse.takeWhile fun x => !mark x

def last {X : Type*} (mark : X → Bool) (tr : List X) : Option X := tr.reverse.find? mark

theorem since_append {X : Type*} (mark : X → Bool) (tr : List X) (x : X) :
    since mark (tr ++ [x]) = if mark x then [] else x :: since mark tr := by
  grind [since, takeWhile_cons]

theorem last_append {X : Type*} (mark : X → Bool) (tr : List X) (x : X) :
    last mark (tr ++ [x]) = if mark x then some x else last mark tr := by
  grind [last]

theorem historyFrom_induction
    (hs : ∀ tr s a, C tr s a → P tr s → P (tr ++ [(a, (step s a).2)]) (step s a).1)
    (inputs : List A) (hC : AlongFrom step C tr s inputs) (h : P tr s) :
    P (tr ++ trace step s inputs) (exec step s inputs) := by
  induction inputs generalizing tr s with
  | nil => simpa using h
  | cons a rest ih =>
    have hn := ih hC.2 (hs tr s a hC.1 h)
    simpa using hn

/-- A property of trace and state that holds at the start and that every allowed
step keeps holds after every allowed run. -/
theorem along_induction (h : P [] s)
    (hs : ∀ tr s a, C tr s a → P tr s → P (tr ++ [(a, (step s a).2)]) (step s a).1)
    (hC : Along step C s inputs) : P (trace step s inputs) (exec step s inputs) := by
  simpa using historyFrom_induction hs inputs hC h

theorem history_induction (h : P [] s)
    (hs : ∀ tr s a, P tr s → P (tr ++ [(a, (step s a).2)]) (step s a).1) (inputs : List A) :
    P (trace step s inputs) (exec step s inputs) := by
  have hC : ∀ tr s, AlongFrom step (fun _ _ _ => True) tr s inputs := by
    induction inputs with
    | nil => exact fun _ _ => trivial
    | cons a rest ih => exact fun _ _ => ⟨trivial, ih _ _⟩
  exact along_induction h (fun tr s a _ hP => hs tr s a hP) (hC [] s)

theorem exec_induction {P : S → Prop} (h : P s) (hs : ∀ s a, P s → P (step s a).1)
    (inputs : List A) : P (exec step s inputs) :=
  history_induction (P := fun _ s => P s) h (fun _ s a hP => hs s a hP) inputs

/-- Neighbours in the trace.  `Q s x` says that the state stands right behind the
entry `x`; every step that starts behind an entry relates its own entry to it. -/
theorem isChain_trace {C : S → A → Prop} {I : S → Prop} {Q : S → A × O → Prop}
    {R : A × O → A × O → Prop} (hk : ∀ s a, I s → I (step s a).1)
    (hb : ∀ s a, I s → C s a → Q (step s a).1 (a, (step s a).2))
    (hn : ∀ s a x, I s → C s a → Q s x → R x (a, (step s a).2)) (hI : I s)
    (hC : Along step (fun _ s a => C s a) s inputs) : (trace step s inputs).IsChain R := by
  have hf : ∀ (inputs : List A) (tr : List (A × O)) (s : S) (x : A × O), I s → Q s x →
      AlongFrom step (fun _ s a => C s a) tr s inputs → (x :: trace step s inputs).IsChain R := by
    intro inputs
    induction inputs with
    | nil => exact fun _ _ _ _ _ _ => .singleton _
    | cons a rest ih =>
      intro tr s x hI hQ hC
      exact .cons_cons (hn s a x hI hC.1 hQ)
        (ih _ _ _ (hk s a hI) (hb s a hI hC.1) hC.2)
  cases inputs with
  | nil => exact .nil
  | cons a rest => exact hf rest _ _ _ (hk s a hI) (hb s a hI hC.1) hC.2

end RtpBridge.Machine
