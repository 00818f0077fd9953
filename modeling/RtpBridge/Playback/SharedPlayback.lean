/-
Playbacks that several endpoints listen to.

The first subscriber of a source starts a decode task and an entry in the table of
`playback/shared_playback.rs`; later ones join the entry and are counted there.  The last to go
cancels the task and removes the entry, and so does the task's guard when the task ends for
whatever reason.  Both may be late: by then the source may have an entry of another generation.

A step is one block under the lock, or what a task does between two waits.  Generations are
random; here they are counted, and name the decode task they belong to.  The audio itself is
left out.
-/
import RtpBridge.Base.HashMap
import RtpBridge.Base.Machine
import RtpBridge.Base.Text

namespace RtpBridge.Playback.Shared

open List Option Machine HashMap

structure SharedEntry where
  generation : Nat
  refCount : Nat

structure Subscriber where
  source : Text
  generation : Nat
  cleanedUp : Bool := false
  receiving : Bool := true

/-- Where a decode task is.  Leaving the function drops the guard, which first settles the
result and then takes the lock. -/
inductive DecodePhase
  | opening
  | playing
  | leaving
  | settled
  | ended
deriving DecidableEq

structure Decode where
  source : Text
  phase : DecodePhase := .opening
  terminal : Option (Except String Unit) := none
  cancelled : Bool := false

structure State where
  entries : HashMap Text SharedEntry := ∅
  subscribers : List Subscriber := []
  decodes : List Decode := []

variable {s : State} {source : Text} {e : SharedEntry} {g i : Nat} {d d' : Decode}
  {sub : Subscriber}

namespace State

/-! ## Subscribers -/

def join (s : State) (source : Text) (entry : SharedEntry) : State :=
  { s with
    entries := s.entries.insert source { entry with refCount := entry.refCount + 1 }
    subscribers := s.subscribers ++ [{ source := source, generation := entry.generation }] }

def start (s : State) (source : Text) : State :=
  { entries := s.entries.insert source { generation := s.decodes.length, refCount := 1 }
    subscribers := s.subscribers ++ [{ source := source, generation := s.decodes.length }]
    decodes := s.decodes ++ [{ source := source }] }

/-- The subscriber is named by its place.  `admitted` says whether another stream may be read
from storage. -/
def subscribeWithLease (s : State) (source : Text) (sampleRate : Nat) (admitted : Bool) :
    State × Except String Nat :=
  match s.entries.lookup source with
  | some entry =>
    if 1024 ≤ entry.refCount then (s, .error "SHARED_PLAYBACK_BUSY")
    else (s.join source entry, .ok s.subscribers.length)
  | none =>
    if 64 ≤ HashMap.size s.entries then (s, .error "SHARED_PLAYBACK_BUSY")
    else if ¬ (sampleRate = 8000 ∨ sampleRate = 16000 ∨ sampleRate = 48000) then
      (s, .error "unsupported shared playback rate")
    else if admitted = false then (s, .error "PLAYBACK_BUSY")
    else (s.start source, .ok s.subscribers.length)

def setDecode (s : State) (g : Nat) (d : Decode) : State := { s with decodes := s.decodes.set g d }

def cancel (s : State) (g : Nat) : State :=
  match s.decodes[g]? with
  | none => s
  | some d => s.setDecode g { d with cancelled := true }

def unref (s : State) (source : Text) (entry : SharedEntry) : State :=
  if entry.refCount - 1 = 0 then
    { s.cancel entry.generation with entries := s.entries.erase source }
  else { s with entries := s.entries.insert source { entry with refCount := entry.refCount - 1 } }

def mark (s : State) (i : Nat) (sub : Subscriber) : State :=
  { s with subscribers := s.subscribers.set i { sub with cleanedUp := true } }

/-- `cleanup` and the destructor: only the first of them counts. -/
def release (s : State) (i : Nat) : State :=
  match s.subscribers[i]? with
  | none => s
  | some sub =>
    if sub.cleanedUp then s
    else
      match s.entries.lookup sub.source with
      | none => s.mark i sub
      | some entry =>
        if entry.generation = sub.generation then (s.mark i sub).unref sub.source entry
        else s.mark i sub

def dropReceiver (s : State) (i : Nat) : State :=
  match s.subscribers[i]? with
  | none => s
  | some sub =>
    if sub.cleanedUp then
      { s with subscribers := s.subscribers.set i { sub with receiving := false } }
    else s

/-! ## Decode tasks -/

end State

inductive DecodeEvent
  | cancelled
  | opened
  | failed
  | frame
  | finished (playbackError : Option String)
  | aborted
  | settle
  | unlist

namespace State

def heard (s : State) (g : Nat) : Bool :=
  s.subscribers.any fun sub => sub.generation = g && sub.receiving

def unlist (s : State) (source : Text) (g : Nat) : State :=
  match s.entries.lookup source with
  | none => s
  | some entry => if entry.generation = g then { s with entries := s.entries.erase source } else s

def decodeNext (s : State) (g : Nat) (d : Decode) : DecodeEvent → Option Decode
  | .cancelled =>
    if (d.phase = .opening ∨ d.phase = .playing) ∧ d.cancelled then
      some { d with phase := .leaving } else none
  | .opened => if d.phase = .opening then some { d with phase := .playing } else none
  | .failed | .aborted =>
    if d.phase = .opening ∨ d.phase = .playing then some { d with phase := .leaving } else none
  | .frame =>
    if d.phase = .playing then
      if s.heard g then some d else some { d with phase := .leaving }
    else none
  | .finished playbackError =>
    if d.phase = .playing then
      some
        { d with
          phase := .leaving
          terminal := some (match playbackError with
            | some e => .error e
            | none => .ok ()) }
    else none
  | .settle =>
    if d.phase = .leaving then
      some
        { d with
          phase := .settled
          terminal := d.terminal.or (some (.error "playback initialization or decode failed")) }
    else none
  | .unlist => if d.phase = .settled then some { d with phase := .ended } else none

def onDecode (s : State) (g : Nat) (ev : DecodeEvent) : State :=
  match s.decodes[g]? with
  | none => s
  | some d =>
    match s.decodeNext g d ev with
    | none => s
    | some d' =>
      if d'.phase = .ended then (s.setDecode g d').unlist d.source g else s.setDecode g d'

end State

inductive Event
  | subscribe (source : Text) (sampleRate : Nat) (admitted : Bool)
  | release (i : Nat)
  | dropReceiver (i : Nat)
  | decode (g : Nat) (ev : DecodeEvent)

def step (s : State) : Event → State × Option (Except String Nat)
  | .subscribe source sampleRate admitted =>
    ((s.subscribeWithLease source sampleRate admitted).1,
      some (s.subscribeWithLease source sampleRate admitted).2)
  | .release i => (s.release i, none)
  | .dropReceiver i => (s.dropReceiver i, none)
  | .decode g ev => (s.onDecode g ev, none)

/-! ## The count -/

def liveOf (subscribers : List Subscriber) (g : Nat) : Nat :=
  subscribers.countP fun sub => sub.generation = g && !sub.cleanedUp

theorem liveOf_append (subscribers : List Subscriber) (source : Text) (g g' : Nat) :
    liveOf (subscribers ++ [{ source := source, generation := g }]) g' =
      liveOf subscribers g' + if g = g' then 1 else 0 := by
  simp [liveOf]

theorem liveOf_deaf {subscribers : List Subscriber} {i : Nat} (hsub : subscribers[i]? = some sub)
    (g : Nat) :
    liveOf (subscribers.set i { sub with receiving := false }) g = liveOf subscribers g := by
  grind [liveOf]

namespace State

def live (s : State) (g : Nat) : Nat := liveOf s.subscribers g

structure Counts (s : State) (source : Text) (e : SharedEntry) : Prop where
  counted : e.refCount = s.live e.generation
  pos : 1 ≤ e.refCount
  le : e.refCount ≤ 1024
  decode : ∃ d, s.decodes[e.generation]? = some d ∧ d.source = source ∧ d.cancelled = false ∧
    d.phase ≠ .ended

structure Sound (s : State) : Prop where
  counts : ∀ source e, s.entries.lookup source = some e → s.Counts source e
  known : ∀ sub ∈ s.subscribers, ∃ d, s.decodes[sub.generation]? = some d ∧ d.source = sub.source
  cancelled : ∀ (g : Nat) (d : Decode), s.decodes[g]? = some d → d.cancelled = true → s.live g = 0
  terminal : ∀ (g : Nat) (d : Decode), s.decodes[g]? = some d →
    d.phase = .settled ∨ d.phase = .ended → d.terminal.isSome = true

theorem sound_initial : Sound {} where
  counts := fun _ _ he => absurd he.symm (some_ne_none _)
  known := fun _ hsub => absurd hsub not_mem_nil
  cancelled := fun _ _ hd => absurd hd.symm (some_ne_none _)
  terminal := fun _ _ hd => absurd hd.symm (some_ne_none _)

theorem Sound.source_eq (h : s.Sound) (he : s.entries.lookup source = some e)
    (hd : s.decodes[e.generation]? = some d) : d.source = source := by
  obtain ⟨other, ho, hs, _⟩ := (h.counts source e he).decode
  rw [hd] at ho
  cases ho
  exact hs

theorem Counts.of_live (h : s.Counts source e) {s' : State}
    (hlive : s'.live e.generation = s.live e.generation)
    (hd : s'.decodes[e.generation]? = s.decodes[e.generation]?) : s'.Counts source e where
  __ := h
  counted := by rw [hlive]; exact h.counted
  decode := by rw [hd]; exact h.decode

theorem Sound.join (h : s.Sound) (he : s.entries.lookup source = some e) (hle : e.refCount < 1024) :
    (s.join source e).Sound := by
  have hlive : ∀ g, (s.join source e).live g = s.live g + if e.generation = g then 1 else 0 :=
    liveOf_append s.subscribers source e.generation
  have hen := h.counts source e he
  obtain ⟨d, hd, hs, hon, _⟩ := hen.decode
  refine ⟨fun source' e' he' => ?_, fun sub hsub => ?_, fun g d' hd' ho => ?_, h.terminal⟩
  · rcases lookup_insert_cases he' with ⟨rfl, rfl⟩ | ⟨hne, hold⟩
    · have hc := hlive e.generation
      rw [if_pos rfl, ← hen.counted] at hc
      exact ⟨hc.symm, Nat.succ_pos _, hle, hen.decode⟩
    refine (h.counts source' e' hold).of_live ?_ rfl
    rw [hlive, if_neg, Nat.add_zero]
    intro hg
    rw [hg] at hd
    exact hne ((h.source_eq hold hd).symm.trans hs)
  · rcases mem_append.mp hsub with hsub | hsub
    · exact h.known sub hsub
    · rw [mem_singleton.mp hsub]
      exact ⟨d, hd, hs⟩
  · rw [hlive, h.cancelled g d' hd' ho, if_neg]
    intro hg
    have hsame : s.decodes[g]? = some d' := hd'
    rw [hg, hsame] at hd
    cases hd
    rw [hon] at ho
    exact Bool.false_ne_true ho

theorem Sound.live_new (h : s.Sound) : s.live s.decodes.length = 0 := by
  refine countP_eq_zero.mpr fun sub hsub => ?_
  obtain ⟨d, hd, _⟩ := h.known sub hsub
  grind

theorem Sound.start (h : s.Sound) : (s.start source).Sound := by
  have hlive : ∀ g, (s.start source).live g = s.live g + if s.decodes.length = g then 1 else 0 :=
    liveOf_append s.subscribers source s.decodes.length
  have hk : ∀ (g : Nat) (d : Decode), s.decodes[g]? = some d →
      (s.start source).decodes[g]? = some d := by
    intro g d hd
    exact (List.getElem?_append_left (List.getElem?_eq_some_iff.mp hd).1).trans hd
  have hn : (s.start source).decodes[s.decodes.length]? = some { source := source } := by
    show (s.decodes ++ [_])[s.decodes.length]? = _
    rw [List.getElem?_append_right (Nat.le_refl _), Nat.sub_self]
    rfl
  have hca : ∀ (g : Nat) (d : Decode), (s.start source).decodes[g]? = some d →
      s.decodes[g]? = some d ∨ g = s.decodes.length ∧ d = { source := source } := by
    intro g d hd
    rcases Nat.lt_trichotomy g s.decodes.length with hlt | rfl | hgt
    · exact .inl ((List.getElem?_append_left hlt).symm.trans hd)
    · rw [hn] at hd
      cases hd
      exact .inr ⟨rfl, rfl⟩
    · grind [State.start, length_singleton]
  refine ⟨fun source' e' he' => ?_, fun sub hsub => ?_, fun g d hd ho => ?_,
    fun g d hd hp => ?_⟩
  · rcases lookup_insert_cases he' with ⟨rfl, rfl⟩ | ⟨_, hold⟩
    · have hco := hlive s.decodes.length
      rw [if_pos rfl, h.live_new] at hco
      exact ⟨hco.symm, Nat.le_refl 1, Nat.le_add_left 1 1023, _, hn, rfl, rfl,
        DecodePhase.noConfusion⟩
    have hc := h.counts source' e' hold
    obtain ⟨d, hd, _⟩ := hc.decode
    have hlt := (List.getElem?_eq_some_iff.mp hd).1
    refine hc.of_live ?_ ((hk _ d hd).trans hd.symm)
    rw [hlive, if_neg (by omega), Nat.add_zero]
  · rcases mem_append.mp hsub with hsub | hsub
    · obtain ⟨d, hd, hs⟩ := h.known sub hsub
      exact ⟨d, hk _ d hd, hs⟩
    · rw [mem_singleton.mp hsub]
      exact ⟨_, hn, rfl⟩
  · grind [h.cancelled]
  grind [h.terminal]

theorem Sound.subscribeWithLease (h : s.Sound) (source : Text) (sampleRate : Nat)
    (admitted : Bool) : (s.subscribeWithLease source sampleRate admitted).1.Sound := by
  grind [State.subscribeWithLease, h.join, h.start]

/-! Releasing a subscriber. -/

theorem release_cases (s : State) (i : Nat) :
    s.release i = s ∨ ∃ sub, s.subscribers[i]? = some sub ∧ sub.cleanedUp = false ∧
      ((∀ e, s.entries.lookup sub.source = some e → e.generation ≠ sub.generation) ∧
          s.release i = s.mark i sub ∨
        ∃ e, s.entries.lookup sub.source = some e ∧ e.generation = sub.generation ∧
          s.release i = (s.mark i sub).unref sub.source e) := by
  unfold release
  grind

theorem live_mark (hsub : s.subscribers[i]? = some sub) (hlive : sub.cleanedUp = false) (g : Nat) :
    (s.mark i sub).live g + (if sub.generation = g then 1 else 0) = s.live g := by
  grind [live, liveOf, mark]

section

variable (h : s.Sound) (hsub : s.subscribers[i]? = some sub)
include h hsub

theorem Sound.known_set {sub' : Subscriber}
    (hge : sub'.generation = sub.generation) (hs : sub'.source = sub.source) :
    ∀ other ∈ s.subscribers.set i sub',
      ∃ d, s.decodes[other.generation]? = some d ∧ d.source = other.source := by
  intro other ho
  rcases mem_or_eq_of_mem_set ho with hold | rfl
  · exact h.known other hold
  · rw [hge, hs]
    exact h.known sub (mem_of_getElem? hsub)

theorem Sound.source_of_generation (he : s.entries.lookup source = some e)
    (hg : e.generation = sub.generation) : source = sub.source := by
  obtain ⟨d, hd, hs⟩ := h.known sub (mem_of_getElem? hsub)
  rw [← hg] at hd
  rw [← hs, h.source_eq he hd]

theorem Sound.mark (hlive : sub.cleanedUp = false)
    (hn : ∀ e, s.entries.lookup sub.source = some e → e.generation ≠ sub.generation) :
    (s.mark i sub).Sound := by
  refine ⟨fun source e he => (h.counts source e he).of_live ?_ rfl,
    h.known_set hsub rfl rfl, fun g d hd ho => ?_, h.terminal⟩
  · have hm := live_mark hsub hlive e.generation
    rw [if_neg fun hg => ?_] at hm
    · exact hm
    · have hs := h.source_of_generation hsub he hg.symm
      exact hn e (hs ▸ he) hg.symm
  have hm := live_mark hsub hlive g
  have hz := h.cancelled g d hd ho
  omega

end

theorem decodes_cancel (s : State) (g g' : Nat) :
    (s.cancel g).decodes[g']? =
      if g' = g then s.decodes[g']?.map fun d => { d with cancelled := true }
      else s.decodes[g']? := by
  unfold cancel
  by_cases hg : g' = g
  · subst hg
    rw [if_pos rfl]
    cases hd : s.decodes[g']? with
    | none => exact hd
    | some d => exact List.getElem?_set_self (List.getElem?_eq_some_iff.mp hd).1
  rw [if_neg hg]
  cases hd : s.decodes[g]? with
  | none => rfl
  | some d => exact List.getElem?_set_ne fun heq => hg heq.symm

theorem of_decodes_cancel {g' : Nat} (h : (s.cancel g).decodes[g']? = some d') :
    ∃ d, s.decodes[g']? = some d ∧ d'.source = d.source ∧ d'.phase = d.phase ∧
      d'.terminal = d.terminal ∧ (d'.cancelled = true → g' = g ∨ d.cancelled = true) := by
  grind [decodes_cancel]

section Unref

variable (h : s.Sound) (hsub : s.subscribers[i]? = some sub) (hlive : sub.cleanedUp = false)
  (he : s.entries.lookup sub.source = some e) (hg : e.generation = sub.generation)
include h hsub hlive he hg

theorem Sound.live_unref : (s.mark i sub).live e.generation = e.refCount - 1 := by
  have hm := live_mark hsub hlive e.generation
  rw [if_pos hg.symm, ← (h.counts _ e he).counted] at hm
  omega

omit he in
theorem Sound.live_other {source' : Text} {e' : SharedEntry}
    (he' : s.entries.lookup source' = some e') (hne : source' ≠ sub.source) :
    e'.generation ≠ e.generation ∧ (s.mark i sub).live e'.generation = s.live e'.generation := by
  have hge : e'.generation ≠ e.generation :=
    fun heq => hne (h.source_of_generation hsub he' (heq.trans hg))
  have hm := live_mark hsub hlive e'.generation
  rw [if_neg fun heq => hge (hg.trans heq).symm, Nat.add_zero] at hm
  exact ⟨hge, hm⟩

theorem Sound.unref_last (hl : e.refCount - 1 = 0) :
    ({ (s.mark i sub).cancel e.generation with entries := s.entries.erase sub.source } :
      State).Sound := by
  have hs : ((s.mark i sub).cancel e.generation).subscribers =
      (s.mark i sub).subscribers := by
    unfold cancel
    cases (s.mark i sub).decodes[e.generation]? with
    | none => rfl
    | some d => rfl
  have hc : ∀ g, ({ (s.mark i sub).cancel e.generation with
      entries := s.entries.erase sub.source } : State).live g = (s.mark i sub).live g :=
    fun g => congrArg (liveOf · g) hs
  refine ⟨fun source' e' he' => ?_, fun other hot => ?_, fun g d hd hof => ?_,
    fun g d hd hp => ?_⟩
  · obtain ⟨hne, hold⟩ := lookup_of_erase he'
    obtain ⟨hge, hsame⟩ := h.live_other hsub hlive hg hold hne
    refine (h.counts source' e' hold).of_live ((hc _).trans hsame) ?_
    exact (decodes_cancel _ _ _).trans (if_neg hge)
  · have hme : other ∈ (s.mark i sub).subscribers := hs ▸ hot
    have hk : ∀ other ∈ (s.mark i sub).subscribers,
        ∃ d, s.decodes[other.generation]? = some d ∧ d.source = other.source :=
      h.known_set hsub rfl rfl
    obtain ⟨d, hd, hso⟩ := hk other hme
    have hca := decodes_cancel (s.mark i sub) e.generation other.generation
    rw [show (s.mark i sub).decodes[other.generation]? = some d from hd] at hca
    grind
  · rw [hc]
    obtain ⟨old, hold, _, _, _, hcs⟩ := of_decodes_cancel hd
    rcases hcs hof with rfl | ho
    · rw [h.live_unref hsub hlive he hg, hl]
    have hm := live_mark hsub hlive g
    have hz := h.cancelled g old hold ho
    omega
  obtain ⟨old, hold, _, hsame, ht, _⟩ := of_decodes_cancel hd
  rw [ht]
  rw [hsame] at hp
  exact h.terminal g old hold hp

theorem Sound.unref_more (hm : e.refCount - 1 ≠ 0) :
    ({ s.mark i sub with
      entries := s.entries.insert sub.source { e with refCount := e.refCount - 1 } } :
      State).Sound := by
  have hen := h.counts _ e he
  refine ⟨fun source' e' he' => ?_, h.known_set hsub rfl rfl, fun g d hd ho => ?_, h.terminal⟩
  · rcases lookup_insert_cases he' with ⟨rfl, rfl⟩ | ⟨hne, hold⟩
    · have hle := hen.le
      exact ⟨(h.live_unref hsub hlive he hg).symm, Nat.one_le_iff_ne_zero.mpr hm,
        Nat.le_trans (Nat.sub_le _ 1) hle, hen.decode⟩
    · exact (h.counts source' e' hold).of_live (h.live_other hsub hlive hg hold hne).2 rfl
  have hma := live_mark hsub hlive g
  have hz := h.cancelled g d hd ho
  show (s.mark i sub).live g = 0
  omega

end Unref

theorem Sound.release (h : s.Sound) (i : Nat) : (s.release i).Sound := by
  rcases s.release_cases i with hsame | ⟨sub, hsub, hlive, ⟨hn, ho⟩ | ⟨e, he, hg, ho⟩⟩
  · rw [hsame]
    exact h
  · rw [ho]
    exact h.mark hsub hlive hn
  rw [ho]
  unfold unref
  split
  · rename_i hl
    exact h.unref_last hsub hlive he hg hl
  · rename_i hm
    exact h.unref_more hsub hlive he hg hm

theorem Sound.dropReceiver (h : s.Sound) (i : Nat) : (s.dropReceiver i).Sound := by
  unfold State.dropReceiver
  cases hsub : s.subscribers[i]? with
  | none => exact h
  | some sub =>
    dsimp only
    split
    · have hsame := liveOf_deaf hsub
      refine ⟨fun source e he => (h.counts source e he).of_live (hsame _) rfl,
        h.known_set hsub rfl rfl, fun g d hd ho => ?_, h.terminal⟩
      exact (hsame g).trans (h.cancelled g d hd ho)
    · exact h

/-! The decode tasks. -/

theorem Sound.unlist (h : s.Sound) (source : Text) (g : Nat) : (s.unlist source g).Sound := by
  unfold State.unlist
  cases s.entries.lookup source with
  | none => exact h
  | some entry =>
    dsimp only
    split
    · refine ⟨fun source' e' he' => ?_, h.known, h.cancelled, h.terminal⟩
      exact (h.counts source' e' (lookup_of_erase he').2).of_live rfl rfl
    · exact h

theorem lookup_of_unlist {source' : Text}
    (he : (s.unlist source g).entries.lookup source' = some e) :
    s.entries.lookup source' = some e ∧ (source' = source → e.generation ≠ g) := by
  unfold State.unlist at he
  cases hen : s.entries.lookup source with
  | none => grind
  | some entry => grind [lookup_of_erase]

theorem Sound.setDecode (h : s.Sound) (hd : s.decodes[g]? = some d)
    (hso : d'.source = d.source) (hca : d'.cancelled = d.cancelled)
    (hen : ∀ source e, s.entries.lookup source = some e → e.generation = g → d'.phase ≠ .ended)
    (ht : d'.phase = .settled ∨ d'.phase = .ended → d'.terminal.isSome = true) :
    (s.setDecode g d').Sound := by
  have hlt := (List.getElem?_eq_some_iff.mp hd).1
  have hs : (s.setDecode g d').decodes[g]? = some d' := List.getElem?_set_self hlt
  have hot : ∀ g', g' ≠ g → (s.setDecode g d').decodes[g']? = s.decodes[g']? :=
    fun g' hne => List.getElem?_set_ne fun heq => hne heq.symm
  refine ⟨fun source e he => ?_, fun sub hsub => ?_, fun g' other hd' hof => ?_,
    fun g' other hd' hp => ?_⟩
  · have hc := h.counts source e he
    refine ⟨hc.counted, hc.pos, hc.le, ?_⟩
    obtain ⟨old, hold, ho, hol, ho3⟩ := hc.decode
    by_cases hg : e.generation = g
    · rw [hg, hd] at hold
      cases hold
      rw [hg]
      exact ⟨d', hs, hso.trans ho, hca.trans hol, hen source e he hg⟩
    · exact ⟨old, (hot _ hg).trans hold, ho, hol, ho3⟩
  · obtain ⟨old, hold, ho⟩ := h.known sub hsub
    grind
  · by_cases hg : g' = g
    · rw [hg, hs] at hd'
      cases hd'
      rw [hg]
      exact h.cancelled g d hd (hca ▸ hof)
    · rw [hot _ hg] at hd'
      exact h.cancelled g' other hd' hof
  grind [h.terminal]

theorem of_decodeNext {ev : DecodeEvent} (h : s.decodeNext g d ev = some d')
    (ht : d.phase = .settled ∨ d.phase = .ended → d.terminal.isSome = true) :
    d'.source = d.source ∧ d'.cancelled = d.cancelled ∧
      (d'.phase = .settled ∨ d'.phase = .ended → d'.terminal.isSome = true) := by
  have hpl : ¬ (DecodePhase.playing = .settled ∨ DecodePhase.playing = .ended) := by decide
  have hl : ¬ (DecodePhase.leaving = .settled ∨ DecodePhase.leaving = .ended) := by decide
  cases ev with
  | cancelled =>
    obtain ⟨_, ho⟩ := ite_none_right_eq_some.mp h
    cases ho
    exact ⟨rfl, rfl, fun hp => absurd hp hl⟩
  | opened =>
    obtain ⟨_, ho⟩ := ite_none_right_eq_some.mp h
    cases ho
    exact ⟨rfl, rfl, fun hp => absurd hp hpl⟩
  | failed =>
    obtain ⟨_, ho⟩ := ite_none_right_eq_some.mp h
    cases ho
    exact ⟨rfl, rfl, fun hp => absurd hp hl⟩
  | aborted =>
    obtain ⟨_, ho⟩ := ite_none_right_eq_some.mp h
    cases ho
    exact ⟨rfl, rfl, fun hp => absurd hp hl⟩
  | frame =>
    obtain ⟨_, ho⟩ := ite_none_right_eq_some.mp h
    grind
  | finished playbackError =>
    obtain ⟨_, ho⟩ := ite_none_right_eq_some.mp h
    cases ho
    exact ⟨rfl, rfl, fun _ => rfl⟩
  | settle =>
    obtain ⟨_, ho⟩ := ite_none_right_eq_some.mp h
    grind
  | unlist =>
    obtain ⟨hp, ho⟩ := ite_none_right_eq_some.mp h
    cases ho
    exact ⟨rfl, rfl, fun _ => ht (.inl hp)⟩

theorem setDecode_unlist (s : State) (source : Text) (g g' : Nat) (d : Decode) :
    (s.setDecode g' d).unlist source g = (s.unlist source g).setDecode g' d := by
  unfold State.unlist
  show (match s.entries.lookup source with | none => _ | some entry => _) = _
  cases s.entries.lookup source with
  | none => rfl
  | some entry =>
    dsimp only
    split <;> rfl

theorem Sound.onDecode (h : s.Sound) (g : Nat) (ev : DecodeEvent) : (s.onDecode g ev).Sound := by
  unfold State.onDecode
  cases hd : s.decodes[g]? with
  | none => exact h
  | some d =>
    dsimp only
    cases hn : s.decodeNext g d ev with
    | none => exact h
    | some d' =>
      obtain ⟨hs, hca, ht⟩ := of_decodeNext hn (h.terminal g d hd)
      dsimp only
      split
      · rw [setDecode_unlist]
        have hso := h.unlist d.source g
        have hd : (s.unlist d.source g).decodes[g]? = some d := by
          unfold State.unlist
          cases s.entries.lookup d.source with
          | none => exact hd
          | some entry => grind
        refine hso.setDecode hd hs hca (fun source e he hg => ?_) ht
        -- an entry of the generation could only stand under the task's source
        have hen : (s.unlist d.source g).decodes[e.generation]? = some d := by
          rw [hg]
          exact hd
        have heq := hso.source_eq he hen
        exact absurd hg ((lookup_of_unlist he).2 heq.symm)
      · rename_i hp
        exact h.setDecode hd hs hca (fun _ _ _ _ => hp) ht

end State

theorem sound_step {s : State} (h : s.Sound) (ev : Event) : (step s ev).1.Sound := by
  cases ev with
  | subscribe source sampleRate admitted => exact h.subscribeWithLease source sampleRate admitted
  | release i => exact h.release i
  | dropReceiver i => exact h.dropReceiver i
  | decode g ev => exact h.onDecode g ev

/-! ## Other generations -/

namespace State

theorem lookup_release_other (hsub : s.subscribers[i]? = some sub)
    (he : s.entries.lookup source = some e) (hg : e.generation ≠ sub.generation) :
    (s.release i).entries.lookup source = some e := by
  rcases s.release_cases i with hsame | ⟨sub', hsub', _, ⟨_, ho⟩ | ⟨e', he', hg', ho⟩⟩
  · rw [hsame]
    exact he
  · rw [ho]
    exact he
  rw [hsub] at hsub'
  cases hsub'
  have hne : source ≠ sub.source := by
    intro heq
    rw [heq, he'] at he
    cases he
    exact hg hg'
  rw [ho]
  unfold unref
  split
  · exact (AList.lookup_erase_ne hne).trans he
  · exact (AList.lookup_insert_ne hne).trans he

theorem lookup_unlist_other (he : s.entries.lookup source = some e) (hg : e.generation ≠ g)
    (source' : Text) : (s.unlist source' g).entries.lookup source = some e := by
  unfold unlist
  cases hen : s.entries.lookup source' with
  | none => exact he
  | some entry =>
    dsimp only
    split
    · rename_i hsame
      have hne : source ≠ source' := by
        intro heq
        rw [← heq, he] at hen
        cases hen
        exact hg hsame
      exact (AList.lookup_erase_ne hne).trans he
    · exact he

theorem lookup_onDecode_other (he : s.entries.lookup source = some e) (hg : e.generation ≠ g)
    (ev : DecodeEvent) : (s.onDecode g ev).entries.lookup source = some e := by
  unfold onDecode
  cases s.decodes[g]? with
  | none => exact he
  | some d =>
    dsimp only
    cases s.decodeNext g d ev with
    | none => exact he
    | some d' =>
      dsimp only
      split
      · rw [setDecode_unlist]
        exact lookup_unlist_other he hg d.source
      · exact he

end State

/-- In every interleaving an entry counts the subscribers of its generation, a token is
cancelled only when they are gone, other generations are left alone, and an ended task has left
its result and no entry. -/
theorem shared_playback_counted (events : List Event) :
    (∀ source e, (exec step {} events).entries.lookup source = some e →
      e.refCount = (exec step {} events).live e.generation ∧ 1 ≤ e.refCount ∧
        e.refCount ≤ 1024) ∧
      (∀ (g : Nat) (d : Decode), (exec step {} events).decodes[g]? = some d →
        d.cancelled = true → (exec step {} events).live g = 0) ∧
      (∀ (i : Nat) (sub : Subscriber),
        (exec step {} events).subscribers[i]? = some sub →
        ∀ source e, (exec step {} events).entries.lookup source = some e →
          e.generation ≠ sub.generation →
          (exec step {} (events ++ [.release i])).entries.lookup source = some e) ∧
      (∀ (g : Nat) (ev : DecodeEvent) (source : Text) (e : SharedEntry),
        (exec step {} events).entries.lookup source = some e → e.generation ≠ g →
          (exec step {} (events ++ [.decode g ev])).entries.lookup source = some e) ∧
      ∀ (g : Nat) (d : Decode), (exec step {} events).decodes[g]? = some d →
        d.phase = .ended → d.terminal.isSome = true ∧
          ∀ source e, (exec step {} events).entries.lookup source = some e →
            e.generation ≠ g := by
  have hsound : (exec step {} events).Sound :=
    exec_induction State.sound_initial (fun s ev h => sound_step h ev) events
  refine ⟨fun source e he => ?_, hsound.cancelled, fun i sub hsub source e he hg => ?_,
    fun g ev source e he hg => ?_, fun g d hd hphase => ⟨hsound.terminal g d hd (.inr hphase), ?_⟩⟩
  · have hcounts := hsound.counts source e he
    exact ⟨hcounts.counted, hcounts.pos, hcounts.le⟩
  · rw [exec_append]
    exact State.lookup_release_other hsub he hg
  · rw [exec_append]
    exact State.lookup_onDecode_other he hg ev
  intro source e he hg
  obtain ⟨other, hother, _, _, hnot⟩ := (hsound.counts source e he).decode
  rw [hg, hd] at hother
  cases hother
  exact hnot hphase

-- a subscriber that comes between the result and the removal keeps no entry
example :
    let s := exec step {}
      [.subscribe "a".toList 8000 true, .decode 0 .opened, .decode 0 (.finished none),
        .decode 0 .settle, .subscribe "a".toList 8000 true, .decode 0 .unlist,
        .subscribe "a".toList 8000 true, .release 1]
    (s.entries.lookup "a".toList).map SharedEntry.generation = some 1 ∧ s.live 0 = 1 := by
  decide +kernel

end RtpBridge.Playback.Shared
