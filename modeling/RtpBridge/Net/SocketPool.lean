/-
The pool of UDP port pairs in `net/socket_pool.rs`, shared by `k` calls of `allocate_pair`.

Every access to the counter and every bind is a step of its own.  `foreign` holds the ports
that other sockets of the host have bound.
-/
import Mathlib

namespace RtpBridge.Net

/-- A range of whole pairs: an even port for RTP and the next one for RTCP. -/
structure SocketPool where
  portStart : Nat
  portEnd : Nat
  even : portStart % 2 = 0
  odd : portEnd % 2 = 1
  below : portStart < portEnd

/-- Where a call of `allocate_pair` is; `left` counts the rounds of its loop still to come. -/
inductive Call where
  | idle
  | drawing (left : Nat)
  | swapping (left current : Nat)
  | bindingRtp (left port : Nat)
  | bindingRtcp (left port : Nat)
  | returned (port : Nat)
  | failed
deriving DecidableEq

namespace Call

/-- The port it has drawn. -/
def port : Call → Option Nat
  | bindingRtp _ p | bindingRtcp _ p | returned p => some p
  | _ => none

/-- The ports it has bound. -/
def holds : Call → Nat → Bool
  | bindingRtcp _ port, p => p = port
  | returned port, p => p = port || p = port + 1
  | _, _ => false

/-- The rounds of its loop that have not drawn a port. -/
def rounds : Call → Option Nat
  | drawing left | bindingRtp left _ | bindingRtcp left _ => some left
  | swapping left _ => some (left + 1)
  | _ => none

end Call

structure Sockets (k : Nat) where
  nextPort : Nat
  calls : Fin k → Call
  foreign : List Nat

inductive Event (k : Nat) where
  | call (i : Fin k)
  | resume (i : Fin k)
  /-- A bind fails although the port is free. -/
  | refuse (i : Fin k) (permissionDenied : Bool)
  /-- The pair is closed, or the call is given up. -/
  | drop (i : Fin k)
  | bind (port : Nat)
  | close (port : Nat)

variable {k : Nat}

namespace Sockets

def InUse (s : Sockets k) (p : Nat) : Prop :=
  p ∈ s.foreign ∨ ∃ i, (s.calls i).holds p = true

instance (s : Sockets k) (p : Nat) : Decidable (s.InUse p) := inferInstanceAs (Decidable (_ ∨ _))

def set (s : Sockets k) (i : Fin k) (c : Call) : Sockets k :=
  { s with calls := Function.update s.calls i c }

end Sockets

namespace SocketPool

def new (portStart portEnd : UInt16) : Except String SocketPool :=
  let start := if portStart.toNat % 2 = 0 then portStart.toNat else portStart.toNat + 1
  let stop := if portEnd.toNat % 2 = 0 then portEnd.toNat - 1 else portEnd.toNat
  if 2 ^ 16 ≤ start then .error s!"port_start {portStart} too high to round to even"
  else if portEnd = 0 then .error s!"port_end {portEnd} too low to round to odd"
  else if h : start < stop then .ok ⟨start, stop, by grind, by grind, h⟩
  else .error s!"Invalid port range: {portStart}-{stop} (need at least one even/odd pair)"

variable (pool : SocketPool)

def numPairs : Nat := (pool.portEnd - pool.portStart + 1) / 2

/-- What `next_even_port` writes back for the port it read. -/
def following (current : Nat) : Nat :=
  if pool.portEnd < current + 2 then pool.portStart else current + 2

def resume (s : Sockets k) (i : Fin k) : Sockets k :=
  match s.calls i with
  | .drawing 0 => s.set i .failed
  | .drawing (left + 1) => s.set i (.swapping left s.nextPort)
  | .swapping left current =>
    if s.nextPort = current then
      { s.set i (.bindingRtp left current) with nextPort := pool.following current }
    else s.set i (.drawing (left + 1))
  | .bindingRtp left port =>
    s.set i (if s.InUse port then .drawing left else .bindingRtcp left port)
  -- The socket for RTP is closed with the round when the second bind fails.
  | .bindingRtcp left port =>
    s.set i (if s.InUse (port + 1) then .drawing left else .returned port)
  | _ => s

def step (s : Sockets k) : Event k → Sockets k
  | .call i => if s.calls i = .idle then s.set i (.drawing (2 * pool.numPairs)) else s
  | .resume i => pool.resume s i
  | .refuse i permissionDenied =>
    match s.calls i with
    | .bindingRtp left _ | .bindingRtcp left _ =>
      s.set i (if permissionDenied then .failed else .drawing left)
    | _ => s
  | .drop i => s.set i .idle
  | .bind port => if s.InUse port then s else { s with foreign := port :: s.foreign }
  | .close port => { s with foreign := s.foreign.erase port }

/-! ## Pairs stay apart -/

def IsPort (p : Nat) : Prop := p % 2 = 0 ∧ pool.portStart ≤ p ∧ p + 1 ≤ pool.portEnd

structure Sound (s : Sockets k) : Prop where
  counter : pool.IsPort s.nextPort
  ports : ∀ i p, (s.calls i).port = some p → pool.IsPort p
  alone : ∀ i j p, (s.calls i).holds p = true → (s.calls j).holds p = true → i = j
  own : ∀ i p, (s.calls i).holds p = true → p ∉ s.foreign

variable {pool} {s : Sockets k} {i : Fin k} {c : Call}

theorem isPort_following {p : Nat} (h : pool.IsPort p) : pool.IsPort (pool.following p) := by
  obtain ⟨he, hs, hl⟩ := h
  have hes := pool.even
  have hoe := pool.odd
  have hb := pool.below
  unfold following IsPort
  split <;> omega

/-- A call may move on if it drew a port of the range and binds only what is free. -/
theorem Sound.set (h : Sound pool s) (hp : ∀ p, c.port = some p → pool.IsPort p)
    (hh : ∀ p, c.holds p = true → (s.calls i).holds p = true ∨ ¬ s.InUse p) :
    Sound pool (s.set i c) := by
  have hfree : ∀ {p j}, c.holds p = true → (s.calls j).holds p = true → j = i := by
    intro p j hc hj
    rcases hh p hc with ho | hn
    · exact h.alone j i p hj ho
    · exact absurd (.inr ⟨j, hj⟩) hn
  refine ⟨h.counter, fun j p hj => ?_, fun j l p hj hl => ?_, fun j p hj => ?_⟩
  all_goals simp only [Sockets.set, Function.update_apply] at hj
  · split at hj
    · exact hp p hj
    · exact h.ports j p hj
  · simp only [Sockets.set, Function.update_apply] at hl
    split at hj <;> split at hl
    · simp_all
    · simp_all [hfree hj hl]
    · simp_all [hfree hl hj]
    · exact h.alone j l p hj hl
  · split at hj
    · rcases hh p hj with ho | hn
      · exact h.own i p ho
      · exact fun hf => hn (.inl hf)
    · exact h.own j p hj

theorem Sound.resume (h : Sound pool s) (i : Fin k) : Sound pool (pool.resume s i) := by
  have hp := h.ports i
  unfold SocketPool.resume
  split
  · exact h.set nofun nofun
  · exact h.set nofun nofun
  · rename_i left current hc
    split
    · rename_i hcur
      have hport : pool.IsPort current := hcur ▸ h.counter
      have hset : Sound pool (s.set i (.bindingRtp left current)) :=
        h.set (fun p hp => by cases hp; exact hport) nofun
      exact ⟨isPort_following hport, hset.ports, hset.alone, hset.own⟩
    · exact h.set nofun nofun
  · rename_i left port hc
    rw [hc] at hp
    split
    · exact h.set nofun nofun
    · rename_i hfree
      refine h.set hp fun p hh => .inr ?_
      rw [of_decide_eq_true hh]
      exact hfree
  · rename_i left port hc
    rw [hc] at hp
    split
    · exact h.set nofun nofun
    · rename_i hfree
      refine h.set hp fun p hh => ?_
      rw [hc]
      rcases (Bool.or_eq_true _ _).mp hh with hh | hh
      · exact .inl hh
      · rw [of_decide_eq_true hh]
        exact .inr hfree
  · exact h

theorem Sound.step (h : Sound pool s) (e : Event k) : Sound pool (pool.step s e) := by
  cases e with
  | call i =>
    rw [SocketPool.step]
    split
    · exact h.set nofun nofun
    · exact h
  | resume i => exact h.resume i
  | refuse i permissionDenied =>
    rw [SocketPool.step]
    cases permissionDenied <;> split <;> first | exact h.set nofun nofun | exact h
  | drop i => exact h.set nofun nofun
  | bind port =>
    rw [SocketPool.step]
    split
    · exact h
    · rename_i hfree
      refine ⟨h.counter, h.ports, h.alone, fun i p hh hf => ?_⟩
      rcases List.mem_cons.mp hf with rfl | hf
      · exact hfree (.inr ⟨i, hh⟩)
      · exact h.own i p hh hf
  | close port =>
    exact ⟨h.counter, h.ports, h.alone, fun i p hh hf => h.own i p hh (List.mem_of_mem_erase hf)⟩

theorem sound_run (h : Sound pool s) (events : List (Event k)) :
    Sound pool (events.foldl pool.step s) := by
  induction events generalizing s with
  | nil => exact h
  | cons e rest ih => exact ih (h.step e)

/-- Whatever the calls, their callers and the other sockets of the host do, a returned pair is an
even port of the range with the next one, and no other socket has either of them. -/
theorem returned_pairs_disjoint (pool : SocketPool) (events : List (Event k)) :
    let s := events.foldl pool.step ⟨pool.portStart, fun _ => .idle, []⟩
    ∀ i p, s.calls i = .returned p → pool.IsPort p ∧
      ∀ q, q = p ∨ q = p + 1 → q ∉ s.foreign ∧ ∀ j, j ≠ i → (s.calls j).holds q = false := by
  intro s i p hi
  have h0 : Sound pool (⟨pool.portStart, fun _ => .idle, []⟩ : Sockets k) :=
    ⟨⟨pool.even, Nat.le_refl _, pool.below⟩, nofun, nofun, nofun⟩
  have h : Sound pool s := sound_run h0 events
  refine ⟨h.ports i p (by rw [hi]; rfl), fun q hq => ?_⟩
  have hh : (s.calls i).holds q = true := by
    rw [hi]
    simpa [Call.holds] using hq
  refine ⟨h.own i q hh, fun j hj => ?_⟩
  rw [Bool.eq_false_iff]
  exact fun hjq => hj (h.alone j i q hjq hh)

def samplePool : SocketPool := ⟨10000, 10007, rfl, rfl, by decide⟩

/-- Two calls read the same port, and the second one loses the exchange. -/
theorem samplePool_disjoint :
    (([.call 0, .call 1, .resume 0, .resume 1, .resume 0, .resume 1, .resume 0, .resume 0].foldl
      samplePool.step ⟨10000, fun _ => .idle, []⟩ : Sockets 2).calls 1).holds 10000 = false :=
  ((returned_pairs_disjoint samplePool _ 0 10000 (by decide)).2 10000 (.inl rfl)).2 1 (by decide)

/-! ## Enough pairs for all calls -/

def portAt (pool : SocketPool) (j : Nat) : Nat := pool.portStart + 2 * j

/-- The pairs of which no other socket has a port. -/
def freePairs (pool : SocketPool) (foreign : List Nat) : Finset Nat :=
  (Finset.range pool.numPairs).filter fun j =>
    pool.portAt j ∉ foreign ∧ pool.portAt j + 1 ∉ foreign

/-- Draw `t` from the pair `a` on takes the pair `j`, before or after the counter wrapped. -/
def Draws (pool : SocketPool) (a t j : Nat) : Prop :=
  j < pool.numPairs ∧ (j = a + t ∨ j + pool.numPairs = a + t)

/-- After `t` draws no call has used more rounds than that, and a drawn pair that was free is
with a call. -/
structure Drawn (pool : SocketPool) (a t : Nat) (s : Sockets k) : Prop where
  counter : ∀ j, pool.Draws a t j → s.nextPort = pool.portAt j
  alive : ∀ i, s.calls i ≠ .failed
  rounds : ∀ i left, (s.calls i).rounds = some left → 2 * pool.numPairs ≤ left + t
  tried : ∀ u < t, ∀ j ∈ pool.freePairs s.foreign, pool.Draws a u j →
    ∃ i, (s.calls i).port = some (pool.portAt j)

variable {a t : Nat}

theorem isPort_portAt (h : a < pool.numPairs) : pool.IsPort (pool.portAt a) := by
  have he := pool.even
  have hb := pool.below
  unfold numPairs at h
  unfold IsPort portAt
  omega

theorem following_portAt (h : a < pool.numPairs) :
    pool.following (pool.portAt a) = pool.portAt (if a + 1 = pool.numPairs then 0 else a + 1) := by
  have he := pool.even
  have ho := pool.odd
  unfold numPairs portAt following at *
  split <;> split <;> omega

theorem Drawn.not_exhausted (h : Drawn pool a t s) (ha : a < pool.numPairs)
    (hroom : k ≤ (pool.freePairs s.foreign).card) (i : Fin k) : s.calls i ≠ .drawing 0 := by
  intro hi
  have hspent := h.rounds i 0 (by rw [hi]; rfl)
  have hcall : ∀ j ∈ pool.freePairs s.foreign,
      ∃ c ∈ Finset.univ.erase i, (s.calls c).port = some (pool.portAt j) := by
    intro j hj
    have hjn : j < pool.numPairs := Finset.mem_range.mp (Finset.mem_filter.mp hj).1
    obtain ⟨u, hu, hd⟩ : ∃ u < t, pool.Draws a u j := by
      by_cases hle : a ≤ j
      · exact ⟨j - a, by omega, hjn, by omega⟩
      · exact ⟨j + pool.numPairs - a, by omega, hjn, by omega⟩
    obtain ⟨c, hc⟩ := h.tried u hu j hj hd
    refine ⟨c, Finset.mem_erase.mpr ⟨?_, Finset.mem_univ c⟩, hc⟩
    rintro rfl
    rw [hi] at hc
    cases hc
  -- Each of the free pairs is with another call than `i`, so there is a call too many.
  have : Nonempty (Fin k) := ⟨i⟩
  choose! f hf hft using hcall
  have hinj : Set.InjOn f (pool.freePairs s.foreign : Set Nat) := by
    intro j hj l hl hjl
    have hp := (hft j hj).symm.trans (hjl ▸ hft l hl)
    simp only [portAt, Option.some.injEq] at hp
    omega
  have hcard := Finset.card_le_card_of_injOn f (fun j hj => hf j hj) hinj
  rw [Finset.card_erase_of_mem (Finset.mem_univ i), Finset.card_univ, Fintype.card_fin] at hcard
  have := i.pos
  omega

theorem Drawn.set (h : Drawn pool a t s) (ha : c ≠ .failed)
    (hr : ∀ left, c.rounds = some left → 2 * pool.numPairs ≤ left + t)
    (hp : ∀ j ∈ pool.freePairs s.foreign, (s.calls i).port = some (pool.portAt j) →
      c.port = some (pool.portAt j) ∨ ∃ l ≠ i, (s.calls l).port = some (pool.portAt j)) :
    Drawn pool a t (s.set i c) := by
  refine ⟨h.counter, fun l => ?_, fun l left hl => ?_, fun u hu j hj hd => ?_⟩
  · by_cases hli : l = i
    · simpa [Sockets.set, hli] using ha
    · simpa [Sockets.set, hli] using h.alive l
  · by_cases hli : l = i
    · exact hr left (by simpa [Sockets.set, hli] using hl)
    · exact h.rounds l left (by simpa [Sockets.set, hli] using hl)
  · obtain ⟨l, hl⟩ := h.tried u hu j hj hd
    by_cases hli : l = i
    · subst hli
      obtain hc | ⟨m, hm, hmp⟩ := hp j hj hl
      · exact ⟨l, by simpa [Sockets.set] using hc⟩
      · exact ⟨m, by simpa [Sockets.set, hm] using hmp⟩
    · exact ⟨l, by simpa [Sockets.set, hli] using hl⟩

theorem Drawn.set_of_none (h : Drawn pool a t s) (hi : (s.calls i).port = none) (ha : c ≠ .failed)
    (hr : ∀ left, c.rounds = some left → 2 * pool.numPairs ≤ left + t) :
    Drawn pool a t (s.set i c) :=
  h.set ha hr fun j _ hj => by rw [hi] at hj; cases hj

/-- The exchange succeeds: the port goes to the call, and the counter moves on. -/
theorem Drawn.draw (h : Drawn pool a t s) {left : Nat}
    (hi : s.calls i = .swapping left s.nextPort) : Drawn pool a (t + 1)
      { s.set i (.bindingRtp left s.nextPort) with nextPort := pool.following s.nextPort } := by
  have hset : Drawn pool a t (s.set i (.bindingRtp (left + 1) s.nextPort)) :=
    h.set_of_none (by rw [hi]; rfl) nofun fun l hl => h.rounds i l (by rw [hi]; exact hl)
  refine ⟨fun j ⟨hj, hd⟩ => ?_, fun l => ?_, fun l left' hl => ?_, fun u hu j hj hd => ?_⟩
  · obtain ⟨b, hb, hbj⟩ : ∃ b, pool.Draws a t b ∧
        (if b + 1 = pool.numPairs then 0 else b + 1) = j := by
      by_cases h0 : j = 0
      · exact ⟨pool.numPairs - 1, ⟨by omega, by omega⟩, by rw [if_pos (by omega), h0]⟩
      · exact ⟨j - 1, ⟨by omega, by omega⟩, by rw [if_neg (by omega)]; omega⟩
    rw [← hbj, ← following_portAt hb.1, ← h.counter b hb]
  · by_cases hli : l = i
    · simp [Sockets.set, hli]
    · simpa [Sockets.set, hli] using h.alive l
  · by_cases hli : l = i
    · have hl' : left = left' := by simpa [Sockets.set, hli, Call.rounds] using hl
      have := h.rounds i (left + 1) (by rw [hi]; rfl)
      omega
    · have := h.rounds l left' (by simpa [Sockets.set, hli] using hl)
      omega
  · rcases Nat.lt_succ_iff_lt_or_eq.mp hu with hu | rfl
    · obtain ⟨l, hl⟩ := hset.tried u hu j hj hd
      refine ⟨l, ?_⟩
      by_cases hli : l = i <;> simpa [Sockets.set, hli, Call.port] using hl
    · refine ⟨i, ?_⟩
      rw [← h.counter j hd]
      simp [Sockets.set, Call.port]

/-- Who holds an even port has drawn it. -/
theorem Sound.port_of_holds (h : Sound pool s) {p : Nat} (hp : p % 2 = 0)
    (hh : (s.calls i).holds p = true) : (s.calls i).port = some p := by
  have hq := h.ports i
  cases hc : s.calls i with
  | bindingRtcp left q =>
    rw [hc] at hh
    rw [of_decide_eq_true hh]
    rfl
  | returned q =>
    rw [hc] at hh hq
    have := (hq q rfl).1
    simp only [Call.holds, Bool.or_eq_true, decide_eq_true_eq] at hh
    rw [show p = q by omega]
    rfl
  | _ =>
    rw [hc] at hh
    cases hh

/-- The second bind of a pair that was free does not fail. -/
theorem Sound.rtcp_free (h : Sound pool s) {left p : Nat} (hi : s.calls i = .bindingRtcp left p)
    (hf : p + 1 ∉ s.foreign) : ¬ s.InUse (p + 1) := by
  rintro (hin | ⟨j, hj⟩)
  · exact hf hin
  have hp := (h.ports i p (by rw [hi]; rfl)).1
  have hq := h.ports j
  cases hc : s.calls j with
  | bindingRtcp left' q =>
    rw [hc] at hj hq
    have := (hq q rfl).1
    have : p + 1 = q := of_decide_eq_true hj
    omega
  | returned q =>
    rw [hc] at hj hq
    have := (hq q rfl).1
    simp only [Call.holds, Bool.or_eq_true, decide_eq_true_eq] at hj
    have hij := h.alone i j p (by simp [hi, Call.holds]) (by simp [hc, Call.holds]; omega)
    rw [hij, hc] at hi
    cases hi
  | _ =>
    rw [hc] at hj
    cases hj

theorem Drawn.resume (h : Drawn pool a t s) (hs : Sound pool s) (ha : a < pool.numPairs)
    (hroom : k ≤ (pool.freePairs s.foreign).card) (i : Fin k) :
    ∃ t', Drawn pool a t' (pool.resume s i) := by
  have hr := h.rounds i
  unfold SocketPool.resume
  split
  · rename_i hi
    exact absurd hi (h.not_exhausted ha hroom i)
  · rename_i left hi
    rw [hi] at hr
    exact ⟨t, h.set_of_none (by rw [hi]; rfl) nofun fun l hl => hr l hl⟩
  · rename_i left current hi
    rw [hi] at hr
    split
    · rename_i hcur
      subst hcur
      exact ⟨t + 1, h.draw hi⟩
    · exact ⟨t, h.set_of_none (by rw [hi]; rfl) nofun fun l hl => hr l hl⟩
  · rename_i left port hi
    rw [hi] at hr
    refine ⟨t, ?_⟩
    split
    · rename_i huse
      refine h.set nofun (fun l hl => hr l hl) fun j hj hp => .inr ?_
      rw [hi] at hp
      cases hp
      obtain ⟨l, hl⟩ := huse.resolve_left (Finset.mem_filter.mp hj).2.1
      refine ⟨l, ?_, hs.port_of_holds (hs.ports i _ (by rw [hi]; rfl)).1 hl⟩
      rintro rfl
      rw [hi] at hl
      cases hl
    · exact h.set nofun (fun l hl => hr l hl) fun j _ hp => .inl (by rw [hi] at hp; exact hp)
  · rename_i left port hi
    rw [hi] at hr
    refine ⟨t, ?_⟩
    split
    · rename_i huse
      refine h.set nofun (fun l hl => hr l hl) fun j hj hp => ?_
      rw [hi] at hp
      cases hp
      exact absurd huse (hs.rtcp_free hi (Finset.mem_filter.mp hj).2.2)
    · exact h.set nofun nofun fun j _ hp => .inl (by rw [hi] at hp; exact hp)
  · exact ⟨t, h⟩

/-- The next step of a call that nobody disturbs. -/
def advance (pool : SocketPool) (s : Sockets k) (i : Fin k) : Sockets k :=
  pool.step s (if s.calls i = .idle then .call i else .resume i)

theorem foreign_resume (s : Sockets k) (i : Fin k) : (pool.resume s i).foreign = s.foreign := by
  unfold SocketPool.resume
  repeat' split
  all_goals rfl

/-- While no more calls are made than there are free pairs, none of them runs out of rounds: in
every order of their steps, wherever the counter stands. -/
theorem allocation_never_exhausted (pool : SocketPool) (a : Nat) (foreign : List Nat)
    (ha : a < pool.numPairs) (hroom : k ≤ (pool.freePairs foreign).card)
    (schedule : List (Fin k)) (i : Fin k) :
    (schedule.foldl pool.advance ⟨pool.portAt a, fun _ => .idle, foreign⟩).calls i ≠ .failed := by
  suffices hrun : ∀ (s : Sockets k) (t : Nat), Sound pool s → s.foreign = foreign →
      Drawn pool a t s → (schedule.foldl pool.advance s).calls i ≠ .failed by
    refine hrun _ 0 ⟨isPort_portAt ha, nofun, nofun, nofun⟩ rfl ⟨?_, nofun, nofun, nofun⟩
    rintro j ⟨hj, hd⟩
    rw [show j = a by omega]
  induction schedule with
  | nil => exact fun s t _ _ h => h.alive i
  | cons c rest ih =>
    intro s t hs hf h
    obtain ⟨t', h', hf'⟩ : ∃ t', Drawn pool a t' (pool.advance s c) ∧
        (pool.advance s c).foreign = s.foreign := by
      unfold advance
      split
      · rename_i hi
        simp only [SocketPool.step, if_pos hi]
        refine ⟨t, h.set_of_none (by rw [hi]; rfl) nofun fun l hl => ?_, rfl⟩
        cases hl
        exact Nat.le_add_right _ _
      · obtain ⟨t', h'⟩ := h.resume hs ha (hf ▸ hroom) c
        exact ⟨t', h', foreign_resume s c⟩
    exact ih _ t' (hs.step _) (hf'.trans hf) h'

/-- Four pairs, one of them taken, and three calls that start on the last one. -/
theorem samplePool_suffices :
    ([0, 1, 2, 0, 1, 2, 0, 1, 2].foldl samplePool.advance
      ⟨10006, fun _ => .idle, [10003]⟩ : Sockets 3).calls 1 ≠ .failed :=
  allocation_never_exhausted samplePool 3 [10003] (by decide) (by decide) _ 1

end SocketPool
end RtpBridge.Net
