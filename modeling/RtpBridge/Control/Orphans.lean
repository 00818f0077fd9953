/-
Orphan timers and control connections.
-/
import RtpBridge.Control.Sessions

namespace RtpBridge.Control

open List Option AList Machine HashMap

variable {c : ConnectionId} {o : Outcome} {conn : Connection} {id : SessionId} {t : OrphanTimer}
  {outs : List Outcome}

/-! ## What a step does -/

def Stage.session? : Stage → Option SessionId
  | idle => none
  | spawned id => some id
  | created id => some id
  | attaching id => some id
  | removing id _ => some id

def Connection.Holds (conn : Connection) (id : SessionId) : Prop :=
  conn.sessionId = some id ∨ conn.stage.session? = some id

def Outcome.changes (id : SessionId) : Outcome → Bool
  | attached j => j = id
  | detached j _ => j = id
  | _ => false

namespace SessionManager

variable {cfg : ManagerConfig} {s s' : SessionManager}

structure Calm (s s' : SessionManager) : Prop where
  connections : ∀ c conn', s'.connections.lookup c = some conn' →
    (∀ id, ¬ conn'.Holds id) ∨ ∃ conn, s.connections.lookup c = some conn ∧
      (∀ id, conn'.Holds id → conn.Holds id) ∧
      ∀ id, conn'.stage = .spawned id → conn.stage = .spawned id
  sessions : ∀ id entry, s'.sessions.lookup id = some entry → s.sessions.lookup id = some entry
  timers : ∀ t ∈ s'.timers, ∃ u ∈ s.timers, t.id = u.id ∧ t.session = u.session ∧
    t.generation = u.generation
  next : s'.nextSession = s.nextSession

inductive Moves (s : SessionManager) : SessionManager → Outcome → Prop where
  | calm {s' : SessionManager} {o : Outcome} (h : Calm s s') (hq : ∀ id, o.changes id = false)
      (hep : ∀ id timer, o = .expired id timer → ∃ entry t,
        s.sessions.lookup id = some entry ∧ entry.state = .orphaned ∧ t ∈ s.timers ∧
        t.id = timer ∧ t.session = id ∧ entry.orphanGeneration = t.generation)
      (hr : ∀ id code, o = .refused id code → s' = s) : Moves s s' o
  | spawn {s' : SessionManager} {c : ConnectionId} {conn : Connection}
      (hc : s.connections.lookup c = some conn) (hst : conn.stage = .idle)
      (hf : conn.sessionId = none)
      (hco : s'.connections = s.connections.insert c { conn with stage := .spawned s.nextSession })
      (hs : s'.sessions = s.sessions) (ht : s'.timers = s.timers)
      (hn : s'.nextSession = s.nextSession + 1) : Moves s s' .nothing
  | enter {s' : SessionManager} {c : ConnectionId} {conn : Connection} {id : SessionId}
      (hc : s.connections.lookup c = some conn) (hst : conn.stage = .spawned id)
      (hco : s'.connections = s.connections.insert c { conn with stage := .created id })
      (hs : s'.sessions = s.sessions.insert id {}) (ht : s'.timers = s.timers)
      (hn : s'.nextSession = s.nextSession) : Moves s s' .nothing
  | attach {s' : SessionManager} {c : ConnectionId} {conn : Connection} {id : SessionId}
      {entry : Session} (hc : s.connections.lookup c = some conn) (hst : conn.stage = .idle)
      (hf : conn.sessionId = none) (he : s.sessions.lookup id = some entry)
      (ho : entry.state = .orphaned)
      (hco : s'.connections = s.connections.insert c { conn with sessionId := some id })
      (hs : s'.sessions = s.sessions.insert id ⟨.active, none, bump entry.orphanGeneration⟩)
      (ht : ∀ t ∈ s'.timers, t ∈ s.timers) (hn : s'.nextSession = s.nextSession) :
      Moves s s' (.attached id)
  | detach {s' : SessionManager} {c : ConnectionId} {conn : Connection} {id : SessionId}
      {entry : Session} {timer : Nat} (hc : s.connections.lookup c = some conn)
      (hb : conn.sessionId = some id) (he : s.sessions.lookup id = some entry)
      (hco : s'.connections = s.connections.erase c)
      (hs : s'.sessions = s.sessions.insert id ⟨.orphaned, some timer, bump entry.orphanGeneration⟩)
      (ht : ∀ t ∈ s'.timers, t ∈ s.timers ∨
        t.id = timer ∧ t.session = id ∧ t.generation = bump entry.orphanGeneration)
      (hn : s'.nextSession = s.nextSession) : Moves s s' (.detached id timer)

theorem Calm.refl (s : SessionManager) : Calm s s :=
  ⟨fun _ conn hc => .inr ⟨conn, hc, fun _ h => h, fun _ h => h⟩, fun _ _ h => h,
    fun t ht => ⟨t, ht, rfl, rfl, rfl⟩, rfl⟩

theorem Calm.moves (h : Calm s s') (ho : o = .nothing ∨ ∃ r, o = .response r) : Moves s s' o := by
  rcases ho with rfl | ⟨r, rfl⟩
  · exact .calm h (fun _ => rfl) (fun _ _ heq => by cases heq) (fun _ _ heq => by cases heq)
  · exact .calm h (fun _ => rfl) (fun _ _ heq => by cases heq) (fun _ _ heq => by cases heq)

theorem Moves.nothing (s : SessionManager) : Moves s s .nothing := (Calm.refl s).moves (.inl rfl)

theorem Calm.set (h : Calm s s') {conn' : Connection} (hc : s.connections.lookup c = some conn)
    (hh : ∀ id, conn'.Holds id → conn.Holds id) (hst : ∀ id, conn'.stage ≠ .spawned id) :
    Calm s (s'.setConnection c conn') where
  __ := h
  connections := by
    intro x x' hx
    by_cases hxc : x = c
    · subst hxc
      have hsame : some conn' = some x' := (lookup_insert _).symm.trans hx
      cases hsame
      exact .inr ⟨conn, hc, hh, fun id hid => (hst id hid).elim⟩
    · exact h.connections x x' ((lookup_insert_ne hxc).symm.trans hx)

theorem mem_abort {timer : Option Nat} (h : t ∈ (s.abort timer).timers) : t ∈ s.timers :=
  mem_of_mem_filter h

theorem calm_abort (timer : Option Nat) : Calm s (s.abort timer) :=
  ⟨(Calm.refl s).connections, fun _ _ h => h, fun t ht => ⟨t, mem_abort ht, rfl, rfl, rfl⟩, rfl⟩

theorem calm_erase (id : SessionId) : Calm s { s with sessions := s.sessions.erase id } :=
  ⟨(Calm.refl s).connections, fun _ _ h => (lookup_of_erase h).2, (Calm.refl s).timers, rfl⟩

theorem calm_close (c : ConnectionId) :
    Calm s { s with connections := s.connections.erase c } :=
  ⟨fun _ x' hx => .inr ⟨x', (lookup_of_erase hx).2, fun _ h => h, fun _ h => h⟩, fun _ _ h => h,
    (Calm.refl s).timers, rfl⟩

theorem holds_stage (h : conn.stage.session? = some id) {stage : Stage}
    (hst : stage.session? = none ∨ stage.session? = some id) (j : SessionId)
    (hj : ({ conn with stage := stage } : Connection).Holds j) : conn.Holds j := by
  rcases hj with hj | hj
  · exact .inl hj
  rcases hst with hn | hs
  · grind
  have hsame : stage.session? = some j := hj
  rw [hs] at hsame
  cases hsame
  exact .inr h

theorem moves_destroyFor {conn' : Connection} (hc : s.connections.lookup c = some conn)
    (hid : conn.Holds id) (hb : ∀ j, conn'.sessionId = some j → conn.sessionId = some j)
    (room : Bool) (error : Option String) (missing : String) :
    Moves s (s.destroyFor c conn' id room error missing).1
      (s.destroyFor c conn' id room error missing).2 := by
  have hi : ∀ j, ({ conn' with stage := .idle } : Connection).Holds j → conn.Holds j := by
    rintro j (hj | hj)
    · exact .inl (hb j hj)
    · cases hj
  unfold destroyFor destroySession
  cases s.sessions.lookup id with
  | none => exact ((Calm.refl s).set hc hi fun _ => Stage.noConfusion).moves (.inr ⟨_, rfl⟩)
  | some entry =>
    cases room with
    | true =>
      exact ((calm_abort entry.orphanTimeout).set hc hi fun _ => Stage.noConfusion).moves
        (.inr ⟨_, rfl⟩)
    | false =>
      refine ((Calm.refl s).set hc ?_ fun _ => Stage.noConfusion).moves (.inl rfl)
      rintro j (hj | hj)
      · exact .inl (hb j hj)
      · cases hj
        exact hid

theorem moves_fire (ht : t ∈ s.timers) : Moves s (s.fire t).1 (s.fire t).2 := by
  have hc : Calm s { s with timers := s.timers.filter fun u => u.id ≠ t.id } :=
    ⟨(Calm.refl s).connections, fun _ _ h => h,
      fun u hu => ⟨u, mem_of_mem_filter hu, rfl, rfl, rfl⟩, rfl⟩
  unfold fire
  dsimp only
  split
  · split
    · refine .calm ⟨hc.connections, fun _ _ h => (lookup_of_erase h).2, hc.timers, rfl⟩
        (fun _ => rfl) ?_ (fun _ _ heq => by cases heq)
      grind
    · exact hc.moves (.inl rfl)
  · exact hc.moves (.inl rfl)

section

variable (hc : s.connections.lookup c = some conn)
include hc

theorem moves_create (hst : conn.stage = .idle) :
    Moves s (s.handleCreate cfg c conn).1 (s.handleCreate cfg c conn).2 := by
  unfold handleCreate
  split
  · exact (Calm.refl s).moves (.inr ⟨_, rfl⟩)
  split
  · exact (Calm.refl s).moves (.inr ⟨_, rfl⟩)
  rename_i hfr
  have hn : conn.sessionId = none := not_isSome_iff_eq_none.mp hfr
  unfold createSession
  by_cases hf : 0 < cfg.maxSessions ∧ cfg.maxSessions ≤ s.sessionCount
  · rw [if_pos hf]
    exact (Calm.refl s).moves (.inr ⟨_, rfl⟩)
  · rw [if_neg hf]
    exact .spawn hc hst hn rfl rfl rfl rfl

theorem moves_attach (hst : conn.stage = .idle) (id : SessionId) (room : Bool) :
    Moves s (s.handleAttach c conn id room).1 (s.handleAttach c conn id room).2 := by
  have hr : ∀ code, Moves s s (.refused id code) := fun code =>
    .calm (Calm.refl s) (fun _ => rfl) (fun _ _ heq => by cases heq) fun _ _ _ => rfl
  unfold handleAttach
  split
  · exact (Calm.refl s).moves (.inr ⟨_, rfl⟩)
  rename_i hf
  have hn : conn.sessionId = none := not_isSome_iff_eq_none.mp hf
  unfold attachSession
  cases he : s.sessions.lookup id with
  | none => exact hr _
  | some entry =>
    dsimp only
    by_cases ho : entry.state = .orphaned
    · rw [if_neg fun hne => hne ho]
      cases room with
      | true =>
        exact .attach hc hst hn he ho rfl rfl (fun _ ht => mem_abort ht) rfl
      | false => exact hr _
    · rw [if_pos ho]
      exact hr _

theorem moves_close (now : Nat) :
    Moves s (s.handleClose cfg c conn now).1 (s.handleClose cfg c conn now).2 := by
  have hca := calm_close (s := s) c
  unfold handleClose
  cases hb : conn.sessionId with
  | none => exact hca.moves (.inl rfl)
  | some id =>
    unfold detachSession
    cases he : s.sessions.lookup id with
    | none =>
      dsimp only
      rw [he]
      exact hca.moves (.inl rfl)
    | some entry =>
      dsimp only
      rw [he]
      refine .detach hc hb he rfl rfl (fun t ht => ?_) rfl
      rcases mem_cons.mp ht with rfl | ht
      · exact .inr ⟨rfl, rfl, rfl⟩
      · exact .inl (mem_abort ht)

theorem moves_created (hst : conn.stage.session? = some id) :
    Moves s (s.handleCreated c conn id).1 (s.handleCreated c conn id).2 := by
  unfold handleCreated
  cases s.sessions.lookup id with
  | some entry =>
    have hca : Calm s (s.setConnection c { conn with stage := .attaching id }) :=
      (Calm.refl s).set hc (holds_stage hst (.inr rfl)) fun _ => Stage.noConfusion
    exact hca.moves (.inl rfl)
  | none =>
    have hca : Calm s (s.setConnection c { conn with stage := .idle }) :=
      (Calm.refl s).set hc (holds_stage hst (.inl rfl)) fun _ => Stage.noConfusion
    exact hca.moves (.inr ⟨_, rfl⟩)

theorem moves_proceed (sent : Sent) (room : Bool) :
    Moves s (s.proceed c conn sent room).1 (s.proceed c conn sent room).2 := by
  unfold proceed
  cases hst : conn.stage with
  | idle => exact .nothing s
  | spawned id => exact .enter hc hst rfl rfl rfl rfl
  | created id =>
    have hs : conn.stage.session? = some id := by
      rw [hst]
      rfl
    exact moves_created hc hs
  | attaching id =>
    have hs : conn.stage.session? = some id := by
      rw [hst]
      rfl
    cases sent with
    | accepted =>
      refine ((Calm.refl s).set hc ?_ fun _ => Stage.noConfusion).moves (.inr ⟨_, rfl⟩)
      rintro j (hj | hj)
      · cases hj
        exact .inr hs
      · cases hj
    | closed => exact moves_destroyFor hc (.inr hs) (fun _ h => h) room _ _
    | timedOut => exact moves_destroyFor hc (.inr hs) (fun _ h => h) room _ _
  | removing id error =>
    have hs : conn.stage.session? = some id := by
      rw [hst]
      rfl
    exact ((calm_erase id).set hc (holds_stage hs (.inl rfl))
      fun _ => Stage.noConfusion).moves (.inr ⟨_, rfl⟩)

end

theorem moves_onIdle {f : Connection → SessionManager × Outcome}
    (hf : ∀ conn, s.connections.lookup c = some conn → conn.stage = .idle →
      Moves s (f conn).1 (f conn).2) : Moves s (s.onIdle c f).1 (s.onIdle c f).2 := by
  unfold onIdle
  split
  · rename_i conn hc
    split
    · rename_i hst
      exact hf conn hc hst
    · exact .nothing s
  · exact .nothing s

theorem step_moves (cfg : ManagerConfig) (s : SessionManager) (ev : ManagerEvent) :
    Moves s (s.step cfg ev).1 (s.step cfg ev).2 := by
  cases ev with
  | connect c =>
    by_cases hold : c ∈ s.connections
    · have hsame : s.step cfg (.connect c) = (s, .nothing) := if_pos hold
      rw [hsame]
      exact .nothing s
    have hn : s.step cfg (.connect c) = (s.setConnection c {}, .nothing) := if_neg hold
    rw [hn]
    refine Calm.moves ?_ (.inl rfl)
    refine ⟨?_, fun _ _ h => h, (Calm.refl s).timers, rfl⟩
    intro x x' hx
    by_cases hxc : x = c
    · subst hxc
      have hsame : some ({} : Connection) = some x' := (lookup_insert _).symm.trans hx
      cases hsame
      left
      rintro id (hid | hid)
      · cases hid
      · cases hid
    · exact (Calm.refl s).connections x x' ((lookup_insert_ne hxc).symm.trans hx)
  | create c => exact moves_onIdle fun conn hc hst => moves_create hc hst
  | proceed c sent room =>
    unfold step
    dsimp only
    split
    · rename_i conn hc
      exact moves_proceed hc sent room
    · exact .nothing s
  | attach c id room => exact moves_onIdle fun conn hc hst => moves_attach hc hst id room
  | destroy c room =>
    refine moves_onIdle fun conn hc hst => ?_
    unfold handleDestroy
    cases hb : conn.sessionId with
    | none => exact (Calm.refl s).moves (.inr ⟨_, rfl⟩)
    | some id => exact moves_destroyFor hc (.inl hb) (fun _ h => by cases h) room _ _
  | close c now => exact moves_onIdle fun conn hc _ => moves_close hc now
  | taskExit id =>
    show Moves s (s.taskExit id) .nothing
    unfold taskExit
    split
    · refine Calm.moves ?_ (.inl rfl)
      exact ⟨(Calm.refl s).connections, fun _ _ h => (lookup_of_erase h).2,
        (Calm.refl s).timers, rfl⟩
    · exact .nothing s
  | wake timer now =>
    refine Calm.moves ?_ (.inl rfl)
    refine ⟨(Calm.refl s).connections, fun _ _ h => h, fun t ht => ?_, rfl⟩
    obtain ⟨u, hu, rfl⟩ := mem_map.mp ht
    grind
  | fire timer =>
    unfold step
    dsimp only
    split
    · rename_i t ht
      exact moves_fire (mem_of_find?_eq_some ht)
    · exact .nothing s
  | shutdown =>
    refine Calm.moves ?_ (.inl rfl)
    exact ⟨(Calm.refl s).connections, fun _ _ h => h, (Calm.refl s).timers, rfl⟩

/-! ## Who holds a session -/

structure Exclusive (s : SessionManager) : Prop where
  known : ∀ id entry, s.sessions.lookup id = some entry → id < s.nextSession
  fresh : ∀ c conn id, s.connections.lookup c = some conn → conn.Holds id → id < s.nextSession
  once : ∀ c conn c' conn' id, s.connections.lookup c = some conn →
    s.connections.lookup c' = some conn' → conn.Holds id → conn'.Holds id → c = c'
  active : ∀ c conn id entry, s.connections.lookup c = some conn → conn.Holds id →
    s.sessions.lookup id = some entry → entry.state = .active

theorem Exclusive.calm (h : Exclusive s) (hca : Calm s s') : Exclusive s' := by
  have hh : ∀ c conn' id, s'.connections.lookup c = some conn' → conn'.Holds id →
      ∃ conn, s.connections.lookup c = some conn ∧ conn.Holds id := by
    intro c conn' id hc hid
    rcases hca.connections c conn' hc with hn | ⟨conn, hc, hho, -⟩
    · exact (hn id hid).elim
    · exact ⟨conn, hc, hho id hid⟩
  refine ⟨fun id entry he => ?_, fun c conn' id hc hid => ?_,
    fun c conn c' conn' id hc hc' hid hid' => ?_, fun c conn' id entry hc hid he => ?_⟩
  · rw [hca.next]
    exact h.known id entry (hca.sessions id entry he)
  · obtain ⟨conn, hc, hid⟩ := hh c conn' id hc hid
    rw [hca.next]
    exact h.fresh c conn id hc hid
  · grind [h.once]
  · obtain ⟨conn, hc, hid⟩ := hh c conn' id hc hid
    exact h.active c conn id entry hc hid (hca.sessions id entry he)

theorem Exclusive.congr (h : Exclusive s) (hc : s'.connections = s.connections)
    (hs : s'.sessions = s.sessions) (hn : s'.nextSession = s.nextSession) : Exclusive s' := by
  refine ⟨?_, ?_, ?_, ?_⟩
  · rw [hs, hn]
    exact h.known
  · rw [hc, hn]
    exact h.fresh
  · rw [hc]
    exact h.once
  · rw [hc, hs]
    exact h.active

theorem Exclusive.raise (h : Exclusive s) :
    Exclusive { s with nextSession := s.nextSession + 1 } where
  __ := h
  known id entry he := Nat.lt_succ_of_lt (h.known id entry he)
  fresh c conn id hc hid := Nat.lt_succ_of_lt (h.fresh c conn id hc hid)

def Unheld (s : SessionManager) (id : SessionId) : Prop :=
  ∀ c conn, s.connections.lookup c = some conn → ¬conn.Holds id

variable {entry : Session}

theorem Exclusive.insert (h : Exclusive s) (hid : id < s.nextSession)
    (ha : entry.state = .active ∨ s.Unheld id) :
    Exclusive { s with sessions := s.sessions.insert id entry } where
  __ := h
  known j e he := by
    rcases lookup_insert_cases he with ⟨rfl, -⟩ | ⟨-, he⟩
    · exact hid
    · exact h.known j e he
  active c conn j e hc hj he := by
    rcases lookup_insert_cases he with ⟨rfl, rfl⟩ | ⟨-, he⟩
    · exact ha.resolve_right fun hn => hn c conn hc hj
    · exact h.active c conn j e hc hj he

/-- A connection may get hold of an active session that nobody holds. -/
theorem Exclusive.grant (h : Exclusive s) (hn : s.Unheld id) (hid : id < s.nextSession)
    (ha : ∀ entry, s.sessions.lookup id = some entry → entry.state = .active)
    (hh : ∀ j, conn.Holds j → j = id) : Exclusive (s.setConnection c conn) := by
  have hcases : ∀ x x' j, (s.setConnection c conn).connections.lookup x = some x' → x'.Holds j →
      x = c ∧ j = id ∨ s.connections.lookup x = some x' ∧ j ≠ id := by
    intro x x' j hx hj
    rcases lookup_insert_cases hx with ⟨rfl, rfl⟩ | ⟨-, hx⟩
    · exact .inl ⟨rfl, hh j hj⟩
    · exact .inr ⟨hx, fun heq => hn x x' hx (heq ▸ hj)⟩
  refine ⟨h.known, fun x x' j hx hj => ?_, fun x x' y y' j hx hy hxj hyj => ?_,
    fun x x' j entry hx hj he => ?_⟩
  · rcases hcases x x' j hx hj with ⟨-, rfl⟩ | ⟨hx, -⟩
    · exact hid
    · exact h.fresh x x' j hx hj
  · grind [h.once]
  · rcases hcases x x' j hx hj with ⟨-, rfl⟩ | ⟨hx, -⟩
    · exact ha entry he
    · exact h.active x x' j entry hx hj he

theorem Exclusive.moves (h : Exclusive s) (hm : Moves s s' o) : Exclusive s' := by
  cases hm with
  | calm hca _ _ _ => exact h.calm hca
  | @spawn c conn hc hst hf hco hs ht hn =>
    have hu : s.Unheld s.nextSession := fun x x' hx hid =>
      Nat.lt_irrefl _ (h.fresh x x' _ hx hid)
    refine (h.raise.grant hu (Nat.lt_succ_self _) (fun entry he => ?_) fun j hj => ?_).congr hco hs
      hn
    · exact (Nat.lt_irrefl _ (h.known _ entry he)).elim
    · rcases hj with hj | hj
      · rw [hf] at hj
        cases hj
      · exact (Option.some.inj hj).symm
  | @enter c conn id hc hst hco hs ht hn =>
    have hse : conn.stage.session? = some id := by
      rw [hst]
      rfl
    have hca : Calm s (s.setConnection c { conn with stage := .created id }) :=
      (Calm.refl s).set hc (holds_stage hse (.inr rfl)) fun _ => Stage.noConfusion
    exact ((h.calm hca).insert (h.fresh c conn id hc (.inr hse)) (.inl rfl)).congr hco hs hn
  | @attach c conn id entry hc hst hf hen ho hco hs ht hn =>
    -- Nobody holds a session that is orphaned.
    have hno : s.Unheld id := by
      intro x x' hx hid
      have ha := h.active x x' id entry hx hid hen
      rw [ho] at ha
      cases ha
    have hid := h.known id entry hen
    refine ((h.insert hid (.inl rfl)).grant hno hid (fun e he => ?_) fun j hj => ?_).congr hco hs hn
    · cases (lookup_insert _).symm.trans he
      rfl
    · rcases hj with hj | hj
      · exact (Option.some.inj hj).symm
      · rw [hst] at hj
        cases hj
  | @detach c conn id entry timer hc hb hen hco hs ht hn =>
    refine ((h.calm (calm_close c)).insert (h.known id entry hen) (.inr ?_)).congr hco hs hn
    intro x x' hx hid
    obtain ⟨hne, hx⟩ := lookup_of_erase hx
    exact hne (h.once x x' c conn id hx hc hid (.inl hb))

/-! ## Generations -/

def changes (id : SessionId) (outs : List Outcome) : Nat := outs.countP (Outcome.changes id)

theorem changes_append (id : SessionId) (before after : List Outcome) :
    changes id (before ++ after) = changes id before + changes id after :=
  countP_append

theorem changes_one (id : SessionId) (o : Outcome) :
    changes id [o] = if o.changes id then 1 else 0 := by
  simp [changes]

theorem bump_mod (n : Nat) : bump (n % 2 ^ 64) = (n + 1) % 2 ^ 64 := Nat.mod_add_mod n (2 ^ 64) 1

def Started (t : OrphanTimer) (outs : List Outcome) : Prop :=
  ∃ before after, outs = before ++ .detached t.session t.id :: after ∧
    t.generation = (changes t.session before + 1) % 2 ^ 64

theorem Started.append (h : Started t outs) (o : Outcome) : Started t (outs ++ [o]) := by
  obtain ⟨before, after, rfl, hg⟩ := h
  exact ⟨before, after ++ [o], append_assoc _ _ _, hg⟩

structure Recorded (s : SessionManager) (outs : List Outcome) : Prop where
  fresh : ∀ id, s.nextSession ≤ id → changes id outs = 0
  spawned : ∀ c conn id, s.connections.lookup c = some conn → conn.stage = .spawned id →
    changes id outs = 0
  generation : ∀ id entry, s.sessions.lookup id = some entry →
    entry.orphanGeneration = changes id outs % 2 ^ 64
  timers : ∀ t ∈ s.timers, Started t outs

theorem changes_quiet (ho : o.changes id = false) (outs : List Outcome) :
    changes id (outs ++ [o]) = changes id outs := by
  rw [changes_append, changes_one, ho]
  rfl

theorem changes_loud (ho : o.changes id = true) (outs : List Outcome) :
    changes id (outs ++ [o]) = changes id outs + 1 := by
  rw [changes_append, changes_one, ho]
  rfl

theorem Recorded.quiet (h : Recorded s outs) (hq : ∀ id, o.changes id = false)
    (hn : s.nextSession ≤ s'.nextSession)
    (hsp : ∀ c conn id, s'.connections.lookup c = some conn → conn.stage = .spawned id →
      changes id outs = 0)
    (hg : ∀ id entry, s'.sessions.lookup id = some entry →
      entry.orphanGeneration = changes id outs % 2 ^ 64)
    (ht : ∀ t ∈ s'.timers, Started t outs) : Recorded s' (outs ++ [o]) where
  fresh id hid := (changes_quiet (hq id) outs).trans (h.fresh id (Nat.le_trans hn hid))
  spawned c conn id hc hst := (changes_quiet (hq id) outs).trans (hsp c conn id hc hst)
  generation id entry he := by
    rw [changes_quiet (hq id)]
    exact hg id entry he
  timers t hm := (ht t hm).append o

theorem Recorded.change (h : Recorded s outs) (he : Exclusive s) {entry' : Session}
    (hen : s.sessions.lookup id = some entry) (hs : s'.sessions = s.sessions.insert id entry')
    (hg : entry'.orphanGeneration = bump entry.orphanGeneration) (hid : o.changes id = true)
    (ho : ∀ j, j ≠ id → o.changes j = false)
    (hsp : ∀ c conn j, s'.connections.lookup c = some conn → conn.stage = .spawned j →
      s.connections.lookup c = some conn ∧ j ≠ id)
    (ht : ∀ t ∈ s'.timers, Started t (outs ++ [o])) (hn : s'.nextSession = s.nextSession) :
    Recorded s' (outs ++ [o]) where
  fresh := by
    intro j hj
    rw [hn] at hj
    have hne : j ≠ id := by
      rintro rfl
      exact Nat.lt_irrefl _ (Nat.lt_of_lt_of_le (he.known j entry hen) hj)
    rw [changes_quiet (ho j hne)]
    exact h.fresh j hj
  spawned := by grind [changes_quiet, h.spawned]
  generation := by
    grind [lookup_insert_cases, h.generation, bump_mod, changes_loud, changes_quiet]
  timers := ht

theorem Recorded.moves (h : Recorded s outs) (hec : Exclusive s) (hm : Moves s s' o) :
    Recorded s' (outs ++ [o]) := by
  cases hm with
  | calm hca hq _ _ =>
    refine h.quiet hq (Nat.le_of_eq hca.next.symm) (fun c conn' id hc hst => ?_)
      (fun id entry he => h.generation id entry (hca.sessions id entry he)) fun t ht => ?_
    · rcases hca.connections c conn' hc with hno | ⟨conn, hc, -, hsp⟩
      · exact (hno id (.inr (by rw [hst]; rfl))).elim
      · exact h.spawned c conn id hc (hsp id hst)
    obtain ⟨u, hu, hid, hse, hg⟩ := hca.timers t ht
    have hsa := h.timers u hu
    unfold Started
    rw [hid, hse, hg]
    exact hsa
  | @spawn c conn hc hst hf hco hs hti hn =>
    refine h.quiet (fun _ => rfl) (by omega) (fun x x' id hx hsp => ?_) (hs ▸ h.generation)
      (hti ▸ h.timers)
    rw [hco] at hx
    rcases lookup_insert_cases hx with ⟨-, rfl⟩ | ⟨-, hx⟩
    · cases hsp
      exact h.fresh _ (Nat.le_refl _)
    · exact h.spawned x x' id hx hsp
  | @enter c conn id hc hst hco hs hti hn =>
    refine h.quiet (fun _ => rfl) (Nat.le_of_eq hn.symm) (fun x x' j hx hsp => ?_) ?_
      (hti ▸ h.timers)
    · rw [hco] at hx
      rcases lookup_insert_cases hx with ⟨-, rfl⟩ | ⟨-, hx⟩
      · cases hsp
      · exact h.spawned x x' j hx hsp
    · grind [lookup_insert_cases, h.spawned, h.generation]
  | @attach c conn id entry hc hst hf hen ho hco hs hti
      hn =>
      refine h.change hec hen hs rfl (decide_eq_true rfl)
        (fun j hne => decide_eq_false fun heq => hne heq.symm) (fun x x' j hx hsp => ?_)
        (fun t ht => (h.timers t (hti t ht)).append _) hn
      rw [hco] at hx
      rcases lookup_insert_cases hx with ⟨-, rfl⟩ | ⟨-, hold⟩
      · rw [hst] at hsp
        cases hsp
      refine ⟨hold, ?_⟩
      rintro rfl
      have ha := hec.active x x' j entry hold (.inr (by rw [hsp]; rfl)) hen
      rw [ho] at ha
      cases ha
  | @detach c conn id entry timer hc hb hen hco hs hti hn =>
    refine h.change hec hen hs rfl (decide_eq_true rfl)
      (fun j hne => decide_eq_false fun heq => hne heq.symm) (fun x x' j hx hsp => ?_)
      (fun t ht => ?_) hn
    · rw [hco] at hx
      have hne : x ≠ c := by
        rintro rfl
        rw [lookup_erase] at hx
        cases hx
      refine ⟨(lookup_of_erase hx).2, ?_⟩
      rintro rfl
      exact hne (hec.once x x' c conn j ((lookup_of_erase hx).2) hc
        (.inr (by rw [hsp]; rfl)) (.inl hb))
    · rcases hti t ht with ht | ⟨rfl, rfl, hg⟩
      · exact (h.timers t ht).append _
      · refine ⟨outs, [], rfl, ?_⟩
        rw [hg, h.generation t.session entry hen, bump_mod]

/-! ## Runs -/

def timer? (id : SessionId) : Outcome → Option Nat
  | .detached j timer => if j = id then some timer else none
  | _ => none

def latestDetach (id : SessionId) (outs : List Outcome) : Option Nat :=
  (outs.filterMap (timer? id)).getLast?

def outcomes (cfg : ManagerConfig) (events : List ManagerEvent) : List Outcome :=
  (trace (step cfg) {} events).map Prod.snd

theorem timer?_eq_none (h : o.changes id = false) : timer? id o = none := by
  cases o with
  | detached j timer => exact if_neg (of_decide_eq_false h)
  | nothing | response r | attached j | refused j code | expired j timer => rfl

theorem latestDetach_of_quiet {timer : Nat} (before : List Outcome) {after : List Outcome}
    (h : changes id after = 0) :
    latestDetach id (before ++ .detached id timer :: after) = some timer := by
  have ha : after.filterMap (timer? id) = [] := by
    rw [filterMap_eq_nil_iff]
    intro o ho
    have hq : ¬ o.changes id = true := countP_eq_zero.mp h o ho
    exact timer?_eq_none (Bool.eq_false_of_not_eq_true hq)
  grind [timer?, latestDetach]

theorem exclusive_empty : Exclusive {} where
  known := fun _ _ h => by cases h
  fresh := fun _ _ _ h => by cases h
  once := fun _ _ _ _ _ h => by cases h
  active := fun _ _ _ _ h => by cases h

theorem recorded_empty : Recorded {} [] where
  fresh := fun _ _ => rfl
  spawned := fun _ _ _ h => by cases h
  generation := fun _ _ h => by cases h
  timers := fun _ h => by cases h

theorem recorded_exec (cfg : ManagerConfig) (events : List ManagerEvent) :
    Exclusive (exec (step cfg) {} events) ∧
      Recorded (exec (step cfg) {} events) (outcomes cfg events) := by
  refine history_induction
    (P := fun tr s => Exclusive s ∧ Recorded s (tr.map Prod.snd))
    ⟨exclusive_empty, recorded_empty⟩ ?_ events
  intro tr s ev h
  rw [map_append]
  exact ⟨h.1.moves (step_moves cfg s ev), h.2.moves h.1 (step_moves cfg s ev)⟩

theorem Recorded.stale (h : Recorded s outs) (he : s.sessions.lookup t.session = some entry)
    (ht : t ∈ s.timers) (hg : entry.orphanGeneration = t.generation) :
    latestDetach t.session outs = some t.id ∨
      ∃ before after, outs = before ++ .detached t.session t.id :: after ∧
        2 ^ 64 ≤ changes t.session after := by
  obtain ⟨before, after, rfl, hsa⟩ := h.timers t ht
  have ho : changes t.session [.detached t.session t.id] = 1 := by
    rw [changes_one]
    exact if_pos (decide_eq_true rfl)
  have hc : changes t.session (before ++ .detached t.session t.id :: after) =
      changes t.session before + (1 + changes t.session after) := by
    rw [← singleton_append, changes_append, changes_append, ho]
  have hn := h.generation t.session entry he
  by_cases hq : changes t.session after = 0
  · exact .inl (latestDetach_of_quiet before hq)
  · refine .inr ⟨before, after, rfl, ?_⟩
    omega

/-- In every run: a timer destroys a session only if it is orphaned and the timer is that of its
latest detach, or 2 ^ 64 attaches and detaches of the session came after it; an attach
that is refused changes nothing; no two connections are bound to one session. -/
theorem orphan_timers_safe (cfg : ManagerConfig) (events : List ManagerEvent) :
    let s := exec (step cfg) {} events
    (∀ timer id entry, s.sessions.lookup id = some entry →
      (s.step cfg (.fire timer)).1.sessions.lookup id = none →
      entry.state = .orphaned ∧ (latestDetach id (outcomes cfg events) = some timer ∨
        ∃ before after, outcomes cfg events = before ++ .detached id timer :: after ∧
          2 ^ 64 ≤ changes id after)) ∧
    (∀ c id room code, (s.step cfg (.attach c id room)).2 = .refused id code →
      (s.step cfg (.attach c id room)).1 = s) ∧
    ∀ c conn c' conn' id, s.connections.lookup c = some conn →
      s.connections.lookup c' = some conn' → conn.sessionId = some id →
      conn'.sessionId = some id → c = c' := by
  intro s
  obtain ⟨hexclusive, hrecorded⟩ : Exclusive s ∧ Recorded s (outcomes cfg events) :=
    recorded_exec cfg events
  refine ⟨?_, ?_, ?_⟩
  · intro timer id entry hentry hgone
    unfold step at hgone
    dsimp only at hgone
    split at hgone
    · rename_i t hfind
      unfold fire at hgone
      dsimp only at hgone
      split at hgone
      · split at hgone
        · by_cases hsame : id = t.session
          · grind [hrecorded.stale]
          have hlookup : s.sessions.lookup id = none :=
            (lookup_erase_ne hsame).symm.trans hgone
          rw [hentry] at hlookup
          cases hlookup
        · exact (some_ne_none _ (hentry.symm.trans hgone)).elim
      · exact (some_ne_none _ (hentry.symm.trans hgone)).elim
    · exact (some_ne_none _ (hentry.symm.trans hgone)).elim
  · intro c id room code hrefused
    have hmove := step_moves cfg s (.attach c id room)
    rw [hrefused] at hmove
    cases hmove with
    | calm _ _ _ hsame => exact hsame id code rfl
  · intro c conn c' conn' id hc hc' hid hid'
    exact hexclusive.once c conn c' conn' id hc hc' (.inl hid) (.inl hid')

def sampleManager : ManagerConfig := { maxSessions := 0, disconnectTimeoutSecs := 0 }

def sampleOrphaned : List ManagerEvent :=
  [.connect 0, .create 0, .proceed 0 .accepted true, .proceed 0 .accepted true,
    .proceed 0 .accepted true, .close 0 0, .wake 0 0]

theorem orphan_timers_safe_orphaned :
    ((exec (step sampleManager) {} sampleOrphaned).step sampleManager
        (.fire 0)).1.sessions.lookup 0 = none ∧
      (latestDetach 0 (outcomes sampleManager sampleOrphaned) = some 0 ∨
        ∃ before after, outcomes sampleManager sampleOrphaned =
          before ++ .detached 0 0 :: after ∧ 2 ^ 64 ≤ changes 0 after) :=
  ⟨rfl, ((orphan_timers_safe sampleManager sampleOrphaned).1 0 0 ⟨.orphaned, some 0, 1⟩ rfl rfl).2⟩

/-! A timer that stays awake while the session changes hands 2 ^ 64 times finds its own
generation again. -/

def sampleCycle : List ManagerEvent := [.connect 0, .attach 0 0 true, .close 0 0]

def cycled (n generation : Nat) : SessionManager where
  sessions := (∅ : HashMap SessionId Session).insert 0 ⟨.orphaned, some (n + 1), generation⟩
  tasks := [0]
  sessionCount := 1
  timers := [⟨n + 1, 0, generation, 0, false⟩, ⟨0, 0, 1, 0, true⟩]
  nextSession := 1
  nextTimer := n + 2

def reattached (n generation : Nat) (timers : List OrphanTimer) : SessionManager where
  sessions := (∅ : HashMap SessionId Session).insert 0 ⟨.active, none, generation⟩
  tasks := [0]
  sessionCount := 1
  timers := timers
  connections := (∅ : HashMap ConnectionId Connection).insert 0 ⟨some 0, .idle⟩
  nextSession := 1
  nextTimer := n + 2

section

variable (n generation : Nat)

theorem step_attach : step sampleManager
        { cycled n generation with
          connections := (∅ : HashMap ConnectionId Connection).insert 0 {} }
        (.attach 0 0 true) =
      (reattached n (bump generation) [⟨0, 0, 1, 0, true⟩], .attached 0) :=
  congrArg (fun timers => (reattached n (bump generation) timers, Outcome.attached 0))
    (by simp [abort, cycled])

theorem step_close :
    step sampleManager (reattached n generation [⟨0, 0, 1, 0, true⟩]) (.close 0 0) =
      (cycled (n + 1) (bump generation), .detached 0 (n + 2)) :=
  rfl

theorem run_cycle : exec (step sampleManager) (cycled n generation) sampleCycle =
        cycled (n + 1) (bump (bump generation)) ∧
      (trace (step sampleManager) (cycled n generation) sampleCycle).map Prod.snd =
        [.nothing, .attached 0, .detached 0 (n + 2)] := by
  have hc : step sampleManager (cycled n generation) (.connect 0) = ({ cycled n generation with
        connections := (∅ : HashMap ConnectionId Connection).insert 0 {} }, .nothing) := rfl
  unfold sampleCycle
  simp only [exec_cons, exec_nil, trace_cons, trace_nil,
    hc, step_attach, step_close, map_cons, map_nil, and_self]

end

def sampleCycles (k : Nat) : List ManagerEvent := (List.replicate k sampleCycle).flatten

theorem sampleCycles_succ (k : Nat) : sampleCycles (k + 1) = sampleCycles k ++ sampleCycle := by
  unfold sampleCycles
  rw [replicate_succ', flatten_append, flatten_singleton]

theorem exec_cycles (k : Nat) : exec (step sampleManager) (cycled 0 3) (sampleCycles k) =
      cycled k ((3 + 2 * k) % 2 ^ 64) := by
  induction k with
  | zero => rfl
  | succ k ih =>
    rw [sampleCycles_succ, exec_append, ih, (run_cycle k _).1, bump_mod, bump_mod]
    congr 2

def sampleWrapped : List ManagerEvent := sampleOrphaned ++ sampleCycle ++ sampleCycles (2 ^ 63 - 1)

theorem exec_wrapped : exec (step sampleManager) {} sampleWrapped = cycled (2 ^ 63 - 1) 1 := by
  have hs : exec (step sampleManager) {} (sampleOrphaned ++ sampleCycle) = cycled 0 3 := rfl
  grind [sampleWrapped, exec_append, exec_cycles]

theorem latestDetach_wrapped :
    latestDetach 0 (outcomes sampleManager sampleWrapped) = some (2 ^ 63) := by
  have hs : sampleWrapped =
      (sampleOrphaned ++ sampleCycle ++ sampleCycles (2 ^ 63 - 2)) ++ sampleCycle := by
    have hl : 2 ^ 63 - 1 = 2 ^ 63 - 2 + 1 := by decide
    unfold sampleWrapped
    rw [hl, sampleCycles_succ, ← append_assoc]
  have hst : exec (step sampleManager) {} (sampleOrphaned ++ sampleCycle) = cycled 0 3 := rfl
  have hc : ([.nothing, .attached 0, .detached 0 (2 ^ 63 - 2 + 2)] : List Outcome) =
      [.nothing, .attached 0] ++ .detached 0 (2 ^ 63) :: [] := rfl
  unfold outcomes
  rw [hs, trace_append, map_append, exec_append, hst, exec_cycles,
    (run_cycle _ _).2, hc, ← append_assoc]
  exact latestDetach_of_quiet _ rfl

/-- A timer that belongs to an earlier detach destroys the session. -/
theorem stale_timer_expires :
    (exec (step sampleManager) {} sampleWrapped).sessions.lookup 0 ≠ none ∧
      ((exec (step sampleManager) {} sampleWrapped).step sampleManager
        (.fire 0)).1.sessions.lookup 0 = none ∧
      latestDetach 0 (outcomes sampleManager sampleWrapped) ≠ some 0 := by
  rw [exec_wrapped, latestDetach_wrapped]
  refine ⟨some_ne_none _, ?_, ?_⟩
  · rfl
  · decide

end SessionManager

end RtpBridge.Control
