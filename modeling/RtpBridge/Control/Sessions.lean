/-
The session manager of `session/mod.rs` and the control connections of `control/handler.rs`
and `control/connection.rs`, as threads see them.

A step is one block under the lock of the session map, or what a connection, a session task
or an orphan timer does between two such blocks.  `abort` stops a timer that sleeps; one
that is awake already goes on to its look at the map.

Session ids are random; here they are counted, as are the timers.  Whether the command
channel of a session has room is an input.
-/
import RtpBridge.Base.HashMap
import RtpBridge.Base.Machine
import Mathlib.Algebra.Order.Group.Nat

namespace RtpBridge.Control

abbrev SessionId := Nat

abbrev ConnectionId := Nat

inductive SessionState where
  | active
  | orphaned
deriving DecidableEq

structure Session where
  state : SessionState := .active
  orphanTimeout : Option Nat := none
  orphanGeneration : Nat := 0

structure OrphanTimer where
  id : Nat
  session : SessionId
  generation : Nat
  deadline : Nat
  awake : Bool := false

inductive Stage where
  | idle
  /-- `create_session`: the task runs, its entry is not in the map yet. -/
  | spawned (id : SessionId)
  /-- `create_session` has returned. -/
  | created (id : SessionId)
  | attaching (id : SessionId)
  /-- `destroy_session`, between its two looks at the map; the answer comes after it. -/
  | removing (id : SessionId) (error : Option String)
deriving DecidableEq

structure Connection where
  sessionId : Option SessionId := none
  stage : Stage := .idle

structure ManagerConfig where
  maxSessions : Nat
  disconnectTimeoutSecs : Nat

structure SessionManager where
  sessions : HashMap SessionId Session := ∅
  tasks : List SessionId := []
  sessionCount : Nat := 0
  timers : List OrphanTimer := []
  connections : HashMap ConnectionId Connection := ∅
  shuttingDown : Bool := false
  nextSession : Nat := 0
  nextTimer : Nat := 0

inductive Sent where
  | accepted
  | closed
  | timedOut

inductive Outcome where
  | nothing
  | response (result : Except String Unit)
  | attached (id : SessionId)
  | refused (id : SessionId) (code : String)
  | detached (id : SessionId) (timer : Nat)
  | expired (id : SessionId) (timer : Nat)

/-- `u64::wrapping_add(1)`. -/
def bump (generation : Nat) : Nat := (generation + 1) % 2 ^ 64

namespace SessionManager

/-! ## The manager -/

/-- `JoinHandle::abort` on a timer. -/
def abort (s : SessionManager) (timer : Option Nat) : SessionManager :=
  { s with timers := s.timers.filter fun t => t.awake || some t.id ≠ timer }

def createSession (cfg : ManagerConfig) (s : SessionManager) :
    SessionManager × Except String SessionId :=
  if 0 < cfg.maxSessions ∧ cfg.maxSessions ≤ s.sessionCount then (s, .error "MAX_SESSIONS_REACHED")
  else
    ({ s with
      sessionCount := s.sessionCount + 1
      tasks := s.nextSession :: s.tasks
      nextSession := s.nextSession + 1 }, .ok s.nextSession)

def insertSession (s : SessionManager) (id : SessionId) : SessionManager :=
  { s with sessions := s.sessions.insert id {} }

def taskExit (s : SessionManager) (id : SessionId) : SessionManager :=
  if id ∈ s.tasks then
    { s with
      tasks := s.tasks.erase id
      sessions := s.sessions.erase id
      sessionCount := s.sessionCount - 1 }
  else s

def attachSession (s : SessionManager) (id : SessionId) (room : Bool) :
    SessionManager × Except String Unit :=
  match s.sessions.lookup id with
  | none => (s, .error "SESSION_NOT_FOUND")
  | some entry =>
    if entry.state ≠ .orphaned then (s, .error "SESSION_NOT_ORPHANED")
    else if room then
      let entry' : Session := ⟨.active, none, bump entry.orphanGeneration⟩
      ({ s with sessions := s.sessions.insert id entry' }.abort entry.orphanTimeout, .ok ())
    else (s, .error "SESSION_BUSY")

def detachSession (cfg : ManagerConfig) (s : SessionManager) (id : SessionId) (now : Nat) :
    SessionManager × Option Nat :=
  match s.sessions.lookup id with
  | none => (s, none)
  | some entry =>
    let generation := bump entry.orphanGeneration
    let timer : OrphanTimer :=
      { id := s.nextTimer
        session := id
        generation := generation
        deadline := now + cfg.disconnectTimeoutSecs }
    let s' := { s with
      sessions := s.sessions.insert id ⟨.orphaned, some s.nextTimer, generation⟩
      nextTimer := s.nextTimer + 1 }.abort entry.orphanTimeout
    ({ s' with timers := timer :: s'.timers }, some s.nextTimer)

inductive Destroyed where
  | notFound
  | asked
  | forced

def destroySession (s : SessionManager) (id : SessionId) (room : Bool) :
    SessionManager × Destroyed :=
  match s.sessions.lookup id with
  | none => (s, .notFound)
  | some entry => if room then (s.abort entry.orphanTimeout, .asked) else (s, .forced)

/-- `remove_if` of an orphan timer, whose task ends with it. -/
def fire (s : SessionManager) (timer : OrphanTimer) : SessionManager × Outcome :=
  let s := { s with timers := s.timers.filter fun t => t.id ≠ timer.id }
  match s.sessions.lookup timer.session with
  | some entry =>
    if entry.state = .orphaned ∧ entry.orphanGeneration = timer.generation then
      ({ s with sessions := s.sessions.erase timer.session }, .expired timer.session timer.id)
    else (s, .nothing)
  | none => (s, .nothing)

/-! ## Connections -/

def setConnection (s : SessionManager) (c : ConnectionId) (conn : Connection) : SessionManager :=
  { s with connections := s.connections.insert c conn }

def handleCreate (cfg : ManagerConfig) (s : SessionManager) (c : ConnectionId)
    (conn : Connection) : SessionManager × Outcome :=
  if s.shuttingDown then (s, .response (.error "SHUTTING_DOWN"))
  else if conn.sessionId.isSome then (s, .response (.error "SESSION_ALREADY_BOUND"))
  else
    match s.createSession cfg with
    | (s, .ok id) => (s.setConnection c { conn with stage := .spawned id }, .nothing)
    | (s, .error code) => (s, .response (.error code))

def handleCreated (s : SessionManager) (c : ConnectionId) (conn : Connection) (id : SessionId) :
    SessionManager × Outcome :=
  match s.sessions.lookup id with
  | some _ => (s.setConnection c { conn with stage := .attaching id }, .nothing)
  | none => (s.setConnection c { conn with stage := .idle }, .response (.error "SESSION_GONE"))

def reply (error : Option String) : Outcome := .response (error.elim (.ok ()) .error)

def destroyFor (s : SessionManager) (c : ConnectionId) (conn : Connection) (id : SessionId)
    (room : Bool) (error : Option String) (missing : String) : SessionManager × Outcome :=
  match s.destroySession id room with
  | (s, .notFound) => (s.setConnection c { conn with stage := .idle }, .response (.error missing))
  | (s, .asked) => (s.setConnection c { conn with stage := .idle }, reply error)
  | (s, .forced) => (s.setConnection c { conn with stage := .removing id error }, .nothing)

def handleAttaching (s : SessionManager) (c : ConnectionId) (conn : Connection) (id : SessionId)
    (sent : Sent) (room : Bool) : SessionManager × Outcome :=
  match sent with
  | .accepted =>
    (s.setConnection c { conn with sessionId := some id, stage := .idle }, .response (.ok ()))
  | .closed => s.destroyFor c conn id room (some "SESSION_GONE") "SESSION_GONE"
  | .timedOut => s.destroyFor c conn id room (some "SESSION_UNRESPONSIVE") "SESSION_UNRESPONSIVE"

def handleAttach (s : SessionManager) (c : ConnectionId) (conn : Connection) (id : SessionId)
    (room : Bool) : SessionManager × Outcome :=
  if conn.sessionId.isSome then (s, .response (.error "SESSION_ALREADY_BOUND"))
  else
    match s.attachSession id room with
    | (s, .ok ()) => (s.setConnection c { conn with sessionId := some id }, .attached id)
    | (s, .error code) => (s, .refused id code)

def handleDestroy (s : SessionManager) (c : ConnectionId) (conn : Connection) (room : Bool) :
    SessionManager × Outcome :=
  match conn.sessionId with
  | none => (s, .response (.error "NO_SESSION"))
  | some id =>
    s.destroyFor c { conn with sessionId := none } id room none "SESSION_NOT_FOUND"

def handleClose (cfg : ManagerConfig) (s : SessionManager) (c : ConnectionId) (conn : Connection)
    (now : Nat) : SessionManager × Outcome :=
  let s := { s with connections := s.connections.erase c }
  match conn.sessionId with
  | none => (s, .nothing)
  | some id =>
    match s.detachSession cfg id now with
    | (s, some timer) => (s, .detached id timer)
    | (s, none) => (s, .nothing)

/-! ## Steps -/

inductive ManagerEvent where
  | connect (c : ConnectionId)
  | create (c : ConnectionId)
  | proceed (c : ConnectionId) (sent : Sent) (room : Bool)
  | attach (c : ConnectionId) (id : SessionId) (room : Bool)
  | destroy (c : ConnectionId) (room : Bool)
  | close (c : ConnectionId) (now : Nat)
  | taskExit (id : SessionId)
  | wake (timer now : Nat)
  | fire (timer : Nat)
  | shutdown

def onIdle (s : SessionManager) (c : ConnectionId) (f : Connection → SessionManager × Outcome) :
    SessionManager × Outcome :=
  match s.connections.lookup c with
  | some conn => if conn.stage = .idle then f conn else (s, .nothing)
  | none => (s, .nothing)

def proceed (s : SessionManager) (c : ConnectionId) (conn : Connection) (sent : Sent)
    (room : Bool) : SessionManager × Outcome :=
  match conn.stage with
  | .idle => (s, .nothing)
  | .spawned id =>
    ((s.insertSession id).setConnection c { conn with stage := .created id }, .nothing)
  | .created id => s.handleCreated c conn id
  | .attaching id => s.handleAttaching c conn id sent room
  | .removing id error =>
    (({ s with sessions := s.sessions.erase id } : SessionManager).setConnection c
      { conn with stage := .idle }, reply error)

def step (cfg : ManagerConfig) (s : SessionManager) : ManagerEvent → SessionManager × Outcome
  | .connect c => if c ∈ s.connections then (s, .nothing) else (s.setConnection c {}, .nothing)
  | .create c => s.onIdle c (s.handleCreate cfg c)
  | .proceed c sent room =>
    match s.connections.lookup c with
    | some conn => s.proceed c conn sent room
    | none => (s, .nothing)
  | .attach c id room => s.onIdle c fun conn => s.handleAttach c conn id room
  | .destroy c room => s.onIdle c fun conn => s.handleDestroy c conn room
  | .close c now => s.onIdle c fun conn => s.handleClose cfg c conn now
  | .taskExit id => (s.taskExit id, .nothing)
  | .wake timer now =>
    ({ s with timers := s.timers.map fun t =>
        if t.id = timer ∧ (t.deadline ≤ now ∨ s.shuttingDown) then { t with awake := true }
        else t }, .nothing)
  | .fire timer =>
    match s.timers.find? fun t => t.id = timer && t.awake with
    | some t => s.fire t
    | none => (s, .nothing)
  | .shutdown => ({ s with shuttingDown := true }, .nothing)

end SessionManager

end RtpBridge.Control
