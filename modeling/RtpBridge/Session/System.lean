/-
Sessions, their command queues and the requests that span two of them.

Every session task takes one command at a time from a bounded FIFO queue.  A
transfer is run by a coordinator that reserves queue slots, sends prepare to the
source and commit to the target, and whose guard sends finish to the source in
the end.  A bridge request inserts an endpoint on each side, one after the other.
The system takes one step at a time: a coordinator or a request moves on, a
deadline passes, a reply is lost, somebody gives up, or a session task handles
the command at the head of its queue.  Between taking a command and answering it
a session reads the flags of a slot once and shows its changes to nobody, so one
command is one step.
-/
import RtpBridge.Base.Channel
import RtpBridge.Session.State

namespace RtpBridge.Session

inductive Command
  | detach
  | destroy
  | removeEndpoint (id : EndpointId) (reply : Option Nat)
  | prepareTransfer (slot : Nat) (id : EndpointId)
  | commitTransfer (slot : Nat)
  | finishTransfer (slot : Nat) (id : EndpointId)
  | getPacketTx (reply : Nat)
  | insertBridgeEndpoint (reply : Nat) (bridge : BridgeEndpoint)
deriving DecidableEq

structure Task where
  state : SessionState
  commands : Channel Command

inductive Reply (α : Type)
  | pending
  | sent (value : α)
  | lost

/-- A reply whose receiver is gone, or that was answered before, changes nothing. -/
def Reply.send {α : Type} : Reply α → α → Reply α
  | .pending, value => .sent value
  | reply, _ => reply

/-! ## The coordinator of a transfer -/

/-- Where the coordinator waits.  In the first three phases it waits for a slot;
`refused` is a transfer that ended there, before its task was spawned. -/
inductive Phase
  | reserveFinish
  | reserveExtract
  | reserveInsert
  | refused
  | spawned
  | preparing
  | committing
  | done
deriving DecidableEq

/-- A call of `transfer`.  The last three fields record what has happened on its
behalf: its commit inserted the endpoint, its finish put the endpoint back, its
finish was handled. -/
structure Transfer where
  source : SessionId
  target : SessionId
  endpointId : EndpointId
  phase : Phase
  slot : TransferState := {}
  prepared : Reply (Except String Unit) := .pending
  commitment : Reply (Except String Unit) := .pending
  caller : Bool := true
  result : Option (Except String Unit) := none
  inserted : Bool := false
  restored : Bool := false
  finished : Bool := false

inductive Action
  | reserve (session : SessionId)
  | release (session : SessionId)
  | send (session : SessionId) (command : Command)

def Action.sentTo (j : SessionId) : Action → List Command
  | .send session command => if session = j then [command] else []
  | _ => []

namespace Transfer

/-- The permits that are dropped when the coordinator ends now.  The one for
finish is used by the guard once the task runs. -/
def unused (op : Transfer) : List Action :=
  match op.phase with
  | .reserveExtract => [.release op.source]
  | .reserveInsert => [.release op.source, .release op.source]
  | .spawned => [.release op.source, .release op.target]
  | .preparing => [.release op.target]
  | _ => []

def refuse (op : Transfer) (result : Option (Except String Unit)) : Transfer × List Action :=
  ({ op with phase := .refused, result }, op.unused)

def leave (op : Transfer) (i : Nat) (result : Option (Except String Unit)) :
    Transfer × List Action :=
  ({ op with
      phase := .done
      slot := { op.slot with cancelled := !op.slot.committed }
      result := if op.caller then result else none },
    op.unused ++ [.send op.source (.finishTransfer i op.endpointId)])

def settle (op : Transfer) (i : Nat) (error : String) : Transfer × List Action :=
  if op.slot.committed then op.leave i (some (.ok ())) else op.leave i (some (.error error))

def granted (_ : Nat) (op : Transfer) : Transfer × List Action :=
  match op.phase with
  | .reserveFinish => ({ op with phase := .reserveExtract }, [.reserve op.source])
  | .reserveExtract => ({ op with phase := .reserveInsert }, [.reserve op.source])
  | .reserveInsert => ({ op with phase := .spawned }, [.reserve op.target])
  | _ => (op, [])

def closed (_ : Nat) (op : Transfer) : Transfer × List Action :=
  match op.phase with
  | .reserveFinish | .reserveExtract | .reserveInsert =>
    op.refuse (some (.error "channel closed"))
  | _ => (op, [])

def awaited (op : Transfer) : Option SessionId :=
  match op.phase with
  | .reserveFinish | .reserveExtract => some op.source
  | .reserveInsert => some op.target
  | _ => none

def expire (i : Nat) (op : Transfer) : Transfer × List Action :=
  match op.phase with
  | .reserveFinish | .reserveExtract | .reserveInsert =>
    op.refuse (some (.error "TRANSFER_BUSY"))
  | .preparing => op.leave i (some (.error "TRANSFER_TIMEOUT"))
  | .committing => op.settle i "TRANSFER_TIMEOUT"
  | .refused | .spawned | .done => (op, [])

def poll (i : Nat) (op : Transfer) : Transfer × List Action :=
  match op.phase with
  | .spawned =>
    ({ op with phase := .preparing }, [.send op.source (.prepareTransfer i op.endpointId)])
  | .preparing =>
    match op.prepared with
    | .pending => (op, [])
    | .sent (.ok ()) =>
      ({ op with phase := .committing }, [.send op.target (.commitTransfer i)])
    | .sent (.error e) => op.leave i (some (.error e))
    | .lost => op.leave i (some (.error "channel closed"))
  | .committing =>
    match op.commitment with
    | .pending => (op, [])
    | .sent (.ok ()) => op.settle i "TRANSFER_FAILED"
    | .sent (.error e) => op.settle i e
    | .lost => op.settle i "channel closed"
  | _ => (op, [])

def loseReply (_ : Nat) (op : Transfer) : Transfer × List Action :=
  match op.phase with
  | .preparing => ({ op with prepared := .lost }, [])
  | .committing => ({ op with commitment := .lost }, [])
  | _ => (op, [])

def cancel (_ : Nat) (op : Transfer) : Transfer × List Action :=
  match op.phase with
  | .reserveFinish | .reserveExtract | .reserveInsert => op.refuse none
  | _ => ({ op with caller := false }, [])

/-- The spawned task itself is dropped.  Nothing does this while its caller
waits, so no result is returned. -/
def abort (i : Nat) (op : Transfer) : Transfer × List Action :=
  match op.phase with
  | .spawned | .preparing | .committing => op.leave i none
  | _ => (op, [])

end Transfer

/-! ## A bridge request -/

inductive BridgeStage
  | getSource
  | getTarget
  | insertSource
  | insertTarget
  | rollback
deriving DecidableEq

/-- A call of `session.bridge`.  `sent` says whether the command of its stage is
out and the reply awaited; the two endpoints exist from `insertSource` on. -/
structure BridgeRequest where
  source : SessionId
  target : SessionId
  stage : BridgeStage := .getSource
  sent : Bool := false
  reply : Reply (Except String SessionId) := .pending
  sourcePacketTx : SessionId := 0
  bridgeA : BridgeEndpoint := ⟨0, 0, 0, 0, 0⟩
  bridgeB : BridgeEndpoint := ⟨0, 0, 0, 0, 0⟩
  error : String := ""
  result : Option (Except String (EndpointId × EndpointId)) := none

namespace BridgeRequest

def command (j : Nat) (req : BridgeRequest) : SessionId × Command :=
  match req.stage with
  | .getSource => (req.source, .getPacketTx j)
  | .getTarget => (req.target, .getPacketTx j)
  | .insertSource => (req.source, .insertBridgeEndpoint j req.bridgeA)
  | .insertTarget => (req.target, .insertBridgeEndpoint j req.bridgeB)
  | .rollback => (req.source, .removeEndpoint req.bridgeA.id (some j))

def fail (req : BridgeRequest) (code : String) : BridgeRequest :=
  match req.stage with
  | .rollback => { req with result := some (.error req.error) }
  | _ => { req with result := some (.error code) }

/-- Go on with the reply to the command of the stage.  `a` and `b` are the random
ids that the endpoints get. -/
def answered (req : BridgeRequest) (a b : EndpointId) :
    Except String SessionId → BridgeRequest
  | .error e =>
    match req.stage with
    | .insertTarget =>
      { req with stage := .rollback, sent := false, reply := .pending, error := e }
    | .rollback => { req with result := some (.error req.error) }
    | _ => { req with result := some (.error e) }
  | .ok value =>
    match req.stage with
    | .getSource =>
      { req with
        stage := .getTarget, sent := false, reply := .pending, sourcePacketTx := value }
    | .getTarget =>
      { req with
        stage := .insertSource, sent := false, reply := .pending
        bridgeA := ⟨a, value, b, req.target, req.target⟩
        bridgeB := ⟨b, req.sourcePacketTx, a, req.source, req.source⟩ }
    | .insertSource => { req with stage := .insertTarget, sent := false, reply := .pending }
    | .insertTarget => { req with result := some (.ok (req.bridgeA.id, req.bridgeB.id)) }
    | .rollback => { req with result := some (.error req.error) }

end BridgeRequest

/-! ## The system -/

structure System where
  sessions : HashMap SessionId Task
  transfers : List Transfer := []
  bridges : List BridgeRequest := []

namespace System

def task (s : System) (sid : SessionId) : Option Task := s.sessions.lookup sid

def setTask (s : System) (sid : SessionId) (t : Task) : System :=
  { s with sessions := s.sessions.insert sid t }

def dropTask (s : System) (sid : SessionId) : System :=
  { s with sessions := s.sessions.erase sid }

def onChannel (s : System) (sid : SessionId) (f : Channel Command → Channel Command) : System :=
  match s.task sid with
  | none => s
  | some t => s.setTask sid { t with commands := f t.commands }

def perform (s : System) : Action → System
  | .reserve sid => s.onChannel sid Channel.reserve
  | .release sid => s.onChannel sid Channel.release
  | .send sid command => s.onChannel sid fun c => c.send command

def trySend (s : System) (sid : SessionId) (command : Command) : System :=
  s.onChannel sid fun c => (c.trySend command).getD c

def coordinate (s : System) (i : Nat) (f : Nat → Transfer → Transfer × List Action) : System :=
  match s.transfers[i]? with
  | none => s
  | some op =>
    (f i op).2.foldl perform { s with transfers := s.transfers.set i (f i op).1 }

def setTransfer (s : System) (i : Nat) (op : Transfer) : System :=
  { s with transfers := s.transfers.set i op }

def setBridge (s : System) (j : Nat) (req : BridgeRequest) : System :=
  { s with bridges := s.bridges.set j req }

def answer (s : System) (j : Nat) (value : Except String SessionId) : System :=
  match s.bridges[j]? with
  | none => s
  | some req => s.setBridge j { req with reply := req.reply.send value }

def admitted (s : System) : Nat :=
  s.transfers.countP fun op => op.phase ≠ .refused ∧ op.phase ≠ .done

def startTransfer (s : System) (source target : SessionId) (id : EndpointId) : System :=
  if source = target ∨ (s.task target).isNone then s
  else if s.admitted < 64 then
    { s with transfers := s.transfers ++
      [{ source, target, endpointId := id, phase := .reserveFinish }] }
  else
    { s with transfers := s.transfers ++
      [{ source, target, endpointId := id, phase := .refused
         result := some (.error "TRANSFER_BUSY") }] }

def reserveSlot (s : System) (i : Nat) : System :=
  match s.transfers[i]? with
  | none => s
  | some op =>
    match op.awaited with
    | none => s
    | some sid =>
      match s.task sid with
      | none => s.coordinate i Transfer.closed
      | some t => if t.commands.HasRoom then s.coordinate i Transfer.granted else s

def handleCommand (s : System) (sid : SessionId) (t : Task) : Command → System
  | .detach => s.setTask sid t
  | .destroy => s.dropTask sid
  | .removeEndpoint id reply =>
    let out := t.state.handleRemoveEndpoint id
    let s := s.setTask sid { t with state := out.1 }
    let s :=
      match out.2.1 with
      | some (peer, paired) => s.trySend peer (.removeEndpoint paired none)
      | none => s
    match reply with
    | some j => s.answer j (out.2.2.map fun _ => 0)
    | none => s
  | .prepareTransfer i id =>
    match s.transfers[i]? with
    | none => s.setTask sid t
    | some op =>
      let out := t.state.prepareTransfer op.slot id
      (s.setTask sid { t with state := out.1 }).setTransfer i
        { op with slot := out.2.1, prepared := op.prepared.send out.2.2 }
  | .commitTransfer i =>
    match s.transfers[i]? with
    | none => s.setTask sid t
    | some op =>
      let out := t.state.commitTransfer op.slot
      (s.setTask sid { t with state := out.1 }).setTransfer i
        { op with
          slot := out.2.1
          commitment := op.commitment.send out.2.2
          inserted := op.inserted || out.2.2.isOk }
  | .finishTransfer i id =>
    match s.transfers[i]? with
    | none => s.setTask sid t
    | some op =>
      let out := t.state.finishTransfer op.slot id
      (s.setTask sid { t with state := out.1 }).setTransfer i
        { op with
          slot := out.2.1, restored := op.restored || out.2.2, finished := true }
  | .getPacketTx j => (s.setTask sid t).answer j (.ok sid)
  | .insertBridgeEndpoint j bridge =>
    let out := t.state.handleInsertBridgeEndpoint bridge
    (s.setTask sid { t with state := out.1 }).answer j out.2

def process (s : System) (sid : SessionId) : System :=
  match s.task sid with
  | none => s
  | some t =>
    match t.commands.recv with
    | none => s
    | some (command, commands) => s.handleCommand sid { t with commands } command

end System

/-! ## Events -/

/-- What can happen while endpoints are transferred: calls of `transfer`, their
progress, and the session tasks at work.  `detach` stands for the commands that
touch no endpoint. -/
inductive TransferEvent
  | start (source target : SessionId) (id : EndpointId)
  | reserve (i : Nat)
  | expire (i : Nat)
  | poll (i : Nat)
  | loseReply (i : Nat)
  | cancel (i : Nat)
  | abort (i : Nat)
  | detach (sid : SessionId)
  | process (sid : SessionId)

inductive Event
  | transfer (ev : TransferEvent)
  | bridge (source target : SessionId)
  | bridgeSend (j : Nat)
  | bridgeReply (j : Nat) (a b : EndpointId)
  | bridgeTimeout (j : Nat)
  | remove (sid : SessionId) (id : EndpointId)
  | destroy (sid : SessionId)

namespace System

def onTransfer (s : System) : TransferEvent → System
  | .start source target id => s.startTransfer source target id
  | .reserve i => s.reserveSlot i
  | .expire i => s.coordinate i Transfer.expire
  | .poll i => s.coordinate i Transfer.poll
  | .loseReply i => s.coordinate i Transfer.loseReply
  | .cancel i => s.coordinate i Transfer.cancel
  | .abort i => s.coordinate i Transfer.abort
  | .detach sid => s.trySend sid .detach
  | .process sid => s.process sid

def startBridge (s : System) (source target : SessionId) : System :=
  if source = target ∨ (s.task target).isNone then s
  else { s with bridges := s.bridges ++ [{ source, target }] }

def bridgeSend (s : System) (j : Nat) : System :=
  match s.bridges[j]? with
  | none => s
  | some req =>
    if req.result.isSome ∨ req.sent then s
    else
      match s.task (req.command j).1 with
      | none => s.setBridge j (req.fail "SESSION_GONE")
      | some t =>
        if t.commands.HasRoom then
          (s.trySend (req.command j).1 (req.command j).2).setBridge j { req with sent := true }
        else s

def bridgeReply (s : System) (j : Nat) (a b : EndpointId) : System :=
  match s.bridges[j]? with
  | none => s
  | some req =>
    if req.result.isSome ∨ !req.sent then s
    else
      match req.reply with
      | .sent value => s.setBridge j (req.answered a b value)
      | .lost => s.setBridge j (req.fail "SESSION_GONE")
      | .pending =>
        if (s.task (req.command j).1).isNone then s.setBridge j (req.fail "SESSION_GONE")
        else s

def bridgeTimeout (s : System) (j : Nat) : System :=
  match s.bridges[j]? with
  | none => s
  | some req =>
    if req.result.isSome then s else s.setBridge j (req.fail "SESSION_UNRESPONSIVE")

def destroySession (s : System) (sid : SessionId) : System :=
  match s.task sid with
  | none => s
  | some t => if t.commands.HasRoom then s.trySend sid .destroy else s.dropTask sid

def onEvent (s : System) : Event → System
  | .transfer ev => s.onTransfer ev
  | .bridge source target => s.startBridge source target
  | .bridgeSend j => s.bridgeSend j
  | .bridgeReply j a b => s.bridgeReply j a b
  | .bridgeTimeout j => s.bridgeTimeout j
  | .remove sid id => s.trySend sid (.removeEndpoint id none)
  | .destroy sid => s.destroySession sid

def transferStep (s : System) (ev : TransferEvent) : System × Unit := (s.onTransfer ev, ())

def step (s : System) (ev : Event) : System × Unit := (s.onEvent ev, ())

/-! ## Endpoints and queues

The proofs look at a session through the endpoints it owns and the commands that
wait for it. -/

def state (s : System) (sid : SessionId) : Option SessionState := (s.task sid).map Task.state

def queue (s : System) (sid : SessionId) : List Command :=
  ((s.task sid).map fun t => t.commands.queue).getD []

theorem state_of_task {s : System} {sid : SessionId} {t : Task} (h : s.task sid = some t) :
    s.state sid = some t.state := by
  rw [state, h]
  rfl

theorem queue_of_task {s : System} {sid : SessionId} {t : Task} (h : s.task sid = some t) :
    s.queue sid = t.commands.queue := by
  rw [queue, h]
  rfl

theorem task_setTask (s : System) (sid : SessionId) (t : Task) (j : SessionId) :
    (s.setTask sid t).task j = if j = sid then some t else s.task j := by
  split
  · rename_i hj
    subst hj
    exact AList.lookup_insert s.sessions
  · rename_i hj
    exact AList.lookup_insert_ne hj

theorem task_dropTask (s : System) (sid j : SessionId) :
    (s.dropTask sid).task j = if j = sid then none else s.task j := by
  split
  · rename_i hj
    subst hj
    exact AList.lookup_erase j s.sessions
  · rename_i hj
    exact AList.lookup_erase_ne hj

section

variable (s : System) (sid : SessionId)

theorem task_onChannel (f : Channel Command → Channel Command)
    (j : SessionId) :
    (s.onChannel sid f).task j =
      if j = sid then (s.task j).map fun t => { t with commands := f t.commands }
      else s.task j := by
  unfold onChannel
  grind [task_setTask]

theorem state_setTask (t : Task) (j : SessionId) :
    (s.setTask sid t).state j = if j = sid then some t.state else s.state j := by
  unfold state
  rw [task_setTask]
  split <;> rfl

theorem queue_setTask (t : Task) (j : SessionId) :
    (s.setTask sid t).queue j = if j = sid then t.commands.queue else s.queue j := by
  unfold queue
  rw [task_setTask]
  split <;> rfl

end

section OnChannel

variable (s : System) (sid : SessionId) (f : Channel Command → Channel Command)

@[simp] theorem transfers_onChannel : (s.onChannel sid f).transfers = s.transfers := by
  unfold onChannel
  split <;> rfl

@[simp] theorem bridges_onChannel : (s.onChannel sid f).bridges = s.bridges := by
  unfold onChannel
  split <;> rfl

@[simp] theorem state_onChannel (j : SessionId) : (s.onChannel sid f).state j = s.state j := by
  unfold state
  rw [task_onChannel]
  split
  · cases s.task j with
    | none => rfl
    | some t => rfl
  · rfl

theorem queue_onChannel (j : SessionId) :
    (s.onChannel sid f).queue j =
      if j = sid then ((s.task j).map fun t => (f t.commands).queue).getD [] else s.queue j := by
  unfold queue
  rw [task_onChannel]
  split
  · cases s.task j with
    | none => rfl
    | some t => rfl
  · rfl

end OnChannel

section

variable (s : System) (sid : SessionId) (command : Command)

theorem queue_trySend (j : SessionId) :
    (s.trySend sid command).queue j = s.queue j ∨
      j = sid ∧ (s.trySend sid command).queue j = s.queue j ++ [command] := by
  unfold trySend
  rw [queue_onChannel]
  by_cases hj : j = sid
  · rw [if_pos hj, queue]
    cases s.task j with
    | none => exact .inl rfl
    | some t =>
      cases hs : t.commands.trySend command with
      | none => exact .inl (by simp [hs])
      | some c => exact .inr ⟨hj, by simp [hs, Channel.queue_of_trySend hs]⟩
  · rw [if_neg hj]
    exact .inl rfl

@[simp] theorem state_trySend (j : SessionId) : (s.trySend sid command).state j = s.state j :=
  state_onChannel s sid _ j

@[simp] theorem transfers_trySend :
    (s.trySend sid command).transfers = s.transfers :=
  transfers_onChannel s sid _

end

/-! ### Actions of a coordinator -/

theorem perform_cases (s : System) (a : Action) : ∃ sid f, s.perform a = s.onChannel sid f := by
  cases a with
  | reserve sid => exact ⟨sid, Channel.reserve, rfl⟩
  | release sid => exact ⟨sid, Channel.release, rfl⟩
  | send sid command => exact ⟨sid, fun c => c.send command, rfl⟩

theorem queue_perform (s : System) (a : Action) (j : SessionId) :
    (s.perform a).queue j = s.queue j ++ if (s.state j).isSome then a.sentTo j else [] := by
  have hk : ∀ sid (f : Channel Command → Channel Command), (∀ c, (f c).queue = c.queue) →
      (s.onChannel sid f).queue j = s.queue j := by
    intro sid f hf
    rw [queue_onChannel]
    split
    · simp [queue, hf]
    · rfl
  cases a with
  | reserve sid =>
    rw [perform, hk _ _ Channel.queue_reserve]
    simp [Action.sentTo]
  | release sid =>
    rw [perform, hk _ _ Channel.queue_release]
    simp [Action.sentTo]
  | send sid command =>
    rw [perform, queue_onChannel, Action.sentTo]
    by_cases hj : j = sid
    · rw [if_pos hj, if_pos hj.symm, queue, state]
      cases s.task j with
      | none => rfl
      | some t => rfl
    · rw [if_neg hj, if_neg (Ne.symm hj)]
      simp

section Performed

variable (actions : List Action) (s : System)

theorem state_performed (j : SessionId) : (actions.foldl perform s).state j = s.state j := by
  induction actions generalizing s with
  | nil => rfl
  | cons a rest ih =>
    obtain ⟨sid, f, ha⟩ := s.perform_cases a
    rw [List.foldl_cons, ih, ha, state_onChannel]

theorem queue_performed (j : SessionId) :
    (actions.foldl perform s).queue j =
      s.queue j ++ if (s.state j).isSome then actions.flatMap (Action.sentTo j) else [] := by
  induction actions generalizing s with
  | nil => simp
  | cons a rest ih =>
    obtain ⟨sid, f, ha⟩ := s.perform_cases a
    grind [queue_perform, state_onChannel, List.append_assoc]

theorem transfers_performed : (actions.foldl perform s).transfers = s.transfers := by
  induction actions generalizing s with
  | nil => rfl
  | cons a rest ih =>
    obtain ⟨sid, f, ha⟩ := s.perform_cases a
    rw [List.foldl_cons, ih, ha, transfers_onChannel]

end Performed

end System
end RtpBridge.Session
