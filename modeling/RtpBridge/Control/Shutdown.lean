/-
The drain before the server stops: `shutdown.rs`, the check of `session.create` and the
start and end of sessions, with every atomic access as a step of its own.

`live` and `started` are the sessions that run and all that ever did; the program keeps
their number only.  A session ends when the guard of its task is dropped; a task aborted
before its first poll has not built its guard, and `abortUnpolled` is that end.
-/
import Mathlib.Data.List.Basic

namespace RtpBridge.Shutdown

open List

/-- A call of `wait_for_drain`; the flag says whether its waiter was notified. -/
inductive Waiter where
  | registering
  | checking (notified : Bool)
  | waiting (notified : Bool)
  | returned
deriving DecidableEq

def Waiter.notify : Waiter → Waiter
  | checking _ => checking true
  | waiting _ => waiting true
  | w => w

structure ShutdownCoordinator where
  shuttingDown : Bool := false
  activeSessions : Nat := 0
  /-- Ends that saw the count reach zero and have not notified the waiters yet. -/
  notifying : Nat := 0
  /-- Requests behind the check of `session.create` that have not started their session. -/
  creating : Nat := 0
  waiters : Nat → Waiter := fun _ => .registering
  live : List Nat := []
  started : List Nat := []
  unguarded : Nat := 0

inductive Access where
  | isShuttingDown
  | refuse
  | sessionStarted (session : Nat)
  | sessionEnded (session : Nat)
  | abortUnpolled (session : Nat)
  | notifyWaiters
  | initiateShutdown
  | enable (waiter : Nat)
  | activeSessionCount (waiter : Nat)
  | wake (waiter : Nat)

namespace ShutdownCoordinator

variable {s : ShutdownCoordinator}

def setWaiter (s : ShutdownCoordinator) (w : Nat) (waiter : Waiter) : ShutdownCoordinator :=
  { s with waiters := Function.update s.waiters w waiter }

def step (s : ShutdownCoordinator) : Access → ShutdownCoordinator
  | .isShuttingDown => if s.shuttingDown then s else { s with creating := s.creating + 1 }
  | .refuse => { s with creating := s.creating - 1 }
  | .sessionStarted session =>
    if s.creating = 0 then s
    else
      { s with
        creating := s.creating - 1
        activeSessions := s.activeSessions + 1
        live := session :: s.live
        started := session :: s.started }
  | .sessionEnded session =>
    if session ∈ s.live then
      { s with
        activeSessions := s.activeSessions - 1
        notifying := if s.activeSessions = 1 then s.notifying + 1 else s.notifying
        live := s.live.erase session }
    else s
  | .abortUnpolled session =>
    if session ∈ s.live then
      { s with live := s.live.erase session, unguarded := s.unguarded + 1 }
    else s
  | .notifyWaiters =>
    if s.notifying = 0 then s
    else { s with notifying := s.notifying - 1, waiters := fun w => (s.waiters w).notify }
  | .initiateShutdown => { s with shuttingDown := true }
  | .enable w => if s.waiters w = .registering then s.setWaiter w (.checking false) else s
  | .activeSessionCount w =>
    match s.waiters w with
    | .checking notified =>
      s.setWaiter w (if s.activeSessions = 0 then .returned else .waiting notified)
    | _ => s
  | .wake w => if s.waiters w = .waiting true then s.setWaiter w .registering else s

structure Counted (s : ShutdownCoordinator) : Prop where
  count : s.activeSessions = s.live.length + s.unguarded
  awaited : ∀ w, s.waiters w = .waiting false → s.activeSessions ≠ 0 ∨ 0 < s.notifying

theorem Counted.setWaiter (h : Counted s) {w : Nat} {waiter : Waiter}
    (hw : waiter = .waiting false → s.activeSessions ≠ 0) : Counted (s.setWaiter w waiter) := by
  refine ⟨h.count, fun v hv => ?_⟩
  change Function.update s.waiters w waiter v = _ at hv
  by_cases heq : v = w
  · rw [heq, Function.update_self] at hv
    exact .inl (hw hv)
  · rw [Function.update_of_ne heq] at hv
    exact h.awaited v hv

theorem Counted.step (h : Counted s) (access : Access) : Counted (s.step access) := by
  cases access with
  | isShuttingDown =>
    rw [ShutdownCoordinator.step]
    split
    · exact h
    · exact ⟨h.count, h.awaited⟩
  | refuse => exact ⟨h.count, h.awaited⟩
  | sessionStarted session =>
    rw [ShutdownCoordinator.step]
    split
    · exact h
    · refine ⟨?_, fun _ _ => .inl (Nat.succ_ne_zero _)⟩
      show s.activeSessions + 1 = (session :: s.live).length + s.unguarded
      rw [h.count, length_cons]
      omega
  | sessionEnded session =>
    rw [ShutdownCoordinator.step]
    split
    · rename_i hl
      have hc := h.count
      have hp := length_pos_of_mem hl
      refine ⟨?_, fun w hw => ?_⟩
      · show s.activeSessions - 1 = (s.live.erase session).length + s.unguarded
        rw [length_erase_of_mem hl, hc]
        omega
      · dsimp only
        have := h.awaited w hw
        split <;> omega
    · exact h
  | abortUnpolled session =>
    rw [ShutdownCoordinator.step]
    split
    · rename_i hl
      have hp := length_pos_of_mem hl
      refine ⟨?_, h.awaited⟩
      show s.activeSessions = (s.live.erase session).length + (s.unguarded + 1)
      rw [h.count, length_erase_of_mem hl]
      omega
    · exact h
  | notifyWaiters =>
    rw [ShutdownCoordinator.step]
    split
    · exact h
    · refine ⟨h.count, fun w hw => ?_⟩
      cases hv : s.waiters w <;> simp [hv, Waiter.notify] at hw
  | initiateShutdown => exact ⟨h.count, h.awaited⟩
  | enable w =>
    rw [ShutdownCoordinator.step]
    split
    · exact h.setWaiter nofun
    · exact h
  | activeSessionCount w =>
    rw [ShutdownCoordinator.step]
    split
    · refine h.setWaiter fun hw h0 => ?_
      rw [if_pos h0] at hw
      cases hw
    · exact h
  | wake w =>
    rw [ShutdownCoordinator.step]
    split
    · exact h.setWaiter nofun
    · exact h

theorem started_step (hd : s.shuttingDown = true) (hc : s.creating = 0) (access : Access) :
    (s.step access).shuttingDown = true ∧ (s.step access).creating = 0 ∧
      (s.step access).started = s.started := by
  cases access <;> simp only [step, setWaiter] <;> repeat' split
  all_goals simp_all

theorem unguarded_foldl {accesses : List Access}
    (hg : ∀ session, Access.abortUnpolled session ∉ accesses) :
    (accesses.foldl step s).unguarded = s.unguarded := by
  induction accesses generalizing s with
  | nil => rfl
  | cons access rest ih =>
    have hs : (s.step access).unguarded = s.unguarded := by
      cases access <;> simp only [step, setWaiter] <;> repeat' split
      all_goals first | rfl | exact absurd mem_cons_self (hg _)
    rw [foldl_cons, ih fun session h => hg session (mem_cons_of_mem _ h), hs]

/-- The count is that of the live sessions and of those aborted before their first poll, and a
waiter is not left behind when it reaches zero.  Once the shutdown has begun, no session
starts any more exactly if no request is past its check. -/
theorem drain_sound (accesses : List Access) :
    let s := accesses.foldl step {}
    (s.activeSessions = s.live.length + s.unguarded ∧
      ((∀ session, Access.abortUnpolled session ∉ accesses) →
        s.activeSessions = s.live.length)) ∧
    (∀ w, s.waiters w = .waiting false → s.activeSessions = 0 → 0 < s.notifying ∧
      ([.notifyWaiters, .wake w, .enable w, .activeSessionCount w].foldl step s).waiters w =
        .returned) ∧
    (s.shuttingDown = true →
      (s.creating = 0 ↔ ∀ later : List Access, (later.foldl step s).started = s.started)) := by
  intro s
  have hrun : ∀ s, Counted s → Counted (accesses.foldl step s) := by
    induction accesses with
    | nil => exact fun s h => h
    | cons access rest ih => exact fun s h => ih _ (h.step access)
  have h : Counted s := hrun {} ⟨rfl, nofun⟩
  refine ⟨⟨h.count, fun hg => ?_⟩, fun w hw h0 => ?_,
    fun hd => ⟨fun hc later => ?_, fun hs => ?_⟩⟩
  · rw [h.count, show s.unguarded = 0 from unguarded_foldl hg, Nat.add_zero]
  · have hn : 0 < s.notifying := (h.awaited w hw).resolve_left (not_not_intro h0)
    refine ⟨hn, ?_⟩
    simp [step, setWaiter, Nat.ne_of_gt hn, hw, Waiter.notify, h0]
  · clear_value s
    induction later generalizing s with
    | nil => rfl
    | cons access later ih =>
      obtain ⟨hd', hc', hs⟩ := started_step hd hc access
      rw [foldl_cons, ih _ (h.step access) hd' hc', hs]
  · -- a request that is past its check can still start a session
    by_contra hc
    have hl := congrArg length (hs [.sessionStarted 0])
    simp [step, hc] at hl

def sampleDrained : ShutdownCoordinator :=
  [Access.isShuttingDown, .initiateShutdown, .enable 0, .activeSessionCount 0].foldl step {}

/-- The request passed its check before the shutdown began and starts its session after the
drain. -/
theorem session_outlives_drain :
    sampleDrained.shuttingDown = true ∧ sampleDrained.waiters 0 = .returned ∧
      sampleDrained.live = [] ∧ (sampleDrained.step (.sessionStarted 1)).live = [1] := by
  decide

end ShutdownCoordinator
end RtpBridge.Shutdown
