/-
Bounded FIFO channels whose slots can be reserved before they are used.
-/
import Mathlib.Data.List.Basic

namespace RtpBridge

structure Channel (M : Type) where
  capacity : Nat
  queue : List M
  permits : Nat

namespace Channel

variable {M : Type} {c d : Channel M} {m : M}

def opened (capacity : Nat) : Channel M := ⟨capacity, [], 0⟩

def HasRoom (c : Channel M) : Prop := c.queue.length + c.permits < c.capacity

instance (c : Channel M) : Decidable c.HasRoom := inferInstanceAs (Decidable (_ < _))

def reserve (c : Channel M) : Channel M := { c with permits := c.permits + 1 }

def release (c : Channel M) : Channel M := { c with permits := c.permits - 1 }

def send (c : Channel M) (m : M) : Channel M :=
  { c with queue := c.queue ++ [m], permits := c.permits - 1 }

def trySend (c : Channel M) (m : M) : Option (Channel M) :=
  if c.HasRoom then some { c with queue := c.queue ++ [m] } else none

def recv (c : Channel M) : Option (M × Channel M) :=
  match c.queue with
  | [] => none
  | m :: rest => some (m, { c with queue := rest })

@[simp] theorem queue_reserve (c : Channel M) : c.reserve.queue = c.queue := rfl

@[simp] theorem queue_release (c : Channel M) : c.release.queue = c.queue := rfl

theorem queue_of_trySend (h : c.trySend m = some d) : d.queue = c.queue ++ [m] := by
  unfold trySend at h
  split at h
  · cases h
    rfl
  · contradiction

theorem trySend_of_hasRoom (h : c.HasRoom) (m : M) :
    c.trySend m = some { c with queue := c.queue ++ [m] } := if_pos h

theorem queue_of_recv (h : c.recv = some (m, d)) : c.queue = m :: d.queue := by
  unfold recv at h
  split at h
  · contradiction
  rename_i first rest hq
  cases h
  exact hq

end Channel
end RtpBridge
