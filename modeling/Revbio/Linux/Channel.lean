/-
Revbio.Linux.Channel — channels between tasks (`linux/channel.rs`).

Both ends share one `SharedChannelData`, and everything they do with it
happens with its mutex held. A function here takes the data as it is when
the mutex is taken and returns it as it is when the mutex is released;
`mutexLock` and `mutexUnlock` stand where the source has them. Three
places give the mutex up in the middle, so they are functions of their
own:

* the `while` loop of `recv` and `recv_opt` releases the mutex in
  `mutex.wait()`. One `Turn` of the loop runs from the test up to the wait
  or to the end of the function, and the next turn starts from whatever
  the data is by then;
* `process_epoll_events` reads the eventfd before it takes the mutex
  (`readEventfd`, then `announce`);
* dropping a `Receiver` drops the `BlockingReceiver` inside it afterwards
  (`Receiver.drop`, then `BlockingReceiver.drop`).

`queue.clear()` in the destructor of a `BlockingReceiver` runs the
destructors of the messages with the mutex held. What they do is a
parameter (`Destructor`): a message can have Transmitters of its own
channel in it, and their destructors begin with a lock. A message that
`try_send` refuses is dropped after the unlock, so its destructor is not
part of the section.

The data is returned on a normal exit only. The one failure that is not a
failed system call, `recv` on a dead channel, comes before any write.
-/
import Revbio.Linux.EventQueueImpl

namespace Revbio

open CallTree

structure SharedChannelData (T : Type) where
  queue : List T
  portAlive : Bool
  nrSenders : Nat
  receiverNotified : Bool
  epollFd : Fd
  deriving DecidableEq, Repr

/-- The data `Channel::create_blocking` builds. -/
def Channel.createBlocking (T : Type) : SharedChannelData T :=
  { queue := []
    portAlive := true
    receiverNotified := false
    nrSenders := 1
    epollFd := -1 }

/-- Result of `try_recv`. -/
inductive TryRecvResult (T : Type) where
  | empty
  | disconnected
  | data (t : T)
  deriving DecidableEq, Repr

/-- One turn of `while queue.len() < 1 && nr_senders != 0 { mutex.wait() }`:
either it ended in the wait, or the function it is part of ran to its end. -/
inductive Turn (α : Type) where
  | wait
  | done (a : α)
  deriving DecidableEq, Repr

variable {T : Type}

/-- The destructor of a message, run while its channel has these data. -/
abbrev Destructor (T : Type) := SharedChannelData T → T → Io (SharedChannelData T)

/-- Of a message that owns no Transmitter of the channel it is in: nothing
that the channel would notice. Where a whole system is modelled, messages
are like that. -/
def Destructor.inert : Destructor T := fun d _ => return d

/-! ## `BlockingReceiver` -/

namespace BlockingReceiver

/-- A turn of the loop of `recv`, and what follows the loop. -/
def recvTurn (d : SharedChannelData T) : Io (Turn (T × SharedChannelData T)) := do
  if d.queue.length < 1 ∧ d.nrSenders ≠ 0 then
    let _ ← sys .mutexWait
    return .wait
  else
    match d.queue with
    | t :: rest =>
        let d := { d with queue := rest }
        let d := { d with receiverNotified := false }
        let _ ← sys .mutexUnlock
        return .done (t, d)
    | [] => -- Sender(s) dead
        let _ ← sys .mutexUnlock
        fail "Remote channels are dead"

def recv (d : SharedChannelData T) : Io (Turn (T × SharedChannelData T)) := do
  let _ ← sys .mutexLock
  recvTurn d

/-- A turn of the loop of `recv_opt`, and what follows the loop. -/
def recvOptTurn (d : SharedChannelData T) :
    Io (Turn (Option T × SharedChannelData T)) := do
  if d.queue.length < 1 ∧ d.nrSenders ≠ 0 then
    let _ ← sys .mutexWait
    return .wait
  else
    let (ret, d) := match d.queue with
      | t :: rest => (some t, { d with queue := rest })
      | [] => (none, d)
    let d := { d with receiverNotified := false }
    let _ ← sys .mutexUnlock
    return .done (ret, d)

def recvOpt (d : SharedChannelData T) : Io (Turn (Option T × SharedChannelData T)) := do
  let _ ← sys .mutexLock
  recvOptTurn d

def tryRecv (d : SharedChannelData T) : Io (TryRecvResult T × SharedChannelData T) := do
  let _ ← sys .mutexLock
  let (ret, d) := match d.queue with
    | t :: rest => (TryRecvResult.data t, { d with queue := rest })
    | [] => if d.nrSenders = 0 then (.disconnected, d) else (.empty, d)
  let d := { d with receiverNotified := false }
  let _ ← sys .mutexUnlock
  return (ret, d)

/-- `queue.clear()`: each message is destroyed where it is, and then the
queue is empty. -/
def clear (destroy : Destructor T) (d : SharedChannelData T) : Io (SharedChannelData T) := do
  let d ← d.queue.foldlM destroy d
  return { d with queue := [] }

def drop (destroy : Destructor T) (d : SharedChannelData T) : Io (SharedChannelData T) := do
  let _ ← sys .mutexLock
  let d := { d with portAlive := false }
  let d ← clear destroy d
  let _ ← sys .mutexUnlock
  return d

theorem clear_of_quiet {destroy : Destructor T} {d : SharedChannelData T}
    (h : ∀ t ∈ d.queue, ∀ d, destroy d t = .ret d) :
    clear destroy d = .ret { d with queue := [] } := by
  have hfold : ∀ (queue : List T) (d : SharedChannelData T),
      (∀ t ∈ queue, ∀ d, destroy d t = .ret d) → queue.foldlM destroy d = .ret d := by
    intro queue
    induction queue with
    | nil => exact fun _ _ => rfl
    | cons t rest ih =>
      intro d hall
      rw [List.foldlM_cons, hall t (List.mem_cons_self ..), Prog.ret_bind]
      exact ih d fun t ht => hall t (List.mem_cons_of_mem _ ht)
  rw [clear, hfold _ _ h]
  rfl

/-- Messages that do nothing when they go: the queue is simply empty. -/
theorem drop_of_quiet {destroy : Destructor T} {d : SharedChannelData T}
    (h : ∀ t ∈ d.queue, ∀ d, destroy d t = .ret d) :
    drop destroy d =
      .call (.once .mutexLock) fun _ => .call (.once .mutexUnlock) fun _ =>
        .ret { d with portAlive := false, queue := [] } := by
  have hclear := @clear_of_quiet T destroy { d with portAlive := false } h
  unfold drop
  simp only [hclear]
  rfl

theorem drop_inert (d : SharedChannelData T) :
    drop Destructor.inert d =
      .call (.once .mutexLock) fun _ => .call (.once .mutexUnlock) fun _ =>
        .ret { d with portAlive := false, queue := [] } :=
  drop_of_quiet fun _ _ _ => rfl

end BlockingReceiver

/-! ## `Transmitter` -/

namespace Transmitter

/-- The body of `if ... { // Signal to receiver }`, the same in `try_send`
and in the destructor. -/
def signalReceiver (d : SharedChannelData T) : Io (SharedChannelData T) := do
  -- Decide depending on port state what to do
  if d.epollFd = -1 then
    let _ ← sys .mutexSignal
    return { d with receiverNotified := true }
  else
    let ret : Int ← retry (.writeOne d.epollFd)
    if ret = -1 then
      let _ ← sys .mutexUnlock
      let err ← lastError
      fail ("Error on writing to eventfd: " ++ err.desc)
    else
      return { d with receiverNotified := true }

def trySend (d : SharedChannelData T) (t : T) : Io (Bool × SharedChannelData T) := do
  let _ ← sys .mutexLock
  if !d.portAlive then
    let _ ← sys .mutexUnlock
    return (false, d)
  else
    let d := { d with queue := d.queue ++ [t] }
    let d ← if d.queue.length = 1 ∧ !d.receiverNotified then signalReceiver d else pure d
    let _ ← sys .mutexUnlock
    return (true, d)

def send (d : SharedChannelData T) (t : T) : Io (SharedChannelData T) := do
  let (_, d) ← trySend d t
  return d

def drop (ws : WordSize) (d : SharedChannelData T) : Io (SharedChannelData T) := do
  let _ ← sys .mutexLock
  let d := { d with nrSenders := ws.uintSub d.nrSenders 1 }
  let d ← if d.nrSenders = 0 ∧ !d.receiverNotified then signalReceiver d else pure d
  let _ ← sys .mutexUnlock
  return d

/-- The destructors of `n` Transmitters, one after the other. -/
def dropAll (ws : WordSize) : Nat → SharedChannelData T → Io (SharedChannelData T)
  | 0, d => return d
  | n + 1, d => do
      let d ← drop ws d
      dropAll ws n d

def clone (d : SharedChannelData T) : Io (SharedChannelData T) := do
  let _ ← sys .mutexLock
  let d := { d with nrSenders := d.nrSenders + 1 }
  let _ ← sys .mutexUnlock
  return d

end Transmitter

/-- Of a message that has `owned t` Transmitters of its own channel in it. -/
def Destructor.transmitters (ws : WordSize) (owned : T → Nat) : Destructor T :=
  fun d t => Transmitter.dropAll ws (owned t) d

theorem Destructor.transmitters_none {ws : WordSize} {owned : T → Nat} {t : T}
    (h : owned t = 0) (d : SharedChannelData T) : transmitters ws owned d t = .ret d := by
  rw [transmitters, h]
  rfl

/-! ## `Receiver` -/

/-- A `Receiver` less the `BlockingReceiver` inside it, which is the handle
to the shared data. -/
structure Receiver where
  processFunc : Ptr
  eventSourceInfo : SourceId
  availableMessages : Nat
  deriving DecidableEq, Repr

instance : EventSource Receiver where
  getEventSourceInfo r := r.eventSourceInfo

namespace Receiver

def removePendingEvents (r : Receiver) (q : EventQueueImpl) : EventQueueImpl :=
  q.removePendingEvents fun ev => ev.originatesFrom r

def fromBlockingReceiver (this : Ptr) (info : SourceId) (d : SharedChannelData T)
    (q : EventQueueImpl) : Io (Receiver × SharedChannelData T × EventQueueImpl) := do
  let receiver : Receiver :=
    { processFunc := this, eventSourceInfo := info, availableMessages := 0 }
  let _ ← sys .mutexLock
  if d.nrSenders ≠ 0 then -- Don't need to do anything when there are 0 senders
    let fd : Int ← sys .eventfd
    if fd = -1 then
      let _ ← sys .mutexUnlock
      let err ← lastError
      fail ("Creating eventfd for port failed: " ++ err.desc)
    else
      let d := { d with epollFd := fd }
      q.registerFd fd EPOLLIN receiver.processFunc
      -- Check if there are messages available and if yes queue them
      if d.queue.length > 0 then
        let ret : Int ← retry (.writeOne fd)
        if ret = -1 then
          let _ ← sys .mutexUnlock
          let err ← lastError
          fail ("Error on writing to eventfd: " ++ err.desc)
        else
          let d := { d with receiverNotified := true }
          let _ ← sys .mutexUnlock
          return (receiver, d, q)
      else
        let _ ← sys .mutexUnlock
        return (receiver, d, q)
  else
    let q := q.pushBackEvent (Event.new .channelClosedEvent receiver.eventSourceInfo)
    let _ ← sys .mutexUnlock
    return (receiver, d, q)

/-- The rest of `Receiver::recv` after a turn of `BlockingReceiver::recv`. -/
def received (r : Receiver) :
    Turn (T × SharedChannelData T) → Turn (Option T × Receiver × SharedChannelData T)
  | .wait => .wait
  | .done (ret, d) =>
      .done (some ret, { r with availableMessages := r.availableMessages - 1 }, d)

def recv (r : Receiver) (d : SharedChannelData T) :
    Io (Turn (Option T × Receiver × SharedChannelData T)) := do
  if r.availableMessages > 0 then
    let turn ← BlockingReceiver.recv d
    return r.received turn
  else
    return .done (none, r, d)

/-- `Receiver::recv` after a wait: a further turn of the inner loop. -/
def recvTurn (r : Receiver) (d : SharedChannelData T) :
    Io (Turn (Option T × Receiver × SharedChannelData T)) := do
  let turn ← BlockingReceiver.recvTurn d
  return r.received turn

/-- First half of `process_epoll_events`: read the eventfd, without the
mutex. The second half runs only if this returns `true`. -/
def readEventfd (d : SharedChannelData T) (epollEvents : UInt32) : Io Bool := do
  if epollEvents &&& EPOLLIN ≠ 0 then
    let (ret, value) : Int × Nat ← retry (.readCounter d.epollFd)
    return decide (ret = 8 ∧ value = 1)
  else
    return false

/-- Second half of `process_epoll_events`: take the mutex and announce what
the queue holds. -/
def announce (ws : WordSize) (r : Receiver) (d : SharedChannelData T) (q : EventQueueImpl) :
    Io (Receiver × SharedChannelData T × EventQueueImpl) := do
  let _ ← sys .mutexLock
  let newMessages := ws.uintSub d.queue.length r.availableMessages
  let r := { r with availableMessages := r.availableMessages + d.queue.length }
  let q := (List.range newMessages).foldl
    (fun q _ => q.pushBackEvent (Event.new .channelMessageEvent r.eventSourceInfo)) q
  let q := if d.nrSenders = 0 then
      q.pushBackEvent (Event.new .channelClosedEvent r.eventSourceInfo)
    else q
  let d := { d with receiverNotified := false }
  let _ ← sys .mutexUnlock
  return (r, d, q)

/-- `Receiver`'s own destructor. -/
def drop (r : Receiver) (d : SharedChannelData T) (q : EventQueueImpl) :
    Io (SharedChannelData T × EventQueueImpl) := do
  let _ ← sys .mutexLock
  let d ← if d.epollFd ≠ -1 then do
      let _ ← sys (.close d.epollFd)
      pure { d with epollFd := -1 } -- Disable further events from clients
    else
      pure d
  let _ ← sys .mutexUnlock
  return (d, r.removePendingEvents q)

end Receiver

end Revbio
