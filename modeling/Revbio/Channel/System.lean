/-
Revbio.Channel.System — one channel with everybody who touches it, as a
labelled transition system.

The state is the shared data, the Transmitters alive, the receiving end
with the task that owns it, and what the kernel keeps for the channel (an
eventfd). An action is one critical section of one task, or one of the
places where the receiving task gives the mutex up in the middle of an
operation: a wait on the condition and the wake-ups from it, and the
callback between its read of the eventfd and its lock. Sections of
different tasks interleave freely. `step` is a function: all
non-determinism is in the choice of the action.

A section is one step. That it might as well be is not taken for granted:
`Revbio.Channel.InterleavingTheorems` goes through the sections access by
access, with a mutex that has an owner. The eventfd is what makes it worth a
proof: the callback reads it without the mutex, possibly while a sender that
has just written it still holds the mutex. What that sender does after the
write (set `receiver_notified`, unlock) does not touch the eventfd, so the
read might as well have come after the section.

Clearing the queue is quiet: the destructor of a `BlockingReceiver` that
meets a message with a Transmitter of the channel in it takes the mutex
twice (`Revbio.Channel.LockTheorems`) and never returns, so there is no step
for it.

The kernel behaves as documented and does not run out of anything: `eventfd`,
`epoll_ctl`, `read` and `write` succeed, a write adds 1, a read returns
the counter and resets it, and the callback runs only while the counter is
positive.
-/
import Revbio.Lib.Transition
import Revbio.Linux.Channel

namespace Revbio.Channel

open CallTree

/-! ## The kernel's side -/

/-- An open eventfd. -/
structure EventFd where
  fd : Fd
  counter : Nat
  deriving DecidableEq, Repr

/-- What the calls of a channel operation reach. -/
structure Kernel where
  /-- the eventfd of this channel, while it is open -/
  eventfd : Option EventFd
  /-- the number the next `eventfd()` hands out -/
  nextFd : Fd
  /-- `mutex.signal()` has been called -/
  signalled : Bool
  /-- a read, write or close has named a descriptor that is not the open
  eventfd of this channel -/
  stray : Bool
  deriving DecidableEq, Repr

namespace Kernel

def write (k : Kernel) (fd : Fd) : Kernel :=
  match k.eventfd with
  | some e =>
      if e.fd = fd then { k with eventfd := some { e with counter := e.counter + 1 } }
      else { k with stray := true }
  | none => { k with stray := true }

def read (k : Kernel) (fd : Fd) : Nat × Kernel :=
  match k.eventfd with
  | some e =>
      if e.fd = fd then (e.counter, { k with eventfd := some { e with counter := 0 } })
      else (0, { k with stray := true })
  | none => (0, { k with stray := true })

def close (k : Kernel) (fd : Fd) : Kernel :=
  match k.eventfd with
  | some e =>
      if e.fd = fd then { k with eventfd := none } else { k with stray := true }
  | none => { k with stray := true }

def syscall (k : Kernel) : (c : Syscall) → c.Ret × Kernel
  | .eventfd => (k.nextFd, { k with eventfd := some ⟨k.nextFd, 0⟩ })
  | .writeOne fd => ((8 : Int), k.write fd)
  | .readCounter fd => (((8 : Int), (k.read fd).1), (k.read fd).2)
  | .close fd => ((0 : Int), k.close fd)
  | .epollCtl .. => ((0 : Int), k)
  | .mutexSignal => ((), { k with signalled := true })
  | _ => (default, k)

def answer : (e : Call) → Kernel → e.Ret × Kernel
  | .once c, k => k.syscall c
  | .retry c, k => k.syscall c

end Kernel

/-! ## States -/

/-- Identity of a Transmitter. -/
abbrev TxId := Nat

/-- The function whose loop waits on the condition. -/
inductive BlockedIn where
  | recv
  | recvOpt
  | receiverRecv
  deriving DecidableEq, Repr

/-- Where the receiving task is, as far as the channel is concerned. -/
inductive Task where
  /-- not inside an operation -/
  | running
  /-- in `mutex.wait()`, with no signal delivered -/
  | waiting (b : BlockedIn)
  /-- woken in `mutex.wait()`, the mutex not yet taken again -/
  | woken (b : BlockedIn)
  /-- in the callback, the eventfd read and the mutex not yet taken -/
  | callback
  deriving DecidableEq, Repr

/-- A signal reaches a task only while it waits. -/
def Task.signal : Task → Task
  | .waiting b => .woken b
  | t => t

/-- The receiving end. -/
inductive Port where
  | blocking
  | attached (r : Receiver)
  /-- the destructor of the Receiver has run, that of the BlockingReceiver
  inside it has not -/
  | detached
  | dropped
  deriving DecidableEq, Repr

structure ChannelState (T : Type) where
  data : SharedChannelData T
  live : List TxId
  port : Port
  task : Task
  eventfd : Option EventFd
  stray : Bool
  events : EventQueueImpl
  deriving DecidableEq, Repr

variable {T : Type}

/-- The counter of the eventfd, 0 where there is none. -/
def ChannelState.counter (s : ChannelState T) : Nat :=
  match s.eventfd with
  | some e => e.counter
  | none => 0

theorem counter_of_some {s : ChannelState T} {e : EventFd} (he : s.eventfd = some e) :
    s.counter = e.counter := by
  simp only [ChannelState.counter, he]

/-- A channel as `Channel::create_blocking` returns it, with Transmitter
`0`, next to the event queue of the receiving task. -/
def initial (T : Type) (events : EventQueueImpl) : ChannelState T :=
  { data := createBlocking T
    live := [0]
    port := .blocking
    task := .running
    eventfd := none
    stray := false
    events }

/-! ## Actions -/

inductive Act (T : Type) where
  -- any task that holds a Transmitter
  | trySend (tx : TxId) (t : T)
  | clone (tx new : TxId)
  | dropTransmitter (tx : TxId)
  -- the receiving task, with a BlockingReceiver
  | recv
  | recvOpt
  | tryRecv
  | fromBlockingReceiver (this : Ptr) (info : SourceId) (fd : Fd)
  -- a wait on the condition: spurious wake-up, and taking the mutex again
  | spuriousWakeup
  | reacquire
  -- the receiving task, with a Receiver
  | receiverRecv
  | callbackRead
  | callbackLock
  | dropReceiver
  | dropBlockingReceiver
  /-- whatever else the receiving task does to its event queue: it takes
  events, and other sources push theirs and remove them -/
  | otherEvents (evs : List Event)
  deriving DecidableEq, Repr

/-- What a step shows. -/
inductive Out (T : Type) where
  | done
  | sent (accepted : Bool)
  | data (t : T)
  /-- `try_recv` returns `Empty` -/
  | empty
  /-- `Receiver::recv` returns `None` -/
  | noCredit
  /-- `recv_opt` returns `None`, `try_recv` returns `Disconnected` -/
  | ended
  | failed (msg : String)
  /-- the task went to wait on the condition -/
  | waits
  /-- the events pushed for this channel's Receiver -/
  | pushed (kinds : List EventKind)
  deriving DecidableEq, Repr

/-- An action together with what it showed. -/
structure Label (T : Type) where
  act : Act T
  out : Out T
  deriving DecidableEq, Repr

/-! ## Steps -/

/-- Run code of the crate in state `s`; a failure ends it there. -/
def ChannelState.exec {α : Type} (s : ChannelState T) (nextFd : Fd) (p : Io α)
    (k : α → ChannelState T → Out T × ChannelState T) : Out T × ChannelState T :=
  let r := p.run Kernel.answer ⟨s.eventfd, nextFd, false, s.stray⟩
  let s := { s with
    eventfd := r.2.eventfd
    stray := r.2.stray
    task := if r.2.signalled then s.task.signal else s.task }
  match r.1 with
  | .returned a => k a s
  | .failed msg => (.failed msg, s)

/-- The kinds of the events `s'` has queued behind those of `s`. -/
def pushedKinds (s : ChannelState T) (q : EventQueueImpl) : List EventKind :=
  (q.readyEvents.drop s.events.readyEvents.length).map Event.eventType

/-- After a turn of `recv`. -/
def endRecv : Turn (T × SharedChannelData T) → ChannelState T → Out T × ChannelState T
  | .wait, s => (.waits, { s with task := .waiting .recv })
  | .done (t, data), s => (.data t, { s with data })

/-- After a turn of `recv_opt`. -/
def endRecvOpt :
    Turn (Option T × SharedChannelData T) → ChannelState T → Out T × ChannelState T
  | .wait, s => (.waits, { s with task := .waiting .recvOpt })
  | .done (some t, data), s => (.data t, { s with data })
  | .done (none, data), s => (.ended, { s with data })

/-- After a turn of `Receiver::recv`. -/
def endReceiverRecv :
    Turn (Option T × Receiver × SharedChannelData T) → ChannelState T →
    Out T × ChannelState T
  | .wait, s => (.waits, { s with task := .waiting .receiverRecv })
  | .done (some t, r, data), s => (.data t, { s with data, port := .attached r })
  | .done (none, r, data), s => (.noCredit, { s with data, port := .attached r })

def endTryRecv : TryRecvResult T × SharedChannelData T → ChannelState T →
    Out T × ChannelState T
  | (.data t, data), s => (.data t, { s with data })
  | (.empty, data), s => (.empty, { s with data })
  | (.disconnected, data), s => (.ended, { s with data })

/-- One action in state `s`; `none` where the action is not possible. -/
def step (ws : WordSize) (s : ChannelState T) : Act T → Option (Out T × ChannelState T)
  | .trySend tx t =>
      if tx ∈ s.live then
        some (s.exec (-1) (Transmitter.trySend s.data t) fun (ok, data) s =>
          (.sent ok, { s with data }))
      else none
  | .clone tx new =>
      if tx ∈ s.live ∧ new ∉ s.live then
        some (s.exec (-1) (Transmitter.clone s.data) fun data s =>
          (.done, { s with data, live := new :: s.live }))
      else none
  | .dropTransmitter tx =>
      if tx ∈ s.live then
        some (s.exec (-1) (Transmitter.drop ws s.data) fun data s =>
          (.done, { s with data, live := s.live.erase tx }))
      else none
  | .recv =>
      if s.port = .blocking ∧ s.task = .running then
        some (s.exec (-1) (BlockingReceiver.recv s.data) endRecv)
      else none
  | .recvOpt =>
      if s.port = .blocking ∧ s.task = .running then
        some (s.exec (-1) (BlockingReceiver.recvOpt s.data) endRecvOpt)
      else none
  | .tryRecv =>
      if s.port = .blocking ∧ s.task = .running then
        some (s.exec (-1) (BlockingReceiver.tryRecv s.data) endTryRecv)
      else none
  | .fromBlockingReceiver this info fd =>
      if s.port = .blocking ∧ s.task = .running ∧ 0 ≤ fd then
        some (s.exec fd (Receiver.fromBlockingReceiver this info s.data s.events)
          fun (r, data, events) s' =>
            (.pushed (pushedKinds s events), { s' with data, events, port := .attached r }))
      else none
  | .spuriousWakeup =>
      match s.task with
      | .waiting b => some (.done, { s with task := .woken b })
      | _ => none
  | .reacquire =>
      match s.task, s.port with
      | .woken .recv, .blocking =>
          some ({ s with task := .running }.exec (-1) (BlockingReceiver.recvTurn s.data)
            endRecv)
      | .woken .recvOpt, .blocking =>
          some ({ s with task := .running }.exec (-1) (BlockingReceiver.recvOptTurn s.data)
            endRecvOpt)
      | .woken .receiverRecv, .attached r =>
          some ({ s with task := .running }.exec (-1) (r.recvTurn s.data) endReceiverRecv)
      | _, _ => none
  | .receiverRecv =>
      match s.task, s.port with
      | .running, .attached r =>
          some (s.exec (-1) (r.recv s.data) endReceiverRecv)
      | _, _ => none
  | .callbackRead =>
      match s.task, s.port, s.eventfd with
      | .running, .attached _, some e =>
          if 1 ≤ e.counter then
            some (s.exec (-1) (Receiver.readEventfd s.data EPOLLIN) fun goOn s =>
              (.done, { s with task := if goOn then .callback else .running }))
          else none
      | _, _, _ => none
  | .callbackLock =>
      match s.task, s.port with
      | .callback, .attached r =>
          some ({ s with task := .running }.exec (-1) (r.announce ws s.data s.events)
            fun (r, data, events) s' =>
              (.pushed (pushedKinds s events), { s' with data, events, port := .attached r }))
      | _, _ => none
  | .dropReceiver =>
      match s.task, s.port with
      | .running, .attached r =>
          some (s.exec (-1) (r.drop s.data s.events) fun (data, events) s =>
            (.done, { s with data, events, port := .detached }))
      | _, _ => none
  | .dropBlockingReceiver =>
      if (s.port = .blocking ∨ s.port = .detached) ∧ s.task = .running then
        some (s.exec (-1) (BlockingReceiver.drop Destructor.inert s.data) fun data s =>
          (.done, { s with data, port := .dropped }))
      else none
  | .otherEvents evs => some (.done, { s with events := { s.events with readyEvents := evs } })

/-- The transition relation of the channel. -/
def Step (ws : WordSize) (s : ChannelState T) (l : Label T) (s' : ChannelState T) : Prop :=
  step ws s l.act = some (l.out, s')

/-- Take the actions in order, as far as that is possible. -/
def perform (ws : WordSize) (s : ChannelState T) :
    List (Act T) → Option (List (Label T) × ChannelState T)
  | [] => some ([], s)
  | a :: acts =>
      match step ws s a with
      | some (o, s') => (perform ws s' acts).map fun r => (⟨a, o⟩ :: r.1, r.2)
      | none => none

/-- A run of the channel from its creation. -/
def RunFrom (ws : WordSize) (events : EventQueueImpl) :
    List (Label T) → ChannelState T → Prop :=
  Transition.Run (Step ws) (initial T events)

end Revbio.Channel
