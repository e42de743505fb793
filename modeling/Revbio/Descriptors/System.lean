/-
Revbio.Descriptors.System — the descriptor of an event source, from its
constructor to its drop.

Three kinds of owner get a descriptor in their constructor: an
`EventQueueImpl` from `epoll_create`, a `Timer` from `timerfd_create`, and
the data of a `Receiver` with live senders from `eventfd`. A `Life` follows
one owner. Its kernel gives out the number `r` when it is asked for a
descriptor, or fails if `r` is `-1`; every other call may end in any way.
The kernel remembers which descriptors this owner has open, what all calls
were, and whether one of them was about a descriptor that nobody has open.

Between two operations the rest of the process may open and close
descriptors of its own, and the owner may change in all but its
descriptor: events are pushed, senders put messages into a channel. When an
operation fails the task unwinds, and what is left of the owner is dropped;
so is the box of a `Receiver` whose constructor fails. A lock that is held
makes the next one wait.
-/
import Mathlib.Logic.Relation
import Revbio.Sockets.System

namespace Revbio.Descriptors

open CallTree Prog Epoll
open Sockets (Trace issuedOn closes closings)

variable {T : Type}

/-! ## The kernel -/

structure Kernel where
  /-- open, and obtained by this owner -/
  mine : Fd → Bool
  /-- open, and in use elsewhere in the process -/
  others : Fd → Bool
  locked : Bool
  calls : Trace
  /-- a call was about a descriptor that was not open -/
  misused : Bool

def Kernel.isOpen (k : Kernel) (fd : Fd) : Bool := k.mine fd || k.others fd

/-- The descriptor that a call has made. -/
def acquired : (c : Call) → c.Ret → Option Fd
  | .once (.epollCreate _), r => if (r : Int) = -1 then none else some r
  | .once .timerfdCreate, r => if (r : Int) = -1 then none else some r
  | .once .eventfd, r => if (r : Int) = -1 then none else some r
  | _, _ => none

/-- The descriptors a call is about. -/
def descriptors : Call → List Fd
  | .once (.epollCtl epfd _ fd _ _) => [epfd, fd]
  | .retry (.epollCtl epfd _ fd _ _) => [epfd, fd]
  | c => (issuedOn c).toList

def lockedAfter (locked : Bool) : Call → Bool
  | .once .mutexLock => true
  | .once .mutexUnlock => false
  | _ => locked

/-- The kernel after a call and its answer. -/
def Kernel.after (k : Kernel) (c : Call) (a : c.Ret) : Kernel where
  mine fd := (k.mine fd || acquired c a = some fd) && !closes fd c
  others fd := k.others fd && !closes fd c
  locked := lockedAfter k.locked c
  calls := k.calls ++ [⟨c, a⟩]
  misused := k.misused || !(descriptors c).all k.isOpen

/-- A new descriptor is `r`, which was free; `-1` stands for a failure. -/
def Kernel.gives (r : Int) (k : Kernel) (a : Int) : Prop :=
  a = r ∧ (r = -1 ∨ 0 ≤ r ∧ k.isOpen r = false)

def Kernel.possible (r : Int) (k : Kernel) : (c : Call) → c.Ret → Prop
  | .once (.epollCreate _), a => k.gives r a
  | .once .timerfdCreate, a => k.gives r a
  | .once .eventfd, a => k.gives r a
  | .once .mutexLock, _ => k.locked = false
  | _, _ => True

def Kernel.allows (r : Int) (k : Kernel) (c : Call) (a : c.Ret) (k' : Kernel) : Prop :=
  k.possible r c a ∧ k' = k.after c a

/-! ## Owners -/

inductive Owner (T : Type) where
  | eventQueue (q : EventQueueImpl)
  /-- a timer or a receiver -/
  | source (o : Object T)

/-- What an owner is made from. Sources are made for a queue, which they
keep alive; here it is the descriptor of that queue. -/
inductive Constructor (T : Type) where
  | eventQueue
  | timer (epfd : Fd)
  | receiver (epfd : Fd) (d : SharedChannelData T) (unregistered : d.epollFd = -1)
      (live : d.nrSenders ≠ 0)

def Constructor.queue : Constructor T → Option Fd
  | .eventQueue => none
  | .timer epfd => some epfd
  | .receiver epfd _ _ _ => some epfd

/-- `EventQueueImpl::new`, `Timer::create` and
`Receiver::from_blocking_receiver`. -/
def Constructor.run (this : Ptr) (info : SourceId) (q : EventQueueImpl) :
    Constructor T → Io (Option (Owner T))
  | .eventQueue => do return some (.eventQueue (← EventQueueImpl.new))
  | .timer _ => do return (created .timer (← Timer.create this info)).map .source
  | .receiver _ d _ _ => do
      let (port, d, _) ← Receiver.fromBlockingReceiver this info d q
      return some (.source (.receiver port d))

/-- What a failed constructor leaves to be dropped: the box of the receiver
exists before the eventfd does. -/
def Constructor.leaves (r : Int) (this : Ptr) (info : SourceId) :
    Constructor T → Option (Owner T)
  | .eventQueue => none
  | .timer _ => none
  | .receiver _ d _ _ => some (.source (.receiver
      { processFunc := this, eventSourceInfo := info, availableMessages := 0 }
      { d with epollFd := r }))

inductive Kind where
  | eventQueue
  | timer
  | receiver
  deriving DecidableEq, Repr

def Constructor.kind : Constructor T → Kind
  | .eventQueue => .eventQueue
  | .timer _ => .timer
  | .receiver _ _ _ _ => .receiver

/-- An owner of the kind `κ` that holds `fd`. -/
def Owner.Holds (κ : Kind) (fd : Fd) : Owner T → Prop
  | .eventQueue q => κ = .eventQueue ∧ q.fd = fd
  | .source (.timer t) => κ = .timer ∧ t.fd = fd
  | .source (.receiver _ d) => κ = .receiver ∧ d.epollFd = fd
  | .source _ => False

inductive Operation (T : Type) where
  | registerFd (fd : Fd) (flags : UInt32) (callback : Ptr)
  | modifyFd (fd : Fd) (flags : UInt32) (callback : Ptr)
  | unregisterFd (fd : Fd)
  | method (m : Method T)
  | callback (epollEvents : UInt32)

/-- A descriptor that the caller of an operation passes. -/
def Operation.argument : Operation T → Option Fd
  | .registerFd fd _ _ => some fd
  | .modifyFd fd _ _ => some fd
  | .unregisterFd fd => some fd
  | _ => none

def Owner.operate (ws : WordSize) (q : EventQueueImpl) :
    Owner T → Operation T → Option (Io (Owner T))
  | .eventQueue q', .registerFd fd flags callback => some do
      q'.registerFd fd flags callback
      return .eventQueue q'
  | .eventQueue q', .modifyFd fd flags callback => some do
      q'.modifyFd fd flags callback
      return .eventQueue q'
  | .eventQueue q', .unregisterFd fd => some do
      q'.unregisterFd fd
      return .eventQueue q'
  | .source o, .method m => (o.method ws q m).map fun p => do return .source (← p).1
  | .source o, .callback mask => (o.processEpollEvents ws q mask).map fun p => do
      return .source (← p).1
  | _, _ => none

def Owner.drop (q : EventQueueImpl) : Owner T → Io Unit
  | .eventQueue q' => q'.drop
  | .source o => do
      let _ ← o.drop q
      return ()

/-! ## Lives -/

inductive Stage (T : Type) where
  | new
  | alive (o : Owner T)
  | unwinding (o : Owner T)
  | gone

structure Life (T : Type) where
  kernel : Kernel
  stage : Stage T
  /-- the constructor has produced an object -/
  made : Bool
  /-- the calls of the constructor -/
  built : Trace

/-- The object of a constructor that has ended. -/
def product : Exit (Option (Owner T)) → Option (Owner T)
  | .returned o => o
  | .failed _ => none

/-- What there is after a constructor. -/
def afterConstructor (r : Int) (c : Constructor T) (this : Ptr) (info : SourceId) :
    Exit (Option (Owner T)) → Stage T
  | .returned (some o) => .alive o
  | .returned none => .gone
  | .failed _ => match c.leaves r this info with
      | some o => .unwinding o
      | none => .gone

def afterOperation (left : Owner T) : Exit (Owner T) → Stage T
  | .returned o => .alive o
  | .failed _ => .unwinding left

/-- The queue of a source is whatever it is at the time, but it keeps its
descriptor. -/
def Constructor.Uses (c : Constructor T) (q : EventQueueImpl) : Prop :=
  ∀ epfd, c.queue = some epfd → q.fd = epfd

/-- The queue that a source is made for is open. -/
def Constructor.QueueOpen (c : Constructor T) (k : Kernel) : Prop :=
  ∀ epfd, c.queue = some epfd → k.others epfd = true

inductive Step (ws : WordSize) (r : Int) (c : Constructor T) : Life T → Life T → Prop where
  | construct {s : Life T} {k : Kernel} {this : Ptr} {info : SourceId} {q : EventQueueImpl}
      {x : Exit (Option (Owner T))} :
      s.stage = .new → c.Uses q → (c.run this info q).Exec (Kernel.allows r) s.kernel x k →
      Step ws r c s
        { kernel := k, stage := afterConstructor r c this info x,
          made := (product x).isSome, built := k.calls }
  | operate {s : Life T} {k : Kernel} {q : EventQueueImpl} {o left : Owner T}
      {op : Operation T} {p : Io (Owner T)} {x : Exit (Owner T)} :
      s.stage = .alive o → c.Uses q → o.operate ws q op = some p →
      (∀ fd, op.argument = some fd → s.kernel.others fd = true) →
      (∀ κ fd, o.Holds κ fd → left.Holds κ fd) → p.Exec (Kernel.allows r) s.kernel x k →
      Step ws r c s { s with kernel := k, stage := afterOperation left x }
  /-- `epoll_wait` on the descriptor of the queue -/
  | poll {s : Life T} {q : EventQueueImpl} {answer : EventQueueImpl.Poll} :
      s.stage = .alive (.eventQueue q) →
      Step ws r c s { s with
        kernel := { s.kernel with misused := s.kernel.misused || !s.kernel.isOpen q.fd }
        stage := .alive (.eventQueue (q.pollEvents answer).2) }
  /-- changes without a call, or made by others -/
  | change {s : Life T} {o o' : Owner T} :
      s.stage = .alive o → (∀ κ fd, o.Holds κ fd → o'.Holds κ fd) →
      Step ws r c s { s with stage := .alive o' }
  | environment {s : Life T} {others : Fd → Bool} :
      (∀ fd, s.kernel.mine fd = true → others fd = false) →
      (∀ epfd, c.queue = some epfd → others epfd = true) →
      Step ws r c s { s with kernel := { s.kernel with others } }
  | drop {s : Life T} {k : Kernel} {q : EventQueueImpl} {o : Owner T} {x : Exit Unit} :
      s.stage = .alive o ∨ s.stage = .unwinding o →
      (o.drop q).Exec (Kernel.allows r) s.kernel x k →
      Step ws r c s { s with kernel := k, stage := .gone }

/-- Before the constructor, with the descriptors of the process. -/
def start (others : Fd → Bool) : Life T where
  kernel := { mine := fun _ => false, others, locked := false, calls := [], misused := false }
  stage := .new
  made := false
  built := []

/-- The lives of an owner made by `c`, for which the kernel has `r`. -/
def Lives (ws : WordSize) (r : Int) (c : Constructor T) (s : Life T) : Prop :=
  ∃ others, c.QueueOpen (start (T := T) others).kernel ∧
    Relation.ReflTransGen (Step ws r c) (start others) s

end Revbio.Descriptors
