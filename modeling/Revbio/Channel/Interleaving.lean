/-
Revbio.Channel.Interleaving — one channel, access by access.

In `Revbio.Channel.System` a critical section is one step. Here every access
to the shared data and every call is one (`Revbio.Channel.Accesses`), and
the steps of different tasks come in any order. Nothing but the mutex keeps
them apart. It has an owner: `mutexLock` and `relock` wait until there is
none, `mutexUnlock` and `mutexWait` leave it without one, and no other step
looks at it. An access is made whoever the owner is.

A task that is in an operation is at some point of its code (`Running`).
What an operation does to things that only its own task knows, the
Transmitters there are and the state of the receiving task, is done with
its last step (`Publish`).

The callback reads the eventfd without the mutex. What needs no access at
all (`outside`) is done between operations: the receiving task is woken
from a wait, returns `None` for want of credit, or goes about its event
queue.

A message has `owned t` Transmitters of its own channel in it. The kernel is
that of `Revbio.Channel.System`.
-/
import Revbio.Channel.Accesses
import Revbio.Channel.Client
import Revbio.Channel.SystemTheorems
import Revbio.Lib.Commit

namespace Revbio.Channel

open CallTree Function

variable {T : Type}

/-! ## Who does what -/

/-- The tasks, as far as this channel goes: each Transmitter is in the hands
of one task. -/
inductive Agent where
  | sender (tx : TxId)
  | receiver
  deriving DecidableEq, Repr

def Act.agent : Act T → Agent
  | .trySend tx _ => .sender tx
  | .clone tx _ => .sender tx
  | .dropTransmitter tx => .sender tx
  | _ => .receiver

/-- What becomes of the state at the end of an operation. -/
abbrev Publish (T : Type) := ChannelState T → Out T × ChannelState T

/-- The number `eventfd()` gives out in the course of an action. -/
def Act.newFd : Act T → Fd
  | .fromBlockingReceiver _ _ fd => fd
  | _ => -1

/-- A turn of a receive, with something added to what it returns. -/
def turnWith {α β : Type} (f : α → β) : Turn α → Turn β
  | .wait => .wait
  | .done a => .done (f a)

/-- The code of an action that makes accesses. -/
def codeOf (ws : WordSize) (owned : T → Nat) (s : ChannelState T) :
    Act T → Option (Code T (Publish T))
  | .trySend tx t =>
      if tx ∈ s.live then
        some do
          let ok ← Accesses.trySend t
          return fun s => (.sent ok, s)
      else none
  | .clone tx new =>
      if tx ∈ s.live then
        some do
          Accesses.clone
          return fun s => (.done, { s with live := new :: s.live })
      else none
  | .dropTransmitter tx =>
      if tx ∈ s.live then
        some do
          Accesses.dropTransmitter ws
          return fun s => (.done, { s with live := s.live.erase tx })
      else none
  | .recv =>
      if s.port = .blocking ∧ s.task = .running then
        some do
          let turn ← Accesses.recv
          return fun s => endRecv (turnWith (fun t => (t, s.data)) turn) s
      else none
  | .recvOpt =>
      if s.port = .blocking ∧ s.task = .running then
        some do
          let turn ← Accesses.recvOpt
          return fun s => endRecvOpt (turnWith (fun ret => (ret, s.data)) turn) s
      else none
  | .tryRecv =>
      if s.port = .blocking ∧ s.task = .running then
        some do
          let ret ← Accesses.tryRecv
          return fun s => endTryRecv (ret, s.data) s
      else none
  | .fromBlockingReceiver this info fd =>
      if s.port = .blocking ∧ s.task = .running ∧ 0 ≤ fd then
        some do
          let (r, events) ← Accesses.fromBlockingReceiver this info s.events
          return fun s' => (.pushed (pushedKinds s events),
            { s' with events, port := .attached r })
      else none
  | .reacquire =>
      match s.task, s.port with
      | .woken .recv, .blocking => some do
          Accesses.relock
          let turn ← Accesses.recvTurn
          return fun s => endRecv (turnWith (fun t => (t, s.data)) turn) s
      | .woken .recvOpt, .blocking => some do
          Accesses.relock
          let turn ← Accesses.recvOptTurn
          return fun s => endRecvOpt (turnWith (fun ret => (ret, s.data)) turn) s
      | .woken .receiverRecv, .attached r => some do
          Accesses.relock
          let turn ← Accesses.receiverRecvTurn r
          return fun s => endReceiverRecv (turnWith (fun ret => (ret.1, ret.2, s.data)) turn) s
      | _, _ => none
  | .receiverRecv =>
      match s.task, s.port with
      | .running, .attached r =>
          if r.availableMessages > 0 then
            some do
              let turn ← Accesses.receiverRecv r
              return fun s =>
                endReceiverRecv (turnWith (fun ret => (ret.1, ret.2, s.data)) turn) s
          else none
      | _, _ => none
  | .callbackRead =>
      match s.task, s.port, s.eventfd with
      | .running, .attached _, some e =>
          if 1 ≤ e.counter then
            some do
              let goOn ← Accesses.readEventfd EPOLLIN
              return fun s => (.done, { s with task := if goOn then .callback else .running })
          else none
      | _, _, _ => none
  | .callbackLock =>
      match s.task, s.port with
      | .callback, .attached r => some do
          let (r, events) ← Accesses.announce ws r s.events
          return fun s' => (.pushed (pushedKinds s events),
            { s' with events, port := .attached r })
      | _, _ => none
  | .dropReceiver =>
      match s.task, s.port with
      | .running, .attached r => some do
          let events ← Accesses.dropReceiver r s.events
          return fun s => (.done, { s with events, port := .detached })
      | _, _ => none
  | .dropBlockingReceiver =>
      if (s.port = .blocking ∨ s.port = .detached) ∧ s.task = .running then
        some do
          Accesses.dropBlockingReceiver ws owned
          return fun s => (.done, { s with port := .dropped })
      else none
  | .spuriousWakeup => none
  | .otherEvents _ => none

/-- An access to the shared data. -/
def Op.touches : Op T → Bool
  | .load _ => true
  | .store _ _ => true
  | _ => false

/-! ## The mutex -/

inductive MutexUse where
  | takes
  | releases
  | leaves
  deriving DecidableEq, Repr

def Op.mutexUse : Op T → MutexUse
  | .call (.once .mutexLock) => .takes
  | .relock => .takes
  | .call (.once .mutexUnlock) => .releases
  | .call (.once .mutexWait) => .releases
  | _ => .leaves

/-- The owner of the mutex after an operation on it; `none` where the task
has to wait. -/
def MutexUse.owner (agent : Agent) (owner : Option Agent) : MutexUse → Option (Option Agent)
  | .takes => if owner = none then some (some agent) else none
  | .releases => some none
  | .leaves => some owner

/-! ## The system -/

/-- A task in an operation: which one, and what is left of its code. -/
structure Running (T : Type) where
  act : Act T
  rest : Code T (Publish T)

structure CallState (T : Type) where
  /-- the data as they are, in the middle of a section as well -/
  shared : ChannelState T
  /-- who has the mutex -/
  owner : Option Agent
  running : Agent → Option (Running T)

/-- What an operation of code run alone finds: the data and the kernel. -/
abbrev World (T : Type) := SharedChannelData T × Kernel

def Op.answer : (op : Op T) → World T → op.Ret × World T
  | .call c, w => ((Kernel.answer c w.2).1, (w.1, (Kernel.answer c w.2).2))
  | .load x, w => (dataGet w.1 x, w)
  | .store x v, w => ((), (dataSet w.1 x v, w.2))
  | .relock, w => ((), w)

def ChannelState.world (s : ChannelState T) (nextFd : Fd) : World T := (s.data, s.kernel nextFd)

def ChannelState.withWorld (s : ChannelState T) (w : World T) : ChannelState T :=
  { s.withKernel w.2 with data := w.1 }

/-- The answer to an access or a call, and the state after it. -/
def ChannelState.answer (s : ChannelState T) (nextFd : Fd) (op : Op T) :
    op.Ret × ChannelState T :=
  let r := op.answer (s.world nextFd)
  (r.1, s.withWorld r.2)

/-- The receiving task is awake at the end of an operation of its own. -/
def ChannelState.awakeFor (s : ChannelState T) (a : Act T) : ChannelState T :=
  if a.bySender then s else s.awake

/-- What an operation shows at its end, and the state after it. -/
def settle (a : Act T) : Exit (Publish T) → ChannelState T → Out T × ChannelState T
  | .returned f, s => f (s.awakeFor a)
  | .failed msg, s => (.failed msg, s.awakeFor a)

/-- The Transmitter that a `clone` makes is a new one. -/
def Act.Fresh (s : ChannelState T) : Act T → Prop
  | .clone _ new => new ∉ s.live
  | _ => True

inductive CallLabel (T : Type) where
  | start (a : Act T)
  /-- an access or a call in the middle of an operation -/
  | access (agent : Agent)
  /-- an operation is over -/
  | done (l : Label T)

inductive CallStep (ws : WordSize) (owned : T → Nat) :
    CallState T → CallLabel T → CallState T → Prop where
  | start {c : CallState T} {a : Act T} {p : Code T (Publish T)} :
      c.running a.agent = none → codeOf ws owned c.shared a = some p →
      CallStep ws owned c (.start a)
        { c with running := update c.running a.agent (some ⟨a, p⟩) }
  | access {c : CallState T} {agent : Agent} {a : Act T} {op : Op T} {r : op.Ret}
      {k : op.Ret → Code T (Publish T)} {owner : Option Agent} {s : ChannelState T} :
      c.running agent = some ⟨a, .call op k⟩ →
      op.mutexUse.owner agent c.owner = some owner → c.shared.answer a.newFd op = (r, s) →
      (k r).outcome = none →
      CallStep ws owned c (.access agent)
        ⟨s, owner, update c.running agent (some ⟨a, k r⟩)⟩
  | finish {c : CallState T} {agent : Agent} {a : Act T} {op : Op T} {r : op.Ret}
      {k : op.Ret → Code T (Publish T)} {owner : Option Agent} {s : ChannelState T}
      {x : Exit (Publish T)} :
      c.running agent = some ⟨a, .call op k⟩ →
      op.mutexUse.owner agent c.owner = some owner → c.shared.answer a.newFd op = (r, s) →
      (k r).outcome = some x → a.Fresh s →
      CallStep ws owned c (.done ⟨a, (settle a x s).1⟩)
        ⟨(settle a x s).2, owner, update c.running agent none⟩
  | outside {c : CallState T} {l : Label T} {s : ChannelState T} :
      c.running .receiver = none → codeOf ws owned c.shared l.act = none →
      Step ws c.shared l s → CallStep ws owned c (.done l) { c with shared := s }

/-- A run from the creation of the channel. -/
def CallRun (ws : WordSize) (owned : T → Nat) (events : EventQueueImpl) :
    List (CallLabel T) → CallState T → Prop :=
  Transition.Run (CallStep ws owned) ⟨initial T events, none, fun _ => none⟩

/-- A task that is about to touch the shared data has the mutex; only the
callback, which reads the descriptor of the eventfd, need not. -/
def Guarded (c : CallState T) : Prop :=
  ∀ agent a op k, c.running agent = some ⟨a, .call op k⟩ → op.touches = true →
    c.owner = some agent ∨ (a = .callbackRead ∧ op = .load .epollFd)

/-! ## What a run shows -/

/-- The actions that are over, in the order of their ends. -/
def completed (tr : List (CallLabel T)) : List (Label T) :=
  tr.filterMap fun l => match l with
    | .done l => some l
    | _ => none

/-- The action was done with the mutex held. -/
def Label.locked (l : Label T) : Bool :=
  match l.act with
  | .spuriousWakeup => false
  | .callbackRead => false
  | .otherEvents _ => false
  | .receiverRecv =>
      match l.out with
      | .noCredit => false
      | _ => true
  | _ => true

/-- The sections of a run. -/
def sections (tr : List (Label T)) : List (Label T) := tr.filter Label.locked

/-- What the receiving task has done. -/
def byReceiver (tr : List (Label T)) : List (Label T) := tr.filter fun l => !l.act.bySender

end Revbio.Channel
