/-
Revbio.Channel.Client — the task that owns a Receiver, running its event
loop (the loop of `example.rs`): call `next_event`, answer a
`ChannelMessageEvent` of the Receiver with one `recv`, stop at its
`ChannelClosedEvent`, pass over everything else.

`next_event` is taken apart into its steps (`Phase`), because the other
tasks run between them. The event queue is shared with other sources,
whose callbacks push events of their own (`report`).
-/
import Mathlib.Algebra.GroupWithZero.Nat
import Revbio.Channel.System

namespace Revbio.Channel

/-- Where the loop is. -/
inductive Phase where
  /-- about to call `next_event` -/
  | idle
  /-- in `next_event`, in `epoll_wait` -/
  | polling
  /-- in `next_event`, in the callback of the Receiver, past its read -/
  | inCallback
  /-- in `next_event`, back from `poll_events` -/
  | checking
  /-- with a `ChannelMessageEvent` to answer -/
  | answering
  /-- past the `ChannelClosedEvent` -/
  | closed
  deriving DecidableEq, Repr

structure Client (T : Type) where
  channel : ChannelState T
  phase : Phase
  /-- what `recv` has returned so far -/
  got : List T
  deriving DecidableEq, Repr

inductive ClientAct (T : Type) where
  /-- the client goes on -/
  | next
  /-- a task that holds a Transmitter -/
  | sender (a : Act T)
  /-- `epoll_wait` reports another source, whose callback pushes events -/
  | report (pushed : List (EventKind × SourceId))
  deriving DecidableEq, Repr

variable {T : Type}

/-- What a task that holds a Transmitter can do. -/
def Act.bySender : Act T → Bool
  | .trySend .. => true
  | .clone .. => true
  | .dropTransmitter .. => true
  | _ => false

def ClientAct.isSend : ClientAct T → Bool
  | .sender (.trySend ..) => true
  | _ => false

namespace Client

/-- `next_event` returns `ev` and leaves `rest` in the queue. -/
def take (info : SourceId) (c : Client T) (ev : Event) (rest : List Event) : Client T :=
  { c with
    channel := { c.channel with
      events := { c.channel.events with readyEvents := rest } }
    phase :=
      if ev.sourceInfo = info then
        match ev.eventType with
        | .channelMessageEvent => .answering
        | .channelClosedEvent => .closed
        | _ => .idle
      else .idle }

/-- The client's own next step; `none` where it blocks or has stopped. -/
def next (ws : WordSize) (info : SourceId) (c : Client T) : Option (Client T) :=
  match c.phase with
  | .idle =>
      match c.channel.events.readyEvents with
      | first :: rest => some (c.take info first rest)
      | [] => some { c with phase := .polling }
  | .polling =>
      match step ws c.channel .callbackRead with
      | some (_, s) =>
          some { c with
            channel := s
            phase := if s.task = .callback then .inCallback else .checking }
      | none => none
  | .inCallback =>
      match step ws c.channel .callbackLock with
      | some (_, s) => some { c with channel := s, phase := .checking }
      | none => none
  | .checking =>
      match c.channel.events.readyEvents with
      | first :: rest =>
          if first.isValid then some (c.take info first rest)
          else
            some { c with
              channel := { c.channel with
                events := { c.channel.events with readyEvents := rest } }
              phase := .polling }
      | [] => some { c with phase := .polling }
  | .answering =>
      match step ws c.channel .receiverRecv with
      | some (.data t, s) => some { channel := s, phase := .idle, got := c.got ++ [t] }
      | some (.noCredit, s) => some { c with channel := s, phase := .idle }
      | _ => none
  | .closed => none

def step (ws : WordSize) (info : SourceId) (c : Client T) : ClientAct T → Option (Client T)
  | .next => c.next ws info
  | .sender a =>
      if a.bySender then
        (Channel.step ws c.channel a).map fun r => { c with channel := r.2 }
      else none
  | .report pushed =>
      if c.phase = .polling ∧ ∀ p ∈ pushed, p.2 ≠ info then
        some { c with
          channel := { c.channel with
            events := (c.channel.events.pollEvents (.ready pushed)).2 }
          phase := .checking }
      else none

end Client

/-- The transition relation of the client's task and its surroundings. -/
def ClientStep (ws : WordSize) (info : SourceId) (c : Client T) (a : ClientAct T)
    (c' : Client T) : Prop :=
  c.step ws info a = some c'

/-- A client that has just got its Receiver. -/
def Client.start (s : ChannelState T) : Client T :=
  { channel := s, phase := .idle, got := [] }

@[simp] theorem start_channel (s : ChannelState T) : (Client.start s).channel = s := rfl
@[simp] theorem start_phase (s : ChannelState T) : (Client.start s).phase = .idle := rfl
@[simp] theorem start_got (s : ChannelState T) : (Client.start s).got = [] := rfl

/-- The client has stopped: it has taken the `ChannelClosedEvent`, or it is
in `epoll_wait` and the eventfd is not readable. -/
def Client.Ended (c : Client T) : Prop :=
  c.phase = .closed ∨ (c.phase = .polling ∧ c.channel.counter = 0)

/-- The number of steps the client itself has made. -/
def ownSteps (tr : List (ClientAct T)) : Nat :=
  (tr.filter fun a => match a with | .next => true | _ => false).length

/-- The steps that events of other sources cost the client. -/
def reportCost (tr : List (ClientAct T)) : Nat :=
  (tr.map fun a => match a with | .report pushed => 2 * pushed.length + 1 | _ => 0).sum

/-- What repeated `try_recv` returns. -/
def tryRecvs (ws : WordSize) : Nat → ChannelState T → List T
  | 0, _ => []
  | fuel + 1, s =>
      match step ws s .tryRecv with
      | some (.data t, s') => t :: tryRecvs ws fuel s'
      | _ => []

/-! ## Next to everything else -/

/-- What happens to a client that has other sources as well and does not
stop at the end of the channel. -/
inductive ServeAct (T : Type) where
  | client (a : ClientAct T)
  /-- `epoll_wait` reports nothing -/
  | pollIdle
  | pollFailed
  /-- the task uses its other sources -/
  | others
  /-- the client goes on after the `ChannelClosedEvent` -/
  | goOn
  deriving DecidableEq, Repr

/-- Outside `next_event`. -/
def Phase.outside : Phase → Bool
  | .idle => true
  | .answering => true
  | .closed => true
  | _ => false

inductive ServeStep (ws : WordSize) (info : SourceId) :
    Client T → ServeAct T → Client T → Prop where
  | client {c c' : Client T} {a : ClientAct T} : ClientStep ws info c a c' →
      ServeStep ws info c (.client a) c'
  | pollIdle {c : Client T} : c.phase = .polling →
      ServeStep ws info c .pollIdle { c with phase := .checking }
  | pollFailed {c : Client T} : c.phase = .polling →
      ServeStep ws info c .pollFailed { c with phase := .idle }
  | others {c : Client T} {queue : EventQueueImpl} : c.phase.outside = true →
      queue.readyEvents.filter (·.sourceInfo = info) =
        c.channel.events.readyEvents.filter (·.sourceInfo = info) →
      ServeStep ws info c .others { c with channel := { c.channel with events := queue } }
  | goOn {c : Client T} : c.phase = .closed → ServeStep ws info c .goOn { c with phase := .idle }

/-- The messages that are sent in a run, in order. -/
def sent (tr : List (ServeAct T)) : List T :=
  tr.filterMap fun a => match a with
    | .client (.sender (.trySend _ t)) => some t
    | _ => none

end Revbio.Channel
