/-
Revbio.Tcp.Reader — a task that reads a connection to its end, the way the
clients of `example.rs` and `serverexample.rs` do.

The task has a connected TcpSocket. It answers a DataAvailableEvent with
one `read` into a buffer of as many bytes as the event tells, and is done
with the connection at a StreamClosedEvent or an IoErrorEvent. It shares
its queue with other sources (`others`, `report`).

The peer sends (`arrive`) until it has finished (`finish`). With no hang-up
and no error in the mask, `EPOLLIN` is reported only when there is
something to read or the peer has finished. The receive buffer is that of
`Revbio.Tcp.Inbox`.
-/
import Mathlib.Algebra.GroupWithZero.Nat
import Revbio.Stream.System
import Revbio.Tcp.Inbox

namespace Revbio.Tcp

open CallTree EventLoop Revbio.Stream

variable {ws : WordSize}

/-- Where the task is in its loop. -/
inductive Place where
  /-- at `next_event` -/
  | next
  /-- with a DataAvailableEvent -/
  | data (nrBytes : Nat)
  /-- past the StreamClosedEvent -/
  | closed
  | failed
  deriving DecidableEq, Repr

structure ReadTask where
  sock : TcpSocket
  queue : EventQueueImpl
  phase : Phase
  inbox : Inbox
  /-- the peer has sent all it will -/
  finished : Bool
  place : Place
  /-- the bytes that `read` has returned -/
  got : Nat
  deriving DecidableEq

/-- What the task does with an event of the socket. -/
def Place.told : EventKind → Place
  | .dataAvailableEvent nrBytes => .data nrBytes
  | .streamClosedEvent => .closed
  | .ioErrorEvent _ => .failed
  | _ => .next

/-- What the task does with the result of `next_event`. -/
def Place.after (sock : TcpSocket) : LoopLabel → Place
  | .goesOn => .next
  | .returns (.error _) => .failed
  | .returns (.ok ev) => if ev.originatesFrom sock then .told ev.eventType else .next

inductive ReadLabel where
  | loop (l : LoopLabel)
  | others
  | report
  | arrive (bytes : Nat)
  | finish
  | callback (epollEvents : UInt32)
  | read (result : IoResult Nat)

/-- What `epoll_wait` reports is so. -/
def ReadTask.Honest (s : ReadTask) (mask : UInt32) : Prop :=
  mask &&& EPOLLIN ≠ 0 → mask &&& EPOLLHUP = 0 → mask &&& EPOLLERR = 0 →
    0 < s.inbox.unread ∨ s.finished = true

/-- The bytes that a `read` returns. -/
def nrRead : IoResult Nat → Nat
  | .ok n => n
  | .error _ => 0

inductive ReadStep (ws : WordSize) : ReadTask → ReadLabel → ReadTask → Prop where
  | loop {s : ReadTask} {l : LoopLabel} {phase : Phase} {queue : EventQueueImpl} :
      s.place = .next → LoopStep s.phase s.queue l phase queue →
      ReadStep ws s (.loop l)
        { s with phase, queue, place := Place.after s.sock l }
  | others {s : ReadTask} {queue : EventQueueImpl} : s.phase = .idle →
      ownEvents s.sock.eventSourceInfo queue = ownEvents s.sock.eventSourceInfo s.queue →
      ReadStep ws s .others { s with queue }
  | report {s : ReadTask} {src : SourceId} {kinds : List EventKind} :
      s.phase = .polling → src ≠ s.sock.eventSourceInfo →
      ReadStep ws s .report { s with queue := s.queue.pushAll src kinds, phase := .checking }
  | arrive {s : ReadTask} {bytes : Nat} : s.finished = false →
      s.inbox.unread + bytes < 2 ^ 31 →
      ReadStep ws s (.arrive bytes)
        { s with inbox := { s.inbox with unread := s.inbox.unread + bytes } }
  | finish {s : ReadTask} : ReadStep ws s .finish { s with finished := true }
  | callback {s : ReadTask} {mask : UInt32} {sock : TcpSocket} {queue : EventQueueImpl}
      {inbox : Inbox} : s.phase = .polling →
      s.sock.socket.connectionState ≠ .closed → s.Honest mask →
      (s.sock.processEpollEvents ws s.queue mask).Exec Inbox.allows s.inbox
        (.returned (sock, queue)) inbox →
      ReadStep ws s (.callback mask) { s with sock, queue, inbox, phase := .checking }
  | read {s : ReadTask} {nrBytes : Nat} {result : IoResult Nat} {sock : TcpSocket}
      {queue : EventQueueImpl} {inbox : Inbox} : s.place = .data nrBytes →
      (s.sock.read ws nrBytes s.queue).Exec Inbox.allows s.inbox
        (.returned (result, sock, queue)) inbox →
      ReadStep ws s (.read result)
        { s with sock, queue, inbox, place := .next, got := s.got + nrRead result }

/-- In front of the loop, the socket connected. -/
structure ReadTask.Starts (s : ReadTask) : Prop where
  connected : s.sock.socket.connectionState = .connected
  queue : ownEvents s.sock.eventSourceInfo s.queue = []
  phase : s.phase = .idle
  unread : s.inbox.unread < 2 ^ 31
  emptyRecv : s.inbox.emptyRecv = false
  place : s.place = .next
  got : s.got = 0

/-- The bytes that arrive in a run. -/
def arrived (tr : List ReadLabel) : Nat :=
  (tr.map fun l => match l with
    | .arrive bytes => bytes
    | _ => 0).sum

/-- A step without a hang-up. -/
def Orderly : ReadLabel → Prop
  | .callback mask => mask &&& EPOLLHUP = 0
  | _ => True

theorem arrived_append (tr tr' : List ReadLabel) :
    arrived (tr ++ tr') = arrived tr + arrived tr' := by
  simp [arrived]

end Revbio.Tcp
