/-
Revbio.Stream.System — one TcpSocket under the event loop of its task, as a
labelled transition system.

The kernel holds the socket's descriptor: its status flags, and the events
the epoll set watches it for. `socket(2)` makes it non-blocking when asked
to, `fcntl` succeeds, `epoll_ctl` succeeds only where it makes sense, and
`close` takes the descriptor out of the epoll set. All other answers are
open, and so is the mask `epoll_wait` reports for a watched descriptor. A
refused `epoll_ctl` ends the task (`fail!`): a step is a call that returns.

The queue is shared. Other code of the task may change the events of other
sources between two calls of `next_event`, and other sources have their
callbacks in the loop (`others`, `report`).
-/
import Revbio.EventQueue.Loop
import Revbio.Lib.CallTrace
import Revbio.Lib.Transition
import Revbio.Linux.Tcp

namespace Revbio.Stream

open CallTree EventLoop

variable {ws : WordSize} {host : Endian}

/-! ## The kernel -/

structure Descriptor where
  fd : Fd
  /-- the status flags it was made with -/
  created : BitVec 32
  flags : BitVec 32
  /-- what the epoll set watches it for -/
  interest : Option UInt32
  deriving DecidableEq, Repr

/-- The descriptor while it is open. -/
abbrev Kernel : Type := Option Descriptor

/-- `epoll_ctl` fails, or it does what it was asked to. -/
def Kernel.control (k : Kernel) (op : EpollCtl) (fd : Fd) (events : UInt32) (r : Int)
    (k' : Kernel) : Prop :=
  (r ≠ 0 ∧ k' = k) ∨ (r = 0 ∧ ∃ d, k = some d ∧ d.fd = fd ∧ match op with
    | .add => d.interest = none ∧ k' = some { d with interest := some events }
    | .mod => d.interest ≠ none ∧ k' = some { d with interest := some events }
    | .del => d.interest ≠ none ∧ k' = some { d with interest := none })

def Kernel.answers (k : Kernel) : (c : Syscall) → c.Ret → Kernel → Prop
  | .socket _ ty => fun r k' => (r = -1 ∧ k' = k) ∨
      (0 ≤ r ∧ ∃ flags : BitVec 32, (flags &&& O_NONBLOCK = 0 ↔ ty &&& SOCK_NONBLOCK = 0) ∧
        k' = some { fd := r, created := flags, flags, interest := none })
  | .fcntlGetfl fd => fun r k' => k' = k ∧ ∀ d, k = some d → d.fd = fd → r = d.flags
  | .fcntlSetfl fd flags => fun r k' => r = 0 ∧
      k' = k.map fun d => if d.fd = fd then { d with flags } else d
  | .epollCtl _ op fd events _ => k.control op fd events
  | .close fd => fun _ k' => k' = k.filter fun d => d.fd ≠ fd
  | _ => fun _ k' => k' = k

def Kernel.allows (k : Kernel) : (c : Call) → c.Ret → Kernel → Prop
  | .once c => k.answers c
  | .retry c => k.answers c

/-! ## The system -/

/-- What can close the socket. -/
inductive Closer where
  | callback
  | call
  deriving DecidableEq, Repr

structure StreamState where
  sock : TcpSocket
  queue : EventQueueImpl
  phase : Phase
  kernel : Kernel
  /-- all events pushed for the socket so far -/
  pushed : List EventKind
  closedBy : Option Closer

/-- The events of `src` that are in `q'` and were not yet in `q`. -/
def appended (src : SourceId) (q q' : EventQueueImpl) : List EventKind :=
  ((q'.readyEvents.drop q.readyEvents.length).filter fun ev => ev.sourceInfo = src).map
    Event.eventType

/-- The events of `src` in a queue. -/
def ownEvents (src : SourceId) (q : EventQueueImpl) : List Event :=
  q.readyEvents.filter fun ev => ev.sourceInfo = src

/-- The state after an operation on the socket. -/
def StreamState.goOn (s : StreamState) (who : Closer) (sock : TcpSocket)
    (queue : EventQueueImpl) (kernel : Kernel) (phase : Phase) : StreamState :=
  { sock, queue, phase, kernel
    pushed := s.pushed ++ appended s.sock.eventSourceInfo s.queue queue
    closedBy :=
      if s.sock.socket.connectionState ≠ .closed ∧ sock.socket.connectionState = .closed then
        some who
      else s.closedBy }

inductive Method where
  | read (len : Nat)
  | write (len : Nat)
  | close
  deriving DecidableEq, Repr

def Method.run (ws : WordSize) (sock : TcpSocket) (q : EventQueueImpl) :
    Method → Io (TcpSocket × EventQueueImpl)
  | .read len => do
      let (_, sock, q) ← sock.read ws len q
      return (sock, q)
  | .write len => do
      let (_, sock, q) ← sock.write ws len q
      return (sock, q)
  | .close => sock.close q

/-- `epoll_wait` may report the socket. -/
def Watched (k : Kernel) : Prop := ∃ d, k = some d ∧ d.interest ≠ none

inductive Label where
  | loop (l : LoopLabel)
  | others
  | report
  | call (m : Method)
  | callback (epollEvents : UInt32)

/-- Steps that return; a task that fails does not go on. -/
inductive Step (ws : WordSize) : StreamState → Label → StreamState → Prop where
  | loop {s : StreamState} {l : LoopLabel} {phase : Phase} {queue : EventQueueImpl} :
      LoopStep s.phase s.queue l phase queue →
      Step ws s (.loop l) { s with phase, queue }
  | others {s : StreamState} {queue : EventQueueImpl} : s.phase = .idle →
      ownEvents s.sock.eventSourceInfo queue = ownEvents s.sock.eventSourceInfo s.queue →
      Step ws s .others { s with queue }
  | report {s : StreamState} {src : SourceId} {kinds : List EventKind} : s.phase = .polling →
      src ≠ s.sock.eventSourceInfo →
      Step ws s .report { s with queue := s.queue.pushAll src kinds, phase := .checking }
  | call {s : StreamState} {m : Method} {sock : TcpSocket} {queue : EventQueueImpl}
      {kernel : Kernel} : s.phase = .idle →
      (m.run ws s.sock s.queue).Exec Kernel.allows s.kernel (.returned (sock, queue)) kernel →
      Step ws s (.call m) (s.goOn .call sock queue kernel .idle)
  | callback {s : StreamState} {mask : UInt32} {sock : TcpSocket} {queue : EventQueueImpl}
      {kernel : Kernel} : s.phase = .polling → Watched s.kernel →
      (s.sock.processEpollEvents ws s.queue mask).Exec Kernel.allows s.kernel
        (.returned (sock, queue)) kernel →
      Step ws s (.callback mask) (s.goOn .callback sock queue kernel .checking)

/-! ## Where a TcpSocket comes from -/

/-- The raw sockets a program can have: connected ones and accepted ones
(`accept(2)` makes them blocking), and what becomes of them in use. -/
inductive RawSocket (ws : WordSize) (host : Endian) : RawTcpSocket → Kernel → Prop where
  | connect {addr : SocketAddr} {raw : RawTcpSocket} {k : Kernel} :
      (RawTcpSocket.connect host addr).Exec Kernel.allows none (.returned (.ok raw)) k →
      RawSocket ws host raw k
  | accept {fd : Fd} {flags : BitVec 32} : flags &&& O_NONBLOCK = 0 →
      RawSocket ws host (RawTcpSocket.fromFd fd)
        (some { fd, created := flags, flags, interest := none })
  | write {raw raw' : RawTcpSocket} {k k' : Kernel} {len : Nat} {r : IoResult Nat} :
      RawSocket ws host raw k →
      (raw.write ws len).Exec Kernel.allows k (.returned (r, raw')) k' →
      RawSocket ws host raw' k'
  | read {raw raw' : RawTcpSocket} {k k' : Kernel} {len : Nat} {r : IoResult Nat} :
      RawSocket ws host raw k →
      (raw.read ws len).Exec Kernel.allows k (.returned (r, raw')) k' →
      RawSocket ws host raw' k'
  | close {raw raw' : RawTcpSocket} {k k' : Kernel} :
      RawSocket ws host raw k → raw.close.Exec Kernel.allows k (.returned raw') k' →
      RawSocket ws host raw' k'

inductive Origin where
  /-- `TcpSocket::connect` -/
  | connect
  /-- `from_raw_tcp_socket` -/
  | raw
  deriving DecidableEq, Repr

/-- A socket that has just been made, with an `EventSourceInfo` of its own. -/
inductive Start (ws : WordSize) (host : Endian) : Origin → StreamState → Prop where
  | connect {this : Ptr} {info : SourceId} {addr : SocketAddr} {q queue : EventQueueImpl}
      {sock : TcpSocket} {kernel : Kernel} : ownEvents info q = [] →
      (TcpSocket.connect host this info addr q).Exec Kernel.allows none
        (.returned (.ok sock, queue)) kernel →
      Start ws host .connect
        { sock, queue, phase := .idle, kernel, pushed := appended info q queue
          closedBy := none }
  | raw {this : Ptr} {info : SourceId} {queue : EventQueueImpl} {raw : RawTcpSocket}
      {sock : TcpSocket} {k kernel : Kernel} : ownEvents info queue = [] →
      RawSocket ws host raw k →
      (TcpSocket.fromRawTcpSocket this info raw queue).Exec Kernel.allows k
        (.returned sock) kernel →
      Start ws host .raw
        { sock, queue, phase := .idle, kernel, pushed := [], closedBy := none }

end Revbio.Stream
