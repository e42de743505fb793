/-
Revbio.Dial.System — a task that holds one TcpSocket at a time, and
connects again when it is over with it.

What such a task does with an event is its `Script`: new values for its
variables, and the call it makes next. Calls and callbacks are those of
`Revbio.Stream.System`, with the descriptor of the socket the task has at
the moment: `fcntl` succeeds, and after a refused `epoll_ctl`, which ends
the task, there is no step. `socket = TcpSocket::connect(..)` makes the new
socket first and then drops the old one.

Two programs of the repository have this shape: `subtask` of `example.rs`
and `main` of `serverexample.rs`.
-/
import Revbio.Linux.Timer
import Revbio.Stream.System

namespace Revbio.Dial

open CallTree EventLoop Revbio.Stream

variable {V : Type}

/-! ## Scripts -/

/-- Where a task is in its loop. -/
inductive Place where
  /-- at `next_event` -/
  | next
  | reading (nrBytes : Nat)
  | writing (len : Nat)
  /-- about to connect again -/
  | connecting
  /-- about to stop what else it has, to close the socket and to return -/
  | leaving
  | ended
  | failed
  deriving DecidableEq, Repr

/-- A task with variables `V`. -/
structure Script (V : Type) where
  socketaddr : SocketAddr
  /-- the body of the loop, up to the call -/
  react : TcpSocket → V → Event → V × Place
  afterRead : V → IoResult Nat → V
  afterWrite : V → V
  afterConnect : V → V

/-! ## The system -/

structure Dialer (V : Type) where
  /-- the socket it has -/
  stream : StreamState
  place : Place
  vars : V
  /-- what it has been told by that socket -/
  taken : List EventKind
  /-- the connections it has made -/
  connects : Nat

/-- The task with the result of `next_event`. -/
def Dialer.after (p : Script V) (s : Dialer V) (stream : StreamState) : LoopLabel → Dialer V
  | .goesOn => { s with stream }
  | .returns (.error _) => { s with stream, place := .failed }
  | .returns (.ok ev) =>
      let (vars, place) := p.react s.stream.sock s.vars ev
      { s with
        stream, vars, place
        taken := if ev.originatesFrom s.stream.sock then s.taken ++ [ev.eventType] else s.taken }

inductive DialLabel where
  | loop (l : LoopLabel)
  | report
  | callback (epollEvents : UInt32)
  | read (result : IoResult Nat)
  | write (result : IoResult Nat)
  | connect
  | leave

/-- `sources` are the other sources the task has. -/
inductive DialStep (ws : WordSize) (host : Endian) (p : Script V) (sources : List SourceId) :
    Dialer V → DialLabel → Dialer V → Prop where
  | loop {s : Dialer V} {l : LoopLabel} {stream : StreamState} : s.place = .next →
      Step ws s.stream (.loop l) stream →
      DialStep ws host p sources s (.loop l) (s.after p stream l)
  | report {s : Dialer V} {stream : StreamState} : s.place = .next →
      Step ws s.stream .report stream →
      DialStep ws host p sources s .report { s with stream }
  | callback {s : Dialer V} {mask : UInt32} {stream : StreamState} : s.place = .next →
      Step ws s.stream (.callback mask) stream →
      DialStep ws host p sources s (.callback mask) { s with stream }
  | read {s : Dialer V} {nrBytes : Nat} {result : IoResult Nat} {sock : TcpSocket}
      {queue : EventQueueImpl} {kernel : Kernel} : s.place = .reading nrBytes →
      (s.stream.sock.read ws nrBytes s.stream.queue).Exec Kernel.allows s.stream.kernel
        (.returned (result, sock, queue)) kernel →
      DialStep ws host p sources s (.read result)
        { s with
          stream := s.stream.goOn .call sock queue kernel .idle
          place := .next
          vars := p.afterRead s.vars result }
  | write {s : Dialer V} {len : Nat} {result : IoResult Nat} {sock : TcpSocket}
      {queue : EventQueueImpl} {kernel : Kernel} : s.place = .writing len →
      (s.stream.sock.write ws len s.stream.queue).Exec Kernel.allows s.stream.kernel
        (.returned (result, sock, queue)) kernel →
      DialStep ws host p sources s (.write result)
        { s with
          stream := s.stream.goOn .call sock queue kernel .idle
          place := .next
          vars := p.afterWrite s.vars }
  /-- the EventSourceInfo of a new socket is a new one -/
  | connect {s : Dialer V} {this : Ptr} {info : SourceId} {sock : TcpSocket}
      {queue queue' : EventQueueImpl} {kernel kernel' : Kernel} : s.place = .connecting →
      ownEvents info s.stream.queue = [] → info ≠ s.stream.sock.eventSourceInfo →
      info ∉ sources →
      (TcpSocket.connect host this info p.socketaddr s.stream.queue).Exec Kernel.allows none
        (.returned (.ok sock, queue)) kernel →
      (s.stream.sock.drop queue).Exec Kernel.allows s.stream.kernel (.returned queue') kernel' →
      DialStep ws host p sources s .connect
        { stream :=
            { sock, queue := queue', phase := .idle, kernel
              pushed := appended info s.stream.queue queue
              closedBy := none }
          place := .next
          vars := p.afterConnect s.vars
          taken := []
          connects := s.connects + 1 }
  /-- `unwrap` fails the task -/
  | connectFailed {s : Dialer V} {this : Ptr} {info : SourceId} {err : IoError}
      {queue : EventQueueImpl} {kernel : Kernel} : s.place = .connecting →
      (TcpSocket.connect host this info p.socketaddr s.stream.queue).Exec Kernel.allows none
        (.returned (.error err, queue)) kernel →
      DialStep ws host p sources s .connect { s with place := .failed }
  | leave {s : Dialer V} {between stream : StreamState} : s.place = .leaving →
      Step ws s.stream .others between → Step ws between (.call .close) stream →
      DialStep ws host p sources s .leave { s with stream, place := .ended }

/-- In front of the loop, the first socket made. -/
structure Dialer.Starts (ws : WordSize) (host : Endian) (sources : List SourceId)
    (s : Dialer V) : Prop where
  stream : Start ws host .connect s.stream
  others : s.stream.sock.eventSourceInfo ∉ sources
  place : s.place = .next
  taken : s.taken = []
  connects : s.connects = 1

/-! ## `subtask` -/

/-- What `subtask` sends to the task that has started it. -/
inductive Message where
  | text (text : String)
  /-- what it has read, if it is text -/
  | data (nrRead : Nat)
  deriving DecidableEq, Repr

structure SubtaskVars where
  streamAlive : Bool
  iterations : Int
  /-- the messages sent so far -/
  sent : List Message
  deriving DecidableEq, Repr

def SubtaskVars.send (v : SubtaskVars) (m : Message) : SubtaskVars :=
  { v with sent := v.sent ++ [m] }

def request : String := "GET / HTTP/1.1\r\nHost: " ++ "host" ++ "\r\n\r\n"

/-- `subtask`, with the timer `sub_timer`. -/
def subtask (subTimer : Timer) : Script SubtaskVars where
  socketaddr := ⟨.ipv4Addr 192 168 1 99, 80⟩
  react socket v event :=
    if event.originatesFrom subTimer then
      let v := v.send (.text "subtimer::tick()")
      if !v.streamAlive then
        if v.iterations > 0 then (v, .connecting) else (v, .leaving)
      else (v, .next)
    else if event.originatesFrom socket then
      match event.eventType with
      | .connectedEvent =>
          ({ v.send (.text "TCP stream got connected") with streamAlive := true },
            .writing request.utf8ByteSize)
      | .ioErrorEvent err =>
          let v := (v.send (.text "IoError")).send (.text err.desc)
          ({ v with streamAlive := false, iterations := v.iterations - 1 }, .next)
      | .streamClosedEvent =>
          let v := v.send (.text "TCP connection closed")
          ({ v with streamAlive := false, iterations := v.iterations - 1 }, .next)
      | .dataAvailableEvent nrBytes => (v, .reading nrBytes)
      | _ => (v, .next)
    else (v, .next)
  afterRead v readRes :=
    match readRes with
    | .error err => v.send (.text err.desc)
    | .ok nrRead => v.send (.data nrRead)
  afterWrite v := { v with iterations := v.iterations - 1 }
  afterConnect v := { v with streamAlive := true }

/-! ## `main` of `serverexample.rs` -/

structure MainVars where
  receivedData : Bool
  deriving DecidableEq, Repr

/-- It prints what it reads, and connects again as long as there was
something to read. -/
def main : Script MainVars where
  socketaddr := ⟨.ipv4Addr 127 0 0 1, 7000⟩
  react socket v event :=
    if event.originatesFrom socket then
      match event.eventType with
      | .connectedEvent => (v, .next)
      | .ioErrorEvent _ => if v.receivedData then (v, .connecting) else (v, .ended)
      | .streamClosedEvent => if v.receivedData then (v, .connecting) else (v, .ended)
      | .dataAvailableEvent nrBytes => (v, .reading nrBytes)
      | _ => (v, .next)
    else (v, .next)
  afterRead v readRes :=
    match readRes with
    | .error _ => v
    | .ok _ => { v with receivedData := true }
  afterWrite v := v
  afterConnect _ := { receivedData := false }

end Revbio.Dial
