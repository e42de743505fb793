/-
Revbio.Epoll.System — all the objects of one task and the descriptors
behind them, as a labelled transition system.

The kernel is a table of descriptors: a number is free, or open and then
possibly in the epoll set of the task's queue with a callback pointer
(`Kernel`). So an entry of the epoll set goes when its descriptor is
closed. New descriptors get any free number. All answers are open
otherwise; any call may fail.

The objects are the sources in their boxes, each under the address of its
box, and the values a source can be made from: raw sockets and blocking
channels. Those have no box, and the number they stand under is only a
name. A box can be put where an earlier one was (`this` is any unused
address). A task that fails does not go on, so a step is a call that
returns.

`poll_events` follows the pointer it finds in the epoll set: `poll` is a
step only if there is an object behind it.
-/
import Revbio.Lib.Ownership
import Revbio.Lib.Transition
import Revbio.Linux.Channel
import Revbio.Linux.Tcp
import Revbio.Linux.Timer

namespace Revbio.Epoll

open CallTree Ownership Function

/-! ## The kernel -/

abbrev Kernel := Table Ptr Fd

/-- A call that makes a descriptor fails, or gives out a free number. -/
def Kernel.handsOut (k : Kernel) (r : Int) (k' : Kernel) : Prop :=
  (r = -1 ∧ k' = k) ∨ (0 ≤ r ∧ k r = .free ∧ k' = update k r (.held none))

/-- `epoll_ctl` on the epoll set of the queue. -/
def Kernel.control (k : Kernel) (op : EpollCtl) (fd : Fd) (data : Option Ptr) (r : Int)
    (k' : Kernel) : Prop :=
  (r ≠ 0 ∧ k' = k) ∨ (r = 0 ∧ match op with
    | .add => k fd = .held none ∧ k' = update k fd (.held data)
    | .mod => (∃ p, k fd = .held (some p)) ∧ k' = update k fd (.held data)
    | .del => (∃ p, k fd = .held (some p)) ∧ k' = update k fd (.held none))

def Kernel.answers (k : Kernel) : (c : Syscall) → c.Ret → Kernel → Prop
  | .epollCreate _ => k.handsOut
  | .timerfdCreate => k.handsOut
  | .eventfd => k.handsOut
  | .socket _ _ => k.handsOut
  | .accept _ => k.handsOut
  | .epollCtl _ op fd _ data => k.control op fd data
  | .close fd => fun _ k' => k' = update k fd .free
  | _ => fun _ k' => k' = k

def Kernel.allows (k : Kernel) : (c : Call) → c.Ret → Kernel → Prop
  | .once c => k.answers c
  | .retry c => k.answers c

/-! ## The objects -/

variable {T : Type}

inductive Object (T : Type) where
  | rawTcp (s : RawTcpSocket)
  | rawServer (s : RawTcpServerSocket)
  /-- a channel whose `BlockingReceiver` has not been converted -/
  | channel (d : SharedChannelData T)
  | tcp (s : TcpSocket)
  | server (s : TcpServerSocket)
  | timer (t : Timer)
  | receiver (r : Receiver) (d : SharedChannelData T)
  deriving DecidableEq, Repr

/-- The pointer of a source. -/
def Object.processFunc : Object T → Option Ptr
  | .tcp s => some s.processFunc
  | .server s => some s.processFunc
  | .timer t => some t.processFunc
  | .receiver r _ => some r.processFunc
  | _ => none

structure System (T : Type) where
  objects : Ptr → Option (Object T)
  queue : EventQueueImpl
  kernel : Kernel

/-! ## What can be done -/

/-- The constructors that start from nothing. -/
inductive Creation where
  | rawTcpSocket (addr : SocketAddr)
  | rawTcpServerSocket (addr : SocketAddr) (backlog : Int)
  | channel
  | tcpSocket (addr : SocketAddr)
  | tcpServerSocket (addr : SocketAddr) (backlog : Int)
  | timer

def created {α : Type} (f : α → Object T) (result : IoResult α) : Option (Object T) :=
  match result with
  | .ok a => some (f a)
  | .error _ => none

def Creation.run (host : Endian) (this : Ptr) (info : SourceId) (q : EventQueueImpl) :
    Creation → Io (Option (Object T) × EventQueueImpl)
  | .rawTcpSocket addr => do
      return (created .rawTcp (← RawTcpSocket.connect host addr), q)
  | .rawTcpServerSocket addr backlog => do
      return (created .rawServer (← RawTcpServerSocket.bind host addr backlog), q)
  | .channel => return (some (.channel (Channel.createBlocking T)), q)
  | .tcpSocket addr => do
      let (result, q) ← TcpSocket.connect host this info addr q
      return (created .tcp result, q)
  | .tcpServerSocket addr backlog => do
      return (created .server (← TcpServerSocket.bind host this info addr backlog q), q)
  | .timer => do return (created .timer (← Timer.create this info), q)

/-- The constructors that take a value over: `from_raw_tcp_socket`,
`from_raw_server_socket` and `from_blocking_receiver`. -/
def Object.convert (this : Ptr) (info : SourceId) (q : EventQueueImpl) :
    Object T → Option (Io (Object T × EventQueueImpl))
  | .rawTcp s => some do return (.tcp (← TcpSocket.fromRawTcpSocket this info s q), q)
  | .rawServer s => some do
      return (.server (← TcpServerSocket.fromRawServerSocket this info s q), q)
  | .channel d => some do
      let (r, d, q) ← Receiver.fromBlockingReceiver this info d q
      return (.receiver r d, q)
  | _ => none

/-- The methods, those of a channel's other end included. A wait in the
middle of a receive ends the call; `recvTurn` and `recvOptTurn` go on. -/
inductive Method (T : Type) where
  | close
  | write (len : Nat)
  | read (len : Nat)
  | setInterval (interval : UInt32)
  | setSingleshot (singleshot : Bool)
  | start
  | stop
  | recv
  | recvTurn
  | recvOpt
  | recvOptTurn
  | tryRecv
  | trySend (t : T)
  | cloneTransmitter
  | dropTransmitter
  /-- the second half of the callback of a `Receiver` -/
  | announce

/-- The data after a turn of a receive; a wait leaves it alone. -/
def Turn.data {α : Type} (d : SharedChannelData T) :
    Turn (α × SharedChannelData T) → SharedChannelData T
  | .wait => d
  | .done (_, d) => d

/-- The methods of the other end. -/
def transmitterMethod (ws : WordSize) (d : SharedChannelData T) :
    Method T → Option (Io (SharedChannelData T))
  | .trySend t => some do
      let (_, d) ← Transmitter.trySend d t
      return d
  | .cloneTransmitter => some (Transmitter.clone d)
  | .dropTransmitter => some (Transmitter.drop ws d)
  | _ => none

def channelMethod (ws : WordSize) (d : SharedChannelData T) :
    Method T → Option (Io (SharedChannelData T))
  | .recv => some do return Turn.data d (← BlockingReceiver.recv d)
  | .recvTurn => some do return Turn.data d (← BlockingReceiver.recvTurn d)
  | .recvOpt => some do return Turn.data d (← BlockingReceiver.recvOpt d)
  | .recvOptTurn => some do return Turn.data d (← BlockingReceiver.recvOptTurn d)
  | .tryRecv => some do
      let (_, d) ← BlockingReceiver.tryRecv d
      return d
  | m => transmitterMethod ws d m

/-- The receiver and the data after a turn of its `recv`. -/
def Turn.receiver (r : Receiver) (d : SharedChannelData T) :
    Turn (Option T × Receiver × SharedChannelData T) → Object T
  | .wait => .receiver r d
  | .done (_, r, d) => .receiver r d

def receiverMethod (ws : WordSize) (r : Receiver) (d : SharedChannelData T)
    (q : EventQueueImpl) : Method T → Option (Io (Object T × EventQueueImpl))
  | .recv => some do return (Turn.receiver r d (← r.recv d), q)
  | .recvTurn => some do return (Turn.receiver r d (← r.recvTurn d), q)
  | .announce => some do
      let (r, d, q) ← r.announce ws d q
      return (.receiver r d, q)
  | m => (transmitterMethod ws d m).map fun p => do return (.receiver r (← p), q)

def Object.method (ws : WordSize) (q : EventQueueImpl) :
    Object T → Method T → Option (Io (Object T × EventQueueImpl))
  | .rawTcp s, .close => some do return (.rawTcp (← s.close), q)
  | .rawTcp s, .write len => some do
      let (_, s) ← s.write ws len
      return (.rawTcp s, q)
  | .rawTcp s, .read len => some do
      let (_, s) ← s.read ws len
      return (.rawTcp s, q)
  | .rawServer s, .close => some do return (.rawServer (← s.close), q)
  | .channel d, m => (channelMethod ws d m).map fun p => do return (.channel (← p), q)
  | .tcp s, .close => some do
      let (s, q) ← s.close q
      return (.tcp s, q)
  | .tcp s, .write len => some do
      let (_, s, q) ← s.write ws len q
      return (.tcp s, q)
  | .tcp s, .read len => some do
      let (_, s, q) ← s.read ws len q
      return (.tcp s, q)
  | .server s, .close => some do
      let (s, q) ← s.close q
      return (.server s, q)
  | .timer t, .setInterval n => some do return (.timer (t.setInterval n), q)
  | .timer t, .setSingleshot b => some do return (.timer (t.setSingleshot b), q)
  | .timer t, .start => some do return (.timer (← t.start ws q), q)
  | .timer t, .stop => some do
      let (t, q) ← t.stop q
      return (.timer t, q)
  | .receiver r d, m => receiverMethod ws r d q m
  | _, _ => none

/-- Accepting gives a further object. -/
def Object.accept (q : EventQueueImpl) :
    Object T → Option (Io (Option (Object T) × Object T × EventQueueImpl))
  | .rawServer s => some do
      let (result, s) ← s.accept
      return (created .rawTcp result, .rawServer s, q)
  | .server s => some do
      let (result, s, q) ← s.accept q
      return (created .rawTcp result, .server s, q)
  | _ => none

/-- The callbacks. That of a `Receiver` is only its first half. -/
def Object.processEpollEvents (ws : WordSize) (q : EventQueueImpl) (epollEvents : UInt32) :
    Object T → Option (Io (Object T × EventQueueImpl))
  | .tcp s => some do
      let (s, q) ← s.processEpollEvents ws q epollEvents
      return (.tcp s, q)
  | .server s => some do
      let (s, q) ← s.processEpollEvents q epollEvents
      return (.server s, q)
  | .timer t => some do
      let (t, q) ← t.processEpollEvents q epollEvents
      return (.timer t, q)
  | .receiver r d => some do
      let _ ← Receiver.readEventfd d epollEvents
      return (.receiver r d, q)
  | _ => none

/-- The destructors, down to the last field. -/
def Object.drop (q : EventQueueImpl) : Object T → Io EventQueueImpl
  | .rawTcp s => do
      s.drop
      return q
  | .rawServer s => do
      s.drop
      return q
  | .channel d => do
      let _ ← BlockingReceiver.drop Destructor.inert d
      return q
  | .tcp s => s.drop q
  | .server s => s.drop q
  | .timer t => t.drop q
  | .receiver r d => do
      let (d, q) ← r.drop d q
      let _ ← BlockingReceiver.drop Destructor.inert d
      return q

/-! ## Holdings -/

/-- The descriptor an open socket has, with watch `w`. -/
def heldBy (state : ConnectionState) (fd : Fd) (w : Option Ptr) : Holding Ptr Fd :=
  if state = .closed then none else some (fd, w)

theorem heldBy_eq_some {state : ConnectionState} {fd d : Fd} {w w' : Option Ptr} :
    heldBy state fd w = some (d, w') ↔ state ≠ .closed ∧ fd = d ∧ w = w' := by
  simp [heldBy]

/-- The descriptor an object counts on, and the pointer it believes to be in
the epoll set for it. -/
def Object.holding : Object T → Holding Ptr Fd
  | .rawTcp s => heldBy s.connectionState s.fd none
  | .rawServer s => heldBy s.connectionState s.fd none
  | .channel _ => none
  | .tcp s => heldBy s.socket.connectionState s.socket.fd (some s.processFunc)
  | .server s => heldBy s.socket.connectionState s.socket.fd (some s.processFunc)
  | .timer t => some (t.fd, if t.epollRegistered then some t.processFunc else none)
  | .receiver r d => if d.epollFd = -1 then none else some (d.epollFd, some r.processFunc)

def System.holdings (s : System T) : Holdings Ptr Fd :=
  fun i => (s.objects i).bind Object.holding

/-! ## The system -/

inductive Label (T : Type) where
  | create (this : Ptr) (c : Creation)
  | convert (i this : Ptr)
  | method (i : Ptr) (m : Method T)
  | accept (i new : Ptr)
  | poll (fd : Fd) (epollEvents : UInt32)
  | drop (i : Ptr)
  /-- `next_event` takes an event out, the client puts some in -/
  | client (events : List Event)
  /-- code elsewhere opens or closes a descriptor of its own -/
  | foreign (fd : Fd) (opens : Bool)

inductive Step (ws : WordSize) (host : Endian) : System T → Label T → System T → Prop where
  | create {s : System T} {this : Ptr} {c : Creation} {info : SourceId}
      {o : Option (Object T)} {q : EventQueueImpl} {k : Kernel} :
      s.objects this = none →
      (c.run host this info s.queue).Exec Kernel.allows s.kernel (.returned (o, q)) k →
      Step ws host s (.create this c) ⟨update s.objects this o, q, k⟩
  | convert {s : System T} {i this : Ptr} {info : SourceId} {o o' : Object T}
      {p : Io (Object T × EventQueueImpl)} {q : EventQueueImpl} {k : Kernel} :
      s.objects i = some o → s.objects this = none →
      o.convert this info s.queue = some p →
      p.Exec Kernel.allows s.kernel (.returned (o', q)) k →
      Step ws host s (.convert i this)
        ⟨update (update s.objects i none) this (some o'), q, k⟩
  | method {s : System T} {i : Ptr} {m : Method T} {o o' : Object T}
      {p : Io (Object T × EventQueueImpl)} {q : EventQueueImpl} {k : Kernel} :
      s.objects i = some o → o.method ws s.queue m = some p →
      p.Exec Kernel.allows s.kernel (.returned (o', q)) k →
      Step ws host s (.method i m) ⟨update s.objects i (some o'), q, k⟩
  | accept {s : System T} {i new : Ptr} {o o' : Object T} {made : Option (Object T)}
      {p : Io (Option (Object T) × Object T × EventQueueImpl)} {q : EventQueueImpl}
      {k : Kernel} :
      s.objects i = some o → s.objects new = none → o.accept s.queue = some p →
      p.Exec Kernel.allows s.kernel (.returned (made, o', q)) k →
      Step ws host s (.accept i new)
        ⟨update (update s.objects i (some o')) new made, q, k⟩
  | poll {s : System T} {fd : Fd} {ptr : Ptr} {epollEvents : UInt32} {o o' : Object T}
      {p : Io (Object T × EventQueueImpl)} {q : EventQueueImpl} {k : Kernel} :
      s.kernel fd = .held (some ptr) → s.objects ptr = some o →
      o.processEpollEvents ws s.queue epollEvents = some p →
      p.Exec Kernel.allows s.kernel (.returned (o', q)) k →
      Step ws host s (.poll fd epollEvents) ⟨update s.objects ptr (some o'), q, k⟩
  | drop {s : System T} {i : Ptr} {o : Object T} {q : EventQueueImpl} {k : Kernel} :
      s.objects i = some o →
      (o.drop s.queue).Exec Kernel.allows s.kernel (.returned q) k →
      Step ws host s (.drop i) ⟨update s.objects i none, q, k⟩
  | client {s : System T} {events : List Event} :
      Step ws host s (.client events)
        { s with queue := { s.queue with readyEvents := events } }
  | foreignOpen {s : System T} {fd : Fd} : s.kernel fd = .free →
      Step ws host s (.foreign fd true) { s with kernel := update s.kernel fd (.held none) }
  | foreignClose {s : System T} {fd : Fd} : s.kernel fd = .held none →
      (∀ i w, s.holdings i ≠ some (fd, w)) →
      Step ws host s (.foreign fd false) { s with kernel := update s.kernel fd .free }

/-- A task with no objects yet, next to open descriptors of other code. -/
def System.start (opened : Fd → Bool) (queue : EventQueueImpl) : System T where
  objects _ := none
  queue := queue
  kernel fd := if opened fd then .held none else .free

end Revbio.Epoll
