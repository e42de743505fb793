/-
Revbio.Sockets.System — the lives of sockets, with every call they make.

A socket object owns one descriptor: a constructor gets it from
`socket(2)`, or it is what `accept(2)` gave to a listening socket. A slot
follows one owner from there to its drop, through `from_raw_tcp_socket`
and `from_raw_server_socket`, which move the descriptor into a box. It
remembers every call made on the way. The kernel may answer anything; it
has a callback made for a descriptor that has been registered and is not
closed (`watch`).

A task that fails unwinds and drops what it owns. What a failed operation
leaves behind stays in its slot, for the drop.
-/
import Mathlib.Logic.Relation
import Revbio.Epoll.System
import Revbio.Lib.CallTrace

namespace Revbio.Sockets

open CallTree Prog Epoll Function

variable {T : Type}

abbrev Trace : Type := List (Answered Call.Ret)

/-! ## What a call is about -/

/-- The descriptor a call is issued on. -/
def fdOf : Syscall → Option Fd
  | .epollCtl _ _ fd _ _ => some fd
  | .timerfdSettime fd _ => some fd
  | .readCounter fd => some fd
  | .writeOne fd => some fd
  | .close fd => some fd
  | .fcntlGetfl fd => some fd
  | .fcntlSetfl fd _ => some fd
  | .ioctlFionread fd => some fd
  | .connect fd _ _ => some fd
  | .setsockoptReuseaddr fd => some fd
  | .bind fd _ _ => some fd
  | .listen fd _ => some fd
  | .accept fd => some fd
  | .getsockoptError fd => some fd
  | .send fd _ => some fd
  | .recv fd _ => some fd
  | _ => none

def issuedOn : Call → Option Fd
  | .once c => fdOf c
  | .retry c => fdOf c

/-- The call passes `fd` to `close(2)`. -/
def closes (fd : Fd) : Call → Bool
  | .once (.close fd') => fd' = fd
  | .retry (.close fd') => fd' = fd
  | _ => false

/-- The descriptor `socket(2)` has returned. -/
def socketFd : (c : Call) → c.Ret → Option Fd
  | .once (.socket _ _), r => if (r : Int) = -1 then none else some r
  | .retry (.socket _ _), r => if (r : Int) = -1 then none else some r
  | _, _ => none

/-- The descriptor `accept(2)` has returned. -/
def acceptFd : (c : Call) → c.Ret → Option Fd
  | .once (.accept _), r => if (r : Int) = -1 then none else some r
  | .retry (.accept _), r => if (r : Int) = -1 then none else some r
  | _, _ => none

/-- All descriptors `socket(2)` has returned. -/
def madeBy (tr : Trace) : List Fd := tr.filterMap fun c => socketFd c.1 c.2

/-- All descriptors `accept(2)` has returned. -/
def acceptedBy (tr : Trace) : List Fd := tr.filterMap fun c => acceptFd c.1 c.2

/-- How often `fd` has been passed to `close(2)`. -/
def closings (fd : Fd) (tr : Trace) : Nat := tr.countP fun c => closes fd c.1

/-- No call comes on `fd` after its close, not even a second one. -/
def LeftAlone (fd : Fd) (tr : Trace) : Prop :=
  tr.Pairwise fun c c' => closes fd c.1 = true → issuedOn c'.1 ≠ some fd

/-- What the epoll set watches for the object. -/
def watch (watched : Option Fd) : (c : Call) → c.Ret → Option Fd
  | .once (.epollCtl _ .add fd _ _), r => if (r : Int) = 0 then some fd else watched
  | .once (.epollCtl _ .del fd _ _), r =>
      if (r : Int) = 0 ∧ watched = some fd then none else watched
  | .once (.close fd), _ => if watched = some fd then none else watched
  | .retry (.close fd), _ => if watched = some fd then none else watched
  | _, _ => watched

/-! ## What a failure leaves behind -/

/-- A raw socket moved into its box. -/
def boxed (this : Ptr) (info : SourceId) : Object T → Object T
  | .rawTcp raw => .tcp
      { socket := raw, processFunc := this, eventSourceInfo := info, availableBytes := 0 }
  | .rawServer raw => .server
      { socket := raw, processFunc := this, eventSourceInfo := info, clientAvailable := false }
  | o => o

/-- The socket as its callback leaves it when it fails: after `EPOLLERR` it
fails before it has changed anything, else in the `modify_fd` that comes
after a successful connect. -/
def leftByCallback (epollEvents : UInt32) (s : TcpSocket) : TcpSocket :=
  if epollEvents &&& EPOLLERR ≠ 0 then s
  else { s with socket := { s.socket with blocking := true, connectionState := .connected } }

/-- `TcpSocket::connect` up to the box: what comes before the call of
`from_raw_tcp_socket`. -/
def connectRaw (host : Endian) (addr : SocketAddr) : Io (IoResult RawTcpSocket) := do
  match ← createSocket addr false with
  | .error err => return .error err
  | .ok fd =>
      let (sockaddr, len) := addrToSockaddr host addr
      let rawsock : RawTcpSocket := { fd, blocking := false, connectionState := .created }
      let r : Int ← retry (.connect fd sockaddr len)
      if r = -1 then
        let errno : Int ← sys .errno
        if errno ≠ EINPROGRESS then
          let _ ← sys (.println "Failed on connect")
          let err ← lastError
          rawsock.drop
          return .error err
        else
          return .ok { rawsock with connectionState := .connecting }
      else
        let rawsock := { rawsock with connectionState := .connected }
        return .ok (← rawsock.setBlocking true)

/-- The rest of `TcpSocket::connect`. -/
def connectBoxed (this : Ptr) (info : SourceId) (q : EventQueueImpl) :
    IoResult RawTcpSocket → Io (IoResult TcpSocket × EventQueueImpl)
  | .error err => return (.error err, q)
  | .ok raw => do
      let ret ← TcpSocket.fromRawTcpSocket this info raw q
      if raw.connectionState = .connected then
        return (.ok ret, q.pushBackEvent (Event.new .connectedEvent ret.eventSourceInfo))
      else
        return (.ok ret, q)

/-- The two parts make up the constructor. -/
theorem connect_eq (host : Endian) (this : Ptr) (info : SourceId) (addr : SocketAddr)
    (q : EventQueueImpl) :
    TcpSocket.connect host this info addr q =
      connectRaw host addr >>= connectBoxed this info q := by
  unfold TcpSocket.connect connectRaw
  rw [bind_bind]
  refine congrArg (createSocket addr false >>= ·) (funext fun result => ?_)
  cases result with
  | error err => rfl
  | ok fd =>
    simp only [retry_eq, sys_eq, call_bind, ret_bind]
    refine congrArg (Prog.call _) (funext fun r => ?_)
    by_cases hr : (r : Int) = -1
    · rw [if_pos hr, if_pos hr]
      refine congrArg (Prog.call _) (funext fun errno => ?_)
      by_cases he : errno ≠ EINPROGRESS
      · show (if _ then _ else _) = (if _ then _ else _) >>= _
        rw [if_pos he, if_pos he]
        simp only [call_bind, bind_bind]
        rfl
      · show (if _ then _ else _) = (if _ then _ else _) >>= _
        rw [if_neg he, if_neg he]
        rfl
    · rw [if_neg hr, if_neg hr]
      rfl

/-- The part of a constructor of a boxed socket that makes the raw one. -/
def rawPart (host : Endian) : Creation → Option (Io (Option (Object T)))
  | .tcpSocket addr => some do return created .rawTcp (← connectRaw host addr)
  | .tcpServerSocket addr backlog => some do
      return created .rawServer (← RawTcpServerSocket.bind host addr backlog)
  | _ => none

/-! ## Slots -/

structure Slot (T : Type) where
  /-- the owner; none before it is made, and once it has been dropped -/
  object : Option (Object T)
  /-- descriptors that come from `accept(2)` -/
  accepted : List Fd
  calls : Trace

def Slot.unused : Slot T := ⟨none, [], []⟩

/-- All descriptors `socket(2)` and `accept(2)` have returned for it. -/
def Slot.received (s : Slot T) : List Fd :=
  s.accepted ++ madeBy s.calls

def Slot.watched (s : Slot T) : Option Fd := account watch none s.calls

/-- The owner goes on as `o`, after the calls `tr`. -/
def Slot.goOn (s : Slot T) (o : Option (Object T)) (tr : Trace) : Slot T :=
  { s with object := o, calls := s.calls ++ tr }

/-! ## Steps -/

def makesSocket : Creation → Prop
  | .channel => False
  | .timer => False
  | _ => True

inductive Operation (T : Type) where
  | convert (this : Ptr) (info : SourceId)
  | method (m : Method T)
  | callback (epollEvents : UInt32)

def operate (ws : WordSize) (q : EventQueueImpl) (o : Object T) :
    Operation T → Option (Io (Object T × EventQueueImpl))
  | .convert this info => o.convert this info q
  | .method m => o.method ws q m
  | .callback epollEvents => o.processEpollEvents ws q epollEvents

/-- The owner after a failed operation. -/
def left (o : Object T) : Operation T → Object T
  | .convert this info => boxed this info o
  | .method _ => o
  | .callback epollEvents =>
      match o with
      | .tcp s => .tcp (leftByCallback epollEvents s)
      | o => o

def ownerAfter (o : Object T) : Exit (Object T × EventQueueImpl) → Object T
  | .returned (o', _) => o'
  | .failed _ => o

/-- The new owner, and the listening socket. -/
def ownersAfter (o : Object T) :
    Exit (Option (Object T) × Object T × EventQueueImpl) → Option (Object T) × Object T
  | .returned (made, o', _) => (made, o')
  | .failed _ => (none, o)

/-- The queue is whatever it is at the time. -/
inductive Step (ws : WordSize) (host : Endian) : (Ptr → Slot T) → (Ptr → Slot T) → Prop where
  | create {s : Ptr → Slot T} {i this : Ptr} {info : SourceId} {c : Creation}
      {q q' : EventQueueImpl} {o : Option (Object T)} {tr : Trace} :
      s i = .unused → makesSocket c →
      (c.run host this info q).Traced tr (.returned (o, q')) →
      Step ws host s (update s i (Slot.unused.goOn o tr))
  /-- the constructor fails in the registration of the boxed socket -/
  | createFailed {s : Ptr → Slot T} {i this : Ptr} {info : SourceId} {c : Creation}
      {q : EventQueueImpl} {p : Io (Option (Object T))} {p' : Io (Object T × EventQueueImpl)}
      {o : Object T} {tr tr' : Trace} {msg : String} :
      s i = .unused → rawPart host c = some p → p.Traced tr (.returned (some o)) →
      o.convert this info q = some p' → p'.Traced tr' (.failed msg) →
      Step ws host s (update s i (Slot.unused.goOn (boxed this info o) (tr ++ tr')))
  | operate {s : Ptr → Slot T} {i : Ptr} {q : EventQueueImpl} {o : Object T}
      {op : Operation T} {p : Io (Object T × EventQueueImpl)} {tr : Trace}
      {x : Exit (Object T × EventQueueImpl)} :
      (s i).object = some o → operate ws q o op = some p →
      (∀ mask, op = .callback mask → (s i).watched ≠ none) → p.Traced tr x →
      Step ws host s (update s i ((s i).goOn (ownerAfter (left o op) x) tr))
  | accept {s : Ptr → Slot T} {i new : Ptr} {q : EventQueueImpl} {o : Object T}
      {p : Io (Option (Object T) × Object T × EventQueueImpl)} {tr : Trace}
      {x : Exit (Option (Object T) × Object T × EventQueueImpl)} :
      (s i).object = some o → s new = .unused → o.accept q = some p → p.Traced tr x →
      Step ws host s (update (update s i ((s i).goOn (ownersAfter o x).2 tr)) new
        ⟨(ownersAfter o x).1, acceptedBy tr, []⟩)
  | drop {s : Ptr → Slot T} {i : Ptr} {q : EventQueueImpl} {o : Object T} {tr : Trace}
      {x : Exit EventQueueImpl} :
      (s i).object = some o → (o.drop q).Traced tr x →
      Step ws host s (update s i ((s i).goOn none tr))

/-- Nothing has been made yet. -/
def start : Ptr → Slot T := fun _ => .unused

abbrev Reachable (ws : WordSize) (host : Endian) : (Ptr → Slot T) → Prop :=
  Relation.ReflTransGen (Step ws host) start

end Revbio.Sockets
