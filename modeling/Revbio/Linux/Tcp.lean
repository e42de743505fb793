/-
Revbio.Linux.Tcp — stream sockets and listening sockets (`linux/tcp.rs`).

The raw types own a descriptor; the event-driven ones wrap a raw one and
register it with the task's epoll. `Drop` of a wrapper is followed by the
drop of its fields, so `TcpSocket.drop` and `TcpServerSocket.drop` end
with the drop of the raw socket.

Buffers only matter by their length (see `Revbio.Linux.Syscalls`).
-/
import Revbio.Linux.EventQueueImpl

namespace Revbio

open CallTree

/-! ## Socket addresses -/

/-- Byte order of the host. -/
inductive Endian where
  | little
  | big
  deriving DecidableEq, Repr

/-- `mem::to_be16` on an unsigned word. -/
def htons (host : Endian) (u : UInt16) : UInt16 :=
  match host with
  | .big => u
  | .little => (u <<< 8) ||| (u >>> 8)

inductive IpAddr where
  | ipv4Addr (a b c d : UInt8)
  | ipv6Addr (a b c d e f g h : UInt16)
  deriving DecidableEq, Repr

structure SocketAddr where
  ip : IpAddr
  port : UInt16
  deriving DecidableEq, Repr

inductive InAddr where
  | inAddr (sAddr : UInt32)
  | in6Addr (s6Addr : List UInt16)
  deriving DecidableEq, Repr

def ipToInaddr (host : Endian) : IpAddr → InAddr
  | .ipv4Addr a b c d =>
      .inAddr ((d.toUInt32 <<< 24) ||| (c.toUInt32 <<< 16) |||
        (b.toUInt32 <<< 8) ||| (a.toUInt32 <<< 0))
  | .ipv6Addr a b c d e f g h =>
      .in6Addr [htons host a, htons host b, htons host c, htons host d,
        htons host e, htons host f, htons host g, htons host h]

/-- The lengths are those of `sockaddr_in` and `sockaddr_in6`. -/
def addrToSockaddr (host : Endian) (addr : SocketAddr) : Sockaddr × Nat :=
  match ipToInaddr host addr.ip with
  | .inAddr inaddr => (.sockaddrIn AF_INET (htons host addr.port) inaddr, 16)
  | .in6Addr inaddr => (.sockaddrIn6 AF_INET6 (htons host addr.port) inaddr, 28)

def createSocket (addr : SocketAddr) (blocking : Bool) : Io (IoResult Fd) := do
  let fam := match addr.ip with
    | .ipv4Addr .. => AF_INET
    | .ipv6Addr .. => AF_INET6
  let ty := SOCK_STREAM ||| SOCK_CLOEXEC
  let ty := if !blocking then ty ||| SOCK_NONBLOCK else ty
  let ret : Int ← sys (.socket fam ty)
  if ret = -1 then
    return .error (← lastError)
  else
    return .ok ret

/-! ## `RawTcpSocket` -/

inductive ConnectionState where
  | created
  | connecting
  | connected
  | closed
  deriving DecidableEq, Repr

structure RawTcpSocket where
  fd : Fd
  blocking : Bool
  connectionState : ConnectionState
  deriving DecidableEq, Repr

/-- The error of an operation on a socket that is not connected. -/
def IoError.notOpen (desc : String) : IoError := ⟨.closed, desc, none⟩

namespace RawTcpSocket

def fromFd (fd : Fd) : RawTcpSocket :=
  { fd, blocking := true, connectionState := .connected }

def setBlocking (s : RawTcpSocket) (blocking : Bool) : Io RawTcpSocket := do
  if s.connectionState = .closed then
    return s
  else if s.blocking == blocking then
    return s
  else
    setFdBlocking s.fd blocking
    return { s with blocking }

/-- It changes the mode and nothing else. -/
theorem setBlocking_within {C : Call → Prop} (hget : ∀ fd, C (.once (.fcntlGetfl fd)))
    (hset : ∀ fd flags, C (.once (.fcntlSetfl fd flags))) (s : RawTcpSocket)
    (blocking : Bool) :
    (s.setBlocking blocking).Within C fun s' =>
      s'.fd = s.fd ∧ s'.connectionState = s.connectionState := by
  unfold setBlocking setFdBlocking
  split
  · exact ⟨rfl, rfl⟩
  · split
    · exact ⟨rfl, rfl⟩
    · exact Prog.within_call (hget _) fun _ => Prog.within_call (hset _ _) fun _ => ⟨rfl, rfl⟩

def closeSocket (s : RawTcpSocket) : Io RawTcpSocket := do
  if s.connectionState = .closed then
    return s
  else
    let s := { s with connectionState := .closed }
    let _ ← sys (.close s.fd)
    return s

def close (s : RawTcpSocket) : Io RawTcpSocket := s.closeSocket

def drop (s : RawTcpSocket) : Io Unit := do
  let _ ← s.closeSocket
  return ()

/-- On an error the socket built for the descriptor is dropped. -/
def connect (host : Endian) (addr : SocketAddr) : Io (IoResult RawTcpSocket) := do
  match ← createSocket addr true with
  | .error err => return .error err
  | .ok fd =>
      let (sockaddr, len) := addrToSockaddr host addr
      let ret := fromFd fd
      let r : Int ← retry (.connect fd sockaddr len)
      if r = -1 then
        let err ← lastError
        ret.drop
        return .error err
      else
        return .ok ret

/-- The tail of `write` and `read` for a negative return value: close,
unless the descriptor would only have blocked. -/
def ioFailed (s : RawTcpSocket) : Io (IoResult Nat × RawTcpSocket) := do
  let errno : Int ← sys .errno
  if errno ≠ EWOULDBLOCK ∧ errno ≠ EAGAIN then
    let s ← s.closeSocket
    return (.error (← lastError), s)
  else
    return (.error (← lastError), s)

def write (ws : WordSize) (s : RawTcpSocket) (len : Nat) :
    Io (IoResult Nat × RawTcpSocket) := do
  if s.connectionState ≠ .connected then
    return (.error (.notOpen "Connection is closed"), s)
  else if len = 0 then
    return (.ok 0, s)
  else
    let ret : Int ← retry (.send s.fd len)
    if ret < 0 then
      s.ioFailed
    else
      return (.ok (ws.asUint ret), s)

def read (ws : WordSize) (s : RawTcpSocket) (len : Nat) :
    Io (IoResult Nat × RawTcpSocket) := do
  if s.connectionState ≠ .connected then
    return (.error (.notOpen "Connection is closed"), s)
  else if len = 0 then
    return (.ok 0, s)
  else
    let ret : Int ← retry (.recv s.fd len)
    if ret = 0 then
      let s ← s.closeSocket
      return (.error .endOfFile, s)
    else if ret < 0 then
      s.ioFailed
    else
      return (.ok (ws.asUint ret), s)

end RawTcpSocket

/-! ## `TcpSocket` -/

structure TcpSocket where
  processFunc : Ptr
  socket : RawTcpSocket
  eventSourceInfo : SourceId
  availableBytes : Nat
  deriving DecidableEq, Repr

instance : EventSource TcpSocket where
  getEventSourceInfo s := s.eventSourceInfo

namespace TcpSocket

def removePendingEvents (s : TcpSocket) (q : EventQueueImpl) : EventQueueImpl :=
  q.removePendingEvents fun ev => ev.originatesFrom s

/-- Registers the fd for reading if it's connected or for writing on
connects. -/
def registerFd (s : TcpSocket) (q : EventQueueImpl) : Io Unit :=
  if s.socket.connectionState = .connected then
    q.registerFd s.socket.fd EPOLLIN s.processFunc
  else
    q.registerFd s.socket.fd EPOLLOUT s.processFunc

def fromRawTcpSocket (this : Ptr) (info : SourceId) (raw : RawTcpSocket)
    (q : EventQueueImpl) : Io TcpSocket := do
  let socket : TcpSocket :=
    { socket := raw, processFunc := this, eventSourceInfo := info, availableBytes := 0 }
  if socket.socket.connectionState ≠ .closed then
    socket.registerFd q
    return socket
  else
    return socket

def connect (host : Endian) (this : Ptr) (info : SourceId) (addr : SocketAddr)
    (q : EventQueueImpl) : Io (IoResult TcpSocket × EventQueueImpl) := do
  match ← createSocket addr false with
  | .error err => return (.error err, q)
  | .ok fd =>
      let (sockaddr, len) := addrToSockaddr host addr
      let rawsock : RawTcpSocket := { fd, blocking := false, connectionState := .created }
      let r : Int ← retry (.connect fd sockaddr len)
      if r = -1 then
        let errno : Int ← sys .errno
        if errno ≠ EINPROGRESS then
          let _ ← sys (.println "Failed on connect")
          let err ← lastError
          rawsock.drop
          return (.error err, q)
        else
          let rawsock := { rawsock with connectionState := .connecting }
          let ret ← fromRawTcpSocket this info rawsock q
          return (.ok ret, q)
      else -- Strangely we were connected synchronously
        let rawsock := { rawsock with connectionState := .connected }
        let rawsock ← rawsock.setBlocking true
        let ret ← fromRawTcpSocket this info rawsock q
        return (.ok ret, q.pushBackEvent (Event.new .connectedEvent ret.eventSourceInfo))

def close (s : TcpSocket) (q : EventQueueImpl) : Io (TcpSocket × EventQueueImpl) := do
  let q := s.removePendingEvents q
  let raw ← s.socket.closeSocket
  return ({ s with socket := raw }, q)

def write (ws : WordSize) (s : TcpSocket) (len : Nat) (q : EventQueueImpl) :
    Io (IoResult Nat × TcpSocket × EventQueueImpl) := do
  let state := s.socket.connectionState
  let (ret, raw) ← s.socket.write ws len
  let s := { s with socket := raw }
  -- Check if the the write caused an error/close
  if state ≠ s.socket.connectionState ∧ s.socket.connectionState = .closed then
    return (ret, s, s.removePendingEvents q)
  else
    return (ret, s, q)

def read (ws : WordSize) (s : TcpSocket) (len : Nat) (q : EventQueueImpl) :
    Io (IoResult Nat × TcpSocket × EventQueueImpl) := do
  let state := s.socket.connectionState
  if s.socket.connectionState = .connected ∧ s.availableBytes = 0 then
    return (.ok 0, s, q)
  else
    let (ret, raw) ← s.socket.read ws len
    let s := { s with socket := raw }
    match ret with
    | .ok readBytes => -- Downcount available bytes
        let s := { s with availableBytes := ws.uintSub s.availableBytes readBytes }
        return (.ok readBytes, s, q)
    | .error err =>
        if state ≠ s.socket.connectionState ∧ s.socket.connectionState = .closed then
          return (.error err, s, s.removePendingEvents q)
        else
          return (.error err, s, q)

def readAvailableBytes (ws : WordSize) (s : TcpSocket) : Io (IoResult Nat × TcpSocket) := do
  let (ret, bytesAvailable) : Int × Int ← retry (.ioctlFionread s.socket.fd)
  if ret < 0 then
    let s := { s with availableBytes := 0 }
    return (.error (← lastError), s)
  else
    let s := { s with availableBytes := ws.asUint bytesAvailable }
    return (.ok (ws.asUint bytesAvailable), s)

/-- The branch for `EPOLLERR`. -/
def onError (s : TcpSocket) (q : EventQueueImpl) : Io (TcpSocket × EventQueueImpl) := do
  let (ret, errno) : Int × Int ← sys (.getsockoptError s.socket.fd)
  if ret ≠ -1 then
    let err ← translateError errno false
    let raw ← s.socket.closeSocket
    return ({ s with socket := raw },
      q.pushBackEvent (Event.new (.ioErrorEvent err) s.eventSourceInfo))
  else
    fail "Could not retrieve error"

/-- The branch for a connected socket that is readable. -/
def onReadable (ws : WordSize) (s : TcpSocket) (q : EventQueueImpl) (epollEvents : UInt32) :
    Io (TcpSocket × EventQueueImpl) := do
  let s ← if epollEvents &&& EPOLLHUP = 0 then do
      let (_, s) ← s.readAvailableBytes ws
      pure s
    else
      pure { s with availableBytes := 0 }
  if s.availableBytes > 0 then
    return (s, q.pushBackEvent
      (Event.new (.dataAvailableEvent s.availableBytes) s.eventSourceInfo))
  else
    let raw ← s.socket.closeSocket
    return ({ s with socket := raw },
      q.pushBackEvent (Event.new .streamClosedEvent s.eventSourceInfo))

/-- The branch for a socket that became writable while connecting. -/
def onWritable (s : TcpSocket) (q : EventQueueImpl) : Io (TcpSocket × EventQueueImpl) := do
  let (ret, out) : Int × Int ← sys (.getsockoptError s.socket.fd)
  let (success, errno) ← if ret ≠ -1 then
      pure (decide (out = 0), out)
    else do
      let e : Int ← sys .errno
      pure (false, e)
  if !success then
    let err ← translateError errno false
    let raw ← s.socket.closeSocket
    return ({ s with socket := raw },
      q.pushBackEvent (Event.new (.ioErrorEvent err) s.eventSourceInfo))
  else -- Connect was successful
    let raw ← s.socket.setBlocking true
    let s := { s with socket := { raw with connectionState := .connected } }
    -- Switch interest to EPOLLIN
    q.modifyFd s.socket.fd EPOLLIN s.processFunc
    return (s, q.pushBackEvent (Event.new .connectedEvent s.eventSourceInfo))

def processEpollEvents (ws : WordSize) (s : TcpSocket) (q : EventQueueImpl)
    (epollEvents : UInt32) : Io (TcpSocket × EventQueueImpl) :=
  if epollEvents &&& EPOLLERR ≠ 0 then
    s.onError q
  else if s.socket.connectionState = .connected then
    if epollEvents &&& EPOLLIN ≠ 0 ∨ epollEvents &&& EPOLLERR ≠ 0 then
      s.onReadable ws q epollEvents
    else
      return (s, q)
  else -- Connecting
    if epollEvents &&& EPOLLOUT ≠ 0 then
      s.onWritable q
    else
      return (s, q)

/-- `TcpSocket`'s own destructor, then that of its raw socket. -/
def drop (s : TcpSocket) (q : EventQueueImpl) : Io EventQueueImpl := do
  let q := s.removePendingEvents q
  s.socket.drop
  return q

end TcpSocket

/-! ## `RawTcpServerSocket` -/

structure RawTcpServerSocket where
  fd : Fd
  connectionState : ConnectionState
  deriving DecidableEq, Repr

namespace RawTcpServerSocket

def closeSocket (s : RawTcpServerSocket) : Io RawTcpServerSocket := do
  if s.connectionState = .closed then
    return s
  else
    let s := { s with connectionState := .closed }
    let _ ← sys (.close s.fd)
    return s

def close (s : RawTcpServerSocket) : Io RawTcpServerSocket := s.closeSocket

def drop (s : RawTcpServerSocket) : Io Unit := do
  let _ ← s.closeSocket
  return ()

/-- Give up in the middle of `bind`: the error of the failed call, and the
half-made socket is dropped. -/
def bindFailed (ret : RawTcpServerSocket) : Io (IoResult RawTcpServerSocket) := do
  let err ← lastError
  ret.drop
  return .error err

def bind (host : Endian) (addr : SocketAddr) (backlog : Int) :
    Io (IoResult RawTcpServerSocket) := do
  match ← createSocket addr true with
  | .error err => return .error err
  | .ok fd =>
      let (sockaddr, len) := addrToSockaddr host addr
      let ret : RawTcpServerSocket := { fd, connectionState := .connected }
      let opt : Int ← sys (.setsockoptReuseaddr fd)
      if opt = -1 then
        ret.bindFailed
      else
        let b : Int ← sys (.bind fd sockaddr len)
        if b = -1 then
          ret.bindFailed
        else
          let l : Int ← sys (.listen fd backlog)
          if l = -1 then
            ret.bindFailed
          else
            return .ok ret

/-- The tail of `accept` for `-1`: close, unless no client was waiting. -/
def acceptFailed (s : RawTcpServerSocket) :
    Io (IoResult RawTcpSocket × RawTcpServerSocket) := do
  let errno : Int ← sys .errno
  if errno ≠ EWOULDBLOCK ∧ errno ≠ EAGAIN then
    let s ← s.closeSocket
    return (.error (← lastError), s)
  else
    return (.error (← lastError), s)

def accept (s : RawTcpServerSocket) : Io (IoResult RawTcpSocket × RawTcpServerSocket) := do
  if s.connectionState ≠ .connected then
    return (.error (.notOpen "Socket is closed"), s)
  else
    let r : Int ← retry (.accept s.fd)
    if r = -1 then
      s.acceptFailed
    else
      return (.ok (RawTcpSocket.fromFd r), s)

end RawTcpServerSocket

/-! ## `TcpServerSocket` -/

structure TcpServerSocket where
  processFunc : Ptr
  socket : RawTcpServerSocket
  eventSourceInfo : SourceId
  clientAvailable : Bool
  deriving DecidableEq, Repr

instance : EventSource TcpServerSocket where
  getEventSourceInfo s := s.eventSourceInfo

namespace TcpServerSocket

def removePendingEvents (s : TcpServerSocket) (q : EventQueueImpl) : EventQueueImpl :=
  q.removePendingEvents fun ev => ev.originatesFrom s

def registerFd (s : TcpServerSocket) (q : EventQueueImpl) : Io Unit :=
  q.registerFd s.socket.fd EPOLLIN s.processFunc

def fromRawServerSocket (this : Ptr) (info : SourceId) (raw : RawTcpServerSocket)
    (q : EventQueueImpl) : Io TcpServerSocket := do
  let socket : TcpServerSocket :=
    { socket := raw, processFunc := this, eventSourceInfo := info, clientAvailable := false }
  if socket.socket.connectionState ≠ .closed then
    socket.registerFd q
    return socket
  else
    return socket

def bind (host : Endian) (this : Ptr) (info : SourceId) (addr : SocketAddr) (backlog : Int)
    (q : EventQueueImpl) : Io (IoResult TcpServerSocket) := do
  match ← RawTcpServerSocket.bind host addr backlog with
  | .ok sock => return .ok (← fromRawServerSocket this info sock q)
  | .error err => return .error err

/-- Here the socket is closed first. -/
def close (s : TcpServerSocket) (q : EventQueueImpl) :
    Io (TcpServerSocket × EventQueueImpl) := do
  let raw ← s.socket.closeSocket
  let s := { s with socket := raw }
  return (s, s.removePendingEvents q)

def accept (s : TcpServerSocket) (q : EventQueueImpl) :
    Io (IoResult RawTcpSocket × TcpServerSocket × EventQueueImpl) := do
  let state := s.socket.connectionState
  if s.socket.connectionState = .connected ∧ !s.clientAvailable then
    -- Currently no client available
    return (.error ⟨.resourceUnavailable, "No client available", none⟩, s, q)
  else
    let (ret, raw) ← s.socket.accept
    let s := { s with socket := raw }
    match ret with
    | .ok socket =>
        return (.ok socket, { s with clientAvailable := false }, q)
    | .error err =>
        if state ≠ s.socket.connectionState ∧ s.socket.connectionState = .closed then
          return (.error err, s, s.removePendingEvents q)
        else
          return (.error err, s, q)

def processEpollEvents (s : TcpServerSocket) (q : EventQueueImpl) (epollEvents : UInt32) :
    Io (TcpServerSocket × EventQueueImpl) := do
  if epollEvents &&& EPOLLERR ≠ 0 then
    let (ret, errno) : Int × Int ← sys (.getsockoptError s.socket.fd)
    if ret ≠ -1 then
      let err ← translateError errno false
      let raw ← s.socket.closeSocket
      return ({ s with socket := raw },
        q.pushBackEvent (Event.new (.ioErrorEvent err) s.eventSourceInfo))
    else
      fail "Could not retrieve error"
  else if epollEvents &&& EPOLLIN ≠ 0 then
    let s := { s with clientAvailable := true }
    return (s, q.pushBackEvent (Event.new .clientConnectedEvent s.eventSourceInfo))
  else
    return (s, q)

/-- `TcpServerSocket`'s own destructor, then that of its raw socket. -/
def drop (s : TcpServerSocket) (q : EventQueueImpl) : Io EventQueueImpl := do
  let q := s.removePendingEvents q
  s.socket.drop
  return q

end TcpServerSocket

end Revbio
