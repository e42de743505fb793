/-
Revbio.Tcp.Inbox — one TcpSocket, its peer and the receive buffer the
kernel keeps for it, as a labelled transition system.

Bytes arrive at any time between two operations of the socket's task. The
kernel behaves as documented where `read` relies on it: `FIONREAD` reports
exactly the unread bytes, and `recv` returns at least one byte, and no more
than there are or fit, when there are some. With none, `recv` on the
blocking descriptor does not return before the peer has done something;
that it was entered at all is recorded (`emptyRecv`). All other calls leave
the buffer alone and may answer anything.

A buffer holds less than 2^31 bytes, since `FIONREAD` reports an `int`.
-/
import Revbio.Lib.Transition
import Revbio.Linux.Tcp

namespace Revbio.Tcp

open CallTree Prog

/-- What the kernel has for the socket. -/
structure Inbox where
  /-- bytes received and not yet read -/
  unread : Nat
  /-- `recv` has been entered with nothing to read -/
  emptyRecv : Bool
  deriving DecidableEq, Repr

def Inbox.allows (i : Inbox) (c : Call) : c.Ret → Inbox → Prop :=
  match c with
  | .retry (.ioctlFionread _) => fun r i' => r = (0, (i.unread : Int)) ∧ i' = i
  | .retry (.recv _ len) => fun r i' =>
      if i.unread = 0 then i' = { i with emptyRecv := true }
      else ∃ n, 1 ≤ n ∧ n ≤ min len i.unread ∧ r = (n : Int) ∧
        i' = { i with unread := i.unread - n }
  | _ => fun _ i' => i' = i

structure SocketState where
  sock : TcpSocket
  queue : EventQueueImpl
  inbox : Inbox
  deriving DecidableEq, Repr

inductive SocketLabel where
  | arrive (bytes : Nat)
  | callback (epollEvents : UInt32)
  | read (len : Nat) (result : IoResult Nat)
  | write (len : Nat)
  | close

/-- Steps that return; a task that fails does not go on. -/
inductive SocketStep (ws : WordSize) : SocketState → SocketLabel → SocketState → Prop where
  | arrive {s : SocketState} {bytes : Nat} : s.inbox.unread + bytes < 2 ^ 31 →
      SocketStep ws s (.arrive bytes)
        { s with inbox := { s.inbox with unread := s.inbox.unread + bytes } }
  /-- a closed descriptor is not in the epoll set any more -/
  | callback {s : SocketState} {mask : UInt32} {sock : TcpSocket} {queue : EventQueueImpl}
      {inbox : Inbox} : s.sock.socket.connectionState ≠ .closed →
      (s.sock.processEpollEvents ws s.queue mask).Exec Inbox.allows s.inbox
        (.returned (sock, queue)) inbox →
      SocketStep ws s (.callback mask) ⟨sock, queue, inbox⟩
  | read {s : SocketState} {len : Nat} {result : IoResult Nat} {sock : TcpSocket}
      {queue : EventQueueImpl} {inbox : Inbox} :
      (s.sock.read ws len s.queue).Exec Inbox.allows s.inbox
        (.returned (result, sock, queue)) inbox →
      SocketStep ws s (.read len result) ⟨sock, queue, inbox⟩
  | write {s : SocketState} {len : Nat} {result : IoResult Nat} {sock : TcpSocket}
      {queue : EventQueueImpl} {inbox : Inbox} :
      (s.sock.write ws len s.queue).Exec Inbox.allows s.inbox
        (.returned (result, sock, queue)) inbox →
      SocketStep ws s (.write len) ⟨sock, queue, inbox⟩
  | close {s : SocketState} {sock : TcpSocket} {queue : EventQueueImpl} {inbox : Inbox} :
      (s.sock.close s.queue).Exec Inbox.allows s.inbox (.returned (sock, queue)) inbox →
      SocketStep ws s .close ⟨sock, queue, inbox⟩

/-- A socket as `connect` and `from_raw_tcp_socket` return it. -/
structure Fresh (s : SocketState) : Prop where
  available : s.sock.availableBytes = 0
  unread : s.inbox.unread < 2 ^ 31
  emptyRecv : s.inbox.emptyRecv = false

end Revbio.Tcp
