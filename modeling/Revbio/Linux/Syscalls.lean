/-
Revbio.Linux.Syscalls — the boundary of the crate: the constants of
`linux/syscalls.rs`, the machine words the code computes with, and the
signature of calls the modelled functions make.

`Syscall` has one constructor for each foreign function the code calls,
with the arguments the code passes (the ones it always passes the same
way, such as the 8-byte length of a counter read, are part of the name).
The mutex of a channel (`std::unstable::mutex::Mutex`) and the per-thread
`errno` are reached the same way. `Call` says whether a call is made once
or through `helpers::retry`.

The code never looks at the bytes it sends or receives, so `send` and
`recv` carry lengths only.
-/
import Mathlib.Algebra.Group.Int.Defs
import Mathlib.Algebra.Group.Nat.Defs
import Revbio.Lib.CallTree

namespace Revbio

open CallTree

/-! ## Machine words -/

/-- Width of `uint`, `c_long` and `time_t` on the target. -/
inductive WordSize where
  | w32
  | w64
  deriving DecidableEq, Repr

def WordSize.bits : WordSize → Nat
  | .w32 => 32
  | .w64 => 64

/-- `a - b` on `uint`: the subtraction is not checked, so it wraps when `b`
is the larger one. -/
def WordSize.uintSub (ws : WordSize) (a b : Nat) : Nat :=
  if b ≤ a then a - b else a + 2 ^ ws.bits - b

/-- `x as uint` for a signed `x`. -/
def WordSize.asUint (ws : WordSize) (x : Int) : Nat :=
  (x % (2 ^ ws.bits : Int)).toNat

/-- `x as c_long` (or `time_t`), and the result of `c_long` arithmetic. -/
def WordSize.asLong (ws : WordSize) (x : Int) : Int :=
  x.bmod (2 ^ ws.bits)

theorem WordSize.uintSub_of_le (ws : WordSize) {a b : Nat} (h : b ≤ a) :
    ws.uintSub a b = a - b := if_pos h

/-! ## Constants -/

def EPOLLIN : UInt32 := 0x001
def EPOLLOUT : UInt32 := 0x004
def EPOLLERR : UInt32 := 0x008
def EPOLLHUP : UInt32 := 0x010
def EPOLLONESHOT : UInt32 := 0x40000000

/-- The three operations of `epoll_ctl`. -/
inductive EpollCtl where
  | add
  | del
  | mod
  deriving DecidableEq, Repr

def O_NONBLOCK : BitVec 32 := 0x800
def SOCK_CLOEXEC : BitVec 32 := 0x80000
def SOCK_NONBLOCK : BitVec 32 := 0x800

/-- `libc::SOCK_STREAM`. -/
def SOCK_STREAM : BitVec 32 := 1
/-- `libc::AF_INET`. -/
def AF_INET : Nat := 2
/-- `libc::AF_INET6`. -/
def AF_INET6 : Nat := 10

/-! ### `errno` values the code names (`libc`, Linux) -/

def EPERM : Int := 1
def EAGAIN : Int := 11
def EWOULDBLOCK : Int := 11
def EACCES : Int := 13
def EPIPE : Int := 32
def EADDRINUSE : Int := 98
def EADDRNOTAVAIL : Int := 99
def ECONNABORTED : Int := 103
def ECONNRESET : Int := 104
def ENOTCONN : Int := 107
def ECONNREFUSED : Int := 111
def EINPROGRESS : Int := 115
/-- `libc::EOF`. -/
def EOF : Int := -1

/-! ## Data passed to the kernel -/

/-- A file descriptor (`i32`). -/
abbrev Fd := Int

/-- No descriptor has the number that stands for "none". -/
theorem Fd.ne_none {fd : Fd} (h : 0 ≤ fd) : fd ≠ -1 := by
  intro h
  subst h
  exact absurd h (by decide)

/-- A callback pointer: the address of the `process_func` field, the first
of its boxed source. Boxes are told apart, so a pointer names one box for
good, also after the box is gone. -/
abbrev Ptr := Nat

/-- `libc::timespec`. -/
structure Timespec where
  tvSec : Int
  tvNsec : Int
  deriving DecidableEq, Repr

structure Itimerspec where
  itInterval : Timespec
  itValue : Timespec
  deriving DecidableEq, Repr

/-- All fields zero. -/
def Itimerspec.new : Itimerspec := ⟨⟨0, 0⟩, ⟨0, 0⟩⟩

/-- The socket address as the code writes it into a `sockaddr_storage`;
the fields it does not write stay zero. -/
inductive Sockaddr where
  | sockaddrIn (sinFamily : Nat) (sinPort : UInt16) (sinAddr : UInt32)
  | sockaddrIn6 (sin6Family : Nat) (sin6Port : UInt16) (sin6Addr : List UInt16)
  deriving DecidableEq, Repr

/-! ## The calls -/

inductive Syscall where
  -- epoll
  | epollCreate (size : Nat)
  | epollCtl (epfd : Fd) (op : EpollCtl) (fd : Fd) (events : UInt32) (data : Option Ptr)
  -- timerfd
  | timerfdCreate
  | timerfdSettime (fd : Fd) (newValue : Itimerspec)
  -- eventfd, and the 8-byte reads and writes on counters
  | eventfd
  | readCounter (fd : Fd)
  | writeOne (fd : Fd)
  -- descriptors
  | close (fd : Fd)
  | fcntlGetfl (fd : Fd)
  | fcntlSetfl (fd : Fd) (flags : BitVec 32)
  | ioctlFionread (fd : Fd)
  -- sockets
  | socket (fam : Nat) (ty : BitVec 32)
  | connect (fd : Fd) (addr : Sockaddr) (len : Nat)
  | setsockoptReuseaddr (fd : Fd)
  | bind (fd : Fd) (addr : Sockaddr) (len : Nat)
  | listen (fd : Fd) (backlog : Int)
  | accept (fd : Fd)
  | getsockoptError (fd : Fd)
  | send (fd : Fd) (len : Nat)
  | recv (fd : Fd) (len : Nat)
  -- `std::unstable::mutex::Mutex`
  | mutexLock
  | mutexUnlock
  | mutexWait
  | mutexSignal
  -- `std::os` and output
  | errno
  | lastOsError
  | println (text : String)
  /-- `debug!`, less the test of the log level -/
  | debug (text : String)
  deriving DecidableEq, Repr

/-- What a call answers: its return value, paired with what it writes
through a pointer argument where the code reads that back. -/
abbrev Syscall.Ret : Syscall → Type
  | .readCounter _ => Int × Nat
  | .ioctlFionread _ => Int × Int
  | .getsockoptError _ => Int × Int
  | .fcntlGetfl _ => BitVec 32
  | .mutexLock => Unit
  | .mutexUnlock => Unit
  | .mutexWait => Unit
  | .mutexSignal => Unit
  | .println _ => Unit
  | .debug _ => Unit
  | .lastOsError => String
  | _ => Int

instance (c : Syscall) : Inhabited c.Ret := by
  cases c <;> exact ⟨default⟩

/-- A call made once, or repeated by `helpers::retry` while it fails with
`EINTR`. A retried call answers what its last attempt answers. -/
inductive Call where
  | once (c : Syscall)
  | retry (c : Syscall)
  deriving DecidableEq, Repr

abbrev Call.Ret : Call → Type
  | .once c => c.Ret
  | .retry c => c.Ret

/-- Code of the crate. -/
abbrev Io := Prog Call Call.Ret

def sys (c : Syscall) : Io c.Ret := .call (.once c) .ret

@[simp] theorem sys_eq (c : Syscall) : sys c = .call (.once c) .ret := rfl

/-- `fail!(msg)`. -/
def fail {α : Type} (msg : String) : Io α := .fail msg

@[simp] theorem fail_eq {α : Type} (msg : String) : (fail msg : Io α) = .fail msg := rfl

/-! ## `set_fd_blocking` -/

def setFdBlocking (fd : Fd) (blocking : Bool) : Io Unit := do
  let flags : BitVec 32 ← sys (.fcntlGetfl fd)
  let flags : BitVec 32 := if blocking then flags &&& ~~~O_NONBLOCK else flags ||| O_NONBLOCK
  let _ ← sys (.fcntlSetfl fd flags)
  return ()

end Revbio
