/-
Revbio.Timer.System — one Timer and what the kernel keeps for it, as a
labelled transition system.

The kernel's side is a timerfd and its entry in the epoll set (`TimerFd`).
`timerfd_settime` takes a valid value, disarms for a zero `it_value` and
forgets the expirations that have not been read. `epoll_ctl` adds what is
not in the set and modifies or deletes what is. A call that breaks these
rules fails, all others succeed; so a task fails exactly by misuse of the
interface. A report of an entry with `EPOLLONESHOT` leaves it in the set
without its events.

A callback runs when the entry is enabled and an expiration is unread.
Expirations come at any time between two operations of the task. Whatever
else happens to the event queue is `events`.
-/
import Revbio.Lib.CallTrace
import Revbio.Lib.Transition
import Revbio.Linux.Timer

namespace Revbio

open CallTree

/-! ## The kernel's side -/

/-- What `timerfd_settime` takes. -/
def Timespec.Valid (v : Timespec) : Prop :=
  0 ≤ v.tvSec ∧ 0 ≤ v.tvNsec ∧ v.tvNsec < 1000000000

instance (v : Timespec) : Decidable v.Valid :=
  inferInstanceAs (Decidable (_ ∧ _))

def Itimerspec.Valid (v : Itimerspec) : Prop :=
  v.itInterval.Valid ∧ v.itValue.Valid

instance (v : Itimerspec) : Decidable v.Valid :=
  inferInstanceAs (Decidable (_ ∧ _))

namespace Timers

inductive Mode where
  | once
  | periodic
  deriving DecidableEq, Repr

structure TimerFd where
  fd : Fd
  /-- an expiration is to come, and whether more follow it -/
  armed : Option Mode
  /-- expirations not yet read -/
  unread : Nat
  /-- the events of its entry in the epoll set -/
  entry : Option UInt32
  deriving DecidableEq, Repr

namespace TimerFd

/-- `timerfd_settime` with a valid value. -/
def settime (k : TimerFd) (v : Itimerspec) : TimerFd :=
  { k with
    armed :=
      if v.itValue = ⟨0, 0⟩ then none
      else if v.itInterval = ⟨0, 0⟩ then some .once
      else some .periodic
    unread := 0 }

/-- What `epoll_ctl` asks of the entry. -/
def Permits (k : TimerFd) : EpollCtl → Prop
  | .add => k.entry = none
  | .mod => k.entry ≠ none
  | .del => k.entry ≠ none

instance (k : TimerFd) : (op : EpollCtl) → Decidable (k.Permits op)
  | .add => inferInstanceAs (Decidable (k.entry = none))
  | .mod => inferInstanceAs (Decidable (k.entry ≠ none))
  | .del => inferInstanceAs (Decidable (k.entry ≠ none))

def control (k : TimerFd) (op : EpollCtl) (events : UInt32) : TimerFd :=
  { k with entry := if op = .del then none else some events }

/-- Use of the kernel interface that does not fail. -/
def Proper (k : TimerFd) : Call → Prop
  | .once (.timerfdSettime fd v) => fd = k.fd ∧ v.Valid
  | .once (.epollCtl _ op fd _ _) => fd = k.fd ∧ k.Permits op
  | _ => True

/-- A `read` with nothing to read does not return. -/
def allows (k : TimerFd) (c : Call) : c.Ret → TimerFd → Prop :=
  match c with
  | .once (.timerfdSettime fd v) => fun r k' =>
      if fd = k.fd ∧ v.Valid then r = 0 ∧ k' = k.settime v else r = -1 ∧ k' = k
  | .once (.epollCtl _ op fd events _) => fun r k' =>
      if fd = k.fd ∧ k.Permits op then r = 0 ∧ k' = k.control op events else r = -1 ∧ k' = k
  | .retry (.readCounter fd) => fun r k' =>
      fd = k.fd ∧ 0 < k.unread ∧ r = (8, k.unread) ∧ k' = { k with unread := 0 }
  | _ => fun _ k' => k' = k

theorem allows_settime {k k' : TimerFd} {fd : Fd} {v : Itimerspec} {r : Int}
    (h : k.Proper (.once (.timerfdSettime fd v))) :
    k.allows (.once (.timerfdSettime fd v)) r k' ↔ r = 0 ∧ k' = k.settime v := by
  simp only [allows, if_pos (show fd = k.fd ∧ v.Valid from h)]

theorem allows_control {k k' : TimerFd} {epfd fd : Fd} (op : EpollCtl) {events : UInt32}
    {data : Option Ptr} {r : Int} (h : k.Proper (.once (.epollCtl epfd op fd events data))) :
    k.allows (.once (.epollCtl epfd op fd events data)) r k' ↔
      r = 0 ∧ k' = k.control op events := by
  simp only [allows, if_pos (show fd = k.fd ∧ k.Permits op from h)]

/-- The entry reports a readable descriptor. -/
def Enabled (k : TimerFd) : Prop := ∃ events, k.entry = some events ∧ events &&& EPOLLIN ≠ 0

/-- The entry is there for one report only. -/
def Oneshot (k : TimerFd) : Prop :=
  ∃ events, k.entry = some events ∧ events &&& EPOLLONESHOT ≠ 0

/-- `epoll_wait` reports the descriptor. -/
def reported (k : TimerFd) : TimerFd :=
  { k with entry := k.entry.map fun events =>
      if events &&& EPOLLONESHOT ≠ 0 then events &&& EPOLLONESHOT else events }

/-- A `TimerEvent` can still come of it. -/
def CanFire (k : TimerFd) : Prop := (k.armed ≠ none ∨ 0 < k.unread) ∧ k.Enabled

end TimerFd

/-! ## The system -/

structure TimerState where
  timer : Timer
  queue : EventQueueImpl
  kernel : TimerFd
  deriving DecidableEq, Repr

inductive TimerLabel where
  | setInterval (interval : UInt32)
  | setSingleshot (singleshot : Bool)
  | start
  | stop
  | expire
  | callback
  | events (evs : List Event)
  deriving DecidableEq, Repr

/-- The value a call of `set_interval` or `set_singleshot` leaves. -/
def TimerState.withTimer (s : TimerState) (timer : Timer) : TimerState := { s with timer }

/-- Steps that return; a task that fails does not go on. -/
inductive TimerStep (ws : WordSize) : TimerState → TimerLabel → TimerState → Prop where
  | setInterval {s : TimerState} {interval : UInt32} :
      TimerStep ws s (.setInterval interval) (s.withTimer (s.timer.setInterval interval))
  | setSingleshot {s : TimerState} {singleshot : Bool} :
      TimerStep ws s (.setSingleshot singleshot)
        (s.withTimer (s.timer.setSingleshot singleshot))
  | start {s : TimerState} {timer : Timer} {kernel : TimerFd} :
      (s.timer.start ws s.queue).Exec TimerFd.allows s.kernel (.returned timer) kernel →
      TimerStep ws s .start { s with timer, kernel }
  | stop {s : TimerState} {timer : Timer} {queue : EventQueueImpl} {kernel : TimerFd} :
      (s.timer.stop s.queue).Exec TimerFd.allows s.kernel (.returned (timer, queue)) kernel →
      TimerStep ws s .stop ⟨timer, queue, kernel⟩
  | expire {s : TimerState} {mode : Mode} : s.kernel.armed = some mode →
      TimerStep ws s .expire { s with
        kernel := { s.kernel with
          armed := if mode = .once then none else some .periodic
          unread := s.kernel.unread + 1 } }
  | callback {s : TimerState} {timer : Timer} {queue : EventQueueImpl} {kernel : TimerFd} :
      s.kernel.Enabled → 0 < s.kernel.unread →
      (s.timer.processEpollEvents s.queue EPOLLIN).Exec TimerFd.allows s.kernel.reported
        (.returned (timer, queue)) kernel →
      TimerStep ws s .callback ⟨timer, queue, kernel⟩
  | events {s : TimerState} {evs : List Event} :
      TimerStep ws s (.events evs) { s with queue := { s.queue with readyEvents := evs } }

/-- A timer as `Timer::create` returns it, on descriptor `fd`. -/
def fresh (this : Ptr) (info : SourceId) (fd : Fd) (queue : EventQueueImpl) : TimerState where
  timer :=
    { processFunc := this
      fd
      isActive := false
      interval := 0
      singleshot := false
      epollRegistered := false
      eventSourceInfo := info }
  queue
  kernel := ⟨fd, none, 0, none⟩

theorem create_fresh (this : Ptr) (info : SourceId) (queue : EventQueueImpl) :
    (Timer.create this info).Returns fun result =>
      ∀ t, result = .ok t → (fresh this info t.fd queue).timer = t := by
  simp only [Timer.create, sys_eq, Prog.call_bind, Prog.ret_bind, Prog.returns_call]
  intro tfd
  split
  · refine Prog.returns_next ?_
    intro err t ht
    cases ht
  · intro t ht
    cases ht
    rfl

end Timers

end Revbio
