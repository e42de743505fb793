/-
Revbio.Linux.Timer — the timer source (`linux/timer.rs`).

`&mut self` methods take the timer and return it. The queue the timer
holds a reference to is the queue of its task; methods that touch it take
it and return it. In `process_epoll_events` it is the one that
`poll_events` hands over.
-/
import Mathlib.Logic.Function.Iterate
import Revbio.Linux.EventQueueImpl

namespace Revbio

open CallTree

structure Timer where
  processFunc : Ptr
  fd : Fd
  isActive : Bool
  interval : UInt32
  singleshot : Bool
  epollRegistered : Bool
  eventSourceInfo : SourceId
  deriving DecidableEq, Repr

instance : EventSource Timer where
  getEventSourceInfo t := t.eventSourceInfo

namespace Timer

/-- `this` and `info` are the addresses of the new box and of its new
`EventSourceInfo`. -/
def create (this : Ptr) (info : SourceId) : Io (IoResult Timer) := do
  let tfd : Int ← sys .timerfdCreate
  if tfd = -1 then
    return .error (← lastError)
  else
    return .ok
      { fd := tfd
        interval := 0
        isActive := false
        singleshot := false
        epollRegistered := false
        processFunc := this
        eventSourceInfo := info }

def setInterval (t : Timer) (interval : UInt32) : Timer := { t with interval }

def getInteral (t : Timer) : UInt32 := t.interval

def setSingleshot (t : Timer) (singleshot : Bool) : Timer := { t with singleshot }

def isSingleshot (t : Timer) : Bool := t.singleshot

def removePendingEvents (t : Timer) (q : EventQueueImpl) : EventQueueImpl :=
  q.removePendingEvents fun ev => ev.originatesFrom t

def stop (t : Timer) (q : EventQueueImpl) : Io (Timer × EventQueueImpl) := do
  if !t.isActive then
    return (t, q)
  else
    let ret : Int ← sys (.timerfdSettime t.fd Itimerspec.new)
    if ret ≠ 0 then
      let err ← lastError
      fail ("Error on stopping timer " ++ err.desc)
    else
      q.unregisterFd t.fd
      let t := { t with epollRegistered := false }
      let t := { t with isActive := false }
      return (t, t.removePendingEvents q)

/-- The value `start` passes to `timerfd_settime`, computed in `time_t` and
`c_long` arithmetic. -/
def startSpec (ws : WordSize) (t : Timer) : Itimerspec :=
  let tvSec := ws.asLong (t.interval / 1000).toNat
  let tvNsec := ws.asLong (ws.asLong (t.interval % 1000).toNat * 1000000)
  let itValue : Timespec := ⟨tvSec, tvNsec⟩
  if !t.singleshot then ⟨itValue, itValue⟩ else ⟨⟨0, 0⟩, itValue⟩

def start (ws : WordSize) (t : Timer) (q : EventQueueImpl) : Io Timer := do
  if t.isActive || t.interval == 0 then
    return t
  else
    let ret : Int ← sys (.timerfdSettime t.fd (t.startSpec ws))
    if ret ≠ 0 then
      let err ← lastError
      fail ("Error on starting timer " ++ err.desc)
    else
      let t := { t with isActive := true }
      let epollFlags := if t.singleshot then EPOLLIN ||| EPOLLONESHOT else EPOLLIN
      if !t.epollRegistered then
        q.registerFd t.fd epollFlags t.processFunc
        return { t with epollRegistered := true }
      else
        q.modifyFd t.fd epollFlags t.processFunc
        return t

/-- The body of `for _ in range(0, *expirations)`. -/
def onExpiration (tq : Timer × EventQueueImpl) : Timer × EventQueueImpl :=
  let (t, q) := tq
  let q := q.pushBackEvent (Event.new .timerEvent t.eventSourceInfo)
  let t := if t.singleshot then { t with isActive := false } else t
  (t, q)

/-- The whole loop: one event for each expiration. -/
theorem onExpiration_iterate (t : Timer) (q : EventQueueImpl) (n : Nat) :
    onExpiration^[n] (t, q) =
      ({ t with isActive := t.isActive && (n == 0 || !t.singleshot) },
        q.pushAll t.eventSourceInfo (List.replicate n .timerEvent)) := by
  induction n with
  | zero => simp [EventQueueImpl.pushAll_nil]
  | succ n ih =>
    rw [Function.iterate_succ_apply', ih, onExpiration, List.replicate_succ',
      EventQueueImpl.pushBackEvent_eq_pushAll, EventQueueImpl.pushAll_append]
    cases hs : t.singleshot <;> simp

def processEpollEvents (t : Timer) (q : EventQueueImpl) (epollEvents : UInt32) :
    Io (Timer × EventQueueImpl) := do
  if epollEvents &&& EPOLLIN ≠ 0 then
    let (ret, expirations) : Int × Nat ← retry (.readCounter t.fd)
    if ret = 8 then
      return (onExpiration^[expirations]) (t, q)
    else
      return (t, q)
  else
    return (t, q)

/-- The descriptor is closed unless its number is `0`. -/
def drop (t : Timer) (q : EventQueueImpl) : Io EventQueueImpl := do
  let q := t.removePendingEvents q
  if t.fd ≠ 0 then
    let _ ← sys (.close t.fd)
    return q
  else
    return q

end Timer

end Revbio
