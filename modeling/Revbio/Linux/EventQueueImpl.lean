/-
Revbio.Linux.EventQueueImpl — the event queue of one task
(`linux/eventqueueimpl.rs`, and `eventqueue.rs`, which only forwards to
it).

`next_event` loops until `epoll_wait` has made a callback push something,
so it is a recursion over the answers of the environment: one `Poll` for
each turn of `poll_events`. A list that runs out means that the task is
still blocked in `epoll_wait`.

A callback gets the queue by mutable reference. The callbacks of the four
sources only append freshly built events (`timer_pushes`,
`tcpSocket_pushes`, `tcpServerSocket_pushes`, `receiver_pushes`), so what
a callback does to the queue is the list of what it appends.
-/
import Revbio.Linux.Helpers

namespace Revbio

open CallTree

structure EventQueueImpl where
  fd : Fd
  readyEvents : List Event
  deriving DecidableEq, Repr

namespace EventQueueImpl

/-! ## Queue operations -/

def pushBackEvent (q : EventQueueImpl) (event : Event) : EventQueueImpl :=
  { q with readyEvents := q.readyEvents ++ [event] }

def pushFrontEvent (q : EventQueueImpl) (event : Event) : EventQueueImpl :=
  { q with readyEvents := event :: q.readyEvents }

/-- Removal only marks: the events stay where they are. -/
def removePendingEvents (q : EventQueueImpl) (condition : Event → Bool) : EventQueueImpl :=
  { q with readyEvents := q.readyEvents.map fun ev =>
      if condition ev then { ev with isValid := false } else ev }

/-- Append the events of a list of kinds, all from one source. -/
def pushAll (q : EventQueueImpl) (src : SourceId) (kinds : List EventKind) :
    EventQueueImpl :=
  { q with readyEvents := q.readyEvents ++ kinds.map fun k => Event.new k src }

@[simp] theorem pushBackEvent_fd (q : EventQueueImpl) (e : Event) :
    (q.pushBackEvent e).fd = q.fd := rfl

@[simp] theorem pushBackEvent_readyEvents (q : EventQueueImpl) (e : Event) :
    (q.pushBackEvent e).readyEvents = q.readyEvents ++ [e] := rfl

@[simp] theorem pushFrontEvent_readyEvents (q : EventQueueImpl) (e : Event) :
    (q.pushFrontEvent e).readyEvents = e :: q.readyEvents := rfl

@[simp] theorem removePendingEvents_fd (q : EventQueueImpl) (c : Event → Bool) :
    (q.removePendingEvents c).fd = q.fd := rfl

@[simp] theorem pushAll_fd (q : EventQueueImpl) (src : SourceId) (ks : List EventKind) :
    (q.pushAll src ks).fd = q.fd := rfl

@[simp] theorem pushAll_readyEvents (q : EventQueueImpl) (src : SourceId)
    (ks : List EventKind) :
    (q.pushAll src ks).readyEvents = q.readyEvents ++ ks.map fun k => Event.new k src := rfl

theorem pushAll_nil (q : EventQueueImpl) (src : SourceId) : q.pushAll src [] = q := by
  simp [pushAll]

theorem pushAll_append (q : EventQueueImpl) (src : SourceId) (ks ks' : List EventKind) :
    (q.pushAll src ks).pushAll src ks' = q.pushAll src (ks ++ ks') := by
  simp [pushAll]

/-- What is pushed is valid. -/
theorem pushAll_valid {q : EventQueueImpl} (hq : q.readyEvents = []) (src : SourceId)
    (ks : List EventKind) : ∀ ev ∈ (q.pushAll src ks).readyEvents, ev.isValid = true := by
  simp [hq]

theorem pushBackEvent_eq_pushAll (q : EventQueueImpl) (k : EventKind) (src : SourceId) :
    q.pushBackEvent (Event.new k src) = q.pushAll src [k] := rfl

/-- A loop that pushes the same event a number of times. -/
theorem foldl_pushBackEvent (k : EventKind) (src : SourceId) (n : Nat) (q : EventQueueImpl) :
    (List.range n).foldl (fun q _ => q.pushBackEvent (Event.new k src)) q =
      q.pushAll src (List.replicate n k) := by
  induction n with
  | zero => exact (pushAll_nil q src).symm
  | succ n ih =>
    rw [List.range_succ, List.foldl_append, ih, List.replicate_succ', ← pushAll_append]
    rfl

/-! ## `next_event` -/

/-- What one call of `poll_events` meets: `epoll_wait` fails, it reports
one descriptor, whose callback appends `pushed` (kind and source of each
event), or it returns any other count. -/
inductive Poll where
  | failed (err : IoError)
  | ready (pushed : List (EventKind × SourceId))
  | idle
  deriving DecidableEq, Repr

def pollEvents (q : EventQueueImpl) : Poll → IoResult Unit × EventQueueImpl
  | .failed err => (.error err, q)
  | .ready pushed =>
      (.ok (), pushed.foldl (fun q p => q.pushBackEvent (Event.new p.1 p.2)) q)
  | .idle => (.ok (), q)

theorem pollEvents_ready (q : EventQueueImpl) (pushed : List (EventKind × SourceId)) :
    q.pollEvents (.ready pushed) =
      (.ok (), { q with
        readyEvents := q.readyEvents ++ pushed.map fun p => Event.new p.1 p.2 }) := by
  simp only [pollEvents, Prod.mk.injEq, true_and]
  induction pushed generalizing q with
  | nil => simp
  | cons p pushed ih => simp [ih]

theorem pollEvents_valid {q : EventQueueImpl} (hq : q.readyEvents = [])
    (pushed : List (EventKind × SourceId)) :
    ∀ ev ∈ (q.pollEvents (.ready pushed)).2.readyEvents, ev.isValid = true := by
  rw [pollEvents_ready, hq, List.nil_append, List.forall_mem_map]
  intro p _
  rfl

/-- The `loop` of `next_event`: poll, then look at the first event. -/
def nextEventLoop (q : EventQueueImpl) :
    List Poll → Option (IoResult Event × EventQueueImpl × List Poll)
  | [] => none
  | answer :: answers =>
      match q.pollEvents answer with
      | (.error err, q) => some (.error err, q, answers)
      | (.ok (), q) =>
          match q.readyEvents with
          | first :: rest =>
              if first.isValid then
                some (.ok first, { q with readyEvents := rest }, answers)
              else
                nextEventLoop { q with readyEvents := rest } answers
          | [] => nextEventLoop q answers

/-- The result, the queue left behind and the answers not yet used; `none`
while the call has not returned. -/
def nextEvent (q : EventQueueImpl) (answers : List Poll) :
    Option (IoResult Event × EventQueueImpl × List Poll) :=
  match q.readyEvents with
  | first :: rest => some (.ok first, { q with readyEvents := rest }, answers)
  | [] => q.nextEventLoop answers

/-! ## Construction, epoll interest, drop -/

/-- The test is for the value `1`. -/
def new : Io EventQueueImpl := do
  let fd : Int ← sys (.epollCreate 64)
  if fd = 1 then
    let err ← lastError
    fail err.desc
  else
    return { fd, readyEvents := [] }

def registerFd (q : EventQueueImpl) (fd : Fd) (flags : UInt32) (callback : Ptr) : Io Unit := do
  let s : Int ← sys (.epollCtl q.fd .add fd flags (some callback))
  if s ≠ 0 then fail "Could not register fd for epoll" else return ()

def modifyFd (q : EventQueueImpl) (fd : Fd) (flags : UInt32) (callback : Ptr) : Io Unit := do
  let s : Int ← sys (.epollCtl q.fd .mod fd flags (some callback))
  if s ≠ 0 then fail "Could not modify epoll interest" else return ()

def unregisterFd (q : EventQueueImpl) (fd : Fd) : Io Unit := do
  let s : Int ← sys (.epollCtl q.fd .del fd 0 none)
  if s ≠ 0 then fail "Could not remove epoll interest" else return ()

def drop (q : EventQueueImpl) : Io Unit := do
  let _ ← sys (.close q.fd)
  return ()

end EventQueueImpl

end Revbio
