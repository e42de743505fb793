/-
Revbio.Timer.Clock — a Timer and the time.

`Revbio.Timer.System` lets expirations come at any time. Here the kernel
has a clock, and its timerfd goes off by the schedule it has been set to:
`timerfd_settime` starts one from the current time, and while time passes
the expirations due are added to the unread ones (`ClockFd`). Otherwise
the kernel is the same, and so are the operations of the Timer.

Time passes between the operations. The queue is shared with other sources
and with the client; whatever they do to it leaves the events of this
Timer alone, except that `next_event` takes events from the front.

`clock_untimed` says that what happens here can happen there.
-/
import Revbio.Lib.Schedule
import Revbio.Timer.StartTheorems

namespace Revbio.Timers

open CallTree Prog Transition

variable {ws : WordSize}

/-! ## The kernel's side -/

/-- A valid time in nanoseconds. -/
def nanoseconds (v : Timespec) : Nat := v.tvSec.toNat * 10 ^ 9 + v.tvNsec.toNat

/-- What `timerfd_settime` sets at the time `now`. -/
def scheduleOf (v : Itimerspec) (now : Nat) : Option Schedule :=
  if v.itValue = ⟨0, 0⟩ then none
  else some ⟨now, nanoseconds v.itValue, nanoseconds v.itInterval⟩

structure ClockFd where
  timerfd : TimerFd
  now : Nat
  schedule : Option Schedule
  deriving DecidableEq, Repr

namespace ClockFd

def scheduleAfter (k : ClockFd) : Call → Option Schedule
  | .once (.timerfdSettime fd v) =>
      if fd = k.timerfd.fd ∧ v.Valid then scheduleOf v k.now else k.schedule
  | _ => k.schedule

/-- A call takes no time. -/
def allows (k : ClockFd) (c : Call) (r : c.Ret) (k' : ClockFd) : Prop :=
  k.timerfd.allows c r k'.timerfd ∧ k'.now = k.now ∧ k'.schedule = k.scheduleAfter c

/-- The expirations since the timerfd was set. -/
def due (k : ClockFd) (now : Nat) : Nat :=
  match k.schedule with
  | some c => c.due now
  | none => 0

/-- No expiration is to come. -/
def Over (k : ClockFd) (now : Nat) : Prop :=
  match k.schedule with
  | some c => c.Over now
  | none => True

instance (k : ClockFd) (now : Nat) : Decidable (k.Over now) := by
  unfold Over
  split <;> infer_instance

/-- `d` nanoseconds go by. -/
def pass (k : ClockFd) (d : Nat) : ClockFd where
  timerfd :=
    { k.timerfd with
      armed := if k.Over (k.now + d) then none else k.timerfd.armed
      unread := k.timerfd.unread + (k.due (k.now + d) - k.due k.now) }
  now := k.now + d
  schedule := k.schedule

/-- `epoll_wait` reports the descriptor. -/
def reported (k : ClockFd) : ClockFd := { k with timerfd := k.timerfd.reported }

end ClockFd

/-! ## The system -/

structure ClockState where
  timer : Timer
  queue : EventQueueImpl
  kernel : ClockFd
  deriving DecidableEq, Repr

/-- An event of the Timer that is not marked. -/
def own (t : Timer) (ev : Event) : Bool :=
  ev.isValid && decide (ev.sourceInfo = t.eventSourceInfo)

/-- The events of the Timer that are in the queue and not marked. -/
def ClockState.waiting (s : ClockState) : Nat := s.queue.readyEvents.countP (own s.timer)

inductive ClockLabel where
  | setInterval (interval : UInt32)
  | setSingleshot (singleshot : Bool)
  | start
  | stop
  | callback
  /-- `next_event` takes an event -/
  | take (ev : Event)
  /-- the other sources, and the client -/
  | others
  | pass (d : Nat)
  deriving DecidableEq, Repr

inductive ClockStep (ws : WordSize) : ClockState → ClockLabel → ClockState → Prop where
  | setInterval {s : ClockState} {interval : UInt32} :
      ClockStep ws s (.setInterval interval) { s with timer := s.timer.setInterval interval }
  | setSingleshot {s : ClockState} {singleshot : Bool} :
      ClockStep ws s (.setSingleshot singleshot)
        { s with timer := s.timer.setSingleshot singleshot }
  | start {s : ClockState} {timer : Timer} {kernel : ClockFd} :
      (s.timer.start ws s.queue).Exec ClockFd.allows s.kernel (.returned timer) kernel →
      ClockStep ws s .start { s with timer, kernel }
  | stop {s : ClockState} {timer : Timer} {queue : EventQueueImpl} {kernel : ClockFd} :
      (s.timer.stop s.queue).Exec ClockFd.allows s.kernel (.returned (timer, queue)) kernel →
      ClockStep ws s .stop ⟨timer, queue, kernel⟩
  | callback {s : ClockState} {timer : Timer} {queue : EventQueueImpl} {kernel : ClockFd} :
      s.kernel.timerfd.Enabled → 0 < s.kernel.timerfd.unread →
      (s.timer.processEpollEvents s.queue EPOLLIN).Exec ClockFd.allows s.kernel.reported
        (.returned (timer, queue)) kernel →
      ClockStep ws s .callback ⟨timer, queue, kernel⟩
  | take {s : ClockState} {ev : Event} {rest : List Event} : s.queue.readyEvents = ev :: rest →
      ClockStep ws s (.take ev) { s with queue := { s.queue with readyEvents := rest } }
  | others {s : ClockState} {evs : List Event} :
      evs.filter (own s.timer) = s.queue.readyEvents.filter (own s.timer) →
      ClockStep ws s .others { s with queue := { s.queue with readyEvents := evs } }
  | pass {s : ClockState} {d : Nat} :
      ClockStep ws s (.pass d) { s with kernel := s.kernel.pass d }

/-- A timer as `Timer::create` returns it, at the time `now`. -/
def freshAt (now : Nat) (this : Ptr) (info : SourceId) (fd : Fd) (queue : EventQueueImpl) :
    ClockState where
  timer := (fresh this info fd queue).timer
  queue := queue
  kernel := ⟨(fresh this info fd queue).kernel, now, none⟩

/-! ## The time left out -/

def ClockState.untimed (s : ClockState) : TimerState := ⟨s.timer, s.queue, s.kernel.timerfd⟩

/-- The mode of a schedule. -/
def modeFor (c : Schedule) : Mode := if c.distance = 0 then .once else .periodic

/-- The timerfd is armed when its schedule has an expiration to come. -/
def ClockFd.Consistent (k : ClockFd) : Prop :=
  k.timerfd.armed = match k.schedule with
    | some c => if c.Over k.now then none else some (modeFor c)
    | none => none

theorem nanoseconds_eq_zero {v : Timespec} (h : v.Valid) : nanoseconds v = 0 ↔ v = ⟨0, 0⟩ := by
  obtain ⟨sec, nsec⟩ := v
  obtain ⟨hsec, hnsec, -⟩ := h
  simp only [nanoseconds, Timespec.mk.injEq] at hsec hnsec ⊢
  omega

/-- A timerfd that has just been set. -/
theorem settime_consistent {k k' : ClockFd} {v : Itimerspec} (h : v.Valid)
    (htimerfd : k'.timerfd = k.timerfd.settime v) (hnow : k'.now = k.now)
    (hschedule : k'.schedule = scheduleOf v k.now) : k'.Consistent := by
  rw [ClockFd.Consistent, htimerfd, hschedule, hnow]
  by_cases hzero : v.itValue = ⟨0, 0⟩
  · simp [TimerFd.settime, scheduleOf, hzero]
  · have hfirst : 0 < nanoseconds v.itValue := by
      have := (nanoseconds_eq_zero h.2).not.mpr hzero
      omega
    have hover : ¬ Schedule.Over
        ⟨k.now, nanoseconds v.itValue, nanoseconds v.itInterval⟩ k.now := by
      intro hover
      exact absurd (Schedule.due_since hfirst) (Nat.ne_of_gt hover.2)
    simp only [TimerFd.settime, scheduleOf, hzero, if_false, hover, modeFor,
      nanoseconds_eq_zero h.1]
    split <;> rfl

theorem allows_consistent (k : ClockFd) (c : Call) (r : c.Ret) (k' : ClockFd)
    (h : k.Consistent) (hc : k.allows c r k') : k'.Consistent := by
  obtain ⟨htimerfd, hnow, hschedule⟩ := hc
  have hsame : k'.schedule = k.schedule → k'.timerfd.armed = k.timerfd.armed →
      k'.Consistent := by
    intro hs ha
    rwa [ClockFd.Consistent, ha, hs, hnow]
  unfold TimerFd.allows at htimerfd
  split at htimerfd
  · simp only [ClockFd.scheduleAfter] at hschedule
    split at htimerfd
    case isTrue hv =>
      rw [if_pos hv] at hschedule
      exact settime_consistent hv.2 htimerfd.2 hnow hschedule
    case isFalse hv =>
      rw [if_neg hv] at hschedule
      exact hsame hschedule (congrArg TimerFd.armed htimerfd.2)
  · split at htimerfd
    · exact hsame hschedule (by rw [htimerfd.2, TimerFd.control])
    · exact hsame hschedule (congrArg TimerFd.armed htimerfd.2)
  · exact hsame hschedule (by rw [htimerfd.2.2.2])
  case h_4 c hset _ _ =>
    refine hsame ?_ (congrArg TimerFd.armed htimerfd)
    rw [hschedule]
    unfold ClockFd.scheduleAfter
    split
    · exact absurd rfl (hset _ _)
    · rfl

/-- Expirations that come one after another. -/
theorem expire_run (s : TimerState) (n : Nat) (h : s.kernel.armed = some .periodic) :
    Run (TimerStep ws) s (List.replicate n .expire)
      { s with kernel := { s.kernel with unread := s.kernel.unread + n } } := by
  induction n with
  | zero => exact .nil
  | succ n ih =>
    rw [List.replicate_succ']
    refine ih.snoc ?_
    have hstep : TimerStep ws
        { s with kernel := { s.kernel with unread := s.kernel.unread + n } } .expire _ :=
      .expire h
    simpa [h, Nat.add_assoc] using hstep

theorem pass_consistent {k : ClockFd} (h : k.Consistent) (d : Nat) : (k.pass d).Consistent := by
  obtain ⟨timerfd, now, schedule⟩ := k
  cases schedule with
  | none => rfl
  | some c =>
    have harmed : timerfd.armed = if c.Over now then none else some (modeFor c) := h
    by_cases hover : c.Over now
    · simp [ClockFd.pass, ClockFd.Consistent, ClockFd.Over, hover.later (Nat.le_add_right now d)]
    · simp [ClockFd.pass, ClockFd.Consistent, ClockFd.Over, harmed, hover]

/-- While time passes, the expirations that are due come. -/
theorem pass_untimed {s : ClockState} (h : s.kernel.Consistent) (d : Nat) :
    ∃ tr, Run (TimerStep ws) s.untimed tr
      ({ s with kernel := s.kernel.pass d } : ClockState).untimed := by
  obtain ⟨timer, queue, timerfd, now, schedule⟩ := s
  cases schedule with
  | none =>
    have harmed : timerfd.armed = none := h
    refine ⟨[], ?_⟩
    simpa [ClockState.untimed, ClockFd.pass, ClockFd.Over, ClockFd.due, ← harmed] using .nil
  | some c =>
    have hle : now ≤ now + d := Nat.le_add_right ..
    have harmed : timerfd.armed = if c.Over now then none else some (modeFor c) := h
    by_cases hover : c.Over now
    case pos =>
      -- nothing comes any more
      have hover' := hover.later hle
      rw [if_pos hover] at harmed
      refine ⟨[], ?_⟩
      simpa [ClockState.untimed, ClockFd.pass, ClockFd.Over, ClockFd.due, hover', ← harmed,
        hover.due_eq hle] using .nil
    case neg =>
      rw [if_neg hover] at harmed
      by_cases hdistance : c.distance = 0
      case neg =>
        have hnever : ¬ c.Over (now + d) := fun ho => hdistance ho.1
        refine ⟨List.replicate (c.due (now + d) - c.due now) .expire, ?_⟩
        simpa [ClockState.untimed, ClockFd.pass, ClockFd.Over, ClockFd.due, hnever] using
          expire_run ⟨timer, queue, timerfd⟩ _ (by simp [harmed, modeFor, hdistance])
      case pos =>
        have hzero : c.due now = 0 := by
          have hnot : ¬ 0 < c.due now := fun hpos => hover ⟨hdistance, hpos⟩
          omega
        have hone : c.due (now + d) ≤ 1 := Schedule.due_le_one hdistance
        by_cases hpos : 0 < c.due (now + d)
        · have hexpire : TimerStep ws ⟨timer, queue, timerfd⟩ .expire _ :=
            .expire (by simp [harmed, modeFor, hdistance] : _ = some Mode.once)
          have heq : c.due (now + d) = 1 := by omega
          have hover' : c.Over (now + d) := ⟨hdistance, hpos⟩
          refine ⟨[.expire], ?_⟩
          simpa [ClockState.untimed, ClockFd.pass, ClockFd.Over, ClockFd.due, hover', heq, hzero]
            using Run.one hexpire
        · have heq : c.due (now + d) = 0 := by omega
          have hnot : ¬ c.Over (now + d) := fun ho => hpos ho.2
          refine ⟨[], ?_⟩
          simpa [ClockState.untimed, ClockFd.pass, ClockFd.Over, ClockFd.due, hnot, heq, hzero]
            using .nil

theorem exec_untimed {α : Type} {p : Io α} {k k' : ClockFd} {x : Exit α}
    (h : p.Exec ClockFd.allows k x k') :
    p.Exec TimerFd.allows k.timerfd x k'.timerfd :=
  exec_map (fun _ _ _ _ hc => hc.1) h

theorem exec_consistent {α : Type} {p : Io α} {k k' : ClockFd} {x : Exit α}
    (h : p.Exec ClockFd.allows k x k') (hk : k.Consistent) : k'.Consistent :=
  exec_invariant allows_consistent h hk

theorem step_untimed {s t : ClockState} {l : ClockLabel} (hs : s.kernel.Consistent)
    (h : ClockStep ws s l t) :
    (∃ tr, Run (TimerStep ws) s.untimed tr t.untimed) ∧ t.kernel.Consistent := by
  cases h with
  | setInterval => exact ⟨⟨_, .one .setInterval⟩, hs⟩
  | setSingleshot => exact ⟨⟨_, .one .setSingleshot⟩, hs⟩
  | start hx => exact ⟨⟨_, .one (.start (exec_untimed hx))⟩, exec_consistent hx hs⟩
  | stop hx => exact ⟨⟨_, .one (.stop (exec_untimed hx))⟩, exec_consistent hx hs⟩
  | callback hen hpos hx =>
    exact ⟨⟨_, .one (.callback hen hpos (exec_untimed hx))⟩, exec_consistent hx hs⟩
  | take => exact ⟨⟨_, .one .events⟩, hs⟩
  | others => exact ⟨⟨_, .one .events⟩, hs⟩
  | pass => exact ⟨pass_untimed hs _, pass_consistent hs _⟩

/-- **With the time left out**, the runs of a Timer are those of
`Revbio.Timer.System`. -/
theorem clock_untimed {now : Nat} {this : Ptr} {info : SourceId} {fd : Fd}
    {queue : EventQueueImpl} {tr : List ClockLabel} {s : ClockState}
    (h : Run (ClockStep ws) (freshAt now this info fd queue) tr s) :
    (∃ tr', Run (TimerStep ws) (fresh this info fd queue) tr' s.untimed) ∧
      s.kernel.Consistent := by
  refine h.invariant (I := fun s => (∃ tr', Run (TimerStep ws) (fresh this info fd queue) tr'
    s.untimed) ∧ s.kernel.Consistent) ⟨⟨[], .nil⟩, rfl⟩ ?_
  intro s l t hs hstep
  obtain ⟨⟨tr', hrun⟩, hk⟩ := hs
  obtain ⟨⟨tr'', hrun'⟩, hk'⟩ := step_untimed hk hstep
  exact ⟨⟨_, hrun.append hrun'⟩, hk'⟩

end Revbio.Timers
