/-
Revbio.Timer.ClockTheorems — a Timer counts the time.

From a `start` that takes effect until the next `start` or `stop` that
does, the events of the Timer that the client has taken, those that wait
in the queue and the expirations that have not been read make up, together
with what was in the queue before, exactly the intervals that have gone by
(`keeps_time`). So no event comes early, and a loop that polls late gets
all it has missed at once. Setting the interval or the mode in between
changes nothing about it.

The proof keeps the schedule that `start` has set and the entry in the
epoll set: an entry for one report is used up with the one expiration there
is.
-/
import Mathlib.Algebra.GroupWithZero.Nat
import Revbio.Timer.Clock
import Revbio.Timer.ActiveTheorems

namespace Revbio.Timers

open CallTree Prog Transition

variable {ws : WordSize} {t₀ : Timer} {c : Schedule} {s t : ClockState} {tr : List ClockLabel}

/-! ## Histories -/

/-- The time that goes by in a run. -/
def passed (tr : List ClockLabel) : Nat :=
  (tr.map fun l => match l with
    | .pass d => d
    | _ => 0).sum

/-- The events of the Timer that `next_event` takes in a run, without the
marked ones. -/
def taken (t : Timer) (tr : List ClockLabel) : Nat :=
  tr.countP fun l => match l with
    | .take ev => own t ev
    | _ => false

@[simp] theorem passed_snoc (tr : List ClockLabel) (l : ClockLabel) :
    passed (tr ++ [l]) = passed tr + passed [l] := by
  simp [passed]

@[simp] theorem taken_snoc (t : Timer) (tr : List ClockLabel) (l : ClockLabel) :
    taken t (tr ++ [l]) = taken t tr + taken t [l] := by
  simp [taken]

/-- The events of a Timer that was started `elapsed` nanoseconds ago. -/
def dueAfter (t : Timer) (elapsed : Nat) : Nat :=
  if t.singleshot then min 1 (elapsed / (t.interval.toNat * 10 ^ 6))
  else elapsed / (t.interval.toNat * 10 ^ 6)

/-- Calls of `start` and `stop` that have nothing to do. -/
def Undisturbed (s : ClockState) : ClockLabel → Prop
  | .start => s.timer.isActive = true ∨ s.timer.interval = 0
  | .stop => s.timer.isActive = false
  | _ => True

structure KeepsTime (ws : WordSize) (t₀ : Timer) (stale : Nat) (tr : List ClockLabel)
    (s : ClockState) : Prop where
  count : taken t₀ tr + s.waiting + s.kernel.timerfd.unread =
    stale + dueAfter t₀ (passed tr)
  /-- a poll brings all there is -/
  catchesUp : 0 < s.kernel.timerfd.unread → ∃ t, ClockStep ws s .callback t ∧
    taken t₀ tr + t.waiting = stale + dueAfter t₀ (passed tr)

/-! ## What `start` sets -/

/-- The schedule of a Timer started at `now`. -/
def startSchedule (t : Timer) (now : Nat) : Schedule where
  since := now
  first := t.interval.toNat * 10 ^ 6
  distance := if t.singleshot then 0 else t.interval.toNat * 10 ^ 6

theorem schedule_first_pos {now : Nat} (h : t₀.interval ≠ 0) :
    0 < (startSchedule t₀ now).first := by
  have hne : t₀.interval.toNat ≠ 0 := fun h0 => h (UInt32.toNat_inj.mp h0)
  have hpos : 0 < t₀.interval.toNat := Nat.pos_of_ne_zero hne
  simp [startSchedule, hpos]

theorem modeFor_startSchedule {now : Nat} (h : t₀.interval ≠ 0) :
    modeFor (startSchedule t₀ now) = modeOf t₀.singleshot := by
  have hpos : t₀.interval.toNat * 10 ^ 6 ≠ 0 := by
    have hpos : 0 < (startSchedule t₀ now).first := schedule_first_pos h
    exact Nat.ne_of_gt hpos
  unfold modeFor modeOf startSchedule
  cases t₀.singleshot with
  | true => rfl
  | false => rw [if_neg Bool.false_ne_true, if_neg hpos, if_neg Bool.false_ne_true]

theorem schedule_due {now elapsed : Nat} (h : t₀.interval ≠ 0) :
    (startSchedule t₀ now).due (now + elapsed) = dueAfter t₀ elapsed := by
  have hpos : 0 < (startSchedule t₀ now).first := schedule_first_pos h
  have hle : now ≤ now + elapsed := Nat.le_add_right ..
  unfold dueAfter
  cases hs : t₀.singleshot with
  | true =>
    rw [Schedule.due_single (by simp [startSchedule, hs]) hpos hle]
    simp [startSchedule]
  | false =>
    rw [Schedule.due_regular (by simp [startSchedule, hs]) hpos hle]
    simp [startSchedule]

theorem scheduleOf_startSpec {now : Nat} (h : t₀.interval ≠ 0) :
    scheduleOf (t₀.startSpec ws) now = some (startSchedule t₀ now) := by
  have hx : Exact t₀.interval t₀.singleshot (t₀.startSpec ws) := startSpec_exact h
  have hfirst : nanoseconds (t₀.startSpec ws).itValue = t₀.interval.toNat * 10 ^ 6 := by
    have hvalue := hx.value
    have hsec := hx.sec
    have hnsec := hx.nsec.1
    simp only [nanoseconds]
    omega
  rw [scheduleOf, if_neg hx.arms, hx.repeats, hfirst, startSchedule]
  cases t₀.singleshot with
  | true => simp [nanoseconds]
  | false => simp [hfirst]

/-- Calls that leave the schedule alone. -/
def LeavesSchedule (e : Call) : Prop := ∀ fd v, e ≠ .once (.timerfdSettime fd v)

theorem exec_schedule {α : Type} {p : Io α} {k k' : ClockFd} {x : Exit α}
    (hp : p.Within LeavesSchedule fun _ => True) (h : p.Exec ClockFd.allows k x k') :
    k'.schedule = k.schedule ∧ k'.now = k.now := by
  refine (hp.exec (I := fun k₁ => k₁.schedule = k.schedule ∧ k₁.now = k.now) ?_ h
    ⟨rfl, rfl⟩).1
  intro k₁ e r k₂ he hk hr
  obtain ⟨-, hnow, hschedule⟩ := hr
  refine ⟨?_, hnow.trans hk.2⟩
  rw [hschedule, ← hk.1]
  unfold ClockFd.scheduleAfter
  split
  · exact absurd rfl (he _ _)
  · rfl

theorem control_leaves (epfd fd : Fd) (op : EpollCtl) (events : UInt32) (data : Option Ptr)
    (msg : String) :
    (Prog.call (.once (.epollCtl epfd op fd events data)) fun s : Int =>
        if s ≠ 0 then .fail msg else .ret () : Io Unit).Within LeavesSchedule fun _ => True := by
  refine within_call (fun _ _ he => by cases he) ?_
  intro r
  split <;> trivial

/-- A `start` that has nothing to do. -/
theorem start_idle {q : EventQueueImpl} {timer : Timer} {k k' : ClockFd}
    (h : t₀.isActive = true ∨ t₀.interval = 0)
    (hx : (t₀.start ws q).Exec ClockFd.allows k (.returned timer) k') :
    timer = t₀ ∧ k' = k := by
  have hidle : (t₀.isActive || t₀.interval == 0) = true := by simpa using h
  unfold Timer.start at hx
  rw [if_pos hidle] at hx
  obtain ⟨hret, rfl⟩ := hx
  cases hret
  exact ⟨rfl, rfl⟩

/-- A `start` that takes effect. -/
theorem start_sets {q : EventQueueImpl} {timer : Timer} {k k' : ClockFd}
    (hactive : t₀.isActive = false) (hinterval : t₀.interval ≠ 0) (hfd : t₀.fd = k.timerfd.fd)
    (hx : (t₀.start ws q).Exec ClockFd.allows k (.returned timer) k') :
    k'.schedule = some (startSchedule t₀ k.now) ∧ k'.now = k.now := by
  have hbusy : ¬ (t₀.isActive || t₀.interval == 0) = true := by simp [hactive, hinterval]
  have hexact : Exact t₀.interval t₀.singleshot (t₀.startSpec ws) := startSpec_exact hinterval
  have hvalid := hexact.valid
  unfold Timer.start at hx
  rw [if_neg hbusy] at hx
  simp -zeta only [sys_eq, call_bind, ret_bind, exec_call] at hx
  obtain ⟨ret, k₁, ⟨-, hnow, hschedule⟩, hx⟩ := hx
  simp only [ClockFd.scheduleAfter, hfd, hvalid, and_self, if_true,
    scheduleOf_startSpec hinterval] at hschedule
  rw [← hschedule, ← hnow]
  refine exec_schedule ?_ hx
  split
  · refine within_bind (lastError_reports.mono ?_ fun _ h => h) fun _ _ => trivial
    intro e he fd v hset
    rw [hset] at he
    exact he
  · show Prog.Within _ _ (if _ then _ else _)
    split
    · exact within_bind (control_leaves ..) fun _ _ => trivial
    · exact within_bind (control_leaves ..) fun _ _ => trivial

/-- A `stop` that has nothing to do. -/
theorem stop_idle {q q' : EventQueueImpl} {timer : Timer} {k k' : ClockFd}
    (h : t₀.isActive = false)
    (hx : (t₀.stop q).Exec ClockFd.allows k (.returned (timer, q')) k') :
    timer = t₀ ∧ q' = q ∧ k' = k := by
  unfold Timer.stop at hx
  rw [if_pos (by simp [h])] at hx
  obtain ⟨hret, rfl⟩ := hx
  cases hret
  exact ⟨rfl, rfl, rfl⟩

theorem callback_leaves (q : EventQueueImpl) (mask : UInt32) :
    (t₀.processEpollEvents q mask).Within LeavesSchedule fun _ => True := by
  unfold Timer.processEpollEvents
  split
  · refine within_call (fun _ _ he => by cases he) ?_
    intro r
    show Prog.Within _ _ (if _ then _ else _)
    split <;> trivial
  · trivial

/-- What a callback does. -/
theorem callback_fires (h : ClockStep ws s .callback t) :
    0 < s.kernel.timerfd.unread ∧ t.untimed = s.untimed.fired ∧
      t.kernel.schedule = s.kernel.schedule ∧ t.kernel.now = s.kernel.now := by
  cases h with
  | callback hen hpos hx =>
    have hstep : TimerStep ws s.untimed .callback _ := .callback hen hpos (exec_untimed hx)
    obtain ⟨-, -, -, heq⟩ := callback_iff.mp hstep
    obtain ⟨hschedule, hnow⟩ := exec_schedule (callback_leaves _ _) hx
    exact ⟨hpos, heq, hschedule, hnow⟩

theorem view_lift (k : ClockFd) (e : Call) (r : e.Ret) (timerfd : TimerFd)
    (h : k.timerfd.allows e r timerfd) : ∃ k', k.allows e r k' ∧ k'.timerfd = timerfd :=
  ⟨⟨timerfd, k.now, k.scheduleAfter e⟩, ⟨h, rfl, rfl⟩, rfl⟩

theorem callback_exists (hI : Inv s.untimed) (hen : s.kernel.timerfd.Enabled)
    (hpos : 0 < s.kernel.timerfd.unread) : ∃ t, ClockStep ws s .callback t := by
  obtain ⟨timer, queue, timerfd, now, schedule⟩ := s
  have hstep : TimerStep ws ⟨timer, queue, timerfd⟩ .callback _ :=
    callback_iff.mpr ⟨hen, hpos, hI.fd, rfl⟩
  cases hstep with
  | callback _ _ hx =>
    obtain ⟨k', hx', -⟩ :=
      exec_lift (k := ClockFd.reported ⟨timerfd, now, schedule⟩) view_lift hx
    exact ⟨_, .callback hen hpos hx'⟩

/-! ## The invariant -/

/-- While the schedule `c` that `start` has set is in force. -/
structure Ticking (t₀ : Timer) (c : Schedule) (stale : Nat) (tr : List ClockLabel)
    (s : ClockState) : Prop where
  inv : Inv s.untimed
  source : s.timer.eventSourceInfo = t₀.eventSourceInfo
  schedule : s.kernel.schedule = some c
  now : s.kernel.now = c.since + passed tr
  unread : s.kernel.timerfd.unread ≤ c.due s.kernel.now
  entry : s.kernel.timerfd.entry = some (modeFor c).flags ∨
    c.Over s.kernel.now ∧ s.kernel.timerfd.unread = 0
  count : taken t₀ tr + s.waiting + s.kernel.timerfd.unread = stale + c.due s.kernel.now

theorem own_congr {t₁ t₂ : Timer} (h : t₁.eventSourceInfo = t₂.eventSourceInfo) :
    own t₁ = own t₂ := by
  funext ev
  simp [own, h]

/-- The events a callback pushes are all its own. -/
theorem fired_waiting (h : t.untimed = s.untimed.fired) :
    t.waiting = s.waiting + s.kernel.timerfd.unread := by
  have htimer : t.timer = s.untimed.fired.timer := congrArg TimerState.timer h
  have hqueue : t.queue = s.untimed.fired.queue := congrArg TimerState.queue h
  have hown : own t.timer = own s.timer := own_congr (by rw [htimer]; rfl)
  have hnew : own s.timer (Event.new .timerEvent s.timer.eventSourceInfo) = true := by
    simp [own, Event.new]
  rw [ClockState.waiting, hown, hqueue]
  simp [TimerState.fired, ClockState.untimed, ClockState.waiting, List.countP_replicate, hnew]

theorem Ticking.callback {stale : Nat} (h : Ticking t₀ c stale tr s)
    (hstep : ClockStep ws s .callback t) :
    Ticking t₀ c stale (tr ++ [.callback]) t ∧ t.kernel.timerfd.unread = 0 := by
  obtain ⟨hpos, hfired, hschedule, hnow⟩ := callback_fires hstep
  have htimer : t.timer = s.untimed.fired.timer := congrArg TimerState.timer hfired
  have hkernel : t.kernel.timerfd = s.untimed.fired.kernel := congrArg TimerState.kernel hfired
  have hunread : t.kernel.timerfd.unread = 0 := congrArg TimerFd.unread hkernel
  have hentry : s.kernel.timerfd.entry = some (modeFor c).flags := by
    rcases h.entry with hentry | ⟨-, hzero⟩
    · exact hentry
    · omega
  have hwaiting := fired_waiting hfired
  have hcount := h.count
  refine ⟨⟨?inv, ?source, ?schedule, ?now, ?unread, ?entry, ?count⟩, hunread⟩
  case inv =>
    rw [hfired]
    exact h.inv.fired
  case source =>
    rw [htimer]
    exact h.source
  case schedule => rw [hschedule, h.schedule]
  case now => simpa [hnow, passed] using h.now
  case unread => simp [hunread]
  case entry =>
    have hreported : t.kernel.timerfd.entry = s.kernel.timerfd.reported.entry := by
      rw [hkernel]
      rfl
    rw [hreported, reported_entry hentry]
    by_cases hdistance : c.distance = 0
    · -- the entry for one report is used up
      have hdue : 0 < c.due t.kernel.now := by
        have := h.unread
        rw [hnow]
        omega
      exact .inr ⟨⟨hdistance, hdue⟩, hunread⟩
    · simp [modeFor, hdistance]
  case count =>
    simp only [taken_snoc, hwaiting, hunread, hnow]
    simp [taken] at hcount ⊢
    omega

theorem Ticking.pass {stale : Nat} (h : Ticking t₀ c stale tr s) (d : Nat) :
    Ticking t₀ c stale (tr ++ [.pass d]) { s with kernel := s.kernel.pass d } := by
  have hle : s.kernel.now ≤ s.kernel.now + d := Nat.le_add_right ..
  have hmono : c.due s.kernel.now ≤ c.due (s.kernel.now + d) := Schedule.due_mono hle
  have hunread := h.unread
  have hcount := h.count
  have hdue : ∀ now, s.kernel.due now = c.due now := fun now => by
    simp [ClockFd.due, h.schedule]
  constructor
  case inv => exact ⟨h.inv.fd, h.inv.registered, h.inv.active⟩
  case source => exact h.source
  case schedule => exact h.schedule
  case now =>
    have hnow := h.now
    simp only [ClockFd.pass, passed_snoc, hnow]
    simp [passed, Nat.add_assoc]
  case unread =>
    simp only [ClockFd.pass, hdue]
    omega
  case entry =>
    rcases h.entry with hentry | ⟨hover, hzero⟩
    · exact .inl hentry
    · refine .inr ⟨hover.later hle, ?_⟩
      simp only [ClockFd.pass, hdue, hover.due_eq hle, hzero]
      omega
  case count =>
    have hnone : taken t₀ [.pass d] = 0 := rfl
    simp only [ClockFd.pass, hdue, taken_snoc, ClockState.waiting, hnone] at hcount ⊢
    omega

/-- Steps that change neither the timerfd nor the time. -/
theorem Ticking.still {stale : Nat} {l : ClockLabel} (h : Ticking t₀ c stale tr s)
    (hkernel : t.kernel = s.kernel) (hfd : t.timer.fd = s.timer.fd)
    (hregistered : t.timer.epollRegistered = s.timer.epollRegistered)
    (hactive : t.timer.isActive = s.timer.isActive)
    (hsource : t.timer.eventSourceInfo = s.timer.eventSourceInfo) (hpassed : passed [l] = 0)
    (hwaiting : taken t₀ [l] + t.waiting = s.waiting) :
    Ticking t₀ c stale (tr ++ [l]) t := by
  have hcount := h.count
  constructor
  case inv =>
    have hI := h.inv
    constructor
    · simpa [ClockState.untimed, hkernel, hfd] using hI.fd
    · simpa [ClockState.untimed, hkernel, hregistered] using hI.registered
    · simpa [ClockState.untimed, hactive, hregistered] using hI.active
  case source => exact hsource.trans h.source
  case schedule => rw [hkernel, h.schedule]
  case now => rw [hkernel, h.now, passed_snoc, hpassed, Nat.add_zero]
  case unread => simpa [hkernel] using h.unread
  case entry => simpa [hkernel] using h.entry
  case count =>
    simp only [hkernel, taken_snoc] at hcount ⊢
    omega

theorem step_ticking {stale : Nat} {l : ClockLabel} (h : Ticking t₀ c stale tr s)
    (hG : Undisturbed s l) (hstep : ClockStep ws s l t) :
    Ticking t₀ c stale (tr ++ [l]) t := by
  cases hstep with
  | setInterval => exact h.still rfl rfl rfl rfl rfl rfl (Nat.zero_add _)
  | setSingleshot => exact h.still rfl rfl rfl rfl rfl rfl (Nat.zero_add _)
  | start hx =>
    obtain ⟨rfl, rfl⟩ := start_idle hG hx
    exact h.still rfl rfl rfl rfl rfl rfl (Nat.zero_add _)
  | stop hx =>
    obtain ⟨rfl, rfl, rfl⟩ := stop_idle hG hx
    exact h.still rfl rfl rfl rfl rfl rfl (Nat.zero_add _)
  | callback hen hpos hx =>
    have hcallback : ClockStep ws s .callback _ := .callback hen hpos hx
    exact (h.callback hcallback).1
  | @take ev rest hqueue =>
    refine h.still rfl rfl rfl rfl rfl rfl ?_
    have hown : own t₀ = own s.timer := own_congr h.source.symm
    simp only [ClockState.waiting, hqueue, List.countP_cons, taken, List.countP_nil, hown]
    omega
  | @others evs hevs =>
    refine h.still rfl rfl rfl rfl rfl rfl ?_
    have hlength := congrArg List.length hevs
    simp only [← List.countP_eq_length_filter] at hlength
    simpa [ClockState.waiting, taken] using hlength
  | pass => exact h.pass _

/-! ## The result -/

/-- Where the timer starts. -/
theorem start_ticking (hI : Inv s.untimed) (hactive : s.timer.isActive = false)
    (hinterval : s.timer.interval ≠ 0) (hstep : ClockStep ws s .start t) :
    Ticking s.timer (startSchedule s.timer s.kernel.now) s.waiting [] t := by
  cases hstep with
  | @start timer kernel hx =>
    obtain ⟨hschedule, hnow⟩ := start_sets hactive hinterval hI.fd hx
    have hstart : TimerStep ws s.untimed .start _ := .start (exec_untimed hx)
    have heffect := hI.start (exec_untimed hx)
    have hzero : (startSchedule s.timer s.kernel.now).due s.kernel.now = 0 :=
      Schedule.due_since (schedule_first_pos hinterval)
    have hinv := step_inv hI hstart
    obtain ⟨timerfd, now, schedule⟩ := kernel
    cases heffect with
    | nothing h =>
      rcases h with h | h
      · simp [ClockState.untimed, hactive] at h
      · exact absurd h hinterval
    | started =>
      simp only at hschedule hnow
      constructor
      case inv => exact hinv
      case source => rfl
      case schedule => exact hschedule
      case now => simpa [startSchedule, passed] using hnow
      case unread => exact Nat.zero_le _
      case entry =>
        rw [modeFor_startSchedule hinterval]
        exact .inl rfl
      case count =>
        show 0 + s.waiting + 0 = s.waiting + (startSchedule s.timer s.kernel.now).due now
        rw [hnow, hzero]
        omega

/-- **A Timer counts the time**: from a `start` that takes effect until the
next call of `start` or `stop` that does, whatever else is done to it. -/
theorem keeps_time {now : Nat} {this : Ptr} {info : SourceId} {fd : Fd}
    {queue : EventQueueImpl} {before tr : List ClockLabel} {s₁ s₂ s : ClockState}
    (hbefore : Run (ClockStep ws) (freshAt now this info fd queue) before s₁)
    (hactive : s₁.timer.isActive = false) (hinterval : s₁.timer.interval ≠ 0)
    (hstart : ClockStep ws s₁ .start s₂)
    (h : GuardedRun (ClockStep ws) Undisturbed s₂ tr s) :
    KeepsTime ws s₁.timer s₁.waiting tr s := by
  obtain ⟨⟨before', hrun⟩, -⟩ := clock_untimed hbefore
  have hticking : Ticking s₁.timer (startSchedule s₁.timer s₁.kernel.now) s₁.waiting tr s :=
    h.traceInvariant (start_ticking (run_inv hrun) hactive hinterval hstart)
      fun _ _ _ _ => step_ticking
  have hdue : (startSchedule s₁.timer s₁.kernel.now).due s.kernel.now =
      dueAfter s₁.timer (passed tr) := by
    rw [hticking.now]
    exact schedule_due hinterval
  have hcount := hticking.count
  rw [hdue] at hcount
  refine ⟨hcount, ?_⟩
  intro hpos
  have hentry : s.kernel.timerfd.entry =
      some (modeFor (startSchedule s₁.timer s₁.kernel.now)).flags := by
    rcases hticking.entry with hentry | ⟨-, hzero⟩
    · exact hentry
    · omega
  obtain ⟨t, hcallback⟩ : ∃ t, ClockStep ws s .callback t :=
    callback_exists hticking.inv (enabled_flags hentry) hpos
  have hwaiting := fired_waiting (callback_fires hcallback).2.1
  refine ⟨t, hcallback, ?_⟩
  rw [hwaiting, ← hcount]
  omega

/-- A timer of one second is looked at after two and a half. -/
theorem keeps_time_late : ∃ s₁ s₂ s : ClockState,
    ClockStep .w64 s₁ .start s₂ ∧
    GuardedRun (ClockStep .w64) Undisturbed s₂ [.pass 2500000000] s ∧
    KeepsTime .w64 s₁.timer 0 [.pass 2500000000] s ∧ dueAfter s₁.timer 2500000000 = 2 := by
  let s₀ : ClockState := freshAt 0 7 0 5 ⟨3, []⟩
  let s₁ : ClockState := { s₀ with timer := s₀.timer.setInterval 1000 }
  have hinterval : Run (ClockStep .w64) s₀ [.setInterval 1000] s₁ := .one .setInterval
  have hI : Inv s₁.untimed := ⟨rfl, by decide, by decide⟩
  obtain ⟨timer, kernel, hx⟩ : ∃ timer kernel, (s₁.timer.start .w64 s₁.queue).Exec
      ClockFd.allows s₁.kernel (.returned timer) kernel := by
    cases (start_step hI rfl (by decide) : TimerStep .w64 _ _ _) with
    | start hx =>
      obtain ⟨kernel, hx', -⟩ := exec_lift (k := s₁.kernel) view_lift hx
      exact ⟨_, kernel, hx'⟩
  let s₂ : ClockState := { s₁ with timer, kernel }
  have hstart : ClockStep .w64 s₁ .start s₂ := .start hx
  have hpass : GuardedRun (ClockStep .w64) Undisturbed s₂ [.pass 2500000000] _ :=
    .snoc .nil (by trivial) .pass
  exact ⟨_, _, _, hstart, hpass, keeps_time hinterval rfl (by decide) hstart hpass, by decide⟩

end Revbio.Timers
