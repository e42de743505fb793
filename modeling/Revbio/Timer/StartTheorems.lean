/-
Revbio.Timer.StartTheorems — how a Timer uses the kernel interface.

The flag `epoll_registered` and the epoll set agree in every state, so each
`epoll_ctl` of `start` and `stop` is the one the set asks for, and the
value `start` passes to `timerfd_settime` is exact and arms the timer
(`start_stop_proper`). The mode can be changed at any time, and the
callback looks at it; none of this depends on that.
-/
import Revbio.Timer.System

namespace Revbio.Timers

open CallTree Prog Transition

variable {ws : WordSize}

/-! ## The value passed to `timerfd_settime` -/

/-- The value for an interval in milliseconds. -/
structure Exact (interval : UInt32) (singleshot : Bool) (v : Itimerspec) : Prop where
  sec : 0 ≤ v.itValue.tvSec
  nsec : 0 ≤ v.itValue.tvNsec ∧ v.itValue.tvNsec < 10 ^ 9
  value : v.itValue.tvSec * 10 ^ 9 + v.itValue.tvNsec = interval.toNat * 10 ^ 6
  arms : v.itValue ≠ ⟨0, 0⟩
  repeats : v.itInterval = if singleshot then ⟨0, 0⟩ else v.itValue

/-- No overflow below `2 ^ 31`, on either target. -/
theorem asLong_natCast {n : Nat} (h : n < 2 ^ 31) : ws.asLong (n : Int) = n := by
  unfold WordSize.asLong
  cases ws <;> simp only [WordSize.bits] <;> rw [Int.bmod_eq_of_le] <;> omega

theorem startSpec_itValue (t : Timer) :
    (t.startSpec ws).itValue =
      ⟨(t.interval.toNat / 1000 : Nat), (t.interval.toNat % 1000 * 1000000 : Nat)⟩ := by
  have hlt := t.interval.toNat_lt
  have hdiv : (t.interval / 1000).toNat = t.interval.toNat / 1000 := UInt32.toNat_div ..
  have hmod : (t.interval % 1000).toNat = t.interval.toNat % 1000 := UInt32.toNat_mod ..
  have hsec : ws.asLong (t.interval / 1000).toNat = (t.interval.toNat / 1000 : Nat) := by
    rw [hdiv]
    exact asLong_natCast (by omega)
  have hmsec : ws.asLong (t.interval % 1000).toNat = (t.interval.toNat % 1000 : Nat) := by
    rw [hmod]
    exact asLong_natCast (by omega)
  have hnsec : ws.asLong ((t.interval.toNat % 1000 : Nat) * 1000000) =
      (t.interval.toNat % 1000 * 1000000 : Nat) :=
    asLong_natCast (n := t.interval.toNat % 1000 * 1000000) (by omega)
  have hval : (t.startSpec ws).itValue =
      ⟨ws.asLong (t.interval / 1000).toNat,
        ws.asLong (ws.asLong (t.interval % 1000).toNat * 1000000)⟩ := by
    unfold Timer.startSpec
    cases t.singleshot <;> rfl
  rw [hval, hsec, hmsec, hnsec]

theorem startSpec_exact {t : Timer} (h : t.interval ≠ 0) :
    Exact t.interval t.singleshot (t.startSpec ws) := by
  have hpos : t.interval.toNat ≠ 0 := fun h0 => h (UInt32.toNat_inj.mp h0)
  constructor
  case repeats => unfold Timer.startSpec; cases t.singleshot <;> rfl
  all_goals rw [startSpec_itValue]
  case sec => simp only; omega
  case nsec => simp only; omega
  case value => simp only; omega
  case arms =>
    intro heq
    have hsec := congrArg Timespec.tvSec heq
    have hnsec := congrArg Timespec.tvNsec heq
    simp only at hsec hnsec
    omega

theorem Exact.valid {interval : UInt32} {singleshot : Bool} {v : Itimerspec}
    (h : Exact interval singleshot v) : v.Valid := by
  have hvalue : v.itValue.Valid := ⟨h.sec, h.nsec.1, h.nsec.2⟩
  refine ⟨?_, hvalue⟩
  rw [h.repeats]
  split
  · decide
  · exact hvalue

/-! ## What each operation does -/

def modeOf (singleshot : Bool) : Mode := if singleshot then .once else .periodic

/-- The events `start` registers. -/
def Mode.flags : Mode → UInt32
  | .once => EPOLLIN ||| EPOLLONESHOT
  | .periodic => EPOLLIN

/-- The kernel's side after a `start`. -/
def TimerFd.started (k : TimerFd) (mode : Mode) : TimerFd :=
  { k with armed := some mode, unread := 0, entry := some mode.flags }

/-- The kernel's side after a `stop`. -/
def TimerFd.stopped (k : TimerFd) : TimerFd :=
  { k with armed := none, unread := 0, entry := none }

/-- The calls of `start`: proper ones, and an exact value. -/
def StartCall (t : Timer) (k : TimerFd) (c : Call) : Prop :=
  k.Proper c ∧ ∀ fd v, c = .once (.timerfdSettime fd v) → Exact t.interval t.singleshot v

inductive StartEffect (t : Timer) (k : TimerFd) : Timer → TimerFd → Prop where
  | nothing : t.isActive = true ∨ t.interval = 0 → StartEffect t k t k
  | started : t.isActive = false → t.interval ≠ 0 →
      StartEffect t k { t with isActive := true, epollRegistered := true }
        (k.started (modeOf t.singleshot))

inductive StopEffect (t : Timer) (q : EventQueueImpl) (k : TimerFd) :
    Timer → EventQueueImpl → TimerFd → Prop where
  | nothing : t.isActive = false → StopEffect t q k t q k
  | stopped : t.isActive = true →
      StopEffect t q k { t with isActive := false, epollRegistered := false }
        (t.removePendingEvents q) k.stopped

theorem settime_startSpec (k : TimerFd) {t : Timer} (h : t.interval ≠ 0) :
    k.settime (t.startSpec ws) =
      { k with armed := some (modeOf t.singleshot), unread := 0 } := by
  have hx : Exact t.interval t.singleshot (t.startSpec ws) := startSpec_exact h
  have harms := hx.arms
  unfold TimerFd.settime
  rw [if_neg harms, hx.repeats]
  cases t.singleshot
  · rw [if_neg Bool.false_ne_true, if_neg harms]
    rfl
  · rfl

/-- `register_fd`, `modify_fd` and `unregister_fd`, used as they should be. -/
theorem control_fit {k : TimerFd} {ok : TimerFd → Call → Prop} {epfd fd : Fd} {op : EpollCtl}
    {events : UInt32} {data : Option Ptr} {msg : String}
    (hop : (TimerFd.Proper k (.once (.epollCtl epfd op fd events data))))
    (hok : ok k (.once (.epollCtl epfd op fd events data))) :
    (Prog.call (.once (.epollCtl epfd op fd events data)) fun s : Int =>
        if s ≠ 0 then .fail msg else .ret () : Io Unit).Fit TimerFd.allows ok
      (fun x k' => x = .returned () ∧ k' = k.control op events) k := by
  refine ⟨hok, ?_⟩
  intro s k' hs
  obtain ⟨rfl, rfl⟩ := (TimerFd.allows_control op hop).mp hs
  exact ⟨rfl, rfl⟩

theorem start_fit {t : Timer} {k : TimerFd} (q : EventQueueImpl) (hfd : t.fd = k.fd)
    (hreg : t.epollRegistered = true ↔ k.entry ≠ none) :
    (t.start ws q).Fit TimerFd.allows (StartCall t)
      (fun x k' => ∃ t', x = .returned t' ∧ StartEffect t k t' k') k := by
  unfold Timer.start
  by_cases hidle : t.isActive || t.interval == 0
  · rw [if_pos hidle]
    exact ⟨t, rfl, .nothing (by simpa using hidle)⟩
  rw [if_neg hidle]
  simp only [Bool.or_eq_true, beq_iff_eq, not_or, Bool.not_eq_true] at hidle
  obtain ⟨hact, hint⟩ := hidle
  have hx : Exact t.interval t.singleshot (t.startSpec ws) := startSpec_exact hint
  simp -zeta only [sys_eq, call_bind, ret_bind, fit_call]
  refine ⟨⟨⟨hfd, hx.valid⟩, ?_⟩, ?_⟩
  · intro fd v hc
    cases hc
    exact hx
  intro ret k₁ hr
  obtain ⟨rfl, rfl⟩ := (TimerFd.allows_settime ⟨hfd, hx.valid⟩).mp hr
  rw [settime_startSpec k hint]
  have hflags : (if t.singleshot then EPOLLIN ||| EPOLLONESHOT else EPOLLIN) =
      (modeOf t.singleshot).flags := by cases t.singleshot <;> rfl
  simp only [ne_eq, not_true_eq_false, if_false, hflags]
  -- the branch on `epoll_registered` is the one on the entry
  cases hr : t.epollRegistered with
  | false =>
    have hnone : k.entry = none := by simpa [hr] using hreg
    rw [if_pos (Bool.not_false), fit_bind]
    refine fit_mono ?_ (control_fit ⟨hfd, hnone⟩ ⟨⟨hfd, hnone⟩, fun _ _ hc => nomatch hc⟩)
    intro _ k₂ h
    obtain ⟨rfl, rfl⟩ := h
    exact ⟨_, rfl, .started hact hint⟩
  | true =>
    have hsome : k.entry ≠ none := hreg.mp hr
    rw [if_neg (by decide), fit_bind]
    refine fit_mono ?_ (control_fit ⟨hfd, hsome⟩ ⟨⟨hfd, hsome⟩, fun _ _ hc => nomatch hc⟩)
    intro _ k₂ h
    obtain ⟨rfl, rfl⟩ := h
    exact ⟨_, rfl, .started hact hint⟩

theorem stop_fit {t : Timer} {k : TimerFd} (q : EventQueueImpl) (hfd : t.fd = k.fd)
    (hreg : t.isActive = true → k.entry ≠ none) :
    (t.stop q).Fit TimerFd.allows TimerFd.Proper
      (fun x k' => ∃ t' q', x = .returned (t', q') ∧ StopEffect t q k t' q' k') k := by
  unfold Timer.stop
  cases hact : t.isActive with
  | false => exact ⟨t, q, rfl, .nothing hact⟩
  | true =>
    have hvalid : Itimerspec.new.Valid := by decide
    have hsome := hreg hact
    simp -zeta only [Bool.not_true, Bool.false_eq_true, if_false, sys_eq, call_bind, ret_bind,
      fit_call]
    refine ⟨⟨hfd, hvalid⟩, ?_⟩
    intro ret k₁ hr
    obtain ⟨rfl, rfl⟩ := (TimerFd.allows_settime ⟨hfd, hvalid⟩).mp hr
    rw [if_neg (not_not.mpr rfl), fit_bind]
    refine fit_mono ?_ (control_fit ⟨hfd, hsome⟩ ⟨hfd, hsome⟩)
    intro _ k₂ h
    obtain ⟨rfl, rfl⟩ := h
    exact ⟨_, _, rfl, .stopped hact⟩

/-- The callback reads and makes no other call. -/
theorem callback_within (t : Timer) (q : EventQueueImpl) (mask : UInt32) :
    (t.processEpollEvents q mask).Within (fun c => ∀ k : TimerFd, k.Proper c)
      fun _ => True := by
  unfold Timer.processEpollEvents
  split
  · simp only [retry_eq, call_bind, ret_bind]
    refine within_call (fun _ => trivial) ?_
    intro r
    split <;> trivial
  · trivial

/-- The state after a callback: an event for each expiration. -/
def TimerState.fired (s : TimerState) : TimerState where
  timer := { s.timer with isActive := s.timer.isActive && !s.timer.singleshot }
  queue := s.queue.pushAll s.timer.eventSourceInfo (List.replicate s.kernel.unread .timerEvent)
  kernel := { s.kernel.reported with unread := 0 }

/-- The state after an expiration. -/
def TimerState.expired (s : TimerState) (mode : Mode) : TimerState :=
  { s with
    kernel := { s.kernel with
      armed := if mode = .once then none else some .periodic
      unread := s.kernel.unread + 1 } }

/-- What a callback does, and when it can run. -/
theorem callback_iff {s t : TimerState} :
    TimerStep ws s .callback t ↔
      s.kernel.Enabled ∧ 0 < s.kernel.unread ∧ s.timer.fd = s.kernel.fd ∧ t = s.fired := by
  have hexec : ∀ x k', (s.timer.processEpollEvents s.queue EPOLLIN).Exec TimerFd.allows
        s.kernel.reported x k' ↔
      s.timer.fd = s.kernel.fd ∧ 0 < s.kernel.unread ∧
        x = .returned (Timer.onExpiration^[s.kernel.unread] (s.timer, s.queue)) ∧
        k' = { s.kernel.reported with unread := 0 } := by
    intro x k'
    unfold Timer.processEpollEvents
    rw [if_pos (by decide)]
    simp only [retry_eq, call_bind, ret_bind, exec_call, TimerFd.allows]
    constructor
    · intro h'
      obtain ⟨r, k₁, ⟨hfd, hpos, rfl, rfl⟩, h⟩ := h'
      exact ⟨hfd, hpos, h⟩
    · intro h'
      obtain ⟨hfd, hpos, h⟩ := h'
      exact ⟨_, _, ⟨hfd, hpos, rfl, rfl⟩, h⟩
  have hfired : 0 < s.kernel.unread →
      Timer.onExpiration^[s.kernel.unread] (s.timer, s.queue) = (s.fired.timer, s.fired.queue) := by
    intro hpos
    have hne : (s.kernel.unread == 0) = false := by simpa using Nat.ne_of_gt hpos
    rw [Timer.onExpiration_iterate, hne, Bool.false_or]
    rfl
  constructor
  · intro h
    cases h with
    | callback hen hpos hx =>
      obtain ⟨hfd, -, hret, rfl⟩ := (hexec _ _).mp hx
      rw [hfired hpos] at hret
      cases hret
      exact ⟨hen, hpos, hfd, rfl⟩
  · intro h
    obtain ⟨hen, hpos, hfd, rfl⟩ := h
    refine .callback hen hpos ((hexec _ _).mpr ⟨hfd, hpos, ?_, rfl⟩)
    rw [hfired hpos]
    rfl

/-! ## The flags and the epoll set -/

structure Inv (s : TimerState) : Prop where
  fd : s.timer.fd = s.kernel.fd
  registered : s.timer.epollRegistered = true ↔ s.kernel.entry ≠ none
  active : s.timer.isActive = true → s.timer.epollRegistered = true

theorem fresh_inv (this : Ptr) (info : SourceId) (fd : Fd) (queue : EventQueueImpl) :
    Inv (fresh this info fd queue) where
  fd := rfl
  registered := by simp [fresh]
  active h := nomatch h

theorem Inv.start {s : TimerState} (hI : Inv s) {timer : Timer} {kernel : TimerFd}
    (h : (s.timer.start ws s.queue).Exec TimerFd.allows s.kernel (.returned timer) kernel) :
    StartEffect s.timer s.kernel timer kernel := by
  obtain ⟨t', ht, heff⟩ := fit_sound (start_fit s.queue hI.fd hI.registered) h
  cases ht
  exact heff

theorem Inv.stop {s : TimerState} (hI : Inv s) {timer : Timer} {queue : EventQueueImpl}
    {kernel : TimerFd}
    (h : (s.timer.stop s.queue).Exec TimerFd.allows s.kernel (.returned (timer, queue))
      kernel) : StopEffect s.timer s.queue s.kernel timer queue kernel := by
  obtain ⟨t', q', ht, heff⟩ :=
    fit_sound (stop_fit s.queue hI.fd fun ha => hI.registered.mp (hI.active ha)) h
  cases ht
  exact heff

theorem Inv.fired {s : TimerState} (hI : Inv s) : Inv s.fired where
  fd := hI.fd
  registered := by simpa [TimerState.fired, TimerFd.reported] using hI.registered
  active ha := hI.active (Bool.and_eq_true .. |>.mp ha).1

theorem step_inv {s t : TimerState} {l : TimerLabel} (hI : Inv s) (h : TimerStep ws s l t) :
    Inv t := by
  cases h with
  | setInterval => exact ⟨hI.fd, hI.registered, hI.active⟩
  | setSingleshot => exact ⟨hI.fd, hI.registered, hI.active⟩
  | events => exact ⟨hI.fd, hI.registered, hI.active⟩
  | expire => exact ⟨hI.fd, hI.registered, hI.active⟩
  | start hx =>
    cases hI.start hx with
    | nothing => exact hI
    | started => exact ⟨hI.fd, by simp [TimerFd.started], fun _ => rfl⟩
  | stop hx =>
    cases hI.stop hx with
    | nothing => exact hI
    | stopped => exact ⟨hI.fd, by simp [TimerFd.stopped], fun ha => nomatch ha⟩
  | callback hen hpos hx =>
    obtain ⟨-, -, -, heq⟩ := callback_iff.mp (.callback hen hpos hx : TimerStep ws s _ _)
    rw [heq]
    exact hI.fired

theorem run_inv {this : Ptr} {info : SourceId} {fd : Fd} {queue : EventQueueImpl}
    {tr : List TimerLabel} {s : TimerState}
    (h : Run (TimerStep ws) (fresh this info fd queue) tr s) : Inv s :=
  h.invariant (fresh_inv this info fd queue) fun _ _ _ => step_inv

/-! ## The result -/

/-- In state `s` the interface is used properly, and `start` and `stop` do
not fail. -/
structure ProperUse (ws : WordSize) (s : TimerState) : Prop where
  startCalls : ∀ c k, (s.timer.start ws s.queue).Makes TimerFd.allows s.kernel c k → k.Proper c
  stopCalls : ∀ c k, (s.timer.stop s.queue).Makes TimerFd.allows s.kernel c k → k.Proper c
  callbackCalls : ∀ mask c k, (s.timer.processEpollEvents s.queue mask).Makes TimerFd.allows
    s.kernel.reported c k → k.Proper c
  startValue : ∀ fd v k, (s.timer.start ws s.queue).Makes TimerFd.allows s.kernel
    (.once (.timerfdSettime fd v)) k → Exact s.timer.interval s.timer.singleshot v
  startReturns : ∀ msg k, ¬ (s.timer.start ws s.queue).Exec TimerFd.allows s.kernel
    (.failed msg) k
  stopReturns : ∀ msg k, ¬ (s.timer.stop s.queue).Exec TimerFd.allows s.kernel (.failed msg) k

theorem Inv.properUse {s : TimerState} (hI : Inv s) : ProperUse ws s := by
  have hstart := @start_fit ws s.timer s.kernel s.queue hI.fd hI.registered
  have hstop := stop_fit s.queue hI.fd fun ha => hI.registered.mp (hI.active ha)
  constructor
  case startCalls => exact fun c k hc => (fit_makes hstart hc).1
  case stopCalls => exact fun c k hc => fit_makes hstop hc
  case callbackCalls => exact fun mask c k hc => (callback_within _ _ mask).makes hc k
  case startValue => exact fun fd v k hc => (fit_makes hstart hc).2 fd v rfl
  case startReturns =>
    intro msg k hx
    obtain ⟨t', ht, -⟩ := fit_sound hstart hx
    cases ht
  case stopReturns =>
    intro msg k hx
    obtain ⟨t', q', ht, -⟩ := fit_sound hstop hx
    cases ht

/-- The other way round: a `start` that is needed is possible. -/
theorem start_step {s : TimerState} (hI : Inv s) (hact : s.timer.isActive = false)
    (hint : s.timer.interval ≠ 0) :
    TimerStep ws s .start { s with
      timer := { s.timer with isActive := true, epollRegistered := true }
      kernel := s.kernel.started (modeOf s.timer.singleshot) } := by
  have hx : Exact s.timer.interval s.timer.singleshot (s.timer.startSpec ws) :=
    startSpec_exact hint
  have hflags : (if s.timer.singleshot then EPOLLIN ||| EPOLLONESHOT else EPOLLIN) =
      (modeOf s.timer.singleshot).flags := by cases s.timer.singleshot <;> rfl
  refine .start ?_
  unfold Timer.start
  rw [if_neg (by simp [hact, hint])]
  simp only [sys_eq, call_bind, ret_bind, exec_call]
  refine ⟨0, _, (TimerFd.allows_settime ⟨hI.fd, hx.valid⟩).mpr ⟨rfl, rfl⟩, ?_⟩
  rw [if_neg (not_not.mpr rfl), hflags, settime_startSpec _ hint]
  cases hr : s.timer.epollRegistered with
  | false =>
    have hnone : s.kernel.entry = none := by simpa [hr] using hI.registered
    refine ⟨0, _, (TimerFd.allows_control .add ?_).mpr ⟨rfl, rfl⟩, rfl, rfl⟩
    exact ⟨hI.fd, hnone⟩
  | true =>
    refine ⟨0, _, (TimerFd.allows_control .mod ?_).mpr ⟨rfl, rfl⟩, rfl, rfl⟩
    exact ⟨hI.fd, hI.registered.mp hr⟩

/-- In every state of every run the flags agree with the epoll set, and
`start` and `stop` make no call the kernel would refuse. -/
theorem start_stop_proper {this : Ptr} {info : SourceId} {fd : Fd} {queue : EventQueueImpl}
    {tr : List TimerLabel} {s : TimerState}
    (h : Run (TimerStep ws) (fresh this info fd queue) tr s) :
    (s.timer.epollRegistered = true ↔ s.kernel.entry ≠ none) ∧
      (s.timer.isActive = true → s.timer.epollRegistered = true) ∧ ProperUse ws s :=
  ⟨(run_inv h).registered, (run_inv h).active, (run_inv h).properUse⟩

/-- A timer of 1.5 s, started. -/
def ticking : TimerState where
  timer := ⟨7, 5, true, 1500, false, true, 0⟩
  queue := ⟨3, []⟩
  kernel := ⟨5, some .periodic, 0, some EPOLLIN⟩

theorem ticking_run :
    Run (TimerStep .w32) (fresh 7 0 5 ⟨3, []⟩) [.setInterval 1500, .start] ticking := by
  have h₁ : TimerStep .w32 (fresh 7 0 5 ⟨3, []⟩) (.setInterval 1500) _ := .setInterval
  exact .cons h₁ (.one (start_step (step_inv (fresh_inv ..) h₁) rfl (by decide)))

theorem start_stop_proper_ticking :
    (ticking.timer.epollRegistered = true ↔ ticking.kernel.entry ≠ none) ∧
      (ticking.timer.isActive = true → ticking.timer.epollRegistered = true) ∧
      ProperUse .w32 ticking :=
  start_stop_proper ticking_run

end Revbio.Timers
