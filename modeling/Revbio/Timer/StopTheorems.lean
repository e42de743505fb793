/-
Revbio.Timer.StopTheorems — what `stop` leaves behind.

A `stop` that finds the Timer active takes its events out of the queue and
disarms the timerfd, so none of them is taken until it is started again.
One that finds it inactive does nothing. It is then too late for a
single-shot Timer that has expired: its event may still be in the queue,
and the client gets it after the `stop`. `stop_silences_iff` says exactly
when a `stop` is the end of the events.
-/
import Revbio.EventQueue.SourceTheorems
import Revbio.Timer.ClockTheorems

namespace Revbio.Timers

open CallTree Prog Transition

variable {ws : WordSize} {s t : ClockState} {tr : List ClockLabel}

/-- No event of the Timer is taken before it is started again. -/
def Silent (ws : WordSize) (s : ClockState) : Prop :=
  ∀ tr t, GuardedRun (ClockStep ws) Undisturbed s tr t → taken s.timer tr = 0

/-! ## What can fire has an entry -/

/-- What is to come, or to be read, is reported. -/
structure Reported (k : TimerFd) : Prop where
  armed : ∀ mode, k.armed = some mode → k.entry = some mode.flags
  unread : 0 < k.unread → k.Enabled
  once : k.armed = some .once → k.unread = 0

theorem step_reported {s t : TimerState} {l : TimerLabel} (hI : Inv s) (h : Reported s.kernel)
    (hstep : TimerStep ws s l t) : Reported t.kernel := by
  cases hstep with
  | setInterval => exact h
  | setSingleshot => exact h
  | events => exact h
  | start hx =>
    cases hI.start hx with
    | nothing => exact h
    | started =>
      refine ⟨?_, by simp [TimerFd.started], fun _ => rfl⟩
      intro mode hmode
      cases hmode
      rfl
  | stop hx =>
    cases hI.stop hx with
    | nothing => exact h
    | stopped => constructor <;> simp [TimerFd.stopped]
  | @expire mode harmed =>
    have hen := enabled_flags (h.armed mode harmed)
    cases mode with
    | once => exact ⟨by simp, fun _ => hen, by simp⟩
    | periodic =>
      refine ⟨?_, fun _ => hen, by simp⟩
      intro mode' hmode
      cases hmode
      exact h.armed _ harmed
  | callback hen hpos hx =>
    obtain ⟨-, -, -, heq⟩ := callback_iff.mp (.callback hen hpos hx : TimerStep ws s _ _)
    rw [heq]
    refine ⟨?_, by simp [TimerState.fired], fun _ => rfl⟩
    intro mode hmode
    have harmed : s.kernel.armed = some mode := hmode
    have hentry : s.fired.kernel.entry = _ := reported_entry (h.armed mode harmed)
    cases mode with
    | once =>
      have hzero := h.once harmed
      omega
    | periodic => exact hentry

/-- What holds of every state. -/
structure Sound (s : ClockState) : Prop where
  inv : Inv s.untimed
  reported : Reported s.kernel.timerfd
  consistent : s.kernel.Consistent

theorem freshAt_sound (now : Nat) (this : Ptr) (info : SourceId) (fd : Fd)
    (queue : EventQueueImpl) : Sound (freshAt now this info fd queue) :=
  ⟨fresh_inv this info fd queue, by constructor <;> simp [freshAt, fresh], rfl⟩

theorem step_sound {l : ClockLabel} (h : Sound s) (hstep : ClockStep ws s l t) : Sound t := by
  obtain ⟨⟨tr, hrun⟩, hconsistent⟩ := step_untimed h.consistent hstep
  have hkept : Inv t.untimed ∧ Reported t.kernel.timerfd := by
    refine hrun.invariant (I := fun s => Inv s ∧ Reported s.kernel) ⟨h.inv, h.reported⟩ ?_
    intro s l t hs hstep
    exact ⟨step_inv hs.1 hstep, step_reported hs.1 hs.2 hstep⟩
  exact ⟨hkept.1, hkept.2, hconsistent⟩

theorem Reported.enabled {k : TimerFd} (h : Reported k) (hfire : k.armed ≠ none ∨ 0 < k.unread) :
    k.Enabled := by
  rcases hfire with harmed | hpos
  · obtain ⟨mode, hmode⟩ := Option.ne_none_iff_exists'.mp harmed
    exact enabled_flags (h.armed mode hmode)
  · exact h.unread hpos

/-! ## Silence -/

/-- Nothing waits and nothing comes. -/
structure Quiet (s : ClockState) : Prop where
  consistent : s.kernel.Consistent
  armed : s.kernel.timerfd.armed = none
  unread : s.kernel.timerfd.unread = 0
  waiting : s.waiting = 0

theorem Quiet.pass (h : Quiet s) (d : Nat) : Quiet { s with kernel := s.kernel.pass d } := by
  have hdue : s.kernel.due (s.kernel.now + d) = s.kernel.due s.kernel.now := by
    have hconsistent := h.consistent
    rw [ClockFd.Consistent, h.armed] at hconsistent
    unfold ClockFd.due
    cases hschedule : s.kernel.schedule with
    | none => rfl
    | some c =>
      have hover : c.Over s.kernel.now := by
        by_contra hover
        simp [hschedule, hover] at hconsistent
      exact hover.due_eq (Nat.le_add_right ..)
  have harmed := h.armed
  have hunread := h.unread
  refine ⟨pass_consistent h.consistent d, ?_, ?_, h.waiting⟩
  · simp [ClockFd.pass, harmed]
  · simp [ClockFd.pass, hunread, hdue]

theorem Quiet.step {l : ClockLabel} (h : Quiet s) (hG : Undisturbed s l)
    (hstep : ClockStep ws s l t) :
    Quiet t ∧ taken s.timer [l] = 0 ∧ t.timer.eventSourceInfo = s.timer.eventSourceInfo := by
  obtain ⟨hconsistent, harmed, hunread, hwaiting⟩ := h
  cases hstep with
  | setInterval => exact ⟨⟨hconsistent, harmed, hunread, hwaiting⟩, rfl, rfl⟩
  | setSingleshot => exact ⟨⟨hconsistent, harmed, hunread, hwaiting⟩, rfl, rfl⟩
  | start hx =>
    obtain ⟨rfl, rfl⟩ := start_idle hG hx
    exact ⟨⟨hconsistent, harmed, hunread, hwaiting⟩, rfl, rfl⟩
  | stop hx =>
    obtain ⟨rfl, rfl, rfl⟩ := stop_idle hG hx
    exact ⟨⟨hconsistent, harmed, hunread, hwaiting⟩, rfl, rfl⟩
  | callback _ hpos _ => omega
  | @take ev rest hqueue =>
    simp only [ClockState.waiting, hqueue, List.countP_cons] at hwaiting
    have hrest : rest.countP (own s.timer) = 0 := by omega
    refine ⟨⟨hconsistent, harmed, hunread, hrest⟩, ?_, rfl⟩
    simp only [taken, List.countP_cons, List.countP_nil]
    omega
  | @others evs hevs =>
    have hlength := congrArg List.length hevs
    simp only [← List.countP_eq_length_filter] at hlength
    exact ⟨⟨hconsistent, harmed, hunread, hlength.trans hwaiting⟩, rfl, rfl⟩
  | pass => exact ⟨Quiet.pass ⟨hconsistent, harmed, hunread, hwaiting⟩ _, rfl, rfl⟩

theorem Quiet.silent (h : Quiet s) : Silent ws s := by
  intro tr t hrun
  have hall : taken s.timer tr = 0 ∧ Quiet t ∧
      t.timer.eventSourceInfo = s.timer.eventSourceInfo := by
    refine hrun.traceInvariant (I := fun tr t => taken s.timer tr = 0 ∧ Quiet t ∧
      t.timer.eventSourceInfo = s.timer.eventSourceInfo) ⟨rfl, h, rfl⟩ ?_
    intro tr t l u hI hG hstep
    obtain ⟨hzero, hquiet, hsource⟩ := hI
    obtain ⟨hquiet', hnone, hsource'⟩ := hquiet.step hG hstep
    refine ⟨?_, hquiet', hsource'.trans hsource⟩
    have hsame : taken s.timer [l] = taken t.timer [l] := by
      simp only [taken, own_congr hsource]
    rw [taken_snoc, hzero, hsame, hnone]
  exact hall.1

/-! ## Noise -/

/-- A client that takes one event after the other. -/
theorem takes_run (evs rest : List Event) (h : s.queue.readyEvents = evs ++ rest) :
    GuardedRun (ClockStep ws) Undisturbed s (evs.map .take)
      { s with queue := { s.queue with readyEvents := rest } } := by
  induction evs generalizing s with
  | nil =>
    have hsame : s.queue = { s.queue with readyEvents := rest } := by rw [← show _ = rest from h]
    rw [← hsame]
    exact .nil
  | cons ev evs ih =>
    have htake : GuardedRun (ClockStep ws) Undisturbed s [.take ev] _ :=
      .snoc .nil (by trivial) (.take h)
    exact htake.append (ih rfl)

theorem waiting_not_silent (h : 0 < s.waiting) : ¬ Silent ws s := by
  intro hsilent
  have hzero := hsilent _ _ (takes_run s.queue.readyEvents [] (by simp))
  simp only [taken, List.countP_map] at hzero
  exact absurd hzero (Nat.ne_of_gt h)

/-- Silence lasts. -/
theorem Silent.step {l : ClockLabel} (h : Silent ws s) (hG : Undisturbed s l)
    (hstep : ClockStep ws s l t)
    (hsource : t.timer.eventSourceInfo = s.timer.eventSourceInfo) : Silent ws t := by
  intro tr u hrun
  have hfirst : GuardedRun (ClockStep ws) Undisturbed s [l] t := .snoc .nil hG hstep
  have hzero := h _ _ (hfirst.append hrun)
  have hown : own t.timer = own s.timer := own_congr hsource
  simp only [taken, List.countP_append, hown] at hzero ⊢
  omega

theorem unread_not_silent (h : Sound s) (hpos : 0 < s.kernel.timerfd.unread) :
    ¬ Silent ws s := by
  intro hsilent
  obtain ⟨t, hcallback⟩ : ∃ t, ClockStep ws s .callback t :=
    callback_exists h.inv (h.reported.enabled (.inr hpos)) hpos
  have hfired := (callback_fires hcallback).2.1
  have hsource : t.timer.eventSourceInfo = s.timer.eventSourceInfo := by
    rw [show t.timer = s.untimed.fired.timer from congrArg TimerState.timer hfired]
    rfl
  have hwaiting := fired_waiting hfired
  have hsilent' : Silent ws t := hsilent.step (by trivial) hcallback hsource
  exact waiting_not_silent (by omega) hsilent'

theorem armed_not_silent (h : Sound s) (harmed : s.kernel.timerfd.armed ≠ none) :
    ¬ Silent ws s := by
  intro hsilent
  rw [h.consistent] at harmed
  cases hschedule : s.kernel.schedule with
  | none => simp [hschedule] at harmed
  | some c =>
    have hover : ¬ c.Over s.kernel.now := by
      intro hover
      simp [hschedule, hover] at harmed
    -- until the next expiration
    obtain ⟨d, hd⟩ := Schedule.exists_due hover
    have hpass : ClockStep ws s (.pass d) _ := .pass
    have hsilent' := hsilent.step (by trivial) hpass rfl
    refine unread_not_silent (step_sound h hpass) ?_ hsilent'
    simp only [ClockFd.pass, ClockFd.due, hschedule]
    omega

/-! ## The result -/

theorem removed_waiting (timer : Timer) (q : EventQueueImpl) :
    (timer.removePendingEvents q).readyEvents.countP (own timer) = 0 := by
  rw [Timer.removePendingEvents_eq, List.countP_eq_zero]
  intro ev hev
  obtain ⟨ev', -, rfl⟩ := List.mem_map.mp hev
  by_cases hsource : ev'.sourceInfo = timer.eventSourceInfo <;> simp [own, hsource]

/-- A `stop` that takes effect leaves nothing. -/
theorem stop_quiet (h : Sound s) (hactive : s.timer.isActive = true)
    (hstep : ClockStep ws s .stop t) : Quiet t := by
  have hconsistent := (step_sound h hstep).consistent
  cases hstep with
  | @stop timer queue kernel hx =>
    have heffect := h.inv.stop (exec_untimed hx)
    obtain ⟨timerfd, now, schedule⟩ := kernel
    cases heffect with
    | nothing hidle => simp [ClockState.untimed, hactive] at hidle
    | stopped =>
      exact ⟨hconsistent, rfl, rfl, removed_waiting s.timer s.queue⟩

/-- **A `stop` is the end of the events** exactly when it finds the Timer
active, or nothing that waits or can still come. -/
theorem stop_silences_iff {now : Nat} {this : Ptr} {info : SourceId} {fd : Fd}
    {queue : EventQueueImpl} {before : List ClockLabel}
    (hbefore : Run (ClockStep ws) (freshAt now this info fd queue) before s)
    (hstop : ClockStep ws s .stop t) :
    Silent ws t ↔
      s.timer.isActive = true ∨ (s.waiting = 0 ∧ ¬ s.kernel.timerfd.CanFire) := by
  have hs : Sound s := hbefore.invariant (freshAt_sound ..) fun _ _ _ => step_sound
  cases hactive : s.timer.isActive with
  | true => simp [(stop_quiet hs hactive hstop).silent]
  | false =>
    obtain rfl : t = s := by
      cases hstop with
      | stop hx =>
        obtain ⟨rfl, rfl, rfl⟩ := stop_idle hactive hx
        rfl
    constructor
    · intro hsilent
      refine .inr ⟨?_, ?_⟩
      · have hnot : ¬ 0 < t.waiting := fun hpos => waiting_not_silent hpos hsilent
        omega
      · rintro ⟨harmed | hpos, -⟩
        · exact armed_not_silent hs harmed hsilent
        · exact unread_not_silent hs hpos hsilent
    · rintro (hbad | ⟨hwaiting, hfire⟩)
      · simp at hbad
      · have hnot : ¬ (t.kernel.timerfd.armed ≠ none ∨ 0 < t.kernel.timerfd.unread) :=
          fun hcome => hfire ⟨hcome, hs.reported.enabled hcome⟩
        simp only [not_or, not_not, Nat.not_lt, Nat.le_zero] at hnot
        exact Quiet.silent ⟨hs.consistent, hnot.1, hnot.2, hwaiting⟩

/-- A single-shot timer is stopped after it has expired. The client gets its
event all the same. -/
theorem stop_silences_late : ∃ s t : ClockState,
    Run (ClockStep .w64) (freshAt 0 7 0 5 ⟨3, []⟩)
      [.setInterval 1000, .setSingleshot true, .start, .pass 1000000000, .callback] s ∧
    ClockStep .w64 s .stop t ∧ s.timer.isActive = false ∧ s.waiting = 1 ∧ ¬ Silent .w64 t := by
  let timer (isActive : Bool) : Timer := ⟨7, 5, isActive, 1000, true, true, 0⟩
  let once : UInt32 := EPOLLIN ||| EPOLLONESHOT
  let c : Option Schedule := some ⟨0, 1000000000, 0⟩
  let k₀ : ClockFd := ⟨⟨5, none, 0, none⟩, 0, none⟩
  let k₁ : ClockFd := ⟨⟨5, some .once, 0, none⟩, 0, c⟩
  let k₂ : ClockFd := ⟨⟨5, some .once, 0, some once⟩, 0, c⟩
  let k₃ : ClockFd := ⟨⟨5, none, 1, some once⟩, 1000000000, c⟩
  let k₄ : ClockFd := ⟨⟨5, none, 0, some EPOLLONESHOT⟩, 1000000000, c⟩
  let q : EventQueueImpl := ⟨3, [Event.new .timerEvent 0]⟩
  have h₁ : ClockStep .w64 (freshAt 0 7 0 5 ⟨3, []⟩) (.setInterval 1000) _ := .setInterval
  have h₂ : ClockStep .w64 ⟨⟨7, 5, false, 1000, false, false, 0⟩, ⟨3, []⟩, k₀⟩
      (.setSingleshot true) _ := .setSingleshot
  have hset : ClockFd.allows k₀ (.once (.timerfdSettime 5 ⟨⟨0, 0⟩, ⟨1, 0⟩⟩)) (0 : Int) k₁ :=
    ⟨(TimerFd.allows_settime ⟨rfl, by decide⟩).mpr ⟨rfl, by decide⟩, rfl, by decide⟩
  have hspec : Timer.startSpec .w64 ⟨7, 5, false, 1000, true, false, 0⟩ = ⟨⟨0, 0⟩, ⟨1, 0⟩⟩ := by
    decide
  rw [← hspec] at hset
  have hadd : ClockFd.allows k₁ (.once (.epollCtl 3 .add 5 once (some 7))) (0 : Int) k₂ :=
    ⟨(TimerFd.allows_control .add ⟨rfl, by decide⟩).mpr ⟨rfl, rfl⟩, rfl, rfl⟩
  have h₃ : ClockStep .w64 ⟨⟨7, 5, false, 1000, true, false, 0⟩, ⟨3, []⟩, k₀⟩ .start
      ⟨timer true, ⟨3, []⟩, k₂⟩ :=
    .start ⟨(0 : Int), k₁, hset, (0 : Int), k₂, hadd, rfl, rfl⟩
  have hpass : k₂.pass 1000000000 = k₃ := by decide
  have h₄ : ClockStep .w64 ⟨timer true, ⟨3, []⟩, k₂⟩ (.pass 1000000000) _ := .pass
  rw [hpass] at h₄
  have h₅ : ClockStep .w64 ⟨timer true, ⟨3, []⟩, k₃⟩ .callback ⟨timer false, q, k₄⟩ :=
    .callback ⟨once, rfl, by decide⟩ (by decide)
      ⟨((8, 1) : Int × Nat), k₄, ⟨⟨rfl, by decide, rfl, by decide⟩, rfl, rfl⟩, rfl, rfl⟩
  have hrun := Run.cons h₁ (.cons h₂ (.cons h₃ (.cons h₄ (.one h₅))))
  have hstop : ClockStep .w64 ⟨timer false, q, k₄⟩ .stop ⟨timer false, q, k₄⟩ := .stop ⟨rfl, rfl⟩
  refine ⟨_, _, hrun, hstop, rfl, rfl, ?_⟩
  rw [stop_silences_iff hrun hstop]
  rintro (hactive | ⟨hwaiting, -⟩)
  · cases hactive
  · cases hwaiting

end Revbio.Timers
