/-
Revbio.Timer.ActiveTheorems — `is_active` against what the kernel will do.

`start` arms the timerfd and registers its epoll entry for the mode the
timer is in. The callback clears `is_active` for the mode the timer is in
by then. As long as the two are the same, `is_active` says exactly whether
a `TimerEvent` can still come; a callback that finds another mode ends
this, in either direction (`active_iff`).
-/
import Revbio.Timer.StartTheorems

namespace Revbio.Timers

open CallTree Prog Transition

variable {ws : WordSize}

/-- `is_active` says whether a `TimerEvent` can still come. -/
def Truthful (s : TimerState) : Prop := s.timer.isActive = true ↔ s.kernel.CanFire

/-- A callback runs in the mode the timer was started in. -/
def AsStarted (s : TimerState) (l : TimerLabel) : Prop :=
  l = .callback → (s.timer.singleshot = true ↔ s.kernel.Oneshot)

/-! ## The two modes of an entry -/

theorem enabled_flags {k : TimerFd} {mode : Mode} (h : k.entry = some mode.flags) :
    k.Enabled := by
  refine ⟨mode.flags, h, ?_⟩
  cases mode <;> decide

theorem oneshot_flags {k : TimerFd} {mode : Mode} (h : k.entry = some mode.flags) :
    k.Oneshot ↔ mode = .once := by
  constructor
  · intro h
    obtain ⟨events, hev, hone⟩ := h
    cases h.symm.trans hev
    cases mode with
    | once => rfl
    | periodic => exact absurd (by decide) hone
  · intro h
    subst h
    exact ⟨_, h, by decide⟩

/-- A report uses up an entry for one report, and no other. -/
theorem reported_entry {k : TimerFd} {mode : Mode} (h : k.entry = some mode.flags) :
    k.reported.entry = some (if mode = .once then EPOLLONESHOT else mode.flags) := by
  simp only [TimerFd.reported, h, Option.map_some]
  cases mode <;> decide

/-! ## The invariant -/

/-- What the kernel has for an active timer: more to come, or the one
expiration to be read. -/
inductive Running (k : TimerFd) (mode : Mode) : Prop where
  | armed : k.armed = some mode → (mode = .once → k.unread = 0) → Running k mode
  | expired : mode = .once → k.armed = none → 0 < k.unread → Running k mode

structure Started (s : TimerState) : Prop where
  inv : Inv s
  running : s.timer.isActive = true →
    ∃ mode, s.kernel.entry = some mode.flags ∧ Running s.kernel mode
  still : s.timer.isActive = false → s.kernel.armed = none ∧ s.kernel.unread = 0

theorem fresh_started (this : Ptr) (info : SourceId) (fd : Fd) (queue : EventQueueImpl) :
    Started (fresh this info fd queue) where
  inv := fresh_inv this info fd queue
  running h := nomatch h
  still _ := ⟨rfl, rfl⟩

/-- Something to come or to read is there only while the timer is active. -/
theorem Started.active {s : TimerState} (h : Started s)
    (hfire : s.kernel.armed ≠ none ∨ 0 < s.kernel.unread) : s.timer.isActive = true := by
  by_contra hact
  obtain ⟨harmed, hunread⟩ := h.still (Bool.eq_false_iff.mpr hact)
  rcases hfire with hne | hpos
  · exact hne harmed
  · omega

theorem Started.truthful {s : TimerState} (h : Started s) : Truthful s := by
  refine ⟨fun hact => ?_, fun hfire => h.active hfire.1⟩
  obtain ⟨mode, hentry, hrun⟩ := h.running hact
  refine ⟨?_, enabled_flags hentry⟩
  cases hrun with
  | armed harmed => exact .inl (by simp [harmed])
  | expired _ _ hpos => exact .inr hpos

theorem Started.expire {s : TimerState} {mode : Mode} (h : Started s)
    (harmed : s.kernel.armed = some mode) (hI : Inv (s.expired mode)) :
    Started (s.expired mode) := by
  have hact : s.timer.isActive = true := h.active (.inl (by simp [harmed]))
  refine ⟨hI, fun _ => ?_, fun hstill => ?_⟩
  · obtain ⟨mode', hentry, hrun⟩ := h.running hact
    refine ⟨mode', hentry, ?_⟩
    cases hrun with
    | expired _ hnone => simp [harmed] at hnone
    | armed harmed' =>
      cases harmed.symm.trans harmed'
      cases mode with
      | once => exact .expired rfl rfl (Nat.succ_pos _)
      | periodic => exact .armed rfl (fun hm => nomatch hm)
  · rw [show s.timer.isActive = false from hstill] at hact
    cases hact

/-- A callback in the mode the timer was started in. -/
theorem Started.fire {s : TimerState} (h : Started s) (hpos : 0 < s.kernel.unread)
    (hG : s.timer.singleshot = true ↔ s.kernel.Oneshot) : Started s.fired := by
  have hI := h.inv.fired
  have hact := h.active (.inr hpos)
  obtain ⟨mode, hentry, hrun⟩ := h.running hact
  rw [oneshot_flags hentry] at hG
  cases mode with
  | once =>
    have hdone : s.fired.timer.isActive = false := by simp [TimerState.fired, hG]
    refine ⟨hI, fun ha => by simp [hdone] at ha, fun _ => ?_⟩
    cases hrun with
    | armed _ hzero => exact absurd (hzero rfl) (Nat.ne_of_gt hpos)
    | expired _ hnone => exact ⟨hnone, rfl⟩
  | periodic =>
    have hgoes : s.fired.timer.isActive = true := by simpa [TimerState.fired, hact] using hG
    refine ⟨hI, fun _ => ⟨.periodic, reported_entry hentry, ?_⟩, fun hf => by simp [hgoes] at hf⟩
    cases hrun with
    | armed harmed => exact .armed harmed (by simp)
    | expired hm => cases hm

/-- In another mode, the flag is wrong afterwards: a periodic timer that is
taken for inactive, or a single-shot one that is taken for active. -/
theorem Started.fire_other {s : TimerState} (h : Started s) (hpos : 0 < s.kernel.unread)
    (hG : ¬ (s.timer.singleshot = true ↔ s.kernel.Oneshot)) : ¬ Truthful s.fired := by
  have hact := h.active (.inr hpos)
  obtain ⟨mode, hentry, hrun⟩ := h.running hact
  rw [oneshot_flags hentry] at hG
  have hflag : s.fired.timer.isActive = (s.timer.isActive && !s.timer.singleshot) := rfl
  intro htrue
  rw [Truthful, hflag, hact] at htrue
  cases mode with
  | once =>
    have hgoes : s.timer.singleshot = false := by simpa using hG
    obtain ⟨-, events, hev, hin⟩ := htrue.mp (by simp [hgoes])
    cases (reported_entry hentry).symm.trans hev
    exact absurd (by decide) hin
  | periodic =>
    have hsingle : s.timer.singleshot = true := by simpa using hG
    have harmed : s.kernel.armed = some .periodic := by
      cases hrun with
      | armed harmed => exact harmed
      | expired hm => cases hm
    have hentry' : s.fired.kernel.entry = some Mode.periodic.flags := reported_entry hentry
    have hfire : s.fired.kernel.CanFire :=
      ⟨.inl (by simp [TimerState.fired, TimerFd.reported, harmed]), enabled_flags hentry'⟩
    simp [hsingle] at htrue
    exact htrue hfire

theorem step_started {s t : TimerState} {l : TimerLabel} (h : Started s) (hG : AsStarted s l)
    (hs : TimerStep ws s l t) : Started t := by
  have hI := step_inv h.inv hs
  cases hs with
  | setInterval => exact ⟨hI, h.running, h.still⟩
  | setSingleshot => exact ⟨hI, h.running, h.still⟩
  | events => exact ⟨hI, h.running, h.still⟩
  | expire harmed => exact h.expire harmed hI
  | start hx =>
    cases h.inv.start hx with
    | nothing => exact h
    | started =>
      exact ⟨hI, fun _ => ⟨_, rfl, .armed rfl fun _ => rfl⟩, nofun⟩
  | stop hx =>
    cases h.inv.stop hx with
    | nothing => exact h
    | stopped => exact ⟨hI, nofun, fun _ => ⟨rfl, rfl⟩⟩
  | callback hen hpos hx =>
    obtain ⟨-, -, -, heq⟩ := callback_iff.mp (.callback hen hpos hx : TimerStep ws s _ _)
    rw [heq]
    exact h.fire hpos (hG rfl)

theorem step_other {s t : TimerState} {l : TimerLabel} (h : Started s) (hG : ¬ AsStarted s l)
    (hs : TimerStep ws s l t) : ¬ Truthful t := by
  obtain ⟨rfl, hother⟩ := Classical.not_imp.mp hG
  obtain ⟨-, hpos, -, rfl⟩ := callback_iff.mp hs
  exact h.fire_other hpos hother

/-! ## What follows from `is_active` -/

/-- What a client can rely on: an inactive timer is silent until it is
started, an active one fires without being started. -/
structure Foretells (ws : WordSize) (s : TimerState) : Prop where
  silent : s.timer.isActive = false → ∀ tr t, Run (TimerStep ws) s tr t → .start ∉ tr →
    .callback ∉ tr
  fires : s.timer.isActive = true → ∃ tr t, Run (TimerStep ws) s tr t ∧
    (∀ l ∈ tr, l = .expire ∨ l = .callback) ∧ ∃ n, 0 < n ∧
      t.queue = s.queue.pushAll s.timer.eventSourceInfo (List.replicate n .timerEvent)

/-- A timer that has not been started since it was last at rest. -/
structure AtRest (s : TimerState) : Prop where
  active : s.timer.isActive = false
  armed : s.kernel.armed = none
  unread : s.kernel.unread = 0

theorem AtRest.step {s t : TimerState} {l : TimerLabel} (h : AtRest s) (hl : l ≠ .start)
    (hs : TimerStep ws s l t) : AtRest t ∧ l ≠ .callback := by
  cases hs with
  | setInterval => exact ⟨⟨h.active, h.armed, h.unread⟩, nofun⟩
  | setSingleshot => exact ⟨⟨h.active, h.armed, h.unread⟩, nofun⟩
  | events => exact ⟨⟨h.active, h.armed, h.unread⟩, nofun⟩
  | start => exact absurd rfl hl
  | expire harmed => simp [h.armed] at harmed
  | callback _ hpos => simp [h.unread] at hpos
  | stop hx =>
    unfold Timer.stop at hx
    rw [h.active, if_pos (by decide)] at hx
    obtain ⟨hx, rfl⟩ := hx
    cases hx
    exact ⟨h, nofun⟩

theorem AtRest.run {s t : TimerState} {tr : List TimerLabel} (h : AtRest s)
    (hr : Run (TimerStep ws) s tr t) (hstart : .start ∉ tr) : AtRest t ∧ .callback ∉ tr := by
  induction hr with
  | nil => exact ⟨h, by simp⟩
  | snoc _ hs ih =>
    simp only [List.mem_append, List.mem_singleton, not_or] at hstart ⊢
    obtain ⟨hrest, hno⟩ := ih hstart.1
    obtain ⟨hrest', hne⟩ := hrest.step (Ne.symm hstart.2) hs
    exact ⟨hrest', hno, Ne.symm hne⟩

theorem Started.foretells {s : TimerState} (h : Started s) : Foretells ws s := by
  constructor
  case silent =>
    intro hact tr t hr hstart
    obtain ⟨harmed, hunread⟩ := h.still hact
    exact (AtRest.run ⟨hact, harmed, hunread⟩ hr hstart).2
  case fires =>
    intro hact
    obtain ⟨mode, hentry, hrun⟩ := h.running hact
    have hen := enabled_flags hentry
    cases hrun with
    | expired _ _ hpos =>
      exact ⟨_, _, .one (callback_iff.mpr ⟨hen, hpos, h.inv.fd, rfl⟩), by simp, _, hpos, rfl⟩
    | armed harmed =>
      have h₁ : TimerStep ws s .expire (s.expired mode) := .expire harmed
      have h₂ : TimerStep ws (s.expired mode) .callback (s.expired mode).fired :=
        callback_iff.mpr ⟨hen, Nat.succ_pos _, h.inv.fd, rfl⟩
      exact ⟨_, _, .cons h₁ (.one h₂), by simp, _, Nat.succ_pos _, rfl⟩

/-! ## The exact condition -/

/-- `is_active` tells the truth in all states of a run exactly when every
callback finds the timer in the mode it was started in; and in such a run a
client can rely on it. -/
theorem active_iff (this : Ptr) (info : SourceId) (fd : Fd) (queue : EventQueueImpl)
    (tr : List TimerLabel) (s : TimerState) :
    (SafeRun (TimerStep ws) Truthful (fresh this info fd queue) tr s ↔
      GuardedRun (TimerStep ws) AsStarted (fresh this info fd queue) tr s) ∧
    (GuardedRun (TimerStep ws) AsStarted (fresh this info fd queue) tr s → Foretells ws s) := by
  have h0 := fresh_started this info fd queue
  exact ⟨safe_iff_guarded_of_invariant h0 (fun _ => Started.truthful)
      (fun _ _ _ => step_started) (fun _ _ _ => step_other),
    fun h => (h.invariant h0 fun _ _ _ => step_started).foretells⟩

/-- A periodic timer is made a single-shot one while it runs: it is taken
for inactive and goes on firing. A single-shot one is made periodic: it is
taken for active and will not fire again. -/
theorem active_fails :
    (∃ s, Run (TimerStep .w64) (fresh 7 0 5 ⟨3, []⟩)
        [.setInterval 1000, .start, .setSingleshot true, .expire, .callback] s ∧
      s.timer.isActive = false ∧ s.kernel.CanFire ∧ ¬ Foretells .w64 s) ∧
    (∃ s, Run (TimerStep .w64) (fresh 7 0 5 ⟨3, []⟩)
        [.setInterval 1000, .setSingleshot true, .start, .setSingleshot false, .expire,
          .callback] s ∧
      s.timer.isActive = true ∧ ¬ s.kernel.CanFire) := by
  let t (active singleshot : Bool) : Timer := ⟨7, 5, active, 1000, singleshot, true, 0⟩
  let q : EventQueueImpl := ⟨3, []⟩
  let q' : EventQueueImpl := ⟨3, [Event.new .timerEvent 0]⟩
  have hI : Inv (fresh 7 0 5 q) := fresh_inv ..
  have h₁ : TimerStep .w64 (fresh 7 0 5 q) (.setInterval 1000) _ := .setInterval
  constructor
  · let k (unread : Nat) : TimerFd := ⟨5, some .periodic, unread, some EPOLLIN⟩
    have h₂ : TimerStep .w64 _ .start ⟨t true false, q, k 0⟩ :=
      start_step (step_inv hI h₁) rfl (by decide)
    have h₃ : TimerStep .w64 _ (.setSingleshot true) ⟨t true true, q, k 0⟩ :=
      .setSingleshot (s := ⟨t true false, q, k 0⟩)
    have h₄ : TimerStep .w64 _ .expire ⟨t true true, q, k 1⟩ :=
      .expire (s := ⟨t true true, q, k 0⟩) rfl
    have h₅ : TimerStep .w64 ⟨t true true, q, k 1⟩ .callback ⟨t false true, q', k 0⟩ :=
      callback_iff.mpr ⟨⟨EPOLLIN, rfl, by decide⟩, by decide, rfl, rfl⟩
    refine ⟨_, .cons h₁ (.cons h₂ (.cons h₃ (.cons h₄ (.one h₅)))), rfl,
      ⟨.inl (by decide), EPOLLIN, rfl, by decide⟩, fun hf => ?_⟩
    -- the timerfd is still armed, so the next expiration is reported
    have h₆ : TimerStep .w64 _ .expire ⟨t false true, q', k 1⟩ :=
      .expire (s := ⟨t false true, q', k 0⟩) rfl
    have h₇ : TimerStep .w64 ⟨t false true, q', k 1⟩ .callback _ :=
      callback_iff.mpr ⟨⟨EPOLLIN, rfl, by decide⟩, by decide, rfl, rfl⟩
    exact hf.silent rfl _ _ (.cons h₆ (.one h₇)) (by simp) (by simp)
  · let k (armed : Option Mode) (unread : Nat) (events : UInt32) : TimerFd :=
      ⟨5, armed, unread, some events⟩
    have h₂ : TimerStep .w64 _ (.setSingleshot true) _ :=
      .setSingleshot (s := (fresh 7 0 5 q).withTimer ((fresh 7 0 5 q).timer.setInterval 1000))
    have h₃ : TimerStep .w64 _ .start
        ⟨t true true, q, k (some .once) 0 (EPOLLIN ||| EPOLLONESHOT)⟩ :=
      start_step (step_inv (step_inv hI h₁) h₂) rfl (by decide)
    have h₄ : TimerStep .w64 _ (.setSingleshot false)
        ⟨t true false, q, k (some .once) 0 (EPOLLIN ||| EPOLLONESHOT)⟩ :=
      .setSingleshot (s := ⟨t true true, q, k (some .once) 0 (EPOLLIN ||| EPOLLONESHOT)⟩)
    have h₅ : TimerStep .w64 _ .expire ⟨t true false, q, k none 1 (EPOLLIN ||| EPOLLONESHOT)⟩ :=
      .expire (s := ⟨t true false, q, k (some .once) 0 (EPOLLIN ||| EPOLLONESHOT)⟩) rfl
    have h₆ : TimerStep .w64 ⟨t true false, q, k none 1 (EPOLLIN ||| EPOLLONESHOT)⟩ .callback
        ⟨t true false, q', k none 0 EPOLLONESHOT⟩ :=
      callback_iff.mpr ⟨⟨EPOLLIN ||| EPOLLONESHOT, rfl, by decide⟩, by decide, rfl, rfl⟩
    refine ⟨_, .cons h₁ (.cons h₂ (.cons h₃ (.cons h₄ (.cons h₅ (.one h₆))))), rfl, ?_⟩
    intro h
    obtain ⟨-, events, hev, hin⟩ := h
    cases hev
    exact absurd (by decide) hin

end Revbio.Timers
