/-
Revbio.Descriptors.LifeTheorems — acquiring and releasing a descriptor,
for every number the kernel may give out.

The three owners tell "no descriptor" apart in three ways.
`EventQueueImpl::new` tests for `1`, so a failure of `epoll_create` makes
an object that holds `-1`, and an epoll set with the number `1` stays open
with nobody to close it. `Timer::drop` tests for `0`, so a timer with that
number is never closed. The receiver tests for `-1` at both ends.

`Correct` is what a life should be like. `Inv` says what is true of every
life, whatever the number: `Outcome` when there is an owner at all, and
`StageOk`, over `Kernel.Is`, that the owner holds the descriptor, has it
open and has not closed it until the drop. `correct_iff_fit` puts the two
together.
-/
import Revbio.Descriptors.System
import Revbio.Epoll.ChannelTheorems

namespace Revbio.Descriptors

open CallTree Prog Epoll
open Sockets (Trace issuedOn closes closings)

variable {T : Type} {ws : WordSize}

/-! ## What is to be shown -/

/-- The call has failed, and it is not the one that makes a descriptor. -/
def refused : (c : Call) → c.Ret → Bool
  | .once (.epollCtl _ _ _ _ _), a => decide ((a : Int) ≠ 0)
  | .retry (.writeOne _), a => decide ((a : Int) = -1)
  | _, _ => false

def Spoiled (tr : Trace) : Prop := ∃ c ∈ tr, refused c.1 c.2 = true

/-- A life after the constructor, with the number `r`. -/
structure Correct (r : Int) (κ : Kind) (s : Life T) : Prop where
  /-- there is an object unless the kernel has failed -/
  made : s.made = true ↔ r ≠ -1
  /-- it holds the descriptor -/
  holds : ∀ o, s.stage = .alive o → o.Holds κ r
  /-- all its calls are about open descriptors -/
  used : s.kernel.misused = false
  /-- it closes its descriptor once -/
  closed : s.stage = .gone → s.made = true → closings r s.kernel.calls = 1
  /-- nothing is left open, by a failed constructor or by a drop -/
  released : s.stage = .gone → ∀ fd, s.kernel.mine fd = false

/-- The numbers an owner can deal with. -/
def FitFor (r : Int) : Kind → Prop
  | .eventQueue => r ≠ -1 ∧ r ≠ 1
  | .timer => r ≠ 0
  | .receiver => True

instance (r : Int) (κ : Kind) : Decidable (FitFor r κ) :=
  match κ with
  | .eventQueue => inferInstanceAs (Decidable (_ ∧ _))
  | .timer => inferInstanceAs (Decidable (_ ≠ _))
  | .receiver => inferInstanceAs (Decidable True)

/-- The owner has been dropped, or its constructor has failed. -/
def Over (s : Life T) : Prop :=
  s.stage = .gone ∨ s.made = false ∧ ∃ o, s.stage = .unwinding o

/-! ## Calls -/

/-- A call that neither makes nor closes a descriptor, about descriptors in
`N` only. -/
structure Calm (N : Fd → Prop) (c : Call) : Prop where
  acquired : ∀ a, acquired c a = none
  closes : ∀ fd, closes fd c = false
  about : ∀ fd ∈ descriptors c, N fd

/-- For a call that is about no descriptor at all. -/
theorem calm_of_none {N : Fd → Prop} {c : Call} (hacquired : ∀ a, Descriptors.acquired c a = none)
    (hcloses : ∀ fd, Sockets.closes fd c = false) (habout : descriptors c = []) : Calm N c where
  acquired := hacquired
  closes := hcloses
  about := by simp [habout]

/-- For a call that is about one descriptor. -/
theorem calm_of_one {N : Fd → Prop} {c : Call} {fd : Fd}
    (hacquired : ∀ a, Descriptors.acquired c a = none)
    (hcloses : ∀ fd, Sockets.closes fd c = false) (habout : descriptors c = [fd]) (hfd : N fd) :
    Calm N c where
  acquired := hacquired
  closes := hcloses
  about := by simp [habout, hfd]

theorem reports_calm {N : Fd → Prop} (c : Call) (h : Reports c) : Calm N c :=
  h.each (calm_of_none (fun _ => rfl) (fun _ => rfl) rfl)
    (calm_of_none (fun _ => rfl) (fun _ => rfl) rfl)
    (fun _ => calm_of_none (fun _ => rfl) (fun _ => rfl) rfl)
    fun _ => calm_of_none (fun _ => rfl) (fun _ => rfl) rfl

theorem mutexLock_calm {N : Fd → Prop} : Calm N (.once .mutexLock) :=
  calm_of_none (fun _ => rfl) (fun _ => rfl) rfl

theorem mutexUnlock_calm {N : Fd → Prop} : Calm N (.once .mutexUnlock) :=
  calm_of_none (fun _ => rfl) (fun _ => rfl) rfl

theorem channelCall_calm {N : Fd → Prop} {fd : Fd} (hfd : N fd) (c : Call)
    (h : ChannelCall fd c) : Calm N c := by
  unfold ChannelCall at h
  split at h
  case h_5 =>
    subst h
    exact calm_of_one (fun _ => rfl) (fun _ => rfl) rfl hfd
  case h_6 =>
    subst h
    exact calm_of_one (fun _ => rfl) (fun _ => rfl) rfl hfd
  case h_7 => exact reports_calm c h
  all_goals exact calm_of_none (fun _ => rfl) (fun _ => rfl) rfl

theorem epollCtl_calm {N : Fd → Prop} {epfd fd : Fd} (op : EpollCtl) (events : UInt32)
    (data : Option Ptr) (hepfd : N epfd) (hfd : N fd) :
    Calm N (.once (.epollCtl epfd op fd events data)) where
  acquired _ := rfl
  closes _ := rfl
  about := by simp [descriptors, hepfd, hfd]

/-! ### Operations -/

theorem registerFd_calm {N : Fd → Prop} {q : EventQueueImpl} {fd : Fd} (hq : N q.fd) (hfd : N fd)
    (flags : UInt32) (callback : Ptr) :
    (q.registerFd fd flags callback).Within (Calm N) fun _ => True := by
  refine within_call (epollCtl_calm _ _ _ hq hfd) fun s => ?_
  exact within_ite (within_fail _) (within_ret trivial)

theorem modifyFd_calm {N : Fd → Prop} {q : EventQueueImpl} {fd : Fd} (hq : N q.fd) (hfd : N fd)
    (flags : UInt32) (callback : Ptr) :
    (q.modifyFd fd flags callback).Within (Calm N) fun _ => True := by
  refine within_call (epollCtl_calm _ _ _ hq hfd) fun s => ?_
  exact within_ite (within_fail _) (within_ret trivial)

theorem unregisterFd_calm {N : Fd → Prop} {q : EventQueueImpl} {fd : Fd} (hq : N q.fd)
    (hfd : N fd) : (q.unregisterFd fd).Within (Calm N) fun _ => True := by
  refine within_call (epollCtl_calm _ _ _ hq hfd) fun s => ?_
  exact within_ite (within_fail _) (within_ret trivial)

theorem lastError_calm {N : Fd → Prop} : lastError.Within (Calm N) fun _ => True :=
  lastError_reports.mono reports_calm fun _ h => h

theorem timer_start_calm {N : Fd → Prop} {t : Timer} {q : EventQueueImpl} (hq : N q.fd)
    (hfd : N t.fd) : (t.start ws q).Within (Calm N) fun t' => t'.fd = t.fd := by
  unfold Timer.start
  split
  · exact within_ret rfl
  · simp only [sys_eq, call_bind, ret_bind]
    refine within_call (calm_of_one (fun _ => rfl) (fun _ => rfl) rfl hfd) fun ret => ?_
    split
    · exact within_bind lastError_calm fun _ _ => within_fail _
    · split
      · exact within_bind (registerFd_calm hq hfd _ _) fun _ _ => within_ret rfl
      · exact within_bind (modifyFd_calm hq hfd _ _) fun _ _ => within_ret rfl

theorem timer_stop_calm {N : Fd → Prop} {t : Timer} {q : EventQueueImpl} (hq : N q.fd)
    (hfd : N t.fd) : (t.stop q).Within (Calm N) fun x => x.1.fd = t.fd := by
  unfold Timer.stop
  split
  · exact within_ret rfl
  · simp only [sys_eq, call_bind, ret_bind]
    refine within_call (calm_of_one (fun _ => rfl) (fun _ => rfl) rfl hfd) fun ret => ?_
    split
    · exact within_bind lastError_calm fun _ _ => within_fail _
    · exact within_bind (unregisterFd_calm hq hfd) fun _ _ => within_ret rfl

theorem timer_callback_calm {N : Fd → Prop} {t : Timer} (q : EventQueueImpl) (mask : UInt32)
    (hfd : N t.fd) : (t.processEpollEvents q mask).Within (Calm N) fun x => x.1.fd = t.fd := by
  unfold Timer.processEpollEvents
  split
  · simp only [retry_eq, call_bind, ret_bind]
    refine within_call (calm_of_one (fun _ => rfl) (fun _ => rfl) rfl hfd) fun answer => ?_
    obtain ⟨ret, expirations⟩ := answer
    simp only
    split
    · refine within_ret ?_
      rw [t.onExpiration_iterate q expirations]
    · exact within_ret rfl
  · exact within_ret rfl

theorem method_calm {N : Fd → Prop} {κ : Kind} {fd : Fd} {o : Object T} {q : EventQueueImpl}
    {m : Method T} {p : Io (Object T × EventQueueImpl)} (h : o.method ws q m = some p)
    (ho : (Owner.source o).Holds κ fd) (hfd : N fd) (hq : N q.fd) :
    p.Within (Calm N) fun x => (Owner.source x.1).Holds κ fd := by
  cases o with
  | timer t =>
    obtain ⟨rfl, rfl⟩ := ho
    cases m with
    | setInterval n =>
      cases h
      exact within_ret ⟨rfl, rfl⟩
    | setSingleshot b =>
      cases h
      exact within_ret ⟨rfl, rfl⟩
    | start =>
      cases h
      exact within_bind (timer_start_calm hq hfd) fun t' ht' => within_ret ⟨rfl, ht'⟩
    | stop =>
      cases h
      exact within_bind (timer_stop_calm hq hfd) fun x hx => within_ret ⟨rfl, hx⟩
    | _ => cases h
  | receiver r d =>
    obtain ⟨rfl, rfl⟩ := ho
    refine (receiverMethod_calls h).mono (channelCall_calm hfd) ?_
    rintro ⟨o', q'⟩ ⟨r', d', rfl, -, hd'⟩
    exact ⟨rfl, hd'⟩
  | _ => exact ho.elim

theorem callback_calm {N : Fd → Prop} {κ : Kind} {fd : Fd} {o : Object T} {q : EventQueueImpl}
    {mask : UInt32} {p : Io (Object T × EventQueueImpl)}
    (h : o.processEpollEvents ws q mask = some p) (ho : (Owner.source o).Holds κ fd)
    (hfd : N fd) : p.Within (Calm N) fun x => (Owner.source x.1).Holds κ fd := by
  cases o with
  | timer t =>
    obtain ⟨rfl, rfl⟩ := ho
    cases h
    exact within_bind (timer_callback_calm q mask hfd) fun x hx => within_ret ⟨rfl, hx⟩
  | receiver r d =>
    obtain ⟨rfl, rfl⟩ := ho
    cases h
    exact within_bind ((readEventfd_calls d mask).mono (channelCall_calm hfd) fun _ h => h)
      fun _ _ => within_ret ⟨rfl, rfl⟩
  | _ => exact ho.elim

/-- No operation makes or closes a descriptor, and the owner keeps its own.
The operations of a source are also about the descriptor of its queue. -/
theorem operate_calm {N : Fd → Prop} {κ : Kind} {fd : Fd} {o : Owner T} {q : EventQueueImpl}
    {op : Operation T} {p : Io (Owner T)} (h : o.operate ws q op = some p)
    (ho : o.Holds κ fd) (hfd : N fd) (hq : κ ≠ .eventQueue → N q.fd)
    (harg : ∀ fd', op.argument = some fd' → N fd') :
    p.Within (Calm N) fun o' => o'.Holds κ fd := by
  cases o with
  | eventQueue q' =>
    have hq' : N q'.fd := by
      rw [ho.2]
      exact hfd
    cases op with
    | registerFd fd' flags callback =>
      cases h
      exact within_bind (registerFd_calm hq' (harg fd' rfl) _ _) fun _ _ => within_ret ho
    | modifyFd fd' flags callback =>
      cases h
      exact within_bind (modifyFd_calm hq' (harg fd' rfl) _ _) fun _ _ => within_ret ho
    | unregisterFd fd' =>
      cases h
      exact within_bind (unregisterFd_calm hq' (harg fd' rfl)) fun _ _ => within_ret ho
    | method m => cases h
    | callback mask => cases h
  | source o =>
    have hκ : κ ≠ .eventQueue := by
      cases o <;> first | exact ho.elim | simp [ho.1]
    cases op with
    | method m =>
      obtain ⟨p', hp', rfl⟩ := Option.map_eq_some_iff.mp h
      exact within_bind (method_calm hp' ho hfd (hq hκ)) fun x hx => within_ret hx
    | callback mask =>
      obtain ⟨p', hp', rfl⟩ := Option.map_eq_some_iff.mp h
      exact within_bind (callback_calm hp' ho hfd) fun x hx => within_ret hx
    | registerFd fd' flags callback => cases h
    | modifyFd fd' flags callback => cases h
    | unregisterFd fd' => cases h

/-! ## The kernel -/

/-- The owner has `own` open, has closed `r` so many times, and all its
calls were about open descriptors. -/
structure Kernel.Is (k : Kernel) (r : Int) (own : Fd → Bool) (n : Nat) : Prop where
  mine : k.mine = own
  closed : closings r k.calls = n
  used : k.misused = false

/-- Nothing but `r`. -/
def only (r : Int) : Fd → Bool := fun fd => decide (fd = r)

def nothing : Fd → Bool := fun _ => false

theorem closings_after (k : Kernel) (r : Int) (c : Call) (a : c.Ret) :
    closings r (k.after c a).calls = closings r k.calls + if closes r c then 1 else 0 := by
  simp only [closings, Kernel.after, List.countP_append, List.countP_cons, List.countP_nil,
    Nat.zero_add]

theorem used_after {k : Kernel} {c : Call} {a : c.Ret} (h : k.misused = false)
    (hopen : ∀ fd ∈ descriptors c, k.isOpen fd = true) : (k.after c a).misused = false := by
  simp only [Kernel.after, h, Bool.false_or, Bool.not_eq_false', List.all_eq_true]
  exact hopen

/-- A calm call about open descriptors changes nothing of this. -/
theorem is_calm {k k' : Kernel} {r ρ : Int} {own others : Fd → Bool} {n : Nat} {c : Call}
    {a : c.Ret} (hc : Calm (fun fd => own fd = true ∨ others fd = true) c)
    (h : k.Is r own n ∧ k.others = others) (hk : k.allows ρ c a k') :
    k'.Is r own n ∧ k'.others = others := by
  obtain ⟨-, rfl⟩ := hk
  obtain ⟨h, rfl⟩ := h
  have hopen : ∀ fd ∈ descriptors c, k.isOpen fd = true := by
    intro fd hfd
    simp only [Kernel.isOpen, h.mine, Bool.or_eq_true]
    exact hc.about fd hfd
  constructor
  · constructor
    · simp [Kernel.after, hc.acquired, hc.closes, h.mine]
    · rw [closings_after, h.closed, hc.closes]
      rfl
    · exact used_after h.used hopen
  · simp [Kernel.after, hc.closes]

/-- A whole program of such calls. -/
theorem is_within {α : Type} {k k' : Kernel} {r ρ : Int} {own : Fd → Bool} {n : Nat}
    {p : Io α} {P : α → Prop} {x : Exit α}
    (hp : p.Within (Calm fun fd => own fd = true ∨ k.others fd = true) P)
    (h : k.Is r own n) (hx : p.Exec (Kernel.allows ρ) k x k') :
    (k'.Is r own n ∧ k'.others = k.others) ∧ ∀ a, x = .returned a → P a :=
  hp.exec (I := fun k₁ => k₁.Is r own n ∧ k₁.others = k.others)
    (fun _ _ _ _ hc h₁ hk => is_calm hc h₁ hk) hx ⟨h, rfl⟩

theorem is_close {k k' : Kernel} {r ρ : Int} {a : Int} (h : k.Is r (only r) 0)
    (hk : k.allows ρ (.once (.close r)) a k') : k'.Is r nothing 1 := by
  obtain ⟨-, rfl⟩ := hk
  constructor
  · funext fd
    simp only [Kernel.after, h.mine, only, nothing, acquired, closes]
    by_cases hfd : fd = r
    · simp [hfd]
    · simp [hfd]
  · rw [closings_after, h.closed]
    simp [closes]
  · refine used_after h.used ?_
    intro fd hfd
    obtain rfl : fd = r := by simpa [descriptors, issuedOn, Sockets.fdOf] using hfd
    simp [Kernel.isOpen, h.mine, only]

/-- A call that makes the descriptor `r`, or fails for `-1`. -/
theorem is_acquire {k k' : Kernel} {r : Int} {c : Call} {a : c.Ret}
    (hacq : acquired c a = if r = -1 then none else some r) (hcloses : ∀ fd, closes fd c = false)
    (habout : descriptors c = []) (h : k.Is r nothing 0) (hk : k.allows r c a k') :
    k'.Is r (if r = -1 then nothing else only r) 0 ∧ k'.others = k.others := by
  obtain ⟨-, rfl⟩ := hk
  constructor
  · constructor
    · funext fd
      simp only [Kernel.after, h.mine, hcloses, nothing, hacq]
      by_cases hr : r = -1
      · simp [hr, nothing]
      · simp [hr, only, eq_comm]
    · rw [closings_after, h.closed, hcloses]
      rfl
    · exact used_after h.used (by simp [habout])
  · simp [Kernel.after, hcloses]

/-! ## Drop -/

/-- The one owner that is dropped without a close. -/
def Leaks (r : Int) (κ : Kind) : Prop := κ = .timer ∧ r = 0

instance (r : Int) (κ : Kind) : Decidable (Leaks r κ) := inferInstanceAs (Decidable (_ ∧ _))

theorem blockingReceiver_drop_calm {N : Fd → Prop} (d : SharedChannelData T) :
    (BlockingReceiver.drop Destructor.inert d).Within (Calm N) fun _ => True := by
  rw [BlockingReceiver.drop_inert]
  exact within_call mutexLock_calm fun _ => within_call mutexUnlock_calm fun _ => within_ret trivial

theorem receiver_drop_eq (port : Receiver) (d : SharedChannelData T) (q : EventQueueImpl) :
    (Owner.source (.receiver port d)).drop q = (do
      let _ ← sys .mutexLock
      if d.epollFd ≠ -1 then
        let _ ← sys (.close d.epollFd)
        let _ ← sys .mutexUnlock
        let _ ← BlockingReceiver.drop Destructor.inert { d with epollFd := -1 }
        return ()
      else
        let _ ← sys .mutexUnlock
        let _ ← BlockingReceiver.drop Destructor.inert d
        return ()) := by
  unfold Owner.drop Object.drop Receiver.drop
  by_cases hfd : d.epollFd = -1
  · simp [hfd, bind_bind]
  · simp [hfd, bind_bind]

/-- The rest of the destructor, whether the eventfd was closed or not. -/
theorem receiver_drop_end {N : Fd → Prop} (d : SharedChannelData T) :
    (do
      let _ ← sys .mutexUnlock
      let _ ← BlockingReceiver.drop Destructor.inert d
      return () : Io Unit).Within (Calm N) fun _ => True := by
  simp only [sys_eq, call_bind, ret_bind]
  exact within_call mutexUnlock_calm fun _ =>
    within_bind (blockingReceiver_drop_calm d) fun _ _ => within_ret trivial

/-- A receiver without an eventfd closes nothing. -/
theorem receiver_drop_none {port : Receiver} {d : SharedChannelData T} {q : EventQueueImpl}
    {k k' : Kernel} {r ρ : Int} {x : Exit Unit} {own : Fd → Bool} {n : Nat}
    (hd : d.epollFd = -1) (h : k.Is r own n)
    (hx : ((Owner.source (.receiver port d)).drop q).Exec (Kernel.allows ρ) k x k') :
    k'.Is r own n := by
  rw [receiver_drop_eq] at hx
  obtain ⟨a₁, k₁, hlock, hx⟩ := hx
  obtain ⟨h₁, -⟩ := is_calm mutexLock_calm ⟨h, rfl⟩ hlock
  have hx' : Prog.Exec (Kernel.allows ρ) (if d.epollFd ≠ -1 then _ else _) k₁ x k' := hx
  rw [if_neg (not_not_intro hd)] at hx'
  exact (is_within (receiver_drop_end d) h₁ hx').1.1

theorem receiver_drop_some {port : Receiver} {d : SharedChannelData T} {q : EventQueueImpl}
    {k k' : Kernel} {ρ : Int} {x : Exit Unit} (hd : d.epollFd ≠ -1)
    (h : k.Is d.epollFd (only d.epollFd) 0)
    (hx : ((Owner.source (.receiver port d)).drop q).Exec (Kernel.allows ρ) k x k') :
    k'.Is d.epollFd nothing 1 := by
  rw [receiver_drop_eq] at hx
  obtain ⟨a₁, k₁, hlock, hx⟩ := hx
  obtain ⟨h₁, -⟩ := is_calm mutexLock_calm ⟨h, rfl⟩ hlock
  have hx' : Prog.Exec (Kernel.allows ρ) (if d.epollFd ≠ -1 then _ else _) k₁ x k' := hx
  rw [if_pos hd] at hx'
  obtain ⟨a₂, k₂, hclose, hx'⟩ := hx'
  exact (is_within (receiver_drop_end _) (is_close h₁ hclose) hx').1.1

/-- The drop of an owner that has `r`. -/
theorem drop_held {o : Owner T} {κ : Kind} {q : EventQueueImpl} {k k' : Kernel} {r ρ : Int}
    {x : Exit Unit} (ho : o.Holds κ r) (hr : r ≠ -1) (h : k.Is r (only r) 0)
    (hx : (o.drop q).Exec (Kernel.allows ρ) k x k') :
    if Leaks r κ then k'.Is r (only r) 0 else k'.Is r nothing 1 := by
  cases o with
  | eventQueue q' =>
    obtain ⟨rfl, rfl⟩ := ho
    obtain ⟨a, k₁, hclose, -, rfl⟩ := hx
    rw [if_neg (by simp [Leaks])]
    exact is_close h hclose
  | source o =>
    cases o with
    | timer t =>
      obtain ⟨rfl, rfl⟩ := ho
      by_cases hfd : t.fd = 0
      · rw [if_pos ⟨rfl, hfd⟩]
        have hx' : Prog.Exec (Kernel.allows ρ)
            ((if t.fd ≠ 0 then _ else Prog.ret _) >>= fun _ => Prog.ret ()) k x k' := hx
        rw [if_neg (not_not_intro hfd)] at hx'
        obtain ⟨-, rfl⟩ := hx'
        exact h
      · rw [if_neg (fun leaks => hfd leaks.2)]
        have hx' : Prog.Exec (Kernel.allows ρ)
            ((if t.fd ≠ 0 then _ else Prog.ret _) >>= fun _ => Prog.ret ()) k x k' := hx
        rw [if_pos hfd] at hx'
        obtain ⟨a, k₁, hclose, -, rfl⟩ := hx'
        exact is_close h hclose
    | receiver port d =>
      obtain ⟨rfl, rfl⟩ := ho
      rw [if_neg (by simp [Leaks])]
      exact receiver_drop_some hr h hx
    | _ => exact ho.elim

/-! ## Constructors -/

theorem spoiled_after {k k' : Kernel} {ρ : Int} {c : Call} {a : c.Ret}
    (hk : k.allows ρ c a k') : Spoiled k'.calls ↔ Spoiled k.calls ∨ refused c a = true := by
  obtain ⟨-, rfl⟩ := hk
  unfold Spoiled
  show (∃ e ∈ k.calls ++ [⟨c, a⟩], refused e.1 e.2 = true) ↔ _
  constructor
  · rintro ⟨e, he, href⟩
    rcases List.mem_append.mp he with he | he
    · exact .inl ⟨e, he, href⟩
    · obtain rfl := List.mem_singleton.mp he
      exact .inr href
  · rintro (⟨e, he, href⟩ | href)
    · exact ⟨e, List.mem_append_left _ he, href⟩
    · exact ⟨⟨c, a⟩, List.mem_append_right _ (List.mem_singleton_self _), href⟩

/-- A call that is about no descriptor and cannot be refused. -/
structure Quiet (c : Call) : Prop where
  calm : Calm (fun _ => False) c
  accepted : ∀ a, refused c a = false

theorem reports_quiet (c : Call) (h : Reports c) : Quiet c :=
  ⟨reports_calm c h, h.each (P := fun c => ∀ a, refused c a = false) (fun _ => rfl) (fun _ => rfl)
    (fun _ _ => rfl) fun _ _ => rfl⟩

theorem Calm.mono {N N' : Fd → Prop} {c : Call} (h : Calm N c) (hN : ∀ fd, N fd → N' fd) :
    Calm N' c :=
  ⟨h.acquired, h.closes, fun fd hfd => hN fd (h.about fd hfd)⟩

theorem quiet_within {α : Type} {k k' : Kernel} {r ρ : Int} {own : Fd → Bool} {n : Nat}
    {p : Io α} {P : α → Prop} {x : Exit α} (hp : p.Within Quiet P) (h : k.Is r own n)
    (hx : p.Exec (Kernel.allows ρ) k x k') :
    (k'.Is r own n ∧ k'.others = k.others ∧ (Spoiled k'.calls ↔ Spoiled k.calls)) ∧
      ∀ a, x = .returned a → P a := by
  refine hp.exec (I := fun k₁ => k₁.Is r own n ∧ k₁.others = k.others ∧
    (Spoiled k₁.calls ↔ Spoiled k.calls)) ?_ hx ⟨h, rfl, Iff.rfl⟩
  rintro k₁ c a k₂ hc ⟨h₁, ho, hs⟩ hk
  obtain ⟨h₂, ho₂⟩ := is_calm (hc.calm.mono fun _ h => h.elim) ⟨h₁, ho⟩ hk
  refine ⟨h₂, ho₂, ?_⟩
  rw [spoiled_after hk, hc.accepted, hs]
  simp

/-- `fail!` with the text of the last error. -/
theorem failWith_quiet {α : Type} {P : α → Prop} (msg : IoError → String) :
    (lastError >>= fun err => (.fail (msg err) : Io α)).Within Quiet P :=
  within_bind (lastError_reports.mono reports_quiet fun _ h => h) fun _ _ => within_fail _

/-- When a constructor of each kind produces an object. -/
def Outcome (r : Int) (made : Bool) (built : Trace) : Kind → Prop
  | .eventQueue => ¬ Spoiled built ∧ (made = true ↔ r ≠ 1)
  | .timer => ¬ Spoiled built ∧ (made = true ↔ r ≠ -1)
  | .receiver => (made = true ↔ r ≠ -1 ∧ ¬ Spoiled built) ∧ (Spoiled built → r ≠ -1)

/-- What is so in each stage after the constructor. -/
def StageOk (r : Int) (c : Constructor T) (made : Bool) (k : Kernel) : Stage T → Prop
  | .new => False
  | .alive o => o.Holds c.kind r ∧ made = true ∧
      (r ≠ -1 → c.QueueOpen k ∧ k.Is r (only r) 0)
  | .unwinding o => o.Holds c.kind r ∧ (made = true → r ≠ -1 → k.Is r (only r) 0) ∧
      (made = false → c.kind = .receiver ∧ (r = -1 → k.Is r nothing 0))
  | .gone => (made = true → r ≠ -1 →
        if Leaks r c.kind then k.Is r (only r) 0 else k.Is r nothing 1) ∧
      (made = false → r = -1 → k.Is r nothing 0)

/-- What is so after a constructor that has ended with `x`. -/
def Constructed (r : Int) (c : Constructor T) (this : Ptr) (info : SourceId)
    (x : Exit (Option (Owner T))) (k : Kernel) : Prop :=
  Outcome r (product x).isSome k.calls c.kind ∧
    StageOk r c (product x).isSome k (afterConstructor r c this info x)

theorem not_spoiled_nil : ¬ Spoiled [] := by
  simp [Spoiled]

theorem mutexUnlock_quiet : Quiet (.once .mutexUnlock) := ⟨mutexUnlock_calm, fun _ => rfl⟩

/-- The same after an unlock. -/
theorem unlockFailWith_quiet {α : Type} {P : α → Prop} (msg : IoError → String) :
    (.call (.once .mutexUnlock) fun _ =>
      lastError >>= fun err => .fail (msg err) : Io α).Within Quiet P :=
  within_call mutexUnlock_quiet fun _ => failWith_quiet msg

/-- What comes after a test of a constructor that does not go on. -/
theorem failing_exec {α : Type} {k k' : Kernel} {r ρ : Int} {own : Fd → Bool} {n : Nat}
    {p : Io α} {x : Exit α} (hp : p.Within Quiet fun _ => False) (h : k.Is r own n)
    (hx : p.Exec (Kernel.allows ρ) k x k') :
    (∃ m, x = .failed m) ∧ k'.Is r own n ∧ (Spoiled k'.calls ↔ Spoiled k.calls) := by
  obtain ⟨⟨h', -, hs⟩, hret⟩ := quiet_within hp h hx
  cases x with
  | returned a => exact (hret a rfl).elim
  | failed m => exact ⟨⟨m, rfl⟩, h', hs⟩

/-- Whoever makes the calls, the queue of a source stays open. -/
theorem Constructor.QueueOpen.of_others {c : Constructor T} {k k' : Kernel} (h : c.QueueOpen k)
    (hothers : k'.others = k.others) : c.QueueOpen k' := by
  intro fd hfd
  rw [hothers]
  exact h fd hfd

/-- A constructor that has no object and leaves nothing behind. -/
theorem constructed_nothing {c : Constructor T} {this : Ptr} {info : SourceId} {k : Kernel}
    {r : Int} {x : Exit (Option (Owner T))} (hleaves : c.leaves r this info = none)
    (hx : product x = none) (hout : Outcome r false k.calls c.kind)
    (h : r = -1 → k.Is r nothing 0) : Constructed r c this info x k := by
  have hgone : afterConstructor r c this info x = .gone := by
    cases x with
    | returned o =>
      obtain rfl : o = none := hx
      rfl
    | failed m => simp [afterConstructor, hleaves]
  unfold Constructed
  rw [hgone, hx]
  exact ⟨hout, by simp, fun _ => h⟩

theorem eventQueue_constructed {this : Ptr} {info : SourceId} {q : EventQueueImpl}
    {k k' : Kernel} {r : Int} {x : Exit (Option (Owner T))} (h : k.Is r nothing 0)
    (hs : ¬ Spoiled k.calls)
    (hx : ((Constructor.eventQueue : Constructor T).run this info q).Exec (Kernel.allows r)
      k x k') : Constructed r .eventQueue this info x k' := by
  obtain ⟨a, k₁, hk₁, hx⟩ := hx
  obtain rfl : a = r := hk₁.1.1
  obtain ⟨h₁, -⟩ := is_acquire rfl (fun _ => rfl) rfl h hk₁
  have hs₁ : ¬ Spoiled k₁.calls := by
    rw [spoiled_after hk₁]
    simp [hs, refused]
  have hx' : Prog.Exec (Kernel.allows a) ((if a = 1 then
      lastError >>= fun err => Prog.fail err.desc else Prog.ret ⟨a, []⟩) >>= fun q =>
        Prog.ret (some (Owner.eventQueue q))) k₁ x k' := hx
  by_cases ha : a = 1
  · rw [if_pos ha, bind_bind] at hx'
    obtain ⟨⟨m, rfl⟩, -, hs'⟩ := failing_exec (failWith_quiet _) h₁ hx'
    refine constructed_nothing rfl rfl ⟨by rwa [hs'], by simp [ha]⟩ ?_
    intro hr
    simp [ha] at hr
  · rw [if_neg ha] at hx'
    obtain ⟨rfl, rfl⟩ := hx'
    refine ⟨⟨hs₁, by simp [product, ha]⟩, ⟨rfl, rfl⟩, rfl, ?_⟩
    intro hr
    rw [if_neg hr] at h₁
    exact ⟨by simp [Constructor.QueueOpen, Constructor.queue], h₁⟩

theorem timer_constructed {this : Ptr} {info : SourceId} {q : EventQueueImpl} {epfd : Fd}
    {k k' : Kernel} {r : Int} {x : Exit (Option (Owner T))} (h : k.Is r nothing 0)
    (hq : (Constructor.timer epfd : Constructor T).QueueOpen k) (hs : ¬ Spoiled k.calls)
    (hx : ((Constructor.timer epfd : Constructor T).run this info q).Exec (Kernel.allows r)
      k x k') : Constructed r (.timer epfd) this info x k' := by
  obtain ⟨a, k₁, hk₁, hx⟩ := hx
  obtain rfl : a = r := hk₁.1.1
  obtain ⟨h₁, ho₁⟩ := is_acquire rfl (fun _ => rfl) rfl h hk₁
  have hs₁ : ¬ Spoiled k₁.calls := by
    rw [spoiled_after hk₁]
    simp [hs, refused]
  have hx' : Prog.Exec (Kernel.allows a) ((if a = -1 then
      lastError >>= fun err => Prog.ret (Except.error err) else Prog.ret (.ok _)) >>= fun res =>
        Prog.ret ((created Object.timer res).map Owner.source)) k₁ x k' := hx
  by_cases ha : a = -1
  · rw [if_pos ha, bind_bind] at hx'
    have quiet : (lastError >>= fun err => (Prog.ret (Except.error err) : Io (IoResult Timer)) >>=
        fun res => Prog.ret ((created Object.timer res).map (Owner.source (T := T)))).Within Quiet
          fun o => o = none :=
      within_bind (lastError_reports.mono reports_quiet fun _ h => h) fun _ _ => within_ret rfl
    obtain ⟨⟨h', -, hs'⟩, hnone⟩ := quiet_within quiet h₁ hx'
    rw [if_pos ha] at h'
    have hproduct : product x = none := by
      cases x with
      | returned o => exact hnone o rfl
      | failed m => rfl
    exact constructed_nothing rfl hproduct ⟨by rwa [hs'], by simp [ha]⟩ fun _ => h'
  · rw [if_neg ha] at hx'
    obtain ⟨rfl, rfl⟩ := hx'
    rw [if_neg ha] at h₁
    refine ⟨⟨hs₁, by simp [product, created, ha]⟩, ⟨rfl, rfl⟩, rfl, ?_⟩
    intro _
    exact ⟨hq.of_others ho₁, h₁⟩

/-! ### The receiver -/

/-- The end of `from_blocking_receiver`, once the eventfd is registered. -/
def signal (port : Receiver) (d : SharedChannelData T) (q : EventQueueImpl) :
    Io (Receiver × SharedChannelData T × EventQueueImpl) :=
  if d.queue.length > 0 then
    .call (.retry (.writeOne d.epollFd)) fun ret =>
      if ret = -1 then
        .call (.once .mutexUnlock) fun _ => lastError >>= fun err =>
          .fail ("Error on writing to eventfd: " ++ err.desc)
      else
        .call (.once .mutexUnlock) fun _ => .ret (port, { d with receiverNotified := true }, q)
  else .call (.once .mutexUnlock) fun _ => .ret (port, d, q)

def boxed (res : Receiver × SharedChannelData T × EventQueueImpl) : Io (Option (Owner T)) :=
  .ret (some (.source (.receiver res.1 res.2.1)))

/-- With live senders. -/
theorem fromBlockingReceiver_eq (this : Ptr) (info : SourceId) {d : SharedChannelData T}
    (q : EventQueueImpl) (hlive : d.nrSenders ≠ 0) :
    Receiver.fromBlockingReceiver this info d q =
      .call (.once .mutexLock) fun _ => .call (.once .eventfd) fun fd =>
        if fd = -1 then
          .call (.once .mutexUnlock) fun _ => lastError >>= fun err =>
            .fail ("Creating eventfd for port failed: " ++ err.desc)
        else q.registerFd fd EPOLLIN this >>= fun _ =>
          signal { processFunc := this, eventSourceInfo := info, availableMessages := 0 }
            { d with epollFd := fd } q := by
  unfold Receiver.fromBlockingReceiver
  simp only [sys_eq, retry_eq, call_bind, ret_bind, if_pos hlive]
  rfl

section Receiver

variable {this : Ptr} {info : SourceId} {q : EventQueueImpl} {epfd : Fd}
  {d d' : SharedChannelData T} {hd : d.epollFd = -1} {hlive : d.nrSenders ≠ 0}
  {port : Receiver} {k k' : Kernel} {r : Int} {x : Exit (Option (Owner T))}

/-- The box that a failed `from_blocking_receiver` leaves. -/
theorem receiver_failed {m : String} (h : r = -1 → k.Is r nothing 0)
    (hs : Spoiled k.calls ↔ r ≠ -1) :
    Constructed r (.receiver epfd d hd hlive) this info (.failed m) k := by
  refine ⟨⟨?_, hs.mp⟩, ⟨rfl, rfl⟩, ?_, fun _ => ⟨rfl, h⟩⟩
  · simp [product, hs]
  · intro hmade
    cases hmade

/-- A test after which `from_blocking_receiver` fails. -/
theorem receiver_failing {own : Fd → Bool} {msg : IoError → String} (h : k.Is r own 0)
    (hnone : r = -1 → own = nothing) (hs : Spoiled k.calls ↔ r ≠ -1)
    (hx : ((.call (.once .mutexUnlock) fun _ => lastError >>= fun err => .fail (msg err) :
        Io (Receiver × SharedChannelData T × EventQueueImpl)) >>= boxed).Exec
      (Kernel.allows r) k x k') :
    Constructed r (.receiver epfd d hd hlive) this info x k' := by
  obtain ⟨⟨m, rfl⟩, h', hs'⟩ := failing_exec (within_bind (P := fun _ => False)
    (unlockFailWith_quiet msg) fun _ no => no.elim) h hx
  refine receiver_failed ?_ (hs'.trans hs)
  intro hr
  rwa [← hnone hr]

/-- The end of a `from_blocking_receiver` that goes through. -/
theorem receiver_made (hr : r ≠ -1) (hd' : d'.epollFd = r) (h : k.Is r (only r) 0)
    (hq : (Constructor.receiver epfd d hd hlive).QueueOpen k) (hs : ¬ Spoiled k.calls)
    (hx : ((.call (.once .mutexUnlock) fun _ => .ret (port, d', q) :
        Io (Receiver × SharedChannelData T × EventQueueImpl)) >>= boxed).Exec
      (Kernel.allows r) k x k') :
    Constructed r (.receiver epfd d hd hlive) this info x k' := by
  obtain ⟨a, k₁, hk, rfl, rfl⟩ := hx
  obtain ⟨h₁, ho₁⟩ := is_calm mutexUnlock_calm ⟨h, rfl⟩ hk
  have hs₁ : ¬ Spoiled k'.calls := by
    rw [spoiled_after hk]
    simp [hs, refused]
  refine ⟨⟨by simp [product, hr, hs₁], fun spoiled => absurd spoiled hs₁⟩, ⟨rfl, hd'⟩, rfl, ?_⟩
  intro _
  exact ⟨hq.of_others ho₁, h₁⟩

theorem receiver_signal (hr : r ≠ -1) (hd' : d'.epollFd = r) (h : k.Is r (only r) 0)
    (hq : (Constructor.receiver epfd d hd hlive).QueueOpen k) (hs : ¬ Spoiled k.calls)
    (hx : (signal port d' q >>= boxed).Exec (Kernel.allows r) k x k') :
    Constructed r (.receiver epfd d hd hlive) this info x k' := by
  unfold signal at hx
  by_cases hqueue : d'.queue.length > 0
  · rw [if_pos hqueue] at hx
    obtain ⟨w, k₁, hk, hx⟩ := hx
    obtain ⟨h₁, ho⟩ := is_calm (calm_of_one (fun _ => rfl) (fun _ => rfl) rfl
      (.inl (by simp [only, hd']))) ⟨h, rfl⟩ hk
    have hx : Prog.Exec (Kernel.allows r) ((if w = -1 then _ else _) >>= boxed) k₁ x k' := hx
    have hs₁ : Spoiled k₁.calls ↔ w = -1 := by
      rw [spoiled_after hk]
      simp [hs, refused]
    by_cases hw : w = -1
    · rw [if_pos hw] at hx
      refine receiver_failing h₁ (fun hr' => absurd hr' hr) ?_ hx
      simp [hs₁, hw, hr]
    · rw [if_neg hw] at hx
      refine receiver_made hr ?_ h₁ (hq.of_others ho) (by simp [hs₁, hw]) hx
      exact hd'
  · rw [if_neg hqueue] at hx
    exact receiver_made hr hd' h hq hs hx

theorem receiver_register (hr : r ≠ -1) (hd' : d'.epollFd = r) (h : k.Is r (only r) 0)
    (huses : (Constructor.receiver epfd d hd hlive).Uses q)
    (hq : (Constructor.receiver epfd d hd hlive).QueueOpen k) (hs : ¬ Spoiled k.calls)
    (hx : ((q.registerFd r EPOLLIN this >>= fun _ => signal port d' q) >>= boxed).Exec
      (Kernel.allows r) k x k') :
    Constructed r (.receiver epfd d hd hlive) this info x k' := by
  obtain ⟨s, k₁, hk, hx⟩ := hx
  have hepfd : k.others q.fd = true := by
    rw [huses epfd rfl]
    exact hq epfd rfl
  obtain ⟨h₁, ho⟩ := is_calm (epollCtl_calm .add EPOLLIN (some this) (.inr hepfd)
    (.inl (by simp [only]))) ⟨h, rfl⟩ hk
  have hx : Prog.Exec (Kernel.allows r) (((if s ≠ 0 then Prog.fail _ else Prog.ret ()) >>=
    fun _ => signal port d' q) >>= boxed) k₁ x k' := hx
  have hs₁ : Spoiled k₁.calls ↔ s ≠ 0 := by
    rw [spoiled_after hk]
    simp [hs, refused]
  by_cases hs₀ : s ≠ 0
  · rw [if_pos hs₀] at hx
    obtain ⟨rfl, rfl⟩ := hx
    exact receiver_failed (fun hr' => absurd hr' hr) (by simp [hs₁, hs₀, hr])
  · rw [if_neg hs₀] at hx
    exact receiver_signal hr hd' h₁ (hq.of_others ho) (by rwa [hs₁]) hx

theorem receiver_constructed (h : k.Is r nothing 0)
    (huses : (Constructor.receiver epfd d hd hlive).Uses q)
    (hq : (Constructor.receiver epfd d hd hlive).QueueOpen k) (hs : ¬ Spoiled k.calls)
    (hx : ((Constructor.receiver epfd d hd hlive).run this info q).Exec (Kernel.allows r)
      k x k') : Constructed r (.receiver epfd d hd hlive) this info x k' := by
  have hx : (Receiver.fromBlockingReceiver this info d q >>= boxed).Exec (Kernel.allows r)
    k x k' := hx
  rw [fromBlockingReceiver_eq this info q hlive] at hx
  obtain ⟨a₁, k₁, hk₁, a, k₂, hk₂, hx⟩ := hx
  obtain rfl : a = r := hk₂.1.1
  obtain ⟨h₁, ho₁⟩ := is_calm mutexLock_calm ⟨h, rfl⟩ hk₁
  obtain ⟨h₂, ho₂⟩ := is_acquire rfl (fun _ => rfl) rfl h₁ hk₂
  have hs₂ : ¬ Spoiled k₂.calls := by
    rw [spoiled_after hk₂, spoiled_after hk₁]
    simp [hs, refused]
  have hx : Prog.Exec (Kernel.allows a) ((if a = -1 then _ else _) >>= boxed) k₂ x k' := hx
  by_cases ha : a = -1
  · rw [if_pos ha] at hx h₂
    exact receiver_failing h₂ (fun _ => rfl) (by simp [hs₂, ha]) hx
  · rw [if_neg ha] at hx h₂
    refine receiver_register ha ?_ h₂ huses (hq.of_others (ho₂.trans ho₁)) hs₂ hx
    rfl

end Receiver

/-! ## Lives -/

/-- What is so all through a life. -/
def Inv (r : Int) (c : Constructor T) (s : Life T) : Prop :=
  (s.stage = .new ∧ s.kernel.Is r nothing 0 ∧ c.QueueOpen s.kernel ∧ ¬ Spoiled s.kernel.calls) ∨
  (Outcome r s.made s.built c.kind ∧ StageOk r c s.made s.kernel s.stage)

theorem constructed {r : Int} {c : Constructor T} {this : Ptr} {info : SourceId}
    {q : EventQueueImpl} {k k' : Kernel} {x : Exit (Option (Owner T))} (h : k.Is r nothing 0)
    (huses : c.Uses q) (hq : c.QueueOpen k) (hs : ¬ Spoiled k.calls)
    (hx : (c.run this info q).Exec (Kernel.allows r) k x k') :
    Constructed r c this info x k' := by
  cases c with
  | eventQueue => exact eventQueue_constructed h hs hx
  | timer epfd => exact timer_constructed h hq hs hx
  | receiver epfd d hd hlive => exact receiver_constructed h huses hq hs hx

theorem inv_start {r : Int} {c : Constructor T} {others : Fd → Bool}
    (hq : c.QueueOpen (start (T := T) others).kernel) : Inv r c (start others) :=
  .inl ⟨rfl, ⟨rfl, rfl, rfl⟩, hq, not_spoiled_nil⟩

theorem Kernel.Is.environment {k : Kernel} {r : Int} {own : Fd → Bool} {n : Nat}
    (h : k.Is r own n) (others : Fd → Bool) : Kernel.Is { k with others } r own n :=
  ⟨h.mine, h.closed, h.used⟩

theorem stageOk_environment {r : Int} {c : Constructor T} {made : Bool} {k : Kernel}
    {stage : Stage T} {others : Fd → Bool} (h : StageOk r c made k stage)
    (hq : ∀ epfd, c.queue = some epfd → others epfd = true) :
    StageOk r c made { k with others } stage := by
  cases stage with
  | new => exact h
  | alive o =>
    obtain ⟨ho, hmade, hk⟩ := h
    exact ⟨ho, hmade, fun hr => ⟨hq, (hk hr).2.environment others⟩⟩
  | unwinding o =>
    obtain ⟨ho, hk, hfailed⟩ := h
    refine ⟨ho, fun hmade hr => (hk hmade hr).environment others, ?_⟩
    intro hmade
    obtain ⟨hκ, hnone⟩ := hfailed hmade
    exact ⟨hκ, fun hr => (hnone hr).environment others⟩
  | gone =>
    obtain ⟨hk, hfailed⟩ := h
    refine ⟨?_, fun hmade hr => (hfailed hmade hr).environment others⟩
    intro hmade hr
    have hk := hk hmade hr
    by_cases hleak : Leaks r c.kind
    · rw [if_pos hleak] at hk ⊢
      exact hk.environment others
    · rw [if_neg hleak] at hk ⊢
      exact hk.environment others

theorem stageOk_drop {r : Int} {c : Constructor T} {made : Bool} {k k' : Kernel}
    {stage : Stage T} {o : Owner T} {q : EventQueueImpl} {x : Exit Unit}
    (hstage : stage = .alive o ∨ stage = .unwinding o) (h : StageOk r c made k stage)
    (hx : (o.drop q).Exec (Kernel.allows r) k x k') : StageOk r c made k' .gone := by
  have facts : o.Holds c.kind r ∧ (made = true → r ≠ -1 → k.Is r (only r) 0) ∧
      (made = false → c.kind = .receiver ∧ (r = -1 → k.Is r nothing 0)) := by
    rcases hstage with rfl | rfl
    · obtain ⟨ho, hmade, hk⟩ := h
      exact ⟨ho, fun _ hr => (hk hr).2, fun hfailed => by simp [hmade] at hfailed⟩
    · exact h
  obtain ⟨ho, hheld, hfailed⟩ := facts
  constructor
  · intro hmade hr
    exact drop_held ho hr (hheld hmade hr) hx
  · intro hmade hr
    obtain ⟨hκ, hnone⟩ := hfailed hmade
    rw [hκ] at ho
    cases o with
    | eventQueue q' => cases ho.1
    | source o =>
      cases o with
      | receiver port d => exact receiver_drop_none (ho.2.trans hr) (hnone hr) hx
      | timer t => cases ho.1
      | _ => exact ho.elim

theorem Constructor.exists_queue {c : Constructor T} (h : c.kind ≠ .eventQueue) :
    ∃ epfd, c.queue = some epfd := by
  cases c with
  | eventQueue => exact absurd rfl h
  | timer epfd => exact ⟨epfd, rfl⟩
  | receiver epfd d hd hlive => exact ⟨epfd, rfl⟩

theorem stageOk_operate {r : Int} {c : Constructor T} {made : Bool} {k k' : Kernel}
    {o left : Owner T} {q : EventQueueImpl} {op : Operation T} {p : Io (Owner T)}
    {x : Exit (Owner T)} (h : StageOk r c made k (.alive o)) (huses : c.Uses q)
    (hop : o.operate ws q op = some p)
    (harg : ∀ fd, op.argument = some fd → k.others fd = true)
    (hleft : ∀ κ fd, o.Holds κ fd → left.Holds κ fd)
    (hx : p.Exec (Kernel.allows r) k x k') :
    StageOk r c made k' (afterOperation left x) := by
  obtain ⟨ho, hmade, hk⟩ := h
  have held : r ≠ -1 → c.QueueOpen k' ∧ k'.Is r (only r) 0 := by
    intro hr
    obtain ⟨hq, hk⟩ := hk hr
    have hepfd : c.kind ≠ .eventQueue → only r q.fd = true ∨ k.others q.fd = true := by
      intro hκ
      obtain ⟨epfd, hepfd⟩ := Constructor.exists_queue hκ
      right
      rw [huses epfd hepfd]
      exact hq epfd hepfd
    obtain ⟨⟨hk', hothers⟩, -⟩ := is_within (operate_calm hop ho (.inl (by simp [only])) hepfd
      fun fd hfd => .inr (harg fd hfd)) hk hx
    exact ⟨hq.of_others hothers, hk'⟩
  cases x with
  | returned o' =>
    have calm := operate_calm (N := fun _ => True) hop ho trivial (fun _ => trivial)
      fun _ _ => trivial
    exact ⟨calm.returns.exec hx, hmade, held⟩
  | failed msg =>
    refine ⟨hleft _ _ ho, fun _ hr => (held hr).2, ?_⟩
    intro hfailed
    simp [hmade] at hfailed

theorem pollEvents_fd (q : EventQueueImpl) (answer : EventQueueImpl.Poll) :
    (q.pollEvents answer).2.fd = q.fd := by
  cases answer with
  | failed err => rfl
  | ready pushed => rw [EventQueueImpl.pollEvents_ready]
  | idle => rfl

theorem stageOk_poll {r : Int} {c : Constructor T} {made : Bool} {k : Kernel}
    {q : EventQueueImpl} (h : StageOk r c made k (.alive (.eventQueue q)))
    (answer : EventQueueImpl.Poll) :
    StageOk r c made { k with misused := k.misused || !k.isOpen q.fd }
      (.alive (.eventQueue (q.pollEvents answer).2)) := by
  obtain ⟨⟨hκ, hfd⟩, hmade, hk⟩ := h
  refine ⟨⟨hκ, (pollEvents_fd q answer).trans hfd⟩, hmade, ?_⟩
  intro hr
  obtain ⟨hq, hk⟩ := hk hr
  refine ⟨hq, hk.mine, hk.closed, ?_⟩
  simp [hk.used, Kernel.isOpen, hk.mine, hfd, only]

/-- **Step lemma.** -/
theorem inv_step {r : Int} {c : Constructor T} {s t : Life T} (h : Inv r c s)
    (hst : Step ws r c s t) : Inv r c t := by
  cases hst with
  | construct hnew huses hx =>
    obtain ⟨-, h, hq, hs⟩ | ⟨-, h⟩ := h
    · exact .inr (constructed h huses hq hs hx)
    · rw [hnew] at h
      exact h.elim
  | operate halive huses hop harg hleft hx =>
    obtain ⟨hnew, -⟩ | ⟨hout, h⟩ := h
    · rw [hnew] at halive
      cases halive
    · rw [halive] at h
      exact .inr ⟨hout, stageOk_operate h huses hop harg hleft hx⟩
  | poll halive =>
    obtain ⟨hnew, -⟩ | ⟨hout, h⟩ := h
    · rw [hnew] at halive
      cases halive
    · rw [halive] at h
      exact .inr ⟨hout, stageOk_poll h _⟩
  | change halive hsame =>
    obtain ⟨hnew, -⟩ | ⟨hout, h⟩ := h
    · rw [hnew] at halive
      cases halive
    · rw [halive] at h
      obtain ⟨ho, hmade, hk⟩ := h
      exact .inr ⟨hout, hsame _ _ ho, hmade, hk⟩
  | environment hfree hq =>
    obtain ⟨hnew, h, -, hs⟩ | ⟨hout, h⟩ := h
    · exact .inl ⟨hnew, h.environment _, hq, hs⟩
    · exact .inr ⟨hout, stageOk_environment h hq⟩
  | drop hstage hx =>
    obtain ⟨hnew, -⟩ | ⟨hout, h⟩ := h
    · rw [hnew] at hstage
      rcases hstage with hstage | hstage <;> cases hstage
    · exact .inr ⟨hout, stageOk_drop hstage h hx⟩

/-- **Run lemma.** -/
theorem inv_lives {r : Int} {c : Constructor T} {s : Life T} (h : Lives ws r c s) :
    Inv r c s := by
  obtain ⟨others, hq, hrun⟩ := h
  induction hrun with
  | refl => exact inv_start hq
  | tail _ hst ih => exact inv_step ih hst

/-! ## The exact condition -/

/-- There is an object as there should be. -/
theorem made_iff {r : Int} {κ : Kind} {made : Bool} {built : Trace}
    (h : Outcome r made built κ) :
    (made = true ↔ r ≠ -1) ↔ ¬ Spoiled built ∧ (κ = .eventQueue → r ≠ -1 ∧ r ≠ 1) := by
  cases κ with
  | eventQueue =>
    obtain ⟨hs, hmade⟩ := h
    rw [hmade]
    simp only [hs, not_false_eq_true, true_and, forall_const]
    constructor
    · intro same
      by_cases hr : r = 1
      · exact absurd hr (same.mpr (by omega))
      · exact ⟨same.mp hr, hr⟩
    · intro fit
      simp [fit.1, fit.2]
  | timer =>
    obtain ⟨hs, hmade⟩ := h
    simp [hs, hmade]
  | receiver =>
    obtain ⟨hmade, hspoiled⟩ := h
    rw [hmade]
    constructor
    · intro same
      refine ⟨?_, by simp⟩
      intro spoiled
      exact (same.mpr (hspoiled spoiled)).2 spoiled
    · intro fit
      simp [fit.1]

/-- Where every call but the first is granted and the number fits, a life is
as it should be from the constructor on. -/
theorem correct_of_fit {r : Int} {c : Constructor T} {s : Life T} (h : Lives ws r c s)
    (hs : s.stage ≠ .new) (hfit : FitFor r c.kind) (hgranted : ¬ Spoiled s.built) :
    Correct r c.kind s := by
  obtain ⟨hnew, -⟩ | ⟨hout, hstage⟩ := inv_lives h
  · exact absurd hnew hs
  have made : s.made = true ↔ r ≠ -1 := by
    rw [made_iff hout]
    refine ⟨hgranted, ?_⟩
    intro hκ
    rw [hκ] at hfit
    exact hfit
  have sealed : ¬ Leaks r c.kind := by
    rintro ⟨hκ, hr⟩
    rw [hκ] at hfit
    exact hfit hr
  have unmade : s.made = false → r = -1 := by
    intro hmade
    simpa [hmade] using made
  cases hst : s.stage with
  | new => exact absurd hst hs
  | alive o =>
    rw [hst] at hstage
    obtain ⟨ho, hmade, hk⟩ := hstage
    refine ⟨made, ?_, (hk (made.mp hmade)).2.used, by simp [hst], by simp [hst]⟩
    intro o' ho'
    obtain rfl : o = o' := by simpa [hst] using ho'
    exact ho
  | unwinding o =>
    rw [hst] at hstage
    obtain ⟨-, hk, hfailed⟩ := hstage
    refine ⟨made, by simp [hst], ?_, by simp [hst], by simp [hst]⟩
    cases hmade : s.made with
    | true => exact (hk hmade (made.mp hmade)).used
    | false => exact ((hfailed hmade).2 (unmade hmade)).used
  | gone =>
    rw [hst] at hstage
    obtain ⟨hk, hfailed⟩ := hstage
    cases hmade : s.made with
    | true =>
      have hk := hk hmade (made.mp hmade)
      rw [if_neg sealed] at hk
      exact ⟨made, by simp [hst], hk.used, fun _ _ => hk.closed,
        fun _ fd => congrFun hk.mine fd⟩
    | false =>
      have hk := hfailed hmade (unmade hmade)
      exact ⟨made, by simp [hst], hk.used, fun _ h => by simp [hmade] at h,
        fun _ fd => congrFun hk.mine fd⟩

/-- And only there. Of a timer it shows at the end. -/
theorem fit_of_correct {r : Int} {c : Constructor T} {s : Life T} (h : Lives ws r c s)
    (hs : s.stage ≠ .new) (hover : c.kind = .timer → Over s) (hcorrect : Correct r c.kind s) :
    FitFor r c.kind ∧ ¬ Spoiled s.built := by
  obtain ⟨hnew, -⟩ | ⟨hout, hstage⟩ := inv_lives h
  · exact absurd hnew hs
  obtain ⟨hgranted, hqueue⟩ := (made_iff hout).mp hcorrect.made
  refine ⟨?_, hgranted⟩
  cases hκ : c.kind with
  | eventQueue => exact hqueue hκ
  | receiver => trivial
  | timer =>
    intro hr
    have hr' : r ≠ -1 := by omega
    have hmade : s.made = true := hcorrect.made.mpr hr'
    have hgone : s.stage = .gone := by
      obtain hgone | ⟨hmade', -⟩ := hover hκ
      · exact hgone
      · simp [hmade] at hmade'
    rw [hgone] at hstage
    have hk := hstage.1 hmade hr'
    rw [if_pos ⟨hκ, hr⟩] at hk
    have once := hcorrect.closed hgone hmade
    rw [hk.closed] at once
    cases once

/-! ## Lives there are -/

/-- The last error can always be had. -/
theorem reports_exec {α : Type} {P : α → Prop} {p : Io α} (h : p.Within Reports P) (r : Int)
    (k : Kernel) : ∃ x k', p.Exec (Kernel.allows r) k x k' := by
  refine h.exists_exec ?_ k
  intro k c hc
  exact hc.each (P := fun c => ∃ a k', k.allows r c a k') ⟨0, _, trivial, rfl⟩
    ⟨"", _, trivial, rfl⟩ (fun _ => ⟨(), _, trivial, rfl⟩) fun _ => ⟨(), _, trivial, rfl⟩

theorem afterConstructor_ne_new (r : Int) (c : Constructor T) (this : Ptr) (info : SourceId)
    (x : Exit (Option (Owner T))) : afterConstructor r c this info x ≠ .new := by
  cases x with
  | returned o => cases o <;> simp [afterConstructor]
  | failed m =>
    cases hleft : c.leaves r this info <;> simp [afterConstructor, hleft]

/-- The constructor of a queue comes to an end for every number. -/
theorem exists_eventQueue (ws : WordSize) {r : Int} (hr : r = -1 ∨ 0 ≤ r) :
    ∃ s : Life T, Lives ws r .eventQueue s ∧ s.stage ≠ .new := by
  let k₀ := (start (T := T) fun _ => false).kernel
  have hgives : k₀.gives r r := ⟨rfl, hr.imp id fun hr => ⟨hr, rfl⟩⟩
  have htest : ((if r = 1 then lastError >>= fun err => Prog.fail err.desc
      else Prog.ret ⟨r, []⟩ : Io EventQueueImpl) >>= fun q =>
        (Prog.ret (some (Owner.eventQueue (T := T) q)) : Io (Option (Owner T)))).Within Reports
          fun _ => True :=
    within_bind (P := fun _ => True) (within_ite (within_bind lastError_reports fun _ _ =>
      within_fail _) (within_ret trivial)) fun _ _ => within_ret trivial
  obtain ⟨x, k, hx⟩ := reports_exec htest r (k₀.after (.once (.epollCreate 64)) r)
  have hnew : ((Constructor.eventQueue : Constructor T).run 0 0 ⟨0, []⟩).Exec
      (Kernel.allows r) k₀ x k := ⟨r, _, ⟨hgives, rfl⟩, hx⟩
  refine ⟨_, ⟨fun _ => false, ?_, .single (.construct rfl ?_ hnew)⟩,
    afterConstructor_ne_new r .eventQueue 0 0 x⟩
  · simp [Constructor.QueueOpen, Constructor.queue]
  · simp [Constructor.Uses, Constructor.queue]

/-- A timer can be dropped as soon as it is made. -/
theorem exists_dropped_timer (ws : WordSize) {r : Int} {epfd : Fd} (hr : 0 ≤ r) (hne : r ≠ epfd) :
    ∃ s : Life T, Lives ws r (.timer epfd) s ∧ s.stage = .gone ∧ ¬ Spoiled s.built := by
  let k₀ := (start (T := T) fun fd => decide (fd = epfd)).kernel
  let k₁ := k₀.after (.once .timerfdCreate) r
  let t : Timer :=
    { fd := r, interval := 0, isActive := false, singleshot := false, epollRegistered := false,
      processFunc := 0, eventSourceInfo := 0 }
  have hgives : k₀.gives r r := ⟨rfl, .inr ⟨hr, by simp [k₀, start, Kernel.isOpen, hne]⟩⟩
  have hcreate : ((Constructor.timer epfd : Constructor T).run 0 0 ⟨epfd, []⟩).Exec
      (Kernel.allows r) k₀ (.returned (some (.source (.timer t)))) k₁ := by
    have hmade : ¬ r = -1 := by omega
    simp only [Constructor.run, Timer.create, sys_eq, call_bind, ret_bind]
    refine ⟨r, k₁, ⟨hgives, rfl⟩, ?_⟩
    simp only [hmade, if_false]
    exact ⟨rfl, rfl⟩
  have hdrop : ((Owner.source (.timer t) : Owner T).drop ⟨epfd, []⟩).Within
      (fun c => c = .once (.close r)) fun _ => True := by
    have hclose : (t.drop ⟨epfd, []⟩).Within (fun c => c = .once (.close r)) fun _ => True :=
      within_ite (within_call rfl fun _ => within_ret trivial) (within_ret trivial)
    exact within_bind hclose fun _ _ => within_ret trivial
  have hclosed : ∀ (k : Kernel) (c : Call), c = .once (.close r) →
      ∃ a k', Kernel.allows r k c a k' := by
    rintro k c rfl
    exact ⟨0, _, trivial, rfl⟩
  obtain ⟨x, k, hx⟩ := hdrop.exists_exec hclosed k₁
  refine ⟨_, ⟨_, ?_, .tail (.single (.construct rfl ?_ hcreate)) (.drop (.inl rfl) hx)⟩, rfl, ?_⟩
  · simp [Constructor.QueueOpen, Constructor.queue, start]
  · simp [Constructor.Uses, Constructor.queue]
  · simp [k₁, k₀, start, Kernel.after, Spoiled, refused]

/-! ## The main result -/

/-- **Acquired and released.** A life is as it should be, all the way, when
its number fits its owner and the other calls of its constructor are
granted; and only then, though a timer does not show it before it is
dropped. -/
theorem correct_iff_fit {r : Int} {c : Constructor T} {s : Life T} (h : Lives ws r c s)
    (hs : s.stage ≠ .new) :
    (FitFor r c.kind ∧ ¬ Spoiled s.built → Correct r c.kind s) ∧
      ((c.kind = .timer → Over s) →
        (Correct r c.kind s ↔ FitFor r c.kind ∧ ¬ Spoiled s.built)) := by
  have enough : FitFor r c.kind ∧ ¬ Spoiled s.built → Correct r c.kind s := fun hfit =>
    correct_of_fit h hs hfit.1 hfit.2
  exact ⟨enough, fun hover => ⟨fit_of_correct h hs hover, enough⟩⟩

theorem correct_iff_fit_timer :
    ∃ s : Life Unit, Lives .w64 5 (.timer 3) s ∧ s.stage = .gone ∧ Correct 5 .timer s := by
  obtain ⟨s, h, hgone, hgranted⟩ : ∃ s : Life Unit, Lives .w64 5 (.timer 3) s ∧
      s.stage = .gone ∧ ¬ Spoiled s.built := exists_dropped_timer .w64 (by decide) (by decide)
  have exact_condition := (correct_iff_fit h (by simp [hgone])).2 fun _ => .inl hgone
  exact ⟨s, h, hgone, exact_condition.mpr ⟨by decide, hgranted⟩⟩

/-- The numbers that two of the owners cannot deal with. -/
theorem not_always_correct :
    (∃ s : Life Unit, Lives .w64 (-1) .eventQueue s ∧ s.stage ≠ .new ∧
      ¬ Correct (-1) .eventQueue s) ∧
    (∃ s : Life Unit, Lives .w64 1 .eventQueue s ∧ s.stage ≠ .new ∧
      ¬ Correct 1 .eventQueue s) ∧
    ∃ s : Life Unit, Lives .w64 0 (.timer 3) s ∧ s.stage = .gone ∧ ¬ Correct 0 .timer s := by
  refine ⟨?_, ?_, ?_⟩
  · obtain ⟨s, h, hs⟩ := exists_eventQueue (T := Unit) .w64 (r := -1) (by decide)
    refine ⟨s, h, hs, ?_⟩
    intro hcorrect
    exact absurd (fit_of_correct h hs (by simp [Constructor.kind]) hcorrect).1 (by decide)
  · obtain ⟨s, h, hs⟩ := exists_eventQueue (T := Unit) .w64 (r := 1) (by decide)
    refine ⟨s, h, hs, ?_⟩
    intro hcorrect
    exact absurd (fit_of_correct h hs (by simp [Constructor.kind]) hcorrect).1 (by decide)
  · obtain ⟨s, h, hgone, -⟩ : ∃ s : Life Unit, Lives .w64 0 (.timer 3) s ∧
        s.stage = .gone ∧ ¬ Spoiled s.built := exists_dropped_timer .w64 (by decide) (by decide)
    refine ⟨s, h, hgone, ?_⟩
    intro hcorrect
    exact absurd (fit_of_correct h (by simp [hgone]) (fun _ => .inl hgone) hcorrect).1
      (by decide)

end Revbio.Descriptors
