/-
Revbio.Epoll.DanglingTheorems — the pointers in the epoll set.

No source takes itself out of the epoll set when it is dropped; each
relies on closing its descriptor. `Inv` says that the table of the kernel
and what the objects count on agree; every step keeps it except one. A
`Timer` that is registered and has descriptor `0` is dropped without
closing it, and its pointer stays (`noDangling_iff`).
-/
import Revbio.Epoll.MethodTheorems

namespace Revbio.Epoll

open CallTree Prog Ownership Transition Function

variable {T : Type} {ws : WordSize} {host : Endian}

/-- Every pointer in the epoll set is that of a source there is. -/
def NoDangling (s : System T) : Prop :=
  ∀ fd ptr, s.kernel fd = .held (some ptr) →
    ∃ o, s.objects ptr = some o ∧ o.processFunc = some ptr

/-- No registered timer with descriptor `0` is dropped. -/
def Unregisters (s : System T) : Label T → Prop
  | .drop i => ∀ t, s.objects i = some (.timer t) → t.fd = 0 → t.epollRegistered = false
  | _ => True

/-! ## The objects one by one -/

/-- What an object is besides its holding: a timer knows its own address
also while it is not registered, and a channel is not converted. -/
def Object.Wf (i : Ptr) : Object T → Prop
  | .timer t => t.processFunc = i
  | .channel d => d.epollFd = -1
  | _ => True

theorem creation_does (c : Creation) (this : Ptr) (info : SourceId) (q : EventQueueImpl) :
    Does this none (c.run host this info q) fun r : Option (Object T) × EventQueueImpl =>
      r.1.bind Object.holding := by
  cases c with
  | rawTcpSocket addr =>
    refine does_bind (rawTcp_connect_does addr this) ?_
    rintro (err | s) <;> exact does_ret rfl
  | rawTcpServerSocket addr backlog =>
    refine does_bind (rawServer_bind_does addr backlog this) ?_
    rintro (err | s) <;> exact does_ret rfl
  | channel => exact does_ret rfl
  | tcpSocket addr =>
    refine does_bind (tcp_connect_does this info addr q) ?_
    rintro ⟨err | s, q'⟩ <;> exact does_ret rfl
  | tcpServerSocket addr backlog =>
    refine does_bind (server_bind_does this info addr backlog q) ?_
    rintro (err | s) <;> exact does_ret rfl
  | timer =>
    refine does_bind (timer_create_does this info) ?_
    rintro (err | t) <;> exact does_ret rfl

theorem timer_create_processFunc (this : Ptr) (info : SourceId) :
    (Timer.create this info).Returns fun result =>
      ∀ t, result = .ok t → t.processFunc = this := by
  simp only [Timer.create, sys_eq, call_bind, ret_bind, returns_call]
  intro tfd
  split
  · exact returns_next fun err t ht => nomatch ht
  · intro t ht
    cases ht
    rfl

theorem created_wf {α : Type} {f : α → Object T} {i : Ptr} {result : IoResult α}
    (hf : ∀ a, result = .ok a → (f a).Wf i) {o : Object T}
    (ho : created f result = some o) : o.Wf i := by
  cases result with
  | error err => cases ho
  | ok a =>
    cases ho
    exact hf a rfl

theorem creation_wf (c : Creation) (this : Ptr) (info : SourceId) (q : EventQueueImpl) :
    (c.run host this info q).Returns fun r : Option (Object T) × EventQueueImpl =>
      ∀ o, r.1 = some o → o.Wf this := by
  cases c with
  | channel =>
    intro o ho
    cases ho
    rfl
  | timer =>
    simp only [Creation.run]
    rw [returns_bind]
    exact (timer_create_processFunc this info).mono fun result ht o ho => created_wf ht ho
  | rawTcpSocket addr =>
    simp only [Creation.run]
    exact returns_next fun s o ho =>
      @created_wf _ _ .rawTcp _ s (fun _ _ => trivial) _ ho
  | rawTcpServerSocket addr backlog =>
    simp only [Creation.run]
    exact returns_next fun s o ho =>
      @created_wf _ _ .rawServer _ s (fun _ _ => trivial) _ ho
  | tcpSocket addr =>
    simp only [Creation.run]
    exact returns_next fun r o ho =>
      @created_wf _ _ .tcp _ r.1 (fun _ _ => trivial) _ ho
  | tcpServerSocket addr backlog =>
    simp only [Creation.run]
    exact returns_next fun s o ho =>
      @created_wf _ _ .server _ s (fun _ _ => trivial) _ ho

/-- A conversion goes on with what the value held. -/
theorem convert_does {o : Object T} {this : Ptr} {info : SourceId} {q : EventQueueImpl}
    {i : Ptr} {p : Io (Object T × EventQueueImpl)} (ho : o.Wf i)
    (h : o.convert this info q = some p) :
    Does this o.holding p fun r => r.1.holding := by
  cases o with
  | rawTcp s =>
    cases h
    exact does_bind (fromRawTcpSocket_does this info s q) fun _ => does_ret rfl
  | rawServer s =>
    cases h
    exact does_bind (fromRawServerSocket_does this info s q) fun _ => does_ret rfl
  | channel d =>
    cases h
    exact does_bind (fromBlockingReceiver_does this info d q ho) fun _ => does_ret rfl
  | _ => cases h

theorem convert_wf {o : Object T} {this : Ptr} {info : SourceId} {q : EventQueueImpl}
    {p : Io (Object T × EventQueueImpl)} (h : o.convert this info q = some p) :
    p.Returns fun r => r.1.Wf this := by
  cases o with
  | tcp _ => cases h
  | server _ => cases h
  | timer _ => cases h
  | receiver _ _ => cases h
  | _ =>
    cases h
    exact returns_next fun _ => trivial

/-- What can be converted is not watched. -/
theorem convert_unwatched {o : Object T} {this : Ptr} {info : SourceId} {q : EventQueueImpl}
    {p : Io (Object T × EventQueueImpl)} (h : o.convert this info q = some p) (fd : Fd)
    (ptr : Ptr) : o.holding ≠ some (fd, some ptr) := by
  cases o with
  | rawTcp s => exact fun h => nomatch (heldBy_eq_some.mp h).2.2
  | rawServer s => exact fun h => nomatch (heldBy_eq_some.mp h).2.2
  | channel d => exact fun h => nomatch h
  | _ => cases h

theorem method_does {o : Object T} {i : Ptr} {m : Method T} {q : EventQueueImpl}
    {p : Io (Object T × EventQueueImpl)} (ho : o.Wf i) (h : o.method ws q m = some p) :
    Does i o.holding p fun r => r.1.holding := by
  unfold Object.method at h
  split at h
  · cases h
    exact does_bind (closeSocket_does _ i none) fun _ => does_ret rfl
  · cases h
    exact does_bind (rawTcp_write_does _ _ i none) fun _ => does_ret rfl
  · cases h
    exact does_bind (rawTcp_read_does _ _ i none) fun _ => does_ret rfl
  · cases h
    exact does_bind (server_closeSocket_does _ i none) fun _ => does_ret rfl
  · obtain ⟨p', hp', rfl⟩ := Option.map_eq_some_iff.mp h
    exact does_leaves_bind (channelMethod_leaves hp') fun _ _ => does_ret rfl
  · cases h
    exact does_bind (tcp_close_does _ q i) fun _ => does_ret rfl
  · cases h
    exact does_bind (tcp_write_does _ _ q i) fun _ => does_ret rfl
  · cases h
    exact does_bind (tcp_read_does _ _ q i) fun _ => does_ret rfl
  · cases h
    exact does_bind (server_close_does _ q i) fun _ => does_ret rfl
  · cases h
    exact does_ret rfl
  · cases h
    exact does_ret rfl
  · cases h
    obtain rfl : _ = i := ho
    exact does_bind (timer_start_does _ q) fun _ => does_ret rfl
  · cases h
    exact does_bind (timer_stop_does _ q i) fun _ => does_ret rfl
  · exact does_leaves (receiverMethod_leaves h)
  · cases h

theorem receiverMethod_wf {r : Receiver} {d : SharedChannelData T} {q : EventQueueImpl}
    {m : Method T} {p : Io (Object T × EventQueueImpl)} (i : Ptr)
    (h : receiverMethod ws r d q m = some p) : p.Returns fun x => x.1.Wf i := by
  refine (receiverMethod_calls h).returns.mono ?_
  intro x hx
  obtain ⟨r', d', hreceiver, -, -⟩ := hx
  rw [hreceiver]
  trivial

theorem method_wf {o : Object T} {i : Ptr} {m : Method T} {q : EventQueueImpl}
    {p : Io (Object T × EventQueueImpl)} (ho : o.Wf i) (h : o.method ws q m = some p) :
    p.Returns fun r => r.1.Wf i := by
  cases o with
  | channel d =>
    obtain ⟨p', hp', rfl⟩ := Option.map_eq_some_iff.mp h
    rw [returns_bind]
    exact (channelMethod_leaves hp').returns.mono fun d' hd' => hd'.trans ho
  | timer t =>
    cases m with
    | setInterval n =>
      cases h
      exact ho
    | setSingleshot b =>
      cases h
      exact ho
    | start =>
      cases h
      rw [returns_bind]
      exact (timer_start_processFunc t q).mono fun t' ht' => ht'.trans ho
    | stop =>
      cases h
      rw [returns_bind]
      exact (timer_stop_processFunc t q).mono fun r hr => hr.trans ho
    | _ => cases h
  | receiver r d => exact receiverMethod_wf i h
  | _ =>
    cases m
    all_goals
      cases h
      try
        exact returns_next fun _ => trivial

theorem callback_does {o : Object T} {ptr : Ptr} {fd : Fd} {q : EventQueueImpl}
    {mask : UInt32} {p : Io (Object T × EventQueueImpl)}
    (ho : o.holding = some (fd, some ptr)) (h : o.processEpollEvents ws q mask = some p) :
    Does ptr o.holding p fun r => r.1.holding := by
  cases o with
  | tcp s =>
    cases h
    -- it is open, since it has something to be called for
    obtain ⟨hopen, -, hptr⟩ := heldBy_eq_some.mp ho
    obtain rfl : s.processFunc = ptr := Option.some.inj hptr
    exact does_bind (tcp_callback_does s q mask hopen) fun _ => does_ret rfl
  | server s =>
    cases h
    exact does_bind (server_callback_does s q mask ptr) fun _ => does_ret rfl
  | timer t =>
    cases h
    exact does_bind (timer_callback_does t q mask ptr) fun _ => does_ret rfl
  | receiver r d =>
    cases h
    exact does_leaves_bind (readEventfd_leaves d mask) fun _ _ => does_ret rfl
  | _ => cases h

theorem callback_wf {o : Object T} {i : Ptr} {q : EventQueueImpl} {mask : UInt32}
    {p : Io (Object T × EventQueueImpl)} (ho : o.Wf i)
    (h : o.processEpollEvents ws q mask = some p) : p.Returns fun r => r.1.Wf i := by
  cases o with
  | timer t =>
    cases h
    rw [returns_bind]
    exact (timer_callback_leaves t q mask).returns.mono fun r hr => hr.2.trans ho
  | rawTcp _ => cases h
  | rawServer _ => cases h
  | channel _ => cases h
  | _ =>
    cases h
    exact returns_next fun _ => trivial

/-- Only a timer with descriptor `0` keeps what it has. -/
theorem drop_does {o : Object T} {i : Ptr} {q : EventQueueImpl}
    (ho : ∀ t, o = .timer t → t.fd ≠ 0) : Does i o.holding (o.drop q) fun _ => none := by
  cases o with
  | rawTcp s => exact does_bind (rawTcp_drop_does s i none) fun _ => does_ret rfl
  | rawServer s => exact does_bind (rawServer_drop_does s i none) fun _ => does_ret rfl
  | channel d => exact does_leaves_bind (blockingReceiver_drop_leaves d) fun _ _ => does_ret rfl
  | tcp s => exact tcp_drop_does s q i
  | server s => exact server_drop_does s q i
  | timer t => exact timer_drop_does t q i (ho t rfl)
  | receiver r d =>
    refine does_bind (receiver_drop_does r d q i) ?_
    intro r
    exact does_leaves_bind (blockingReceiver_drop_leaves r.1) fun _ _ => does_ret rfl

/-- A timer with descriptor `0` does nothing to the table. -/
theorem timer_drop_zero {t : Timer} (hfd : t.fd = 0) {q q' : EventQueueImpl} {k k' : Kernel}
    (h : (t.drop q).Exec Kernel.allows k (.returned q') k') : k' = k := by
  unfold Timer.drop at h
  rw [if_neg (not_not.mpr hfd)] at h
  exact h.2

/-! ## The invariant -/

structure Inv (s : System T) : Prop where
  owned : Owned s.kernel s.holdings
  wf : ∀ ⦃i o⦄, s.objects i = some o → o.Wf i

theorem holdings_update (objects : Ptr → Option (Object T)) (i : Ptr) (o : Option (Object T))
    (q q' : EventQueueImpl) (k k' : Kernel) :
    System.holdings ⟨update objects i o, q, k⟩ =
      update (System.holdings ⟨objects, q', k'⟩) i (o.bind Object.holding) := by
  funext j
  by_cases hj : j = i
  · subst hj
    simp [System.holdings]
  · simp [System.holdings, hj]

theorem holdings_of_some {s : System T} {i : Ptr} {o : Object T} (h : s.objects i = some o) :
    s.holdings i = o.holding := by
  simp [System.holdings, h]

theorem holdings_of_none {s : System T} {i : Ptr} (h : s.objects i = none) :
    s.holdings i = none := by
  simp [System.holdings, h]

/-- A name without an object. -/
theorem none_wf {i : Ptr} : ∀ o, (none : Option (Object T)) = some o → o.Wf i := by
  intro o ho
  cases ho

theorem wf_update {objects : Ptr → Option (Object T)} {i : Ptr} {o : Option (Object T)}
    (h : ∀ ⦃j o⦄, objects j = some o → o.Wf j) (ho : ∀ o', o = some o' → o'.Wf i) :
    ∀ ⦃j o'⦄, update objects i o j = some o' → o'.Wf j := by
  intro j o' hj
  by_cases hji : j = i
  · subst hji
    exact ho o' (by simpa using hj)
  · exact h (by simpa [hji] using hj)

/-- What one object does keeps the invariant. -/
theorem Inv.act {s : System T} (hI : Inv s) {i : Ptr} {o : Option (Object T)}
    {q : EventQueueImpl} {k : Kernel}
    (ha : Acts i (s.holdings i) s.kernel (o.bind Object.holding) k)
    (ho : ∀ o', o = some o' → o'.Wf i) : Inv ⟨update s.objects i o, q, k⟩ where
  owned := by
    rw [holdings_update s.objects i o q s.queue k s.kernel]
    exact ha.owned hI.owned rfl
  wf := wf_update hI.wf ho

theorem Inv.noDangling {s : System T} (hI : Inv s) : NoDangling s := by
  intro fd ptr hfd
  have hheld := hI.owned.watched hfd
  obtain ⟨o, ho, hheld⟩ := Option.bind_eq_some_iff.mp hheld
  refine ⟨o, ho, ?_⟩
  cases o with
  | rawTcp s => exact nomatch (heldBy_eq_some.mp hheld).2.2
  | rawServer s => exact nomatch (heldBy_eq_some.mp hheld).2.2
  | channel d => cases hheld
  | tcp s => exact (heldBy_eq_some.mp hheld).2.2
  | server s => exact (heldBy_eq_some.mp hheld).2.2
  | timer t => exact congrArg some (hI.wf ho)
  | receiver r d =>
    simp only [Object.holding, Option.ite_none_left_eq_some, Option.some.injEq,
      Prod.mk.injEq] at hheld
    exact congrArg some hheld.2.2

theorem start_inv (opened : Fd → Bool) (queue : EventQueueImpl) :
    Inv (System.start opened queue : System T) where
  owned := by
    refine Owned.empty ?_
    intro fd ptr
    simp only [System.start]
    split <;> simp
  wf i o h := nomatch h

theorem convert_inv {s : System T} {i this : Ptr} {info : SourceId} {o o' : Object T}
    {p : Io (Object T × EventQueueImpl)} {q : EventQueueImpl} {k : Kernel} (hI : Inv s)
    (hi : s.objects i = some o) (hthis : s.objects this = none)
    (hp : o.convert this info s.queue = some p)
    (hx : p.Exec Kernel.allows s.kernel (.returned (o', q)) k) :
    Inv ⟨update (update s.objects i none) this (some o'), q, k⟩ := by
  have ha := (convert_does (hI.wf hi) hp).exec hx
  -- the new object takes over what the value held, and goes on from there
  have hmoved := hI.owned.move (holdings_of_some hi) (convert_unwatched hp)
    (holdings_of_none hthis)
  constructor
  · rw [holdings_update (update s.objects i none) this (some o') q s.queue k s.kernel,
      holdings_update s.objects i none s.queue s.queue s.kernel s.kernel]
    simpa using ha.owned hmoved (update_self ..)
  · refine wf_update (wf_update hI.wf none_wf) ?_
    intro o₁ ho
    cases ho
    exact (convert_wf hp).exec hx

/-- The two ways `accept` can go, for the whole system. -/
theorem accepted_inv {s : System T} {i new : Ptr} {o o' : Object T} {made : Option (Object T)}
    {q : EventQueueImpl} {k : Kernel} (hI : Inv s) (hi : s.objects i = some o)
    (hnew : s.objects new = none) (ho' : o'.Wf i) (hmade : ∀ o, made = some o → o.Wf new)
    (h : (o'.holding = o.holding ∧
        Acts new none s.kernel (made.bind Object.holding) k) ∨
      (made = none ∧ Acts i o.holding s.kernel o'.holding k)) :
    Inv ⟨update (update s.objects i (some o')) new made, q, k⟩ := by
  have hholdings := holdings_update s.objects i (some o') s.queue s.queue s.kernel s.kernel
  constructor
  · rw [holdings_update (update s.objects i (some o')) new made q s.queue k s.kernel, hholdings]
    rcases h with ⟨hsame, ha⟩ | ⟨rfl, ha⟩
    · rw [Option.bind_some, hsame, ← holdings_of_some hi, update_eq_self]
      exact ha.owned hI.owned (holdings_of_none hnew)
    · refine (ha.owned hI.owned (holdings_of_some hi)).forget ?_
      intro d ptr hd
      have hne : new ≠ i := by
        intro h
        subst h
        rw [hi] at hnew
        cases hnew
      rw [update_of_ne hne, holdings_of_none hnew] at hd
      cases hd
  · refine wf_update (wf_update hI.wf ?_) hmade
    intro o₁ ho
    cases ho
    exact ho'

theorem accept_inv {s : System T} {i new : Ptr} {o o' : Object T} {made : Option (Object T)}
    {p : Io (Option (Object T) × Object T × EventQueueImpl)} {q : EventQueueImpl} {k : Kernel}
    (hI : Inv s) (hi : s.objects i = some o) (hnew : s.objects new = none)
    (hp : o.accept s.queue = some p)
    (hx : p.Exec Kernel.allows s.kernel (.returned (made, o', q)) k) :
    Inv ⟨update (update s.objects i (some o')) new made, q, k⟩ := by
  cases o with
  | rawServer sock =>
    cases hp
    rw [exec_bind] at hx
    obtain ⟨⟨result, sock'⟩, k₁, hacc, hx⟩ := hx
    obtain ⟨hx, rfl⟩ := hx
    cases hx
    have hwf := @created_wf T RawTcpSocket .rawTcp new result fun _ _ => trivial
    cases @rawServer_accept_exec _ _ _ i new none _ _ hacc with
    | made ha => exact accepted_inv hI hi hnew trivial (fun _ => hwf) (.inl ⟨rfl, ha⟩)
    | failed ha => exact accepted_inv hI hi hnew trivial (fun _ => hwf) (.inr ⟨rfl, ha⟩)
  | server sock =>
    cases hp
    rw [exec_bind] at hx
    obtain ⟨⟨result, sock', q'⟩, k₁, hacc, hx⟩ := hx
    obtain ⟨hx, rfl⟩ := hx
    cases hx
    have hwf := @created_wf T RawTcpSocket .rawTcp new result fun _ _ => trivial
    obtain ⟨hptr, hacc⟩ := @server_accept_exec _ _ _ _ _ i new _ _ hacc
    obtain ⟨ptr, raw', info, avail⟩ := sock'
    obtain rfl : ptr = sock.processFunc := hptr
    cases hacc with
    | made ha => exact accepted_inv hI hi hnew trivial (fun _ => hwf) (.inl ⟨rfl, ha⟩)
    | failed ha => exact accepted_inv hI hi hnew trivial (fun _ => hwf) (.inr ⟨rfl, ha⟩)
  | _ => cases hp

theorem drop_inv {s : System T} {i : Ptr} {o : Object T} {q : EventQueueImpl} {k : Kernel}
    (hI : Inv s) (hi : s.objects i = some o)
    (hG : ∀ t, o = .timer t → t.fd = 0 → t.epollRegistered = false)
    (hx : (o.drop s.queue).Exec Kernel.allows s.kernel (.returned q) k) :
    Inv ⟨update s.objects i none, q, k⟩ := by
  by_cases hzero : ∃ t, o = .timer t ∧ t.fd = 0
  case pos =>
    -- the descriptor stays open, but nobody is called for it
    obtain ⟨t, rfl, hfd⟩ := hzero
    obtain rfl := timer_drop_zero hfd hx
    constructor
    · rw [holdings_update s.objects i none q s.queue s.kernel s.kernel]
      refine hI.owned.forget ?_
      intro d ptr hd
      rw [holdings_of_some hi] at hd
      simp [Object.holding, hG t rfl hfd] at hd
    · exact wf_update hI.wf none_wf
  case neg =>
    have ha : Acts i o.holding s.kernel none k :=
      (drop_does fun t ht hfd => hzero ⟨t, ht, hfd⟩).exec hx
    rw [← holdings_of_some hi] at ha
    exact hI.act ha none_wf

theorem step_inv {s t : System T} {l : Label T} (hI : Inv s) (hG : Unregisters s l)
    (h : Step ws host s l t) : Inv t := by
  cases h with
  | create hthis hx =>
    have ha := (creation_does _ _ _ _).exec hx
    rw [← holdings_of_none hthis] at ha
    exact hI.act ha ((creation_wf _ _ _ _).exec hx)
  | convert hi hthis hp hx => exact convert_inv hI hi hthis hp hx
  | method hi hp hx =>
    have ha := (method_does (hI.wf hi) hp).exec hx
    rw [← holdings_of_some hi] at ha
    refine hI.act ha ?_
    intro o' ho
    cases ho
    exact (method_wf (hI.wf hi) hp).exec hx
  | accept hi hnew hp hx => exact accept_inv hI hi hnew hp hx
  | poll hfd hi hp hx =>
    have hheld := hI.owned.watched hfd
    rw [holdings_of_some hi] at hheld
    have ha := (callback_does hheld hp).exec hx
    rw [← holdings_of_some hi] at ha
    refine hI.act ha ?_
    intro o' ho
    cases ho
    exact (callback_wf (hI.wf hi) hp).exec hx
  | drop hi hx => exact drop_inv hI hi (fun t ht => hG t (ht ▸ hi)) hx
  | client => exact ⟨hI.owned, hI.wf⟩
  | foreignOpen hfree =>
    refine ⟨hI.owned.foreign (fun i w hi => ?_) (by simp), hI.wf⟩
    have := hI.owned.held hi
    rw [hfree] at this
    cases this
  | foreignClose _ hfd => exact ⟨hI.owned.foreign hfd (by simp), hI.wf⟩

/-! ## The exact condition -/

/-- The pointer of a registered timer with descriptor `0` outlives it. -/
theorem zero_drop_dangles {s t : System T} {l : Label T} (hI : Inv s)
    (hG : ¬ Unregisters s l) (h : Step ws host s l t) : ¬ NoDangling t := by
  cases h with
  | drop hi hx =>
    simp only [Unregisters, not_forall] at hG
    obtain ⟨tm, htm, hfd, hreg⟩ := hG
    obtain rfl := Option.some.inj (hi.symm.trans htm)
    obtain rfl := timer_drop_zero hfd hx
    have hheld := holdings_of_some hi
    simp only [Object.holding, hfd, hreg, if_true] at hheld
    have hself := hI.owned.self hheld
    have hkernel := hI.owned.held hheld
    rw [hself] at hkernel
    intro hsafe
    obtain ⟨o, ho, -⟩ := hsafe 0 _ hkernel
    simp at ho
  | _ => exact absurd trivial hG

/-- A run leaves no pointer to a dropped source in the epoll set, in any of
its states, exactly when it drops no registered timer that has descriptor
`0`. -/
theorem noDangling_iff (opened : Fd → Bool) (queue : EventQueueImpl) (tr : List (Label T))
    (s : System T) :
    SafeRun (Step ws host) NoDangling (System.start opened queue) tr s ↔
      GuardedRun (Step ws host) Unregisters (System.start opened queue) tr s :=
  safe_iff_guarded_of_invariant (start_inv opened queue) (fun _ => Inv.noDangling)
    (fun _ _ _ => step_inv) (fun _ _ _ => zero_drop_dangles)

/-- The kernel gives a new timer descriptor `0`. It is started and dropped,
and the epoll set keeps its pointer. -/
theorem noDangling_fails : ∃ s : System Unit,
    Run (Step .w64 .little) (System.start (fun fd => decide (fd = 3)) ⟨3, []⟩)
      [.create 7 .timer, .method 7 (.setInterval 1000), .method 7 .start, .drop 7] s ∧
    s.kernel 0 = .held (some 7) ∧ s.objects 7 = none ∧ ¬ NoDangling s := by
  let s₀ : System Unit := System.start (fun fd => decide (fd = 3)) ⟨3, []⟩
  let t : Timer := ⟨7, 0, false, 0, false, false, 0⟩
  let t' : Timer := { t with interval := 1000 }
  let t'' : Timer := { t' with isActive := true, epollRegistered := true }
  let k₁ : Kernel := update s₀.kernel 0 (.held none)
  let k₂ : Kernel := update k₁ 0 (.held (some 7))
  let s₁ : System Unit := ⟨update s₀.objects 7 (some (.timer t)), ⟨3, []⟩, k₁⟩
  let s₂ : System Unit := ⟨update s₁.objects 7 (some (.timer t')), ⟨3, []⟩, k₁⟩
  let s₃ : System Unit := ⟨update s₂.objects 7 (some (.timer t'')), ⟨3, []⟩, k₂⟩
  let s₄ : System Unit := ⟨update s₃.objects 7 none, ⟨3, []⟩, k₂⟩
  have h₁ : Step .w64 .little s₀ (.create 7 .timer) s₁ :=
    .create rfl (⟨0, k₁, .inr ⟨by decide, rfl, rfl⟩, rfl, rfl⟩ :
      (Creation.run .little 7 0 _ .timer).Exec Kernel.allows _ _ _)
  have h₂ : Step .w64 .little s₁ (.method 7 (.setInterval 1000)) s₂ :=
    .method rfl rfl ⟨rfl, rfl⟩
  have h₃ : Step .w64 .little s₂ (.method 7 .start) s₃ :=
    .method rfl rfl ⟨0, k₁, rfl, 0, k₂, .inr ⟨rfl, rfl, rfl⟩, rfl, rfl⟩
  have h₄ : Step .w64 .little s₃ (.drop 7) s₄ := .drop rfl ⟨rfl, rfl⟩
  refine ⟨s₄, .cons h₁ (.cons h₂ (.cons h₃ (.one h₄))), rfl, rfl, fun hsafe => ?_⟩
  obtain ⟨o, ho, -⟩ := hsafe 0 7 rfl
  cases ho

end Revbio.Epoll
