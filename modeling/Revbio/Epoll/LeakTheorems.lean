/-
Revbio.Epoll.LeakTheorems — no descriptor is lost.

`Revbio.Epoll.DanglingTheorems` is about what the epoll set keeps of
objects that are gone. This is about what the kernel keeps: a descriptor is
given back by the object that counts on it, so one that is open without
such an object stays open for good. Next to a task other code opens and
closes descriptors of its own, which are none of its business (`Books`).

An object is dropped with all it has, a `Timer` with descriptor `0`
excepted: whether registered or not, it leaves the descriptor open
(`noLeak_iff`). The queue is there all the time, and a task that ends by
failing is not looked at: a step is a call that returns.
-/
import Revbio.Epoll.DanglingTheorems

namespace Revbio.Epoll

open CallTree Prog Ownership Transition Function

variable {T : Type} {ws : WordSize} {host : Endian}

/-! ## The books -/

/-- A task, and the descriptors that are not its own. -/
structure Books (T : Type) where
  sys : System T
  foreign : Fd → Prop

/-- The descriptors of other code after a step. -/
def Label.foreignAfter (F : Fd → Prop) : Label T → Fd → Prop
  | .foreign fd true => fun d => d = fd ∨ F d
  | .foreign fd false => fun d => d ≠ fd ∧ F d
  | _ => F

def BooksStep (ws : WordSize) (host : Endian) (b : Books T) (l : Label T) (b' : Books T) :
    Prop :=
  Step ws host b.sys l b'.sys ∧ b'.foreign = l.foreignAfter b.foreign

def Books.start (opened : Fd → Bool) (queue : EventQueueImpl) : Books T where
  sys := System.start opened queue
  foreign fd := opened fd = true

/-- Every open descriptor is that of an object there is, or of other code. -/
def NoLeak (b : Books T) : Prop :=
  ∀ fd, b.sys.kernel fd ≠ .free →
    (∃ i o w, b.sys.objects i = some o ∧ o.holding = some (fd, w)) ∨ b.foreign fd

/-- No timer with descriptor `0` is dropped. -/
def KeepsZero (b : Books T) : Label T → Prop
  | .drop i => ∀ t, b.sys.objects i = some (.timer t) → t.fd ≠ 0
  | _ => True

theorem KeepsZero.unregisters {b : Books T} {l : Label T} (h : KeepsZero b l) :
    Unregisters b.sys l := by
  cases l with
  | drop i => exact fun t ht hfd => absurd hfd (h t ht)
  | _ => trivial

/-! ## The invariant -/

structure BooksInv (b : Books T) : Prop where
  inv : Inv b.sys
  covered : Covered b.sys.kernel b.sys.holdings b.foreign

theorem BooksInv.noLeak {b : Books T} (h : BooksInv b) : NoLeak b := by
  intro fd hfd
  rcases h.covered.covered fd hfd with ⟨i, w, hi⟩ | hF
  · obtain ⟨o, ho, hheld⟩ := Option.bind_eq_some_iff.mp hi
    exact .inl ⟨i, o, w, ho, hheld⟩
  · exact .inr hF

theorem start_books (opened : Fd → Bool) (queue : EventQueueImpl) :
    BooksInv (Books.start opened queue : Books T) where
  inv := start_inv opened queue
  covered := by
    refine Covered.empty ?_
    intro fd
    simp [Books.start, System.start]

section Steps

variable {s : System T} {F : Fd → Prop}

/-- What one object does to its own descriptor. -/
theorem act_covered {i : Ptr} {o : Option (Object T)} {q : EventQueueImpl} {k : Kernel}
    (hC : Covered s.kernel s.holdings F)
    (ha : Acts i (s.holdings i) s.kernel (o.bind Object.holding) k) :
    Covered k (System.holdings ⟨update s.objects i o, q, k⟩) F := by
  rw [holdings_update s.objects i o q s.queue k s.kernel]
  exact ha.covered hC rfl

theorem convert_covered {i this : Ptr} {info : SourceId} {o o' : Object T}
    {p : Io (Object T × EventQueueImpl)} {q : EventQueueImpl} {k : Kernel} (hI : Inv s)
    (hC : Covered s.kernel s.holdings F) (hi : s.objects i = some o)
    (hthis : s.objects this = none) (hp : o.convert this info s.queue = some p)
    (hx : p.Exec Kernel.allows s.kernel (.returned (o', q)) k) :
    Covered k (System.holdings ⟨update (update s.objects i none) this (some o'), q, k⟩) F := by
  have ha := (convert_does (hI.wf hi) hp).exec hx
  have hmoved := hC.move (holdings_of_some hi) (holdings_of_none hthis)
  rw [holdings_update (update s.objects i none) this (some o') q s.queue k s.kernel,
    holdings_update s.objects i none s.queue s.queue s.kernel s.kernel]
  simpa using ha.covered hmoved (update_self ..)

/-- The two ways `accept` can go. -/
theorem accepted_covered {i new : Ptr} {o o' : Object T} {made : Option (Object T)}
    {q : EventQueueImpl} {k : Kernel} (hC : Covered s.kernel s.holdings F)
    (hi : s.objects i = some o) (hnew : s.objects new = none)
    (h : (o'.holding = o.holding ∧ Acts new none s.kernel (made.bind Object.holding) k) ∨
      (made = none ∧ Acts i o.holding s.kernel o'.holding k)) :
    Covered k (System.holdings ⟨update (update s.objects i (some o')) new made, q, k⟩) F := by
  have hholdings := holdings_update s.objects i (some o') s.queue s.queue s.kernel s.kernel
  rw [holdings_update (update s.objects i (some o')) new made q s.queue k s.kernel, hholdings]
  rcases h with ⟨hsame, ha⟩ | ⟨rfl, ha⟩
  · rw [Option.bind_some, hsame, ← holdings_of_some hi, update_eq_self]
    exact ha.covered hC (holdings_of_none hnew)
  · have hne : new ≠ i := by
      intro h
      subst h
      rw [hi] at hnew
      cases hnew
    have hnone : update s.holdings i o'.holding new = none := by
      rw [update_of_ne hne, holdings_of_none hnew]
    rw [Option.bind_none, Option.bind_some, update_eq_self_iff.mpr hnone.symm]
    exact ha.covered hC (holdings_of_some hi)

/-- What a call of `accept` does to the descriptors. -/
theorem accept_acts {i new : Ptr} {o o' : Object T} {made : Option (Object T)}
    {p : Io (Option (Object T) × Object T × EventQueueImpl)} {q q' : EventQueueImpl}
    {k k' : Kernel} (hp : o.accept q = some p)
    (hx : p.Exec Kernel.allows k (.returned (made, o', q')) k') :
    (o'.holding = o.holding ∧ Acts new none k (made.bind Object.holding) k') ∨
      (made = none ∧ Acts i o.holding k o'.holding k') := by
  cases o with
  | rawServer sock =>
    cases hp
    rw [exec_bind] at hx
    obtain ⟨⟨result, sock'⟩, k₁, hacc, hx⟩ := hx
    obtain ⟨hx, rfl⟩ := hx
    cases hx
    cases @rawServer_accept_exec _ _ _ i new none _ _ hacc with
    | made ha => exact .inl ⟨rfl, ha⟩
    | failed ha => exact .inr ⟨rfl, ha⟩
  | server sock =>
    cases hp
    rw [exec_bind] at hx
    obtain ⟨⟨result, sock', q''⟩, k₁, hacc, hx⟩ := hx
    obtain ⟨hx, rfl⟩ := hx
    cases hx
    obtain ⟨hptr, hacc⟩ := @server_accept_exec _ _ _ _ _ i new _ _ hacc
    obtain ⟨ptr, raw', info, avail⟩ := sock'
    obtain rfl : ptr = sock.processFunc := hptr
    cases hacc with
    | made ha => exact .inl ⟨rfl, ha⟩
    | failed ha => exact .inr ⟨rfl, ha⟩
  | _ => cases hp

/-- **Every step** keeps every descriptor accounted for, unless it drops a
timer with descriptor `0`. -/
theorem step_covered {t : System T} {l : Label T} (hI : Inv s)
    (hC : Covered s.kernel s.holdings F) (hG : KeepsZero ⟨s, F⟩ l)
    (h : Step ws host s l t) : Covered t.kernel t.holdings (l.foreignAfter F) := by
  cases h with
  | create hthis hx =>
    have ha := (creation_does _ _ _ _).exec hx
    rw [← holdings_of_none hthis] at ha
    exact act_covered hC ha
  | convert hi hthis hp hx => exact convert_covered hI hC hi hthis hp hx
  | method hi hp hx =>
    have ha := (method_does (hI.wf hi) hp).exec hx
    rw [← holdings_of_some hi] at ha
    exact act_covered hC ha
  | accept hi hnew hp hx => exact accepted_covered hC hi hnew (accept_acts hp hx)
  | poll hfd hi hp hx =>
    have hheld := hI.owned.watched hfd
    rw [holdings_of_some hi] at hheld
    have ha := (callback_does hheld hp).exec hx
    rw [← holdings_of_some hi] at ha
    exact act_covered hC ha
  | @drop i o q k hi hx =>
    have ha : Acts i o.holding s.kernel none k :=
      (drop_does fun t ht => hG t (ht ▸ hi)).exec hx
    rw [← holdings_of_some hi] at ha
    exact act_covered (o := none) hC ha
  | client => exact hC
  | foreignOpen hfree =>
    refine hC.opened ?_ (by simp)
    intro i w hi
    have := hI.owned.held hi
    rw [hfree] at this
    cases this
  | foreignClose _ _ => exact hC.closed

end Steps

theorem step_books {b b' : Books T} {l : Label T} (hb : BooksInv b) (hG : KeepsZero b l)
    (h : BooksStep ws host b l b') : BooksInv b' where
  inv := step_inv hb.inv hG.unregisters h.1
  covered := by
    rw [h.2]
    exact step_covered hb.inv hb.covered hG h.1

/-- The descriptor of a timer that has number `0` outlives it. -/
theorem zero_drop_leaks {b b' : Books T} {l : Label T} (hb : BooksInv b)
    (hG : ¬ KeepsZero b l) (h : BooksStep ws host b l b') : ¬ NoLeak b' := by
  obtain ⟨s, F⟩ := b
  obtain ⟨t, F'⟩ := b'
  obtain ⟨hstep, hF⟩ := h
  cases hstep with
  | @drop i o q k hi hx =>
    simp only [KeepsZero, not_forall, not_not] at hG
    obtain ⟨tm, htm, hfd⟩ := hG
    obtain rfl := Option.some.inj (hi.symm.trans htm)
    obtain rfl := timer_drop_zero hfd hx
    obtain rfl : F' = F := hF
    have hheld : s.holdings i =
        some (0, if tm.epollRegistered then some tm.processFunc else none) := by
      rw [holdings_of_some hi, Object.holding, hfd]
    have hopen : s.kernel 0 ≠ .free := by
      have hheld' : s.kernel 0 = _ := hb.inv.owned.held hheld
      simp [hheld']
    intro hsafe
    rcases hsafe 0 hopen with ⟨j, o, w, ho, hj⟩ | hzero
    · -- nobody else has it
      have hji : j ≠ i := by
        intro hji
        simp [hji] at ho
      have hj' : s.holdings j = some (0, w) := by
        rw [holdings_of_some (by simpa [hji] using ho), hj]
      exact hji (hb.inv.owned.unique hj' hheld)
    · exact (hb.covered.apart 0 hzero).2 _ _ hheld
  | _ => exact absurd trivial hG

/-- **No descriptor is lost**, in any state of a run of calls that return,
exactly when the run drops no timer that has descriptor `0`: whatever is
open is then that of an object there is, or of other code. So it is also
where a constructor gives up half way and returns an error. -/
theorem noLeak_iff (opened : Fd → Bool) (queue : EventQueueImpl) (tr : List (Label T))
    (b : Books T) :
    SafeRun (BooksStep ws host) NoLeak (Books.start opened queue) tr b ↔
      GuardedRun (BooksStep ws host) KeepsZero (Books.start opened queue) tr b :=
  safe_iff_guarded_of_invariant (start_books opened queue) (fun _ => BooksInv.noLeak)
    (fun _ _ _ => step_books) (fun _ _ _ => zero_drop_leaks)

end Revbio.Epoll
