/-
Revbio.Channel.InvariantTheorems — the invariant of a channel.

`Inv` says what holds of every reachable state, whichever mode the
receiving end is in:

* the sender count is the number of live Transmitters, and the eventfd
  that is open, if any, is the one `epoll_fd` names;
* with a BlockingReceiver, a pending notice means that there is something
  to notice, and a task that waits unsignalled has nothing to wait for;
* with a Receiver and a live Transmitter, `receiver_notified` is exactly
  "a wake-up is outstanding" (the eventfd counter is up, or the callback
  has read it and not yet taken the mutex), and while one is, the credit is
  zero.

The last point is what keeps the counter at most 1: a write happens only
on the flag down, and `Receiver::recv`, which takes the flag down without
reading the eventfd, does so only with credit left.
-/
import Revbio.Channel.SystemTheorems

namespace Revbio.Channel

variable {T : Type} {ws : WordSize}

/-! ## The invariant -/

/-- With a BlockingReceiver. -/
structure BlockingInv (s : ChannelState T) : Prop where
  task : s.task ≠ .callback
  /-- a notice is about a message or about the end -/
  notice : s.data.receiverNotified = true → s.data.queue ≠ [] ∨ s.live = []
  /-- an unsignalled waiter waits for something yet to come -/
  waiting : ∀ b, s.task = .waiting b → s.data.queue = [] ∧ s.live ≠ []

/-- With a Receiver, its eventfd open and a Transmitter alive. -/
structure SenderInv (s : ChannelState T) (r : Receiver) (e : EventFd) : Prop where
  credit : r.availableMessages ≤ s.data.queue.length
  flag : s.data.receiverNotified = true ↔ e.counter = 1 ∨ s.task = .callback
  fresh : s.data.receiverNotified = true → r.availableMessages = 0

/-- With a Receiver and its eventfd open. -/
structure EventfdInv (s : ChannelState T) (r : Receiver) (e : EventFd) : Prop where
  counter : e.counter ≤ 1
  task : s.task = .running ∨ s.task = .callback
  read : s.task = .callback → e.counter = 0
  sender : s.live ≠ [] → SenderInv s r e

/-- With a Receiver that was attached after the last Transmitter had gone. -/
structure DeadInv (s : ChannelState T) (r : Receiver) : Prop where
  live : s.live = []
  task : s.task = .running
  credit : r.availableMessages = 0

/-- The mode of the receiving end, with what holds in it. -/
inductive Mode (s : ChannelState T) : Prop where
  | blocking : s.port = .blocking → s.eventfd = none → BlockingInv s → Mode s
  | attached {r : Receiver} {e : EventFd} :
      s.port = .attached r → s.eventfd = some e → EventfdInv s r e → Mode s
  | dead {r : Receiver} :
      s.port = .attached r → s.eventfd = none → DeadInv s r → Mode s
  | gone : s.port = .detached ∨ s.port = .dropped → s.eventfd = none →
      s.task = .running → Mode s

/-- `epoll_fd` names the open eventfd, and is `-1` when there is none. -/
def FdInv (s : ChannelState T) : Prop :=
  match s.eventfd with
  | some e => s.data.epollFd = e.fd ∧ 0 ≤ e.fd
  | none => s.data.epollFd = -1

/-- **The channel invariant.** -/
structure Inv (s : ChannelState T) : Prop where
  senders : s.data.nrSenders = s.live.length
  stray : s.stray = false
  fd : FdInv s
  alive : s.data.portAlive = false ↔ s.port = .dropped
  empty : s.port = .dropped → s.data.queue = []
  mode : Mode s

theorem initial_inv (events : EventQueueImpl) : Inv (initial T events) where
  senders := rfl
  stray := rfl
  fd := rfl
  alive := by simp [initial, createBlocking]
  empty := by simp [initial]
  mode := .blocking rfl rfl
    ⟨by simp [initial], by simp [initial, createBlocking], by simp [initial]⟩

/-! ## Consequences used below -/

theorem Inv.nrSenders_eq_zero {s : ChannelState T} (h : Inv s) :
    s.data.nrSenders = 0 ↔ s.live = [] := by
  rw [h.senders, List.length_eq_zero_iff]

theorem FdInv.of_some {s : ChannelState T} {e : EventFd} (h : FdInv s)
    (he : s.eventfd = some e) : s.data.epollFd = e.fd ∧ 0 ≤ e.fd := by
  simpa only [FdInv, he] using h

theorem FdInv.of_none {s : ChannelState T} (h : FdInv s) (he : s.eventfd = none) :
    s.data.epollFd = -1 := by
  simpa only [FdInv, he] using h

theorem Inv.eventfd_none {s : ChannelState T} (h : Inv s) :
    s.data.epollFd = -1 ↔ s.eventfd = none := by
  refine ⟨fun hfd => ?_, h.fd.of_none⟩
  cases he : s.eventfd with
  | none => rfl
  | some e =>
    obtain ⟨heq, hpos⟩ := h.fd.of_some he
    exact absurd (heq ▸ hfd) (Fd.ne_none hpos)

/-- A Transmitter that goes is counted out without underflow. -/
theorem Inv.leave_senders {s : ChannelState T} (h : Inv s) {tx : TxId} (htx : tx ∈ s.live) :
    (s.leave ws tx).data.nrSenders = (s.leave ws tx).live.length := by
  have hpos : 0 < s.live.length := List.length_pos_iff.mpr (List.ne_nil_of_mem htx)
  have hs := h.senders
  simp only [ChannelState.leave, List.length_erase_of_mem htx]
  rw [WordSize.uintSub_of_le ws (by omega), hs]

/-- With `epoll_fd` naming the open eventfd, a write adds 1 to it. -/
theorem write_eq {s : ChannelState T} {e : EventFd} (he : s.eventfd = some e)
    (hfd : s.data.epollFd = e.fd) :
    s.write =
      { s with
        data := { s.data with receiverNotified := true }
        eventfd := some { e with counter := e.counter + 1 } } := by
  simp [ChannelState.write, Kernel.write, he, hfd]

theorem closeEventfd_eq {s : ChannelState T} {e : EventFd} (he : s.eventfd = some e)
    (hfd : s.data.epollFd = e.fd) :
    s.closeEventfd = { s with data := { s.data with epollFd := -1 }, eventfd := none } := by
  simp [ChannelState.closeEventfd, Kernel.close, he, hfd]

theorem signal_ne_waiting (t : Task) (b : BlockedIn) : t.signal ≠ .waiting b := by
  cases t <;> simp [Task.signal]

theorem signal_ne_callback {t : Task} (h : t ≠ .callback) : t.signal ≠ .callback := by
  cases t with
  | callback => exact absurd rfl h
  | _ => simp [Task.signal]

/-! ## The invariant is kept -/

/-- A message that nobody is told about. -/
theorem push_inv {s : ChannelState T} {tx : TxId} {t : T} (hi : Inv s) (htx : tx ∈ s.live)
    (ha : s.data.portAlive = true)
    (hq : s.data.queue ≠ [] ∨ s.data.receiverNotified = true) : Inv (s.push t) := by
  have hlive : s.live ≠ [] := List.ne_nil_of_mem htx
  have hdrop : s.port ≠ .dropped := fun hd => by simp [hi.alive.mpr hd] at ha
  refine ⟨hi.senders, hi.stray, hi.fd, hi.alive, fun hd => absurd hd hdrop, ?_⟩
  cases hi.mode with
  | blocking hport he hb =>
    refine .blocking hport he ⟨hb.task, fun _ => .inl (by simp [ChannelState.push]), ?_⟩
    intro b hw
    obtain ⟨hempty, -⟩ := hb.waiting b hw
    rcases hb.notice (hq.resolve_left (by simp [hempty])) with h | h
    · exact absurd hempty h
    · exact absurd h hlive
  | attached hport he h =>
    refine .attached hport he ⟨h.counter, h.task, h.read, fun _ => ?_⟩
    obtain ⟨hcredit, hflag, hfresh⟩ := h.sender hlive
    exact ⟨by simp only [ChannelState.push, List.length_append]; omega, hflag, hfresh⟩
  | dead hport he h => exact absurd h.live hlive
  | gone hport he htask => exact .gone hport he htask

/-- A message on an empty queue, with the receiver told through the
condition. -/
theorem pushSignal_inv {s : ChannelState T} {tx : TxId} {t : T} (hi : Inv s)
    (htx : tx ∈ s.live) (ha : s.data.portAlive = true) (hfd : s.data.epollFd = -1) :
    Inv (s.push t).signal := by
  have hlive : s.live ≠ [] := List.ne_nil_of_mem htx
  have hdrop : s.port ≠ .dropped := fun hd => by simp [hi.alive.mpr hd] at ha
  have hnone : s.eventfd = none := hi.eventfd_none.mp hfd
  refine ⟨hi.senders, hi.stray, hi.fd, hi.alive, fun hd => absurd hd hdrop, ?_⟩
  cases hi.mode with
  | blocking hport he hb =>
    refine .blocking hport he ⟨?_, fun _ => .inl (by simp [ChannelState.push,
      ChannelState.signal]), fun b hw => ?_⟩
    · exact signal_ne_callback hb.task
    · exact absurd hw (signal_ne_waiting _ _)
  | attached hport he h => simp [hnone] at he
  | dead hport he h => exact absurd h.live hlive
  | gone hport he htask => exact .gone hport he (by simp [ChannelState.signal,
      ChannelState.push, htask, Task.signal])

/-- A message on an empty queue, with the receiver told through the
eventfd. -/
theorem pushWrite_inv {s : ChannelState T} {tx : TxId} {t : T} (hi : Inv s)
    (htx : tx ∈ s.live) (ha : s.data.portAlive = true) (hq : s.data.queue = [])
    (hn : s.data.receiverNotified = false) (hfd : s.data.epollFd ≠ -1) :
    Inv (s.push t).write := by
  have hlive : s.live ≠ [] := List.ne_nil_of_mem htx
  have hdrop : s.port ≠ .dropped := fun hd => by simp [hi.alive.mpr hd] at ha
  have hsome : s.eventfd ≠ none := fun h => hfd (hi.eventfd_none.mpr h)
  cases hi.mode with
  | blocking _ he _ => exact absurd he hsome
  | dead _ he _ => exact absurd he hsome
  | gone _ he _ => exact absurd he hsome
  | @attached r e hport he h =>
    have hef := hi.fd.of_some he
    obtain ⟨hcredit, hflag, -⟩ := h.sender hlive
    have hdown : ¬ (e.counter = 1 ∨ s.task = .callback) := by simp [← hflag, hn]
    have hc := h.counter
    have hzero : e.counter = 0 := by omega
    rw [hq] at hcredit
    rw [write_eq (s := s.push t) he hef.1]
    refine ⟨hi.senders, hi.stray, hef, hi.alive, fun hd => absurd hd hdrop,
      .attached hport rfl ⟨?_, h.task, fun hcb => absurd (.inr hcb) hdown, fun _ => ?_⟩⟩
    · simp [hzero]
    · exact ⟨Nat.le_trans hcredit (Nat.zero_le _), by simp [hzero],
        fun _ => by simpa using hcredit⟩

/-- A Transmitter goes, and either it is not the last one or the receiver
has been told already. -/
theorem leave_inv {s : ChannelState T} {tx : TxId} (hi : Inv s) (htx : tx ∈ s.live)
    (hq : (s.leave ws tx).data.nrSenders ≠ 0 ∨ s.data.receiverNotified = true) :
    Inv (s.leave ws tx) := by
  have hlive : s.live ≠ [] := List.ne_nil_of_mem htx
  refine ⟨hi.leave_senders htx, hi.stray, hi.fd, hi.alive, hi.empty, ?_⟩
  cases hi.mode with
  | blocking hport he hb =>
    have hqueue : s.data.receiverNotified = true → s.data.queue ≠ [] :=
      fun hn => (hb.notice hn).resolve_right hlive
    refine .blocking hport he ⟨hb.task, fun hn => .inl (hqueue hn), fun b hw => ?_⟩
    obtain ⟨hempty, -⟩ := hb.waiting b hw
    refine ⟨hempty, fun hnil => ?_⟩
    have hzero : (s.leave ws tx).data.nrSenders = 0 := by
      rw [hi.leave_senders htx, hnil, List.length_nil]
    exact hqueue (hq.resolve_left (not_not_intro hzero)) hempty
  | attached hport he h =>
    obtain ⟨hcredit, hflag, hfresh⟩ := h.sender hlive
    exact .attached hport he ⟨h.counter, h.task, h.read, fun _ => ⟨hcredit, hflag, hfresh⟩⟩
  | dead hport he h => exact absurd h.live hlive
  | gone hport he htask => exact .gone hport he htask

theorem leaveSignal_inv {s : ChannelState T} {tx : TxId} (hi : Inv s) (htx : tx ∈ s.live)
    (hz : (s.leave ws tx).data.nrSenders = 0) (hfd : s.data.epollFd = -1) :
    Inv (s.leave ws tx).signal := by
  have hlive : s.live ≠ [] := List.ne_nil_of_mem htx
  have hnone : s.eventfd = none := hi.eventfd_none.mp hfd
  have hnil : (s.leave ws tx).live = [] := by
    rw [hi.leave_senders htx] at hz
    exact List.length_eq_zero_iff.mp hz
  refine ⟨hi.leave_senders htx, hi.stray, hi.fd, hi.alive, hi.empty, ?_⟩
  cases hi.mode with
  | blocking hport he hb =>
    exact .blocking hport he ⟨signal_ne_callback hb.task, fun _ => .inr hnil,
      fun b hw => absurd hw (signal_ne_waiting _ _)⟩
  | attached _ he _ => simp [hnone] at he
  | dead _ _ h => exact absurd h.live hlive
  | gone hport he htask =>
    exact .gone hport he (by simp [ChannelState.signal, ChannelState.leave, htask,
      Task.signal])

theorem leaveWrite_inv {s : ChannelState T} {tx : TxId} (hi : Inv s) (htx : tx ∈ s.live)
    (hz : (s.leave ws tx).data.nrSenders = 0) (hn : s.data.receiverNotified = false)
    (hfd : s.data.epollFd ≠ -1) : Inv (s.leave ws tx).write := by
  have hlive : s.live ≠ [] := List.ne_nil_of_mem htx
  have hsome : s.eventfd ≠ none := fun h => hfd (hi.eventfd_none.mpr h)
  have hnil : (s.leave ws tx).live = [] := by
    rw [hi.leave_senders htx] at hz
    exact List.length_eq_zero_iff.mp hz
  cases hi.mode with
  | blocking _ he _ => exact absurd he hsome
  | dead _ he _ => exact absurd he hsome
  | gone _ he _ => exact absurd he hsome
  | @attached r e hport he h =>
    have hef := hi.fd.of_some he
    obtain ⟨-, hflag, -⟩ := h.sender hlive
    have hdown : ¬ (e.counter = 1 ∨ s.task = .callback) := by simp [← hflag, hn]
    have hc := h.counter
    rw [write_eq (s := s.leave ws tx) he hef.1]
    exact ⟨hi.leave_senders htx, hi.stray, hef, hi.alive, hi.empty,
      .attached hport rfl ⟨by simp only; omega, h.task,
        fun hcb => absurd (.inr hcb) hdown, fun hne => absurd hnil hne⟩⟩

theorem clone_inv {s : ChannelState T} {tx new : TxId} (hi : Inv s) (htx : tx ∈ s.live) :
    Inv { s with
      data := { s.data with nrSenders := s.data.nrSenders + 1 }
      live := new :: s.live } := by
  have hlive : s.live ≠ [] := List.ne_nil_of_mem htx
  refine ⟨by simp [hi.senders], hi.stray, hi.fd, hi.alive, hi.empty, ?_⟩
  cases hi.mode with
  | blocking hport he hb =>
    exact .blocking hport he ⟨hb.task,
      fun hn => .inl ((hb.notice hn).resolve_right hlive),
      fun b hw => ⟨(hb.waiting b hw).1, by simp⟩⟩
  | attached hport he h =>
    obtain ⟨hcredit, hflag, hfresh⟩ := h.sender hlive
    exact .attached hport he ⟨h.counter, h.task, h.read, fun _ => ⟨hcredit, hflag, hfresh⟩⟩
  | dead hport he h => exact absurd h.live hlive
  | gone hport he htask => exact .gone hport he htask

/-! ### Receive calls -/

/-- Where a turn of a receive loop can be taken. -/
theorem turnOf_some {s : ChannelState T} {a : Act T} {b : BlockedIn}
    (h : turnOf s a = some b) :
    (s.port = .blocking ∧ b ≠ .receiverRecv) ∨
      ∃ r, s.port = .attached r ∧ b = .receiverRecv ∧
        ((s.task = .running ∧ 0 < r.availableMessages) ∨ s.task = .woken .receiverRecv) := by
  cases a with
  | recv =>
    simp only [turnOf, Option.ite_none_right_eq_some, Option.some.injEq] at h
    exact .inl ⟨h.1.1, by simp [← h.2]⟩
  | recvOpt =>
    simp only [turnOf, Option.ite_none_right_eq_some, Option.some.injEq] at h
    exact .inl ⟨h.1.1, by simp [← h.2]⟩
  | receiverRecv =>
    simp only [turnOf] at h
    split at h
    · rename_i r htask hport
      simp only [Option.ite_none_right_eq_some, Option.some.injEq] at h
      exact .inr ⟨r, hport, h.2.symm, .inl ⟨htask, h.1⟩⟩
    · cases h
  | reacquire =>
    simp only [turnOf] at h
    split at h
    · rename_i hport
      cases h
      exact .inl ⟨hport, by simp⟩
    · rename_i hport
      cases h
      exact .inl ⟨hport, by simp⟩
    · rename_i r htask hport
      cases h
      exact .inr ⟨r, hport, rfl, .inr htask⟩
    · cases h
  | _ => simp [turnOf] at h

/-- Turns are taken in receive calls. -/
theorem turnOf_receives {s : ChannelState T} {a : Act T} {b : BlockedIn}
    (h : turnOf s a = some b) :
    a = .recv ∨ a = .recvOpt ∨ a = .receiverRecv ∨ a = .reacquire := by
  cases a <;> simp [turnOf] at h ⊢

theorem turnOf_not_dropped {s : ChannelState T} {a : Act T} {b : BlockedIn}
    (h : turnOf s a = some b) : s.port ≠ .dropped := by
  rcases turnOf_some h with ⟨hport, -⟩ | ⟨r, hport, -⟩ <;> simp [hport]

/-- A task that takes a turn of `Receiver::recv` has credit, its eventfd is
open, and it is not inside a wait. -/
theorem Inv.receiverTurn {s : ChannelState T} {r : Receiver} (hi : Inv s)
    (hport : s.port = .attached r)
    (ht : (s.task = .running ∧ 0 < r.availableMessages) ∨ s.task = .woken .receiverRecv) :
    ∃ e, s.eventfd = some e ∧ EventfdInv s r e ∧ s.task = .running ∧
      0 < r.availableMessages := by
  cases hi.mode with
  | blocking hp _ _ => simp [hp] at hport
  | gone hp _ _ => simp [hport] at hp
  | dead hp he h =>
    cases hport.symm.trans hp
    rcases ht with ⟨-, hpos⟩ | hw
    · simp [h.credit] at hpos
    · simp [h.task] at hw
  | attached hp he h =>
    cases hport.symm.trans hp
    rcases ht with ⟨hrun, hpos⟩ | hw
    · exact ⟨_, he, h, hrun, hpos⟩
    · rcases h.task with h' | h' <;> simp [h'] at hw

/-- With a Receiver, `recv` never waits: while a Transmitter is alive there
is a message for every credit. -/
theorem Inv.no_receiver_wait {s : ChannelState T} {r : Receiver} (hi : Inv s)
    (hport : s.port = .attached r)
    (ht : (s.task = .running ∧ 0 < r.availableMessages) ∨ s.task = .woken .receiverRecv)
    (hlive : s.live ≠ []) : s.data.queue ≠ [] := by
  obtain ⟨e, -, h, -, hpos⟩ := hi.receiverTurn hport ht
  have hcredit := (h.sender hlive).credit
  intro hq
  rw [hq, List.length_nil] at hcredit
  omega

theorem turnWait_inv {s : ChannelState T} {a : Act T} {b : BlockedIn} (hi : Inv s)
    (ha : turnOf s a = some b) (hq : s.data.queue = []) (hs : s.data.nrSenders ≠ 0) :
    Inv { s with task := .waiting b } := by
  have hlive : s.live ≠ [] := fun h => hs (hi.nrSenders_eq_zero.mpr h)
  refine ⟨hi.senders, hi.stray, hi.fd, hi.alive, hi.empty, ?_⟩
  rcases turnOf_some ha with ⟨hport, -⟩ | ⟨r, hport, -, ht⟩
  · cases hi.mode with
    | blocking _ he hb => exact .blocking hport he ⟨by simp, hb.notice, fun _ _ => ⟨hq, hlive⟩⟩
    | attached hp _ _ => simp [hport] at hp
    | dead hp _ _ => simp [hport] at hp
    | gone hp _ _ => simp [hport] at hp
  · exact absurd hq (hi.no_receiver_wait hport ht hlive)

theorem turnData_inv {s : ChannelState T} {a : Act T} {b : BlockedIn} {t : T}
    {rest : List T} (hi : Inv s) (ha : turnOf s a = some b) (hq : s.data.queue = t :: rest) :
    Inv { s.take rest with task := .running, port := s.port.afterData b } := by
  have hdrop : s.port ≠ .dropped := fun hd => by simp [hi.empty hd] at hq
  have halive : s.data.portAlive ≠ false := fun h => hdrop (hi.alive.mp h)
  rcases turnOf_some ha with ⟨hport, hb⟩ | ⟨r, hport, rfl, ht⟩
  · rw [afterData_of_ne s.port hb]
    refine ⟨hi.senders, hi.stray, hi.fd, hi.alive, fun hd => absurd hd hdrop, ?_⟩
    cases hi.mode with
    | blocking _ he _ =>
      exact .blocking hport he ⟨by simp, by simp [ChannelState.take], by simp⟩
    | attached hp _ _ => simp [hport] at hp
    | dead hp _ _ => simp [hport] at hp
    | gone hp _ _ => simp [hport] at hp
  · obtain ⟨e, he, h, htask, hpos⟩ := hi.receiverTurn hport ht
    rw [hport]
    refine ⟨hi.senders, hi.stray, hi.fd, by simp [Port.afterData, ChannelState.take, halive],
      by simp [Port.afterData], .attached rfl he ⟨h.counter, .inl rfl, by simp, fun hl => ?_⟩⟩
    obtain ⟨hcredit, hflag, hfresh⟩ := h.sender hl
    have hdown : s.data.receiverNotified ≠ true := fun hn => by
      have := hfresh hn
      omega
    have hzero : e.counter ≠ 1 := fun hc => hdown (hflag.mpr (.inl hc))
    rw [hq, List.length_cons] at hcredit
    exact ⟨by simp only [ChannelState.take]; omega, by simp [ChannelState.take, hzero],
      by simp [ChannelState.take]⟩

/-- A receive call of a BlockingReceiver that leaves the queue to `rest`. -/
theorem take_inv {s : ChannelState T} {rest : List T} (hi : Inv s)
    (hport : s.port = .blocking) : Inv { s.take rest with task := .running } := by
  refine ⟨hi.senders, hi.stray, hi.fd, hi.alive, by simp [ChannelState.take, hport], ?_⟩
  cases hi.mode with
  | blocking _ he _ => exact .blocking hport he ⟨by simp, by simp [ChannelState.take], by simp⟩
  | attached hp _ _ => simp [hport] at hp
  | dead hp _ _ => simp [hport] at hp
  | gone hp _ _ => simp [hport] at hp

theorem turnFail_inv {s : ChannelState T} {a : Act T} {b : BlockedIn} (hi : Inv s)
    (ha : turnOf s a = some b) : Inv { s with task := .running } := by
  rcases turnOf_some ha with ⟨hport, -⟩ | ⟨r, hport, -, ht⟩
  · refine ⟨hi.senders, hi.stray, hi.fd, hi.alive, hi.empty, ?_⟩
    cases hi.mode with
    | blocking _ he hb => exact .blocking hport he ⟨by simp, hb.notice, by simp⟩
    | attached hp _ _ => simp [hport] at hp
    | dead hp _ _ => simp [hport] at hp
    | gone hp _ _ => simp [hport] at hp
  · obtain ⟨e, -, -, htask, -⟩ := hi.receiverTurn hport ht
    have := awake_eq htask
    rw [ChannelState.awake] at this
    rwa [this]

/-! ### Attaching and detaching a Receiver -/

theorem Inv.blocking {s : ChannelState T} (hi : Inv s) (hport : s.port = .blocking) :
    s.eventfd = none ∧ BlockingInv s := by
  cases hi.mode with
  | blocking _ he hb => exact ⟨he, hb⟩
  | attached hp _ _ => simp [hport] at hp
  | dead hp _ _ => simp [hport] at hp
  | gone hp _ _ => simp [hport] at hp

theorem Inv.not_dropped {s : ChannelState T} (hi : Inv s) (h : s.port ≠ .dropped) :
    s.data.portAlive = true := by
  rw [← Bool.not_eq_false]
  exact fun ha => h (hi.alive.mp ha)

theorem attachDead_inv {s : ChannelState T} {q : EventQueueImpl} (this : Ptr)
    (info : SourceId) (hi : Inv s) (hport : s.port = .blocking) (htask : s.task = .running)
    (hs : s.data.nrSenders = 0) : Inv { s.attach this info with events := q } := by
  have ha := hi.not_dropped (by simp [hport])
  exact ⟨hi.senders, hi.stray, hi.fd, by simp [ChannelState.attach, ha],
    by simp [ChannelState.attach],
    .dead rfl (hi.blocking hport).1 ⟨hi.nrSenders_eq_zero.mp hs, htask, rfl⟩⟩

/-- A new eventfd, and the notice that stands for the messages already
queued: they have to be told to a Receiver in another way. -/
theorem attachEmpty_inv {s : ChannelState T} {fd : Fd} (this : Ptr) (info : SourceId)
    (hi : Inv s) (hport : s.port = .blocking) (htask : s.task = .running) (hfd : 0 ≤ fd)
    (hs : s.data.nrSenders ≠ 0) (hq : s.data.queue = []) :
    Inv ((s.attach this info).openEventfd fd) := by
  have ha := hi.not_dropped (by simp [hport])
  have hlive : s.live ≠ [] := fun h => hs (hi.nrSenders_eq_zero.mpr h)
  have hn : s.data.receiverNotified ≠ true := fun hn =>
    ((hi.blocking hport).2.notice hn).elim (· hq) hlive
  refine ⟨hi.senders, hi.stray, ⟨rfl, hfd⟩,
    by simp [ChannelState.attach, ChannelState.openEventfd, ha],
    by simp [ChannelState.attach, ChannelState.openEventfd],
    .attached rfl rfl ⟨by simp, .inl htask, fun _ => rfl, fun _ => ⟨Nat.zero_le _, ?_,
      fun _ => rfl⟩⟩⟩
  simp [ChannelState.attach, ChannelState.openEventfd, hn, htask]

theorem attachWrite_inv {s : ChannelState T} {fd : Fd} (this : Ptr) (info : SourceId)
    (hi : Inv s) (hport : s.port = .blocking) (htask : s.task = .running) (hfd : 0 ≤ fd) :
    Inv ((s.attach this info).openEventfd fd).write := by
  have ha := hi.not_dropped (by simp [hport])
  rw [write_openEventfd]
  exact ⟨hi.senders, hi.stray, ⟨rfl, hfd⟩, by simp [ChannelState.attach, ha],
    by simp [ChannelState.attach],
    .attached rfl rfl ⟨by simp, .inl htask, by simp [ChannelState.attach, htask],
      fun _ => ⟨Nat.zero_le _, by simp, fun _ => rfl⟩⟩⟩

theorem dropReceiver_inv {s : ChannelState T} {r : Receiver} {q : EventQueueImpl}
    (hi : Inv s) (hport : s.port = .attached r) (htask : s.task = .running)
    (hfd : s.data.epollFd = -1) : Inv { s with port := .detached, events := q } := by
  have ha := hi.not_dropped (by simp [hport])
  exact ⟨hi.senders, hi.stray, hi.fd, by simp [ha], by simp,
    .gone (.inl rfl) (hi.eventfd_none.mp hfd) htask⟩

theorem dropReceiverClose_inv {s : ChannelState T} {r : Receiver} {q : EventQueueImpl}
    (hi : Inv s) (hport : s.port = .attached r) (htask : s.task = .running)
    (hfd : s.data.epollFd ≠ -1) :
    Inv { s.closeEventfd with port := .detached, events := q } := by
  have ha := hi.not_dropped (by simp [hport])
  cases he : s.eventfd with
  | none => exact absurd (hi.eventfd_none.mpr he) hfd
  | some e =>
    rw [closeEventfd_eq he (hi.fd.of_some he).1]
    exact ⟨hi.senders, hi.stray, rfl, by simp [ha], by simp, .gone (.inl rfl) rfl htask⟩

theorem dropBlockingReceiver_inv {s : ChannelState T} (hi : Inv s)
    (hport : s.port = .blocking ∨ s.port = .detached) (htask : s.task = .running) :
    Inv (T := T) { s with
      data := { s.data with portAlive := false, queue := [] }
      port := .dropped } := by
  have hnone : s.eventfd = none := by
    cases hi.mode with
    | blocking _ he _ => exact he
    | attached hp _ _ => simp [hp] at hport
    | dead _ he _ => exact he
    | gone _ he _ => exact he
  exact ⟨hi.senders, hi.stray, hi.fd, by simp, by simp, .gone (.inr rfl) hnone htask⟩

/-! ### The callback -/

/-- A Receiver whose eventfd is open. -/
theorem Inv.attached {s : ChannelState T} {r : Receiver} {e : EventFd} (hi : Inv s)
    (hport : s.port = .attached r) (he : s.eventfd = some e) : EventfdInv s r e := by
  cases hi.mode with
  | blocking hp _ _ => simp [hp] at hport
  | gone hp _ _ => simp [hport] at hp
  | dead _ hn _ => simp [he] at hn
  | attached hp he' h =>
    cases hport.symm.trans hp
    cases he.symm.trans he'
    exact h

/-- The callback runs only where there is an eventfd to read. -/
theorem Inv.callback {s : ChannelState T} (hi : Inv s) (htask : s.task = .callback) :
    ∃ r e, s.port = .attached r ∧ s.eventfd = some e ∧ EventfdInv s r e := by
  cases hi.mode with
  | blocking _ _ hb => exact absurd htask hb.task
  | gone _ _ ht => simp [ht] at htask
  | dead _ _ h => simp [h.task] at htask
  | attached hp he h => exact ⟨_, _, hp, he, h⟩

theorem callbackRead_inv {s : ChannelState T} {r : Receiver} {e : EventFd} (hi : Inv s)
    (hport : s.port = .attached r) (he : s.eventfd = some e) (hpos : 1 ≤ e.counter) :
    Inv { s with
      eventfd := some { e with counter := 0 }
      task := if e.counter = 1 then .callback else .running } := by
  have h := hi.attached hport he
  have hone : e.counter = 1 := Nat.le_antisymm h.counter hpos
  rw [if_pos hone]
  have hef : s.data.epollFd = e.fd ∧ 0 ≤ e.fd := hi.fd.of_some he
  refine ⟨hi.senders, hi.stray, hef, hi.alive, hi.empty,
    .attached hport rfl ⟨Nat.zero_le _, .inr rfl, fun _ => rfl, fun hl => ?_⟩⟩
  obtain ⟨hcredit, hflag, hfresh⟩ := h.sender hl
  exact ⟨hcredit, by simp [hflag.mpr (.inl hone)], hfresh⟩

theorem callbackLock_inv {s : ChannelState T} {r : Receiver} {q : EventQueueImpl}
    (hi : Inv s) (hport : s.port = .attached r) (htask : s.task = .callback) :
    Inv { s with
      data := { s.data with receiverNotified := false }
      port := .attached (s.credit r)
      task := .running
      events := q } := by
  have ha := hi.not_dropped (by simp [hport])
  obtain ⟨r', e, hp, he, h⟩ := hi.callback htask
  cases hport.symm.trans hp
  refine ⟨hi.senders, hi.stray, hi.fd, by simp [ha], by simp,
    .attached rfl he ⟨h.counter, .inl rfl, by simp, fun hl => ?_⟩⟩
  obtain ⟨-, hflag, hfresh⟩ := h.sender hl
  have hzero : r.availableMessages = 0 := hfresh (hflag.mpr (.inr htask))
  have hread := h.read htask
  exact ⟨by simp [ChannelState.credit, hzero], by simp [hread], by simp⟩

theorem spuriousWakeup_inv {s : ChannelState T} {b : BlockedIn} (hi : Inv s)
    (htask : s.task = .waiting b) : Inv { s with task := .woken b } := by
  refine ⟨hi.senders, hi.stray, hi.fd, hi.alive, hi.empty, ?_⟩
  cases hi.mode with
  | blocking hport he hb => exact .blocking hport he ⟨by simp, hb.notice, by simp⟩
  | attached _ _ h => rcases h.task with h' | h' <;> simp [htask] at h'
  | dead _ _ h => exact absurd (htask.symm.trans h.task) (by simp)
  | gone _ _ h => simp [htask] at h

theorem events_inv {s : ChannelState T} {q : EventQueueImpl} (hi : Inv s) :
    Inv { s with events := q } := by
  refine ⟨hi.senders, hi.stray, hi.fd, hi.alive, hi.empty, ?_⟩
  cases hi.mode with
  | blocking hport he hb => exact .blocking hport he ⟨hb.task, hb.notice, hb.waiting⟩
  | attached hport he h =>
    exact .attached hport he ⟨h.counter, h.task, h.read, fun hl =>
      have hs := h.sender hl
      ⟨hs.credit, hs.flag, hs.fresh⟩⟩
  | dead hport he h => exact .dead hport he ⟨h.live, h.task, h.credit⟩
  | gone hport he ht => exact .gone hport he ht

/-! ## Steps and runs -/

theorem Effect.inv {s s' : ChannelState T} {l : Label T} (hi : Inv s)
    (h : Effect ws s l s') : Inv s' := by
  cases h with
  | sendDead => exact hi
  | sendQuiet htx ha hq => exact push_inv hi htx ha hq
  | sendSignal htx ha _ _ hfd => exact pushSignal_inv hi htx ha hfd
  | sendWrite htx ha hq hn hfd => exact pushWrite_inv hi htx ha hq hn hfd
  | clone htx => exact clone_inv hi htx
  | dropQuiet htx hq => exact leave_inv hi htx hq
  | dropSignal htx hz _ hfd => exact leaveSignal_inv hi htx hz hfd
  | dropWrite htx hz hn hfd => exact leaveWrite_inv hi htx hz hn hfd
  | turnWait ha hq hs => exact turnWait_inv hi ha hq hs
  | turnData ha hq => exact turnData_inv hi ha hq
  | turnEnd ha =>
    rcases turnOf_some ha with ⟨hport, -⟩ | ⟨_, _, hb, _⟩
    · exact take_inv hi hport
    · cases hb
  | turnFail ha => exact turnFail_inv hi ha
  | tryRecvData hport htask =>
    rw [← awake_eq (s := s.take _) htask]
    exact take_inv hi hport
  | tryRecvEmpty hport htask =>
    rw [← awake_eq (s := s.take _) htask]
    exact take_inv hi hport
  | tryRecvEnd hport htask =>
    rw [← awake_eq (s := s.take _) htask]
    exact take_inv hi hport
  | noCredit => exact hi
  | spuriousWakeup htask => exact spuriousWakeup_inv hi htask
  | attachDead hport htask hs => exact attachDead_inv _ _ hi hport htask hs
  | attachEmpty hport htask hfd hs hq => exact attachEmpty_inv _ _ hi hport htask hfd hs hq
  | attachWrite hport htask hfd => exact attachWrite_inv _ _ hi hport htask hfd
  | dropReceiver hport htask hfd => exact dropReceiver_inv hi hport htask hfd
  | dropReceiverClose hport htask hfd => exact dropReceiverClose_inv hi hport htask hfd
  | dropBlockingReceiver hport htask => exact dropBlockingReceiver_inv hi hport htask
  | callbackRead hport _ he hpos => exact callbackRead_inv hi hport he hpos
  | callbackStray _ _ he _ hne => exact absurd (hi.fd.of_some he).1.symm hne
  | callbackLock hport htask => exact callbackLock_inv hi hport htask
  | otherEvents => exact events_inv hi

theorem step_inv {s s' : ChannelState T} {l : Label T} (hi : Inv s) (h : Step ws s l s') :
    Inv s' :=
  (step_effect h).inv hi

theorem run_inv {events : EventQueueImpl} {tr : List (Label T)} {s : ChannelState T}
    (h : RunFrom ws events tr s) : Inv s :=
  h.invariant (initial_inv events) fun _ _ _ => step_inv

end Revbio.Channel
