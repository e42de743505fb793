/-
Revbio.Channel.SystemTheorems — what one step of the channel can do.

`Effect` lists the behaviours of the critical sections as guarded
commands on the state, one constructor for each way through a section,
and `step_effect` says that `step`, which runs the code, does nothing
else. Every invariant of the channel is proved by cases on `Effect`; none
of them looks at the code again.

Sections follow the source: Transmitter, the receive calls, attaching and
detaching a Receiver, the callback.
-/
import Revbio.Channel.System

namespace Revbio.Channel

open CallTree

variable {T : Type} {ws : WordSize}

/-! ## State changes -/

namespace ChannelState

/-- Append a message. -/
def push (s : ChannelState T) (t : T) : ChannelState T :=
  { s with data := { s.data with queue := s.data.queue ++ [t] } }

/-- One Transmitter fewer. -/
def leave (ws : WordSize) (s : ChannelState T) (tx : TxId) : ChannelState T :=
  { s with
    data := { s.data with nrSenders := ws.uintSub s.data.nrSenders 1 }
    live := s.live.erase tx }

/-- Wake a receiver that waits on the condition. -/
def signal (s : ChannelState T) : ChannelState T :=
  { s with data := { s.data with receiverNotified := true }, task := s.task.signal }

/-- Write to the descriptor in `epoll_fd`. -/
def write (s : ChannelState T) : ChannelState T :=
  let k := Kernel.write ⟨s.eventfd, -1, false, s.stray⟩ s.data.epollFd
  { s with
    data := { s.data with receiverNotified := true }
    eventfd := k.eventfd
    stray := k.stray }

/-- A message taken by a receive call that goes on with queue `rest`. -/
def take (s : ChannelState T) (rest : List T) : ChannelState T :=
  { s with data := { s.data with queue := rest, receiverNotified := false } }

/-- The Receiver for a blocking one, no eventfd made for it yet. -/
def attach (s : ChannelState T) (this : Ptr) (info : SourceId) : ChannelState T :=
  { s with port := .attached ⟨this, info, 0⟩ }

/-- The eventfd made for a new Receiver. -/
def openEventfd (s : ChannelState T) (fd : Fd) : ChannelState T :=
  { s with data := { s.data with epollFd := fd }, eventfd := some ⟨fd, 0⟩ }

/-- The credit the callback books: all of the queue. -/
def credit (s : ChannelState T) (r : Receiver) : Receiver :=
  { r with availableMessages := r.availableMessages + s.data.queue.length }

/-- The events the callback pushes. -/
def announced (ws : WordSize) (s : ChannelState T) (r : Receiver) : List EventKind :=
  List.replicate (ws.uintSub s.data.queue.length r.availableMessages) .channelMessageEvent ++
    if s.data.nrSenders = 0 then [.channelClosedEvent] else []

/-- With no credit left, every message is announced. -/
theorem announced_of_noCredit (ws : WordSize) (s : ChannelState T) {r : Receiver}
    (hr : r.availableMessages = 0) :
    s.announced ws r = List.replicate s.data.queue.length .channelMessageEvent ++
      if s.data.nrSenders = 0 then [.channelClosedEvent] else [] := by
  rw [announced, hr, WordSize.uintSub_of_le ws (Nat.zero_le _), Nat.sub_zero]

/-- The eventfd closed, where there is one. -/
def closeEventfd (s : ChannelState T) : ChannelState T :=
  let k := Kernel.close ⟨s.eventfd, -1, false, s.stray⟩ s.data.epollFd
  { s with data := { s.data with epollFd := -1 }, eventfd := k.eventfd, stray := k.stray }

end ChannelState

/-- The receive loop that action `a` starts or goes on with. -/
def turnOf (s : ChannelState T) : Act T → Option BlockedIn
  | .recv => if s.port = .blocking ∧ s.task = .running then some .recv else none
  | .recvOpt => if s.port = .blocking ∧ s.task = .running then some .recvOpt else none
  | .receiverRecv =>
      match s.task, s.port with
      | .running, .attached r => if r.availableMessages > 0 then some .receiverRecv else none
      | _, _ => none
  | .reacquire =>
      match s.task, s.port with
      | .woken .recv, .blocking => some .recv
      | .woken .recvOpt, .blocking => some .recvOpt
      | .woken .receiverRecv, .attached _ => some .receiverRecv
      | _, _ => none
  | _ => none

/-- `Receiver::recv` counts the message it returns. -/
def Port.afterData : BlockedIn → Port → Port
  | .receiverRecv, .attached r =>
      .attached { r with availableMessages := r.availableMessages - 1 }
  | _, p => p

/-! Which of queue, Transmitters, port and task a change touches. -/

@[simp] theorem push_queue (s : ChannelState T) (t : T) :
    (s.push t).data.queue = s.data.queue ++ [t] := rfl
@[simp] theorem push_live (s : ChannelState T) (t : T) : (s.push t).live = s.live := rfl
@[simp] theorem push_port (s : ChannelState T) (t : T) : (s.push t).port = s.port := rfl
@[simp] theorem push_task (s : ChannelState T) (t : T) : (s.push t).task = s.task := rfl

@[simp] theorem leave_queue (s : ChannelState T) (tx : TxId) :
    (s.leave ws tx).data.queue = s.data.queue := rfl
@[simp] theorem leave_live (s : ChannelState T) (tx : TxId) :
    (s.leave ws tx).live = s.live.erase tx := rfl
@[simp] theorem leave_port (s : ChannelState T) (tx : TxId) : (s.leave ws tx).port = s.port := rfl
@[simp] theorem leave_task (s : ChannelState T) (tx : TxId) : (s.leave ws tx).task = s.task := rfl

@[simp] theorem signal_queue (s : ChannelState T) : (s.signal).data.queue = s.data.queue := rfl
@[simp] theorem signal_live (s : ChannelState T) : (s.signal).live = s.live := rfl
@[simp] theorem signal_port (s : ChannelState T) : (s.signal).port = s.port := rfl
@[simp] theorem signal_task (s : ChannelState T) : (s.signal).task = s.task.signal := rfl

@[simp] theorem write_queue (s : ChannelState T) : (s.write).data.queue = s.data.queue := rfl
@[simp] theorem write_live (s : ChannelState T) : (s.write).live = s.live := rfl
@[simp] theorem write_port (s : ChannelState T) : (s.write).port = s.port := rfl
@[simp] theorem write_task (s : ChannelState T) : (s.write).task = s.task := rfl

@[simp] theorem take_queue (s : ChannelState T) (rest : List T) :
    (s.take rest).data.queue = rest := rfl
@[simp] theorem take_live (s : ChannelState T) (rest : List T) : (s.take rest).live = s.live := rfl
@[simp] theorem take_port (s : ChannelState T) (rest : List T) : (s.take rest).port = s.port := rfl
@[simp] theorem take_task (s : ChannelState T) (rest : List T) : (s.take rest).task = s.task := rfl

@[simp] theorem attach_queue (s : ChannelState T) (this : Ptr) (info : SourceId) :
    (s.attach this info).data.queue = s.data.queue := rfl
@[simp] theorem attach_live (s : ChannelState T) (this : Ptr) (info : SourceId) :
    (s.attach this info).live = s.live := rfl
@[simp] theorem attach_port (s : ChannelState T) (this : Ptr) (info : SourceId) :
    (s.attach this info).port = .attached ⟨this, info, 0⟩ := rfl
@[simp] theorem attach_task (s : ChannelState T) (this : Ptr) (info : SourceId) :
    (s.attach this info).task = s.task := rfl

@[simp] theorem openEventfd_queue (s : ChannelState T) (fd : Fd) :
    (s.openEventfd fd).data.queue = s.data.queue := rfl
@[simp] theorem openEventfd_live (s : ChannelState T) (fd : Fd) :
    (s.openEventfd fd).live = s.live := rfl
@[simp] theorem openEventfd_port (s : ChannelState T) (fd : Fd) :
    (s.openEventfd fd).port = s.port := rfl
@[simp] theorem openEventfd_task (s : ChannelState T) (fd : Fd) :
    (s.openEventfd fd).task = s.task := rfl

@[simp] theorem closeEventfd_queue (s : ChannelState T) :
    (s.closeEventfd).data.queue = s.data.queue := rfl
@[simp] theorem closeEventfd_live (s : ChannelState T) : (s.closeEventfd).live = s.live := rfl
@[simp] theorem closeEventfd_port (s : ChannelState T) : (s.closeEventfd).port = s.port := rfl
@[simp] theorem closeEventfd_task (s : ChannelState T) : (s.closeEventfd).task = s.task := rfl
@[simp] theorem afterData_eq_dropped (b : BlockedIn) (p : Port) :
    p.afterData b = .dropped ↔ p = .dropped := by
  cases b <;> cases p <;> simp [Port.afterData]

/-! ## The behaviours -/

/-- The steps of the channel as guarded commands. -/
inductive Effect (ws : WordSize) :
    ChannelState T → Label T → ChannelState T → Prop where
  -- `Transmitter`
  | sendDead {s : ChannelState T} {tx : TxId} {t : T} :
      tx ∈ s.live → s.data.portAlive = false →
      Effect ws s ⟨.trySend tx t, .sent false⟩ s
  | sendQuiet {s : ChannelState T} {tx : TxId} {t : T} :
      tx ∈ s.live → s.data.portAlive = true →
      s.data.queue ≠ [] ∨ s.data.receiverNotified = true →
      Effect ws s ⟨.trySend tx t, .sent true⟩ (s.push t)
  | sendSignal {s : ChannelState T} {tx : TxId} {t : T} :
      tx ∈ s.live → s.data.portAlive = true → s.data.queue = [] →
      s.data.receiverNotified = false → s.data.epollFd = -1 →
      Effect ws s ⟨.trySend tx t, .sent true⟩ (s.push t).signal
  | sendWrite {s : ChannelState T} {tx : TxId} {t : T} :
      tx ∈ s.live → s.data.portAlive = true → s.data.queue = [] →
      s.data.receiverNotified = false → s.data.epollFd ≠ -1 →
      Effect ws s ⟨.trySend tx t, .sent true⟩ (s.push t).write
  | clone {s : ChannelState T} {tx new : TxId} :
      tx ∈ s.live → new ∉ s.live →
      Effect ws s ⟨.clone tx new, .done⟩
        { s with
          data := { s.data with nrSenders := s.data.nrSenders + 1 }
          live := new :: s.live }
  | dropQuiet {s : ChannelState T} {tx : TxId} :
      tx ∈ s.live →
      (s.leave ws tx).data.nrSenders ≠ 0 ∨ s.data.receiverNotified = true →
      Effect ws s ⟨.dropTransmitter tx, .done⟩ (s.leave ws tx)
  | dropSignal {s : ChannelState T} {tx : TxId} :
      tx ∈ s.live → (s.leave ws tx).data.nrSenders = 0 →
      s.data.receiverNotified = false → s.data.epollFd = -1 →
      Effect ws s ⟨.dropTransmitter tx, .done⟩ (s.leave ws tx).signal
  | dropWrite {s : ChannelState T} {tx : TxId} :
      tx ∈ s.live → (s.leave ws tx).data.nrSenders = 0 →
      s.data.receiverNotified = false → s.data.epollFd ≠ -1 →
      Effect ws s ⟨.dropTransmitter tx, .done⟩ (s.leave ws tx).write
  -- the receive calls
  | turnWait {s : ChannelState T} {a : Act T} {b : BlockedIn} :
      turnOf s a = some b → s.data.queue = [] → s.data.nrSenders ≠ 0 →
      Effect ws s ⟨a, .waits⟩ { s with task := .waiting b }
  | turnData {s : ChannelState T} {a : Act T} {b : BlockedIn} {t : T} {rest : List T} :
      turnOf s a = some b → s.data.queue = t :: rest →
      Effect ws s ⟨a, .data t⟩
        { s.take rest with task := .running, port := s.port.afterData b }
  | turnEnd {s : ChannelState T} {a : Act T} :
      turnOf s a = some .recvOpt → s.data.queue = [] → s.data.nrSenders = 0 →
      Effect ws s ⟨a, .ended⟩ { s.take [] with task := .running }
  | turnFail {s : ChannelState T} {a : Act T} {b : BlockedIn} :
      turnOf s a = some b → b ≠ .recvOpt → s.data.queue = [] → s.data.nrSenders = 0 →
      Effect ws s ⟨a, .failed "Remote channels are dead"⟩ { s with task := .running }
  | tryRecvData {s : ChannelState T} {t : T} {rest : List T} :
      s.port = .blocking → s.task = .running → s.data.queue = t :: rest →
      Effect ws s ⟨.tryRecv, .data t⟩ (s.take rest)
  | tryRecvEmpty {s : ChannelState T} :
      s.port = .blocking → s.task = .running → s.data.queue = [] → s.data.nrSenders ≠ 0 →
      Effect ws s ⟨.tryRecv, .empty⟩ (s.take [])
  | tryRecvEnd {s : ChannelState T} :
      s.port = .blocking → s.task = .running → s.data.queue = [] → s.data.nrSenders = 0 →
      Effect ws s ⟨.tryRecv, .ended⟩ (s.take [])
  | noCredit {s : ChannelState T} {r : Receiver} :
      s.port = .attached r → s.task = .running → r.availableMessages = 0 →
      Effect ws s ⟨.receiverRecv, .noCredit⟩ s
  | spuriousWakeup {s : ChannelState T} {b : BlockedIn} :
      s.task = .waiting b →
      Effect ws s ⟨.spuriousWakeup, .done⟩ { s with task := .woken b }
  -- attaching and detaching a Receiver
  | attachDead {s : ChannelState T} {this : Ptr} {info : SourceId} {fd : Fd} :
      s.port = .blocking → s.task = .running → s.data.nrSenders = 0 →
      Effect ws s ⟨.fromBlockingReceiver this info fd, .pushed [.channelClosedEvent]⟩
        { s.attach this info with events := s.events.pushAll info [.channelClosedEvent] }
  | attachEmpty {s : ChannelState T} {this : Ptr} {info : SourceId} {fd : Fd} :
      s.port = .blocking → s.task = .running → 0 ≤ fd → s.data.nrSenders ≠ 0 →
      s.data.queue = [] →
      Effect ws s ⟨.fromBlockingReceiver this info fd, .pushed []⟩
        ((s.attach this info).openEventfd fd)
  | attachWrite {s : ChannelState T} {this : Ptr} {info : SourceId} {fd : Fd} :
      s.port = .blocking → s.task = .running → 0 ≤ fd → s.data.nrSenders ≠ 0 →
      s.data.queue ≠ [] →
      Effect ws s ⟨.fromBlockingReceiver this info fd, .pushed []⟩
        ((s.attach this info).openEventfd fd).write
  | dropReceiver {s : ChannelState T} {r : Receiver} :
      s.port = .attached r → s.task = .running → s.data.epollFd = -1 →
      Effect ws s ⟨.dropReceiver, .done⟩
        { s with port := .detached, events := r.removePendingEvents s.events }
  | dropReceiverClose {s : ChannelState T} {r : Receiver} :
      s.port = .attached r → s.task = .running → s.data.epollFd ≠ -1 →
      Effect ws s ⟨.dropReceiver, .done⟩
        { s.closeEventfd with port := .detached, events := r.removePendingEvents s.events }
  | dropBlockingReceiver {s : ChannelState T} :
      s.port = .blocking ∨ s.port = .detached → s.task = .running →
      Effect ws s ⟨.dropBlockingReceiver, .done⟩
        { s with
          data := { s.data with portAlive := false, queue := [] }
          port := .dropped }
  -- the callback
  | callbackRead {s : ChannelState T} {r : Receiver} {e : EventFd} :
      s.port = .attached r → s.task = .running → s.eventfd = some e → 1 ≤ e.counter →
      e.fd = s.data.epollFd →
      Effect ws s ⟨.callbackRead, .done⟩
        { s with
          eventfd := some { e with counter := 0 }
          task := if e.counter = 1 then .callback else .running }
  | callbackStray {s : ChannelState T} {r : Receiver} {e : EventFd} :
      s.port = .attached r → s.task = .running → s.eventfd = some e → 1 ≤ e.counter →
      e.fd ≠ s.data.epollFd →
      Effect ws s ⟨.callbackRead, .done⟩ { s with stray := true }
  | callbackLock {s : ChannelState T} {r : Receiver} :
      s.port = .attached r → s.task = .callback →
      Effect ws s ⟨.callbackLock, .pushed (s.announced ws r)⟩
        { s with
          data := { s.data with receiverNotified := false }
          port := .attached (s.credit r)
          task := .running
          events := s.events.pushAll r.eventSourceInfo (s.announced ws r) }
  | otherEvents {s : ChannelState T} {evs : List Event} :
      Effect ws s ⟨.otherEvents evs, .done⟩
        { s with events := { s.events with readyEvents := evs } }

/-! ## The code has no other behaviour -/

@[simp] theorem signalled_write (k : Kernel) (fd : Fd) :
    (k.write fd).signalled = k.signalled := by
  unfold Kernel.write
  split
  · split <;> rfl
  · rfl

theorem run_signalReceiver (d : SharedChannelData T) (k : Kernel) :
    (Transmitter.signalReceiver d).run Kernel.answer k =
      (.returned { d with receiverNotified := true },
        if d.epollFd = -1 then { k with signalled := true } else k.write d.epollFd) := by
  unfold Transmitter.signalReceiver
  split <;> simp [Kernel.answer, Kernel.syscall]

/-- `try_send`: refused on a dead port; otherwise the message is queued, and
the receiver is told if it was the only one and there was no notice yet. -/
theorem run_trySend (d : SharedChannelData T) (t : T) (k : Kernel) :
    (Transmitter.trySend d t).run Kernel.answer k =
      if d.portAlive = false then (.returned (false, d), k)
      else if d.queue = [] ∧ d.receiverNotified = false then
        (.returned (true, { d with queue := d.queue ++ [t], receiverNotified := true }),
          if d.epollFd = -1 then { k with signalled := true } else k.write d.epollFd)
      else (.returned (true, { d with queue := d.queue ++ [t] }), k) := by
  unfold Transmitter.trySend
  cases hp : d.portAlive with
  | false => simp [Kernel.answer, Kernel.syscall]
  | true =>
    by_cases hc : d.queue = [] ∧ d.receiverNotified = false
    · simp [hc, Prog.run_bind, run_signalReceiver, Kernel.answer, Kernel.syscall]
    · simp [hc, Kernel.answer, Kernel.syscall]

theorem run_dropTransmitter (d : SharedChannelData T) (k : Kernel) :
    (Transmitter.drop ws d).run Kernel.answer k =
      if ws.uintSub d.nrSenders 1 = 0 ∧ d.receiverNotified = false then
        (.returned { d with
            nrSenders := ws.uintSub d.nrSenders 1
            receiverNotified := true },
          if d.epollFd = -1 then { k with signalled := true } else k.write d.epollFd)
      else (.returned { d with nrSenders := ws.uintSub d.nrSenders 1 }, k) := by
  unfold Transmitter.drop
  by_cases hc : ws.uintSub d.nrSenders 1 = 0 ∧ d.receiverNotified = false
  · simp [hc, Prog.run_bind, run_signalReceiver, Kernel.answer, Kernel.syscall]
  · simp [hc, Kernel.answer, Kernel.syscall]

/-- The kernel as code run in state `s` finds it. -/
def ChannelState.kernel (s : ChannelState T) (nextFd : Fd) : Kernel :=
  ⟨s.eventfd, nextFd, false, s.stray⟩

/-- The state after the kernel part of a section. -/
def ChannelState.withKernel (s : ChannelState T) (k : Kernel) : ChannelState T :=
  { s with
    eventfd := k.eventfd
    stray := k.stray
    task := if k.signalled then s.task.signal else s.task }

theorem exec_returned {α : Type} {s : ChannelState T} {nextFd : Fd} {p : Io α} {a : α}
    {k : Kernel} (f : α → ChannelState T → Out T × ChannelState T)
    (h : p.run Kernel.answer (s.kernel nextFd) = (.returned a, k)) :
    s.exec nextFd p f = f a (s.withKernel k) := by
  unfold ChannelState.exec
  rw [show (⟨s.eventfd, nextFd, false, s.stray⟩ : Kernel) = s.kernel nextFd from rfl, h]
  rfl

theorem exec_failed {α : Type} {s : ChannelState T} {nextFd : Fd} {p : Io α} {m : String}
    {k : Kernel} (f : α → ChannelState T → Out T × ChannelState T)
    (h : p.run Kernel.answer (s.kernel nextFd) = (.failed m, k)) :
    s.exec nextFd p f = (.failed m, s.withKernel k) := by
  unfold ChannelState.exec
  rw [show (⟨s.eventfd, nextFd, false, s.stray⟩ : Kernel) = s.kernel nextFd from rfl, h]
  rfl

theorem withKernel_write (s : ChannelState T) (fd : Fd) :
    s.withKernel ((s.kernel (-1)).write fd) =
      { s with
        eventfd := ((s.kernel (-1)).write fd).eventfd
        stray := ((s.kernel (-1)).write fd).stray } := by
  simp [ChannelState.withKernel, ChannelState.kernel]

theorem trySend_effect {s s' : ChannelState T} {tx : TxId} {t : T} {o : Out T}
    (h : Step ws s ⟨.trySend tx t, o⟩ s') : Effect ws s ⟨.trySend tx t, o⟩ s' := by
  simp only [Step, step] at h
  split at h
  · rename_i htx
    have hrun := run_trySend s.data t (s.kernel (-1))
    by_cases hp : s.data.portAlive = false
    · rw [if_pos hp] at hrun
      rw [exec_returned _ hrun] at h
      obtain ⟨rfl, rfl⟩ := Prod.mk.inj (Option.some.inj h)
      exact .sendDead htx hp
    · rw [if_neg hp] at hrun
      rw [Bool.not_eq_false] at hp
      by_cases hc : s.data.queue = [] ∧ s.data.receiverNotified = false
      · rw [if_pos hc] at hrun
        by_cases hfd : s.data.epollFd = -1
        · rw [if_pos hfd] at hrun
          rw [exec_returned _ hrun] at h
          obtain ⟨rfl, rfl⟩ := Prod.mk.inj (Option.some.inj h)
          exact .sendSignal htx hp hc.1 hc.2 hfd
        · rw [if_neg hfd] at hrun
          rw [exec_returned _ hrun, withKernel_write] at h
          obtain ⟨rfl, rfl⟩ := Prod.mk.inj (Option.some.inj h)
          exact .sendWrite htx hp hc.1 hc.2 hfd
      · rw [if_neg hc] at hrun
        rw [exec_returned _ hrun] at h
        obtain ⟨rfl, rfl⟩ := Prod.mk.inj (Option.some.inj h)
        exact .sendQuiet htx hp (by simpa [imp_iff_not_or] using hc)
  · cases h

theorem dropTransmitter_effect {s s' : ChannelState T} {tx : TxId} {o : Out T}
    (h : Step ws s ⟨.dropTransmitter tx, o⟩ s') :
    Effect ws s ⟨.dropTransmitter tx, o⟩ s' := by
  simp only [Step, step] at h
  split at h
  · rename_i htx
    have hrun := @run_dropTransmitter _ ws s.data (s.kernel (-1))
    by_cases hc : ws.uintSub s.data.nrSenders 1 = 0 ∧ s.data.receiverNotified = false
    · rw [if_pos hc] at hrun
      by_cases hfd : s.data.epollFd = -1
      · rw [if_pos hfd] at hrun
        rw [exec_returned _ hrun] at h
        obtain ⟨rfl, rfl⟩ := Prod.mk.inj (Option.some.inj h)
        exact .dropSignal htx hc.1 hc.2 hfd
      · rw [if_neg hfd] at hrun
        rw [exec_returned _ hrun, withKernel_write] at h
        obtain ⟨rfl, rfl⟩ := Prod.mk.inj (Option.some.inj h)
        exact .dropWrite htx hc.1 hc.2 hfd
    · rw [if_neg hc] at hrun
      rw [exec_returned _ hrun] at h
      obtain ⟨rfl, rfl⟩ := Prod.mk.inj (Option.some.inj h)
      exact .dropQuiet htx (by simpa [ChannelState.leave, imp_iff_not_or] using hc)
  · cases h

theorem clone_effect {s s' : ChannelState T} {tx new : TxId} {o : Out T}
    (h : Step ws s ⟨.clone tx new, o⟩ s') : Effect ws s ⟨.clone tx new, o⟩ s' := by
  simp only [Step, step] at h
  split at h
  · rename_i htx
    obtain ⟨rfl, rfl⟩ := Prod.mk.inj (Option.some.inj h)
    exact .clone htx.1 htx.2
  · cases h

/-! ### Receive calls -/

theorem run_recvTurn (d : SharedChannelData T) (k : Kernel) :
    (BlockingReceiver.recvTurn d).run Kernel.answer k =
      match d.queue with
      | t :: rest =>
          (.returned (.done (t, { d with queue := rest, receiverNotified := false })), k)
      | [] =>
          if d.nrSenders = 0 then (.failed "Remote channels are dead", k)
          else (.returned .wait, k) := by
  obtain ⟨queue, alive, senders, notified, fd⟩ := d
  unfold BlockingReceiver.recvTurn
  cases queue with
  | nil => by_cases hs : senders = 0 <;> simp [hs, Kernel.answer, Kernel.syscall]
  | cons t rest => simp [Kernel.answer, Kernel.syscall]

theorem run_recvOptTurn (d : SharedChannelData T) (k : Kernel) :
    (BlockingReceiver.recvOptTurn d).run Kernel.answer k =
      match d.queue with
      | t :: rest =>
          (.returned (.done (some t, { d with queue := rest, receiverNotified := false })), k)
      | [] =>
          if d.nrSenders = 0 then
            (.returned (.done (none, { d with queue := [], receiverNotified := false })), k)
          else (.returned .wait, k) := by
  obtain ⟨queue, alive, senders, notified, fd⟩ := d
  unfold BlockingReceiver.recvOptTurn
  cases queue with
  | nil => by_cases hs : senders = 0 <;> simp [hs, Kernel.answer, Kernel.syscall]
  | cons t rest => simp [Kernel.answer, Kernel.syscall]

theorem run_tryRecv (d : SharedChannelData T) (k : Kernel) :
    (BlockingReceiver.tryRecv d).run Kernel.answer k =
      match d.queue with
      | t :: rest =>
          (.returned (.data t, { d with queue := rest, receiverNotified := false }), k)
      | [] =>
          (.returned (if d.nrSenders = 0 then .disconnected else .empty,
            { d with queue := [], receiverNotified := false }), k) := by
  obtain ⟨queue, alive, senders, notified, fd⟩ := d
  unfold BlockingReceiver.tryRecv
  cases queue with
  | nil => by_cases hs : senders = 0 <;> simp [hs, Kernel.answer, Kernel.syscall]
  | cons t rest => simp [Kernel.answer, Kernel.syscall]

theorem run_receiverRecvTurn (r : Receiver) (d : SharedChannelData T) (k : Kernel) :
    (r.recvTurn d).run Kernel.answer k =
      match d.queue with
      | t :: rest =>
          (.returned (.done (some t, { r with availableMessages := r.availableMessages - 1 },
            { d with queue := rest, receiverNotified := false })), k)
      | [] =>
          if d.nrSenders = 0 then (.failed "Remote channels are dead", k)
          else (.returned .wait, k) := by
  rw [Receiver.recvTurn, Prog.run_bind, run_recvTurn]
  cases d.queue with
  | nil => by_cases hs : d.nrSenders = 0 <;> simp [hs, Receiver.received]
  | cons t rest => rfl

/-- Taking the mutex does not show at this level. -/
theorem run_recv (d : SharedChannelData T) (k : Kernel) :
    (BlockingReceiver.recv d).run Kernel.answer k =
      (BlockingReceiver.recvTurn d).run Kernel.answer k := rfl

theorem run_recvOpt (d : SharedChannelData T) (k : Kernel) :
    (BlockingReceiver.recvOpt d).run Kernel.answer k =
      (BlockingReceiver.recvOptTurn d).run Kernel.answer k := rfl

/-- `s` as the receiving task finds it when it goes on. -/
def ChannelState.awake (s : ChannelState T) : ChannelState T := { s with task := .running }

theorem awake_eq {s : ChannelState T} (h : s.task = .running) : s.awake = s := by
  obtain ⟨data, live, port, task, eventfd, stray, events⟩ := s
  subst h
  rfl

theorem afterData_of_ne {b : BlockedIn} (p : Port) (h : b ≠ .receiverRecv) :
    p.afterData b = p := by
  cases b with
  | receiverRecv => exact absurd rfl h
  | recv => rfl
  | recvOpt => rfl

theorem recvTurn_effect {s s' : ChannelState T} {a : Act T} {o : Out T}
    (ha : turnOf s a = some .recv)
    (h : s.awake.exec (-1) (BlockingReceiver.recvTurn s.data) endRecv = (o, s')) :
    Effect ws s ⟨a, o⟩ s' := by
  have hrun := run_recvTurn s.data (s.awake.kernel (-1))
  cases hq : s.data.queue with
  | cons t rest =>
    rw [hq] at hrun
    rw [exec_returned _ hrun] at h
    obtain ⟨rfl, rfl⟩ := Prod.mk.inj h
    exact .turnData ha hq
  | nil =>
    rw [hq] at hrun
    by_cases hs : s.data.nrSenders = 0
    · simp only [if_pos hs] at hrun
      rw [exec_failed _ hrun] at h
      obtain ⟨rfl, rfl⟩ := Prod.mk.inj h
      exact .turnFail ha (by decide) hq hs
    · simp only [if_neg hs] at hrun
      rw [exec_returned _ hrun] at h
      obtain ⟨rfl, rfl⟩ := Prod.mk.inj h
      exact .turnWait ha hq hs

theorem recvOptTurn_effect {s s' : ChannelState T} {a : Act T} {o : Out T}
    (ha : turnOf s a = some .recvOpt)
    (h : s.awake.exec (-1) (BlockingReceiver.recvOptTurn s.data) endRecvOpt = (o, s')) :
    Effect ws s ⟨a, o⟩ s' := by
  have hrun := run_recvOptTurn s.data (s.awake.kernel (-1))
  cases hq : s.data.queue with
  | cons t rest =>
    rw [hq] at hrun
    rw [exec_returned _ hrun] at h
    obtain ⟨rfl, rfl⟩ := Prod.mk.inj h
    exact .turnData ha hq
  | nil =>
    rw [hq] at hrun
    by_cases hs : s.data.nrSenders = 0
    · simp only [if_pos hs] at hrun
      rw [exec_returned _ hrun] at h
      obtain ⟨rfl, rfl⟩ := Prod.mk.inj h
      exact .turnEnd ha hq hs
    · simp only [if_neg hs] at hrun
      rw [exec_returned _ hrun] at h
      obtain ⟨rfl, rfl⟩ := Prod.mk.inj h
      exact .turnWait ha hq hs

theorem receiverRecvTurn_effect {s s' : ChannelState T} {a : Act T} {o : Out T}
    {r : Receiver} (ha : turnOf s a = some .receiverRecv) (hport : s.port = .attached r)
    (h : s.awake.exec (-1) (r.recvTurn s.data) endReceiverRecv = (o, s')) :
    Effect ws s ⟨a, o⟩ s' := by
  have hrun := run_receiverRecvTurn r s.data (s.awake.kernel (-1))
  cases hq : s.data.queue with
  | cons t rest =>
    rw [hq] at hrun
    rw [exec_returned _ hrun] at h
    obtain ⟨rfl, rfl⟩ := Prod.mk.inj h
    have : Effect ws s _ _ := .turnData ha hq
    rwa [hport] at this
  | nil =>
    rw [hq] at hrun
    by_cases hs : s.data.nrSenders = 0
    · simp only [if_pos hs] at hrun
      rw [exec_failed _ hrun] at h
      obtain ⟨rfl, rfl⟩ := Prod.mk.inj h
      exact .turnFail ha (by decide) hq hs
    · simp only [if_neg hs] at hrun
      rw [exec_returned _ hrun] at h
      obtain ⟨rfl, rfl⟩ := Prod.mk.inj h
      exact .turnWait ha hq hs

theorem recv_effect {s s' : ChannelState T} {o : Out T}
    (h : Step ws s ⟨.recv, o⟩ s') : Effect ws s ⟨.recv, o⟩ s' := by
  simp only [Step, step] at h
  split at h
  · rename_i hb
    refine recvTurn_effect (by simp [turnOf, hb]) ?_
    rw [awake_eq hb.2]
    exact Option.some.inj h
  · cases h

theorem recvOpt_effect {s s' : ChannelState T} {o : Out T}
    (h : Step ws s ⟨.recvOpt, o⟩ s') : Effect ws s ⟨.recvOpt, o⟩ s' := by
  simp only [Step, step] at h
  split at h
  · rename_i hb
    refine recvOptTurn_effect (by simp [turnOf, hb]) ?_
    rw [awake_eq hb.2]
    exact Option.some.inj h
  · cases h

theorem tryRecv_effect {s s' : ChannelState T} {o : Out T}
    (h : Step ws s ⟨.tryRecv, o⟩ s') : Effect ws s ⟨.tryRecv, o⟩ s' := by
  simp only [Step, step] at h
  split at h
  · rename_i hb
    have hrun := run_tryRecv s.data (s.kernel (-1))
    cases hq : s.data.queue with
    | cons t rest =>
      rw [hq] at hrun
      rw [exec_returned _ hrun] at h
      obtain ⟨rfl, rfl⟩ := Prod.mk.inj (Option.some.inj h)
      exact .tryRecvData hb.1 hb.2 hq
    | nil =>
      rw [hq] at hrun
      by_cases hs : s.data.nrSenders = 0
      · simp only [if_pos hs] at hrun
        rw [exec_returned _ hrun] at h
        obtain ⟨rfl, rfl⟩ := Prod.mk.inj (Option.some.inj h)
        exact .tryRecvEnd hb.1 hb.2 hq hs
      · simp only [if_neg hs] at hrun
        rw [exec_returned _ hrun] at h
        obtain ⟨rfl, rfl⟩ := Prod.mk.inj (Option.some.inj h)
        exact .tryRecvEmpty hb.1 hb.2 hq hs
  · cases h

theorem receiverRecv_effect {s s' : ChannelState T} {o : Out T}
    (h : Step ws s ⟨.receiverRecv, o⟩ s') : Effect ws s ⟨.receiverRecv, o⟩ s' := by
  simp only [Step, step] at h
  split at h
  · rename_i r htask hport
    by_cases hr : r.availableMessages > 0
    · refine receiverRecvTurn_effect (by simp [turnOf, htask, hport, hr]) hport ?_
      rw [awake_eq htask, ← Option.some.inj h]
      simp only [ChannelState.exec, Receiver.recv, if_pos hr, Receiver.recvTurn,
        Prog.run_bind, run_recv]
    · have hrun : (r.recv s.data).run Kernel.answer (s.kernel (-1)) =
          (.returned (.done (none, r, s.data)), s.kernel (-1)) := by
        simp only [Receiver.recv, if_neg hr, Prog.pure_eq, Prog.run_ret]
      rw [exec_returned _ hrun] at h
      obtain ⟨rfl, rfl⟩ := Prod.mk.inj (Option.some.inj h)
      rw [← hport]
      exact .noCredit hport htask (by omega)
  · cases h

theorem reacquire_effect {s s' : ChannelState T} {o : Out T}
    (h : Step ws s ⟨.reacquire, o⟩ s') : Effect ws s ⟨.reacquire, o⟩ s' := by
  simp only [Step, step] at h
  split at h
  · rename_i htask hport
    exact recvTurn_effect (by simp [turnOf, htask, hport]) (Option.some.inj h)
  · rename_i htask hport
    exact recvOptTurn_effect (by simp [turnOf, htask, hport]) (Option.some.inj h)
  · rename_i r htask hport
    exact receiverRecvTurn_effect (by simp [turnOf, htask, hport]) hport (Option.some.inj h)
  · cases h

/-! ### Attaching and detaching a Receiver -/

theorem run_fromBlockingReceiver (this : Ptr) (info : SourceId) (d : SharedChannelData T)
    (q : EventQueueImpl) (k : Kernel) (hfd : k.nextFd ≠ -1) :
    (Receiver.fromBlockingReceiver this info d q).run Kernel.answer k =
      if d.nrSenders = 0 then
        (.returned (⟨this, info, 0⟩, d, q.pushAll info [.channelClosedEvent]), k)
      else if d.queue = [] then
        (.returned (⟨this, info, 0⟩, { d with epollFd := k.nextFd }, q),
          { k with eventfd := some ⟨k.nextFd, 0⟩ })
      else
        (.returned (⟨this, info, 0⟩,
            { d with epollFd := k.nextFd, receiverNotified := true }, q),
          { k with eventfd := some ⟨k.nextFd, 1⟩ }) := by
  unfold Receiver.fromBlockingReceiver EventQueueImpl.registerFd
  by_cases hs : d.nrSenders = 0
  · simp [hs, Kernel.answer, Kernel.syscall, EventQueueImpl.pushBackEvent_eq_pushAll]
  · by_cases hq : d.queue = []
    · simp [hs, hq, hfd, Kernel.answer, Kernel.syscall]
    · have hpos : 0 < d.queue.length := List.length_pos_iff.mpr hq
      simp [hs, hq, hpos, hfd, Kernel.answer, Kernel.syscall, Kernel.write]

theorem pushedKinds_pushAll (s : ChannelState T) (src : SourceId) (ks : List EventKind) :
    pushedKinds s (s.events.pushAll src ks) = ks := by
  simp [pushedKinds, List.map_map, Function.comp_def]

theorem pushedKinds_self (s : ChannelState T) : pushedKinds s s.events = [] := by
  simp [pushedKinds]

/-- The first write to a new eventfd. -/
theorem write_openEventfd (s : ChannelState T) (fd : Fd) :
    (s.openEventfd fd).write =
      { s with
        data := { s.data with epollFd := fd, receiverNotified := true }
        eventfd := some ⟨fd, 1⟩ } := by
  simp [ChannelState.write, ChannelState.openEventfd, Kernel.write]

theorem fromBlockingReceiver_effect {s s' : ChannelState T} {this : Ptr} {info : SourceId}
    {fd : Fd} {o : Out T} (h : Step ws s ⟨.fromBlockingReceiver this info fd, o⟩ s') :
    Effect ws s ⟨.fromBlockingReceiver this info fd, o⟩ s' := by
  simp only [Step, step] at h
  split at h
  · rename_i hb
    obtain ⟨hport, htask, hfd⟩ := hb
    have hrun := run_fromBlockingReceiver this info s.data s.events (s.kernel fd)
      (Fd.ne_none hfd)
    by_cases hs : s.data.nrSenders = 0
    · rw [if_pos hs] at hrun
      rw [exec_returned _ hrun] at h
      obtain ⟨rfl, rfl⟩ := Prod.mk.inj (Option.some.inj h)
      rw [pushedKinds_pushAll]
      exact .attachDead hport htask hs
    · rw [if_neg hs] at hrun
      by_cases hq : s.data.queue = []
      · rw [if_pos hq] at hrun
        rw [exec_returned _ hrun] at h
        obtain ⟨rfl, rfl⟩ := Prod.mk.inj (Option.some.inj h)
        rw [pushedKinds_self]
        exact .attachEmpty hport htask hfd hs hq
      · rw [if_neg hq] at hrun
        rw [exec_returned _ hrun] at h
        obtain ⟨rfl, rfl⟩ := Prod.mk.inj (Option.some.inj h)
        rw [pushedKinds_self]
        have : Effect ws s ⟨.fromBlockingReceiver this info fd, _⟩ _ :=
          .attachWrite hport htask hfd hs hq
        rwa [write_openEventfd] at this
  · cases h

@[simp] theorem signalled_close (k : Kernel) (fd : Fd) :
    (k.close fd).signalled = k.signalled := by
  unfold Kernel.close
  split
  · split <;> rfl
  · rfl

theorem run_dropReceiver (r : Receiver) (d : SharedChannelData T) (q : EventQueueImpl)
    (k : Kernel) :
    (r.drop d q).run Kernel.answer k =
      if d.epollFd = -1 then (.returned (d, r.removePendingEvents q), k)
      else (.returned ({ d with epollFd := -1 }, r.removePendingEvents q),
        k.close d.epollFd) := by
  unfold Receiver.drop
  by_cases hfd : d.epollFd = -1
  · simp [hfd, Kernel.answer, Kernel.syscall]
  · simp [hfd, Kernel.answer, Kernel.syscall]

theorem dropReceiver_effect {s s' : ChannelState T} {o : Out T}
    (h : Step ws s ⟨.dropReceiver, o⟩ s') : Effect ws s ⟨.dropReceiver, o⟩ s' := by
  simp only [Step, step] at h
  split at h
  · rename_i r htask hport
    have hrun := run_dropReceiver r s.data s.events (s.kernel (-1))
    by_cases hfd : s.data.epollFd = -1
    · rw [if_pos hfd] at hrun
      rw [exec_returned _ hrun] at h
      obtain ⟨rfl, rfl⟩ := Prod.mk.inj (Option.some.inj h)
      exact .dropReceiver hport htask hfd
    · rw [if_neg hfd] at hrun
      rw [exec_returned _ hrun] at h
      obtain ⟨rfl, rfl⟩ := Prod.mk.inj (Option.some.inj h)
      have : Effect ws s _ _ := .dropReceiverClose hport htask hfd
      simpa [ChannelState.closeEventfd, ChannelState.withKernel, ChannelState.kernel]
        using this
  · cases h

theorem dropBlockingReceiver_effect {s s' : ChannelState T} {o : Out T}
    (h : Step ws s ⟨.dropBlockingReceiver, o⟩ s') :
    Effect ws s ⟨.dropBlockingReceiver, o⟩ s' := by
  simp only [Step, step, BlockingReceiver.drop_inert] at h
  split at h
  · rename_i hb
    obtain ⟨rfl, rfl⟩ := Prod.mk.inj (Option.some.inj h)
    exact .dropBlockingReceiver hb.1 hb.2
  · cases h

/-! ### The callback -/

theorem run_readEventfd (d : SharedChannelData T) (k : Kernel) :
    (Receiver.readEventfd d EPOLLIN).run Kernel.answer k =
      (.returned (decide ((k.read d.epollFd).1 = 1)), (k.read d.epollFd).2) := by
  unfold Receiver.readEventfd
  rw [if_pos (by decide)]
  simp only [retry_eq, Prog.call_bind, Prog.ret_bind, Prog.run_call, Prog.pure_eq,
    Prog.run_ret, Kernel.answer, Kernel.syscall, true_and]

theorem run_announce (s : ChannelState T) (r : Receiver) (k : Kernel) :
    (r.announce ws s.data s.events).run Kernel.answer k =
      (.returned (s.credit r, { s.data with receiverNotified := false },
        s.events.pushAll r.eventSourceInfo (s.announced ws r)), k) := by
  unfold Receiver.announce
  -- the loop first: its body is a push as well
  simp only [EventQueueImpl.foldl_pushBackEvent]
  simp only [EventQueueImpl.pushBackEvent_eq_pushAll, EventQueueImpl.pushAll_append]
  by_cases hs : s.data.nrSenders = 0 <;>
    simp [hs, Kernel.answer, Kernel.syscall, ChannelState.credit, ChannelState.announced]

theorem callbackRead_effect {s s' : ChannelState T} {o : Out T}
    (h : Step ws s ⟨.callbackRead, o⟩ s') : Effect ws s ⟨.callbackRead, o⟩ s' := by
  simp only [Step, step] at h
  split at h
  · rename_i r e htask hport he
    split at h
    · rename_i hpos
      have hrun := run_readEventfd s.data (s.kernel (-1))
      rw [exec_returned _ hrun] at h
      obtain ⟨rfl, rfl⟩ := Prod.mk.inj (Option.some.inj h)
      by_cases hfd : e.fd = s.data.epollFd
      · have : Effect ws s _ _ := .callbackRead hport htask he hpos hfd
        simpa [ChannelState.withKernel, ChannelState.kernel, Kernel.read, he, hfd] using this
      · have : Effect ws s _ _ := .callbackStray hport htask he hpos hfd
        simpa [ChannelState.withKernel, ChannelState.kernel, Kernel.read, he, hfd, htask]
          using this
    · cases h
  · cases h

theorem callbackLock_effect {s s' : ChannelState T} {o : Out T}
    (h : Step ws s ⟨.callbackLock, o⟩ s') : Effect ws s ⟨.callbackLock, o⟩ s' := by
  simp only [Step, step] at h
  split at h
  · rename_i r htask hport
    have hrun := @run_announce _ ws s r (s.awake.kernel (-1))
    have h' := Option.some.inj h
    rw [show ({ s with task := .running } : ChannelState T) = s.awake from rfl,
      exec_returned _ hrun] at h'
    obtain ⟨rfl, rfl⟩ := Prod.mk.inj h'
    rw [pushedKinds_pushAll]
    exact .callbackLock hport htask
  · cases h

/-- **Inversion of `step`.** -/
theorem step_effect {s s' : ChannelState T} {l : Label T} (h : Step ws s l s') :
    Effect ws s l s' := by
  obtain ⟨act, out⟩ := l
  cases act with
  | trySend tx t => exact trySend_effect h
  | clone tx new => exact clone_effect h
  | dropTransmitter tx => exact dropTransmitter_effect h
  | recv => exact recv_effect h
  | recvOpt => exact recvOpt_effect h
  | tryRecv => exact tryRecv_effect h
  | fromBlockingReceiver this info fd => exact fromBlockingReceiver_effect h
  | spuriousWakeup =>
    simp only [Step, step] at h
    split at h
    · rename_i b htask
      obtain ⟨rfl, rfl⟩ := Prod.mk.inj (Option.some.inj h)
      exact .spuriousWakeup htask
    · cases h
  | reacquire => exact reacquire_effect h
  | receiverRecv => exact receiverRecv_effect h
  | callbackRead => exact callbackRead_effect h
  | callbackLock => exact callbackLock_effect h
  | dropReceiver => exact dropReceiver_effect h
  | dropBlockingReceiver => exact dropBlockingReceiver_effect h
  | otherEvents evs =>
    obtain ⟨rfl, rfl⟩ := Prod.mk.inj (Option.some.inj h)
    exact .otherEvents

/-! ## What a step of one kind does -/

theorem Effect.of_callbackLock {s s' : ChannelState T} {o : Out T}
    (h : Effect ws s ⟨.callbackLock, o⟩ s') :
    ∃ r, s.port = .attached r ∧ s.task = .callback ∧ o = .pushed (s.announced ws r) ∧
      s' = { s with
        data := { s.data with receiverNotified := false }
        port := .attached (s.credit r)
        task := .running
        events := s.events.pushAll r.eventSourceInfo (s.announced ws r) } := by
  cases h with
  | turnWait ha => simp [turnOf] at ha
  | turnData ha => simp [turnOf] at ha
  | turnEnd ha => simp [turnOf] at ha
  | turnFail ha => simp [turnOf] at ha
  | callbackLock hport htask => exact ⟨_, hport, htask, rfl, rfl⟩

/-- `recv` of a Receiver that has a credit and finds a message. -/
theorem Effect.of_receiverRecv {s s' : ChannelState T} {r : Receiver} {o : Out T}
    (hport : s.port = .attached r) (htask : s.task = .running) (hcredit : 0 < r.availableMessages)
    (hne : s.data.queue ≠ []) (h : Effect ws s ⟨.receiverRecv, o⟩ s') :
    ∃ t rest, s.data.queue = t :: rest ∧ o = .data t ∧
      s' = { s.take rest with
        task := .running
        port := .attached { r with availableMessages := r.availableMessages - 1 } } := by
  cases h with
  | turnWait _ hq => exact absurd hq hne
  | turnEnd _ hq => exact absurd hq hne
  | turnFail _ _ hq => exact absurd hq hne
  | noCredit hport' _ hzero =>
    cases hport.symm.trans hport'
    exact absurd hzero (Nat.ne_of_gt hcredit)
  | @turnData _ b t rest ha hq =>
    obtain rfl : b = .receiverRecv := by
      have hgt : r.availableMessages > 0 := hcredit
      simp only [turnOf, htask, hport, if_pos hgt] at ha
      exact (Option.some.inj ha).symm
    exact ⟨t, rest, hq, rfl, by rw [hport]; rfl⟩

/-- The three ways to attach a Receiver. -/
theorem Effect.of_attach {s s' : ChannelState T} {this : Ptr} {info : SourceId} {fd : Fd}
    {o : Out T} (h : Effect ws s ⟨.fromBlockingReceiver this info fd, o⟩ s') :
    s.port = .blocking ∧ s.task = .running ∧
      ((s.data.nrSenders = 0 ∧ o = .pushed [.channelClosedEvent] ∧
          s' = { s.attach this info with
            events := s.events.pushAll info [.channelClosedEvent] }) ∨
        (s.data.nrSenders ≠ 0 ∧ s.data.queue = [] ∧ o = .pushed [] ∧
          s' = (s.attach this info).openEventfd fd) ∨
        (s.data.nrSenders ≠ 0 ∧ s.data.queue ≠ [] ∧ o = .pushed [] ∧
          s' = ((s.attach this info).openEventfd fd).write)) := by
  cases h with
  | turnWait ha => simp [turnOf] at ha
  | turnData ha => simp [turnOf] at ha
  | turnEnd ha => simp [turnOf] at ha
  | turnFail ha => simp [turnOf] at ha
  | attachDead hport htask hnr => exact ⟨hport, htask, .inl ⟨hnr, rfl, rfl⟩⟩
  | attachEmpty hport htask _ hnr hq => exact ⟨hport, htask, .inr (.inl ⟨hnr, hq, rfl, rfl⟩)⟩
  | attachWrite hport htask _ hnr hq => exact ⟨hport, htask, .inr (.inr ⟨hnr, hq, rfl, rfl⟩)⟩

/-- What `perform` goes through is a run. -/
theorem perform_run {s s' : ChannelState T} {acts : List (Act T)} {tr : List (Label T)}
    (h : perform ws s acts = some (tr, s')) : Transition.Run (Step ws) s tr s' := by
  induction acts generalizing s tr with
  | nil =>
    obtain ⟨rfl, rfl⟩ := Prod.mk.inj (Option.some.inj h)
    exact .nil
  | cons a acts ih =>
    simp only [perform] at h
    split at h
    · rename_i o t hstep
      obtain ⟨⟨tr', u⟩, hrun, heq⟩ := Option.map_eq_some_iff.mp h
      obtain ⟨rfl, rfl⟩ := Prod.mk.inj heq
      exact .cons hstep (ih hrun)
    · cases h

/-- What is known of all runs, for the one that `perform` goes through. -/
theorem perform_ends {s : ChannelState T} {acts : List (Act T)}
    {P Q : List (Label T) → ChannelState T → Prop}
    (h : ∃ tr s', perform ws s acts = some (tr, s') ∧ P tr s')
    (hall : ∀ tr s', Transition.Run (Step ws) s tr s' → P tr s' → Q tr s') :
    ∃ tr s', perform ws s acts = some (tr, s') ∧ P tr s' ∧ Q tr s' := by
  obtain ⟨tr, s', hp, hP⟩ := h
  exact ⟨tr, s', hp, hP, hall tr s' (perform_run hp) hP⟩

end Revbio.Channel
