/-
Revbio.EventQueue.System — a task under its event loop.

The objects, the queue and the kernel are those of `Revbio.Epoll.System`,
and so is what the operations do to them. Here they take place where they
can: a source is used while its task is outside `next_event`, callbacks run
inside it, and what needs no queue (transmitters, blocking channels, raw
sockets, descriptors of other code) goes on at any time, in other tasks.

The callback of a Receiver has two halves, with the transmitters between
them. A receive that waits does not hold up the steps after it, which makes
more runs possible than there are.
-/
import Revbio.Epoll.System
import Revbio.EventQueue.Loop

namespace Revbio.EventLoop

open CallTree Ownership Function Epoll

variable {T : Type}

structure TaskState (T : Type) where
  sys : Epoll.System T
  phase : Phase

/-! ## Who does what -/

/-- The calls a task makes outside `next_event`. -/
def Operation : Epoll.Label T → Prop
  | .create _ _ => True
  | .convert _ _ => True
  | .method _ m => m ≠ .announce
  | .accept _ _ => True
  | .drop _ => True
  | _ => False

/-- An object that is no source. -/
def Unboxed (s : Epoll.System T) (i : Ptr) : Prop :=
  ∃ o, s.objects i = some o ∧ o.processFunc = none

/-- The methods of a Transmitter. -/
def BySender : Epoll.Method T → Prop
  | .trySend _ => True
  | .cloneTransmitter => True
  | .dropTransmitter => True
  | _ => False

/-- The calls that are made without the queue. -/
def Elsewhere (s : Epoll.System T) : Epoll.Label T → Prop
  | .create _ (.rawTcpSocket _) => True
  | .create _ (.rawTcpServerSocket _ _) => True
  | .create _ .channel => True
  | .method i m => Unboxed s i ∨ BySender m
  | .accept i _ => Unboxed s i
  | .drop i => Unboxed s i
  | .foreign _ _ => True
  | _ => False

inductive TaskLabel (T : Type) where
  | loop (l : LoopLabel)
  | operate (l : Epoll.Label T)
  | elsewhere (l : Epoll.Label T)
  /-- the callback of a socket or a timer -/
  | callback (fd : Fd) (epollEvents : UInt32)
  /-- the callback of a Receiver, up to the mutex -/
  | readEventfd (fd : Fd) (epollEvents : UInt32)
  /-- the rest of it -/
  | announce (receiver : Ptr)

/-- The steps that are part of a callback. -/
def InCallback : TaskLabel T → Prop
  | .callback _ _ => True
  | .readEventfd _ _ => True
  | .announce _ => True
  | _ => False

/-! ## The system -/

inductive TaskStep (ws : WordSize) (host : Endian) :
    TaskState T → TaskLabel T → TaskState T → Prop where
  | loop {s : TaskState T} {l : LoopLabel} {phase : Phase} {queue : EventQueueImpl} :
      LoopStep s.phase s.sys.queue l phase queue →
      TaskStep ws host s (.loop l) ⟨{ s.sys with queue }, phase⟩
  | operate {s : TaskState T} {l : Epoll.Label T} {sys : Epoll.System T} : s.phase = .idle →
      Operation l → Epoll.Step ws host s.sys l sys →
      TaskStep ws host s (.operate l) ⟨sys, .idle⟩
  | elsewhere {s : TaskState T} {l : Epoll.Label T} {sys : Epoll.System T} :
      Elsewhere s.sys l → Epoll.Step ws host s.sys l sys →
      TaskStep ws host s (.elsewhere l) ⟨sys, s.phase⟩
  | callback {s : TaskState T} {fd : Fd} {ptr : Ptr} {mask : UInt32} {o o' : Object T}
      {p : Io (Object T × EventQueueImpl)} {queue : EventQueueImpl} {k : Epoll.Kernel} :
      s.phase = .polling → s.sys.kernel fd = .held (some ptr) → s.sys.objects ptr = some o →
      (∀ r d, o ≠ .receiver r d) → o.processEpollEvents ws s.sys.queue mask = some p →
      p.Exec Kernel.allows s.sys.kernel (.returned (o', queue)) k →
      TaskStep ws host s (.callback fd mask)
        ⟨⟨update s.sys.objects ptr (some o'), queue, k⟩, .checking⟩
  | readEventfd {s : TaskState T} {fd : Fd} {ptr : Ptr} {mask : UInt32} {r : Receiver}
      {d : SharedChannelData T} {notified : Bool} {k : Epoll.Kernel} :
      s.phase = .polling → s.sys.kernel fd = .held (some ptr) →
      s.sys.objects ptr = some (.receiver r d) →
      (Receiver.readEventfd d mask).Exec Kernel.allows s.sys.kernel (.returned notified) k →
      TaskStep ws host s (.readEventfd fd mask)
        ⟨{ s.sys with kernel := k }, if notified then .calling ptr else .checking⟩
  | announce {s : TaskState T} {ptr : Ptr} {r r' : Receiver} {d d' : SharedChannelData T}
      {queue : EventQueueImpl} {k : Epoll.Kernel} :
      s.phase = .calling ptr → s.sys.objects ptr = some (.receiver r d) →
      (r.announce ws d s.sys.queue).Exec Kernel.allows s.sys.kernel
        (.returned (r', d', queue)) k →
      TaskStep ws host s (.announce ptr)
        ⟨⟨update s.sys.objects ptr (some (.receiver r' d')), queue, k⟩, .checking⟩

/-- A task with no objects yet and a new queue. -/
def TaskState.start (opened : Fd → Bool) (epfd : Fd) : TaskState T where
  sys := System.start opened ⟨epfd, []⟩
  phase := .idle

/-- Every step of a task is one of its objects, and what it drops is dropped
there. -/
theorem TaskStep.epoll {ws : WordSize} {host : Endian} {s t : TaskState T} {l : TaskLabel T}
    (h : TaskStep ws host s l t) : ∃ l', Epoll.Step ws host s.sys l' t.sys ∧
      ∀ i, l' = .drop i → l = .operate l' ∨ l = .elsewhere l' := by
  cases h with
  | @loop _ _ queue hloop =>
    have hfd : queue = { s.sys.queue with readyEvents := queue.readyEvents } :=
      congrArg (EventQueueImpl.mk · queue.readyEvents) hloop.fd
    refine ⟨.client queue.readyEvents, ?_, by simp⟩
    rw [hfd]
    exact .client
  | operate _ _ hstep => exact ⟨_, hstep, fun _ _ => .inl rfl⟩
  | elsewhere _ hstep => exact ⟨_, hstep, fun _ _ => .inr rfl⟩
  | callback _ hk ho _ hp hx => exact ⟨_, .poll hk ho hp hx, by simp⟩
  | @readEventfd fd ptr mask r d notified k _ hk ho hx =>
    have hsame : update s.sys.objects ptr (some (.receiver r d)) = s.sys.objects :=
      update_eq_self_iff.mpr ho.symm
    have hstep : Epoll.Step ws host s.sys (.poll fd mask) _ :=
      .poll hk ho rfl ((Prog.exec_bind _ _ _ _ _).mpr ⟨notified, k, hx, rfl, rfl⟩)
    rw [hsame] at hstep
    exact ⟨_, hstep, by simp⟩
  | @announce ptr r r' d d' queue k _ ho hx =>
    exact ⟨.method ptr .announce, .method ho rfl
      ((Prog.exec_bind _ _ _ _ _).mpr ⟨(r', d', queue), k, hx, rfl, rfl⟩), by simp⟩

end Revbio.EventLoop
