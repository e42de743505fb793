/-
Revbio.Stream.ProgressTheorems — the callbacks of the two kinds of sockets
and the conditions that `epoll_wait` reports.

`epoll_wait` reports a condition again until it is gone. It may report what
the descriptor is watched for, and `EPOLLERR` and `EPOLLHUP` whether they
were asked for or not. A callback that neither pushes an event nor takes
the descriptor out of the epoll set makes `next_event` spin. The callbacks
look at `EPOLLERR` and at what the descriptor is watched for; with neither
bit there is only one mask left.
-/
import Revbio.Stream.ProtocolTheorems
import Revbio.Stream.Server
import Mathlib.Data.Nat.Bitwise

namespace Revbio.Stream

open CallTree EventLoop Transition

variable {ws : WordSize} {host : Endian}

/-! ## What may be reported -/

/-- `epoll_wait` may report `mask` for a descriptor watched for `interest`. -/
def Reportable (interest mask : UInt32) : Prop :=
  mask ≠ 0 ∧ mask &&& (interest ||| EPOLLERR ||| EPOLLHUP) = mask

/-- `epoll_wait` may report `mask` for the descriptor of `k`. -/
def Reported (k : Kernel) (mask : UInt32) : Prop :=
  ∃ d interest, k = some d ∧ d.interest = some interest ∧ Reportable interest mask

theorem Reported.watched {k : Kernel} {mask : UInt32} (h : Reported k mask) : Watched k := by
  obtain ⟨d, interest, hk, hinterest, -⟩ := h
  exact ⟨d, hk, by simp [hinterest]⟩

theorem and_or_distrib_left (a b c : UInt32) :
    a &&& (b ||| c) = a &&& b ||| a &&& c := by
  rw [← UInt32.toBitVec_inj]
  exact BitVec.and_or_distrib_left

/-- `EPOLLHUP` is a single bit. -/
theorem and_EPOLLHUP (mask : UInt32) : mask &&& EPOLLHUP = 0 ∨ mask &&& EPOLLHUP = EPOLLHUP := by
  have hbit : (mask &&& EPOLLHUP).toNat = (mask.toNat.testBit 4).toNat * 2 ^ 4 :=
    (UInt32.toNat_and mask EPOLLHUP).trans (Nat.and_two_pow mask.toNat 4)
  cases h : mask.toNat.testBit 4 with
  | false =>
    left
    rw [← UInt32.toNat_inj, hbit, h]
    rfl
  | true =>
    right
    rw [← UInt32.toNat_inj, hbit, h]
    rfl

/-- A reported mask without `EPOLLERR` and without the interest is the
hang-up alone. -/
theorem Reportable.hangup_iff {interest mask : UInt32} (h : Reportable interest mask)
    (hinterest : EPOLLHUP &&& interest = 0) :
    ¬ (mask &&& EPOLLERR ≠ 0 ∨ mask &&& interest ≠ 0) ↔ mask = EPOLLHUP := by
  obtain ⟨hne, hsub⟩ := h
  constructor
  · intro hnone
    obtain ⟨herr, hin⟩ := not_or.mp hnone
    rw [and_or_distrib_left, and_or_distrib_left, not_not.mp herr,
      not_not.mp hin] at hsub
    have hhup : mask &&& EPOLLHUP = mask := by simpa using hsub
    rcases and_EPOLLHUP mask with hzero | hbit
    · exact absurd (hhup.symm.trans hzero) hne
    · exact hhup.symm.trans hbit
  · intro hmask
    rw [hmask]
    exact fun hor => hor.elim (fun herr => herr (by decide)) (fun hin => hin hinterest)

/-! ## Progress -/

/-- The queue has got an event, or the descriptor is not watched any more. -/
def Progress (q q' : EventQueueImpl) (k' : Kernel) : Prop :=
  (∃ ev evs, q'.readyEvents = q.readyEvents ++ ev :: evs) ∨ ¬ Watched k'

theorem Progress.pushed {q : EventQueueImpl} {ev : Event} {k' : Kernel} :
    Progress q (q.pushBackEvent ev) k' :=
  .inl ⟨ev, [], rfl⟩

theorem not_progress {q : EventQueueImpl} {k : Kernel} (h : Watched k) : ¬ Progress q q k := by
  intro hp
  rcases hp with ⟨ev, evs, heq⟩ | hgone
  · simpa using congrArg List.length heq
  · exact hgone h

theorem CallbackEffect.progress_iff {s s' : TcpSocket} {q q' : EventQueueImpl} {k k' : Kernel}
    {mask : UInt32} (h : CallbackEffect s q k mask s' q' k') (hk : Watched k) :
    Progress q q' k' ↔ Noticed s mask := by
  cases h with
  | nothing hn => exact iff_of_false (not_progress hk) hn
  | data hn => exact iff_of_true .pushed hn
  | ended hn => exact iff_of_true .pushed hn
  | error hn => exact iff_of_true .pushed hn
  | connected hn => exact iff_of_true .pushed hn

theorem ServerEffect.progress_iff {s s' : TcpServerSocket} {q q' : EventQueueImpl}
    {k k' : Kernel} {mask : UInt32} (h : ServerEffect s q k mask s' q' k') (hk : Watched k) :
    Progress q q' k' ↔ (mask &&& EPOLLERR ≠ 0 ∨ mask &&& EPOLLIN ≠ 0) := by
  cases h with
  | nothing herr hin => exact iff_of_false (not_progress hk) (by simp [herr, hin])
  | client hin => exact iff_of_true .pushed (.inr hin)
  | error herr => exact iff_of_true .pushed (.inl herr)

theorem interestOf_hangup (state : ConnectionState) : EPOLLHUP &&& interestOf state = 0 := by
  cases state <;> decide

theorem Sound.hangup_iff {s : TcpSocket} {k : Kernel} {mask : UInt32} (hs : Sound s k)
    (hm : Reported k mask) : ¬ Noticed s mask ↔ mask = EPOLLHUP := by
  obtain ⟨d, interest, rfl, hinterest, hmask⟩ := hm
  obtain ⟨d', hd', hopen⟩ := agrees_open hs.agrees (hs.watched ⟨d, rfl, by simp [hinterest]⟩)
  cases hd'
  have hint : interest = interestOf s.socket.connectionState := by
    simpa [hopen.interest] using hinterest.symm
  rw [hint] at hmask
  exact hmask.hangup_iff (interestOf_hangup s.socket.connectionState)

theorem ServerSound.hangup_iff {s : TcpServerSocket} {k : Kernel} {mask : UInt32}
    (hs : ServerSound s k) (hm : Reported k mask) :
    ¬ (mask &&& EPOLLERR ≠ 0 ∨ mask &&& EPOLLIN ≠ 0) ↔ mask = EPOLLHUP := by
  obtain ⟨d, interest, rfl, hinterest, hmask⟩ := hm
  have hopen : s.socket.connectionState ≠ .closed := by
    intro hclosed
    cases serverAgrees_closed hs hclosed
  obtain ⟨d', hd', -, hin⟩ := serverAgrees_open hs hopen
  cases hd'
  have hint : interest = EPOLLIN := by simpa [hin] using hinterest.symm
  rw [hint] at hmask
  exact hmask.hangup_iff (by decide)

/-- **The callbacks and the hang-up.** In every reachable state, a callback
that returns pushes an event, or leaves the descriptor closed or
unregistered, exactly when it was not called for a hang-up alone: the test
that should have caught it for a connected socket asks for `EPOLLERR` once
more, and the other two branches have no test for it. -/
theorem progress_iff_not_hangup (ws : WordSize) (host : Endian) (mask : UInt32) :
    (∀ (o : Origin) (s₀ s : StreamState) (tr : List Label),
      Start ws host o s₀ → Run (Step ws) s₀ tr s → Reported s.kernel mask →
      ∀ (sock : TcpSocket) (queue : EventQueueImpl) (kernel : Kernel),
        (s.sock.processEpollEvents ws s.queue mask).Exec Kernel.allows s.kernel
          (.returned (sock, queue)) kernel →
        (Progress s.queue queue kernel ↔ mask ≠ EPOLLHUP)) ∧
    (∀ (s : TcpServerSocket) (k : Kernel), ServerReachable host s k → Reported k mask →
      ∀ (q : EventQueueImpl) (s' : TcpServerSocket) (q' : EventQueueImpl) (k' : Kernel),
        (s.processEpollEvents q mask).Exec Kernel.allows k (.returned (s', q')) k' →
        (Progress q q' k' ↔ mask ≠ EPOLLHUP)) := by
  constructor
  · intro o s₀ s tr hstart hrun hmask sock queue kernel hx
    have hsound := run_sound hstart hrun
    rw [(callback_effect hsound hmask.watched hx).progress_iff hmask.watched,
      ← not_iff_not, not_not]
    exact hsound.hangup_iff hmask
  · intro s k hreach hmask q s' q' k' hx
    have hsound := hreach.sound
    rw [((server_callback_fits hsound q mask).exec hx).progress_iff hmask.watched,
      ← not_iff_not, not_not]
    exact hsound.hangup_iff hmask

/-- The client has taken the ConnectedEvent and asks for the next event. -/
def waiting : StreamState := { answered with queue := ⟨3, []⟩, phase := .polling }

theorem waiting_run (ws : WordSize) :
    Run (Step ws) dialled [.loop .goesOn, .callback EPOLLOUT,
      .loop (.returns (.ok (Event.new .connectedEvent 1))), .loop .goesOn] waiting := by
  have htaken : Step ws answered (.loop (.returns (.ok (Event.new .connectedEvent 1))))
      { answered with queue := ⟨3, []⟩, phase := .idle } := .loop (.found rfl rfl)
  have hpoll : Step ws { answered with queue := ⟨3, []⟩, phase := .idle } (.loop .goesOn)
      waiting := .loop (.mustPoll rfl)
  exact ((answered_run ws).snoc htaken).snoc hpoll

/-- A server that waits for clients. -/
def listening : TcpServerSocket where
  socket := ⟨5, .connected⟩
  processFunc := 0
  eventSourceInfo := 1
  clientAvailable := false

theorem listening_reachable :
    ServerReachable .little listening (some ⟨5, 0x2, 0x2, some EPOLLIN⟩) := by
  have hbind : (RawTcpServerSocket.bind .little ⟨.ipv4Addr 0 0 0 0, 80⟩ 10).Exec Kernel.allows
      none (.returned (.ok ⟨5, .connected⟩)) (some ⟨5, 0x2, 0x2, none⟩) := by
    refine ⟨(5 : Int), _, .inr ⟨by decide, 0x2, by decide, rfl⟩, ?_⟩
    exact ⟨(0 : Int), _, rfl, (0 : Int), _, rfl, (0 : Int), _, rfl, rfl, rfl⟩
  have hnew : (TcpServerSocket.fromRawServerSocket 0 1 ⟨5, .connected⟩ ⟨3, []⟩).Exec
      Kernel.allows (some ⟨5, 0x2, 0x2, none⟩) (.returned listening)
      (some ⟨5, 0x2, 0x2, some EPOLLIN⟩) :=
    ⟨(0 : Int), _, .inr ⟨rfl, _, rfl, rfl, rfl, rfl⟩, rfl, rfl⟩
  exact .fromRaw (.bind hbind) hnew

theorem reported_hangup {k : Kernel} {d : Descriptor} (hk : k = some d)
    (hin : d.interest = some EPOLLIN) : Reported k EPOLLHUP :=
  ⟨d, EPOLLIN, hk, hin, by decide, by decide⟩

/-- A client that calls, and a connected socket that has nothing to read. -/
theorem progress_iff_not_hangup_readable :
    (Progress waiting.queue (waiting.queue.pushBackEvent (Event.new .streamClosedEvent 1)) none ↔
      EPOLLIN ≠ EPOLLHUP) ∧
    (Progress ⟨3, []⟩ (EventQueueImpl.pushBackEvent ⟨3, []⟩
        (Event.new .clientConnectedEvent 1)) (some ⟨5, 0x2, 0x2, some EPOLLIN⟩) ↔
      EPOLLIN ≠ EPOLLHUP) := by
  constructor
  · refine (progress_iff_not_hangup .w64 .little EPOLLIN).1 .connect dialled waiting _
      (dialled_start .w64) (waiting_run .w64) ⟨_, EPOLLIN, rfl, rfl, by decide, by decide⟩
      { waiting.sock with socket := shut waiting.sock.socket } _ _ ?_
    exact ⟨((0 : Int), (0 : Int)), _, rfl, (0 : Int), _, rfl, rfl, rfl⟩
  · exact (progress_iff_not_hangup .w64 .little EPOLLIN).2 listening _ listening_reachable
      ⟨_, EPOLLIN, rfl, rfl, by decide, by decide⟩ ⟨3, []⟩
      { listening with clientAvailable := true } _ _ ⟨rfl, rfl⟩

/-- A hang-up alone, on a connected socket and on a listening one, goes by
unnoticed. -/
theorem progress_fails :
    (Start .w64 .little .connect dialled ∧ Run (Step .w64) dialled [.loop .goesOn,
        .callback EPOLLOUT, .loop (.returns (.ok (Event.new .connectedEvent 1))),
        .loop .goesOn] waiting ∧
      Reported waiting.kernel EPOLLHUP ∧
      (waiting.sock.processEpollEvents .w64 waiting.queue EPOLLHUP).Exec Kernel.allows
        waiting.kernel (.returned (waiting.sock, waiting.queue)) waiting.kernel ∧
      ¬ Progress waiting.queue waiting.queue waiting.kernel) ∧
    ∃ k, ServerReachable .little listening k ∧ Reported k EPOLLHUP ∧
      (listening.processEpollEvents ⟨3, []⟩ EPOLLHUP).Exec Kernel.allows k
        (.returned (listening, ⟨3, []⟩)) k ∧
      ¬ Progress ⟨3, []⟩ ⟨3, []⟩ k := by
  refine ⟨⟨dialled_start .w64, waiting_run .w64, reported_hangup rfl rfl, ⟨rfl, rfl⟩, ?_⟩, _,
    listening_reachable, reported_hangup rfl rfl, ⟨rfl, rfl⟩, ?_⟩
  · exact not_progress (reported_hangup (d := ⟨5, 0x802, 0x2, some EPOLLIN⟩) rfl rfl).watched
  · exact not_progress (reported_hangup (d := ⟨5, 0x2, 0x2, some EPOLLIN⟩) rfl rfl).watched

/-! ## The loop goes round -/

theorem processEpollEvents_hangup (s : TcpSocket) (q : EventQueueImpl) :
    s.processEpollEvents ws q EPOLLHUP = .ret (s, q) := by
  unfold TcpSocket.processEpollEvents
  rw [if_neg (by decide)]
  split
  · rw [if_neg (by decide)]
    rfl
  · rw [if_neg (by decide)]
    rfl

/-- **A hang-up makes `next_event` spin.** Nothing changes between two
reports of it, so there can be any number of them. -/
theorem hangup_spins {o : Origin} {s₀ s : StreamState} {tr : List Label}
    (hstart : Start ws host o s₀) (h : Run (Step ws) s₀ tr s) (hphase : s.phase = .polling)
    (hk : Watched s.kernel) (n : Nat) :
    Run (Step ws) s (List.replicate n [.callback EPOLLHUP, .loop .goesOn]).flatten s := by
  have hloop := (h.invariant (start_inv hstart) fun _ _ _ => step_inv).loop
  rw [hphase] at hloop
  have hx : (s.sock.processEpollEvents ws s.queue EPOLLHUP).Exec Kernel.allows s.kernel
      (.returned (s.sock, s.queue)) s.kernel := by
    rw [processEpollEvents_hangup]
    exact ⟨rfl, rfl⟩
  have hsame : s.goOn .callback s.sock s.queue s.kernel .checking =
      { s with phase := .checking } := by
    simp [StreamState.goOn]
  have hcallback : Step ws s (.callback EPOLLHUP) { s with phase := .checking } := by
    rw [← hsame]
    exact .callback hphase hk hx
  have hback : Step ws { s with phase := .checking } (.loop .goesOn) s := by
    have hstep : Step ws { s with phase := .checking } (.loop .goesOn)
        { s with phase := .polling } := .loop (.nothing hloop)
    rwa [← hphase] at hstep
  induction n with
  | zero => exact .nil
  | succ n ih =>
    rw [List.replicate_succ, List.flatten_cons]
    exact (Run.cons hcallback (.one hback)).append ih

end Revbio.Stream
