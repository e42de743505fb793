/-
Revbio.Epoll.ChannelTheorems — the calls that the operations of a channel
make.

They take and release the mutex, wait and signal, and read and write the
eventfd that the shared data names (`ChannelCall`). None of them changes
the number of that eventfd, so the rest of the development need not look
into them again.
-/
import Revbio.Epoll.System

namespace Revbio.Epoll

open CallTree Prog

variable {T : Type} {ws : WordSize}

/-- A call on the mutex, on the eventfd `fd`, or one that reports an error. -/
def ChannelCall (fd : Fd) : Call → Prop
  | .once .mutexLock => True
  | .once .mutexUnlock => True
  | .once .mutexWait => True
  | .once .mutexSignal => True
  | .retry (.writeOne fd') => fd' = fd
  | .retry (.readCounter fd') => fd' = fd
  | c => Reports c

theorem reports_channelCall {fd : Fd} (c : Call) (h : Reports c) : ChannelCall fd c :=
  h.each trivial trivial (fun _ => trivial) fun _ => trivial

/-! ## The other end -/

theorem signalReceiver_calls (d : SharedChannelData T) :
    (Transmitter.signalReceiver d).Within (ChannelCall d.epollFd) fun d' =>
      d'.epollFd = d.epollFd := by
  simp only [Transmitter.signalReceiver, sys_eq, retry_eq, call_bind, ret_bind]
  split
  · exact within_call trivial fun _ => within_ret rfl
  · refine within_call rfl ?_
    intro ret
    split
    · exact within_call trivial fun _ =>
        within_bind (lastError_reports.mono reports_channelCall fun _ h => h) fun _ _ =>
          within_fail _
    · exact within_ret rfl

theorem trySend_calls (d : SharedChannelData T) (t : T) :
    (Transmitter.trySend d t).Within (ChannelCall d.epollFd) fun r =>
      r.2.epollFd = d.epollFd := by
  unfold Transmitter.trySend
  simp -zeta only [sys_eq, call_bind, ret_bind]
  refine within_call trivial ?_
  intro _
  split
  · exact within_call trivial fun _ => within_ret rfl
  · extract_lets d₁ tail
    have htail : ∀ d₂ : SharedChannelData T, d₂.epollFd = d.epollFd →
        (tail d₂).Within (ChannelCall d.epollFd) fun r => r.2.epollFd = d.epollFd :=
      fun d₂ hd₂ => within_call trivial fun _ => within_ret hd₂
    split
    · exact within_bind (signalReceiver_calls d₁) htail
    · exact htail d₁ rfl

theorem dropTransmitter_calls (d : SharedChannelData T) :
    (Transmitter.drop ws d).Within (ChannelCall d.epollFd) fun d' =>
      d'.epollFd = d.epollFd := by
  unfold Transmitter.drop
  simp -zeta only [sys_eq, call_bind, ret_bind]
  refine within_call trivial ?_
  intro _
  extract_lets d₁ tail
  have htail : ∀ d₂ : SharedChannelData T, d₂.epollFd = d.epollFd →
      (tail d₂).Within (ChannelCall d.epollFd) fun d' => d'.epollFd = d.epollFd :=
    fun d₂ hd₂ => within_call trivial fun _ => within_ret hd₂
  split
  · exact within_bind (signalReceiver_calls d₁) htail
  · exact htail d₁ rfl

theorem transmitterMethod_calls {d : SharedChannelData T} {m : Method T}
    {p : Io (SharedChannelData T)} (h : transmitterMethod ws d m = some p) :
    p.Within (ChannelCall d.epollFd) fun d' => d'.epollFd = d.epollFd := by
  unfold transmitterMethod at h
  split at h
  · cases h
    exact within_bind (trySend_calls d _) fun r hr => within_ret hr
  · cases h
    exact within_call trivial fun _ => within_call trivial fun _ => within_ret rfl
  · cases h
    exact dropTransmitter_calls d
  · cases h

/-! ## `BlockingReceiver` -/

theorem recvTurn_calls (d : SharedChannelData T) :
    (BlockingReceiver.recvTurn d).Within (ChannelCall d.epollFd) fun turn =>
      (Turn.data d turn).epollFd = d.epollFd := by
  unfold BlockingReceiver.recvTurn
  split
  · exact within_call trivial fun _ => within_ret rfl
  · split
    · exact within_call trivial fun _ => within_ret rfl
    · exact within_call trivial fun _ => within_fail _

theorem recvOptTurn_calls (d : SharedChannelData T) :
    (BlockingReceiver.recvOptTurn d).Within (ChannelCall d.epollFd) fun turn =>
      (Turn.data d turn).epollFd = d.epollFd := by
  unfold BlockingReceiver.recvOptTurn
  split
  · exact within_call trivial fun _ => within_ret rfl
  · refine within_call trivial fun _ => within_ret ?_
    cases d.queue <;> rfl

theorem tryRecv_calls (d : SharedChannelData T) :
    (BlockingReceiver.tryRecv d).Within (ChannelCall d.epollFd) fun r =>
      r.2.epollFd = d.epollFd := by
  refine within_call trivial fun _ => within_call trivial fun _ => within_ret ?_
  cases d.queue with
  | cons t rest => rfl
  | nil =>
    simp only
    split <;> rfl

theorem channelMethod_calls {d : SharedChannelData T} {m : Method T}
    {p : Io (SharedChannelData T)} (h : channelMethod ws d m = some p) :
    p.Within (ChannelCall d.epollFd) fun d' => d'.epollFd = d.epollFd := by
  unfold channelMethod at h
  split at h
  · cases h
    exact within_call trivial fun _ =>
      within_bind (recvTurn_calls d) fun _ h => within_ret h
  · cases h
    exact within_bind (recvTurn_calls d) fun _ h => within_ret h
  · cases h
    exact within_call trivial fun _ =>
      within_bind (recvOptTurn_calls d) fun _ h => within_ret h
  · cases h
    exact within_bind (recvOptTurn_calls d) fun _ h => within_ret h
  · cases h
    exact within_bind (tryRecv_calls d) fun _ h => within_ret h
  · exact transmitterMethod_calls h

theorem blockingReceiver_drop_calls (d : SharedChannelData T) (fd : Fd) :
    (BlockingReceiver.drop Destructor.inert d).Within (ChannelCall fd) fun _ => True := by
  rw [BlockingReceiver.drop_inert]
  exact within_call trivial fun _ => within_call trivial fun _ => within_ret trivial

/-! ## `Receiver` -/

/-- The receiver in the same box, with the same eventfd. -/
def SameReceiver (r : Receiver) (d : SharedChannelData T) (o : Object T) : Prop :=
  ∃ r' d', o = .receiver r' d' ∧ r'.processFunc = r.processFunc ∧ d'.epollFd = d.epollFd

theorem SameReceiver.holding {r : Receiver} {d : SharedChannelData T} {o : Object T}
    (h : SameReceiver r d o) : o.holding = (Object.receiver r d).holding := by
  obtain ⟨r', d', rfl, hptr, hfd⟩ := h
  simp only [Object.holding, hptr, hfd]

theorem receiver_recvTurn_calls (r : Receiver) (d : SharedChannelData T) :
    (r.recvTurn d).Within (ChannelCall d.epollFd) fun turn =>
      SameReceiver r d (Turn.receiver r d turn) := by
  refine within_bind (recvTurn_calls d) fun turn hturn => within_ret ?_
  cases turn with
  | wait => exact ⟨r, d, rfl, rfl, rfl⟩
  | done a => exact ⟨_, a.2, rfl, rfl, hturn⟩

theorem receiver_recv_calls (r : Receiver) (d : SharedChannelData T) :
    (r.recv d).Within (ChannelCall d.epollFd) fun turn =>
      SameReceiver r d (Turn.receiver r d turn) := by
  unfold Receiver.recv
  split
  · exact within_call trivial fun _ => receiver_recvTurn_calls r d
  · exact within_ret ⟨r, d, rfl, rfl, rfl⟩

theorem receiverMethod_calls {r : Receiver} {d : SharedChannelData T} {q : EventQueueImpl}
    {m : Method T} {p : Io (Object T × EventQueueImpl)}
    (h : receiverMethod ws r d q m = some p) :
    p.Within (ChannelCall d.epollFd) fun x => SameReceiver r d x.1 := by
  unfold receiverMethod at h
  split at h
  · cases h
    exact within_bind (receiver_recv_calls r d) fun _ h => within_ret h
  · cases h
    exact within_bind (receiver_recvTurn_calls r d) fun _ h => within_ret h
  · cases h
    exact within_call trivial fun _ => within_call trivial fun _ =>
      within_ret ⟨_, _, rfl, rfl, rfl⟩
  · obtain ⟨p', hp', rfl⟩ := Option.map_eq_some_iff.mp h
    exact within_bind (transmitterMethod_calls hp') fun d' hd' =>
      within_ret ⟨r, d', rfl, rfl, hd'⟩

theorem readEventfd_calls (d : SharedChannelData T) (mask : UInt32) :
    (Receiver.readEventfd d mask).Within (ChannelCall d.epollFd) fun _ => True := by
  unfold Receiver.readEventfd
  split
  · exact within_call rfl fun _ => within_ret trivial
  · exact within_ret trivial

end Revbio.Epoll
