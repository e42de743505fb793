/-
Revbio.Channel.BlockingTheorems — a channel with a BlockingReceiver: no
receiver waits in vain, messages arrive in the order of the sends, and the
end of the stream is final.

Runs are not restricted to the blocking mode. Where a statement is about a
BlockingReceiver its state says so (`port = .blocking`, or a task that
waits in one of its loops).
-/
import Revbio.Channel.HistoryTheorems

namespace Revbio.Channel

variable {T : Type} {ws : WordSize}

/-! ## No lost wake-up -/

/-- A task that waits on the condition, with no signal delivered, has
nothing to receive and somebody to hear from. -/
theorem waiter_not_stranded {events : EventQueueImpl} {tr : List (Label T)}
    {s : ChannelState T} {b : BlockedIn} (h : RunFrom ws events tr s)
    (htask : s.task = .waiting b) :
    s.data.epollFd = -1 ∧ s.data.queue = [] ∧ s.live ≠ [] := by
  have hi := run_inv h
  cases hi.mode with
  | blocking _ he hb => exact ⟨hi.fd.of_none he, hb.waiting b htask⟩
  | attached _ _ h => rcases h.task with h' | h' <;> simp [htask] at h'
  | dead _ _ h => exact absurd (htask.symm.trans h.task) (by simp)
  | gone _ _ h => simp [htask] at h

/-- The receiver takes the first of two messages, the second arrives
unsignalled and is taken by `try_recv`, and then `recv_opt` waits. -/
theorem waiter_not_stranded_run :
    ∃ tr s, perform .w64 (initial Nat ⟨3, []⟩)
        [.trySend 0 7, .recv, .trySend 0 8, .clone 0 1, .tryRecv, .dropTransmitter 0,
          .recvOpt] = some (tr, s) ∧
      s.task = .waiting .recvOpt ∧
      s.data.epollFd = -1 ∧ s.data.queue = [] ∧ s.live ≠ [] :=
  perform_ends ⟨_, _, rfl, rfl⟩ fun _ _ h htask => waiter_not_stranded h htask

/-! ## The end of the stream -/

/-- Outcomes that report the end: `recv` fails, `recv_opt` returns `None`,
`try_recv` returns `Disconnected`. -/
def Out.isEnd : Out T → Bool
  | .ended => true
  | .failed _ => true
  | _ => false

/-- How each receive call of a BlockingReceiver reports the end. -/
def endReport : Act T → Out T
  | .recv => .failed "Remote channels are dead"
  | _ => .ended

/-- Everything has been received and nobody is left to send. -/
structure AtEnd (s : ChannelState T) : Prop where
  live : s.live = []
  queue : s.data.queue = []
  task : s.port = .blocking → s.task = .running

/-- The end is reported at the end only. -/
theorem Effect.isEnd {s s' : ChannelState T} {l : Label T} (hi : Inv s)
    (h : Effect ws s l s') (ho : l.out.isEnd = true) :
    s.port ≠ .dropped ∧ s.live = [] ∧ s.data.queue = [] ∧ AtEnd s' := by
  cases h with
  | turnEnd ha hq hs =>
    have hl := hi.nrSenders_eq_zero.mp hs
    exact ⟨turnOf_not_dropped ha, hl, hq, hl, rfl, fun _ => rfl⟩
  | turnFail ha _ hq hs =>
    have hl := hi.nrSenders_eq_zero.mp hs
    exact ⟨turnOf_not_dropped ha, hl, hq, hl, hq, fun _ => rfl⟩
  | tryRecvEnd hport htask hq hs =>
    have hl := hi.nrSenders_eq_zero.mp hs
    exact ⟨by simp [hport], hl, hq, hl, rfl, fun _ => htask⟩
  | _ => cases ho

/-- The end is final. -/
theorem Effect.atEnd {s s' : ChannelState T} {l : Label T} (h : Effect ws s l s')
    (hi : Inv s) (he : AtEnd s) : AtEnd s' := by
  obtain ⟨hl, hq, ht⟩ := he
  refine ⟨h.dead hl, ?_, ?_⟩
  · by_cases hd : s'.port = .dropped
    · exact (h.inv hi).empty hd
    · have hqueue := h.queue hd
      rw [hq, h.accepted_dead hl] at hqueue
      exact (List.append_eq_nil_iff.mp hqueue.symm).2
  · cases h with
    | sendSignal htx => simp [hl] at htx
    | dropSignal htx => simp [hl] at htx
    | turnWait _ _ hs => exact absurd (hi.nrSenders_eq_zero.mpr hl) hs
    | turnData _ hq' => simp [hq] at hq'
    | turnEnd => exact fun _ => rfl
    | turnFail => exact fun _ => rfl
    | tryRecvEnd _ htask => exact fun _ => htask
    | spuriousWakeup htask =>
      intro hport
      rw [ht hport] at htask
      cases htask
    | callbackRead hport => simp [hport]
    | callbackLock => exact fun _ => rfl
    | _ => simp_all

/-- At the end every receive call reports the end. -/
theorem AtEnd.report {s : ChannelState T} {call : Act T} (hi : Inv s) (he : AtEnd s)
    (hcall : call ∈ [.recv, .recvOpt, .tryRecv]) (hport : s.port = .blocking) :
    (step ws s call).map Prod.fst = some (endReport call) := by
  have hs := hi.nrSenders_eq_zero.mpr he.live
  have hb := And.intro hport (he.task hport)
  simp only [List.mem_cons, List.not_mem_nil, or_false] at hcall
  rcases hcall with rfl | rfl | rfl
  · have hrun := run_recv s.data (s.kernel (-1))
    simp only [run_recvTurn, he.queue, if_pos hs] at hrun
    simp only [step, if_pos hb, exec_failed _ hrun, Option.map_some, endReport]
  · have hrun := run_recvOpt s.data (s.kernel (-1))
    simp only [run_recvOptTurn, he.queue, if_pos hs] at hrun
    simp only [step, if_pos hb, exec_returned _ hrun, Option.map_some, endReport, endRecvOpt]
  · have hrun := run_tryRecv s.data (s.kernel (-1))
    simp only [he.queue, if_pos hs] at hrun
    simp only [step, if_pos hb, exec_returned _ hrun, Option.map_some, endReport, endTryRecv]

/-! ## FIFO delivery and the end of the stream -/

/-- What a channel promises after the run `tr`, which has led to `s`. -/
structure Stream (ws : WordSize) (tr : List (Label T)) (s : ChannelState T) : Prop where
  /-- what was delivered and what is queued is what was accepted, in the
  order of the sends -/
  order : s.port ≠ .dropped → received tr ++ s.data.queue = (accepted tr).map Prod.snd
  /-- in particular each Transmitter's messages keep their order -/
  ownOrder : s.port ≠ .dropped → ∀ tx,
    (acceptedFrom tx tr).Sublist (received tr ++ s.data.queue)
  /-- `nr_senders` counts the Transmitters -/
  senders : s.live.Nodup ∧ s.data.nrSenders = s.live.length
  /-- and is positive where a destructor takes 1 off it -/
  noUnderflow : ∀ tx o s', Step ws s ⟨.dropTransmitter tx, o⟩ s' →
    1 ≤ s.data.nrSenders ∧ s'.data.nrSenders = s.data.nrSenders - 1
  /-- the end is reported when everybody has gone and all is received -/
  ending : ∀ l s', Step ws s l s' → l.out.isEnd = true →
    s.live = [] ∧ received tr = (accepted tr).map Prod.snd
  /-- and then by every receive call that follows -/
  final : ∀ l s' tr' u, Step ws s l s' → l.out.isEnd = true →
    Transition.Run (Step ws) s' tr' u → u.port = .blocking →
    u.task = .running ∧ ∀ call ∈ [.recv, .recvOpt, .tryRecv],
      (step ws u call).map Prod.fst = some (endReport call)
  /-- after the receiver there is no queue, and a send changes nothing -/
  dropped : s.port = .dropped → s.data.queue = [] ∧
    ∀ tx t o s', Step ws s ⟨.trySend tx t, o⟩ s' → o = .sent false ∧ s' = s

theorem atEnd_run {s s' : ChannelState T} {tr : List (Label T)} (hi : Inv s)
    (he : AtEnd s) (h : Transition.Run (Step ws) s tr s') : Inv s' ∧ AtEnd s' :=
  h.invariant (I := fun u => Inv u ∧ AtEnd u) ⟨hi, he⟩ fun _ _ _ hu hs =>
    ⟨step_inv hu.1 hs, (step_effect hs).atEnd hu.1 hu.2⟩

/-- A destructor of a Transmitter counts down from a positive number. -/
theorem Effect.leave_count {s s' : ChannelState T} {tx : TxId} {o : Out T} (hi : Inv s)
    (h : Effect ws s ⟨.dropTransmitter tx, o⟩ s') :
    1 ≤ s.data.nrSenders ∧ s'.data.nrSenders = s.data.nrSenders - 1 := by
  have hpos : tx ∈ s.live → 1 ≤ s.data.nrSenders := fun htx => by
    rw [hi.senders]
    exact List.length_pos_iff.mpr (List.ne_nil_of_mem htx)
  cases h with
  | dropQuiet htx => exact ⟨hpos htx, WordSize.uintSub_of_le ws (hpos htx)⟩
  | dropSignal htx => exact ⟨hpos htx, WordSize.uintSub_of_le ws (hpos htx)⟩
  | dropWrite htx => exact ⟨hpos htx, WordSize.uintSub_of_le ws (hpos htx)⟩
  | turnWait ha => simp [turnOf] at ha
  | turnData ha => simp [turnOf] at ha
  | turnEnd ha => simp [turnOf] at ha
  | turnFail ha => simp [turnOf] at ha

/-- A send to a dropped receiver is refused. -/
theorem Effect.send_dropped {s s' : ChannelState T} {tx : TxId} {t : T} {o : Out T}
    (hi : Inv s) (hd : s.port = .dropped) (h : Effect ws s ⟨.trySend tx t, o⟩ s') :
    o = .sent false ∧ s' = s := by
  have ha := hi.alive.mpr hd
  cases h with
  | sendDead => exact ⟨rfl, rfl⟩
  | sendQuiet _ halive => simp [ha] at halive
  | sendSignal _ halive => simp [ha] at halive
  | sendWrite _ halive => simp [ha] at halive
  | turnWait hturn => simp [turnOf] at hturn
  | turnData hturn => simp [turnOf] at hturn
  | turnEnd hturn => simp [turnOf] at hturn
  | turnFail hturn => simp [turnOf] at hturn

theorem stream_of_run {events : EventQueueImpl} {tr : List (Label T)} {s : ChannelState T}
    (h : RunFrom ws events tr s) : Stream ws tr s where
  order := delivered h
  ownOrder hd tx := by
    rw [delivered h hd]
    exact acceptedFrom_sublist tx tr
  senders := ⟨run_live_nodup h, (run_inv h).senders⟩
  noUnderflow tx o s' hstep := (step_effect hstep).leave_count (run_inv h)
  ending l s' hstep ho := by
    have hi := run_inv h
    obtain ⟨hd, hl, hq, -⟩ := (step_effect hstep).isEnd hi ho
    exact ⟨hl, by rw [← delivered h hd, hq, List.append_nil]⟩
  final l s' tr' u hstep ho hrun hport := by
    have hi := run_inv h
    obtain ⟨-, -, -, he⟩ := (step_effect hstep).isEnd hi ho
    obtain ⟨hu, heu⟩ := atEnd_run (step_inv hi hstep) he hrun
    exact ⟨heu.task hport, fun call hcall => heu.report hu hcall hport⟩
  dropped hd :=
    ⟨(run_inv h).empty hd, fun tx t o s' hstep =>
      (step_effect hstep).send_dropped (run_inv h) hd⟩

/-- Two Transmitters send in turn and go, the receiver takes the messages
with three different calls, and the third and a fourth report the end. -/
theorem stream_of_run_two_senders :
    ∃ tr s, perform .w64 (initial Nat ⟨3, []⟩)
        [.clone 0 1, .trySend 0 10, .trySend 1 20, .tryRecv, .dropTransmitter 0,
          .recv, .recvOpt, .dropTransmitter 1, .reacquire, .tryRecv] = some (tr, s) ∧
      (received tr = [10, 20] ∧ s.live = []) ∧ Stream .w64 tr s :=
  perform_ends ⟨_, _, rfl, by decide⟩ fun _ _ h _ => stream_of_run h

end Revbio.Channel
