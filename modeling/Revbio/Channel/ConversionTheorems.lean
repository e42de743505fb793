/-
Revbio.Channel.ConversionTheorems — from a BlockingReceiver to a Receiver.

`LosesNothing` is the promise of `from_blocking_receiver`, for a client
that runs its event loop while nobody sends any more: it stops, and by
then it has received what `try_recv` would have returned, and the end of
the channel if every Transmitter has gone. It is kept unless the channel
is dead and still has messages: then only the end is reported, and no
credit is given for the messages before it (`losesNothing_iff`).
-/
import Revbio.Channel.ClientTheorems

namespace Revbio.Channel

open Transition

variable {T : Type} {ws : WordSize} {info : SourceId}

/-- A client started in `c₀` receives `q₀` and no more, whatever the tasks
with the Transmitters and the other sources do, except send. -/
structure Delivers (ws : WordSize) (info : SourceId) (q₀ : List T) (c₀ : Client T) :
    Prop where
  /-- the number of its own steps is bounded -/
  stops : ∃ n, ∀ tr c, Run (ClientStep ws info) c₀ tr c → (∀ a ∈ tr, a.isSend = false) →
    ownSteps tr ≤ n + reportCost tr
  /-- only the end of its loop makes it stop -/
  goesOn : ∀ tr c, Run (ClientStep ws info) c₀ tr c → (∀ a ∈ tr, a.isSend = false) →
    ¬ c.Ended → ∃ c', c.next ws info = some c'
  /-- and there it has received everything, and the end if there is one -/
  all : ∀ tr c, Run (ClientStep ws info) c₀ tr c → (∀ a ∈ tr, a.isSend = false) →
    c.Ended → c.got = q₀ ∧ (c.phase = .closed ↔ c.channel.live = [])

/-- Converting the BlockingReceiver of `s₀` loses nothing. -/
def LosesNothing (ws : WordSize) (this : Ptr) (info : SourceId) (fd : Fd)
    (s₀ : ChannelState T) : Prop :=
  ∃ o s₁, Step ws s₀ ⟨.fromBlockingReceiver this info fd, o⟩ s₁ ∧
    ∀ fuel, s₀.data.queue.length ≤ fuel →
      Delivers ws info (tryRecvs ws fuel s₀) (Client.start s₁)

/-! ## The messages `try_recv` returns -/

theorem tryRecv_cons {s : ChannelState T} {t : T} {rest : List T} (hport : s.port = .blocking)
    (htask : s.task = .running) (hq : s.data.queue = t :: rest) :
    step ws s .tryRecv = some (.data t, s.take rest) := by
  have hrun := run_tryRecv s.data (s.kernel (-1))
  simp only [hq] at hrun
  simp only [step, if_pos (And.intro hport htask), exec_returned _ hrun]
  rfl

theorem tryRecv_nil {s : ChannelState T} (hport : s.port = .blocking)
    (htask : s.task = .running) (hq : s.data.queue = []) :
    step ws s .tryRecv =
      some (if s.data.nrSenders = 0 then .ended else .empty, s.take []) := by
  have hrun := run_tryRecv s.data (s.kernel (-1))
  simp only [hq] at hrun
  simp only [step, if_pos (And.intro hport htask), exec_returned _ hrun]
  split <;> rfl

/-- Repeated `try_recv` returns the queue. -/
theorem tryRecvs_eq {s : ChannelState T} {fuel : Nat} (hport : s.port = .blocking)
    (htask : s.task = .running) (hfuel : s.data.queue.length ≤ fuel) :
    tryRecvs ws fuel s = s.data.queue := by
  induction fuel generalizing s with
  | zero => exact (List.length_eq_zero_iff.mp (Nat.le_zero.mp hfuel)).symm
  | succ fuel ih =>
    cases hq : s.data.queue with
    | nil =>
      have hnil := @tryRecv_nil _ ws s hport htask hq
      by_cases hs : s.data.nrSenders = 0
      · rw [if_pos hs] at hnil
        simp only [tryRecvs, hnil]
      · rw [if_neg hs] at hnil
        simp only [tryRecvs, hnil]
    | cons t rest =>
      rw [hq, List.length_cons] at hfuel
      have hrest : tryRecvs ws fuel (s.take rest) = rest :=
        ih (s := s.take rest) hport htask (Nat.le_of_succ_le_succ hfuel)
      simp only [tryRecvs, tryRecv_cons hport htask hq, hrest]

/-! ## The conversion -/

/-- The messages a conversion leaves behind. -/
def leftBehind (s : ChannelState T) : Nat :=
  if s.data.nrSenders = 0 then s.data.queue.length else 0

/-- A client starts out served. -/
theorem start_serving {s₀ s₁ : ChannelState T} {this : Ptr} {fd : Fd} {o : Out T}
    (hi : Inv s₀) (hfresh : ∀ ev ∈ s₀.events.readyEvents, ev.sourceInfo ≠ info)
    (hs : Step ws s₀ ⟨.fromBlockingReceiver this info fd, o⟩ s₁) :
    Serving info s₀.data.queue (leftBehind s₀) (Client.start s₁) := by
  have hi₁ := step_inv hi hs
  have hmine := mine_eq_nil hfresh
  obtain ⟨hport, htask, ⟨hnr, -, rfl⟩ | ⟨hnr, hq, -, rfl⟩ | ⟨hnr, hq, -, rfl⟩⟩ :=
    (step_effect hs).of_attach
  · have hnone := (hi.blocking hport).1
    refine ⟨hi₁, rfl, by simp, by simp,
      .closing (m := 0) rfl rfl htask (by simp) (by simp) ?_ rfl ?_
        (hi.nrSenders_eq_zero.mp hnr) ?_⟩
    · simp [hmine, mine_cons]
    · simp [leftBehind, hnr]
    · simp [ChannelState.counter, ChannelState.attach, hnone]
  · have hlive : s₀.live ≠ [] := fun hl => hnr (hi.nrSenders_eq_zero.mpr hl)
    exact ⟨hi₁, rfl, by simp, by simp,
      .opened (m := 0) (if_neg hnr) rfl rfl (by simp [htask])
        (by simp) hmine rfl (Nat.zero_le _)
        (fun hlt => by simp [hq] at hlt) fun hl => absurd hl hlive⟩
  · have hlive : s₀.live ≠ [] := fun hl => hnr (hi.nrSenders_eq_zero.mpr hl)
    exact ⟨hi₁, rfl, by simp, by simp,
      .opened (m := 0) (if_neg hnr) rfl rfl (by simp [htask])
        (by simp) hmine rfl (Nat.zero_le _)
        (fun _ => outstanding_write rfl rfl) fun hl => absurd hl hlive⟩

/-- A client that is served gets all but what was left behind. -/
theorem Serving.delivers_iff {q₀ : List T} {b : Nat} {c₀ : Client T}
    (h : Serving info q₀ b c₀) : Delivers ws info q₀ c₀ ↔ b = 0 := by
  constructor
  · intro hd
    obtain ⟨tr, c, hrun, hns, hc, hend⟩ := @Serving.exists_end T ws info q₀ b c₀ h
    obtain ⟨hgot, -⟩ := hd.all tr c hrun hns hend
    have hq := hc.order
    rw [hgot, List.append_right_eq_self] at hq
    rw [← (hc.ended hend).1, hq, List.length_nil]
  · intro hb
    refine ⟨⟨c₀.rank, fun tr c hrun hns => ?_⟩, fun tr c hrun hns hne => ?_,
      fun tr c hrun hns hend => ?_⟩
    · have hle := (h.run hrun hns).2
      omega
    · exact (h.run hrun hns).1.goes_on hne
    · have hc := (h.run hrun hns).1
      obtain ⟨hlen, hcl⟩ := hc.ended hend
      have hq : c.channel.data.queue = [] := List.length_eq_zero_iff.mp (hlen.trans hb)
      exact ⟨by rw [← hc.order, hq, List.append_nil], hcl⟩

/-- The conversion is possible wherever a BlockingReceiver is at hand. -/
theorem attach_possible {s : ChannelState T} (this : Ptr) (info : SourceId) {fd : Fd}
    (hport : s.port = .blocking) (htask : s.task = .running) (hfd : 0 ≤ fd) :
    ∃ o s₁, Step ws s ⟨.fromBlockingReceiver this info fd, o⟩ s₁ := by
  simp only [Step, step, if_pos (And.intro hport (And.intro htask hfd))]
  exact ⟨_, _, rfl⟩

/-- **A conversion loses nothing, exactly** when a Transmitter is alive or
the queue is empty. -/
theorem losesNothing_iff {events : EventQueueImpl} {tr : List (Label T)}
    {s₀ : ChannelState T} {this : Ptr} {fd : Fd} (h : RunFrom ws events tr s₀)
    (hport : s₀.port = .blocking) (htask : s₀.task = .running) (hfd : 0 ≤ fd)
    (hfresh : ∀ ev ∈ s₀.events.readyEvents, ev.sourceInfo ≠ info) :
    LosesNothing ws this info fd s₀ ↔ s₀.data.nrSenders ≠ 0 ∨ s₀.data.queue = [] := by
  have hi := run_inv h
  have hleft : leftBehind s₀ = 0 ↔ s₀.data.nrSenders ≠ 0 ∨ s₀.data.queue = [] := by
    unfold leftBehind
    split <;> simp_all
  rw [← hleft]
  constructor
  · intro h
    obtain ⟨o, s₁, hs, hd⟩ := h
    have hdel := hd _ (Nat.le_refl _)
    rw [tryRecvs_eq hport htask (Nat.le_refl _)] at hdel
    exact (start_serving hi hfresh hs).delivers_iff.mp hdel
  · intro hzero
    obtain ⟨o, s₁, hs⟩ := @attach_possible _ ws _ this info _ hport htask hfd
    refine ⟨o, s₁, hs, fun fuel hfuel => ?_⟩
    rw [tryRecvs_eq hport htask hfuel]
    exact (start_serving hi hfresh hs).delivers_iff.mpr hzero

/-- Two messages are queued and `try_recv` has taken one; the Receiver is
attached with a Transmitter alive. -/
theorem losesNothing_iff_live :
    ∃ tr s₀, perform .w64 (initial Nat ⟨3, [Event.new .timerEvent 9]⟩)
        [.trySend 0 1, .trySend 0 2, .tryRecv] = some (tr, s₀) ∧
      (s₀.port = .blocking ∧ s₀.task = .running ∧ s₀.data.nrSenders = 1 ∧
        ∀ ev ∈ s₀.events.readyEvents, ev.sourceInfo ≠ 5) ∧
      (LosesNothing .w64 100 5 4 s₀ ↔ s₀.data.nrSenders ≠ 0 ∨ s₀.data.queue = []) :=
  perform_ends ⟨_, _, rfl, by decide⟩ fun _ _ h hs =>
    losesNothing_iff h hs.1 hs.2.1 (by decide) hs.2.2.2

/-- A message is queued and the only Transmitter has gone: the first event
is the end, and the client stops with nothing received. -/
theorem losesNothing_fails :
    ∃ tr s₀, perform .w64 (initial Nat ⟨3, []⟩) [.trySend 0 1, .dropTransmitter 0] =
        some (tr, s₀) ∧
      (s₀.port = .blocking ∧ s₀.task = .running ∧ tryRecvs .w64 1 s₀ = [1]) ∧
      ¬ LosesNothing .w64 100 5 4 s₀ := by
  refine ⟨_, _, rfl, by decide, ?_⟩
  intro h
  obtain ⟨o, s₁, hs, hd⟩ := h
  obtain ⟨-, rfl⟩ := Prod.mk.inj (Option.some.inj hs)
  have hall := (hd 1 (by decide)).all [.next] _ (.one rfl) (by decide) (.inl rfl)
  exact absurd hall.1 (by decide)

end Revbio.Channel
