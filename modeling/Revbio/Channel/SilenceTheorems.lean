/-
Revbio.Channel.SilenceTheorems — a Receiver that has missed a message.

A message that is not announced, with no wake-up under way, keeps the queue
longer than the credit (`Missed`; `announced_iff` says when that comes
about). From then on no send finds the queue empty, so none writes to the
eventfd, and the callback that would announce is not called: the Receiver
hears nothing of all that is sent, and it can take no more than had been
announced. The drop of the last Transmitter is what ends this.
-/
import Revbio.Channel.CloseTheorems
import Revbio.Channel.ClientTheorems

namespace Revbio.Channel

open Transition

variable {T : Type} {ws : WordSize} {s₀ s s' : ChannelState T} {r₀ r : Receiver}
  {tr : List (Label T)} {l : Label T}

/-- A message that is not announced, and no wake-up under way. -/
structure Missed (s : ChannelState T) (r : Receiver) : Prop where
  port : s.port = .attached r
  more : r.availableMessages < s.data.queue.length
  quiet : ¬ Outstanding s

theorem missed_of_not_announced (h : ¬ Announced s) : ∃ r, Missed s r := by
  simp only [Announced, not_forall] at h
  obtain ⟨r, hport, hmore, hquiet⟩ := h
  exact ⟨r, hport, hmore, hquiet⟩

/-- The Receiver has been dropped. -/
def ChannelState.Gone (s : ChannelState T) : Prop := s.port = .detached ∨ s.port = .dropped

/-- The Receiver after `n` receives. -/
def spend (r : Receiver) (n : Nat) : Receiver :=
  { r with availableMessages := r.availableMessages - n }

@[simp] theorem spend_zero (r : Receiver) : spend r 0 = r := rfl

theorem spend_spend (r : Receiver) (m n : Nat) : spend (spend r m) n = spend r (m + n) := by
  simp [spend, Nat.sub_sub]

/-! ## One step -/

theorem Missed.not_notified (h : Missed s r) (hi : Inv s) (hlive : s.live ≠ []) :
    s.data.receiverNotified = false := by
  by_contra hnotified
  have hflag := (hi.flag h.port hlive).mp (by simpa using hnotified)
  exact h.quiet (hi.outstanding_iff.mpr hflag)

theorem Missed.queue_ne_nil (h : Missed s r) : s.data.queue ≠ [] := by
  intro hnil
  have hmore := h.more
  rw [hnil, List.length_nil] at hmore
  omega

/-- The Receiver has its eventfd. -/
theorem Missed.epollFd (h : Missed s r) (hi : Inv s) (hlive : s.live ≠ []) :
    s.data.epollFd ≠ -1 := by
  intro hfd
  have hnone := hi.eventfd_none.mp hfd
  cases hi.mode with
  | blocking hp => simp [h.port] at hp
  | attached _ he => simp [hnone] at he
  | dead _ _ hd => exact hlive hd.live
  | gone hp => simp [h.port] at hp

/-- What a step does to a Receiver that has missed a message: the end is in
sight, or it is as deaf as before. -/
theorem Effect.missed (hi : Inv s) (hm : Missed s r) (hlive : s.live ≠ [])
    (h : Effect ws s l s') :
    s'.live = [] ∨ s'.Gone ∨
      (l.received.toList.length ≤ r.availableMessages ∧ l.pushed = [] ∧
        Missed s' (spend r l.received.toList.length)) := by
  have hne := hm.queue_ne_nil
  have hfd := hm.epollFd hi hlive
  have hflag := hm.not_notified hi hlive
  have hport := hm.port
  have hblocking : s.port ≠ .blocking := by simp [hport]
  -- a step that leaves the Receiver's end alone
  have hsame : l.received = none → l.pushed = [] → s'.port = s.port →
      s.data.queue.length ≤ s'.data.queue.length → (Outstanding s' → Outstanding s) →
      s'.live = [] ∨ s'.Gone ∨
        (l.received.toList.length ≤ r.availableMessages ∧ l.pushed = [] ∧
          Missed s' (spend r l.received.toList.length)) := by
    intro hreceived hpushed hport' hlen hout
    rw [hreceived]
    refine .inr (.inr ⟨Nat.zero_le _, hpushed, hport'.trans hport, ?_, fun h => hm.quiet (hout h)⟩)
    exact Nat.lt_of_lt_of_le hm.more hlen
  cases h with
  | sendDead => exact hsame rfl rfl rfl (Nat.le_refl _) id
  | sendQuiet => exact hsame rfl rfl rfl (by simp) id
  | sendSignal _ _ hq => exact absurd hq hne
  | sendWrite _ _ hq => exact absurd hq hne
  | clone => exact hsame rfl rfl rfl (Nat.le_refl _) id
  | dropQuiet => exact hsame rfl rfl rfl (Nat.le_refl _) id
  | dropSignal _ _ _ hnone => exact absurd hnone hfd
  | @dropWrite tx htx hzero =>
    rw [hi.leave_senders htx] at hzero
    exact .inl (List.length_eq_zero_iff.mp hzero)
  | turnWait _ hq => exact absurd hq hne
  | @turnData a b t rest ha hq =>
    rcases turnOf_some ha with ⟨hp, -⟩ | ⟨r', hp, rfl, hturn⟩
    · exact absurd hp hblocking
    cases hport.symm.trans hp
    obtain ⟨e, -, -, -, hpos⟩ := hi.receiverTurn hport hturn
    have hmore := hm.more
    rw [hq, List.length_cons] at hmore
    refine .inr (.inr ⟨hpos, rfl, ?_, ?_, ?_⟩)
    · show s.port.afterData _ = _
      rw [hport]
      rfl
    · show r.availableMessages - 1 < rest.length
      omega
    · rintro (hc | hc)
      · exact hm.quiet (.inl hc)
      · cases hc
  | turnEnd _ hq => exact absurd hq hne
  | turnFail _ _ hq => exact absurd hq hne
  | tryRecvData hp => exact absurd hp hblocking
  | tryRecvEmpty hp => exact absurd hp hblocking
  | tryRecvEnd hp => exact absurd hp hblocking
  | noCredit => exact hsame rfl rfl rfl (Nat.le_refl _) id
  | spuriousWakeup =>
    refine hsame rfl rfl rfl (Nat.le_refl _) ?_
    rintro (hc | hc)
    · exact .inl hc
    · cases hc
  | attachDead hp => exact absurd hp hblocking
  | attachEmpty hp => exact absurd hp hblocking
  | attachWrite hp => exact absurd hp hblocking
  | dropReceiver => exact .inr (.inl (.inl rfl))
  | dropReceiverClose => exact .inr (.inl (.inl rfl))
  | dropBlockingReceiver => exact .inr (.inl (.inr rfl))
  | callbackRead _ _ he hpos =>
    refine absurd (.inl ?_) hm.quiet
    rw [counter_of_some he]
    exact hpos
  | callbackStray _ _ he hpos =>
    refine absurd (.inl ?_) hm.quiet
    rw [counter_of_some he]
    exact hpos
  | callbackLock _ htask => exact absurd (.inr htask) hm.quiet
  | otherEvents => exact hsame rfl rfl rfl (Nat.le_refl _) id

/-- The last Transmitter does not go unheard. -/
theorem Effect.last_heard (hi : Inv s) (hport : s.port = .attached r) (hlive : s.live ≠ [])
    (h : Effect ws s l s') (hnone : s'.live = []) : Outstanding s' := by
  have hlast : l.act.bySender = true → (∀ tx t, l.act ≠ .trySend tx t) → Outstanding s' :=
    fun hby hsend => (h.noNews hi hport hby hsend).last hnone
  cases h with
  | clone => cases hnone
  | dropQuiet => exact hlast rfl (by simp)
  | dropSignal => exact hlast rfl (by simp)
  | dropWrite => exact hlast rfl (by simp)
  | _ => exact absurd hnone hlive

/-! ## Runs -/

/-- What a Receiver `r₀` that has missed a message gets afterwards. -/
structure Silence (r₀ : Receiver) (s₀ : ChannelState T) (tr : List (Label T))
    (s : ChannelState T) : Prop where
  /-- no message beyond those it has credit for, -/
  credit : (received tr).length ≤ r₀.availableMessages
  /-- no event, -/
  pushes : pushes tr = []
  /-- and all that is sent stays in the queue -/
  order : s₀.data.queue ++ (accepted tr).map Prod.snd = received tr ++ s.data.queue
  missed : Missed s (spend r₀ (received tr).length)

theorem Silence.step (h : Silence r₀ s₀ tr s) (hi : Inv s) (hlive : s.live ≠ [])
    (hstep : Effect ws s l s') : s'.live = [] ∨ s'.Gone ∨ Silence r₀ s₀ (tr ++ [l]) s' := by
  rcases hstep.missed hi h.missed hlive with hnone | hgone | ⟨hcredit, hpushed, hmissed⟩
  · exact .inl hnone
  · exact .inr (.inl hgone)
  · refine .inr (.inr ⟨?_, ?_, ?_, ?_⟩)
    · have hle := h.credit
      have hspent : l.received.toList.length ≤ r₀.availableMessages - (received tr).length :=
        hcredit
      rw [received_snoc, List.length_append]
      omega
    · rw [pushes_snoc, h.pushes, hpushed, List.nil_append]
    · have hfifo := hstep.queue (by simp [hmissed.port])
      rw [received_snoc, accepted_snoc, List.map_append, ← List.append_assoc, h.order,
        List.append_assoc, List.append_assoc, ← Option.toList_map, hfifo]
    · rw [received_snoc, List.length_append, ← spend_spend]
      exact hmissed

/-- **Deaf until the last Transmitter goes.** From any reachable state in
which a message has been missed, whatever is sent: as long as a Transmitter
and the Receiver live, the Receiver gets no event, and no message beyond
those announced before. The drop of the last Transmitter wakes it. -/
theorem deaf_until_last {events : EventQueueImpl} {tr₀ : List (Label T)}
    (h₀ : RunFrom ws events tr₀ s₀) (hmissed : Missed s₀ r₀)
    (h : Run (Step ws) s₀ tr s) (hport : s.port = .attached r) (hlive : s.live ≠ []) :
    Silence r₀ s₀ tr s ∧ ∀ l u, Step ws s l u → u.live = [] → Outstanding u := by
  have hboth : Inv s ∧ (s.live = [] ∨ s.Gone ∨ Silence r₀ s₀ tr s) := by
    refine h.traceInvariant (I := fun tr s =>
      Inv s ∧ (s.live = [] ∨ s.Gone ∨ Silence r₀ s₀ tr s)) ⟨run_inv h₀, ?_⟩ ?_
    · exact .inr (.inr ⟨Nat.zero_le _, rfl, by simp, hmissed⟩)
    · rintro tr s l s' ⟨hi, hs⟩ hstep
      refine ⟨step_inv hi hstep, ?_⟩
      have heffect := step_effect hstep
      by_cases hnone : s.live = []
      · exact .inl (heffect.dead hnone)
      rcases hs with hnone' | hgone | hsilence
      · exact absurd hnone' hnone
      · exact .inr (.inl (heffect.gone hgone).1)
      · exact hsilence.step hi hnone heffect
  obtain ⟨hi, hnone | hgone | hsilence⟩ := hboth
  · exact absurd hnone hlive
  · rcases hgone with hp | hp <;> simp [hport] at hp
  · refine ⟨hsilence, ?_⟩
    intro l u hstep hlast
    exact (step_effect hstep).last_heard hi hport hlive hlast

/-- A Receiver that has taken the first of two messages. -/
def deaf : ChannelState Nat where
  data := ⟨[2], true, 1, false, 4⟩
  live := [0]
  port := .attached ⟨100, 5, 0⟩
  task := .running
  eventfd := some ⟨4, 0⟩
  stray := false
  events := ⟨3, [Event.new .channelMessageEvent 5]⟩

/-- A message is missed, and the next one waits behind it. -/
theorem deaf_until_last_second : ∃ (s : ChannelState Nat) (tr : List (Label Nat)),
    Missed deaf ⟨100, 5, 0⟩ ∧ perform .w64 deaf [.trySend 0 3] = some (tr, s) ∧
      s.data.queue = [2, 3] ∧ Silence ⟨100, 5, 0⟩ deaf tr s ∧
      ∀ l u, Step .w64 s l u → u.live = [] → Outstanding u := by
  obtain ⟨tr₀, s₀, h₀, hs₀⟩ : ∃ tr₀ s₀, perform .w64 (initial Nat ⟨3, []⟩)
      [.fromBlockingReceiver 100 5 4, .trySend 0 1, .callbackRead, .callbackLock,
        .trySend 0 2, .receiverRecv] = some (tr₀, s₀) ∧
      s₀ = deaf := ⟨_, _, rfl, by decide⟩
  subst hs₀
  have hmissed : Missed deaf ⟨100, 5, 0⟩ := ⟨rfl, by decide, by decide⟩
  obtain ⟨hsilence, hlast⟩ := deaf_until_last (perform_run h₀) hmissed
    (@perform_run _ .w64 _ _ [.trySend 0 3] _ rfl) rfl (by decide)
  exact ⟨_, _, hmissed, rfl, rfl, hsilence, hlast⟩

end Revbio.Channel
