/-
Revbio.Channel.CloseTheorems — a Receiver is told of the end of its
channel once, and after everything else.

A Receiver comes out of `from_blocking_receiver`, so its life is a run
from the state after that step. `Reporting` says how far the reports are:
while the end has not been reported, the messages announced and the
messages queued differ by the credit; once it has, every message there
ever was has been announced, and no wake-up is left that could start the
callback again.
-/
import Revbio.Channel.HistoryTheorems

namespace Revbio.Channel

open Transition

variable {T : Type} {ws : WordSize}

/-- The reports for a Receiver that was attached with `n` messages queued,
after the run `tr`. -/
inductive Reporting (n : Nat) (tr : List (Label T)) (s : ChannelState T) : Prop where
  /-- the end has not been reported -/
  | opened {r : Receiver} {e : EventFd} {k : Nat} :
      s.port = .attached r → s.eventfd = some e →
      pushes tr = List.replicate k .channelMessageEvent →
      k + s.data.queue.length = n + (accepted tr).length + r.availableMessages →
      r.availableMessages ≤ s.data.queue.length →
      (s.live = [] → e.counter = 1 ∨ s.task = .callback) → Reporting n tr s
  /-- the callback has reported the end -/
  | closed {r : Receiver} {e : EventFd} :
      s.port = .attached r → s.eventfd = some e →
      pushes tr = List.replicate (n + (accepted tr).length) .channelMessageEvent ++
        [.channelClosedEvent] →
      s.live = [] → e.counter = 0 → s.task = .running → Reporting n tr s
  /-- the Receiver has been dropped before -/
  | goneOpen {k : Nat} : s.port = .detached ∨ s.port = .dropped →
      pushes tr = List.replicate k .channelMessageEvent → Reporting n tr s
  /-- or after that -/
  | goneClosed : s.port = .detached ∨ s.port = .dropped →
      pushes tr = List.replicate (n + (accepted tr).length) .channelMessageEvent ++
        [.channelClosedEvent] →
      s.live = [] → Reporting n tr s

/-! ## One step -/

/-- Without a Receiver nothing is reported. -/
theorem Effect.gone {s s' : ChannelState T} {l : Label T} (h : Effect ws s l s')
    (hg : s.port = .detached ∨ s.port = .dropped) :
    (s'.port = .detached ∨ s'.port = .dropped) ∧ l.pushed = [] := by
  have hb : s.port ≠ .blocking := by rcases hg with hg | hg <;> simp [hg]
  have ha : ∀ r, s.port ≠ .attached r := by rcases hg with hg | hg <;> simp [hg]
  cases h with
  | turnData hturn =>
    rcases turnOf_some hturn with ⟨hport, -⟩ | ⟨r, hport, -⟩
    · exact absurd hport hb
    · exact absurd hport (ha r)
  | attachDead hport => exact absurd hport hb
  | attachEmpty hport => exact absurd hport hb
  | attachWrite hport => exact absurd hport hb
  | dropReceiver hport => exact absurd hport (ha _)
  | dropReceiverClose hport => exact absurd hport (ha _)
  | dropBlockingReceiver => exact ⟨.inr rfl, rfl⟩
  | callbackLock hport => exact absurd hport (ha _)
  | _ => exact ⟨hg, rfl⟩

/-- The callback reports all the messages it has not reported yet, and the
end if it is there. -/
theorem Reporting.callbackLock {n : Nat} {tr : List (Label T)} {s : ChannelState T}
    {r : Receiver} {e : EventFd} {k : Nat} (hi : Inv s) (hport : s.port = .attached r)
    (he : s.eventfd = some e) (htask : s.task = .callback)
    (hk : pushes tr = List.replicate k .channelMessageEvent)
    (hsum : k + s.data.queue.length = n + (accepted tr).length + r.availableMessages)
    (hle : r.availableMessages ≤ s.data.queue.length) :
    Reporting n (tr ++ [⟨.callbackLock, .pushed (s.announced ws r)⟩])
      { s with
        data := { s.data with receiverNotified := false }
        port := .attached (s.credit r)
        task := .running
        events := s.events.pushAll r.eventSourceInfo (s.announced ws r) } := by
  have hnew : ws.uintSub s.data.queue.length r.availableMessages =
      s.data.queue.length - r.availableMessages := WordSize.uintSub_of_le ws hle
  by_cases hl : s.live = []
  · have hs := hi.nrSenders_eq_zero.mpr hl
    have htotal : k + (s.data.queue.length - r.availableMessages) =
        n + (accepted tr).length := by omega
    have hread := (hi.attached hport he).read htask
    refine .closed rfl he ?_ hl hread rfl
    have hacc : accepted (tr ++ [⟨.callbackLock, .pushed (s.announced ws r)⟩]) =
        accepted tr := by simp [Label.accepted]
    rw [hacc, ← htotal, pushes_snoc, hk, List.replicate_add, List.append_assoc]
    simp [Label.pushed, ChannelState.announced, hs, hnew]
  · have hs : s.data.nrSenders ≠ 0 := fun h => hl (hi.nrSenders_eq_zero.mp h)
    obtain ⟨-, hflag, hfresh⟩ := (hi.attached hport he).sender hl
    have hzero := hfresh (hflag.mpr (.inr htask))
    refine .opened (k := k + s.data.queue.length) rfl he ?_ ?_ ?_ fun h => absurd h hl
    · rw [hzero, Nat.sub_zero] at hnew
      rw [pushes_snoc, hk, List.replicate_add]
      simp [Label.pushed, ChannelState.announced, hs, hzero, hnew]
    · simp [Label.accepted, ChannelState.credit]
      omega
    · simp [ChannelState.credit, hzero]

/-- A step of the rest of the system while the end is not reported: it
announces nothing, and what it does to the queue it does to the sum. -/
theorem Reporting.openedStep {n : Nat} {tr : List (Label T)} {s s' : ChannelState T}
    {l : Label T} {r : Receiver} {e : EventFd} {k : Nat} (hi : Inv s)
    (hport : s.port = .attached r) (he : s.eventfd = some e)
    (hk : pushes tr = List.replicate k .channelMessageEvent)
    (hsum : k + s.data.queue.length = n + (accepted tr).length + r.availableMessages)
    (hle : r.availableMessages ≤ s.data.queue.length)
    (hend : s.live = [] → e.counter = 1 ∨ s.task = .callback) (h : Effect ws s l s') :
    Reporting n (tr ++ [l]) s' := by
  have hef := (hi.fd.of_some he).1
  have hfd : s.data.epollFd ≠ -1 := fun h => by simp [hi.eventfd_none.mp h] at he
  have hatt := hi.attached hport he
  have hpush : l.pushed = [] →
      pushes (tr ++ [l]) = List.replicate k .channelMessageEvent := fun hp => by
    rw [pushes_snoc, hp, List.append_nil, hk]
  cases h with
  | sendDead htx ha => simp [hi.alive.mp ha] at hport
  | sendQuiet htx =>
    refine .opened hport he (hpush rfl) ?_ ?_
      fun hl => absurd hl (List.ne_nil_of_mem htx)
    · simp [Label.accepted]
      omega
    · simp
      omega
  | sendSignal _ _ _ _ hnone => exact absurd hnone hfd
  | sendWrite htx =>
    rw [write_eq (s := s.push _) he hef]
    refine .opened hport rfl (hpush rfl) ?_ ?_
      fun hl => absurd hl (List.ne_nil_of_mem htx)
    · simp [Label.accepted]
      omega
    · simp
      omega
  | clone =>
    exact .opened hport he (hpush rfl) (by simpa [Label.accepted] using hsum)
      hle fun hl => by simp at hl
  | @dropQuiet tx htx hq =>
    refine .opened hport he (hpush rfl) (by simpa [Label.accepted] using hsum)
      hle fun hl => ?_
    have hzero : (s.leave ws tx).data.nrSenders = 0 := by
      rw [hi.leave_senders htx, hl, List.length_nil]
    have hlive := List.ne_nil_of_mem htx
    exact (hatt.sender hlive).flag.mp (hq.resolve_left (not_not_intro hzero))
  | dropSignal _ _ _ hnone => exact absurd hnone hfd
  | dropWrite htx _ hn =>
    have hlive := List.ne_nil_of_mem htx
    have hdown : ¬ (e.counter = 1 ∨ s.task = .callback) := by
      simp [← (hatt.sender hlive).flag, hn]
    have hone := hatt.counter
    rw [write_eq (s := s.leave ws _) he hef]
    exact .opened hport rfl (hpush rfl) (by simpa [Label.accepted] using hsum)
      hle fun _ => .inl (by simp only; omega)
  | turnWait ha hq hs =>
    rcases turnOf_some ha with ⟨hp, -⟩ | ⟨_, hp, -, ht⟩
    · simp [hport] at hp
    · exact absurd hq (hi.no_receiver_wait hp ht fun hl => hs (hi.nrSenders_eq_zero.mpr hl))
  | turnData ha hq =>
    rcases turnOf_some ha with ⟨hp, -⟩ | ⟨_, hp, rfl, ht⟩
    · simp [hport] at hp
    · obtain ⟨_, _, _, htask, hpos⟩ := hi.receiverTurn hp ht
      cases hport.symm.trans hp
      rw [hq, List.length_cons] at hsum hle
      rw [hport]
      refine .opened rfl he (hpush rfl) ?_ ?_ fun hl => ?_
      · simp [Label.accepted]
        omega
      · simp
        omega
      · exact (hend hl).elim .inl fun hcb => by simp [htask] at hcb
  | turnEnd ha =>
    rcases turnOf_some ha with ⟨hp, -⟩ | ⟨_, _, hb, _⟩
    · simp [hport] at hp
    · cases hb
  | turnFail ha _ hq =>
    rcases turnOf_some ha with ⟨hp, -⟩ | ⟨_, hp, -, ht⟩
    · simp [hport] at hp
    · obtain ⟨_, _, _, _, hpos⟩ := hi.receiverTurn hp ht
      cases hport.symm.trans hp
      simp only [hq, List.length_nil] at hle
      omega
  | tryRecvData hp => simp [hport] at hp
  | tryRecvEmpty hp => simp [hport] at hp
  | tryRecvEnd hp => simp [hport] at hp
  | noCredit =>
    exact .opened hport he (hpush rfl) (by simpa [Label.accepted] using hsum)
      hle hend
  | spuriousWakeup htask => rcases hatt.task with h | h <;> simp [htask] at h
  | attachDead hp => simp [hport] at hp
  | attachEmpty hp => simp [hport] at hp
  | attachWrite hp => simp [hport] at hp
  | dropReceiver _ _ hnone => exact absurd hnone hfd
  | dropReceiverClose => exact .goneOpen (.inl rfl) (hpush rfl)
  | dropBlockingReceiver hp => rcases hp with hp | hp <;> simp [hport] at hp
  | callbackRead _ _ he' hpos =>
    cases he.symm.trans he'
    have hone := Nat.le_antisymm hatt.counter hpos
    exact .opened hport rfl (hpush rfl) (by simpa [Label.accepted] using hsum)
      hle fun _ => .inr (by simp [hone])
  | callbackStray _ _ he' _ hne =>
    cases he.symm.trans he'
    exact absurd hef.symm hne
  | callbackLock hp htask =>
    cases hport.symm.trans hp
    exact .callbackLock hi hport he htask hk hsum hle
  | otherEvents =>
    exact .opened hport he (hpush rfl) (by simpa [Label.accepted] using hsum)
      hle hend

/-- After the report of the end nothing is left that would report. -/
theorem Reporting.closedStep {n : Nat} {tr : List (Label T)} {s s' : ChannelState T}
    {l : Label T} {r : Receiver} {e : EventFd} (hi : Inv s) (hport : s.port = .attached r)
    (he : s.eventfd = some e)
    (hk : pushes tr = List.replicate (n + (accepted tr).length) .channelMessageEvent ++
      [.channelClosedEvent])
    (hl : s.live = []) (hzero : e.counter = 0) (htask : s.task = .running)
    (h : Effect ws s l s') : Reporting n (tr ++ [l]) s' := by
  have hacc : (accepted (tr ++ [l])).length = (accepted tr).length := by
    simp [h.accepted_dead hl]
  have hl' := h.dead hl
  have hs := hi.nrSenders_eq_zero.mpr hl
  have hpush : l.pushed = [] → pushes (tr ++ [l]) =
      List.replicate (n + (accepted (tr ++ [l])).length) .channelMessageEvent ++
        [.channelClosedEvent] := fun hp => by
    rw [pushes_snoc, hp, List.append_nil, hacc, hk]
  have hb : s.port ≠ .blocking := by simp [hport]
  cases h with
  | sendQuiet htx => simp [hl] at htx
  | sendSignal htx => simp [hl] at htx
  | sendWrite htx => simp [hl] at htx
  | clone htx => simp [hl] at htx
  | dropQuiet htx => simp [hl] at htx
  | dropSignal htx => simp [hl] at htx
  | dropWrite htx => simp [hl] at htx
  | turnWait _ _ hns => exact absurd hs hns
  | turnData ha =>
    rcases turnOf_some ha with ⟨hp, -⟩ | ⟨_, _, rfl, _⟩
    · exact absurd hp hb
    · rw [hport]
      exact .closed rfl he (hpush rfl) hl' hzero rfl
  | turnEnd => exact .closed hport he (hpush rfl) hl' hzero rfl
  | turnFail => exact .closed hport he (hpush rfl) hl' hzero rfl
  | tryRecvData hp => exact absurd hp hb
  | tryRecvEmpty hp => exact absurd hp hb
  | tryRecvEnd hp => exact absurd hp hb
  | spuriousWakeup hw => simp [htask] at hw
  | attachDead hp => exact absurd hp hb
  | attachEmpty hp => exact absurd hp hb
  | attachWrite hp => exact absurd hp hb
  | dropReceiver => exact .goneClosed (.inl rfl) (hpush rfl) hl'
  | dropReceiverClose => exact .goneClosed (.inl rfl) (hpush rfl) hl'
  | dropBlockingReceiver => exact .goneClosed (.inr rfl) (hpush rfl) hl'
  | callbackRead _ _ he' hpos =>
    cases he.symm.trans he'
    omega
  | callbackStray _ _ he' hpos =>
    cases he.symm.trans he'
    omega
  | callbackLock _ hcb => simp [htask] at hcb
  | _ => exact .closed hport he (hpush rfl) hl' hzero htask

theorem Reporting.step {n : Nat} {tr : List (Label T)} {s s' : ChannelState T} {l : Label T}
    (hi : Inv s) (hr : Reporting n tr s) (h : Effect ws s l s') :
    Reporting n (tr ++ [l]) s' := by
  cases hr with
  | opened hport he hk hsum hle hend => exact .openedStep hi hport he hk hsum hle hend h
  | closed hport he hk hl hzero htask => exact .closedStep hi hport he hk hl hzero htask h
  | goneOpen hg hk =>
    obtain ⟨hg', hp⟩ := h.gone hg
    exact .goneOpen hg' (by rw [pushes_snoc, hp, List.append_nil, hk])
  | goneClosed hg hk hl =>
    obtain ⟨hg', hp⟩ := h.gone hg
    exact .goneClosed hg' (by simp [hp, hk, h.accepted_dead hl]) (h.dead hl)

/-- A Receiver that was attached to a dead channel is silent. -/
structure Silent (s : ChannelState T) : Prop where
  live : s.live = []
  eventfd : s.eventfd = none
  port : s.port ≠ .blocking

theorem Effect.silent {s s' : ChannelState T} {l : Label T} (hi : Inv s) (hs : Silent s)
    (h : Effect ws s l s') : Silent s' ∧ l.pushed = [] := by
  obtain ⟨hl, he, hb⟩ := hs
  have hl' := h.dead hl
  cases h with
  | sendSignal htx => simp [hl] at htx
  | sendWrite htx => simp [hl] at htx
  | dropSignal htx => simp [hl] at htx
  | dropWrite htx => simp [hl] at htx
  | turnData ha =>
    refine ⟨⟨hl', he, ?_⟩, rfl⟩
    rcases turnOf_some ha with ⟨hport, -⟩ | ⟨r, hport, rfl, -⟩
    · exact absurd hport hb
    · simp [hport, Port.afterData]
  | attachDead hport => exact absurd hport hb
  | attachEmpty hport => exact absurd hport hb
  | attachWrite hport => exact absurd hport hb
  | dropReceiver => exact ⟨⟨hl', he, by simp⟩, rfl⟩
  | dropReceiverClose _ _ hfd => exact absurd (hi.eventfd_none.mpr he) hfd
  | dropBlockingReceiver => exact ⟨⟨hl', he, by simp⟩, rfl⟩
  | callbackRead _ _ he' => simp [he] at he'
  | callbackStray _ _ he' => simp [he] at he'
  | callbackLock _ hcb =>
    obtain ⟨_, _, -, he', -⟩ := hi.callback hcb
    simp [he] at he'
  | _ => exact ⟨⟨hl', he, hb⟩, rfl⟩

/-! ## The life of a Receiver -/

/-- The reports for a Receiver attached in state `s₀`, after the run `tr`
of its life so far, which has led to `s`. -/
structure CloseReport (s₀ : ChannelState T) (reports : List EventKind)
    (tr : List (Label T)) (s : ChannelState T) : Prop where
  /-- the end is reported at most once, and no message after it -/
  once : ∃ k, reports = List.replicate k .channelMessageEvent ∨
    reports = List.replicate k .channelMessageEvent ++ [.channelClosedEvent]
  /-- it is reported only with no Transmitter alive -/
  dead : .channelClosedEvent ∈ reports → s.live = []
  /-- with no Transmitter alive it has been or will be reported -/
  pending : ∀ r, s.port = .attached r → s.live = [] →
    .channelClosedEvent ∈ reports ∨ s.counter = 1 ∨ s.task = .callback
  /-- and by then every message has been -/
  total : s₀.live ≠ [] → .channelClosedEvent ∈ reports →
    reports.count .channelMessageEvent = s₀.data.queue.length + (accepted tr).length

theorem Reporting.closeReport {s₀ s : ChannelState T} {tr : List (Label T)}
    (h : Reporting s₀.data.queue.length tr s) : CloseReport s₀ (pushes tr) tr s := by
  cases h with
  | @opened r e k hport he hk hsum hle hend =>
    rw [hk]
    exact ⟨⟨k, .inl rfl⟩, by simp, fun _ _ hl => .inr (by
      rw [counter_of_some he]; exact hend hl), by simp⟩
  | closed hport he hk hl hzero htask =>
    rw [hk]
    exact ⟨⟨_, .inr rfl⟩, fun _ => hl, fun _ _ _ => .inl (by simp),
      fun _ _ => by simp⟩
  | @goneOpen k hg hk =>
    rw [hk]
    exact ⟨⟨k, .inl rfl⟩, by simp, fun r hport => by simp [hport] at hg, by simp⟩
  | goneClosed hg hk hl =>
    rw [hk]
    exact ⟨⟨_, .inr rfl⟩, fun _ => hl, fun _ _ _ => .inl (by simp),
      fun _ _ => by simp⟩

theorem reporting_run {n : Nat} {s₁ s : ChannelState T} {tr : List (Label T)} (hi : Inv s₁)
    (h₁ : Reporting n [] s₁) (h : Run (Step ws) s₁ tr s) : Reporting n tr s :=
  (h.traceInvariant (I := fun tr u => Inv u ∧ Reporting n tr u) ⟨hi, h₁⟩
    fun _ _ _ _ hu hs => ⟨step_inv hu.1 hs, hu.2.step hu.1 (step_effect hs)⟩).2

theorem silent_run {s₁ s : ChannelState T} {tr : List (Label T)} (hi : Inv s₁)
    (h₁ : Silent s₁) (h : Run (Step ws) s₁ tr s) : Silent s ∧ pushes tr = [] :=
  (h.traceInvariant (I := fun tr u => Inv u ∧ Silent u ∧ pushes tr = []) ⟨hi, h₁, rfl⟩
    fun _ _ _ _ hu hs => by
      obtain ⟨hu, hsil, hp⟩ := hu
      obtain ⟨hsil', hp'⟩ := (step_effect hs).silent hu hsil
      exact ⟨step_inv hu hs, hsil', by simp [hp, hp']⟩).2

/-- **The end is reported once and last.** -/
theorem close_reported {events : EventQueueImpl} {tr₀ tr : List (Label T)}
    {s₀ s₁ s : ChannelState T} {this : Ptr} {info : SourceId} {fd : Fd} {o : Out T}
    (h₀ : RunFrom ws events tr₀ s₀)
    (hattach : Step ws s₀ ⟨.fromBlockingReceiver this info fd, o⟩ s₁)
    (h : Run (Step ws) s₁ tr s) :
    CloseReport s₀ (pushes (⟨.fromBlockingReceiver this info fd, o⟩ :: tr)) tr s := by
  have hi := run_inv h₀
  have hi₁ := step_inv hi hattach
  obtain ⟨hport, htask, ⟨hs, rfl, rfl⟩ | ⟨hs, hq, rfl, rfl⟩ | ⟨hs, hq, rfl, rfl⟩⟩ :=
    (step_effect hattach).of_attach
  · have hl := hi.nrSenders_eq_zero.mp hs
    obtain ⟨hsil, hp⟩ := silent_run hi₁ ⟨hl, (hi.blocking hport).1, by simp⟩ h
    simp only [pushes, List.flatMap_cons] at hp ⊢
    rw [hp, List.append_nil]
    exact ⟨⟨0, .inr rfl⟩, fun _ => hsil.live, fun _ _ _ => .inl (by simp [Label.pushed]),
      fun hne => absurd hl hne⟩
  · have hl : s₀.live ≠ [] := fun hl => hs (hi.nrSenders_eq_zero.mpr hl)
    exact (reporting_run hi₁ (.opened (k := 0) rfl rfl rfl (by simp) (Nat.zero_le _)
      fun hnil => absurd hnil hl) h).closeReport
  · have hl : s₀.live ≠ [] := fun hl => hs (hi.nrSenders_eq_zero.mpr hl)
    rw [write_openEventfd] at h hi₁
    exact (reporting_run hi₁ (.opened (k := 0) rfl rfl rfl (by simp) (Nat.zero_le _)
      fun hnil => absurd hnil hl) h).closeReport

/-- One message is queued when the Receiver is attached and one is sent
later; the last Transmitter goes while the callback is between its read
and its lock. -/
theorem close_reported_run :
    ∃ tr₀ s₀ o s₁ tr s,
      perform .w64 (initial Nat ⟨3, []⟩) [.trySend 0 1] = some (tr₀, s₀) ∧
      Step .w64 s₀ ⟨.fromBlockingReceiver 100 5 4, o⟩ s₁ ∧
      perform .w64 s₁ [.trySend 0 2, .callbackRead, .dropTransmitter 0, .callbackLock] =
        some (tr, s) ∧
      pushes tr = [.channelMessageEvent, .channelMessageEvent, .channelClosedEvent] ∧
      CloseReport s₀ (pushes (⟨.fromBlockingReceiver 100 5 4, o⟩ :: tr)) tr s := by
  obtain ⟨tr₀, s₀, o, s₁, tr, s, h₀, hattach, h, hp⟩ : ∃ tr₀ s₀ o s₁ tr s,
      perform .w64 (initial Nat ⟨3, []⟩) [.trySend 0 1] = some (tr₀, s₀) ∧
      Step .w64 s₀ ⟨.fromBlockingReceiver 100 5 4, o⟩ s₁ ∧
      perform .w64 s₁ [.trySend 0 2, .callbackRead, .dropTransmitter 0, .callbackLock] =
        some (tr, s) ∧
      pushes tr = [.channelMessageEvent, .channelMessageEvent, .channelClosedEvent] :=
    ⟨_, _, _, _, _, _, rfl, rfl, rfl, rfl⟩
  exact ⟨tr₀, s₀, o, s₁, tr, s, h₀, hattach, h, hp,
    close_reported (perform_run h₀) hattach (perform_run h)⟩

end Revbio.Channel
