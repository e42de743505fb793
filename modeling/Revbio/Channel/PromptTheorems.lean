/-
Revbio.Channel.PromptTheorems — when a client hears of everything at once.

A client that answers its events can get all that is queued by its own
steps, without waiting for a Transmitter to do something, exactly as long
as every send has found the queue empty or a notice under way
(`prompt_iff`). This is the guard of `announced_iff`, and what it means to
a client: a message that is missed keeps the client in `epoll_wait`, or
sends it back there, with messages in the queue.
-/
import Revbio.Channel.DeliveryTheorems
import Revbio.Channel.SilenceTheorems

namespace Revbio.Channel

open Transition

variable {T : Type} {ws : WordSize} {info : SourceId} {all : List T} {c c' : Client T}
  {past : Prop}

/-- The client gets all that is queued by itself. -/
def Served (ws : WordSize) (info : SourceId) (c : Client T) : Prop :=
  ∃ tr c', Run (ClientStep ws info) c tr c' ∧ (∀ a ∈ tr, a = .next) ∧
    c'.channel.data.queue = []

/-- A send finds the queue empty or a notice under way. -/
def Prompt (c : Client T) : ServeAct T → Prop
  | .client (.sender (.trySend _ _)) =>
      c.channel.data.queue = [] ∨ c.channel.data.receiverNotified = true
  | _ => True

/-! ## Nothing missed -/

theorem Hearing.served (h : Hearing info past all c) (ha : Announced c.channel) :
    Served ws info c := by
  by_cases hnone : c.channel.data.queue = []
  · exact ⟨[], c, .nil, by simp, hnone⟩
  · have hserving := h.serving (.inr ha) fun _ => .inr hnone
    obtain ⟨tr, c', hrun, htr, -, -, hqueue, -⟩ := @Serving.exists_stop _ ws _ _ _ hserving
    exact ⟨tr, c', hrun, htr, hqueue⟩

/-- What happens to the event queue announces nothing and hides nothing. -/
theorem Announced.events {s : ChannelState T} (h : Announced s) (q : EventQueueImpl) :
    Announced { s with events := q } := h.of_eq rfl rfl rfl id

/-- A step that sends nothing. -/
theorem Announced.quietly {s s' : ChannelState T} {l : Label T} (ha : Announced s) (hi : Inv s)
    (hn : Noticed s l) (hs : Step ws s l s') : Announced s' :=
  (step_effect hs).announced hi ha hn

theorem Announced.next (ha : Announced c.channel) (hi : Inv c.channel)
    (h : NextEffect ws info c c') : Announced c'.channel := by
  cases h with
  | take => exact ha.events _
  | poll => exact ha
  | @read o _ _ hs =>
    have hn : Noticed c.channel ⟨.callbackRead, o⟩ := trivial
    exact ha.quietly hi hn hs
  | @announce o _ _ hs =>
    have hn : Noticed c.channel ⟨.callbackLock, o⟩ := trivial
    exact ha.quietly hi hn hs
  | @recv t _ _ hs =>
    have hn : Noticed c.channel ⟨.receiverRecv, .data t⟩ := trivial
    exact ha.quietly hi hn hs
  | noCredit _ hs =>
    have hn : Noticed c.channel ⟨.receiverRecv, .noCredit⟩ := trivial
    exact ha.quietly hi hn hs

/-- A step of the tasks that hold Transmitters. -/
theorem Client.of_sender {a : Act T} (h : ClientStep ws info c (.sender a) c') :
    a.bySender = true ∧
      ∃ o s, Step ws c.channel ⟨a, o⟩ s ∧ c' = { c with channel := s } := by
  simp only [ClientStep, Client.step] at h
  split at h
  · rename_i hby
    obtain ⟨⟨o, s⟩, hstep, rfl⟩ := Option.map_eq_some_iff.mp h
    exact ⟨hby, o, s, hstep, rfl⟩
  · cases h

theorem Client.of_report {pushed : List (EventKind × SourceId)}
    (h : ClientStep ws info c (.report pushed) c') :
    c' = { c with
      channel := { c.channel with events := (c.channel.events.pollEvents (.ready pushed)).2 }
      phase := .checking } := by
  simp only [ClientStep, Client.step] at h
  split at h
  · exact (Option.some.inj h).symm
  · cases h

/-- A Transmitter's step is noticed, a send if it is prompt. -/
theorem Prompt.noticed {a : Act T} {o : Out T} (hp : Prompt c (.client (.sender a)))
    (hby : a.bySender = true) : Noticed c.channel ⟨a, o⟩ := by
  cases a with
  | trySend => exact fun _ _ => hp
  | clone => trivial
  | dropTransmitter => trivial
  | _ => cases hby

theorem Announced.clientStep {a : ClientAct T} (ha : Announced c.channel)
    (h : Hearing info past all c) (hp : Prompt c (.client a)) (hs : ClientStep ws info c a c') :
    Announced c'.channel := by
  have hi := h.attending.inv
  cases a with
  | next => exact ha.next hi (next_effect hi h.attending.valid hs)
  | sender a =>
    obtain ⟨hby, o, s, hstep, rfl⟩ := Client.of_sender hs
    exact ha.quietly hi (hp.noticed hby) hstep
  | report pushed =>
    obtain rfl := Client.of_report hs
    exact ha.events _

theorem Announced.step {a : ServeAct T} (ha : Announced c.channel) (h : Hearing info past all c)
    (hp : Prompt c a) (hs : ServeStep ws info c a c') : Announced c'.channel := by
  cases hs with
  | client hclient => exact ha.clientStep h hp hclient
  | pollIdle => exact ha
  | pollFailed => exact ha
  | others => exact ha.events _
  | goOn => exact ha

/-! ## A message that has been missed -/

/-- A client that has missed a message, with a Transmitter left. -/
def Misses (c : Client T) : Prop := c.channel.live ≠ [] ∧ ∃ r, Missed c.channel r

/-- A send that is not prompt. -/
theorem exists_send_of_not_prompt {a : ServeAct T} (hp : ¬ Prompt c a) :
    ∃ tx t, a = .client (.sender (.trySend tx t)) ∧ c.channel.data.queue ≠ [] ∧
      c.channel.data.receiverNotified ≠ true := by
  unfold Prompt at hp
  split at hp
  · rename_i tx t
    exact ⟨tx, t, rfl, not_or.mp hp⟩
  · exact absurd trivial hp

theorem Effect.send_live {s s' : ChannelState T} {tx : Nat} {t : T} {o : Out T}
    (h : Effect ws s ⟨.trySend tx t, o⟩ s') : s'.live = s.live := by
  cases h with
  | _ => rfl

/-- It is missed. -/
theorem misses_of_not_prompt {a : ServeAct T} (h : Hearing info past all c) (hp : ¬ Prompt c a)
    (hs : ServeStep ws info c a c') : Misses c' := by
  have hi := h.attending.inv
  obtain ⟨r, hr⟩ := h.attending.credit
  obtain ⟨tx, t, rfl, hqueue, hflag⟩ := exists_send_of_not_prompt hp
  cases hs with
  | client hclient =>
    obtain ⟨hby, o, s, hstep, rfl⟩ := Client.of_sender hclient
    have heffect := step_effect hstep
    have hlate : ¬ Noticed c.channel ⟨.trySend tx t, o⟩ := fun hn =>
      (hn r hr.port).elim hqueue hflag
    have hlive := (heffect.leaves_word hi hr.port hby).1
    refine ⟨?_, missed_of_not_announced (heffect.not_announced hi hlate)⟩
    exact heffect.send_live ▸ hlive

/-- It gets no further by itself. -/
theorem Misses.next (hm : Misses c) (h : Hearing info past all c) (hn : c.next ws info = some c') :
    Misses c' := by
  obtain ⟨hlive, r, hr⟩ := hm
  have hi := h.attending.inv
  obtain ⟨r', hr'⟩ := (h.next hn).attending.credit
  have heffect := next_effect hi h.attending.valid hn
  refine ⟨fun hnone => hlive (heffect.live.symm.trans hnone), ?_⟩
  have hstep : ∀ {l : Label T}, Step ws c.channel l c'.channel → ∃ r, Missed c'.channel r := by
    intro l hs
    rcases (step_effect hs).missed hi hr hlive with hnone | hgone | ⟨-, -, hmissed⟩
    · exact absurd (heffect.live.symm.trans hnone) hlive
    · rcases hgone with hp | hp <;> simp [hr'.port] at hp
    · exact ⟨_, hmissed⟩
  cases heffect with
  | take => exact ⟨r, hr.port, hr.more, hr.quiet⟩
  | poll => exact ⟨r, hr⟩
  | read _ hs => exact hstep hs
  | announce _ hs => exact hstep hs
  | recv _ hs => exact hstep hs
  | noCredit _ hs => exact hstep hs

theorem Misses.run {tr : List (ClientAct T)} (hm : Misses c) (h : Hearing info past all c)
    (hr : Run (ClientStep ws info) c tr c') (htr : ∀ a ∈ tr, a = .next) :
    Misses c' ∧ Hearing info past all c' := by
  induction hr with
  | nil => exact ⟨hm, h⟩
  | @snoc before d d' a _ hs ih =>
    obtain ⟨hmisses, hhears⟩ := ih fun b hb => htr b (by simp [hb])
    obtain rfl : a = .next := htr a (by simp)
    exact ⟨hmisses.next hhears hs, hhears.next hs⟩

theorem Misses.not_served (hm : Misses c) (h : Hearing info past all c) : ¬ Served ws info c := by
  rintro ⟨tr, c', hrun, htr, hnone⟩
  obtain ⟨⟨-, r, hr⟩, -⟩ := hm.run h hrun htr
  exact hr.queue_ne_nil hnone

/-- A message that is missed stays queued, whatever the client does. -/
theorem not_served_of_not_prompt {a : ServeAct T} (h : Hearing info past all c)
    (hp : ¬ Prompt c a) (hs : ServeStep ws info c a c') : ¬ Served ws info c' := by
  have hnext : Hearing info (past ∨ a = .goOn) (all ++ sent [a]) c' := h.step id hs
  exact (misses_of_not_prompt h hp hs).not_served hnext

/-- **Promptness, exactly**, for a Receiver made while a Transmitter lives or
from an empty channel: the client is served throughout a run if and only if
every send in it is prompt, and after one that is not no number of its own
steps serves it. -/
theorem prompt_iff {events : EventQueueImpl} {tr₀ : List (Label T)}
    {s₀ s₁ : ChannelState T} {this : Ptr} {fd : Fd} {o : Out T} {tr : List (ServeAct T)}
    (h₀ : RunFrom ws events tr₀ s₀) (hfresh : ∀ ev ∈ s₀.events.readyEvents, ev.sourceInfo ≠ info)
    (hkept : s₀.data.nrSenders ≠ 0 ∨ s₀.data.queue = [])
    (hconv : Step ws s₀ ⟨.fromBlockingReceiver this info fd, o⟩ s₁) :
    (SafeRun (ServeStep ws info) (Served ws info) (Client.start s₁) tr c ↔
      GuardedRun (ServeStep ws info) Prompt (Client.start s₁) tr c) ∧
    ∀ a c', Run (ServeStep ws info) (Client.start s₁) tr c → ¬ Prompt c a →
      ServeStep ws info c a c' → ¬ Served ws info c' := by
  have hi := run_inv h₀
  have hblocking := ((step_effect hconv).of_attach).1
  have hhearing : Hearing info True s₀.data.queue (Client.start s₁) :=
    start_hearing hi hfresh hkept hconv
  have hstart : Announced s₁ := by
    have hn : Noticed s₀ ⟨.fromBlockingReceiver this info fd, o⟩ := hkept
    have hnone : ∀ r, s₀.port ≠ .attached r := by simp [hblocking]
    exact (announced_of_detached hnone).quietly hi hn hconv
  refine ⟨?_, fun a c' hrun hp hs => not_served_of_not_prompt (hhearing.run hrun) hp hs⟩
  refine safe_iff_guarded_of_invariant
    (I := fun c => (∃ all, Hearing info True all c) ∧ Announced c.channel)
    ⟨⟨_, hhearing⟩, hstart⟩ ?_ ?_ ?_
  · rintro c ⟨⟨all, h⟩, ha⟩
    exact h.served ha
  · rintro c a c' ⟨⟨all, h⟩, ha⟩ hp hs
    exact ⟨⟨_, h.step (fun _ => trivial) hs⟩, ha.step h hp hs⟩
  · rintro c a c' ⟨⟨all, h⟩, -⟩ hp hs
    exact not_served_of_not_prompt h hp hs

/-- Two messages behind one notice. -/
def noticedTwice : Client Nat :=
  Client.start { listening with data := ⟨[1, 2], true, 1, true, 4⟩, eventfd := some ⟨4, 1⟩ }

/-- The first of two messages has been announced, and `recv` is next. -/
def announcedOne : Client Nat where
  channel := { listening with
    data := ⟨[1], true, 1, false, 4⟩
    port := .attached ⟨100, 5, 1⟩
    events := ⟨3, []⟩ }
  phase := .answering
  got := []

theorem prompt_iff_noticedTwice :
    SafeRun (ServeStep .w64 5) (Served .w64 5) (Client.start listening)
      [.client (.sender (.trySend 0 1)), .client (.sender (.trySend 0 2))] noticedTwice ∧
    ∃ c', ServeStep .w64 5 announcedOne (.client (.sender (.trySend 0 2))) c' ∧
      ¬ Served .w64 5 c' := by
  have hconv : Step .w64 (initial Nat ⟨3, [Event.new .timerEvent 9]⟩)
      ⟨.fromBlockingReceiver 100 5 4, .pushed []⟩ listening := by
    show step .w64 _ _ = _
    decide
  constructor
  · obtain ⟨c, hfirst⟩ : ∃ c, Client.step .w64 5 (Client.start listening)
        (.sender (.trySend 0 1)) = some c := ⟨_, rfl⟩
    have hsecond : Client.step .w64 5 c (.sender (.trySend 0 2)) = some noticedTwice := by
      cases hfirst
      decide
    have hnotified : c.channel.data.receiverNotified = true := by
      cases hfirst
      rfl
    refine (prompt_iff .nil (by decide) (.inr rfl) hconv).1.mpr ?_
    exact (GuardedRun.nil.snoc (.inl rfl) (.client hfirst)).snoc (.inr hnotified) (.client hsecond)
  · have hserve : [ClientAct.next, .sender (.trySend 0 1), .next, .next, .next, .next].foldlM
        (Client.step .w64 5) (Client.start listening) = some announcedOne := by
      decide
    obtain ⟨c', hsend⟩ : ∃ c', Client.step .w64 5 announcedOne (.sender (.trySend 0 2)) = some c' :=
      ⟨_, rfl⟩
    have hlate : ¬ Prompt announcedOne (.client (.sender (.trySend 0 2))) := by
      rintro (hqueue | hnotified)
      · cases hqueue
      · cases hnotified
    refine ⟨c', .client hsend, ?_⟩
    exact (prompt_iff .nil (by decide) (.inr rfl) hconv).2 _ _ (serve_run hserve) hlate
      (.client hsend)

end Revbio.Channel
