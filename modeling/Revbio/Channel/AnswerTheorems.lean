/-
Revbio.Channel.AnswerTheorems — one event, one message.

A client answers each ChannelMessageEvent of its Receiver with one `recv`.
The callback runs only once all events have been taken, hence with no
credit left, so it books exactly one credit for each event it pushes. From
then on events and credit go down together, and the queue only grows at its
other end (`Attending`).
-/
import Revbio.Channel.ClientTheorems

namespace Revbio.Channel

open Transition

variable {T : Type} {ws : WordSize} {info : SourceId}

/-! ## The invariant -/

/-- The ChannelMessageEvents of source `info` in a queue. -/
def messageEvents (info : SourceId) (q : EventQueueImpl) : Nat :=
  (mine info q.readyEvents).count .channelMessageEvent

/-- One credit for each event, queued or in hand, and one message for each
credit. -/
structure Backed (info : SourceId) (c : Client T) (r : Receiver) : Prop where
  port : c.channel.port = .attached r
  source : r.eventSourceInfo = info
  events : messageEvents info c.channel.events + c.phase.inHand = r.availableMessages
  messages : r.availableMessages ≤ c.channel.data.queue.length

/-- **The invariant of a client that serves**, for `all` the messages that
have been sent. -/
structure Attending (info : SourceId) (all : List T) (c : Client T) : Prop where
  inv : Inv c.channel
  order : c.got ++ c.channel.data.queue = all
  /-- `epoll_wait` is entered with nothing queued -/
  dry : c.phase = .polling ∨ c.phase = .inCallback → c.channel.events.readyEvents = []
  valid : c.phase = .checking → ∀ ev ∈ c.channel.events.readyEvents, ev.isValid = true
  task : c.channel.task = if c.phase = .inCallback then .callback else .running
  credit : ∃ r, Backed info c r

theorem Attending.running {all : List T} {c : Client T} (h : Attending info all c)
    (hp : c.phase ≠ .inCallback) : c.channel.task = .running := by
  rw [h.task, if_neg hp]

/-! ## Steps of the client -/

/-- A message event that is taken is in hand. -/
theorem take_events (c : Client T) (ev : Event) (rest : List Event) :
    messageEvents info (c.take info ev rest).channel.events +
        (c.take info ev rest).phase.inHand =
      (mine info (ev :: rest)).count .channelMessageEvent := by
  rw [mine_cons]
  by_cases hs : ev.sourceInfo = info
  case neg =>
    rw [if_neg hs, take_other hs]
    rfl
  rw [if_pos hs]
  by_cases hk : ev.eventType = .channelMessageEvent
  case pos =>
    rw [take_message hs hk, hk, List.count_cons_self]
    rfl
  have hnone : (c.take info ev rest).phase.inHand = 0 := by
    simp only [Client.take, if_pos hs]
    split
    · contradiction
    · rfl
    · rfl
  rw [hnone, List.count_cons_of_ne hk]
  rfl

/-- The first event is taken. -/
theorem Attending.take {all : List T} {c : Client T} {ev : Event} {rest : List Event}
    (h : Attending info all c) (hp : c.phase = .idle ∨ c.phase = .checking)
    (hq : c.channel.events.readyEvents = ev :: rest) :
    Attending info all (c.take info ev rest) := by
  have hnot : c.phase ≠ .inCallback ∧ c.phase.inHand = 0 := by
    rcases hp with hp | hp <;> simp [hp, Phase.inHand]
  have hphase := @take_phase _ info c ev rest
  have hrunning := h.running hnot.1
  obtain ⟨r, hr⟩ := h.credit
  have hevents := hr.events
  rw [hnot.2, messageEvents, hq] at hevents
  refine ⟨events_inv h.inv, h.order, ?_, ?_, ?_, r, hr.port, hr.source, ?_, hr.messages⟩
  · intro h'
    rcases hphase with h1 | h1 | h1 <;> simp [h1] at h'
  · intro h'
    rcases hphase with h1 | h1 | h1 <;> simp [h1] at h'
  · rw [if_neg (by rcases hphase with h1 | h1 | h1 <;> simp [h1])]
    exact hrunning
  · rw [take_events]
    exact hevents

/-- The client goes to `epoll_wait` with nothing queued. -/
theorem Attending.poll {all : List T} {c : Client T} (h : Attending info all c)
    (hp : c.phase = .idle ∨ c.phase = .checking)
    (hq : c.channel.events.readyEvents = []) : Attending info all { c with phase := .polling } := by
  have hnot : c.phase ≠ .inCallback ∧ c.phase.inHand = 0 := by
    rcases hp with hp | hp <;> simp [hp, Phase.inHand]
  obtain ⟨r, hr⟩ := h.credit
  refine ⟨h.inv, h.order, fun _ => hq, by simp, h.running hnot.1, r, hr.port, hr.source, ?_,
    hr.messages⟩
  rw [← hr.events, hnot.2]
  rfl

/-- The callback reads the eventfd. -/
theorem Attending.read {all : List T} {c : Client T} {s : ChannelState T} {o : Out T}
    (h : Attending info all c) (hp : c.phase = .polling)
    (hs : Step ws c.channel ⟨.callbackRead, o⟩ s) :
    s.task = .callback ∧ Attending info all { c with channel := s, phase := .inCallback } := by
  have hi := step_inv h.inv hs
  have hdry := h.dry (.inl hp)
  obtain ⟨r, hr⟩ := h.credit
  have hevents := hr.events
  rw [hp] at hevents
  obtain ⟨e, -, -, -, rfl⟩ := (step_effect hs).of_callbackRead h.inv
  exact ⟨rfl, hi, h.order, fun _ => hdry, by simp, rfl, r, hr.port, hr.source, hevents,
    hr.messages⟩

/-- The callback announces. All events have been taken, so no credit is
left. -/
theorem Attending.announce {all : List T} {c : Client T} {s : ChannelState T} {o : Out T}
    (h : Attending info all c) (hp : c.phase = .inCallback)
    (hs : Step ws c.channel ⟨.callbackLock, o⟩ s) :
    Attending info all { c with channel := s, phase := .checking } := by
  have hi := step_inv h.inv hs
  have hdry := h.dry (.inr hp)
  obtain ⟨r, hr⟩ := h.credit
  have hzero : r.availableMessages = 0 := by
    rw [← hr.events, messageEvents, hdry, hp]
    rfl
  obtain ⟨r', hport, -, -, rfl⟩ := (step_effect hs).of_callbackLock
  obtain rfl : r = r' := by
    cases hr.port.symm.trans hport
    rfl
  have hmine : mine info (c.channel.events.pushAll r.eventSourceInfo
      (c.channel.announced ws r)).readyEvents = c.channel.announced ws r :=
    hr.source ▸ mine_pushAll hdry _
  have hcount : (c.channel.announced ws r).count .channelMessageEvent =
      c.channel.data.queue.length := by
    rw [c.channel.announced_of_noCredit ws hzero, List.count_append, List.count_replicate_self]
    split
    · rfl
    · rfl
  refine ⟨hi, h.order, by simp, fun _ => EventQueueImpl.pushAll_valid hdry _ _, rfl,
    c.channel.credit r, rfl, hr.source, ?_, ?_⟩
  · simp only [messageEvents, hmine, hcount, Phase.inHand, ChannelState.credit, hzero,
      Nat.zero_add, Nat.add_zero]
  · simp only [ChannelState.credit, hzero, Nat.zero_add]
    exact Nat.le_refl _

/-- With an event in hand, `recv` returns the oldest message. -/
theorem Attending.answer {all : List T} {c : Client T} (h : Attending info all c)
    (hp : c.phase = .answering) :
    ∃ t rest s, c.channel.data.queue = t :: rest ∧
      Channel.step ws c.channel .receiverRecv = some (.data t, s) ∧
      Attending info all { channel := s, phase := .idle, got := c.got ++ [t] } := by
  have hrunning := h.running (by simp [hp])
  obtain ⟨r, hr⟩ := h.credit
  have hevents := hr.events
  rw [hp] at hevents
  have hpos : 0 < r.availableMessages := by
    rw [← hevents]
    exact Nat.succ_pos _
  have hne : c.channel.data.queue ≠ [] := by
    intro hnil
    have hle := hr.messages
    rw [hnil] at hle
    exact Nat.not_lt.mpr hle hpos
  obtain ⟨⟨o, s⟩, hs⟩ : ∃ os, Channel.step ws c.channel .receiverRecv = some os := by
    simp only [Channel.step, hrunning, hr.port]
    exact ⟨_, rfl⟩
  have hi : Inv s := step_inv (l := ⟨.receiverRecv, o⟩) h.inv hs
  obtain ⟨t, rest, hq, rfl, rfl⟩ :=
    (step_effect (l := ⟨.receiverRecv, o⟩) hs).of_receiverRecv hr.port hrunning hpos hne
  refine ⟨t, rest, _, hq, hs, hi, ?_, by simp, by simp, rfl,
    { r with availableMessages := r.availableMessages - 1 }, rfl, hr.source, ?_, ?_⟩
  · rw [← h.order, hq]
    simp
  · show messageEvents info c.channel.events + 0 = r.availableMessages - 1
    rw [← hevents]
    rfl
  · have hle := hr.messages
    rw [hq, List.length_cons] at hle
    exact Nat.sub_le_of_le_add hle

/-! ## Steps of the others -/

/-- What a Transmitter does leaves the Receiver's end alone. -/
structure AtOtherEnd (s s' : ChannelState T) (new : List T) : Prop where
  queue : s'.data.queue = s.data.queue ++ new
  port : s'.port = s.port
  events : s'.events = s.events
  task : s'.task = s.task ∨ s'.task = s.task.signal

/-- The message of a `try_send`. -/
def Act.message : Act T → List T
  | .trySend _ t => [t]
  | _ => []

theorem Effect.atOtherEnd {s s' : ChannelState T} {l : Label T} {r : Receiver} (hi : Inv s)
    (hport : s.port = .attached r) (h : Effect ws s l s') (hby : l.act.bySender = true) :
    AtOtherEnd s s' l.act.message := by
  have halive : s.data.portAlive = true := by
    by_contra hdead
    have hdropped := hi.alive.mp (by simpa using hdead)
    cases hport.symm.trans hdropped
  cases h with
  | sendDead _ hdead => simp [halive] at hdead
  | sendQuiet => exact ⟨rfl, rfl, rfl, .inl rfl⟩
  | sendSignal => exact ⟨rfl, rfl, rfl, .inr rfl⟩
  | sendWrite => exact ⟨rfl, rfl, rfl, .inl rfl⟩
  | clone => exact ⟨(List.append_nil _).symm, rfl, rfl, .inl rfl⟩
  | dropQuiet => exact ⟨(List.append_nil _).symm, rfl, rfl, .inl rfl⟩
  | dropSignal => exact ⟨(List.append_nil _).symm, rfl, rfl, .inr rfl⟩
  | dropWrite => exact ⟨(List.append_nil _).symm, rfl, rfl, .inl rfl⟩
  | turnWait ha => exact absurd hby (turnOf_bySender ha)
  | turnData ha => exact absurd hby (turnOf_bySender ha)
  | turnEnd ha => exact absurd hby (turnOf_bySender ha)
  | turnFail ha => exact absurd hby (turnOf_bySender ha)
  | _ => simp [Act.bySender] at hby

theorem Attending.sender {all new : List T} {c : Client T} {s : ChannelState T}
    (h : Attending info all c) (hs : AtOtherEnd c.channel s new) (hi : Inv s) :
    Attending info (all ++ new) { c with channel := s } := by
  obtain ⟨r, hr⟩ := h.credit
  refine ⟨hi, ?_, ?_, ?_, ?_, r, hs.port.trans hr.port, hr.source, ?_, ?_⟩
  · rw [hs.queue, ← List.append_assoc, h.order]
  · rw [hs.events]
    exact h.dry
  · rw [hs.events]
    exact h.valid
  · rcases hs.task with htask | htask
    · exact htask.trans h.task
    · -- a task that does not wait is not woken
      rw [htask, h.task]
      split
      · rfl
      · rfl
  · rw [hs.events]
    exact hr.events
  · rw [hs.queue, List.length_append]
    exact Nat.le_trans hr.messages (Nat.le_add_right _ _)

/-- The queue is changed by other sources, outside `next_event`. -/
theorem Attending.others {all : List T} {c : Client T} {queue : EventQueueImpl}
    (h : Attending info all c) (hp : c.phase.outside = true)
    (hown : queue.readyEvents.filter (·.sourceInfo = info) =
      c.channel.events.readyEvents.filter (·.sourceInfo = info)) :
    Attending info all { c with channel := { c.channel with events := queue } } := by
  obtain ⟨r, hr⟩ := h.credit
  refine ⟨events_inv h.inv, h.order, ?_, ?_, h.task, r, hr.port, hr.source, ?_, hr.messages⟩
  · intro hq
    rcases hq with hq | hq <;> simp [show c.phase = _ from hq, Phase.outside] at hp
  · intro hq
    simp [show c.phase = _ from hq, Phase.outside] at hp
  · rw [← hr.events, messageEvents, messageEvents, mine, mine, hown]

/-- The callback of another source. -/
theorem Attending.report {all : List T} {c : Client T} {pushed : List (EventKind × SourceId)}
    (h : Attending info all c) (hp : c.phase = .polling)
    (hpushed : ∀ p ∈ pushed, p.2 ≠ info) :
    Attending info all { c with
      channel := { c.channel with
        events := (c.channel.events.pollEvents (.ready pushed)).2 }
      phase := .checking } := by
  have hdry := h.dry (.inl hp)
  obtain ⟨r, hr⟩ := h.credit
  have hevents := hr.events
  rw [hp] at hevents
  refine ⟨events_inv h.inv, h.order, by simp,
    fun _ => EventQueueImpl.pollEvents_valid hdry pushed, h.running (by simp [hp]), r, hr.port,
    hr.source, ?_, hr.messages⟩
  rw [← hevents, messageEvents, messageEvents, EventQueueImpl.pollEvents_ready, mine_append,
    mine_others hpushed, List.append_nil]
  rfl

/-- `next_event` goes from one phase to another without the queue. -/
theorem Attending.moves {all : List T} {c : Client T} (h : Attending info all c) (phase : Phase)
    (hp : c.phase ≠ .inCallback) (hnot : phase ≠ .polling ∧ phase ≠ .inCallback)
    (hhand : phase.inHand = c.phase.inHand)
    (hvalid : phase = .checking → c.channel.events.readyEvents = []) :
    Attending info all { c with phase } := by
  obtain ⟨r, hr⟩ := h.credit
  refine ⟨h.inv, h.order, ?_, ?_, ?_, r, hr.port, hr.source, ?_, hr.messages⟩
  · intro hq
    exact hq.elim (fun hq => absurd hq hnot.1) fun hq => absurd hq hnot.2
  · intro hq ev hev
    simp [hvalid hq] at hev
  · rw [if_neg hnot.2]
    exact h.running hp
  · rw [hhand]
    exact hr.events

/-! ## Runs -/

/-- **One step of the client.** -/
theorem Attending.next {all : List T} {c c' : Client T} (h : Attending info all c)
    (hn : c.next ws info = some c') : Attending info all c' := by
  cases next_effect h.inv h.valid hn with
  | take hp hq => exact h.take hp hq
  | poll hp hq => exact h.poll hp hq
  | read hp hs => exact (h.read hp hs).2
  | announce hp hs => exact h.announce hp hs
  | recv hp hs =>
    obtain ⟨t, rest, s, -, hs', hanswer⟩ := @Attending.answer _ ws _ _ _ h hp
    cases hs'.symm.trans hs
    exact hanswer
  | noCredit hp hs =>
    obtain ⟨t, rest, s, -, hs', -⟩ := @Attending.answer _ ws _ _ _ h hp
    cases hs'.symm.trans hs

theorem sent_snoc (tr : List (ServeAct T)) (a : ServeAct T) :
    sent (tr ++ [a]) = sent tr ++ sent [a] := by
  simp [sent]

theorem sent_sender (a : Act T) : sent [.client (.sender a)] = a.message := by
  cases a <;> rfl

/-- A step that sends nothing. -/
theorem Attending.silent {all : List T} {c : Client T} {a : ServeAct T} (ha : sent [a] = [])
    (h : Attending info all c) : Attending info (all ++ sent [a]) c := by
  rw [ha, List.append_nil]
  exact h

theorem Attending.clientStep {all : List T} {c c' : Client T} {a : ClientAct T}
    (h : Attending info all c) (hs : ClientStep ws info c a c') :
    Attending info (all ++ sent [.client a]) c' := by
  cases a with
  | next => exact (h.next hs).silent rfl
  | sender a =>
    rw [sent_sender]
    simp only [ClientStep, Client.step] at hs
    split at hs
    · rename_i hby
      obtain ⟨⟨o, s⟩, hstep, rfl⟩ := Option.map_eq_some_iff.mp hs
      obtain ⟨r, hr⟩ := h.credit
      exact h.sender ((step_effect (l := ⟨a, o⟩) hstep).atOtherEnd h.inv hr.port hby)
        (step_inv (l := ⟨a, o⟩) h.inv hstep)
    · cases hs
  | report pushed =>
    simp only [ClientStep, Client.step] at hs
    split at hs
    · rename_i hp
      cases hs
      exact (h.report hp.1 hp.2).silent rfl
    · cases hs

/-- **One step of anybody.** -/
theorem Attending.step {all : List T} {c c' : Client T} {a : ServeAct T}
    (h : Attending info all c) (hs : ServeStep ws info c a c') :
    Attending info (all ++ sent [a]) c' := by
  cases hs with
  | client hclient => exact h.clientStep hclient
  | others hp hown => exact (h.others hp hown).silent rfl
  | pollIdle hp =>
    refine (h.moves .checking ?_ ⟨by simp, by simp⟩ ?_ fun _ => h.dry (.inl hp)).silent rfl
    · simp [hp]
    · rw [hp]
      rfl
  | pollFailed hp =>
    refine (h.moves .idle ?_ ⟨by simp, by simp⟩ ?_ (by simp)).silent rfl
    · simp [hp]
    · rw [hp]
      rfl
  | goOn hp =>
    refine (h.moves .idle ?_ ⟨by simp, by simp⟩ ?_ (by simp)).silent rfl
    · simp [hp]
    · rw [hp]
      rfl

theorem Attending.run {all : List T} {c c' : Client T} {tr : List (ServeAct T)}
    (h : Attending info all c) (hr : Run (ServeStep ws info) c tr c') :
    Attending info (all ++ sent tr) c' := by
  induction hr with
  | nil => simpa [sent] using h
  | snoc _ hs ih =>
    rw [sent_snoc, ← List.append_assoc]
    exact ih.step hs

/-- A Receiver starts with no events and no credit. -/
theorem start_attending {s₀ s₁ : ChannelState T} {this : Ptr} {fd : Fd} {o : Out T}
    (hi : Inv s₀) (hfresh : ∀ ev ∈ s₀.events.readyEvents, ev.sourceInfo ≠ info)
    (hs : Step ws s₀ ⟨.fromBlockingReceiver this info fd, o⟩ s₁) :
    Attending info s₀.data.queue (Client.start s₁) := by
  have hi₁ := step_inv hi hs
  have hmine := mine_eq_nil hfresh
  have hstart : s₁.port = .attached ⟨this, info, 0⟩ → s₁.data.queue = s₀.data.queue →
      s₁.task = .running → messageEvents info s₁.events = 0 →
      Attending info s₀.data.queue (Client.start s₁) := by
    intro hport hqueue htask hevents
    exact ⟨hi₁, hqueue, by simp, by simp, htask, _, hport, rfl, hevents, Nat.zero_le _⟩
  obtain ⟨-, htask, ⟨-, -, rfl⟩ | ⟨-, -, -, rfl⟩ | ⟨-, -, -, rfl⟩⟩ := (step_effect hs).of_attach
  · refine hstart rfl rfl htask ?_
    simp [messageEvents, hmine, mine_cons]
  · exact hstart rfl rfl htask (congrArg (List.count _) hmine)
  · exact hstart rfl rfl htask (congrArg (List.count _) hmine)

/-- **One event, one message.** Whatever is sent, and whatever else happens
to the event queue: each `recv` with which a client answers a
ChannelMessageEvent returns the oldest message that it has not received;
and between the answers, the events still queued are as many as
`available_messages` says, and no more than the messages that are there. -/
theorem one_event_one_message {events : EventQueueImpl} {tr₀ : List (Label T)}
    {s₀ s₁ : ChannelState T} {this : Ptr} {fd : Fd} {o : Out T} {tr : List (ServeAct T)}
    {c : Client T} (h₀ : RunFrom ws events tr₀ s₀)
    (hfresh : ∀ ev ∈ s₀.events.readyEvents, ev.sourceInfo ≠ info)
    (hconv : Step ws s₀ ⟨.fromBlockingReceiver this info fd, o⟩ s₁)
    (h : Run (ServeStep ws info) (Client.start s₁) tr c) :
    (c.phase = .answering → ∃ t rest s, c.channel.data.queue = t :: rest ∧
      Channel.step ws c.channel .receiverRecv = some (.data t, s)) ∧
    c.got ++ c.channel.data.queue = s₀.data.queue ++ sent tr ∧
    (c.phase ≠ .answering → ∃ r, c.channel.port = .attached r ∧
      messageEvents info c.channel.events = r.availableMessages ∧
      r.availableMessages ≤ c.channel.data.queue.length) := by
  have hc := (start_attending (run_inv h₀) hfresh hconv).run h
  refine ⟨?_, hc.order, ?_⟩
  · intro hp
    obtain ⟨t, rest, s, hq, hs, -⟩ := @Attending.answer _ ws _ _ _ hc hp
    exact ⟨t, rest, s, hq, hs⟩
  · intro hp
    obtain ⟨r, hr⟩ := hc.credit
    have hnone : c.phase.inHand = 0 := by
      unfold Phase.inHand
      split
      · contradiction
      · rfl
    exact ⟨r, hr.port, by rw [← hr.events, hnone]; rfl, hr.messages⟩

theorem serve_run {acts : List (ClientAct T)} {c c' : Client T}
    (h : acts.foldlM (Client.step ws info) c = some c') :
    Run (ServeStep ws info) c (acts.map .client) c' := by
  induction acts generalizing c with
  | nil =>
    cases h
    exact .nil
  | cons a acts ih =>
    rw [List.foldlM_cons] at h
    obtain ⟨c₁, hstep, hrest⟩ := Option.bind_eq_some_iff.mp h
    exact .cons (.client hstep) (ih hrest)

/-- A Receiver on an empty channel, next to a timer. -/
def listening : ChannelState Nat where
  data := ⟨[], true, 1, false, 4⟩
  live := [0]
  port := .attached ⟨100, 5, 0⟩
  task := .running
  eventfd := some ⟨4, 0⟩
  stray := false
  events := ⟨3, [Event.new .timerEvent 9]⟩

/-- Its client with the event of the first message, after a second one has
been sent. -/
def inHand : Client Nat where
  channel := { listening with
    data := ⟨[1, 2], true, 1, false, 4⟩, port := .attached ⟨100, 5, 1⟩, events := ⟨3, []⟩ }
  phase := .answering
  got := []

theorem one_event_one_message_inHand :
    (inHand.phase = .answering → ∃ t rest s, inHand.channel.data.queue = t :: rest ∧
      Channel.step .w64 inHand.channel .receiverRecv = some (.data t, s)) ∧
    inHand.got ++ inHand.channel.data.queue = [] ++ [1, 2] ∧
    (inHand.phase ≠ .answering → ∃ r, inHand.channel.port = .attached r ∧
      messageEvents 5 inHand.channel.events = r.availableMessages ∧
      r.availableMessages ≤ inHand.channel.data.queue.length) := by
  have hconv : Step .w64 (initial Nat ⟨3, [Event.new .timerEvent 9]⟩)
      ⟨.fromBlockingReceiver 100 5 4, .pushed []⟩ listening := by
    show step .w64 _ _ = _
    decide
  have hserve : [ClientAct.next, .sender (.trySend 0 1), .next, .next, .next,
      .sender (.trySend 0 2), .next].foldlM (Client.step .w64 5) (Client.start listening) =
        some inHand := by
    decide
  exact one_event_one_message .nil (by decide) hconv (serve_run hserve)

end Revbio.Channel
