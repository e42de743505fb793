/-
Revbio.Channel.DeliveryTheorems — what a client hears in the end.

A message sent behind one that has been announced is not announced with it
(`announced_fails`), so a client that answers each ChannelMessageEvent may
have to wait although messages are queued. Nothing of it is lost: the drop
of the last Transmitter writes to the eventfd unless a wake-up is under way,
and the callback then announces the whole queue in front of the end.

`Report` follows the events of the Receiver through the client's queue, up
to the ChannelClosedEvent, which the client takes once. With no Transmitter
left and that one still to come it turns into the invariant of a client that
is not sent anything (`Serving`), whose rank says how far it has to go.
-/
import Revbio.Channel.AnswerTheorems

namespace Revbio.Channel

open Transition

variable {T : Type} {ws : WordSize} {info : SourceId} {all : List T} {c c' : Client T}
  {past past' : Prop}

/-! ## The invariant -/

/-- How far the reports have come, on the client's side; `past` where it has
gone on after the end. -/
inductive Report (info : SourceId) (past : Prop) (c : Client T) : Prop where
  /-- the end has not been reported -/
  | opened {m : Nat} :
      mine info c.channel.events.readyEvents = List.replicate m .channelMessageEvent →
      c.phase ≠ .closed → (c.channel.live = [] → Outstanding c.channel) → Report info past c
  /-- the report of the end is queued -/
  | closing {r : Receiver} {m : Nat} :
      mine info c.channel.events.readyEvents =
        List.replicate m .channelMessageEvent ++ [.channelClosedEvent] →
      c.phase ≠ .closed → c.channel.live = [] → ¬ Outstanding c.channel →
      c.channel.port = .attached r → r.availableMessages = c.channel.data.queue.length →
      Report info past c
  /-- the client has taken it -/
  | told : c.phase = .closed ∨ past → mine info c.channel.events.readyEvents = [] →
      c.channel.live = [] → ¬ Outstanding c.channel → c.channel.data.queue = [] →
      Report info past c

/-- **The invariant of a client that serves**, for `all` the messages that
have been sent. -/
structure Hearing (info : SourceId) (past : Prop) (all : List T) (c : Client T) : Prop where
  attending : Attending info all c
  report : Report info past c

/-! ## Steps of the client -/

/-- Where the end is next, everything has been received. -/
theorem Hearing.closing_last {r : Receiver} {evs : List EventKind} (h : Attending info all c)
    (hport : c.channel.port = .attached r)
    (hall : r.availableMessages = c.channel.data.queue.length) (hhand : c.phase.inHand = 0)
    (hmine : mine info c.channel.events.readyEvents = evs)
    (hnone : evs.count .channelMessageEvent = 0) : c.channel.data.queue = [] := by
  obtain ⟨r', hr⟩ := h.credit
  cases hport.symm.trans hr.port
  have hevents := hr.events
  rw [messageEvents, hmine, hnone, hhand] at hevents
  exact List.length_eq_zero_iff.mp (hall.symm.trans hevents.symm)

theorem Hearing.take {ev : Event} {rest : List Event} (h : Hearing info past all c)
    (hp : c.phase = .idle ∨ c.phase = .checking)
    (hq : c.channel.events.readyEvents = ev :: rest) :
    Hearing info past all (c.take info ev rest) := by
  refine ⟨h.attending.take hp hq, ?_⟩
  cases h.report with
  | @opened m hmine hph hlast =>
    rw [hq, mine_cons] at hmine
    by_cases hs : ev.sourceInfo = info
    case neg =>
      rw [if_neg hs] at hmine
      rw [take_other hs]
      exact .opened hmine (by simp) hlast
    rw [if_pos hs] at hmine
    cases m with
    | zero => cases hmine
    | succ m =>
      obtain ⟨hkind, hrest⟩ := List.cons.inj hmine
      rw [take_message hs hkind]
      exact .opened hrest (by simp) hlast
  | @closing r m hmine hph hlive hquiet hport hall =>
    have hhand : c.phase.inHand = 0 := by
      rcases hp with hp | hp <;> simp [hp, Phase.inHand]
    have hlast := Hearing.closing_last h.attending hport hall hhand hmine
    rw [hq, mine_cons] at hmine
    by_cases hs : ev.sourceInfo = info
    case neg =>
      rw [if_neg hs] at hmine
      rw [take_other hs]
      exact .closing hmine (by simp) hlive hquiet hport hall
    rw [if_pos hs] at hmine
    cases m with
    | zero =>
      obtain ⟨hkind, hrest⟩ := List.cons.inj hmine
      rw [take_closed hs hkind]
      exact .told (.inl rfl) hrest hlive hquiet (hlast (by simp))
    | succ m =>
      obtain ⟨hkind, hrest⟩ := List.cons.inj hmine
      rw [take_message hs hkind]
      exact .closing hrest (by simp) hlive hquiet hport hall
  | told hpast hmine hlive hquiet hnone =>
    rw [hq, mine_cons] at hmine
    by_cases hs : ev.sourceInfo = info
    · simp [hs] at hmine
    · rw [if_neg hs] at hmine
      rw [take_other hs]
      have hopen : c.phase ≠ .closed := by rcases hp with hp | hp <;> simp [hp]
      exact .told (.inr (hpast.resolve_left hopen)) hmine hlive hquiet hnone

/-- `next_event` goes from one phase to another without the queue. -/
theorem Report.moves {phase : Phase} (h : Report info past c) (hp : phase ≠ .closed)
    (hpast : c.phase = .closed ∨ past → past') : Report info past' { c with phase } := by
  cases h with
  | opened hmine _ hlast => exact .opened hmine hp hlast
  | closing hmine _ hlive hquiet hport hall => exact .closing hmine hp hlive hquiet hport hall
  | told htold hmine hlive hquiet hnone =>
    exact .told (.inr (hpast htold)) hmine hlive hquiet hnone

theorem Report.mono (h : Report info past c) (hpast : past → past') : Report info past' c := by
  cases h with
  | opened hmine hp hlast => exact .opened hmine hp hlast
  | closing hmine hp hlive hquiet hport hall => exact .closing hmine hp hlive hquiet hport hall
  | told htold hmine hlive hquiet hnone =>
    exact .told (htold.imp_right hpast) hmine hlive hquiet hnone

/-- The callback reads the eventfd. -/
theorem Hearing.read {s : ChannelState T} {o : Out T} (h : Hearing info past all c)
    (hp : c.phase = .polling) (hs : Step ws c.channel ⟨.callbackRead, o⟩ s) :
    Hearing info past all { c with channel := s, phase := .inCallback } := by
  have hdry := h.attending.dry (.inl hp)
  refine ⟨(h.attending.read hp hs).2, ?_⟩
  obtain ⟨e, he, hone, -, rfl⟩ := (step_effect hs).of_callbackRead h.attending.inv
  have hout : Outstanding c.channel := by
    refine .inl ?_
    rw [counter_of_some he]
    omega
  cases h.report with
  | opened hmine _ _ => exact .opened hmine (by simp) fun _ => .inr rfl
  | closing hmine => simp [hdry] at hmine
  | told _ _ _ hquiet => exact absurd hout hquiet

/-- The callback announces whatever is queued, and the end after it. -/
theorem Hearing.announce {s : ChannelState T} {o : Out T} (h : Hearing info past all c)
    (hp : c.phase = .inCallback) (hs : Step ws c.channel ⟨.callbackLock, o⟩ s) :
    Hearing info past all { c with channel := s, phase := .checking } := by
  have hdry := h.attending.dry (.inr hp)
  refine ⟨h.attending.announce hp hs, ?_⟩
  obtain ⟨r, hr⟩ := h.attending.credit
  have hzero : r.availableMessages = 0 := by
    rw [← hr.events, messageEvents, hdry, hp]
    rfl
  obtain ⟨r', hport, htask, -, rfl⟩ := (step_effect hs).of_callbackLock
  cases hr.port.symm.trans hport
  have hmine : mine info (c.channel.events.pushAll r.eventSourceInfo
      (c.channel.announced ws r)).readyEvents = c.channel.announced ws r :=
    hr.source ▸ mine_pushAll hdry _
  have hall := c.channel.announced_of_noCredit ws hzero
  by_cases hlive : c.channel.live = []
  · obtain ⟨_, e, -, he, hatt⟩ := h.attending.inv.callback htask
    rw [if_pos (h.attending.inv.nrSenders_eq_zero.mpr hlive)] at hall
    refine .closing (hmine.trans hall) (by simp) hlive ?_ rfl ?_
    · rintro (hc | hc)
      · have hcount : c.channel.counter = 0 := (counter_of_some he).trans (hatt.read htask)
        have hc' : 1 ≤ c.channel.counter := hc
        omega
      · cases hc
    · simp [ChannelState.credit, hzero]
  · rw [if_neg (fun hz => hlive (h.attending.inv.nrSenders_eq_zero.mp hz)),
      List.append_nil] at hall
    exact .opened (hmine.trans hall) (by simp) fun hnil => absurd hnil hlive

theorem Hearing.recv {s : ChannelState T} {t : T} (h : Hearing info past all c)
    (hp : c.phase = .answering) (hs : Step ws c.channel ⟨.receiverRecv, .data t⟩ s) :
    Hearing info past all { channel := s, phase := .idle, got := c.got ++ [t] } := by
  obtain ⟨t', rest', s', hq', hs', hattending⟩ := @Attending.answer _ ws _ _ _ h.attending hp
  cases hs'.symm.trans hs
  refine ⟨hattending, ?_⟩
  have hrunning := h.attending.running (by simp [hp])
  obtain ⟨r, hr⟩ := h.attending.credit
  have hpos : 0 < r.availableMessages := by
    rw [← hr.events, hp]
    exact Nat.succ_pos _
  obtain ⟨_, rest, hq, -, rfl⟩ :=
    (step_effect hs).of_receiverRecv hr.port hrunning hpos (by simp [hq'])
  have hcounter : Outstanding c.channel → 1 ≤ c.channel.counter := by
    intro hout
    exact hout.resolve_right (by simp [hrunning])
  cases h.report with
  | opened hmine _ hlast =>
    exact .opened hmine (by simp) fun hlive => .inl (hcounter (hlast hlive))
  | closing hmine _ hlive hquiet hport hall =>
    cases hr.port.symm.trans hport
    rw [hq, List.length_cons] at hall
    refine .closing hmine (by simp) hlive ?_ rfl ?_
    · rintro (hc | hc)
      · exact hquiet (.inl hc)
      · cases hc
    · simp [hall]
  | told _ _ _ _ hnone => simp [hq] at hnone

/-- **One step of the client.** -/
theorem Hearing.next (h : Hearing info past all c) (hn : c.next ws info = some c') :
    Hearing info past all c' := by
  cases next_effect h.attending.inv h.attending.valid hn with
  | take hp hq => exact h.take hp hq
  | poll hp hq =>
    have hopen : c.phase ≠ .closed := by rcases hp with hp | hp <;> simp [hp]
    exact ⟨h.attending.poll hp hq, h.report.moves (by simp) fun hpast => hpast.resolve_left hopen⟩
  | read hp hs => exact h.read hp hs
  | announce hp hs => exact h.announce hp hs
  | recv hp hs => exact h.recv hp hs
  | noCredit hp hs =>
    obtain ⟨t, rest, s, -, hs', -⟩ := @Attending.answer _ ws _ _ _ h.attending hp
    cases hs'.symm.trans hs

/-! ## Steps of the others -/

/-- A Transmitter that leaves none behind leaves word. -/
theorem Effect.leaves_word {s s' : ChannelState T} {l : Label T} {r : Receiver} (hi : Inv s)
    (hport : s.port = .attached r) (h : Effect ws s l s') (hby : l.act.bySender = true) :
    s.live ≠ [] ∧ (s'.live = [] → Outstanding s') := by
  by_cases hsend : ∃ tx t, l.act = .trySend tx t
  · obtain ⟨act, out⟩ := l
    obtain ⟨tx, t, rfl⟩ := hsend
    have hlive : tx ∈ s.live → s'.live = s.live →
        s.live ≠ [] ∧ (s'.live = [] → Outstanding s') := by
      intro htx hsame
      have hne := List.ne_nil_of_mem htx
      exact ⟨hne, fun hnil => absurd (hsame.symm.trans hnil) hne⟩
    cases h with
    | sendDead htx => exact hlive htx rfl
    | sendQuiet htx => exact hlive htx rfl
    | sendSignal htx => exact hlive htx rfl
    | sendWrite htx => exact hlive htx rfl
    | turnWait ha => exact absurd hby (turnOf_bySender ha)
    | turnData ha => exact absurd hby (turnOf_bySender ha)
    | turnFail ha => exact absurd hby (turnOf_bySender ha)
    | turnEnd ha => exact absurd hby (turnOf_bySender ha)
  · have hnews := h.noNews hi hport hby fun tx t hl => hsend ⟨tx, t, hl⟩
    exact ⟨hnews.live, hnews.last⟩

theorem Hearing.clientStep {a : ClientAct T} (h : Hearing info past all c)
    (hs : ClientStep ws info c a c') : Hearing info past (all ++ sent [.client a]) c' := by
  refine ⟨h.attending.clientStep hs, ?_⟩
  cases a with
  | next => exact (h.next hs).report
  | sender a =>
    simp only [ClientStep, Client.step] at hs
    split at hs
    · rename_i hby
      obtain ⟨⟨o, s⟩, hstep, rfl⟩ := Option.map_eq_some_iff.mp hs
      obtain ⟨r, hr⟩ := h.attending.credit
      have heffect := step_effect (l := ⟨a, o⟩) hstep
      have hother := heffect.atOtherEnd h.attending.inv hr.port hby
      obtain ⟨hsome, hlast⟩ := heffect.leaves_word h.attending.inv hr.port hby
      cases h.report with
      | opened hmine hph _ => exact .opened (hother.events ▸ hmine) hph hlast
      | closing _ _ hlive => exact absurd hlive hsome
      | told _ _ hlive => exact absurd hlive hsome
    · cases hs
  | report pushed =>
    simp only [ClientStep, Client.step] at hs
    split at hs
    · rename_i hp
      cases hs
      have hmine : mine info (c.channel.events.pollEvents (.ready pushed)).2.readyEvents =
          mine info c.channel.events.readyEvents := by
        rw [EventQueueImpl.pollEvents_ready, mine_append, mine_others hp.2, List.append_nil]
      cases h.report with
      | opened hm _ hlast => exact .opened (hmine.trans hm) (by simp) hlast
      | closing hm _ hlive hquiet hport hall =>
        exact .closing (hmine.trans hm) (by simp) hlive hquiet hport hall
      | told hpast hm hlive hquiet hnone =>
        have hpast : past := hpast.resolve_left (by simp [hp.1])
        exact .told (.inr hpast) (hmine.trans hm) hlive hquiet hnone
    · cases hs

/-- **One step of anybody.** -/
theorem Hearing.step {a : ServeAct T} (h : Hearing info past all c)
    (hpast : past ∨ a = .goOn → past') (hs : ServeStep ws info c a c') :
    Hearing info past' (all ++ sent [a]) c' := by
  have hkeep : Report info past' c' → Hearing info past' (all ++ sent [a]) c' :=
    fun hr => ⟨h.attending.step hs, hr⟩
  cases hs with
  | client hclient => exact hkeep ((h.clientStep hclient).report.mono fun hp => hpast (.inl hp))
  | pollIdle hp =>
    refine hkeep (h.report.moves (by simp) fun htold => hpast (.inl ?_))
    exact htold.resolve_left (by simp [hp])
  | pollFailed hp =>
    refine hkeep (h.report.moves (by simp) fun htold => hpast (.inl ?_))
    exact htold.resolve_left (by simp [hp])
  | @others queue _ hown =>
    have hmine : mine info queue.readyEvents = mine info c.channel.events.readyEvents :=
      congrArg (List.map Event.eventType) hown
    refine hkeep ?_
    cases h.report with
    | opened hm hph hlast => exact .opened (hmine.trans hm) hph hlast
    | closing hm hph hlive hquiet hport hall =>
      exact .closing (hmine.trans hm) hph hlive hquiet hport hall
    | told htold hm hlive hquiet hnone =>
      exact .told (htold.imp_right fun hp => hpast (.inl hp)) (hmine.trans hm) hlive hquiet hnone
  | goOn => exact hkeep (h.report.moves (by simp) fun _ => hpast (.inr rfl))

theorem Hearing.run {tr : List (ServeAct T)} (h : Hearing info past all c)
    (hr : Run (ServeStep ws info) c tr c') :
    Hearing info (past ∨ .goOn ∈ tr) (all ++ sent tr) c' := by
  induction hr with
  | nil => exact ⟨by simpa [sent] using h.attending, h.report.mono .inl⟩
  | snoc _ hs ih =>
    rw [sent_snoc, ← List.append_assoc]
    refine ih.step ?_ hs
    rintro ((hpast | hmem) | rfl)
    · exact .inl hpast
    · exact .inr (List.mem_append_left _ hmem)
    · exact .inr (by simp)

/-- A Receiver made while a Transmitter lives, or from an empty channel. -/
theorem start_hearing {s₀ s₁ : ChannelState T} {this : Ptr} {fd : Fd} {o : Out T}
    (hi : Inv s₀) (hfresh : ∀ ev ∈ s₀.events.readyEvents, ev.sourceInfo ≠ info)
    (hkept : s₀.data.nrSenders ≠ 0 ∨ s₀.data.queue = [])
    (hs : Step ws s₀ ⟨.fromBlockingReceiver this info fd, o⟩ s₁) :
    Hearing info past s₀.data.queue (Client.start s₁) := by
  refine ⟨start_attending hi hfresh hs, ?_⟩
  have hmine := mine_eq_nil hfresh
  have hsome : s₀.data.nrSenders ≠ 0 → s₀.live ≠ [] := by
    intro hne hnil
    exact hne (hi.nrSenders_eq_zero.mpr hnil)
  obtain ⟨hport, htask, ⟨hz, -, rfl⟩ | ⟨hne, -, -, rfl⟩ | ⟨hne, -, -, rfl⟩⟩ :=
    (step_effect hs).of_attach
  · have hq : s₀.data.queue = [] := hkept.resolve_left (not_not_intro hz)
    refine .closing (m := 0) ?_ (by simp) (hi.nrSenders_eq_zero.mp hz) ?_ rfl ?_
    · simp [hmine, mine_cons]
    · have he := (hi.blocking hport).1
      simp [Outstanding, ChannelState.counter, ChannelState.attach, he, htask]
    · simp [hq]
  · exact .opened (m := 0) hmine (by simp) fun hnil => absurd hnil (hsome hne)
  · exact .opened (m := 0) hmine (by simp) fun hnil => absurd hnil (hsome hne)

/-! ## The result -/

/-- With no Transmitter left, or no message missed, the client is being
served up to the ChannelClosedEvent. -/
theorem Hearing.serving (h : Hearing info past all c)
    (hword : c.channel.live = [] ∨ Announced c.channel)
    (hmore : past → c.channel.live ≠ [] ∨ c.channel.data.queue ≠ []) :
    Serving info all 0 c := by
  have hA := h.attending
  obtain ⟨r, hr⟩ := hA.credit
  have hcallback : c.phase = .inCallback ↔ c.channel.task = .callback := by
    rw [hA.task]
    by_cases hp : c.phase = .inCallback <;> simp [hp]
  have hevents := hr.events
  have hcount : ¬ Outstanding c.channel → c.channel.counter = 0 := by
    intro hquiet
    by_contra hpos
    exact hquiet (.inl (Nat.pos_of_ne_zero hpos))
  cases h.report with
  | @opened m hmine hph hlast =>
    rw [messageEvents, hmine, List.count_replicate_self] at hevents
    refine ⟨hA.inv, hA.order, hA.dry, hA.valid, ?_⟩
    refine .opened rfl hr.port hr.source hcallback hph hmine hevents hr.messages ?_ hlast
    intro hmore
    rcases hword with hlive | hannounced
    · exact hlast hlive
    · exact hannounced r hr.port hmore
  | @closing r' m hmine hph hlive hquiet hport hall =>
    cases hr.port.symm.trans hport
    have hnot : c.channel.task ≠ .callback := fun htask => hquiet (.inr htask)
    have hnot' : c.phase ≠ .inCallback := fun hp => hnot (hcallback.mp hp)
    rw [messageEvents, hmine, List.count_append, List.count_replicate_self] at hevents
    refine ⟨hA.inv, hA.order, hA.dry, hA.valid, ?_⟩
    exact .closing hr.port hr.source (hA.running hnot') hnot' hph hmine hevents hall hlive
      (hcount hquiet)
  | told htold hmine hlive hquiet hnone =>
    rcases htold with hph | hpast
    · refine ⟨hA.inv, hA.order, hA.dry, hA.valid, ?_⟩
      exact .closed hr.port (hA.running (by simp [hph])) hph (by simp [hnone]) hlive (hcount hquiet)
    · exact absurd hnone ((hmore hpast).resolve_left (not_not_intro hlive))

theorem NextEffect.live (h : NextEffect ws info c c') : c'.channel.live = c.channel.live := by
  cases h with
  | take => rfl
  | poll => rfl
  | read _ hs => exact (step_effect hs).own_live rfl
  | announce _ hs => exact (step_effect hs).own_live rfl
  | recv _ hs => exact (step_effect hs).own_live rfl
  | noCredit _ hs => exact (step_effect hs).own_live rfl

theorem cost_of_next {tr : List (ClientAct T)} (h : ∀ a ∈ tr, a = .next) :
    ownSteps tr = tr.length ∧ reportCost tr = 0 := by
  induction tr with
  | nil => exact ⟨rfl, rfl⟩
  | cons a tr ih =>
    obtain ⟨rfl, hrest⟩ := List.forall_mem_cons.mp h
    obtain ⟨hown, hcost⟩ := ih hrest
    simp only [ownSteps, reportCost] at hown hcost
    simp [ownSteps, reportCost, hown, hcost]

/-- A client that is being served gets everything by itself. -/
theorem Serving.exists_stop (h : Serving info all 0 c) :
    ∃ tr c', Run (ClientStep ws info) c tr c' ∧ (∀ a ∈ tr, a = .next) ∧ tr.length ≤ c.rank ∧
      (c'.phase = .closed ↔ c.channel.live = []) ∧ c'.channel.data.queue = [] ∧ c'.got = all := by
  have hstep : ∀ d : Client T, Serving info all 0 d ∧ d.channel.live = c.channel.live →
      ¬ d.Ended → ∃ a d', a = ClientAct.next ∧ ClientStep ws info d a d' ∧
        (Serving info all 0 d' ∧ d'.channel.live = c.channel.live) ∧ d'.rank < d.rank := by
    rintro d ⟨hd, hlive⟩ hne
    obtain ⟨d', hnext⟩ : ∃ d', d.next ws info = some d' := hd.goes_on hne
    obtain ⟨hserve, hlt⟩ := hd.next hnext
    have hsame := (next_effect hd.inv hd.valid hnext).live
    exact ⟨.next, d', rfl, hnext, ⟨hserve, hsame.trans hlive⟩, hlt⟩
  obtain ⟨tr, c', hrun, htr, ⟨hserve, hlive⟩, hend⟩ := exists_run_to Client.rank hstep c ⟨h, rfl⟩
  have hns : ∀ a ∈ tr, a.isSend = false := by
    intro a ha
    rw [htr a ha]
    rfl
  obtain ⟨-, hle⟩ := h.run hrun hns
  obtain ⟨hown, hcost⟩ := cost_of_next htr
  obtain ⟨hnone, hclosed⟩ := hserve.ended hend
  have hqueue := List.length_eq_zero_iff.mp hnone
  have horder := hserve.order
  rw [hqueue, List.append_nil] at horder
  exact ⟨tr, c', hrun, htr, by omega, by rw [hclosed, hlive], hqueue, horder⟩

/-- What a client that answers its events has heard in a run `tr`, of `all`
that has been sent. -/
structure Hears (ws : WordSize) (info : SourceId) (all : List T) (tr : List (ServeAct T))
    (c : Client T) : Prop where
  /-- with the ChannelClosedEvent it has everything -/
  complete : c.phase = .closed → c.channel.live = [] ∧ c.got = all
  /-- after the last Transmitter it comes to take the ChannelClosedEvent, and
  everything before it, unless it has gone on from there already -/
  late : c.channel.live = [] → .goOn ∉ tr →
    ∃ tr' c', Run (ClientStep ws info) c tr' c' ∧ (∀ a ∈ tr', a = .next) ∧
      tr'.length ≤ c.rank ∧ c'.phase = .closed ∧ c'.got = all

theorem Hearing.hears {tr : List (ServeAct T)} (h : Hearing info (.goOn ∈ tr) all c) :
    Hears ws info all tr c := by
  have horder := h.attending.order
  refine ⟨?_, ?_⟩
  · intro hp
    cases h.report with
    | opened _ hph => exact absurd hp hph
    | closing _ hph => exact absurd hp hph
    | told _ _ hlive _ hnone =>
      rw [hnone, List.append_nil] at horder
      exact ⟨hlive, horder⟩
  · intro hlive hpast
    have hserving := h.serving (.inl hlive) fun hp => absurd hp hpast
    obtain ⟨tr', c', hrun, htr, hle, hclosed, -, hgot⟩ := @Serving.exists_stop _ ws _ _ _ hserving
    exact ⟨tr', c', hrun, htr, hle, hclosed.mpr hlive, hgot⟩

/-- **Late, not lost.** A client that answers each ChannelMessageEvent with
one `recv`, of a Receiver made while a Transmitter lives or from an empty
channel, has received everything, in order, when it is told the end, in
every run of any number of Transmitters; and once they are gone it gets
there by itself. -/
theorem late_not_lost {events : EventQueueImpl} {tr₀ : List (Label T)}
    {s₀ s₁ : ChannelState T} {this : Ptr} {fd : Fd} {o : Out T} {tr : List (ServeAct T)}
    (h₀ : RunFrom ws events tr₀ s₀) (hfresh : ∀ ev ∈ s₀.events.readyEvents, ev.sourceInfo ≠ info)
    (hkept : s₀.data.nrSenders ≠ 0 ∨ s₀.data.queue = [])
    (hconv : Step ws s₀ ⟨.fromBlockingReceiver this info fd, o⟩ s₁)
    (h : Run (ServeStep ws info) (Client.start s₁) tr c) :
    Hears ws info (s₀.data.queue ++ sent tr) tr c := by
  have hrun := (@start_hearing _ ws info False _ _ _ _ _ (run_inv h₀) hfresh hkept hconv).run h
  exact Hearing.hears ⟨hrun.attending, hrun.report.mono fun hp => hp.resolve_left id⟩

/-- The second of two messages is announced when the Transmitter goes. -/
def unheard : Client Nat where
  channel := { listening with
    data := ⟨[2], true, 0, true, 4⟩, live := [], eventfd := some ⟨4, 1⟩, events := ⟨3, []⟩ }
  phase := .polling
  got := [1]

theorem late_not_lost_unheard : ∃ tr : List (ServeAct Nat),
    Run (ServeStep .w64 5) (Client.start listening) tr unheard ∧
      Hears .w64 5 [1, 2] tr unheard := by
  have hconv : Step .w64 (initial Nat ⟨3, [Event.new .timerEvent 9]⟩)
      ⟨.fromBlockingReceiver 100 5 4, .pushed []⟩ listening := by
    show step .w64 _ _ = _
    decide
  have hserve : [ClientAct.next, .sender (.trySend 0 1), .next, .next, .next,
      .sender (.trySend 0 2), .next, .next, .next, .sender (.dropTransmitter 0)].foldlM
        (Client.step .w64 5) (Client.start listening) = some unheard := by
    decide
  have hrun := serve_run hserve
  exact ⟨_, hrun, late_not_lost .nil (by decide) (.inr rfl) hconv hrun⟩

end Revbio.Channel
