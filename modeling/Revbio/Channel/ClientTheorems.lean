/-
Revbio.Channel.ClientTheorems — a client that serves its Receiver while
nobody sends any more.

`Serving` is the invariant of its loop: one credit for each message event
in the queue or in hand, a wake-up outstanding for whatever is not yet
announced. `rank` counts the steps the client still has in it; steps of
the Transmitters' tasks do not raise it.

The parameter `b` of the invariant is the number of messages that nobody
will ever announce.
-/
import Revbio.Channel.SignalTheorems
import Revbio.Channel.Client

namespace Revbio.Channel

open Transition

variable {T : Type} {ws : WordSize} {info : SourceId}

/-! ## The events of one source -/

/-- The kinds of the queued events of source `info`. -/
def mine (info : SourceId) (evs : List Event) : List EventKind :=
  (evs.filter (·.sourceInfo = info)).map Event.eventType

@[simp] theorem mine_nil : mine info [] = [] := rfl

theorem mine_cons (ev : Event) (evs : List Event) :
    mine info (ev :: evs) =
      if ev.sourceInfo = info then ev.eventType :: mine info evs else mine info evs := by
  by_cases h : ev.sourceInfo = info <;> simp [mine, h]

@[simp] theorem mine_append (evs evs' : List Event) :
    mine info (evs ++ evs') = mine info evs ++ mine info evs' := by
  simp [mine]

theorem mine_eq_nil {evs : List Event} (h : ∀ ev ∈ evs, ev.sourceInfo ≠ info) :
    mine info evs = [] := by
  simpa [mine, List.filter_eq_nil_iff] using h

/-- A callback of the source itself adds its events. -/
theorem mine_own (ks : List EventKind) :
    mine info (ks.map fun k => Event.new k info) = ks := by
  induction ks with
  | nil => rfl
  | cons k ks ih => simp [mine_cons, ih]

theorem mine_pushAll {q : EventQueueImpl} (hq : q.readyEvents = []) (ks : List EventKind) :
    mine info (q.pushAll info ks).readyEvents = ks := by
  rw [EventQueueImpl.pushAll_readyEvents, hq, List.nil_append, mine_own]

/-- A callback of another source adds none. -/
theorem mine_others {pushed : List (EventKind × SourceId)} (h : ∀ p ∈ pushed, p.2 ≠ info) :
    mine info (pushed.map fun p => Event.new p.1 p.2) = [] := by
  simp only [mine, List.map_eq_nil_iff, List.filter_eq_nil_iff, List.mem_map]
  intro ev h
  obtain ⟨p, hp, rfl⟩ := h
  simp [h p hp]

/-! ## The invariant -/

/-- The message that a client holds an event for. -/
def Phase.inHand : Phase → Nat
  | .answering => 1
  | _ => 0

/-- How far the reports have come, on the client's side. -/
inductive Status (info : SourceId) (b : Nat) (c : Client T) : Prop where
  /-- the end has not been reported -/
  | opened {r : Receiver} {m : Nat} :
      b = 0 → c.channel.port = .attached r → r.eventSourceInfo = info →
      (c.phase = .inCallback ↔ c.channel.task = .callback) → c.phase ≠ .closed →
      mine info c.channel.events.readyEvents = List.replicate m .channelMessageEvent →
      m + c.phase.inHand = r.availableMessages →
      r.availableMessages ≤ c.channel.data.queue.length →
      (r.availableMessages < c.channel.data.queue.length → Outstanding c.channel) →
      (c.channel.live = [] → Outstanding c.channel) → Status info b c
  /-- the report of the end is queued -/
  | closing {r : Receiver} {m : Nat} :
      c.channel.port = .attached r → r.eventSourceInfo = info →
      c.channel.task = .running → c.phase ≠ .inCallback → c.phase ≠ .closed →
      mine info c.channel.events.readyEvents =
        List.replicate m .channelMessageEvent ++ [.channelClosedEvent] →
      m + c.phase.inHand = r.availableMessages →
      r.availableMessages + b = c.channel.data.queue.length →
      c.channel.live = [] → c.channel.counter = 0 → Status info b c
  /-- the client has taken it -/
  | closed {r : Receiver} :
      c.channel.port = .attached r → c.channel.task = .running → c.phase = .closed →
      b = c.channel.data.queue.length → c.channel.live = [] → c.channel.counter = 0 →
      Status info b c

/-- **The invariant of the client's loop**, for `q₀` the messages queued
when it started. -/
structure Serving (info : SourceId) (q₀ : List T) (b : Nat) (c : Client T) : Prop where
  inv : Inv c.channel
  order : c.got ++ c.channel.data.queue = q₀
  /-- `epoll_wait` is entered with nothing queued -/
  dry : c.phase = .polling ∨ c.phase = .inCallback → c.channel.events.readyEvents = []
  valid : c.phase = .checking → ∀ ev ∈ c.channel.events.readyEvents, ev.isValid = true
  status : Status info b c

/-! ## Steps that are left -/

/-- Wake-ups under way, and the one the last Transmitter may still cause. -/
def wakeups (s : ChannelState T) : Nat := s.counter + if s.live = [] then 0 else 1

def Phase.weight : Phase → Nat
  | .idle => 1
  | .polling => 0
  | .inCallback => 4
  | .checking => 1
  | .answering => 2
  | .closed => 0

/-- The credit of the Receiver. -/
def ChannelState.available (s : ChannelState T) : Nat :=
  match s.port with
  | .attached r => r.availableMessages
  | _ => 0

/-- A bound on the steps the client still makes: two for each event queued
or still to be pushed for a message, five for each wake-up. -/
def Client.rank (c : Client T) : Nat :=
  2 * c.channel.events.readyEvents.length +
    2 * (c.channel.data.queue.length - c.channel.available) +
    5 * wakeups c.channel + c.phase.weight

/-! ## Steps of the client -/

/-- Only the tasks that hold Transmitters change their number. -/
theorem Effect.own_live {s s' : ChannelState T} {l : Label T} (h : Effect ws s l s')
    (hby : l.act.bySender = false) : s'.live = s.live := by
  cases h with
  | clone => cases hby
  | dropQuiet => cases hby
  | dropSignal => cases hby
  | dropWrite => cases hby
  | _ => rfl

/-- The queue with its first event taken. -/
def Client.popped (c : Client T) (rest : List Event) : ChannelState T :=
  { c.channel with events := { c.channel.events with readyEvents := rest } }

theorem take_other {c : Client T} {ev : Event} {rest : List Event}
    (h : ev.sourceInfo ≠ info) :
    c.take info ev rest = { c with channel := c.popped rest, phase := .idle } := by
  simp [Client.take, Client.popped, h]

theorem take_message {c : Client T} {ev : Event} {rest : List Event}
    (h : ev.sourceInfo = info) (hk : ev.eventType = .channelMessageEvent) :
    c.take info ev rest = { c with channel := c.popped rest, phase := .answering } := by
  simp [Client.take, Client.popped, h, hk]

theorem take_closed {c : Client T} {ev : Event} {rest : List Event}
    (h : ev.sourceInfo = info) (hk : ev.eventType = .channelClosedEvent) :
    c.take info ev rest = { c with channel := c.popped rest, phase := .closed } := by
  simp [Client.take, Client.popped, h, hk]

/-- The status after the first event has been taken: a message event is in
hand then, the report of the end is the last one. -/
theorem Status.take {b : Nat} {c : Client T} {ev : Event} {rest : List Event}
    (h : Status info b c) (hp : c.phase = .idle ∨ c.phase = .checking)
    (hq : c.channel.events.readyEvents = ev :: rest) :
    Status info b (c.take info ev rest) := by
  have hnot : c.phase ≠ .inCallback ∧ c.phase ≠ .closed ∧ c.phase.inHand = 0 := by
    rcases hp with hp | hp <;> simp [hp, Phase.inHand]
  obtain ⟨hncb, hncl, hhand⟩ := hnot
  cases h with
  | @opened r m hb hport hinfo hcb _ hmine hsum hle hpend hend =>
    have htask : c.channel.task ≠ .callback := fun h => hncb (hcb.mpr h)
    rw [hq, mine_cons] at hmine
    rw [hhand, Nat.add_zero] at hsum
    by_cases hs : ev.sourceInfo = info
    · rw [if_pos hs] at hmine
      cases m with
      | zero => cases hmine
      | succ m =>
        obtain ⟨hkind, hrest⟩ := List.cons.inj hmine
        rw [take_message hs hkind]
        exact .opened hb hport hinfo (by simp [Client.popped, htask]) (by simp) hrest hsum hle
          hpend hend
    · rw [if_neg hs] at hmine
      rw [take_other hs]
      exact .opened hb hport hinfo (by simp [Client.popped, htask]) (by simp) hmine hsum hle
        hpend hend
  | @closing r m hport hinfo htask _ _ hmine hsum hall hlive hcount =>
    rw [hq, mine_cons] at hmine
    rw [hhand, Nat.add_zero] at hsum
    by_cases hs : ev.sourceInfo = info
    · rw [if_pos hs] at hmine
      cases m with
      | zero =>
        obtain ⟨hkind, -⟩ := List.cons.inj hmine
        rw [take_closed hs hkind]
        exact .closed hport htask rfl (by simp only [Client.popped]; omega) hlive hcount
      | succ m =>
        obtain ⟨hkind, hrest⟩ := List.cons.inj hmine
        rw [take_message hs hkind]
        exact .closing hport hinfo htask (by simp) (by simp) hrest hsum hall hlive hcount
    · rw [if_neg hs] at hmine
      rw [take_other hs]
      exact .closing hport hinfo htask (by simp) (by simp) hmine hsum hall hlive hcount
  | closed _ _ hcl => exact absurd hcl hncl

theorem take_phase (c : Client T) (ev : Event) (rest : List Event) :
    (c.take info ev rest).phase = .idle ∨ (c.take info ev rest).phase = .answering ∨
      (c.take info ev rest).phase = .closed := by
  simp only [Client.take]
  split
  · split <;> simp
  · simp

theorem Serving.take {q₀ : List T} {b : Nat} {c : Client T} {ev : Event} {rest : List Event}
    (h : Serving info q₀ b c) (hp : c.phase = .idle ∨ c.phase = .checking)
    (hq : c.channel.events.readyEvents = ev :: rest) :
    Serving info q₀ b (c.take info ev rest) ∧ (c.take info ev rest).rank < c.rank := by
  have hphase := @take_phase _ info c ev rest
  have hweight : (c.take info ev rest).phase.weight ≤ 2 := by
    rcases hphase with h' | h' | h' <;> simp [h', Phase.weight]
  have hone : c.phase.weight = 1 := by rcases hp with hp | hp <;> simp [hp, Phase.weight]
  refine ⟨⟨events_inv h.inv, h.order, ?_, ?_, h.status.take hp hq⟩, ?_⟩
  · intro h'
    rcases hphase with h1 | h1 | h1 <;> simp [h1] at h'
  · intro h'
    rcases hphase with h1 | h1 | h1 <;> simp [h1] at h'
  · have hsame : (c.take info ev rest).rank = 2 * rest.length +
        2 * (c.channel.data.queue.length - c.channel.available) + 5 * wakeups c.channel +
        (c.take info ev rest).phase.weight := rfl
    rw [hsame, Client.rank, hq, hone, List.length_cons]
    omega

/-- The client goes to `epoll_wait` with nothing queued. -/
theorem Serving.poll {q₀ : List T} {b : Nat} {c : Client T} (h : Serving info q₀ b c)
    (hp : c.phase = .idle ∨ c.phase = .checking)
    (hq : c.channel.events.readyEvents = []) :
    Serving info q₀ b { c with phase := .polling } ∧
      Client.rank { c with phase := .polling } < c.rank := by
  have hnot : c.phase ≠ .inCallback ∧ c.phase ≠ .closed ∧ c.phase.inHand = 0 := by
    rcases hp with hp | hp <;> simp [hp, Phase.inHand]
  obtain ⟨hncb, hncl, hhand⟩ := hnot
  have hone : c.phase.weight = 1 := by rcases hp with hp | hp <;> simp [hp, Phase.weight]
  refine ⟨⟨h.inv, h.order, fun _ => hq, by simp, ?_⟩, by
    rw [Client.rank, Client.rank, hone]; exact Nat.lt_succ_self _⟩
  cases h.status with
  | opened hb hport hinfo hcb _ hmine hsum hle hpend hend =>
    have htask : c.channel.task ≠ .callback := fun h => hncb (hcb.mpr h)
    rw [hhand] at hsum
    exact .opened hb hport hinfo (by simp [htask]) (by simp) hmine hsum hle hpend hend
  | closing _ _ _ _ _ hmine => simp [hq] at hmine
  | closed _ _ hcl => exact absurd hcl hncl

/-- The callback reads the eventfd. -/
theorem Serving.read {q₀ : List T} {b : Nat} {c : Client T} {s : ChannelState T} {o : Out T}
    (h : Serving info q₀ b c) (hp : c.phase = .polling)
    (hs : Step ws c.channel ⟨.callbackRead, o⟩ s) :
    s.task = .callback ∧ Serving info q₀ b { c with channel := s, phase := .inCallback } ∧
      Client.rank { c with channel := s, phase := .inCallback } < c.rank := by
  have hi := step_inv h.inv hs
  have hdry := h.dry (.inl hp)
  obtain ⟨e, he, hone, -, rfl⟩ := (step_effect hs).of_callbackRead h.inv
  refine ⟨rfl, ⟨hi, h.order, fun _ => hdry, by simp, ?status⟩, ?rank⟩
  case rank =>
    simp only [Client.rank, wakeups, hp, Phase.weight, ChannelState.available,
      ChannelState.counter, he]
    omega
  case status =>
    cases h.status with
    | opened hb hport hinfo _ _ hmine hsum hle hpend hend =>
      rw [hp] at hsum
      exact .opened hb hport hinfo (iff_of_true rfl rfl) (by simp) hmine hsum hle
        (fun _ => .inr rfl) (fun _ => .inr rfl)
    | closing _ _ _ _ _ hmine => simp [hdry] at hmine
    | closed _ _ hcl => simp [hp] at hcl

/-- The callback announces. -/
theorem Serving.announce {q₀ : List T} {b : Nat} {c : Client T} {s : ChannelState T}
    {o : Out T} (h : Serving info q₀ b c) (hp : c.phase = .inCallback)
    (hs : Step ws c.channel ⟨.callbackLock, o⟩ s) :
    Serving info q₀ b { c with channel := s, phase := .checking } ∧
      Client.rank { c with channel := s, phase := .checking } < c.rank := by
  have hi := step_inv h.inv hs
  have hdry := h.dry (.inr hp)
  obtain ⟨r, hport, htask, -, rfl⟩ := (step_effect hs).of_callbackLock
  cases h.status with
  | closing _ _ _ hph => exact absurd hp hph
  | closed _ _ hcl => simp [hp] at hcl
  | @opened r' m hb hport' hinfo _ _ hmine hsum hle hpend hend =>
    cases hport.symm.trans hport'
    -- the client has answered everything, so there is no credit left
    have hm : m = 0 := by simpa [hdry] using hmine
    have hzero : r.availableMessages = 0 := by
      simp [← hsum, hm, hp, Phase.inHand]
    have hnew := ChannelState.announced_of_noCredit ws c.channel hzero
    have hmine' : mine info (c.channel.events.pushAll r.eventSourceInfo
        (c.channel.announced ws r)).readyEvents = c.channel.announced ws r :=
      hinfo ▸ mine_pushAll hdry _
    refine ⟨⟨hi, h.order, by simp, fun _ => EventQueueImpl.pushAll_valid hdry _ _, ?status⟩, ?rank⟩
    case rank =>
      have hlen : (c.channel.announced ws r).length ≤ c.channel.data.queue.length + 1 := by
        rw [hnew]
        split <;> simp
      simp only [Client.rank, wakeups, ChannelState.available, hport, hzero, hp, hdry,
        ChannelState.credit, EventQueueImpl.pushAll_readyEvents, List.nil_append,
        List.length_map, List.length_nil, Phase.weight, ChannelState.counter]
      omega
    case status =>
      by_cases hlive : c.channel.live = []
      · have hnr := h.inv.nrSenders_eq_zero.mpr hlive
        obtain ⟨_, e, hp', he, hatt⟩ := h.inv.callback htask
        refine .closing (m := c.channel.data.queue.length) rfl hinfo rfl (by simp) (by simp)
          ?_ ?_ ?_ hlive ?_
        · rw [hmine', hnew, if_pos hnr]
        · simp [ChannelState.credit, hzero, Phase.inHand]
        · simp [ChannelState.credit, hzero, hb]
        · exact (counter_of_some he).trans (hatt.read htask)
      · have hnr : c.channel.data.nrSenders ≠ 0 := fun h' =>
          hlive (h.inv.nrSenders_eq_zero.mp h')
        refine .opened (m := c.channel.data.queue.length) hb rfl hinfo (by simp) (by simp)
          ?_ ?_ ?_ ?_ fun h' => absurd h' hlive
        · rw [hmine', hnew, if_neg hnr, List.append_nil]
        · simp [ChannelState.credit, hzero, Phase.inHand]
        · simp [ChannelState.credit, hzero]
        · simp [ChannelState.credit, hzero]

theorem Serving.attached {q₀ : List T} {b : Nat} {c : Client T} (h : Serving info q₀ b c) :
    ∃ r, c.channel.port = .attached r := by
  cases h.status with
  | opened _ hport => exact ⟨_, hport⟩
  | closing hport => exact ⟨_, hport⟩
  | closed hport => exact ⟨_, hport⟩

/-- Outside the callback the task is not inside any operation. -/
theorem Serving.running {q₀ : List T} {b : Nat} {c : Client T} (h : Serving info q₀ b c)
    (hp : c.phase ≠ .inCallback) : c.channel.task = .running := by
  cases h.status with
  | opened _ hport _ hcb =>
    cases h.inv.mode with
    | blocking hp' _ _ => simp [hport] at hp'
    | attached _ _ hatt => exact hatt.task.resolve_right fun h' => hp (hcb.mpr h')
    | dead _ _ hd => exact hd.task
    | gone _ _ ht => exact ht
  | closing _ _ htask => exact htask
  | closed _ htask => exact htask

/-- With a message event in hand there is a message. -/
theorem Serving.credit {q₀ : List T} {b : Nat} {c : Client T} (h : Serving info q₀ b c)
    (hp : c.phase = .answering) :
    ∃ r, c.channel.port = .attached r ∧ 1 ≤ r.availableMessages ∧
      r.availableMessages ≤ c.channel.data.queue.length := by
  cases h.status with
  | @opened r m _ hport _ _ _ _ hsum hle =>
    rw [hp] at hsum
    exact ⟨r, hport, by rw [← hsum]; exact Nat.le_add_left 1 m, hle⟩
  | @closing r m hport _ _ _ _ _ hsum hall =>
    rw [hp] at hsum
    exact ⟨r, hport, by rw [← hsum]; exact Nat.le_add_left 1 m, by omega⟩
  | closed _ _ hcl => simp [hp] at hcl

/-- So `recv` returns the oldest message. -/
theorem Serving.answer {q₀ : List T} {b : Nat} {c : Client T} {s : ChannelState T} {o : Out T}
    (h : Serving info q₀ b c) (hp : c.phase = .answering)
    (hs : Step ws c.channel ⟨.receiverRecv, o⟩ s) :
    ∃ t, o = .data t ∧
      Serving info q₀ b { channel := s, phase := .idle, got := c.got ++ [t] } ∧
      Client.rank { channel := s, phase := .idle, got := c.got ++ [t] } < c.rank := by
  have hi := step_inv h.inv hs
  obtain ⟨r, hport, hpos, hle⟩ := h.credit hp
  have htask := h.running (by simp [hp])
  have hne : c.channel.data.queue ≠ [] := fun h' => by simp [h'] at hle; omega
  obtain ⟨t, rest, hq, rfl, rfl⟩ := (step_effect hs).of_receiverRecv hport htask hpos hne
  refine ⟨t, rfl, ⟨hi, ?order, by simp, by simp, ?status⟩, ?rank⟩
  case order =>
    rw [← h.order, hq]
    simp
  case rank =>
    rw [hq, List.length_cons] at hle
    simp only [Client.rank, wakeups, ChannelState.available, hport, hp, hq,
      List.length_cons, Phase.weight, ChannelState.counter, ChannelState.take]
    omega
  case status =>
    have hdown : c.channel.task ≠ .callback := by simp [htask]
    cases h.status with
    | @opened r' m hb hport' hinfo hcb _ hmine hsum _ hpend hend =>
      cases hport.symm.trans hport'
      rw [hp] at hsum
      rw [hq, List.length_cons] at hpend
      have hout : Outstanding c.channel → 1 ≤ c.channel.counter := fun h' =>
        h'.resolve_right hdown
      refine .opened (m := m) hb rfl hinfo (by simp) (by simp) hmine ?_ ?_ ?_ ?_
      · simp only [Phase.inHand] at hsum ⊢
        omega
      · rw [hq, List.length_cons] at hle
        simp only [take_queue]
        omega
      · intro hlt
        simp only [take_queue] at hlt
        exact .inl (hout (hpend (by omega)))
      · intro hl
        exact .inl (hout (hend hl))
    | @closing r' m hport' hinfo _ _ _ hmine hsum hall hlive hcount =>
      cases hport.symm.trans hport'
      rw [hp] at hsum
      rw [hq, List.length_cons] at hall
      refine .closing (m := m) rfl hinfo rfl (by simp) (by simp) hmine ?_ ?_ hlive hcount
      · simp only [Phase.inHand] at hsum ⊢
        omega
      · simp only [take_queue]
        omega
    | closed _ _ hcl => simp [hp] at hcl

/-- What the client's own step can do, while the queue holds valid events
only. -/
inductive NextEffect (ws : WordSize) (info : SourceId) (c : Client T) : Client T → Prop where
  | take {first : Event} {rest : List Event} : c.phase = .idle ∨ c.phase = .checking →
      c.channel.events.readyEvents = first :: rest →
      NextEffect ws info c (c.take info first rest)
  | poll : c.phase = .idle ∨ c.phase = .checking → c.channel.events.readyEvents = [] →
      NextEffect ws info c { c with phase := .polling }
  | read {o : Out T} {s : ChannelState T} : c.phase = .polling →
      Step ws c.channel ⟨.callbackRead, o⟩ s →
      NextEffect ws info c { c with channel := s, phase := .inCallback }
  | announce {o : Out T} {s : ChannelState T} : c.phase = .inCallback →
      Step ws c.channel ⟨.callbackLock, o⟩ s →
      NextEffect ws info c { c with channel := s, phase := .checking }
  | recv {t : T} {s : ChannelState T} : c.phase = .answering →
      Step ws c.channel ⟨.receiverRecv, .data t⟩ s →
      NextEffect ws info c { channel := s, phase := .idle, got := c.got ++ [t] }
  | noCredit {s : ChannelState T} : c.phase = .answering →
      Step ws c.channel ⟨.receiverRecv, .noCredit⟩ s →
      NextEffect ws info c { c with channel := s, phase := .idle }

theorem next_effect {c c' : Client T} (hi : Inv c.channel)
    (hvalid : c.phase = .checking → ∀ ev ∈ c.channel.events.readyEvents, ev.isValid = true)
    (hn : c.next ws info = some c') : NextEffect ws info c c' := by
  cases hp : c.phase with
  | idle =>
    simp only [Client.next, hp] at hn
    split at hn
    · rename_i first rest hq
      cases hn
      exact .take (.inl hp) hq
    · rename_i hq
      cases hn
      exact .poll (.inl hp) hq
  | polling =>
    simp only [Client.next, hp] at hn
    split at hn
    · rename_i o s hs
      have hread : Step ws c.channel ⟨.callbackRead, o⟩ s := hs
      rw [if_pos ((step_effect hread).callbackRead_one hi).2] at hn
      cases hn
      exact .read hp hread
    · cases hn
  | inCallback =>
    simp only [Client.next, hp] at hn
    split at hn
    · rename_i o s hs
      cases hn
      exact .announce (o := o) hp hs
    · cases hn
  | checking =>
    simp only [Client.next, hp] at hn
    split at hn
    · rename_i first rest hq
      rw [if_pos (hvalid hp first (by simp [hq]))] at hn
      cases hn
      exact .take (.inr hp) hq
    · rename_i hq
      cases hn
      exact .poll (.inr hp) hq
  | answering =>
    simp only [Client.next, hp] at hn
    split at hn
    · rename_i t s hs
      cases hn
      exact .recv hp hs
    · rename_i s hs
      cases hn
      exact .noCredit hp hs
    · cases hn
  | closed => simp [Client.next, hp] at hn

/-- **One step of the client.** -/
theorem Serving.next {q₀ : List T} {b : Nat} {c c' : Client T} (h : Serving info q₀ b c)
    (hn : c.next ws info = some c') : Serving info q₀ b c' ∧ c'.rank < c.rank := by
  cases next_effect h.inv h.valid hn with
  | take hp hq => exact h.take hp hq
  | poll hp hq => exact h.poll hp hq
  | read hp hs => exact (h.read hp hs).2
  | announce hp hs => exact h.announce hp hs
  | recv hp hs =>
    obtain ⟨t, ht, hserve⟩ := h.answer hp hs
    cases ht
    exact hserve
  | noCredit hp hs =>
    obtain ⟨t, ht, -⟩ := h.answer hp hs
    cases ht

/-- The client goes on until it has stopped. -/
theorem Serving.goes_on {q₀ : List T} {b : Nat} {c : Client T} (h : Serving info q₀ b c)
    (he : ¬ c.Ended) : ∃ c', c.next ws info = some c' := by
  obtain ⟨r, hport⟩ := h.attached
  cases hp : c.phase with
  | idle =>
    cases hq : c.channel.events.readyEvents <;> simp only [Client.next, hp, hq] <;>
      exact ⟨_, rfl⟩
  | polling =>
    have htask := h.running (by simp [hp])
    have hpos : c.channel.counter ≠ 0 := fun h0 => he (.inr ⟨hp, h0⟩)
    obtain ⟨⟨o, s⟩, hs⟩ : ∃ os, step ws c.channel .callbackRead = some os := by
      cases hev : c.channel.eventfd with
      | none => simp [ChannelState.counter, hev] at hpos
      | some e =>
        have hcount : 1 ≤ e.counter := by
          rw [counter_of_some hev] at hpos
          omega
        simp only [Channel.step, htask, hport, hev, if_pos hcount]
        exact ⟨_, rfl⟩
    simp only [Client.next, hp, hs]
    exact ⟨_, rfl⟩
  | inCallback =>
    have htask : c.channel.task = .callback := by
      cases h.status with
      | opened _ _ _ hcb => exact hcb.mp hp
      | closing _ _ _ hph => exact absurd hp hph
      | closed _ _ hcl => simp [hp] at hcl
    obtain ⟨⟨o, s⟩, hs⟩ : ∃ os, step ws c.channel .callbackLock = some os := by
      simp only [Channel.step, htask, hport]
      exact ⟨_, rfl⟩
    simp only [Client.next, hp, hs]
    exact ⟨_, rfl⟩
  | checking =>
    cases hq : c.channel.events.readyEvents with
    | nil =>
      simp only [Client.next, hp, hq]
      exact ⟨_, rfl⟩
    | cons first rest =>
      have hv : first.isValid = true := h.valid hp first (by simp [hq])
      simp only [Client.next, hp, hq, if_pos hv]
      exact ⟨_, rfl⟩
  | answering =>
    have htask := h.running (by simp [hp])
    obtain ⟨⟨o, s⟩, hs⟩ : ∃ os, step ws c.channel .receiverRecv = some os := by
      simp only [Channel.step, htask, hport]
      exact ⟨_, rfl⟩
    obtain ⟨t, rfl, -⟩ := h.answer hp hs
    simp only [Client.next, hp, hs]
    exact ⟨_, rfl⟩
  | closed => exact absurd (.inl hp) he

/-! ## Steps of the others -/

/-- What a clone or a drop of a Transmitter means to the Receiver. -/
structure NoNews (s s' : ChannelState T) : Prop where
  queue : s'.data.queue = s.data.queue
  port : s'.port = s.port
  task : s'.task = s.task
  events : s'.events = s.events
  live : s.live ≠ []
  outstanding : Outstanding s → Outstanding s'
  last : s'.live = [] → Outstanding s'
  wakeups : wakeups s' ≤ wakeups s

/-- The task of the Receiver takes the turns of a receive. -/
theorem turnOf_bySender {s : ChannelState T} {a : Act T} {b : BlockedIn}
    (h : turnOf s a = some b) : a.bySender ≠ true := by
  rcases turnOf_receives h with rfl | rfl | rfl | rfl <;> simp [Act.bySender]

theorem Effect.noNews {s s' : ChannelState T} {l : Label T} {r : Receiver} (hi : Inv s)
    (hport : s.port = .attached r) (h : Effect ws s l s') (hby : l.act.bySender = true)
    (hns : ∀ tx t, l.act ≠ .trySend tx t) : NoNews s s' := by
  have hsigned : s.data.epollFd = -1 → s.live = [] := fun hfd => by
    have hnone := hi.eventfd_none.mp hfd
    cases hi.mode with
    | blocking hp _ _ => simp [hport] at hp
    | attached _ he _ => simp [hnone] at he
    | dead _ _ hd => exact hd.live
    | gone hp _ _ => simp [hport] at hp
  cases h with
  | @clone tx new htx =>
    have hl := List.ne_nil_of_mem htx
    exact ⟨rfl, rfl, rfl, rfl, hl, id, by simp, by simp [wakeups, ChannelState.counter, hl]⟩
  | @dropQuiet tx htx hq =>
    have hl := List.ne_nil_of_mem htx
    refine ⟨rfl, rfl, rfl, rfl, hl, id, fun hnil => ?_, ?_⟩
    · have hz : (s.leave ws tx).data.nrSenders = 0 := by
        rw [hi.leave_senders htx, hnil, List.length_nil]
      have hn := hq.resolve_left (not_not_intro hz)
      exact hi.outstanding_iff.mpr ((hi.flag hport hl).mp hn)
    · simp only [wakeups, if_neg hl]
      exact Nat.add_le_add_left (by split <;> omega) _
  | dropSignal htx _ _ hfd => exact absurd (hsigned hfd) (List.ne_nil_of_mem htx)
  | @dropWrite tx htx hz _ hfd =>
    have hl := List.ne_nil_of_mem htx
    obtain ⟨e, he, hef⟩ := hi.open_eventfd hfd
    have ho : Outstanding (s.leave ws tx).write := outstanding_write he hef
    have hnil : (s.leave ws tx).write.live = [] := by
      rw [hi.leave_senders htx] at hz
      exact List.length_eq_zero_iff.mp hz
    refine ⟨rfl, rfl, rfl, rfl, hl, fun _ => ho, fun _ => ho, ?_⟩
    refine Nat.le_of_eq ?_
    simp only [wakeups, if_pos hnil, if_neg hl]
    rw [write_eq (s := s.leave ws tx) he hef, counter_of_some rfl, counter_of_some he]
  | sendDead => exact absurd rfl (hns _ _)
  | sendQuiet => exact absurd rfl (hns _ _)
  | sendSignal => exact absurd rfl (hns _ _)
  | sendWrite => exact absurd rfl (hns _ _)
  | turnWait ha => exact absurd hby (turnOf_bySender ha)
  | turnData ha => exact absurd hby (turnOf_bySender ha)
  | turnEnd ha => exact absurd hby (turnOf_bySender ha)
  | turnFail ha => exact absurd hby (turnOf_bySender ha)
  | _ => simp [Act.bySender] at hby

theorem Serving.sender {q₀ : List T} {b : Nat} {c : Client T} {s : ChannelState T}
    (h : Serving info q₀ b c) (hn : NoNews c.channel s) (hi : Inv s) :
    Serving info q₀ b { c with channel := s } := by
  refine ⟨hi, by rw [hn.queue, h.order], by rw [hn.events]; exact h.dry,
    by rw [hn.events]; exact h.valid, ?_⟩
  cases h.status with
  | opened hb hport hinfo hcb hph hmine hsum hle hpend hend =>
    exact .opened hb (hn.port.trans hport) hinfo (by rw [hn.task]; exact hcb) hph
      (by rw [hn.events]; exact hmine) hsum (by rw [hn.queue]; exact hle)
      (fun hlt => hn.outstanding (hpend (hn.queue ▸ hlt))) hn.last
  | closing _ _ _ _ _ _ _ _ hlive => exact absurd hlive hn.live
  | closed _ _ _ _ hlive => exact absurd hlive hn.live

theorem Serving.report {q₀ : List T} {b : Nat} {c : Client T}
    {pushed : List (EventKind × SourceId)} (h : Serving info q₀ b c)
    (hp : c.phase = .polling) (hpushed : ∀ p ∈ pushed, p.2 ≠ info) :
    Serving info q₀ b { c with
      channel := { c.channel with
        events := (c.channel.events.pollEvents (.ready pushed)).2 }
      phase := .checking } := by
  have hdry := h.dry (.inl hp)
  refine ⟨events_inv h.inv, h.order, by simp,
    fun _ => EventQueueImpl.pollEvents_valid hdry pushed, ?_⟩
  cases h.status with
  | opened hb hport hinfo hcb _ hmine hsum hle hpend hend =>
    have htask : c.channel.task ≠ .callback := fun h' => by simp [hcb.mpr h'] at hp
    rw [hp] at hsum
    refine .opened hb hport hinfo (by simp [htask]) (by simp) ?_ hsum hle hpend hend
    rw [EventQueueImpl.pollEvents_ready, mine_append, hmine, mine_others hpushed, List.append_nil]
  | closing _ _ _ _ _ hmine => simp [hdry] at hmine
  | closed _ _ hcl => simp [hp] at hcl

/-! ## Runs -/

theorem ownSteps_append (tr tr' : List (ClientAct T)) :
    ownSteps (tr ++ tr') = ownSteps tr + ownSteps tr' := by
  simp [ownSteps]

theorem reportCost_append (tr tr' : List (ClientAct T)) :
    reportCost (tr ++ tr') = reportCost tr + reportCost tr' := by
  simp [reportCost]

/-- **One step of anybody**, as long as nobody sends. -/
theorem Serving.step {q₀ : List T} {b : Nat} {c c' : Client T} {a : ClientAct T}
    (h : Serving info q₀ b c) (hs : ClientStep ws info c a c') (hns : a.isSend = false) :
    Serving info q₀ b c' ∧ ownSteps [a] + c'.rank ≤ c.rank + reportCost [a] := by
  cases a with
  | next =>
    obtain ⟨hserve, hlt⟩ := h.next hs
    refine ⟨hserve, ?_⟩
    simp only [ownSteps, reportCost, List.filter_cons, List.filter_nil, List.map_cons,
      List.map_nil, List.sum_cons, List.sum_nil, if_true, List.length_cons, List.length_nil]
    omega
  | sender a =>
    simp only [ClientStep, Client.step] at hs
    split at hs
    · rename_i hby
      obtain ⟨⟨o, s⟩, hstep, rfl⟩ := Option.map_eq_some_iff.mp hs
      obtain ⟨r, hport⟩ := h.attached
      have hne : ∀ tx t, a ≠ .trySend tx t := fun tx t heq => by
        simp [heq, ClientAct.isSend] at hns
      have hnews := (step_effect (l := ⟨a, o⟩) hstep).noNews h.inv hport hby hne
      refine ⟨h.sender hnews (step_inv (l := ⟨a, o⟩) h.inv hstep), ?_⟩
      have hw := hnews.wakeups
      have hown : ownSteps [ClientAct.sender a] = 0 := rfl
      have hcost : reportCost [ClientAct.sender a] = 0 := rfl
      simp only [Client.rank, ChannelState.available, hnews.queue, hnews.port, hnews.events,
        hown, hcost]
      omega
    · cases hs
  | report pushed =>
    simp only [ClientStep, Client.step] at hs
    split at hs
    · rename_i hp
      cases hs
      refine ⟨h.report hp.1 hp.2, ?_⟩
      have hown : ownSteps [ClientAct.report (T := T) pushed] = 0 := rfl
      have hcost : reportCost [ClientAct.report (T := T) pushed] = 2 * pushed.length + 1 := by
        simp [reportCost]
      rw [hown, hcost]
      simp only [Client.rank, EventQueueImpl.pollEvents_ready, wakeups, ChannelState.available,
        ChannelState.counter, List.length_append, List.length_map, hp.1, Phase.weight]
      omega
    · cases hs

theorem Serving.run {q₀ : List T} {b : Nat} {c c' : Client T} {tr : List (ClientAct T)}
    (h : Serving info q₀ b c) (hr : Run (ClientStep ws info) c tr c')
    (hns : ∀ a ∈ tr, a.isSend = false) :
    Serving info q₀ b c' ∧ ownSteps tr + c'.rank ≤ c.rank + reportCost tr := by
  induction hr with
  | nil => exact ⟨h, by simp [ownSteps, reportCost]⟩
  | @snoc tr c' c'' a _ hs ih =>
    obtain ⟨hserve, hle⟩ := ih fun a' ha' => hns a' (List.mem_append_left _ ha')
    obtain ⟨hserve', hle'⟩ := hserve.step hs (hns a (by simp))
    refine ⟨hserve', ?_⟩
    rw [ownSteps_append, reportCost_append]
    omega

/-- What a client that has stopped has got. -/
theorem Serving.ended {q₀ : List T} {b : Nat} {c : Client T} (h : Serving info q₀ b c)
    (he : c.Ended) :
    c.channel.data.queue.length = b ∧ (c.phase = .closed ↔ c.channel.live = []) := by
  cases h.status with
  | @opened r m hb _ _ hcb hcl hmine hsum hle hpend hend =>
    obtain ⟨hp, hzero⟩ := he.resolve_left hcl
    have hquiet : ¬ Outstanding c.channel := by
      rintro (hc | hc)
      · omega
      · simp [hcb.mpr hc] at hp
    have hm : m = 0 := by simpa [h.dry (.inl hp)] using hmine
    rw [hp, hm] at hsum
    have hlen := Nat.le_of_not_lt fun hlt => hquiet (hpend hlt)
    simp only [Phase.inHand] at hsum
    exact ⟨by omega, fun h' => absurd h' hcl, fun hl => absurd (hend hl) hquiet⟩
  | closing _ _ _ _ hcl hmine =>
    obtain ⟨hp, -⟩ := he.resolve_left hcl
    simp [h.dry (.inl hp)] at hmine
  | closed _ _ hcl hb hlive => exact ⟨hb.symm, fun _ => hlive, fun _ => hcl⟩

/-- The client does stop, if nobody else does anything. -/
theorem Serving.exists_end {q₀ : List T} {b : Nat} {c : Client T} (h : Serving info q₀ b c) :
    ∃ tr c', Run (ClientStep ws info) c tr c' ∧ (∀ a ∈ tr, a.isSend = false) ∧
      Serving info q₀ b c' ∧ c'.Ended :=
  exists_run_to (L := fun a : ClientAct T => a.isSend = false) Client.rank
    (fun c hc hne => by
      obtain ⟨c', hnext⟩ : ∃ c', c.next ws info = some c' := hc.goes_on hne
      obtain ⟨hserve, hlt⟩ := hc.next hnext
      exact ⟨.next, c', rfl, hnext, hserve, hlt⟩) c h

end Revbio.Channel
