/-
Revbio.Channel.SyncBenchTheorems — the two tasks of `syncchannelbench.rs`
take turns, and come to an end.

A task sends only after it has received, so each message finds an empty
queue and is announced (`Attentive`). There is one message on its way at a
time (`Turn`), so a task never calls `recv` in vain, and what blocks in
`epoll_wait` waits for a message that the other one is about to send. Each
send is paid for by `cost`, which all steps lower (`ping_pong`).
-/
import Revbio.Channel.PromptTheorems
import Revbio.Channel.SyncBench

namespace Revbio.Channel

open Transition

/-! ## A task with its Receiver -/

section Client

variable {T : Type} {ws : WordSize} {info : SourceId} {all : List T} {c c' : Client T}

/-- A client that has no other sources and misses nothing. -/
structure Attentive (info : SourceId) (all : List T) (c : Client T) : Prop where
  hearing : Hearing info True all c
  announced : Announced c.channel
  own : ∀ ev ∈ c.channel.events.readyEvents, ev.sourceInfo = info

/-- What its own step does: it receives, or gets nearer to that. -/
inductive Moves (c c' : Client T) : Prop where
  | received {t : T} : c.phase = .answering → c'.phase = .idle →
      c.channel.data.queue = t :: c'.channel.data.queue → Moves c c'
  | onTheWay : c.phase ≠ .answering → c'.phase ≠ .idle → c'.phase ≠ .closed →
      c'.channel.data.queue = c.channel.data.queue → Moves c c'

/-- Until the end is next, the first event is that of a message. -/
theorem Attentive.first_message {ev : Event} {rest : List Event} (h : Attentive info all c)
    (hmore : c.channel.live ≠ [] ∨ c.channel.data.queue ≠ [])
    (hp : c.phase = .idle ∨ c.phase = .checking)
    (hq : c.channel.events.readyEvents = ev :: rest) : ev.eventType = .channelMessageEvent := by
  have hev : ev.sourceInfo = info := h.own ev (by simp [hq])
  have hhand : c.phase.inHand = 0 := by
    rcases hp with hp | hp <;> simp [hp, Phase.inHand]
  cases h.hearing.report with
  | @opened m hmine =>
    rw [hq, mine_cons, if_pos hev] at hmine
    cases m with
    | zero => cases hmine
    | succ m => exact (List.cons.inj hmine).1
  | @closing r m hmine _ hlive _ hport hall =>
    have hlast := Hearing.closing_last h.hearing.attending hport hall hhand hmine
    rw [hq, mine_cons, if_pos hev] at hmine
    cases m with
    | zero => exact absurd (hlast (by simp)) (hmore.resolve_left (not_not_intro hlive))
    | succ m => exact (List.cons.inj hmine).1
  | told _ hmine =>
    rw [hq, mine_cons, if_pos hev] at hmine
    cases hmine

theorem Attentive.moves (h : Attentive info all c)
    (hmore : c.channel.live ≠ [] ∨ c.channel.data.queue ≠ [])
    (hn : NextEffect ws info c c') :
    Moves c c' ∧ ∀ ev ∈ c'.channel.events.readyEvents, ev.sourceInfo = info := by
  have hA := h.hearing.attending
  obtain ⟨r, hr⟩ := hA.credit
  cases hn with
  | @take ev rest hp hq =>
    have hev : ev.sourceInfo = info := h.own ev (by simp [hq])
    rw [take_message hev (h.first_message hmore hp hq)]
    refine ⟨.onTheWay ?_ (by simp) (by simp) rfl, ?_⟩
    · rcases hp with hp | hp <;> simp [hp]
    · intro ev' hev'
      exact h.own ev' (by rw [hq]; exact List.mem_cons_of_mem _ hev')
  | poll hp =>
    refine ⟨.onTheWay ?_ (by simp) (by simp) rfl, h.own⟩
    rcases hp with hp | hp <;> simp [hp]
  | read hp hs =>
    obtain ⟨e, -, -, -, rfl⟩ := (step_effect hs).of_callbackRead hA.inv
    exact ⟨.onTheWay (by simp [hp]) (by simp) (by simp) rfl, h.own⟩
  | announce hp hs =>
    obtain ⟨r', hport, -, -, rfl⟩ := (step_effect hs).of_callbackLock
    cases hr.port.symm.trans hport
    refine ⟨.onTheWay (by simp [hp]) (by simp) (by simp) rfl, ?_⟩
    simp only [EventQueueImpl.pushAll_readyEvents, List.mem_append, List.mem_map]
    rintro ev (hev | ⟨kind, -, rfl⟩)
    · exact h.own ev hev
    · exact hr.source
  | @recv t s hp hs =>
    obtain ⟨t', rest, s', hq, hs', -⟩ := @Attending.answer _ ws _ _ _ hA hp
    cases hs'.symm.trans hs
    have hpos : 0 < r.availableMessages := by
      rw [← hr.events, hp]
      exact Nat.succ_pos _
    obtain ⟨_, rest', hq', ho, rfl⟩ := (step_effect hs).of_receiverRecv hr.port
      (hA.running (by simp [hp])) hpos (by simp [hq])
    exact ⟨.received hp rfl hq', h.own⟩
  | noCredit hp hs =>
    obtain ⟨t, rest, s, -, hs', -⟩ := @Attending.answer _ ws _ _ _ hA hp
    cases hs'.symm.trans hs

/-- **One step of the client.** -/
theorem Attentive.next (h : Attentive info all c)
    (hmore : c.channel.live ≠ [] ∨ c.channel.data.queue ≠ []) (hn : c.next ws info = some c') :
    Attentive info all c' ∧ c'.channel.live = c.channel.live ∧ c'.rank < c.rank ∧ Moves c c' := by
  have hA := h.hearing.attending
  have heffect := next_effect hA.inv hA.valid hn
  obtain ⟨hmoves, hown⟩ := h.moves hmore heffect
  obtain ⟨-, hlt⟩ := (h.hearing.serving (.inr h.announced) fun _ => hmore).next hn
  exact ⟨⟨h.hearing.next hn, h.announced.next hA.inv heffect, hown⟩, heffect.live, hlt, hmoves⟩

/-- With a message queued the client does not block. -/
theorem Attentive.goes_on (h : Attentive info all c) (hq : c.channel.data.queue ≠ []) :
    ∃ c', c.next ws info = some c' := by
  have hserving := h.hearing.serving (.inr h.announced) fun _ => .inr hq
  refine hserving.goes_on ?_
  intro hended
  exact hq (List.length_eq_zero_iff.mp (hserving.ended hended).1)

/-! ### What its peer does -/

theorem clientStep_of_sender {a : Act T} {o : Out T} {s : ChannelState T}
    (hby : a.bySender = true) (hs : Step ws c.channel ⟨a, o⟩ s) :
    ClientStep ws info c (.sender a) { c with channel := s } := by
  have hstep : Channel.step ws c.channel a = some (o, s) := hs
  simp [ClientStep, Client.step, hby, hstep]

/-- What a step adds to the rank at most. -/
theorem rank_le_of_inv {s : ChannelState T} (hi : Inv s)
    (hevents : s.events = c.channel.events) (hport : s.port = c.channel.port)
    (hlive : c.channel.live = [] → s.live = [])
    (hqueue : s.data.queue.length ≤ c.channel.data.queue.length + 1) :
    Client.rank { c with channel := s } ≤ c.rank + 7 := by
  have hcounter := hi.counter_le
  have hwakeups : wakeups s ≤ wakeups c.channel + 1 := by
    unfold wakeups
    by_cases hnone : c.channel.live = []
    · rw [if_pos hnone, if_pos (hlive hnone)]
      omega
    · rw [if_neg hnone]
      split <;> omega
  have havailable : s.available = c.channel.available := by
    simp only [ChannelState.available, hport]
  simp only [Client.rank, hevents, havailable]
  omega

/-- A message for a client that has none. -/
theorem Attentive.send {tx : TxId} {t : T} {o : Out T} {s : ChannelState T}
    (h : Attentive info all c) (hq : c.channel.data.queue = [])
    (hs : Step ws c.channel ⟨.trySend tx t, o⟩ s) :
    Attentive info (all ++ [t]) { c with channel := s } ∧ s.live = c.channel.live ∧
      s.data.queue = [t] ∧ Client.rank { c with channel := s } ≤ c.rank + 7 := by
  have hi := h.hearing.attending.inv
  obtain ⟨r, hr⟩ := h.hearing.attending.credit
  have hstep : ClientStep ws info c (.sender (.trySend tx t)) { c with channel := s } :=
    clientStep_of_sender rfl hs
  have heffect := step_effect hs
  have hother := heffect.atOtherEnd hi hr.port rfl
  have hqueue : s.data.queue = [t] := by
    rw [hother.queue, hq]
    rfl
  have hprompt : Prompt c (.client (.sender (.trySend tx t))) := Or.inl hq
  refine ⟨⟨h.hearing.clientStep hstep, h.announced.clientStep h.hearing hprompt hstep, ?_⟩,
    heffect.send_live, hqueue, ?_⟩
  · rw [hother.events]
    exact h.own
  · refine rank_le_of_inv (step_inv hi hs) hother.events hother.port ?_ (by simp [hqueue])
    intro hnone
    exact heffect.send_live.trans hnone

/-- The last Transmitter goes. -/
theorem Attentive.dropLast {tx : TxId} {o : Out T} {s : ChannelState T}
    (h : Attentive info all c) (hlive : c.channel.live = [tx])
    (hs : Step ws c.channel ⟨.dropTransmitter tx, o⟩ s) :
    Attentive info all { c with channel := s } ∧ s.live = [] ∧
      s.data.queue = c.channel.data.queue ∧ Client.rank { c with channel := s } ≤ c.rank := by
  have hi := h.hearing.attending.inv
  obtain ⟨r, hr⟩ := h.hearing.attending.credit
  have hstep : ClientStep ws info c (.sender (.dropTransmitter tx)) { c with channel := s } :=
    clientStep_of_sender rfl hs
  have heffect := step_effect hs
  have hnews := heffect.noNews hi hr.port rfl (by simp)
  have hsent : all ++ sent [.client (.sender (.dropTransmitter tx))] = all := by
    simp [sent]
  have hprompt : Prompt c (.client (.sender (.dropTransmitter tx))) := trivial
  refine ⟨⟨hsent ▸ h.hearing.clientStep hstep, h.announced.clientStep h.hearing hprompt hstep,
    ?_⟩, ?_, hnews.queue, ?_⟩
  · rw [hnews.events]
    exact h.own
  · have hnone : c.channel.live.erase tx = [] := by simp [hlive]
    cases heffect with
    | dropQuiet => exact hnone
    | dropSignal => exact hnone
    | dropWrite => exact hnone
    | turnWait ha => simp [turnOf] at ha
    | turnData ha => simp [turnOf] at ha
    | turnEnd ha => simp [turnOf] at ha
    | turnFail ha => simp [turnOf] at ha
  · have hwakeups := hnews.wakeups
    simp only [Client.rank, ChannelState.available, hnews.queue, hnews.port, hnews.events]
    omega

/-- A channel that has no Receiver yet, on the side of the task that is to
make one. -/
structure Unattached (c : Client T) : Prop where
  inv : Inv c.channel
  port : c.channel.port = .blocking
  task : c.channel.task = .running
  events : c.channel.events.readyEvents = []
  phase : c.phase = .idle

theorem Unattached.send {tx : TxId} {t : T} {o : Out T} {s : ChannelState T}
    (h : Unattached c) (hs : Step ws c.channel ⟨.trySend tx t, o⟩ s) :
    Unattached { c with channel := s } ∧ s.live = c.channel.live ∧
      s.data.queue = c.channel.data.queue ++ [t] ∧
      Client.rank { c with channel := s } ≤ c.rank + 7 := by
  have hi := step_inv h.inv hs
  have heffect := step_effect hs
  have hlive := heffect.send_live
  have hsent : s.data.queue = c.channel.data.queue ++ [t] ∧ s.port = c.channel.port ∧
      s.events = c.channel.events ∧ s.task = .running := by
    have htask := h.task
    cases heffect with
    | sendDead _ hdead => simp [h.inv.not_dropped (by simp [h.port])] at hdead
    | sendQuiet => exact ⟨rfl, rfl, rfl, htask⟩
    | sendSignal => exact ⟨rfl, rfl, rfl, by simp [htask, Task.signal]⟩
    | sendWrite => exact ⟨rfl, rfl, rfl, htask⟩
    | turnWait ha => simp [turnOf] at ha
    | turnData ha => simp [turnOf] at ha
    | turnEnd ha => simp [turnOf] at ha
    | turnFail ha => simp [turnOf] at ha
  obtain ⟨hqueue, hport, hevents, htask⟩ := hsent
  refine ⟨⟨hi, hport.trans h.port, htask, by rw [hevents]; exact h.events, h.phase⟩, hlive,
    hqueue, ?_⟩
  refine rank_le_of_inv hi hevents hport (fun hnone => hlive.trans hnone) ?_
  simp [hqueue]

/-- The Receiver is made, with a Transmitter at the other end. -/
theorem Unattached.attach {this : Ptr} {fd : Fd} {o : Out T} {s : ChannelState T}
    (h : Unattached c) (hlive : c.channel.live ≠ [])
    (hs : Step ws c.channel ⟨.fromBlockingReceiver this info fd, o⟩ s) :
    Attentive info c.channel.data.queue (Client.start s) ∧ s.live = c.channel.live ∧
      s.data.queue = c.channel.data.queue ∧ (Client.start s).rank ≤ c.rank + 5 := by
  have hkept : c.channel.data.nrSenders ≠ 0 := fun hz => hlive (h.inv.nrSenders_eq_zero.mp hz)
  have hi := step_inv h.inv hs
  have hnoticed : Noticed c.channel ⟨.fromBlockingReceiver this info fd, o⟩ := Or.inl hkept
  have hunattached : ∀ r, c.channel.port ≠ .attached r := by simp [h.port]
  have hannounced := (announced_of_detached hunattached).quietly h.inv hnoticed hs
  have hhearing : Hearing info True c.channel.data.queue (Client.start s) :=
    start_hearing h.inv (by simp [h.events]) (.inl hkept) hs
  have hsame : s.live = c.channel.live ∧ s.data.queue = c.channel.data.queue ∧
      s.events = c.channel.events ∧ s.available = c.channel.available := by
    obtain ⟨-, -, ⟨hz, -⟩ | ⟨-, -, -, rfl⟩ | ⟨-, -, -, rfl⟩⟩ := (step_effect hs).of_attach
    · exact absurd hz hkept
    · exact ⟨rfl, rfl, rfl, by simp [ChannelState.available, h.port]⟩
    · exact ⟨rfl, rfl, rfl, by simp [ChannelState.available, h.port]⟩
  obtain ⟨hl, hq, hevents, havailable⟩ := hsame
  refine ⟨⟨hhearing, hannounced, ?_⟩, hl, hq, ?_⟩
  · simp [hevents, h.events]
  · have hcounter := hi.counter_le
    have hwakeups : wakeups s ≤ wakeups c.channel + 1 := by
      simp only [wakeups, hl]
      omega
    simp only [Client.rank, start_channel, start_phase, hevents, hq, havailable, h.phase]
    omega

end Client

/-! ## The two tasks -/

variable {b : Bench} {s t : SyncBench} {a : BenchAct} {acts : List BenchAct}

/-- What a step of the benchmark is. -/
inductive BenchEffect (b : Bench) (s : SyncBench) : BenchAct → SyncBench → Prop where
  | mainSend {o : Out Int} {channel : ChannelState Int} : s.mainPlace = .sending →
      Step b.ws s.sub.channel ⟨.trySend 0 0, o⟩ channel →
      BenchEffect b s .main
        { s with sub := { s.sub with channel := channel }, mainPlace := .looping }
  | mainNext {c : Client Int} : s.mainPlace = .looping → s.main.next b.ws b.rx = some c →
      BenchEffect b s .main (s.mainGoesOn b c)
  | subSend {o : Out Int} {channel : ChannelState Int} : s.subPlace = .sending →
      Step b.ws s.main.channel ⟨.trySend 0 0, o⟩ channel →
      BenchEffect b s .sub
        { s with
          main := { s.main with channel := channel }
          rounds := s.rounds + 1
          subPlace := if s.rounds + 1 = b.iterations then .ended else .looping }
  | subNext {c : Client Int} : s.subPlace = .looping → s.sub.next b.ws b.rselport = some c →
      BenchEffect b s .sub (s.subGoesOn c)
  | attach {this : Ptr} {fd : Fd} {o : Out Int} {channel : ChannelState Int} :
      s.subPlace = .starting →
      Step b.ws s.sub.channel ⟨.fromBlockingReceiver this b.rselport fd, o⟩ channel →
      BenchEffect b s (.attach this fd)
        { s with
          sub := Client.start channel
          subPlace := if b.iterations = 0 then .ended else .looping }
  | dropTx {o : Out Int} {channel : ChannelState Int} : s.subPlace = .ended →
      Step b.ws s.main.channel ⟨.dropTransmitter 0, o⟩ channel →
      BenchEffect b s .dropTx { s with main := { s.main with channel := channel } }

theorem bench_effect (h : BenchStep b s a t) : BenchEffect b s a t := by
  unfold BenchStep at h
  cases a with
  | main =>
    simp only [SyncBench.step] at h
    split at h
    · rename_i hplace
      obtain ⟨⟨o, channel⟩, hs, rfl⟩ := Option.map_eq_some_iff.mp h
      exact .mainSend (o := o) hplace hs
    · rename_i hplace
      obtain ⟨c, hs, rfl⟩ := Option.map_eq_some_iff.mp h
      exact .mainNext hplace hs
    · cases h
  | sub =>
    simp only [SyncBench.step] at h
    split at h
    · rename_i hplace
      obtain ⟨⟨o, channel⟩, hs, rfl⟩ := Option.map_eq_some_iff.mp h
      exact .subSend (o := o) hplace hs
    · rename_i hplace
      obtain ⟨c, hs, rfl⟩ := Option.map_eq_some_iff.mp h
      exact .subNext hplace hs
    · cases h
  | attach this fd =>
    simp only [SyncBench.step] at h
    split at h
    · rename_i hplace
      obtain ⟨⟨o, channel⟩, hs, rfl⟩ := Option.map_eq_some_iff.mp h
      exact .attach (o := o) hplace hs
    · cases h
  | dropTx =>
    simp only [SyncBench.step] at h
    split at h
    · rename_i hplace
      obtain ⟨⟨o, channel⟩, hs, rfl⟩ := Option.map_eq_some_iff.mp h
      exact .dropTx (o := o) hplace hs
    · cases h

/-! ## Turns -/

/-- Where the one message is. -/
inductive Turn (n : Nat) (s : SyncBench) : Prop where
  /-- nowhere, the first task is to send it -/
  | send : s.mainPlace = .sending → s.subPlace = .starting ∨ s.subPlace = .looping →
      s.rounds = s.nrReceived → s.rounds < n →
      s.main.channel.data.queue = [] → s.sub.channel.data.queue = [] → Turn n s
  /-- with the spawned task -/
  | ping : s.mainPlace = .looping → s.subPlace = .starting ∨ s.subPlace = .looping →
      s.rounds = s.nrReceived → s.rounds < n →
      s.main.channel.data.queue = [] → s.sub.channel.data.queue = [0] → Turn n s
  /-- nowhere, the spawned task is to send it -/
  | answer : s.mainPlace = .looping → s.subPlace = .sending →
      s.rounds = s.nrReceived → s.rounds < n →
      s.main.channel.data.queue = [] → s.sub.channel.data.queue = [] → Turn n s
  /-- with the first task -/
  | pong : s.mainPlace = .looping →
      s.subPlace = .looping ∧ s.rounds < n ∨ s.subPlace = .ended ∧ s.rounds = n →
      s.rounds = s.nrReceived + 1 →
      s.main.channel.data.queue = [0] → s.sub.channel.data.queue = [] → Turn n s
  | finished : s.mainPlace = .ended → s.subPlace = .ended → s.rounds = s.nrReceived → s.rounds = n →
      s.main.channel.data.queue = [] → s.sub.channel.data.queue = [] → Turn n s

/-- The messages the first task has sent. -/
def SyncBench.pings (s : SyncBench) : Nat :=
  s.nrReceived + if s.mainPlace = .looping then 1 else 0

/-- The spawned task, before and after it has made its Receiver. -/
inductive SubInv (b : Bench) (all : List Int) (place : Place) (c : Client Int) : Prop where
  | unattached : place = .starting → Unattached c → c.channel.live = [0] →
      c.channel.data.queue = all → SubInv b all place c
  | attached : place ≠ .starting → Attentive b.rselport all c → c.channel.live = [0] →
      SubInv b all place c

/-- **The invariant of the benchmark.** -/
structure BenchInv (b : Bench) (s : SyncBench) : Prop where
  main : Attentive b.rx (List.replicate s.rounds 0) s.main
  tx : s.main.channel.live = [0] ∨ s.subPlace = .ended ∧ s.main.channel.live = []
  sub : SubInv b (List.replicate s.pings 0) s.subPlace s.sub
  turn : Turn b.iterations s

/-- What is left to do: seven steps at most for a message, and one for
sending it. -/
def SyncBench.cost (b : Bench) (s : SyncBench) : Nat :=
  s.main.rank + s.sub.rank + 8 * (b.iterations - s.pings) + 8 * (b.iterations - s.rounds) +
    (if s.subPlace = .starting then 6 else 0) + s.main.channel.live.length

theorem mainGoesOn_received {c : Client Int} (hp : s.main.phase = .answering) :
    s.mainGoesOn b c = { s with
      main := c
      nrReceived := s.nrReceived + 1
      mainPlace := if s.nrReceived + 1 = b.iterations then .ended else .sending } := by
  simp [SyncBench.mainGoesOn, hp]

theorem mainGoesOn_onTheWay {c : Client Int} (hp : s.main.phase ≠ .answering)
    (hidle : c.phase ≠ .idle) (hclosed : c.phase ≠ .closed) :
    s.mainGoesOn b c = { s with main := c } := by
  rw [SyncBench.mainGoesOn, if_neg hp]
  split
  · contradiction
  · contradiction
  · rfl

theorem subGoesOn_received {c : Client Int} (hp : s.sub.phase = .answering) :
    s.subGoesOn c = { s with sub := c, subPlace := .sending } := by
  simp [SyncBench.subGoesOn, hp]

theorem subGoesOn_onTheWay {c : Client Int} (hp : s.sub.phase ≠ .answering)
    (hidle : c.phase ≠ .idle) (hclosed : c.phase ≠ .closed) :
    s.subGoesOn c = { s with sub := c } := by
  rw [SyncBench.subGoesOn, if_neg hp]
  split
  · contradiction
  · contradiction
  · rfl

/-! ### One step -/

theorem SubInv.send {all : List Int} {place : Place} {c : Client Int} {o : Out Int}
    {channel : ChannelState Int} (h : SubInv b all place c) (hq : c.channel.data.queue = [])
    (hs : Step b.ws c.channel ⟨.trySend 0 0, o⟩ channel) :
    SubInv b (all ++ [0]) place { c with channel := channel } ∧ channel.data.queue = [0] ∧
      Client.rank { c with channel := channel } ≤ c.rank + 7 := by
  cases h with
  | unattached hplace hu hlive hall =>
    obtain ⟨hu', hlive', hqueue, hrank⟩ := hu.send hs
    have hone : channel.data.queue = [0] := by simp [hqueue, hq]
    exact ⟨.unattached hplace hu' (hlive'.trans hlive) (by rw [hqueue, hall]), hone, hrank⟩
  | attached hplace ha hlive =>
    obtain ⟨ha', hlive', hone, hrank⟩ := ha.send hq hs
    exact ⟨.attached hplace ha' (hlive'.trans hlive), hone, hrank⟩

theorem BenchInv.mainSend {o : Out Int} {channel : ChannelState Int} (h : BenchInv b s)
    (hplace : s.mainPlace = .sending)
    (hs : Step b.ws s.sub.channel ⟨.trySend 0 0, o⟩ channel) :
    let t := { s with sub := { s.sub with channel := channel }, mainPlace := .looping }
    BenchInv b t ∧ t.cost b < s.cost b := by
  intro t
  cases h.turn with
  | send _ hsub heven hmore hmain hempty =>
    obtain ⟨hsub', hone, hrank⟩ := h.sub.send hempty hs
    have hpings : t.pings = s.pings + 1 := by simp [t, SyncBench.pings, hplace]
    have hsent : SubInv b (List.replicate t.pings 0) t.subPlace t.sub := by
      rw [hpings, List.replicate_succ']
      exact hsub'
    refine ⟨⟨h.main, h.tx, hsent, .ping rfl hsub heven hmore hmain hone⟩, ?_⟩
    have hlt : s.pings < b.iterations := by
      simp only [SyncBench.pings, hplace]
      simp
      omega
    simp only [SyncBench.cost, hpings]
    simp only [t]
    omega
  | ping hp => simp [hplace] at hp
  | answer hp => simp [hplace] at hp
  | pong hp => simp [hplace] at hp
  | finished hp => simp [hplace] at hp

/-- The first task has something to wait for. -/
theorem BenchInv.main_more (h : BenchInv b s) (hplace : s.mainPlace = .looping) :
    s.main.channel.live ≠ [] ∨ s.main.channel.data.queue ≠ [] := by
  have hlive : s.subPlace ≠ .ended → s.main.channel.live ≠ [] := by
    intro hp
    rcases h.tx with htx | ⟨hended, -⟩
    · simp [htx]
    · exact absurd hended hp
  cases h.turn with
  | send hp => simp [hplace] at hp
  | ping _ hsub => exact .inl (hlive (by rcases hsub with hsub | hsub <;> simp [hsub]))
  | answer _ hsub => exact .inl (hlive (by simp [hsub]))
  | pong _ _ _ hqueue => exact .inr (by simp [hqueue])
  | finished hp => simp [hplace] at hp

theorem BenchInv.mainNext {c : Client Int} (h : BenchInv b s) (hplace : s.mainPlace = .looping)
    (hn : s.main.next b.ws b.rx = some c) :
    BenchInv b (s.mainGoesOn b c) ∧ (s.mainGoesOn b c).cost b < s.cost b := by
  obtain ⟨hmain, hlive, hlt, hmoves⟩ := h.main.next (h.main_more hplace) hn
  have htx : c.channel.live = [0] ∨ s.subPlace = .ended ∧ c.channel.live = [] := by
    rw [hlive]
    exact h.tx
  cases hmoves with
  | onTheWay hp hidle hclosed hqueue =>
    rw [mainGoesOn_onTheWay hp hidle hclosed]
    refine ⟨⟨hmain, htx, h.sub, ?_⟩, ?_⟩
    · cases h.turn with
      | send hp => simp [hplace] at hp
      | ping _ hsub heven hmore hq => exact .ping hplace hsub heven hmore (hqueue.trans hq) ‹_›
      | answer _ hsub heven hmore hq =>
        exact .answer hplace hsub heven hmore (hqueue.trans hq) ‹_›
      | pong _ hsub hodd hq => exact .pong hplace hsub hodd (hqueue.trans hq) ‹_›
      | finished hp => simp [hplace] at hp
    · simp only [SyncBench.cost, SyncBench.pings, hlive]
      omega
  | received hp hidle hqueue =>
    rw [mainGoesOn_received hp]
    have hpings : SyncBench.pings { s with
        main := c
        nrReceived := s.nrReceived + 1
        mainPlace := if s.nrReceived + 1 = b.iterations then .ended else .sending } =
        s.pings := by
      simp only [SyncBench.pings, hplace]
      split <;> simp_all
    refine ⟨⟨hmain, htx, by rw [hpings]; exact h.sub, ?_⟩, ?_⟩
    · cases h.turn with
      | send hp => simp [hplace] at hp
      | ping _ _ _ _ hq => simp [hqueue] at hq
      | answer _ _ _ _ hq => simp [hqueue] at hq
      | finished hp => simp [hplace] at hp
      | pong _ hsub hodd hq hempty =>
        have hnone : c.channel.data.queue = [] := by
          rw [hqueue] at hq
          exact (List.cons.inj hq).2
        rcases hsub with ⟨hsub, hmore⟩ | ⟨hsub, hall⟩
        · have hnot : s.nrReceived + 1 ≠ b.iterations := by omega
          exact .send (if_neg hnot) (.inr hsub) hodd hmore hnone hempty
        · have hlast : s.nrReceived + 1 = b.iterations := by omega
          exact .finished (if_pos hlast) hsub hodd hall hnone hempty
    · simp only [SyncBench.cost, hpings, hlive]
      omega

theorem BenchInv.subSend {o : Out Int} {channel : ChannelState Int} (h : BenchInv b s)
    (hplace : s.subPlace = .sending)
    (hs : Step b.ws s.main.channel ⟨.trySend 0 0, o⟩ channel) :
    let t := { s with
      main := { s.main with channel := channel }
      rounds := s.rounds + 1
      subPlace := if s.rounds + 1 = b.iterations then .ended else .looping }
    BenchInv b t ∧ t.cost b < s.cost b := by
  intro t
  cases h.turn with
  | answer hmain _ heven hmore hq hempty =>
    obtain ⟨ha, hlive, hone, hrank⟩ := h.main.send hq hs
    have htx : s.main.channel.live = [0] := by
      rcases h.tx with htx | ⟨hended, -⟩
      · exact htx
      · simp [hplace] at hended
    have hnot : t.subPlace ≠ .starting := by
      simp only [t]
      split <;> simp
    have hsub : SubInv b (List.replicate t.pings 0) t.subPlace t.sub := by
      cases h.sub with
      | unattached hp => simp [hplace] at hp
      | attached _ hattentive hrtx => exact .attached hnot hattentive hrtx
    refine ⟨⟨?_, .inl (hlive.trans htx), hsub, .pong hmain ?_ (by simp [t, heven]) hone hempty⟩, ?_⟩
    · simp only [t, List.replicate_succ']
      exact ha
    · by_cases hlast : s.rounds + 1 = b.iterations
      · exact .inr ⟨if_pos hlast, hlast⟩
      · have hless : s.rounds + 1 < b.iterations := by omega
        exact .inl ⟨if_neg hlast, hless⟩
    · have hpings : t.pings = s.pings := rfl
      simp only [SyncBench.cost, if_neg hnot, hpings]
      simp only [t, hlive]
      omega
  | send _ hp => simp [hplace] at hp
  | ping _ hp => simp [hplace] at hp
  | pong _ hp => simp [hplace] at hp
  | finished _ hp => simp [hplace] at hp

theorem BenchInv.subNext {c : Client Int} (h : BenchInv b s) (hplace : s.subPlace = .looping)
    (hn : s.sub.next b.ws b.rselport = some c) :
    BenchInv b (s.subGoesOn c) ∧ (s.subGoesOn c).cost b < s.cost b := by
  obtain ⟨hattentive, hrtx⟩ : Attentive b.rselport (List.replicate s.pings 0) s.sub ∧
      s.sub.channel.live = [0] := by
    cases h.sub with
    | unattached hp => simp [hplace] at hp
    | attached _ hattentive hrtx => exact ⟨hattentive, hrtx⟩
  obtain ⟨hsub, hlive, hlt, hmoves⟩ := hattentive.next (.inl (by simp [hrtx])) hn
  have htx : s.main.channel.live = [0] := by
    rcases h.tx with htx | ⟨hended, -⟩
    · exact htx
    · simp [hplace] at hended
  cases hmoves with
  | onTheWay hp hidle hclosed hqueue =>
    rw [subGoesOn_onTheWay hp hidle hclosed]
    refine ⟨⟨h.main, h.tx, .attached (by simp [hplace]) hsub (hlive.trans hrtx), ?_⟩, ?_⟩
    · cases h.turn with
      | send hmain hs heven hmore hq hempty =>
        exact .send hmain hs heven hmore hq (hqueue.trans hempty)
      | ping hmain hs heven hmore hq hone =>
        exact .ping hmain hs heven hmore hq (hqueue.trans hone)
      | answer _ hp => simp [hplace] at hp
      | pong hmain hs hodd hq hempty => exact .pong hmain hs hodd hq (hqueue.trans hempty)
      | finished _ hp => simp [hplace] at hp
    · simp only [SyncBench.cost, SyncBench.pings]
      omega
  | received hp hidle hqueue =>
    rw [subGoesOn_received hp]
    refine ⟨⟨h.main, .inl htx, .attached (by simp) hsub (hlive.trans hrtx), ?_⟩, ?_⟩
    · cases h.turn with
      | send _ _ _ _ _ hempty => simp [hqueue] at hempty
      | answer _ hp => simp [hplace] at hp
      | pong _ _ _ _ hempty => simp [hqueue] at hempty
      | finished _ hp => simp [hplace] at hp
      | ping hmain _ heven hmore hq hone =>
        rw [hqueue] at hone
        exact .answer hmain rfl heven hmore hq (List.cons.inj hone).2
    · simp [SyncBench.cost, SyncBench.pings, hplace]
      omega

theorem BenchInv.attach {this : Ptr} {fd : Fd} {o : Out Int} {channel : ChannelState Int}
    (h : BenchInv b s) (hplace : s.subPlace = .starting)
    (hs : Step b.ws s.sub.channel ⟨.fromBlockingReceiver this b.rselport fd, o⟩ channel) :
    let t := { s with
      sub := Client.start channel
      subPlace := if b.iterations = 0 then .ended else .looping }
    BenchInv b t ∧ t.cost b < s.cost b := by
  intro t
  have hmore : s.rounds < b.iterations := by
    cases h.turn with
    | send _ _ _ hmore => exact hmore
    | ping _ _ _ hmore => exact hmore
    | answer _ hp => simp [hplace] at hp
    | pong _ hp => simp [hplace] at hp
    | finished _ hp => simp [hplace] at hp
  have hloop : t.subPlace = .looping := if_neg (Nat.ne_of_gt (Nat.zero_lt_of_lt hmore))
  have htx : s.main.channel.live = [0] := by
    rcases h.tx with htx | ⟨hended, -⟩
    · exact htx
    · simp [hplace] at hended
  cases h.sub with
  | attached hp => exact absurd hplace hp
  | unattached _ hu hlive hall =>
    obtain ⟨ha, hlive', hqueue, hrank⟩ := hu.attach (by simp [hlive]) hs
    refine ⟨⟨h.main, .inl htx, .attached (by simp [hloop]) (hall ▸ ha) (hlive'.trans hlive), ?_⟩,
      ?_⟩
    · cases h.turn with
      | send hmain _ heven _ hq hempty =>
        exact .send hmain (.inr hloop) heven hmore hq (hqueue.trans hempty)
      | ping hmain _ heven _ hq hone =>
        exact .ping hmain (.inr hloop) heven hmore hq (hqueue.trans hone)
      | answer _ hp => simp [hplace] at hp
      | pong _ hp => simp [hplace] at hp
      | finished _ hp => simp [hplace] at hp
    · have hpings : t.pings = s.pings := rfl
      simp only [SyncBench.cost, hloop, hplace, hpings]
      simp [t]
      omega

theorem BenchInv.dropTx {o : Out Int} {channel : ChannelState Int} (h : BenchInv b s)
    (hplace : s.subPlace = .ended)
    (hs : Step b.ws s.main.channel ⟨.dropTransmitter 0, o⟩ channel) :
    let t := { s with main := { s.main with channel := channel } }
    BenchInv b t ∧ t.cost b < s.cost b := by
  intro t
  have hsome : s.main.channel.live ≠ [] :=
    ((step_effect hs).leaves_word h.main.hearing.attending.inv
      h.main.hearing.attending.credit.choose_spec.port rfl).1
  have htx : s.main.channel.live = [0] := h.tx.resolve_right fun hnone => hsome hnone.2
  obtain ⟨ha, hlive, hqueue, hrank⟩ := h.main.dropLast htx hs
  refine ⟨⟨ha, .inr ⟨hplace, hlive⟩, h.sub, ?_⟩, ?_⟩
  · cases h.turn with
    | send _ hp => simp [hplace] at hp
    | ping _ hp => simp [hplace] at hp
    | answer _ hp => simp [hplace] at hp
    | pong hmain hsub hodd hq hempty => exact .pong hmain hsub hodd (hqueue.trans hq) hempty
    | finished hmain hsub heven hall hq hempty =>
      exact .finished hmain hsub heven hall (hqueue.trans hq) hempty
  · have hpings : t.pings = s.pings := rfl
    simp only [SyncBench.cost, hpings]
    simp [t, hlive, htx]
    omega

/-- **One step of the benchmark.** -/
theorem BenchInv.step (h : BenchInv b s) (hstep : BenchStep b s a t) :
    BenchInv b t ∧ t.cost b < s.cost b := by
  cases bench_effect hstep with
  | mainSend hplace hs => exact h.mainSend hplace hs
  | mainNext hplace hn => exact h.mainNext hplace hn
  | subSend hplace hs => exact h.subSend hplace hs
  | subNext hplace hn => exact h.subNext hplace hn
  | attach hplace hs => exact h.attach hplace hs
  | dropTx hplace hs => exact h.dropTx hplace hs

/-! ## The result -/

theorem start_inv {events : EventQueueImpl} {this : Ptr} {fd epfd : Fd} {o : Out Int}
    {rx : ChannelState Int} (hnone : events.readyEvents = []) (hpos : 0 < b.iterations)
    (hrx : Step b.ws (initial Int events) ⟨.fromBlockingReceiver this b.rx fd, o⟩ rx) :
    BenchInv b (SyncBench.start rx epfd) ∧
      (SyncBench.start rx epfd).cost b ≤ 16 * b.iterations + 24 := by
  have hblocking : ∀ q : EventQueueImpl, q.readyEvents = [] →
      Unattached (Client.start (initial Int q)) := by
    intro q hq
    exact ⟨initial_inv q, rfl, rfl, hq, rfl⟩
  obtain ⟨ha, hlive, hqueue, hrank⟩ := (hblocking events hnone).attach (by simp [initial]) hrx
  refine ⟨⟨ha, .inl hlive, .unattached rfl (hblocking _ rfl) rfl rfl,
    .send rfl (.inl rfl) rfl hpos hqueue rfl⟩, ?_⟩
  have hcost : (SyncBench.start rx epfd).cost b =
      (Client.start rx).rank + (Client.start (initial Int ⟨epfd, []⟩)).rank +
        8 * b.iterations + 8 * b.iterations + 6 + rx.live.length := rfl
  have hbefore : ∀ q : EventQueueImpl, q.readyEvents = [] →
      (Client.start (initial Int q)).rank = 6 := by
    intro q hq
    simp [Client.rank, initial, createBlocking, wakeups, ChannelState.counter, Phase.weight, hq]
  rw [hbefore events hnone] at hrank
  rw [hcost, hbefore _ rfl, hlive]
  simp [initial]
  omega

theorem exists_step_of_live {s : ChannelState Int} {ws : WordSize} (h : 0 ∈ s.live) :
    ∃ r, step ws s (.trySend 0 0) = some r := by
  simp only [step, if_pos h]
  exact ⟨_, rfl⟩

/-- While a task is not through, one of them can go on. -/
theorem BenchInv.goes_on (h : BenchInv b s) (hmore : s.mainPlace ≠ .ended ∨ s.subPlace ≠ .ended) :
    ∃ a t, BenchStep b s a t := by
  cases h.turn with
  | send hmain =>
    have hrtx : 0 ∈ s.sub.channel.live := by
      cases h.sub with
      | unattached _ _ hlive => simp [hlive]
      | attached _ _ hlive => simp [hlive]
    obtain ⟨r, hr⟩ := @exists_step_of_live _ b.ws hrtx
    exact ⟨.main, _, by simp only [BenchStep, SyncBench.step, hmain, hr]; rfl⟩
  | ping _ hsub _ _ _ hone =>
    cases h.sub with
    | unattached hplace hu =>
      obtain ⟨r, hr⟩ : ∃ r, Channel.step b.ws s.sub.channel
          (.fromBlockingReceiver 0 b.rselport 0) = some r := by
        simp only [Channel.step, hu.port, hu.task]
        exact ⟨_, rfl⟩
      exact ⟨.attach 0 0, _, by simp only [BenchStep, SyncBench.step, hplace, hr]; rfl⟩
    | attached hplace ha =>
      obtain ⟨c, hc⟩ : ∃ c, s.sub.next b.ws b.rselport = some c := ha.goes_on (by simp [hone])
      have hloop := hsub.resolve_left hplace
      exact ⟨.sub, _, by simp only [BenchStep, SyncBench.step, hloop, hc]; rfl⟩
  | answer _ hsub =>
    have htx : 0 ∈ s.main.channel.live := by
      rcases h.tx with htx | ⟨hended, -⟩
      · simp [htx]
      · simp [hsub] at hended
    obtain ⟨r, hr⟩ := @exists_step_of_live _ b.ws htx
    exact ⟨.sub, _, by simp only [BenchStep, SyncBench.step, hsub, hr]; rfl⟩
  | pong hmain _ _ hone =>
    obtain ⟨c, hc⟩ : ∃ c, s.main.next b.ws b.rx = some c := h.main.goes_on (by simp [hone])
    exact ⟨.main, _, by simp only [BenchStep, SyncBench.step, hmain, hc]; rfl⟩
  | finished hmain hsub =>
    rcases hmore with hm | hm
    · exact absurd hmain hm
    · exact absurd hsub hm

/-- What becomes of the benchmark. -/
structure PlaysOn (b : Bench) (acts : List BenchAct) (s : SyncBench) : Prop where
  /-- the tasks take turns, with one message at most on its way -/
  inTurn : s.nrReceived ≤ s.rounds ∧ s.rounds ≤ s.nrReceived + 1 ∧ s.rounds ≤ b.iterations
  one : s.main.channel.data.queue.length + s.sub.channel.data.queue.length ≤ 1
  /-- each `recv` has returned a message -/
  received : s.main.got = List.replicate s.nrReceived 0
  answered : s.subPlace ≠ .starting →
    s.sub.got = List.replicate (s.rounds + if s.subPlace = .sending then 1 else 0) 0
  /-- no deadlock -/
  goesOn : s.mainPlace ≠ .ended ∨ s.subPlace ≠ .ended → ∃ a t, BenchStep b s a t
  /-- the benchmark comes to an end -/
  ends : acts.length ≤ 16 * b.iterations + 24
  complete : s.mainPlace = .ended → s.nrReceived = b.iterations ∧ s.rounds = b.iterations

/-- What has been received of messages that are all the same. -/
theorem got_of_order {got queue : List Int} {n : Nat}
    (h : got ++ queue = List.replicate n 0) : got = List.replicate (n - queue.length) 0 := by
  obtain ⟨hlen, hgot, -⟩ := List.append_eq_replicate_iff.mp h
  rw [hgot]
  congr 1
  omega

theorem BenchInv.received (h : BenchInv b s) :
    s.main.got = List.replicate s.nrReceived 0 := by
  have horder := got_of_order h.main.hearing.attending.order
  cases h.turn with
  | send _ _ heven _ hq => simpa [hq, heven] using horder
  | ping _ _ heven _ hq => simpa [hq, heven] using horder
  | answer _ _ heven _ hq => simpa [hq, heven] using horder
  | pong _ _ hodd hq => simpa [hq, hodd] using horder
  | finished _ _ heven _ hq => simpa [hq, heven] using horder

theorem BenchInv.answered (h : BenchInv b s) (hplace : s.subPlace ≠ .starting) :
    s.sub.got = List.replicate (s.rounds + if s.subPlace = .sending then 1 else 0) 0 := by
  cases h.sub with
  | unattached hp => exact absurd hp hplace
  | attached _ ha =>
    have horder := got_of_order ha.hearing.attending.order
    cases h.turn with
    | send hmain hsub heven _ _ hq =>
      have hloop := hsub.resolve_left hplace
      simpa [hq, heven, hmain, hloop, SyncBench.pings] using horder
    | ping hmain hsub heven _ _ hq =>
      have hloop := hsub.resolve_left hplace
      simpa [hq, heven, hmain, hloop, SyncBench.pings] using horder
    | answer hmain hsub heven _ _ hq =>
      simpa [hq, heven, hmain, hsub, SyncBench.pings] using horder
    | pong hmain hsub hodd _ hq =>
      rcases hsub with ⟨hsub, -⟩ | ⟨hsub, -⟩
      · simpa [hq, hodd, hmain, hsub, SyncBench.pings] using horder
      · simpa [hq, hodd, hmain, hsub, SyncBench.pings] using horder
    | finished hmain hsub heven _ _ hq =>
      simpa [hq, heven, hmain, hsub, SyncBench.pings] using horder

theorem BenchInv.plays_on (h : BenchInv b s) (hends : acts.length ≤ 16 * b.iterations + 24) :
    PlaysOn b acts s := by
  have hturn : (s.nrReceived ≤ s.rounds ∧ s.rounds ≤ s.nrReceived + 1 ∧
      s.rounds ≤ b.iterations) ∧
      s.main.channel.data.queue.length + s.sub.channel.data.queue.length ≤ 1 ∧
      (s.mainPlace = .ended → s.nrReceived = b.iterations ∧ s.rounds = b.iterations) := by
    cases h.turn with
    | send hmain _ heven hmore hq hq' => simp [hmain, hq, hq', heven, Nat.le_of_lt (heven ▸ hmore)]
    | ping hmain _ heven hmore hq hq' => simp [hmain, hq, hq', heven, Nat.le_of_lt (heven ▸ hmore)]
    | answer hmain _ heven hmore hq hq' =>
      simp [hmain, hq, hq', heven, Nat.le_of_lt (heven ▸ hmore)]
    | pong hmain hsub hodd hq hq' =>
      have hle : s.rounds ≤ b.iterations := by omega
      simp [hmain, hq, hq', hodd, hodd ▸ hle]
    | finished hmain _ heven hall hq hq' => simp [hq, hq', heven, heven ▸ hall]
  exact ⟨hturn.1, hturn.2.1, h.received, h.answered, h.goes_on, hends, hturn.2.2⟩

/-- **Ping-pong over two event queues**: in every run the two tasks take
turns, no `recv` is in vain, neither waits for ever, and after at most
sixteen steps for a round they are done. -/
theorem ping_pong {events : EventQueueImpl} {this : Ptr} {fd epfd : Fd} {o : Out Int}
    {rx : ChannelState Int} (hnone : events.readyEvents = []) (hpos : 0 < b.iterations)
    (hrx : Step b.ws (initial Int events) ⟨.fromBlockingReceiver this b.rx fd, o⟩ rx)
    (h : Run (BenchStep b) (SyncBench.start rx epfd) acts s) : PlaysOn b acts s := by
  obtain ⟨hstart, hcost⟩ := @start_inv b events this fd epfd o rx hnone hpos hrx
  obtain ⟨hinv, hle⟩ := h.length_le (SyncBench.cost b) hstart fun _ _ _ => BenchInv.step
  exact hinv.plays_on (by omega)

/-- One round: the message is sent before the Receiver for it is made. -/
theorem ping_pong_round : ∃ (s : SyncBench) (acts : List BenchAct),
    PlaysOn ⟨.w64, 1, 5, 6⟩ acts s ∧ acts.length = 13 ∧
      s.mainPlace = .ended ∧ s.subPlace = .ended ∧ s.main.got = [0] := by
  obtain ⟨⟨o, rx⟩, hrx⟩ : ∃ r, Channel.step .w64 (initial Int ⟨3, []⟩)
      (.fromBlockingReceiver 100 5 4) = some r := ⟨_, rfl⟩
  have hstep : Step .w64 (initial Int ⟨3, []⟩) ⟨.fromBlockingReceiver 100 5 4, o⟩ rx := hrx
  obtain ⟨s, hacts⟩ : ∃ s, [BenchAct.main, .attach 200 6, .sub, .sub, .sub, .sub, .sub, .sub,
      .main, .main, .main, .main, .main].foldlM (SyncBench.step ⟨.w64, 1, 5, 6⟩)
        (SyncBench.start rx 7) = some s ∧
      s.mainPlace = .ended ∧ s.subPlace = .ended ∧ s.main.got = [0] := by
    cases hrx
    exact ⟨_, rfl, rfl, rfl, rfl⟩
  exact ⟨s, _, ping_pong rfl Nat.one_pos hstep (Run.of_foldlM hacts.1), rfl, hacts.2⟩

end Revbio.Channel
