/-
Revbio.EventQueue.SurroundingsTheorems — a task from where the client of one
of its Receivers stands.

`ServeStep` runs the client of a Receiver next to whatever else its task
has: other sources push and remove events of their own, and `next_event`
hands them out. Here this is read off the task itself. An operation of an
object marks events of that object, or pushes such events, and does nothing
else to the queue (`TouchedBy`). So a run of the task that keeps away from
the Receiver is, for its client, a run of `ServeStep` in which nothing is
sent or received (`surroundings`).
-/
import Revbio.Channel.ClientTheorems
import Revbio.EventQueue.GhostTheorems

namespace Revbio.EventLoop

open CallTree Prog Epoll Transition Function

variable {T : Type} {ws : WordSize} {host : Endian} {q q' : EventQueueImpl} {info : SourceId}

/-! ## What an operation does to the queue -/

/-- What is done to a queue for the source `src`: its events are marked, or
further ones pushed. -/
def Touches (src : SourceId) (q q' : EventQueueImpl) : Prop :=
  q' = q.removePendingEvents (fun ev => decide (ev.sourceInfo = src)) ∨ PushedOnly src q q'

/-- The source an object is. -/
def sourceOf : Object T → Option SourceId
  | .tcp s => some s.eventSourceInfo
  | .server s => some s.eventSourceInfo
  | .timer t => some t.eventSourceInfo
  | .receiver r _ => some r.eventSourceInfo
  | _ => none

/-- What object `o` does to a queue. -/
def TouchedBy (o : Object T) (q q' : EventQueueImpl) : Prop :=
  q' = q ∨ ∃ src, sourceOf o = some src ∧ Touches src q q'

/-- The events of `info` in a queue, marks included. -/
def eventsOf (info : SourceId) (q : EventQueueImpl) : List Event :=
  q.readyEvents.filter (·.sourceInfo = info)

theorem Touches.others {src : SourceId} (h : Touches src q q') (hne : src ≠ info) :
    eventsOf info q' = eventsOf info q := by
  rcases h with rfl | ⟨kinds, rfl⟩
  · simp only [eventsOf, EventQueueImpl.removePendingEvents, decide_eq_true_eq]
    induction q.readyEvents with
    | nil => rfl
    | cons ev evs ih =>
      by_cases hsrc : ev.sourceInfo = src
      · simp [hsrc, hne, ih]
      · simp [List.filter_cons, hsrc, ih]
  · simp [eventsOf, EventQueueImpl.pushAll_readyEvents, hne]

theorem TouchedBy.others {o : Object T} (h : TouchedBy o q q') (hne : sourceOf o ≠ some info) :
    eventsOf info q' = eventsOf info q := by
  rcases h with rfl | ⟨src, hsrc, htouch⟩
  · rfl
  · refine htouch.others ?_
    rintro rfl
    exact hne hsrc

theorem TouchedBy.removed {o : Object T} {src : SourceId} (ho : sourceOf o = some src)
    (h : q' = q.removePendingEvents fun ev => decide (ev.sourceInfo = src)) :
    TouchedBy o q q' := .inr ⟨src, ho, .inl h⟩

theorem TouchedBy.pushed {o : Object T} {src : SourceId} (ho : sourceOf o = some src)
    (h : PushedOnly src q q') : TouchedBy o q q' := .inr ⟨src, ho, .inr h⟩

theorem closing_touches (c : Closing T) {o : Object T} (ho : sourceOf o = some c.source) :
    (c.queueAfter q).Returns (TouchedBy o q) :=
  (c.removes q).mono fun _ h => .removed ho h

theorem tcp_close_touches (s : TcpSocket) :
    (s.close q).Returns fun r => TouchedBy (.tcp s : Object T) q r.2 :=
  (returns_bind _ _ _).mp (closing_touches (T := T) (.tcpSocketClose s) rfl)

theorem server_close_touches (s : TcpServerSocket) :
    (s.close q).Returns fun r => TouchedBy (.server s : Object T) q r.2 :=
  (returns_bind _ _ _).mp (closing_touches (T := T) (.tcpServerSocketClose s) rfl)

theorem tcp_write_touches (s : TcpSocket) (len : Nat) :
    (s.write ws len q).Returns fun r => TouchedBy (.tcp s : Object T) q r.2.2 := by
  refine returns_next ?_
  intro ⟨result, raw⟩
  simp only
  split
  · exact .removed rfl (TcpSocket.removePendingEvents_eq { s with socket := raw } q)
  · exact .inl rfl

theorem tcp_read_touches (s : TcpSocket) (len : Nat) :
    (s.read ws len q).Returns fun r => TouchedBy (.tcp s : Object T) q r.2.2 := by
  unfold TcpSocket.read
  simp only
  split
  · exact .inl rfl
  · refine returns_next ?_
    intro ⟨result, raw⟩
    simp only
    split
    · exact .inl rfl
    · split
      · exact .removed rfl (TcpSocket.removePendingEvents_eq { s with socket := raw } q)
      · exact .inl rfl

theorem server_accept_touches (s : TcpServerSocket) :
    (s.accept q).Returns fun r => TouchedBy (.server s : Object T) q r.2.2 := by
  unfold TcpServerSocket.accept
  simp only
  split
  · exact .inl rfl
  · refine returns_next ?_
    intro ⟨result, raw⟩
    simp only
    split
    · exact .inl rfl
    · split
      · exact .removed rfl (TcpServerSocket.removePendingEvents_eq
          { s with clientAvailable := false, socket := raw } q)
      · exact .inl rfl

theorem timer_stop_touches (t : Timer) :
    (t.stop q).Returns fun r => TouchedBy (.timer t : Object T) q r.2 := by
  cases hactive : t.isActive with
  | false =>
    unfold Timer.stop
    simp only [hactive]
    exact .inl rfl
  | true => exact (returns_bind _ _ _).mp (closing_touches (T := T) (.timerStop t hactive) rfl)

/-- **Methods**, except the callback of a Receiver. -/
theorem method_touches {o : Object T} {m : Epoll.Method T} {p : Io (Object T × EventQueueImpl)}
    (h : o.method ws q m = some p) (hm : m ≠ .announce) :
    p.Returns fun r => TouchedBy o q r.2 := by
  have hsame : (p.Returns fun r => r.2 = q) → p.Returns fun r => TouchedBy o q r.2 :=
    fun hq => hq.mono fun _ hr => .inl hr
  cases o with
  | channel d => exact hsame (unboxed_method_queue rfl h)
  | rawTcp s => exact hsame (unboxed_method_queue rfl h)
  | rawServer s => exact hsame (unboxed_method_queue rfl h)
  | receiver r d => exact hsame (receiverMethod_queue h hm)
  | tcp s =>
    cases m with
    | close =>
      cases h
      exact (returns_bind _ _ _).mpr (tcp_close_touches s)
    | write len =>
      cases h
      exact (returns_bind _ _ _).mpr (tcp_write_touches s len)
    | read len =>
      cases h
      exact (returns_bind _ _ _).mpr (tcp_read_touches s len)
    | _ => cases h
  | server s =>
    cases m with
    | close =>
      cases h
      exact (returns_bind _ _ _).mpr (server_close_touches s)
    | _ => cases h
  | timer t =>
    cases m with
    | setInterval n =>
      cases h
      exact .inl rfl
    | setSingleshot b =>
      cases h
      exact .inl rfl
    | start =>
      cases h
      exact returns_next fun _ => .inl rfl
    | stop =>
      cases h
      exact (returns_bind _ _ _).mpr (timer_stop_touches t)
    | _ => cases h

theorem accept_touches {o : Object T} {p : Io (Option (Object T) × Object T × EventQueueImpl)}
    (h : o.accept q = some p) : p.Returns fun r => TouchedBy o q r.2.2 := by
  cases o with
  | rawServer s =>
    cases h
    exact returns_next fun _ => .inl rfl
  | server s =>
    cases h
    exact (returns_bind _ _ _).mpr (server_accept_touches s)
  | _ => cases h

theorem drop_touches (o : Object T) : (o.drop q).Returns (TouchedBy o q) := by
  cases o with
  | rawTcp s => exact returns_next fun _ => .inl rfl
  | rawServer s => exact returns_next fun _ => .inl rfl
  | channel d => exact returns_next fun _ => .inl rfl
  | tcp s => exact closing_touches (.tcpSocketDrop s) rfl
  | server s => exact closing_touches (.tcpServerSocketDrop s) rfl
  | timer t => exact closing_touches (.timerDrop t) rfl
  | receiver r d => exact closing_touches (.receiverDrop r d) rfl

/-! ### Constructors -/

theorem Makes.touches {o : Option (Object T)} (h : Makes q o q') :
    q' = q ∨ ∃ o', o = some o' ∧ TouchedBy o' q q' := by
  rcases h with rfl | ⟨kind, src, rfl, o', rfl, hwaits⟩
  · exact .inl rfl
  · refine .inr ⟨o', rfl, .pushed ?_ ⟨[kind], rfl⟩⟩
    cases o' with
    | tcp s => exact congrArg some hwaits.1.symm
    | server s => exact congrArg some hwaits.1.symm
    | timer t => exact congrArg some hwaits.1.symm
    | receiver r d => exact congrArg some hwaits.1.symm
    | _ => exact hwaits.elim

/-! ### Callbacks -/

theorem callback_pushes {o : Object T} {mask : UInt32} {p : Io (Object T × EventQueueImpl)}
    (ho : ∀ r d, o ≠ .receiver r d) (h : o.processEpollEvents ws q mask = some p) :
    ∃ src, sourceOf o = some src ∧ p.Returns fun r => PushedOnly src q r.2 := by
  have hone : ∀ {src q'}, PushedOne src q q' → PushedOnly src q q' := by
    rintro src q' (rfl | ⟨k, rfl⟩)
    · exact ⟨[], (q'.pushAll_nil src).symm⟩
    · exact ⟨[k], rfl⟩
  cases o with
  | tcp s =>
    cases h
    exact ⟨_, rfl, (returns_bind _ _ _).mpr ((tcpSocket_pushes s q mask).mono fun _ => hone)⟩
  | server s =>
    cases h
    exact ⟨_, rfl, (returns_bind _ _ _).mpr ((tcpServerSocket_pushes s q mask).mono fun _ => hone)⟩
  | timer t =>
    cases h
    refine ⟨_, rfl, (returns_bind _ _ _).mpr ((timer_pushes t q mask).mono ?_)⟩
    rintro r ⟨n, hn⟩
    exact ⟨_, hn⟩
  | receiver r d => exact absurd rfl (ho r d)
  | _ => cases h

/-! ## The view -/

variable {ptr : Ptr} {s t : TaskState T} {l : TaskLabel T} {tr : List (TaskLabel T)}
  {c : Channel.Client T}

/-- Where the task is, for the client of the Receiver at `ptr`. -/
inductive PhaseSeen (ptr : Ptr) : Phase → Channel.Phase → Prop where
  | outside {phase : Channel.Phase} : phase.outside = true → PhaseSeen ptr .idle phase
  | polling : PhaseSeen ptr .polling .polling
  /-- in the callback of another Receiver -/
  | calling {other : Ptr} : other ≠ ptr → PhaseSeen ptr (.calling other) .polling
  | inCallback : PhaseSeen ptr (.calling ptr) .inCallback
  | checking : PhaseSeen ptr .checking .checking

theorem PhaseSeen.eq_polling {phase : Channel.Phase} (h : PhaseSeen ptr .polling phase) :
    phase = .polling := by
  cases h
  rfl

theorem PhaseSeen.eq_checking {phase : Channel.Phase} (h : PhaseSeen ptr .checking phase) :
    phase = .checking := by
  cases h
  rfl

theorem PhaseSeen.of_calling {other : Ptr} {phase : Channel.Phase}
    (h : PhaseSeen ptr (.calling other) phase) (hne : other ≠ ptr) : phase = .polling := by
  cases h with
  | calling => rfl
  | inCallback => exact absurd rfl hne

theorem PhaseSeen.of_idle {phase : Channel.Phase} (h : PhaseSeen ptr .idle phase) :
    phase.outside = true := by
  cases h with
  | outside hout => exact hout

/-- Client `c` is what there is to be seen of the task. -/
structure Seen (ptr : Ptr) (s : TaskState T) (c : Channel.Client T) : Prop where
  queue : c.channel.events = s.sys.queue
  phase : PhaseSeen ptr s.phase c.phase

/-- The objects that are worked on. -/
def targets : Epoll.Label T → List Ptr
  | .create this _ => [this]
  | .convert i this => [i, this]
  | .method i _ => [i]
  | .accept i new => [i, new]
  | .drop i => [i]
  | _ => []

/-- A step that is not one of the object at `ptr`. -/
def Spares (ptr : Ptr) (s : TaskState T) : TaskLabel T → Prop
  | .loop _ => True
  | .operate l => ptr ∉ targets l
  | .elsewhere _ => True
  | .callback fd _ => s.sys.kernel fd ≠ .held (some ptr)
  | .readEventfd fd _ => s.sys.kernel fd ≠ .held (some ptr)
  | .announce receiver => receiver ≠ ptr

/-- No other source has the EventSourceInfo `info`. -/
def Alone (ptr : Ptr) (info : SourceId) (s : TaskState T) : Prop :=
  ∀ i o, i ≠ ptr → s.sys.objects i = some o → sourceOf o ≠ some info

/-- A step beside the Receiver at `ptr`: not one of its own, and no event of
it is handed out. -/
structure Beside (ptr : Ptr) (info : SourceId) (s : TaskState T) (l : TaskLabel T)
    (t : TaskState T) : Prop where
  spares : Spares ptr s l
  before : Alone ptr info s
  after : Alone ptr info t
  handsOut : ∀ ev, l = .loop (.returns (.ok ev)) → ev.sourceInfo ≠ info

/-- An operation beside the Receiver leaves its events alone. -/
theorem operation_beside {sys : Epoll.System T} {el : Epoll.Label T}
    (hl : Operation el) (hspares : ptr ∉ targets el) (hbefore : Alone ptr info s)
    (hafter : Alone ptr info ⟨sys, .idle⟩) (h : Epoll.Step ws host s.sys el sys) :
    eventsOf info sys.queue = eventsOf info s.sys.queue := by
  have hother : ∀ i ∈ targets el, i ≠ ptr := by
    rintro i hi rfl
    exact hspares hi
  cases h with
  | @create this c src o q k hthis hx =>
    rcases ((creation_makes this src c).exec hx).touches with rfl | ⟨o', rfl, htouch⟩
    · rfl
    · exact htouch.others (hafter this o' (hother this (by simp [targets])) (update_self ..))
  | @convert i this src o o' p q k hi hthis hp hx =>
    rcases ((convert_makes hp).2.exec hx).touches with rfl | ⟨o'', ho'', htouch⟩
    · rfl
    · cases ho''
      exact htouch.others (hafter this o' (hother this (by simp [targets])) (update_self ..))
  | @method i m o o' p q k hi hp hx =>
    have hne := hother i (by simp [targets])
    exact ((method_touches hp hl).exec hx).others (hbefore i o hne hi)
  | @accept i new o o' made p q k hi hnew hp hx =>
    have hne := hother i (by simp [targets])
    exact ((accept_touches hp).exec hx).others (hbefore i o hne hi)
  | @drop i o q k hi hx =>
    have hne := hother i (by simp [targets])
    exact ((drop_touches o).exec hx).others (hbefore i o hne hi)
  | _ => exact hl.elim

/-- The client is not between an event and its answer. -/
def Waiting (c : Channel.Client T) : Prop := c.phase ≠ .answering ∧ c.phase ≠ .closed

/-- What has become of the client: it stands where the task is, with nothing
sent and nothing received. -/
structure Follows (ws : WordSize) (ptr : Ptr) (info : SourceId) (c : Channel.Client T)
    (t : TaskState T) (acts : List (Channel.ServeAct T)) (c' : Channel.Client T) : Prop where
  run : Run (Channel.ServeStep ws info) c acts c'
  seen : Seen ptr t c'
  channel : c'.channel = { c.channel with events := t.sys.queue }
  got : c'.got = c.got
  sent : Channel.sent acts = []
  waiting : Waiting c → Waiting c'

theorem Follows.one {a : Channel.ServeAct T} {phase : Channel.Phase}
    (hstep : Channel.ServeStep ws info c a
      { c with channel := { c.channel with events := t.sys.queue }, phase })
    (hphase : PhaseSeen ptr t.phase phase) (hsent : Channel.sent [a] = [])
    (hwaiting : Waiting c → phase ≠ .answering ∧ phase ≠ .closed) :
    ∃ acts c', Follows ws ptr info c t acts c' :=
  ⟨[a], _, .one hstep, ⟨rfl, hphase⟩, rfl, rfl, hsent, hwaiting⟩

/-- A step of which the client sees nothing. -/
theorem Follows.none (hqueue : c.channel.events = t.sys.queue)
    (hphase : PhaseSeen ptr t.phase c.phase) : ∃ acts c', Follows ws ptr info c t acts c' :=
  ⟨[], c, .nil, ⟨hqueue, hphase⟩, by rw [← hqueue], rfl, rfl, id⟩

/-- The client goes on, and the queue stays as it is. -/
theorem Follows.move {a : Channel.ServeAct T} {phase : Channel.Phase}
    (hqueue : c.channel.events = t.sys.queue)
    (hstep : Channel.ServeStep ws info c a { c with phase })
    (hphase : PhaseSeen ptr t.phase phase) (hsent : Channel.sent [a] = [])
    (hwaiting : phase ≠ .answering ∧ phase ≠ .closed) :
    ∃ acts c', Follows ws ptr info c t acts c' := by
  refine Follows.one ?_ hphase hsent fun _ => hwaiting
  rw [← hqueue]
  exact hstep

/-- A callback of another source is one of the reports that the client's
model allows for. -/
theorem Follows.report {src : SourceId}
    (hpushed : PushedOnly src c.channel.events t.sys.queue) (hne : src ≠ info)
    (hpoll : c.phase = .polling) (hphase : PhaseSeen ptr t.phase .checking) :
    ∃ acts c', Follows ws ptr info c t acts c' := by
  obtain ⟨kinds, hkinds⟩ := hpushed
  have hothers : ∀ p ∈ kinds.map (fun k => (k, src)), p.2 ≠ info := by
    simp [hne]
  refine Follows.one (a := .client (.report (kinds.map fun k => (k, src)))) (.client ?_) hphase rfl
    (by simp)
  simp only [Channel.ClientStep, Channel.Client.step]
  rw [if_pos ⟨hpoll, hothers⟩, EventQueueImpl.pollEvents_own, hkinds]

/-! ### `next_event` -/

/-- An event of another source is handed out. -/
theorem take_seen {ev : Event} {rest : List Event} (hother : ev.sourceInfo ≠ info)
    (hq : c.channel.events.readyEvents = ev :: rest)
    (hphase : c.phase = .idle ∨ c.phase = .checking ∧ ev.isValid = true) :
    Channel.ServeStep ws info c (.client .next)
      { c with
        channel := { c.channel with events := { c.channel.events with readyEvents := rest } }
        phase := .idle } := by
  have htake : c.take info ev rest = _ := Channel.take_other hother
  refine .client ?_
  simp only [Channel.ClientStep, Channel.Client.step, Channel.Client.next]
  rcases hphase with hphase | ⟨hphase, hvalid⟩
  · rw [hphase, hq]
    exact congrArg some htake
  · rw [hphase, hq]
    simp only [hvalid, if_true]
    exact congrArg some htake

/-- A removed event is thrown away, of whichever source. -/
theorem invalid_seen {ev : Event} {rest : List Event}
    (hq : c.channel.events.readyEvents = ev :: rest) (hphase : c.phase = .checking)
    (hinvalid : ev.isValid = false) :
    Channel.ServeStep ws info c (.client .next)
      { c with
        channel := { c.channel with events := { c.channel.events with readyEvents := rest } }
        phase := .polling } := by
  refine .client ?_
  simp only [Channel.ClientStep, Channel.Client.step, Channel.Client.next]
  rw [hphase, hq]
  simp [hinvalid]

/-- The task goes to `epoll_wait`. -/
theorem poll_seen (hq : c.channel.events.readyEvents = [])
    (hphase : c.phase = .idle ∨ c.phase = .checking) :
    Channel.ServeStep ws info c (.client .next) { c with phase := .polling } := by
  refine .client ?_
  simp only [Channel.ClientStep, Channel.Client.step, Channel.Client.next]
  rcases hphase with hphase | hphase
  · rw [hphase, hq]
  · rw [hphase, hq]

theorem loop_seen {ll : LoopLabel} {phase : Phase} {queue : EventQueueImpl}
    (hseen : Seen ptr s c) (hwaiting : Waiting c)
    (hothers : ∀ ev, ll = .returns (.ok ev) → ev.sourceInfo ≠ info)
    (h : LoopStep s.phase s.sys.queue ll phase queue) :
    ∃ acts c', Follows ws ptr info c ⟨{ s.sys with queue }, phase⟩ acts c' := by
  obtain ⟨⟨objects, q, k⟩, sphase⟩ := s
  obtain ⟨hqueue, hphase⟩ := hseen
  simp only at hqueue hphase h
  subst hqueue
  have hidle : sphase = .idle → c.phase = .idle := by
    rintro rfl
    have hout := hphase.of_idle
    cases hp : c.phase with
    | idle => rfl
    | answering => exact absurd hp hwaiting.1
    | closed => exact absurd hp hwaiting.2
    | _ => simp [hp, Channel.Phase.outside] at hout
  cases h with
  | @ready _ first rest hq =>
    exact Follows.one (take_seen (hothers first rfl) hq (.inl (hidle rfl))) (.outside rfl) rfl
      (by simp)
  | mustPoll hq =>
    exact Follows.move rfl (poll_seen hq (.inl (hidle rfl))) .polling rfl (by simp)
  | pollFailed =>
    exact Follows.move rfl (.pollFailed hphase.eq_polling) (.outside rfl) rfl (by simp)
  | pollIdle => exact Follows.move rfl (.pollIdle hphase.eq_polling) .checking rfl (by simp)
  | @found _ first rest hq hvalid =>
    exact Follows.one (take_seen (hothers first rfl) hq (.inr ⟨hphase.eq_checking, hvalid⟩))
      (.outside rfl) rfl (by simp)
  | invalid hq hinvalid =>
    exact Follows.one (invalid_seen hq hphase.eq_checking hinvalid) .polling rfl (by simp)
  | nothing hq =>
    exact Follows.move rfl (poll_seen hq (.inr hphase.eq_checking)) .polling rfl (by simp)

/-! ### The task -/

/-- **One step beside the Receiver.** -/
theorem step_seen (hseen : Seen ptr s c) (hbeside : Beside ptr info s l t)
    (hloop : Waiting c ∨ ∀ ll, l ≠ .loop ll) (h : TaskStep ws host s l t) :
    ∃ acts c', Follows ws ptr info c t acts c' := by
  have hspares := hbeside.spares
  have hqueue := hseen.queue
  have hphase := hseen.phase
  cases h with
  | loop hstep =>
    refine loop_seen hseen (hloop.resolve_right fun hno => hno _ rfl) ?_ hstep
    intro ev hev
    exact hbeside.handsOut ev (congrArg _ hev)
  | @operate el sys hidle hl hstep =>
    rw [hidle] at hphase
    have hout := hphase.of_idle
    refine Follows.one (.others hout ?_) (.outside hout) rfl id
    rw [hqueue]
    exact operation_beside hl hspares hbeside.before hbeside.after hstep
  | @elsewhere el sys hl hstep =>
    exact Follows.none (hqueue.trans (elsewhere_queue hl hstep).symm) hphase
  | @callback fd other mask o o' p queue k hpolling hfd ho hnot hp hx =>
    rw [hpolling] at hphase
    obtain ⟨src, hsrc, hpushes⟩ := callback_pushes hnot hp
    have hne : other ≠ ptr := by
      rintro rfl
      exact hspares hfd
    have hinfo : src ≠ info := by
      rintro rfl
      exact hbeside.before other o hne ho hsrc
    exact Follows.report (hqueue ▸ hpushes.exec hx) hinfo hphase.eq_polling .checking
  | @readEventfd fd other mask r d notified k hpolling hfd ho hx =>
    rw [hpolling] at hphase
    have hpoll := hphase.eq_polling
    have hne : other ≠ ptr := by
      rintro rfl
      exact hspares hfd
    cases notified with
    | true => exact Follows.none hqueue (hpoll ▸ .calling hne)
    | false => exact Follows.move hqueue (.pollIdle hpoll) .checking rfl (by simp)
  | @announce other r r' d d' queue k hcalling ho hx =>
    rw [hcalling] at hphase
    have hpoll := hphase.of_calling hspares
    have hinfo : r.eventSourceInfo ≠ info := by
      intro hinfo
      exact hbeside.before other _ hspares ho (congrArg some hinfo)
    obtain ⟨n, hn⟩ := (receiver_pushes r d s.sys.queue).exec hx
    exact Follows.report ⟨_, hqueue ▸ hn⟩ hinfo hpoll .checking

/-- One thing after the other. -/
theorem Follows.trans {acts acts' : List (Channel.ServeAct T)} {c₁ c₂ : Channel.Client T}
    (h : Follows ws ptr info c s acts c₁) (h' : Follows ws ptr info c₁ t acts' c₂) :
    Follows ws ptr info c t (acts ++ acts') c₂ := by
  refine ⟨h.run.append h'.run, h'.seen, ?_, h'.got.trans h.got, ?_, h'.waiting ∘ h.waiting⟩
  · rw [h'.channel, h.channel]
  · have hsent := h.sent
    have hsent' := h'.sent
    simp only [Channel.sent] at hsent hsent' ⊢
    rw [List.filterMap_append, hsent, hsent', List.append_nil]

/-- The steps of the task that do not concern the Receiver at `ptr`. -/
def BesideStep (ws : WordSize) (host : Endian) (ptr : Ptr) (info : SourceId) (s : TaskState T)
    (l : TaskLabel T) (t : TaskState T) : Prop :=
  TaskStep ws host s l t ∧ Beside ptr info s l t

theorem run_seen (h : Run (BesideStep ws host ptr info) s tr t) (hseen : Seen ptr s c)
    (hloop : Waiting c ∨ ∀ l ∈ tr, ∀ ll, l ≠ .loop ll) :
    ∃ acts c', Follows ws ptr info c t acts c' := by
  induction h with
  | nil => exact Follows.none hseen.queue hseen.phase
  | @snoc tr u v l _ hstep ih =>
    obtain ⟨acts, c₁, hfollows⟩ := ih (hloop.imp_right fun hno l' hl' => hno l' (by simp [hl']))
    have hloop' : Waiting c₁ ∨ ∀ ll, l ≠ .loop ll :=
      hloop.imp hfollows.waiting fun hno => hno l (by simp)
    obtain ⟨acts', c₂, hfollows'⟩ := step_seen hfollows.seen hstep.2 hloop' hstep.1
    exact ⟨_, _, hfollows.trans hfollows'⟩

/-! ## The Receiver's events -/

/-- `next_event` loses none of them. -/
theorem loop_keeps {ll : LoopLabel} {phase phase' : Phase} (hinv : LoopInv phase q)
    (hothers : ∀ ev, ll = .returns (.ok ev) → ev.sourceInfo ≠ info)
    (h : LoopStep phase q ll phase' q') : eventsOf info q' = eventsOf info q := by
  cases h with
  | @ready _ first rest hq => simp [eventsOf, hq, hothers first rfl]
  | mustPoll => rfl
  | pollFailed => rfl
  | pollIdle => rfl
  | @found _ first rest hq => simp [eventsOf, hq, hothers first rfl]
  | @invalid _ first rest hq hinvalid =>
    have hvalid : first.isValid = true := hinv first (by simp [hq])
    simp [hinvalid] at hvalid
  | nothing => rfl

theorem step_keeps (hdry : DryInv s) (hbeside : Beside ptr info s l t)
    (h : TaskStep ws host s l t) : eventsOf info t.sys.queue = eventsOf info s.sys.queue := by
  have hspares := hbeside.spares
  cases h with
  | loop hstep =>
    refine loop_keeps hdry.loop ?_ hstep
    intro ev hev
    exact hbeside.handsOut ev (congrArg _ hev)
  | operate _ hl hstep => exact operation_beside hl hspares hbeside.before hbeside.after hstep
  | elsewhere hl hstep => exact congrArg (eventsOf info) (elsewhere_queue hl hstep)
  | @callback fd other mask o o' p queue k hpolling hfd ho hnot hp hx =>
    obtain ⟨src, hsrc, hpushes⟩ := callback_pushes hnot hp
    have hne : other ≠ ptr := by
      rintro rfl
      exact hspares hfd
    refine Touches.others (.inr (hpushes.exec hx)) ?_
    rintro rfl
    exact hbeside.before other o hne ho hsrc
  | readEventfd => rfl
  | @announce other r r' d d' queue k _ ho hx =>
    obtain ⟨n, hn⟩ := (receiver_pushes r d s.sys.queue).exec hx
    refine Touches.others (.inr ⟨_, hn⟩) ?_
    intro hinfo
    exact hbeside.before other _ hspares ho (congrArg some hinfo)

/-- **A Receiver's surroundings.** Whatever a task does with its other
objects and its event queue, and whatever the system calls answer: the events
of the Receiver stay as they are, and for its client, unless it is between an
event and its answer when `next_event` is called, it is a run of `ServeStep` in
which nothing is sent or received. -/
theorem surroundings {opened : Fd → Bool} {epfd : Fd} {tr₀ : List (TaskLabel T)}
    (h₀ : Run (TaskStep ws host) (TaskState.start opened epfd) tr₀ s)
    (h : Run (BesideStep ws host ptr info) s tr t) :
    eventsOf info t.sys.queue = eventsOf info s.sys.queue ∧
      ∀ c, Seen ptr s c → (Waiting c ∨ ∀ l ∈ tr, ∀ ll, l ≠ .loop ll) →
        ∃ acts c', Follows ws ptr info c t acts c' := by
  have hdry : DryInv s := h₀.invariant (start_dry opened epfd) fun _ _ _ => step_dry
  have hkept : DryInv t ∧ eventsOf info t.sys.queue = eventsOf info s.sys.queue := by
    refine h.invariant (I := fun u => DryInv u ∧ eventsOf info u.sys.queue =
      eventsOf info s.sys.queue) ⟨hdry, rfl⟩ ?_
    rintro u l v ⟨hu, hsame⟩ ⟨hstep, hbeside⟩
    exact ⟨step_dry hu hstep, (step_keeps hu hbeside hstep).trans hsame⟩
  exact ⟨hkept.2, fun c hseen hloop => run_seen h hseen hloop⟩

/-- A task whose only object is a Receiver. -/
theorem only_receiver : ∃ s : TaskState Nat,
    Run (TaskStep .w64 .little) (TaskState.start (fun fd => decide (fd < 4)) 3)
      [.elsewhere (.create 9 .channel), .operate (.convert 9 1)] s ∧
    (∀ i, i ≠ 1 → s.sys.objects i = none) ∧ s.sys.queue = ⟨3, []⟩ ∧ s.sys.kernel 5 = .free ∧
    s.phase = .idle := by
  have hmade (k : Kernel) : (Creation.channel.run .little 9 0 ⟨3, []⟩).Exec Kernel.allows k
      (.returned (some (.channel (Channel.createBlocking Nat)), ⟨3, []⟩)) k := ⟨rfl, rfl⟩
  have hchannel : TaskStep .w64 .little (TaskState.start (fun fd => decide (fd < 4)) 3)
      (.elsewhere (.create 9 .channel)) _ := .elsewhere trivial (.create rfl (hmade _))
  have hattached : (do
      let (r, d, q) ← Receiver.fromBlockingReceiver 1 5 (Channel.createBlocking Nat) ⟨3, []⟩
      return (Object.receiver r d, q) : Io (Object Nat × EventQueueImpl)).Exec Kernel.allows
      (System.start (fun fd => decide (fd < 4)) ⟨3, []⟩ : System Nat).kernel
      (.returned (.receiver ⟨1, 5, 0⟩ ⟨[], true, 1, false, 4⟩, ⟨3, []⟩)) _ :=
    ⟨(), _, rfl, (4 : Int), _, .inr ⟨by decide, rfl, rfl⟩, (0 : Int), _,
      .inr ⟨rfl, by simp, rfl⟩, (), _, rfl, rfl, rfl⟩
  have hconvert : Object.convert 1 5 ⟨3, []⟩ (.channel (Channel.createBlocking Nat)) = _ := rfl
  have hrun : Run (TaskStep .w64 .little) _ [_, .operate (.convert 9 1)] _ :=
    (Run.nil.snoc hchannel).snoc
      (.operate rfl trivial (.convert rfl rfl hconvert hattached))
  refine ⟨_, hrun, ?_, rfl, rfl, rfl⟩
  intro i hi
  by_cases hnine : i = 9
  · simp [hnine]
  · simp [hi, TaskState.start, System.start]

/-- Next to it a timer is made, and the task goes to `epoll_wait`. -/
theorem surroundings_timer : ∃ s t : TaskState Nat, ∃ c : Channel.Client Nat,
    Run (BesideStep .w64 .little 1 5) s [.operate (.create 2 .timer), .loop .goesOn] t ∧
    eventsOf 5 t.sys.queue = eventsOf 5 s.sys.queue ∧
    ∃ acts c', Follows .w64 1 5 c t acts c' := by
  obtain ⟨⟨⟨objects, queue, k⟩, phase⟩, hrun, hnone, rfl, hfree, rfl⟩ := only_receiver
  simp only at hnone hfree
  have hx : (Creation.timer.run .little 2 6 ⟨3, []⟩).Exec Kernel.allows k
      (.returned (some (.timer ⟨2, 5, false, 0, false, false, 6⟩ : Object Nat), ⟨3, []⟩)) _ :=
    ⟨(5 : Int), _, .inr ⟨by decide, hfree, rfl⟩, rfl, rfl⟩
  have hmake : TaskStep .w64 .little ⟨⟨objects, ⟨3, []⟩, k⟩, .idle⟩
      (.operate (.create 2 .timer)) _ :=
    .operate rfl trivial (.create (hnone 2 (by decide)) hx)
  have hbefore : Alone 1 5 ⟨⟨objects, ⟨3, []⟩, k⟩, .idle⟩ := by
    intro i o hi ho
    simp [hnone i hi] at ho
  have hafter (k phase) : Alone 1 5 ⟨⟨update objects 2
      (some (.timer ⟨2, 5, false, 0, false, false, 6⟩)), ⟨3, []⟩, k⟩, phase⟩ := by
    intro i o hi ho
    by_cases htwo : i = 2
    · subst htwo
      simp only [update_self, Option.some.injEq] at ho
      simp [← ho, sourceOf]
    · simp [htwo, hnone i hi] at ho
  have hbeside : Run (BesideStep .w64 .little 1 5) _ [_, .loop .goesOn] _ :=
    (Run.nil.snoc ⟨hmake, by simp [Spares, targets], hbefore, hafter _ _, by simp⟩).snoc
      ⟨.loop (.mustPoll rfl), trivial, hafter _ _, hafter _ _, by simp⟩
  obtain ⟨hevents, hfollows⟩ := surroundings hrun hbeside
  let c : Channel.Client Nat := .start (Channel.initial Nat ⟨3, []⟩)
  exact ⟨_, _, c, hbeside, hevents, hfollows c ⟨rfl, .outside rfl⟩ (.inl (by simp [Waiting, c]))⟩

end Revbio.EventLoop
