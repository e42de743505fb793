/-
Revbio.EventQueue.GhostTheorems — whose events are waiting.

An event that is queued and not marked comes from a source there is, and it
fits what has become of the source since (`Waits`): a socket has data or a
client to announce while it is open and its end once it is closed, never
both. So a client that is handed such an event finds the source behind it
in the state the event tells of.

A source takes its events with it because everything that ends it marks
them, closing and dropping it alike; callbacks need not, since they find
the queue empty.
-/
import Revbio.EventQueue.DryTheorems
import Revbio.Epoll.DanglingTheorems

namespace Revbio.EventLoop

open CallTree Prog Epoll Transition Function

variable {T : Type} {ws : WordSize} {host : Endian} {q q' : EventQueueImpl}

/-! ## Sources and their events -/

/-- The events that can be waiting of a TcpSocket in `state`. -/
def TcpKinds (state : ConnectionState) : EventKind → Prop
  | .connectedEvent => state = .connected
  | .dataAvailableEvent _ => state = .connected
  | .streamClosedEvent => state = .closed
  | .ioErrorEvent _ => state = .closed
  | _ => False

def ServerKinds (state : ConnectionState) : EventKind → Prop
  | .clientConnectedEvent => state ≠ .closed
  | .ioErrorEvent _ => state = .closed
  | _ => False

/-- `ev` can be an event of `o` that is waiting. -/
def Waits (ev : Event) : Object T → Prop
  | .tcp s => ev.sourceInfo = s.eventSourceInfo ∧ TcpKinds s.socket.connectionState ev.eventType
  | .server s =>
      ev.sourceInfo = s.eventSourceInfo ∧ ServerKinds s.socket.connectionState ev.eventType
  | .timer t => ev.sourceInfo = t.eventSourceInfo ∧ ev.eventType = .timerEvent
  | .receiver r _ => ev.sourceInfo = r.eventSourceInfo ∧
      (ev.eventType = .channelMessageEvent ∨ ev.eventType = .channelClosedEvent)
  | _ => False

/-- Every event in the queue that is not marked is one of a source there
is. -/
def NoGhost (s : Epoll.System T) : Prop :=
  ∀ ev ∈ s.queue.readyEvents, ev.isValid = true → ∃ i o, s.objects i = some o ∧ Waits ev o

/-! ## Operations -/

theorem mem_remove {c : Event → Bool} {ev : Event}
    (h : ev ∈ (q.removePendingEvents c).readyEvents) (hvalid : ev.isValid = true) :
    ev ∈ q.readyEvents ∧ c ev = false := by
  obtain ⟨ev', hev', rfl⟩ := List.mem_map.mp h
  cases hc : c ev' with
  | true => simp [hc] at hvalid
  | false => simpa [hc] using hev'

/-- An operation of object `o` pushes nothing, and an event of `o` that is
not marked afterwards still fits it. -/
def Keeps (q : EventQueueImpl) (o : Object T) (r : Object T × EventQueueImpl) : Prop :=
  ∀ ev ∈ r.2.readyEvents, ev.isValid = true →
    ev ∈ q.readyEvents ∧ (Waits ev o → Waits ev r.1)

theorem Keeps.same {o o' : Object T} (h : ∀ ev, Waits ev o → Waits ev o') :
    Keeps q o (o', q) :=
  fun ev hev _ => ⟨hev, h ev⟩

theorem Keeps.remove {o o' : Object T} {c : Event → Bool}
    (h : ∀ ev, c ev = false → ¬ Waits ev o) : Keeps q o (o', q.removePendingEvents c) := by
  intro ev hev hvalid
  obtain ⟨hq, hc⟩ := mem_remove hev hvalid
  exact ⟨hq, fun hw => absurd hw (h ev hc)⟩

/-- A raw socket after `write` or `read`: untouched, or closed by an error. -/
def IoLeaves (raw : RawTcpSocket) (r : IoResult Nat × RawTcpSocket) : Prop :=
  r.2 = raw ∨
    (raw.connectionState = .connected ∧ r.2.connectionState = .closed ∧ ∃ err, r.1 = .error err)

theorem closeSocket_closed (raw : RawTcpSocket) :
    raw.closeSocket.Returns fun raw' => raw'.connectionState = .closed := by
  unfold RawTcpSocket.closeSocket
  split
  · assumption
  · exact fun _ => rfl

theorem server_closeSocket_closed (s : RawTcpServerSocket) :
    s.closeSocket.Returns fun s' => s'.connectionState = .closed := by
  unfold RawTcpServerSocket.closeSocket
  split
  · assumption
  · exact fun _ => rfl

theorem ioFailed_leaves (raw : RawTcpSocket) (h : raw.connectionState = .connected) :
    raw.ioFailed.Returns (IoLeaves raw) := by
  refine returns_next fun errno => ?_
  show Prog.Returns _ (if _ then _ else _)
  split
  · refine (returns_bind _ _ _).mpr ((closeSocket_closed raw).mono ?_)
    intro raw' hraw'
    exact returns_next fun err => .inr ⟨h, hraw', err, rfl⟩
  · exact returns_next fun _ => .inl rfl

theorem write_leaves (raw : RawTcpSocket) (len : Nat) :
    (raw.write ws len).Returns (IoLeaves raw) := by
  unfold RawTcpSocket.write
  split
  · exact .inl rfl
  case isFalse hconn =>
    split
    · exact .inl rfl
    · refine returns_next fun ret => ?_
      show Prog.Returns _ (if _ then _ else _)
      split
      · exact ioFailed_leaves raw (by simpa using hconn)
      · exact .inl rfl

theorem read_leaves (raw : RawTcpSocket) (len : Nat) :
    (raw.read ws len).Returns (IoLeaves raw) := by
  unfold RawTcpSocket.read
  split
  · exact .inl rfl
  case isFalse hconn =>
    have hconn : raw.connectionState = .connected := by simpa using hconn
    split
    · exact .inl rfl
    · refine returns_next fun ret => ?_
      show Prog.Returns _ (if _ then _ else _)
      split
      · refine (returns_bind _ _ _).mpr ((closeSocket_closed raw).mono ?_)
        intro raw' hraw'
        exact .inr ⟨hconn, hraw', _, rfl⟩
      · split
        · exact ioFailed_leaves raw hconn
        · exact .inl rfl

/-- A socket that has not been closed in between is as it was. -/
theorem IoLeaves.eq {raw : RawTcpSocket} {r : IoResult Nat × RawTcpSocket}
    (h : IoLeaves raw r)
    (hstate : ¬ (raw.connectionState ≠ r.2.connectionState ∧ r.2.connectionState = .closed)) :
    r.2 = raw := by
  rcases h with h | ⟨hconn, hclosed, -⟩
  · exact h
  · exact absurd ⟨by simp [hconn, hclosed], hclosed⟩ hstate

/-- Events of others. -/
theorem removed_tcp {s s' : TcpSocket} {ev : Event} (h : ev.originatesFrom s' = false)
    (hinfo : s'.eventSourceInfo = s.eventSourceInfo) : ¬ Waits ev (.tcp s : Object T) := by
  intro hw
  rw [originatesFrom_eq] at h
  exact of_decide_eq_false h (hw.1.trans hinfo.symm)

theorem removed_server {s s' : TcpServerSocket} {ev : Event} (h : ev.originatesFrom s' = false)
    (hinfo : s'.eventSourceInfo = s.eventSourceInfo) : ¬ Waits ev (.server s : Object T) := by
  intro hw
  rw [originatesFrom_eq] at h
  exact of_decide_eq_false h (hw.1.trans hinfo.symm)

theorem tcp_close_keeps (s : TcpSocket) :
    (s.close q).Returns fun r => Keeps q (.tcp s : Object T) (.tcp r.1, r.2) :=
  returns_next fun _ => .remove fun _ h => removed_tcp h rfl

theorem tcp_write_keeps (s : TcpSocket) (len : Nat) :
    (s.write ws len q).Returns fun r => Keeps q (.tcp s : Object T) (.tcp r.2.1, r.2.2) := by
  refine (returns_bind _ _ _).mpr ((write_leaves s.socket len).mono ?_)
  intro ⟨result, raw⟩ hraw
  show Prog.Returns _ (if _ then _ else _)
  split
  · exact .remove fun _ h => removed_tcp h rfl
  case isFalse hstate =>
    obtain rfl : raw = s.socket := hraw.eq hstate
    exact .same fun _ h => h

theorem tcp_read_keeps (s : TcpSocket) (len : Nat) :
    (s.read ws len q).Returns fun r => Keeps q (.tcp s : Object T) (.tcp r.2.1, r.2.2) := by
  unfold TcpSocket.read
  simp only
  split
  · exact .same fun _ h => h
  · refine (returns_bind _ _ _).mpr ((read_leaves s.socket len).mono ?_)
    intro ⟨result, raw⟩ hraw
    cases result with
    | ok n =>
      rcases hraw with rfl | ⟨-, -, err, herr⟩
      · exact .same fun _ h => h
      · cases herr
    | error err =>
      show Prog.Returns _ (if _ then _ else _)
      split
      · exact .remove fun _ h => removed_tcp h rfl
      case isFalse hstate =>
        obtain rfl : raw = s.socket := hraw.eq hstate
        exact .same fun _ h => h

theorem rawServer_accept_state (s : RawTcpServerSocket) :
    s.accept.Returns fun r => r.2 = s ∨
      (s.connectionState = .connected ∧ r.2.connectionState = .closed ∧
        ∃ err, r.1 = .error err) := by
  unfold RawTcpServerSocket.accept
  split
  · exact .inl rfl
  case isFalse hconn =>
    have hconn : s.connectionState = .connected := by simpa using hconn
    refine returns_next fun ret => ?_
    show Prog.Returns _ (if _ then _ else _)
    split
    · refine returns_next fun errno => ?_
      show Prog.Returns _ (if _ then _ else _)
      split
      · refine (returns_bind _ _ _).mpr ((server_closeSocket_closed s).mono ?_)
        intro s' hs'
        exact returns_next fun err => .inr ⟨hconn, hs', err, rfl⟩
      · exact returns_next fun _ => .inl rfl
    · exact .inl rfl

theorem server_accept_keeps (s : TcpServerSocket) :
    (s.accept q).Returns fun r => Keeps q (.server s : Object T) (.server r.2.1, r.2.2) := by
  unfold TcpServerSocket.accept
  simp only
  split
  · exact .same fun _ h => h
  · refine (returns_bind _ _ _).mpr ((rawServer_accept_state s.socket).mono ?_)
    intro ⟨result, raw⟩ hraw
    cases result with
    | ok c =>
      rcases hraw with rfl | ⟨-, -, err, herr⟩
      · exact .same fun _ h => h
      · cases herr
    | error err =>
      show Prog.Returns _ (if _ then _ else _)
      split
      · exact .remove fun _ h => removed_server h rfl
      case isFalse hstate =>
        rcases hraw with rfl | ⟨hconn, hclosed, -⟩
        · exact .same fun _ h => h
        · have hclosed : raw.connectionState = .closed := hclosed
          exact absurd ⟨by simp [hconn, hclosed], hclosed⟩ hstate

theorem server_close_keeps (s : TcpServerSocket) :
    (s.close q).Returns fun r => Keeps q (.server s : Object T) (.server r.1, r.2) :=
  returns_next fun _ => .remove fun _ h => removed_server h rfl

theorem timer_start_info (t : Timer) :
    (t.start ws q).Returns fun t' => t'.eventSourceInfo = t.eventSourceInfo := by
  unfold Timer.start
  split
  · rfl
  · refine returns_next fun ret => ?_
    show Prog.Returns _ (if _ then _ else _)
    split
    · exact returns_next fun _ => trivial
    · show Prog.Returns _ (if _ then _ else _)
      split
      · exact returns_next fun _ => rfl
      · exact returns_next fun _ => rfl

theorem timer_stop_keeps (t : Timer) :
    (t.stop q).Returns fun r => Keeps q (.timer t : Object T) (.timer r.1, r.2) := by
  unfold Timer.stop
  split
  · exact .same fun _ h => h
  · refine returns_next fun ret => ?_
    show Prog.Returns _ (if _ then _ else _)
    split
    · exact returns_next fun _ => trivial
    · refine returns_next fun _ => .remove ?_
      intro ev h hw
      rw [originatesFrom_eq] at h
      exact of_decide_eq_false h hw.1

/-- The receiver in the same box. -/
theorem receiverMethod_info {r : Receiver} {d : SharedChannelData T} {m : Epoll.Method T}
    {p : Io (Object T × EventQueueImpl)} (h : receiverMethod ws r d q m = some p) :
    p.Returns fun x => ∃ r' d', x.1 = .receiver r' d' ∧
      r'.eventSourceInfo = r.eventSourceInfo := by
  have hturn : ∀ turn : Turn (T × SharedChannelData T), ∃ r' d',
      Epoll.Turn.receiver r d (r.received turn) = .receiver r' d' ∧
        r'.eventSourceInfo = r.eventSourceInfo := by
    intro turn
    cases turn with
    | wait => exact ⟨r, d, rfl, rfl⟩
    | done a => exact ⟨_, _, rfl, rfl⟩
  unfold receiverMethod at h
  split at h
  · cases h
    refine (returns_bind _ _ _).mpr ?_
    unfold Receiver.recv
    split
    · exact returns_next fun turn => hturn turn
    · exact ⟨r, d, rfl, rfl⟩
  · cases h
    refine (returns_bind _ _ _).mpr ?_
    exact returns_next fun turn => hturn turn
  · cases h
    exact fun _ _ => ⟨_, _, rfl, rfl⟩
  · obtain ⟨p', -, rfl⟩ := Option.map_eq_some_iff.mp h
    exact returns_next fun d' => ⟨r, d', rfl, rfl⟩

/-- **Methods** push nothing. -/
theorem method_keeps {o : Object T} {m : Epoll.Method T} {p : Io (Object T × EventQueueImpl)}
    (h : o.method ws q m = some p) (hm : m ≠ .announce) : p.Returns (Keeps q o) := by
  cases o with
  | channel d =>
    refine (unboxed_method_queue rfl h).mono ?_
    rintro ⟨o', q'⟩ rfl
    exact .same fun _ hw => hw.elim
  | rawTcp s =>
    refine (unboxed_method_queue rfl h).mono ?_
    rintro ⟨o', q'⟩ rfl
    exact .same fun _ hw => hw.elim
  | rawServer s =>
    refine (unboxed_method_queue rfl h).mono ?_
    rintro ⟨o', q'⟩ rfl
    exact .same fun _ hw => hw.elim
  | receiver r d =>
    refine ((receiverMethod_info h).and (receiverMethod_queue h hm)).mono ?_
    rintro ⟨o', q'⟩ ⟨⟨r', d', rfl, hinfo⟩, rfl⟩
    exact .same fun ev hw => ⟨hw.1.trans hinfo.symm, hw.2⟩
  | tcp s =>
    cases m with
    | close =>
      cases h
      exact (returns_bind _ _ _).mpr (tcp_close_keeps s)
    | write len =>
      cases h
      exact (returns_bind _ _ _).mpr (tcp_write_keeps s len)
    | read len =>
      cases h
      exact (returns_bind _ _ _).mpr (tcp_read_keeps s len)
    | _ => cases h
  | server s =>
    cases m with
    | close =>
      cases h
      exact (returns_bind _ _ _).mpr (server_close_keeps s)
    | _ => cases h
  | timer t =>
    cases m with
    | setInterval n =>
      cases h
      exact .same fun _ hw => hw
    | setSingleshot b =>
      cases h
      exact .same fun _ hw => hw
    | start =>
      cases h
      refine (returns_bind _ _ _).mpr ((timer_start_info t).mono ?_)
      intro t' ht'
      exact .same fun ev hw => ⟨hw.1.trans ht'.symm, hw.2⟩
    | stop =>
      cases h
      exact (returns_bind _ _ _).mpr (timer_stop_keeps t)
    | _ => cases h

theorem accept_keeps {o : Object T} {p : Io (Option (Object T) × Object T × EventQueueImpl)}
    (h : o.accept q = some p) : p.Returns fun r => Keeps q o r.2 := by
  cases o with
  | rawServer s =>
    cases h
    exact returns_next fun _ => .same fun _ hw => hw.elim
  | server s =>
    cases h
    exact (returns_bind _ _ _).mpr (server_accept_keeps s)
  | _ => cases h

/-- The end of an object: none of its events is left unmarked. -/
def Takes (q : EventQueueImpl) (o : Object T) (q' : EventQueueImpl) : Prop :=
  ∀ ev ∈ q'.readyEvents, ev.isValid = true → ev ∈ q.readyEvents ∧ ¬ Waits ev o

theorem closing_takes (c : Closing T) {o : Object T}
    (h : ∀ ev, Waits ev o → ev.sourceInfo = c.source) : (c.queueAfter q).Returns (Takes q o) := by
  refine (c.removes q).mono ?_
  rintro q' rfl ev hev hvalid
  obtain ⟨hq, hc⟩ := mem_remove hev hvalid
  refine ⟨hq, ?_⟩
  intro hw
  exact of_decide_eq_false hc (h ev hw)

theorem drop_takes (o : Object T) : (o.drop q).Returns (Takes q o) := by
  have hnone : ∀ {o : Object T}, (∀ ev, ¬ Waits ev o) → Takes q o q :=
    fun ho ev hev _ => ⟨hev, ho ev⟩
  cases o with
  | rawTcp s => exact returns_next fun _ => hnone fun _ h => h
  | rawServer s => exact returns_next fun _ => hnone fun _ h => h
  | channel d => exact returns_next fun _ => hnone fun _ h => h
  | tcp s => exact closing_takes (.tcpSocketDrop s) fun _ h => h.1
  | server s => exact closing_takes (.tcpServerSocketDrop s) fun _ h => h.1
  | timer t => exact closing_takes (.timerDrop t) fun _ h => h.1
  | receiver r d => exact closing_takes (.receiverDrop r d) fun _ h => h.1

/-! ### Constructors -/

/-- A new source pushes at most one event, and that is its own. -/
def Makes (q : EventQueueImpl) (o : Option (Object T)) (q' : EventQueueImpl) : Prop :=
  q' = q ∨ ∃ k src, q' = q.pushBackEvent (Event.new k src) ∧
    ∃ o', o = some o' ∧ Waits (Event.new k src) o'

theorem fromRawTcpSocket_keeps (this : Ptr) (info : SourceId) (raw : RawTcpSocket) :
    (TcpSocket.fromRawTcpSocket this info raw q).Returns fun s =>
      s.eventSourceInfo = info ∧ s.socket = raw := by
  unfold TcpSocket.fromRawTcpSocket
  show Prog.Returns _ (if _ then _ else _)
  split
  · exact returns_next fun _ => ⟨rfl, rfl⟩
  · exact ⟨rfl, rfl⟩

theorem setBlocking_state (raw : RawTcpSocket) (b : Bool) :
    (raw.setBlocking b).Returns fun raw' => raw'.connectionState = raw.connectionState :=
  (setBlocking_leaves raw b).returns.mono fun _ h => h.2

theorem tcp_connect_makes (this : Ptr) (info : SourceId) (addr : SocketAddr) :
    (TcpSocket.connect host this info addr q).Returns fun r =>
      Makes q (created .tcp r.1 : Option (Object T)) r.2 := by
  refine returns_next ?_
  rintro (err | fd)
  · exact .inl rfl
  · refine returns_next fun r => ?_
    show Prog.Returns _ (if _ then _ else _)
    split
    · refine returns_next fun errno => ?_
      split
      · exact returns_next fun _ => returns_next fun _ => returns_next fun _ => .inl rfl
      · exact returns_next fun _ => .inl rfl
    · refine (returns_bind _ _ _).mpr ((setBlocking_state _ true).mono ?_)
      intro raw hraw
      refine (returns_bind _ _ _).mpr ((fromRawTcpSocket_keeps this info raw).mono ?_)
      rintro s ⟨hinfo, rfl⟩
      refine .inr ⟨_, _, rfl, _, rfl, rfl, ?_⟩
      exact hraw

theorem creation_makes (this : Ptr) (info : SourceId) (c : Creation) :
    (c.run host this info q).Returns fun r : Option (Object T) × EventQueueImpl =>
      Makes q r.1 r.2 := by
  cases c with
  | tcpSocket addr => exact (returns_bind _ _ _).mpr (tcp_connect_makes this info addr)
  | channel => exact .inl rfl
  | _ => exact returns_next fun _ => .inl rfl

theorem fromBlockingReceiver_makes (this : Ptr) (info : SourceId) (d : SharedChannelData T) :
    (Receiver.fromBlockingReceiver this info d q).Returns fun r =>
      Makes q (some (.receiver r.1 r.2.1)) r.2.2 := by
  refine returns_next fun _ => ?_
  split
  · refine returns_next fun fd => ?_
    show Prog.Returns _ (if _ then _ else _)
    split
    · exact returns_next fun _ => returns_next fun _ => trivial
    · refine returns_next fun _ => ?_
      split
      · refine returns_next fun ret => ?_
        show Prog.Returns _ (if _ then _ else _)
        split
        · exact returns_next fun _ => returns_next fun _ => trivial
        · exact returns_next fun _ => .inl rfl
      · exact returns_next fun _ => .inl rfl
  · exact returns_next fun _ => .inr ⟨_, _, rfl, _, rfl, rfl, .inr rfl⟩

theorem convert_makes {o : Object T} {this : Ptr} {info : SourceId}
    {p : Io (Object T × EventQueueImpl)} (h : o.convert this info q = some p) :
    (∀ ev, ¬ Waits ev o) ∧ p.Returns fun r => Makes q (some r.1) r.2 := by
  cases o with
  | rawTcp s =>
    cases h
    exact ⟨fun _ h => h, returns_next fun _ => .inl rfl⟩
  | rawServer s =>
    cases h
    exact ⟨fun _ h => h, returns_next fun _ => .inl rfl⟩
  | channel d =>
    cases h
    exact ⟨fun _ h => h, (returns_bind _ _ _).mpr (fromBlockingReceiver_makes this info d)⟩
  | _ => cases h

/-! ### Callbacks -/

/-- What a callback leaves in a queue that was empty. -/
def Shows (r : Object T × EventQueueImpl) : Prop :=
  ∀ ev ∈ r.2.readyEvents, Waits ev r.1

theorem shows_nothing (hq : q.readyEvents = []) (o : Object T) : Shows (o, q) := by
  intro ev hev
  simp [hq] at hev

theorem shows_one (hq : q.readyEvents = []) {k : EventKind} {src : SourceId} {o : Object T}
    (h : Waits (Event.new k src) o) : Shows (o, q.pushBackEvent (Event.new k src)) := by
  intro ev hev
  simp only [EventQueueImpl.pushBackEvent_readyEvents, hq, List.nil_append,
    List.mem_singleton] at hev
  rwa [hev]

theorem readAvailableBytes_socket (s : TcpSocket) :
    (s.readAvailableBytes ws).Returns fun r => r.2.socket = s.socket := by
  refine returns_next ?_
  intro ⟨answer, bytes⟩
  show Prog.Returns _ (if _ then _ else _)
  split
  · exact returns_next fun err => rfl
  · rfl

section Callbacks

variable (hq : q.readyEvents = [])

include hq

theorem onError_shows (s : TcpSocket) :
    (s.onError q).Returns fun r => Shows ((.tcp r.1 : Object T), r.2) := by
  refine returns_next ?_
  intro ⟨answer, errno⟩
  show Prog.Returns _ (if _ then _ else _)
  split
  · refine returns_next fun err => ?_
    refine (returns_bind _ _ _).mpr ((closeSocket_closed s.socket).mono ?_)
    intro raw hraw
    exact shows_one hq ⟨rfl, hraw⟩
  · trivial

theorem onReadable_shows (s : TcpSocket) (mask : UInt32)
    (hconn : s.socket.connectionState = .connected) :
    (s.onReadable ws q mask).Returns fun r => Shows ((.tcp r.1 : Object T), r.2) := by
  unfold TcpSocket.onReadable
  extract_lets tail
  have htail : ∀ s' : TcpSocket, s'.socket = s.socket →
      (tail s').Returns fun r => Shows ((.tcp r.1 : Object T), r.2) := by
    intro s' hs'
    simp only [tail]
    split
    · exact shows_one hq ⟨rfl, (congrArg _ hs').trans hconn⟩
    · refine (returns_bind _ _ _).mpr ((closeSocket_closed s'.socket).mono ?_)
      intro raw hraw
      exact shows_one hq ⟨rfl, hraw⟩
  split
  · rw [returns_bind]
    exact (readAvailableBytes_socket s).mono fun r hr => htail r.2 hr
  · exact htail { s with availableBytes := 0 } rfl

theorem onWritable_shows (s : TcpSocket) :
    (s.onWritable q).Returns fun r => Shows ((.tcp r.1 : Object T), r.2) := by
  unfold TcpSocket.onWritable
  simp -zeta only [sys_eq, call_bind, ret_bind, returns_call]
  intro r
  obtain ⟨answer, out⟩ := r
  extract_lets tail
  have htail : ∀ r, (tail r).Returns fun r => Shows ((.tcp r.1 : Object T), r.2) := by
    intro r
    obtain ⟨success, errno⟩ := r
    simp only [tail]
    split
    · refine returns_next fun err => ?_
      refine (returns_bind _ _ _).mpr ((closeSocket_closed s.socket).mono ?_)
      intro raw hraw
      exact shows_one hq ⟨rfl, hraw⟩
    · exact returns_next fun raw => returns_next fun _ => shows_one hq ⟨rfl, rfl⟩
  split
  · exact htail _
  · exact fun e => htail (false, e)

theorem tcp_callback_shows (s : TcpSocket) (mask : UInt32) :
    (s.processEpollEvents ws q mask).Returns fun r => Shows ((.tcp r.1 : Object T), r.2) := by
  unfold TcpSocket.processEpollEvents
  split
  · exact onError_shows hq s
  · split
    case isTrue hconn =>
      split
      · exact onReadable_shows hq s mask hconn
      · exact shows_nothing hq _
    case isFalse =>
      split
      · exact onWritable_shows hq s
      · exact shows_nothing hq _

theorem server_callback_shows (s : TcpServerSocket) (mask : UInt32)
    (hopen : s.socket.connectionState ≠ .closed) :
    (s.processEpollEvents q mask).Returns fun r => Shows ((.server r.1 : Object T), r.2) := by
  unfold TcpServerSocket.processEpollEvents
  split
  · refine returns_next ?_
    intro ⟨answer, errno⟩
    show Prog.Returns _ (if _ then _ else _)
    split
    · refine returns_next fun err => ?_
      refine (returns_bind _ _ _).mpr ((server_closeSocket_closed s.socket).mono ?_)
      intro raw hraw
      exact shows_one hq ⟨rfl, hraw⟩
    · trivial
  · split
    · exact shows_one hq ⟨rfl, hopen⟩
    · exact shows_nothing hq _

theorem timer_callback_shows (t : Timer) (mask : UInt32) :
    (t.processEpollEvents q mask).Returns fun r => Shows ((.timer r.1 : Object T), r.2) := by
  unfold Timer.processEpollEvents
  split
  · refine returns_next ?_
    intro ⟨answer, expirations⟩
    show Prog.Returns _ (if _ then _ else _)
    split
    · simp only [pure_eq, returns_ret, t.onExpiration_iterate q expirations]
      intro ev hev
      simp only [EventQueueImpl.pushAll_readyEvents, hq, List.nil_append, List.map_replicate,
        List.mem_replicate] at hev
      rw [hev.2]
      exact ⟨rfl, rfl⟩
    · exact shows_nothing hq _
  · exact shows_nothing hq _

/-- **Callbacks** push events of the source they are about. -/
theorem callback_shows {o : Object T} {mask : UInt32} {p : Io (Object T × EventQueueImpl)}
    (ho : ∀ r d, o ≠ .receiver r d) (hopen : o.holding ≠ none)
    (h : o.processEpollEvents ws q mask = some p) : p.Returns Shows := by
  cases o with
  | tcp s =>
    cases h
    exact (returns_bind _ _ _).mpr (tcp_callback_shows hq s mask)
  | server s =>
    cases h
    refine (returns_bind _ _ _).mpr (server_callback_shows hq s mask ?_)
    intro hclosed
    exact hopen (by simp [Object.holding, heldBy, hclosed])
  | timer t =>
    cases h
    exact (returns_bind _ _ _).mpr (timer_callback_shows hq t mask)
  | receiver r d => exact absurd rfl (ho r d)
  | _ => cases h

theorem announce_shows (r : Receiver) (d : SharedChannelData T) :
    (r.announce ws d q).Returns fun x => Shows ((.receiver x.1 x.2.1 : Object T), x.2.2) := by
  unfold Receiver.announce
  simp only [sys_eq, call_bind, ret_bind, returns_call, EventQueueImpl.foldl_pushBackEvent,
    pure_eq, returns_ret]
  intro _ _ ev hev
  split at hev
  · simp only [EventQueueImpl.pushBackEvent_readyEvents, EventQueueImpl.pushAll_readyEvents, hq,
      List.nil_append, List.mem_append, List.map_replicate, List.mem_replicate,
      List.mem_singleton] at hev
    rcases hev with ⟨-, rfl⟩ | rfl
    · exact ⟨rfl, .inl rfl⟩
    · exact ⟨rfl, .inr rfl⟩
  · simp only [EventQueueImpl.pushAll_readyEvents, hq, List.nil_append, List.map_replicate,
      List.mem_replicate] at hev
    obtain ⟨-, rfl⟩ := hev
    exact ⟨rfl, .inl rfl⟩

end Callbacks

/-! ## Steps -/

variable {s t : TaskState T} {objects : Ptr → Option (Object T)} {k k' : Epoll.Kernel}

/-- There is a source that `ev` is waiting of. -/
def Sourced (objects : Ptr → Option (Object T)) (ev : Event) : Prop :=
  ∃ i o, objects i = some o ∧ Waits ev o

theorem Sourced.update {ev : Event} (h : Sourced objects ev) {i : Ptr} {o : Option (Object T)}
    (hi : ∀ o₀, objects i = some o₀ → Waits ev o₀ → ∃ o', o = some o' ∧ Waits ev o') :
    Sourced (update objects i o) ev := by
  obtain ⟨j, oj, hj, hw⟩ := h
  by_cases hji : j = i
  · subst hji
    obtain ⟨o', rfl, hw'⟩ := hi oj hj hw
    exact ⟨j, o', update_self .., hw'⟩
  · exact ⟨j, oj, by rw [update_of_ne hji, hj], hw⟩

/-- Another object, under a name that was free. -/
theorem Sourced.fresh {ev : Event} (h : Sourced objects ev) {i : Ptr} (hi : objects i = none)
    (o : Option (Object T)) : Sourced (Function.update objects i o) ev := by
  refine h.update ?_
  intro o₀ ho
  cases hi.symm.trans ho

theorem Keeps.noGhost (h : NoGhost ⟨objects, q, k⟩) {i : Ptr} {o o' : Object T}
    (hi : objects i = some o) (hkeep : Keeps q o (o', q')) :
    NoGhost ⟨update objects i (some o'), q', k'⟩ := by
  intro ev hev hvalid
  obtain ⟨hq, hw⟩ := hkeep ev hev hvalid
  refine Sourced.update (h ev hq hvalid) ?_
  intro o₀ ho hwaits
  cases hi.symm.trans ho
  exact ⟨o', rfl, hw hwaits⟩

theorem Takes.noGhost (h : NoGhost ⟨objects, q, k⟩) {i : Ptr} {o : Object T}
    (hi : objects i = some o) (htake : Takes q o q') :
    NoGhost ⟨update objects i none, q', k'⟩ := by
  intro ev hev hvalid
  obtain ⟨hq, hw⟩ := htake ev hev hvalid
  refine Sourced.update (h ev hq hvalid) ?_
  intro o₀ ho hwaits
  cases hi.symm.trans ho
  exact absurd hwaits hw

theorem Makes.noGhost (h : NoGhost ⟨objects, q, k⟩) {i : Ptr} {o : Option (Object T)}
    (hi : objects i = none) (hmake : Makes q o q') :
    NoGhost ⟨update objects i o, q', k'⟩ := by
  intro ev hev hvalid
  rcases hmake with rfl | ⟨kind, src, rfl, o', rfl, hw⟩
  · exact Sourced.fresh (h ev hev hvalid) hi o
  · rcases List.mem_append.mp hev with hold | hnew
    · exact Sourced.fresh (h ev hold hvalid) hi _
    · cases List.mem_singleton.mp hnew
      exact ⟨i, o', update_self .., hw⟩

theorem Shows.noGhost {i : Ptr} {o : Object T} (h : Shows (o, q')) :
    NoGhost ⟨update objects i (some o), q', k'⟩ :=
  fun ev hev _ => ⟨i, o, update_self .., h ev hev⟩

/-- **Calls of the task** leave no event behind. -/
theorem operation_noGhost {s s' : Epoll.System T} {l : Epoll.Label T} (h : NoGhost s)
    (hl : Operation l) (hstep : Epoll.Step ws host s l s') : NoGhost s' := by
  cases hstep with
  | create hthis hx => exact ((creation_makes _ _ _).exec hx).noGhost h hthis
  | @convert i this info o o' p q' k hi hthis hp hx =>
    obtain ⟨hwaits, hmakes⟩ := convert_makes hp
    have htaken : NoGhost ⟨update s.objects i none, s.queue, s.kernel⟩ :=
      Takes.noGhost h hi fun ev hev _ => ⟨hev, hwaits ev⟩
    refine (hmakes.exec hx).noGhost htaken ?_
    by_cases hne : this = i
    · rw [hne, update_self]
    · rw [update_of_ne hne, hthis]
  | method hi hp hx => exact ((method_keeps hp hl).exec hx).noGhost h hi
  | @accept i new o o' made p q' k hi hnew hp hx =>
    have hkept : NoGhost ⟨update s.objects i (some o'), q', k⟩ :=
      ((accept_keeps hp).exec hx).noGhost h hi
    intro ev hev hvalid
    refine Sourced.fresh (hkept ev hev hvalid) ?_ made
    have hne : new ≠ i := by
      rintro rfl
      cases hnew.symm.trans hi
    exact (update_of_ne hne ..).trans hnew
  | drop hi hx => exact ((drop_takes _).exec hx).noGhost h hi
  | _ => exact hl.elim

theorem elsewhere_noGhost {s s' : Epoll.System T} {l : Epoll.Label T} (h : NoGhost s)
    (hl : Elsewhere s l) (hstep : Epoll.Step ws host s l s') : NoGhost s' := by
  cases l with
  | create this c => exact operation_noGhost (l := .create this c) h trivial hstep
  | method i m =>
    refine operation_noGhost h ?_ hstep
    rintro rfl
    rcases hl with ⟨o, ho, hunboxed⟩ | hm
    · cases hstep with
      | method hi hp _ =>
        cases ho.symm.trans hi
        cases o with
        | rawTcp _ => cases hp
        | rawServer _ => cases hp
        | channel _ => cases hp
        | _ => cases hunboxed
    · exact hm
  | accept i new => exact operation_noGhost (l := .accept i new) h trivial hstep
  | drop i => exact operation_noGhost (l := .drop i) h trivial hstep
  | foreign fd opens =>
    cases hstep with
    | foreignOpen _ => exact h
    | foreignClose _ _ => exact h
  | _ => exact hl.elim

/-- No registered timer with descriptor `0` is dropped. Its pointer would
stay in the epoll set, and the next box in its place be called for it. -/
def Unregisters (s : TaskState T) : TaskLabel T → Prop
  | .operate l => Epoll.Unregisters s.sys l
  | .elsewhere l => Epoll.Unregisters s.sys l
  | _ => True

structure GhostInv (s : TaskState T) : Prop where
  epoll : Epoll.Inv s.sys
  dry : DryInv s
  sourced : NoGhost s.sys

theorem start_ghost (opened : Fd → Bool) (epfd : Fd) :
    GhostInv (TaskState.start opened epfd : TaskState T) := by
  refine ⟨start_inv opened ⟨epfd, []⟩, start_dry opened epfd, ?_⟩
  intro ev hev
  cases hev

theorem step_epollInv {l : TaskLabel T} (hs : Epoll.Inv s.sys) (hG : Unregisters s l)
    (h : TaskStep ws host s l t) : Epoll.Inv t.sys := by
  obtain ⟨l', hstep, hdrop⟩ := h.epoll
  refine step_inv hs ?_ hstep
  cases l' with
  | drop i =>
    rcases hdrop i rfl with rfl | rfl
    · exact hG
    · exact hG
  | _ => trivial

/-- What is called back is open. -/
theorem Inv.open (h : Epoll.Inv s.sys) {fd : Fd} {ptr : Ptr} {o : Object T}
    (hfd : s.sys.kernel fd = .held (some ptr)) (ho : s.sys.objects ptr = some o) :
    o.holding ≠ none := by
  have hheld := h.owned.watched hfd
  rw [holdings_of_some ho] at hheld
  simp [hheld]

theorem step_ghost {l : TaskLabel T} (hs : GhostInv s) (hG : Unregisters s l)
    (h : TaskStep ws host s l t) : GhostInv t := by
  refine ⟨step_epollInv hs.epoll hG h, step_dry hs.dry h, ?_⟩
  cases h with
  | loop hloop =>
    intro ev hev
    exact hs.sourced ev (hloop.suffix.subset hev)
  | operate _ hop hstep => exact operation_noGhost hs.sourced hop hstep
  | elsewhere helse hstep => exact elsewhere_noGhost hs.sourced helse hstep
  | callback hphase hfd ho hnot hp hx =>
    have hshows := callback_shows (hs.dry.polling hphase) hnot (Inv.open hs.epoll hfd ho) hp
    exact (hshows.exec hx).noGhost
  | readEventfd _ _ _ _ => exact hs.sourced
  | announce hphase _ hx =>
    exact ((announce_shows (hs.dry.calling hphase) _ _).exec hx).noGhost

/-- **No ghosts**: in every run that drops no registered timer with
descriptor `0`, what is queued and not marked comes from a source there is,
and so does what `next_event` then returns. -/
theorem no_ghosts {opened : Fd → Bool} {epfd : Fd} {tr : List (TaskLabel T)}
    (h : GuardedRun (TaskStep ws host) Unregisters (TaskState.start opened epfd) tr s) :
    NoGhost s.sys ∧
      ∀ ev t, TaskStep ws host s (.loop (.returns (.ok ev))) t → ev.isValid = true →
        Sourced t.sys.objects ev := by
  have hs : GhostInv s := h.invariant (start_ghost opened epfd) fun _ _ _ => step_ghost
  refine ⟨hs.sourced, ?_⟩
  intro ev t hstep hvalid
  obtain ⟨⟨objects, q, k⟩, phase⟩ := s
  cases hstep with
  | loop hloop =>
    have hfirst : ev ∈ q.readyEvents := by
      cases hloop with
      | ready hq => exact (show q.readyEvents = _ from hq) ▸ List.mem_cons_self
      | found hq _ => exact (show q.readyEvents = _ from hq) ▸ List.mem_cons_self
    exact hs.sourced ev hfirst hvalid

/-- A client that has connected at once. -/
theorem no_ghosts_connected : ∃ s : TaskState Unit,
    GuardedRun (TaskStep .w64 .little) Unregisters
      (TaskState.start (fun fd => decide (fd < 4)) 3)
      [.operate (.create 1 (.tcpSocket ⟨.ipv4Addr 127 0 0 1, 80⟩))] s ∧
    NoGhost s.sys ∧ (Event.new .connectedEvent 7) ∈ s.sys.queue.readyEvents := by
  have hx : ((Creation.tcpSocket ⟨.ipv4Addr 127 0 0 1, 80⟩).run .little 1 7 ⟨3, []⟩).Exec
      Kernel.allows (System.start (fun fd => decide (fd < 4)) ⟨3, []⟩ : System Unit).kernel
      (.returned (some (.tcp ⟨1, ⟨5, true, .connected⟩, 7, 0⟩ : Object Unit),
        ⟨3, [Event.new .connectedEvent 7]⟩)) _ :=
    ⟨(5 : Int), _, .inr ⟨by decide, rfl, rfl⟩, (0 : Int), _, rfl, (0x802 : BitVec 32), _, rfl,
      (0 : Int), _, rfl, (0 : Int), _, .inr ⟨rfl, by simp, rfl⟩, rfl, rfl⟩
  have hcreate : TaskStep .w64 .little (TaskState.start (fun fd => decide (fd < 4)) 3)
      (.operate (.create 1 (.tcpSocket ⟨.ipv4Addr 127 0 0 1, 80⟩))) _ :=
    .operate rfl trivial (.create rfl hx)
  have hrun : GuardedRun (TaskStep .w64 .little) Unregisters _ _ _ :=
    .snoc .nil (by trivial) hcreate
  exact ⟨_, hrun, (no_ghosts hrun).1, List.mem_cons_self⟩

end Revbio.EventLoop
