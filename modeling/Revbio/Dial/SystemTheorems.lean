/-
Revbio.Dial.SystemTheorems — what a task is told by its sockets, whatever
its script.

For each socket in turn: what the task has been told and what is still in
the queue is what the socket has pushed (`Told`). So the event protocol
holds of what the task is told: one event that ends the connection at most,
and nothing after it. A socket that a `read` or a `write` has closed never
tells of its end (`ClosedAs`).
-/
import Mathlib.Data.Fintype.EquivFin
import Revbio.Dial.System
import Revbio.Stream.ProtocolTheorems

namespace Revbio.Dial

open CallTree Prog EventLoop Revbio.Stream Transition

variable {V : Type} {ws : WordSize} {host : Endian}

/-! ## The event protocol, read from the end -/

/-- The event of the end is the last one. -/
theorem terminal_last {told rest : List EventKind} {k : EventKind} (hk : Terminal k)
    (h : Allowed .connect (told ++ k :: rest)) : rest = [] := by
  have hne : k ≠ .connectedEvent ∧ ¬ IsData k := by
    rcases hk with rfl | ⟨err, rfl⟩
    · exact ⟨nofun, by simp [IsData]⟩
    · exact ⟨nofun, by simp [IsData]⟩
  rcases h with h | ⟨err, h⟩ | ⟨stream, h, data, last, hstream, hdata, hlast⟩
  · simp at h
  · have hlength := congrArg List.length h
    simp only [List.length_append, List.length_cons, List.length_nil] at hlength
    exact List.length_eq_zero_iff.mp (by omega)
  · cases told with
    | nil => exact absurd (List.head_eq_of_cons_eq h) hne.1
    | cons first told =>
      have htail : told ++ k :: rest = data ++ last := (List.tail_eq_of_cons_eq h).trans hstream
      rcases List.eq_nil_or_concat rest with hrest | ⟨rest', z, rfl⟩
      · exact hrest
      · have hmem : k ∈ data := by
          rcases hlast with rfl | ⟨k', -, rfl⟩
          · rw [List.append_nil] at htail
            rw [← htail]
            simp
          · rw [List.concat_eq_append, ← List.cons_append, ← List.append_assoc] at htail
            rw [← (List.append_inj' htail rfl).1]
            simp
        exact absurd (hdata k hmem) hne.2

/-- The event of the connection is the first one. -/
theorem connected_first {told rest : List EventKind}
    (h : Allowed .connect (told ++ .connectedEvent :: rest)) : told = [] := by
  rcases h with h | ⟨err, h⟩ | ⟨stream, h, data, last, hstream, hdata, hlast⟩
  · simp at h
  · cases told with
    | nil => rfl
    | cons first told => simp at h
  · cases told with
    | nil => rfl
    | cons first told =>
      have htail := (List.tail_eq_of_cons_eq h).trans hstream
      have hmem : EventKind.connectedEvent ∈ data ++ last := by simp [← htail]
      rcases List.mem_append.mp hmem with hmem | hmem
      · obtain ⟨bytes, hbytes⟩ := hdata _ hmem
        cases hbytes
      · rcases hlast with rfl | ⟨k, hk, rfl⟩
        · cases hmem
        · rw [← List.mem_singleton.mp hmem] at hk
          rcases hk with hk | ⟨err, hk⟩
          · cases hk
          · cases hk

theorem data_not_first {told rest : List EventKind} {k : EventKind} (hk : k ≠ .connectedEvent)
    (hne : ¬ Terminal k) (h : Allowed .connect (told ++ k :: rest)) : IsData k ∧ told ≠ [] := by
  rcases h with h | ⟨err, h⟩ | ⟨stream, h, data, last, hstream, hdata, hlast⟩
  · simp at h
  · have hmem : k ∈ [EventKind.ioErrorEvent err] := h ▸ by simp
    exact absurd (.inr ⟨err, List.mem_singleton.mp hmem⟩) hne
  · cases told with
    | nil => exact absurd (List.head_eq_of_cons_eq h) hk
    | cons first told =>
      have htail := (List.tail_eq_of_cons_eq h).trans hstream
      have hmem : k ∈ data ++ last := by simp [← htail]
      refine ⟨?_, by simp⟩
      rcases List.mem_append.mp hmem with hmem | hmem
      · exact hdata k hmem
      · rcases hlast with rfl | ⟨k', hk', rfl⟩
        · cases hmem
        · exact absurd (List.mem_singleton.mp hmem ▸ hk') hne

/-- Only a closed socket has pushed the event of its end. -/
theorem open_pushed {o : Origin} {state : ConnectionState} {pushed : List EventKind}
    (h : History o state pushed) (hopen : state ≠ .closed) : ∀ k ∈ pushed, ¬ Terminal k := by
  have hdata : ∀ k, IsData k → ¬ Terminal k := by
    rintro k ⟨bytes, rfl⟩ (hk | ⟨err, hk⟩)
    · cases hk
    · cases hk
  cases state with
  | created => exact h.elim
  | connecting => simp [h.2]
  | connected =>
    obtain ⟨data, rfl, hall⟩ := h
    intro k hk
    rcases List.mem_append.mp hk with hk | hk
    · cases o with
      | connect => simp [List.mem_singleton.mp hk, Terminal]
      | raw => cases hk
    · exact hdata k (hall k hk)
  | closed => exact absurd rfl hopen

/-! ## What a task is told -/

/-- A socket its callback has closed has pushed an event for that; one that
a call has closed has not. -/
def ClosedAs (s : StreamState) : Prop :=
  match s.closedBy with
  | none => s.sock.socket.connectionState ≠ .closed
  | some .callback => s.sock.socket.connectionState = .closed ∧ ∃ k ∈ s.pushed, Terminal k
  | some .call => s.sock.socket.connectionState = .closed ∧ ∀ k ∈ s.pushed, ¬ Terminal k

/-- The task has been told `taken`. -/
structure Told (taken : List EventKind) (s : StreamState) : Prop where
  inv : Inv .connect s
  told : taken ++ (ownEvents s.sock.eventSourceInfo s.queue).map Event.eventType = s.pushed
  closedAs : ClosedAs s
  noCall : ∀ ptr, s.phase ≠ .calling ptr

/-- What the task is told by a step. -/
def toldBy (sock : TcpSocket) : Label → List EventKind
  | .loop (.returns (.ok ev)) => if ev.originatesFrom sock then [ev.eventType] else []
  | _ => []

variable {s t : StreamState} {taken : List EventKind} {l : Label}

/-- The first event of a queue is taken out. -/
theorem told_first {first : Event} {rest : List Event} {q : EventQueueImpl} (sock : TcpSocket)
    (hq : q.readyEvents = first :: rest) :
    toldBy sock (.loop (.returns (.ok first))) ++
        (ownEvents sock.eventSourceInfo { q with readyEvents := rest }).map Event.eventType =
      (ownEvents sock.eventSourceInfo q).map Event.eventType := by
  by_cases hown : first.sourceInfo = sock.eventSourceInfo
  · simp [toldBy, ownEvents, originatesFrom_eq, EventSource.getEventSourceInfo, hq, hown]
  · simp [toldBy, ownEvents, originatesFrom_eq, EventSource.getEventSourceInfo, hq, hown]

theorem Told.loop (h : Told taken s) {ll : LoopLabel} {phase : Phase} {queue : EventQueueImpl}
    (hstep : LoopStep s.phase s.queue ll phase queue) :
    Told (taken ++ toldBy s.sock (.loop ll)) { s with phase, queue } := by
  have hinv := h.inv.loopStep hstep
  have hloop := h.inv.loop
  have htold := h.told
  cases hphase : s.phase
  all_goals rw [hphase] at hstep hloop
  case idle =>
    cases hstep with
    | @ready _ first rest hq =>
      refine ⟨hinv, ?_, h.closedAs, by simp⟩
      rw [List.append_assoc, told_first s.sock hq]
      exact htold
    | mustPoll => exact ⟨hinv, by simpa [toldBy] using htold, h.closedAs, by simp⟩
  case polling =>
    cases hstep with
    | pollFailed => exact ⟨hinv, by simpa [toldBy] using htold, h.closedAs, by simp⟩
    | pollIdle => exact ⟨hinv, by simpa [toldBy] using htold, h.closedAs, by simp⟩
  case calling => cases hstep
  case checking =>
    cases hstep with
    | @found _ first rest hq =>
      refine ⟨hinv, ?_, h.closedAs, by simp⟩
      rw [List.append_assoc, told_first s.sock hq]
      exact htold
    | @invalid _ first rest hq hinvalid =>
      have hvalid : first.isValid = true := hloop first (by simp [hq])
      simp [hinvalid] at hvalid
    | nothing => exact ⟨hinv, by simpa [toldBy] using htold, h.closedAs, by simp⟩

/-- Marked events stay where they are. -/
theorem told_removed (sock : TcpSocket) (q : EventQueueImpl) :
    (ownEvents sock.eventSourceInfo (sock.removePendingEvents q)).map Event.eventType =
      (ownEvents sock.eventSourceInfo q).map Event.eventType := by
  rw [TcpSocket.removePendingEvents_eq]
  simp only [ownEvents, EventQueueImpl.removePendingEvents, decide_eq_true_eq]
  induction q.readyEvents with
  | nil => rfl
  | cons ev evs ih =>
    by_cases hown : ev.sourceInfo = sock.eventSourceInfo
    · simp [hown, ih]
    · simp [hown, ih]

theorem appended_removed (sock : TcpSocket) (q : EventQueueImpl) :
    appended sock.eventSourceInfo q (sock.removePendingEvents q) = [] := by
  rw [TcpSocket.removePendingEvents_eq]
  simp

/-- As long as the state is closed as before, it has been closed as before. -/
theorem ClosedAs.same (h : ClosedAs s) (hclosedBy : t.closedBy = s.closedBy)
    (hpushed : t.pushed = s.pushed)
    (hstate : t.sock.socket.connectionState = .closed ↔ s.sock.socket.connectionState = .closed) :
    ClosedAs t := by
  unfold ClosedAs at h ⊢
  rw [hclosedBy, hpushed]
  cases hby : s.closedBy with
  | none => simpa [hby, hstate] using h
  | some who =>
    cases who with
    | callback => simpa [hby, hstate] using h
    | call => simpa [hby, hstate] using h

theorem ClosedAs.call (h : ClosedAs s)
    (hhistory : History .connect s.sock.socket.connectionState s.pushed) {sock : TcpSocket}
    {queue : EventQueueImpl} {kernel : Kernel}
    (heffect : MethodEffect s.sock s.queue s.kernel sock queue kernel) :
    ClosedAs (s.goOn .call sock queue kernel .idle) := by
  cases heffect with
  | stays =>
    refine h.same ?_ (by simp [StreamState.goOn]) Iff.rfl
    exact if_neg fun hnow => hnow.1 hnow.2
  | shuts =>
    by_cases hstate : s.sock.socket.connectionState = .closed
    · have hpushed : (s.goOn .call { s.sock with socket := shut s.sock.socket }
          (s.sock.removePendingEvents s.queue) none .idle).pushed = s.pushed := by
        simp [StreamState.goOn, appended_removed]
      refine h.same ?_ hpushed (by simp [StreamState.goOn, hstate])
      exact if_neg fun hnow => hnow.1 hstate
    · have hby : (s.goOn .call { s.sock with socket := shut s.sock.socket }
          (s.sock.removePendingEvents s.queue) none .idle).closedBy = some .call :=
        if_pos ⟨hstate, rfl⟩
      unfold ClosedAs
      rw [hby]
      refine ⟨rfl, ?_⟩
      have hpushed := open_pushed hhistory hstate
      simpa [StreamState.goOn, appended_removed] using hpushed

/-- A callback that closes the socket tells so. -/
theorem closedAs_told {k : EventKind} {sock : TcpSocket} {kernel : Kernel} (hk : Terminal k)
    (hopen : s.sock.socket.connectionState ≠ .closed)
    (hclosed : sock.socket.connectionState = .closed) :
    ClosedAs (s.goOn .callback sock
      (s.queue.pushBackEvent (Event.new k s.sock.eventSourceInfo)) kernel .checking) := by
  have hby : (s.goOn .callback sock (s.queue.pushBackEvent (Event.new k s.sock.eventSourceInfo))
      kernel .checking).closedBy = some .callback := if_pos ⟨hopen, hclosed⟩
  unfold ClosedAs
  rw [hby]
  exact ⟨hclosed, k, by simp [StreamState.goOn], hk⟩

/-- A callback that leaves the socket open. -/
theorem ClosedAs.stays_open (h : ClosedAs s) (hopen : s.sock.socket.connectionState ≠ .closed)
    (hstays : t.sock.socket.connectionState ≠ .closed) (hclosedBy : t.closedBy = s.closedBy) :
    ClosedAs t := by
  unfold ClosedAs at h ⊢
  rw [hclosedBy]
  cases hby : s.closedBy with
  | none => exact hstays
  | some who =>
    rw [hby] at h
    cases who with
    | callback => exact absurd h.1 hopen
    | call => exact absurd h.1 hopen

theorem ClosedAs.callback (h : ClosedAs s) (hopen : s.sock.socket.connectionState ≠ .closed)
    {mask : UInt32} {sock : TcpSocket} {queue : EventQueueImpl} {kernel : Kernel}
    (heffect : CallbackEffect s.sock s.queue s.kernel mask sock queue kernel) :
    ClosedAs (s.goOn .callback sock queue kernel .checking) := by
  cases heffect with
  | nothing => exact h.stays_open hopen hopen (if_neg fun hnow => hopen hnow.2)
  | data => exact h.stays_open hopen hopen (if_neg fun hnow => hopen hnow.2)
  | ended => exact closedAs_told (.inl rfl) hopen rfl
  | error => exact closedAs_told (.inr ⟨_, rfl⟩) hopen rfl
  | connected _ _ hconnected =>
    have hstays : ∀ {state : ConnectionState}, state = .connected → state ≠ .closed := by
      rintro state rfl
      simp
    exact h.stays_open hopen (hstays hconnected) (if_neg fun hnow => hstays hconnected hnow.2)

theorem Told.step (h : Told taken s) (hstep : Step ws s l t) :
    Told (taken ++ toldBy s.sock l) t ∧ t.sock.eventSourceInfo = s.sock.eventSourceInfo := by
  have hinv := step_inv h.inv hstep
  have htold := h.told
  cases hstep with
  | loop hloop => exact ⟨h.loop hloop, rfl⟩
  | @others _ hphase hown =>
    refine ⟨⟨hinv, ?_, h.closedAs, h.noCall⟩, rfl⟩
    simpa [toldBy, hown] using htold
  | @report src kinds hphase hsrc =>
    refine ⟨⟨hinv, ?_, h.closedAs, by simp⟩, rfl⟩
    simpa [toldBy, ownEvents_pushAll hsrc] using htold
  | @call m sock queue kernel hphase hx =>
    have heffect := call_effect h.inv.sound hx
    have hclosed := h.closedAs.call h.inv.history heffect
    cases heffect with
    | stays =>
      refine ⟨⟨hinv, ?_, hclosed, by simp [StreamState.goOn]⟩, rfl⟩
      simpa [toldBy, StreamState.goOn] using htold
    | shuts =>
      refine ⟨⟨hinv, ?_, hclosed, by simp [StreamState.goOn]⟩, rfl⟩
      simpa [toldBy, StreamState.goOn, told_removed, appended_removed] using htold
  | @callback mask sock queue kernel hphase hwatched hx =>
    have hopen := h.inv.sound.watched hwatched
    have heffect := callback_effect h.inv.sound hwatched hx
    have hclosed := h.closedAs.callback hopen heffect
    have hpushed (k : EventKind) {sock : TcpSocket} {kernel : Kernel}
        (hsame : sock.eventSourceInfo = s.sock.eventSourceInfo)
        (hinv : Inv .connect (s.goOn .callback sock
          (s.queue.pushBackEvent (Event.new k s.sock.eventSourceInfo)) kernel .checking))
        (hclosed : ClosedAs (s.goOn .callback sock
          (s.queue.pushBackEvent (Event.new k s.sock.eventSourceInfo)) kernel .checking)) :
        Told taken (s.goOn .callback sock
          (s.queue.pushBackEvent (Event.new k s.sock.eventSourceInfo)) kernel .checking) := by
      refine ⟨hinv, ?_, hclosed, by simp [StreamState.goOn]⟩
      simp [StreamState.goOn, hsame, ← htold, ownEvents]
    have hnone : taken ++ toldBy s.sock (.callback mask) = taken := List.append_nil taken
    rw [hnone]
    cases heffect with
    | nothing =>
      refine ⟨⟨hinv, ?_, hclosed, by simp [StreamState.goOn]⟩, rfl⟩
      simpa [StreamState.goOn] using htold
    | data => exact ⟨hpushed _ rfl hinv hclosed, rfl⟩
    | ended => exact ⟨hpushed _ rfl hinv hclosed, rfl⟩
    | error => exact ⟨hpushed _ rfl hinv hclosed, rfl⟩
    | connected _ _ _ hinfo => exact ⟨hpushed _ hinfo hinv hclosed, hinfo⟩

theorem told_start (h : Start ws host .connect s) : Told [] s := by
  have hinv := start_inv h
  cases h with
  | @connect this info addr q queue sock kernel hown hx =>
    have heffect := (tcp_connect_fits this info addr q).exec hx _ rfl
    cases heffect with
    | inProgress _ hinfo hstate =>
      refine ⟨hinv, ?_, ?_, by simp⟩
      · simp [hinfo, hown]
      · simp [ClosedAs, hstate]
    | atOnce _ hinfo hstate =>
      refine ⟨hinv, ?_, ?_, by simp⟩
      · have hnone : ∀ ev ∈ q.readyEvents, ev.sourceInfo ≠ info := by
          simpa [ownEvents] using hown
        simpa [hinfo, ownEvents, appended] using hnone
      · simp [ClosedAs, hstate]

/-! ## The task -/

variable {p : Script V} {sources : List SourceId} {d d' : Dialer V} {dl : DialLabel}

/-- What holds of the socket a task has, whatever its script. -/
structure DialInv (sources : List SourceId) (d : Dialer V) : Prop where
  told : Told d.taken d.stream
  others : d.stream.sock.eventSourceInfo ∉ sources
  idle : d.place ≠ .next → d.stream.phase = .idle

theorem dial_start (h : d.Starts ws host sources) : DialInv sources d := by
  have htold := told_start h.stream
  refine ⟨?_, h.others, fun hplace => absurd h.place hplace⟩
  rw [h.taken]
  exact htold

theorem read_call {nrBytes : Nat} {result : IoResult Nat} {sock : TcpSocket}
    {queue : EventQueueImpl} {kernel : Kernel} (hphase : s.phase = .idle)
    (hx : (s.sock.read ws nrBytes s.queue).Exec Kernel.allows s.kernel
      (.returned (result, sock, queue)) kernel) :
    Step ws s (.call (.read nrBytes)) (s.goOn .call sock queue kernel .idle) :=
  .call hphase ((exec_bind _ _ _ _ _).mpr ⟨_, _, hx, rfl, rfl⟩)

theorem write_call {len : Nat} {result : IoResult Nat} {sock : TcpSocket}
    {queue : EventQueueImpl} {kernel : Kernel} (hphase : s.phase = .idle)
    (hx : (s.sock.write ws len s.queue).Exec Kernel.allows s.kernel
      (.returned (result, sock, queue)) kernel) :
    Step ws s (.call (.write len)) (s.goOn .call sock queue kernel .idle) :=
  .call hphase ((exec_bind _ _ _ _ _).mpr ⟨_, _, hx, rfl, rfl⟩)

theorem call_idle {m : Method} (h : Step ws s (.call m) t) : t.phase = .idle := by
  cases h
  rfl

theorem connect_info {this : Ptr} {info : SourceId} {addr : SocketAddr} {q queue : EventQueueImpl}
    {sock : TcpSocket} {kernel : Kernel}
    (hx : (TcpSocket.connect host this info addr q).Exec Kernel.allows none
      (.returned (.ok sock, queue)) kernel) : sock.eventSourceInfo = info := by
  have heffect := (tcp_connect_fits this info addr q).exec hx _ rfl
  cases heffect with
  | inProgress _ hinfo => exact hinfo
  | atOnce _ hinfo => exact hinfo

theorem returns_idle {ll : IoResult Event} {phase phase' : Phase} {q q' : EventQueueImpl}
    (h : LoopStep phase q (.returns ll) phase' q') : phase' = .idle := by
  cases h <;> rfl

/-- Removing the events of one source leaves those of another alone. -/
theorem ownEvents_removed {src src' : SourceId} (hne : src' ≠ src) (q : EventQueueImpl) :
    ownEvents src (q.removePendingEvents fun ev => decide (ev.sourceInfo = src')) =
      ownEvents src q := by
  simp only [ownEvents, EventQueueImpl.removePendingEvents, decide_eq_true_eq]
  induction q.readyEvents with
  | nil => rfl
  | cons ev evs ih =>
    by_cases hsrc : ev.sourceInfo = src'
    · simp [hsrc, hne, ih]
    · simp [List.filter_cons, hsrc, ih]

/-- The old socket is dropped next to the new one. -/
theorem drop_others {old : TcpSocket} {queue : EventQueueImpl} {k k' : Kernel}
    (hphase : s.phase = .idle) (hne : s.sock.eventSourceInfo ≠ old.eventSourceInfo)
    (hx : (old.drop s.queue).Exec Kernel.allows k (.returned queue) k') :
    Step ws s .others { s with queue } := by
  have hqueue := ((Closing.tcpSocketDrop (T := Unit) old).removes s.queue).exec hx
  refine .others hphase ?_
  rw [hqueue]
  exact ownEvents_removed hne.symm s.queue

theorem DialInv.step (h : DialInv sources d) (hstep : DialStep ws host p sources d dl d') :
    DialInv sources d' := by
  have htold := h.told
  have hgoes : ∀ {l : Label} {stream : StreamState} {place : Place} {vars : V},
      Step ws d.stream l stream → toldBy d.stream.sock l = [] →
      (place ≠ .next → stream.phase = .idle) →
      DialInv sources { d with stream, place, vars } := by
    intro l stream place vars hl hnone hidle
    obtain ⟨hnext, hinfo⟩ := htold.step hl
    rw [hnone, List.append_nil] at hnext
    exact ⟨hnext, hinfo ▸ h.others, hidle⟩
  cases hstep with
  | @loop ll stream hplace hloop =>
    cases hloop with
    | @loop _ phase queue hstep =>
      cases ll with
      | goesOn => exact hgoes (.loop hstep) rfl fun hne => absurd hplace hne
      | returns result =>
        cases result with
        | error err => exact hgoes (.loop hstep) rfl fun _ => returns_idle hstep
        | ok ev =>
          have hloop : Step ws d.stream (.loop (.returns (.ok ev))) _ := .loop hstep
          obtain ⟨hnext, hinfo⟩ := htold.step hloop
          refine ⟨?_, hinfo ▸ h.others, fun _ => returns_idle hstep⟩
          by_cases hown : ev.originatesFrom d.stream.sock
          · simpa [Dialer.after, toldBy, hown] using hnext
          · simpa [Dialer.after, toldBy, hown] using hnext
  | report hplace hreport => exact hgoes hreport rfl fun hne => absurd hplace hne
  | callback hplace hcallback => exact hgoes hcallback rfl fun hne => absurd hplace hne
  | read hplace hx =>
    exact hgoes (read_call (h.idle (by simp [hplace])) hx) rfl fun hne => absurd rfl hne
  | write hplace hx =>
    exact hgoes (write_call (h.idle (by simp [hplace])) hx) rfl fun hne => absurd rfl hne
  | @connect this info sock queue queue' kernel kernel' hplace hown hne hother hx hdrop =>
    have hinfo := connect_info hx
    have hstart : Start ws host .connect _ := .connect hown hx
    have hothers : Step ws
        { sock, queue, phase := .idle, kernel
          pushed := appended info d.stream.queue queue, closedBy := none } .others _ :=
      drop_others rfl (hinfo.trans_ne hne) hdrop
    obtain ⟨hnext, -⟩ := (told_start hstart).step hothers
    exact ⟨hnext, hinfo ▸ hother, fun hne => absurd rfl hne⟩
  | connectFailed hplace hx => exact ⟨htold, h.others, fun _ => h.idle (by simp [hplace])⟩
  | leave hplace hothers hclose =>
    obtain ⟨hbetween, hinfo⟩ := htold.step hothers
    obtain ⟨hnext, hinfo'⟩ := hbetween.step hclose
    refine ⟨?_, (hinfo'.trans hinfo) ▸ h.others, fun _ => call_idle hclose⟩
    simpa [toldBy] using hnext

/-- An event of the socket comes where the protocol allows it, and not after
the end. -/
theorem DialInv.tells {ev : Event} {stream : StreamState}
    (h : DialInv sources (d.after p stream (.returns (.ok ev))))
    (hown : ev.originatesFrom d.stream.sock = true) :
    (∃ rest, Allowed .connect (d.taken ++ ev.eventType :: rest)) ∧
      ∀ k ∈ d.taken, ¬ Terminal k := by
  obtain ⟨rest, hallowed⟩ : ∃ rest, Allowed .connect (d.taken ++ ev.eventType :: rest) := by
    have hpushed := h.told.inv.history.allowed
    rw [← h.told.told] at hpushed
    simp only [Dialer.after, hown, if_true, List.append_assoc, List.cons_append,
      List.nil_append] at hpushed
    exact ⟨_, hpushed⟩
  refine ⟨⟨rest, hallowed⟩, ?_⟩
  intro k hk hterminal
  obtain ⟨told, rest', htaken⟩ := List.append_of_mem hk
  rw [htaken, List.append_assoc, List.cons_append] at hallowed
  simpa using terminal_last hterminal hallowed

/-- After the event of its end the socket is closed. -/
theorem DialInv.closed (h : DialInv sources d) {k : EventKind} (hk : k ∈ d.taken)
    (hterminal : Terminal k) : d.stream.sock.socket.connectionState = .closed := by
  by_contra hopen
  refine open_pushed h.told.inv.history hopen k ?_ hterminal
  rw [← h.told.told]
  exact List.mem_append_left _ hk

/-- A socket that a call has closed does not tell of its end. -/
theorem DialInv.silent (h : DialInv sources d) (hcall : d.stream.closedBy = some .call) :
    d.stream.sock.socket.connectionState = .closed ∧ ∀ k ∈ d.taken, ¬ Terminal k := by
  have hclosed := h.told.closedAs
  unfold ClosedAs at hclosed
  rw [hcall] at hclosed
  refine ⟨hclosed.1, fun k hk => hclosed.2 k ?_⟩
  rw [← h.told.told]
  exact List.mem_append_left _ hk

/-- With nothing in the queue, every other socket is open until its end has
been told. -/
theorem DialInv.isOpen (h : DialInv sources d) (hq : d.stream.queue.readyEvents = [])
    (hnone : ∀ k ∈ d.taken, ¬ Terminal k) (hcall : d.stream.closedBy ≠ some .call) :
    d.stream.sock.socket.connectionState ≠ .closed := by
  have hclosed := h.told.closedAs
  have hpushed := h.told.told
  simp only [ownEvents, hq, List.filter_nil, List.map_nil, List.append_nil] at hpushed
  unfold ClosedAs at hclosed
  cases hby : d.stream.closedBy with
  | none =>
    rw [hby] at hclosed
    exact hclosed
  | some who =>
    rw [hby] at hclosed
    cases who with
    | callback =>
      obtain ⟨-, k, hk, hterminal⟩ := hclosed
      exact absurd hterminal (hnone k (hpushed ▸ hk))
    | call => exact absurd hby hcall

/-- A socket that a call has closed stays closed by that call. -/
theorem Told.silent (h : Told taken s) (hcall : s.closedBy = some .call) (hstep : Step ws s l t) :
    t.closedBy = some .call := by
  have hclosed := h.closedAs
  unfold ClosedAs at hclosed
  rw [hcall] at hclosed
  cases hstep with
  | loop => exact hcall
  | others => exact hcall
  | report => exact hcall
  | call _ hx => exact (if_neg fun hnow => hnow.1 hclosed.1).trans hcall
  | callback _ hwatched => exact absurd hclosed.1 (h.inv.sound.watched hwatched)

/-! ## What the system can answer -/

/-- An EventSourceInfo that is not in use. -/
theorem exists_info (q : EventQueueImpl) (used : List SourceId) :
    ∃ info, ownEvents info q = [] ∧ info ∉ used := by
  obtain ⟨info, hinfo⟩ := Infinite.exists_notMem_finset
    (used ++ q.readyEvents.map Event.sourceInfo).toFinset
  simp only [List.mem_toFinset, List.mem_append, List.mem_map, not_or, not_exists] at hinfo
  obtain ⟨hunused, hnone⟩ := hinfo
  refine ⟨info, ?_, hunused⟩
  simp only [ownEvents, List.filter_eq_nil_iff, decide_eq_true_eq]
  intro ev hev hown
  exact hnone ev ⟨hev, hown⟩

/-- Reading and writing need not fail. -/
theorem exists_rawRead (ws : WordSize) (raw : RawTcpSocket) (len : Nat) (k : Kernel) :
    ∃ result, (raw.read ws len).Exec Kernel.allows k (.returned (result, raw)) k := by
  unfold RawTcpSocket.read
  split
  · exact ⟨_, rfl, rfl⟩
  · split
    · exact ⟨_, rfl, rfl⟩
    · exact ⟨_, (1 : Int), k, rfl, rfl, rfl⟩

theorem exists_write (ws : WordSize) (sock : TcpSocket) (len : Nat) (q : EventQueueImpl)
    (k : Kernel) :
    ∃ result, (sock.write ws len q).Exec Kernel.allows k (.returned (result, sock, q)) k := by
  have hraw : ∃ result, (sock.socket.write ws len).Exec Kernel.allows k
      (.returned (result, sock.socket)) k := by
    unfold RawTcpSocket.write
    split
    · exact ⟨_, rfl, rfl⟩
    · split
      · exact ⟨_, rfl, rfl⟩
      · exact ⟨_, (1 : Int), k, rfl, rfl, rfl⟩
  obtain ⟨result, hx⟩ := hraw
  refine ⟨result, ?_⟩
  unfold TcpSocket.write
  rw [exec_bind]
  refine ⟨_, k, hx, ?_⟩
  simp only
  rw [if_neg fun hnow => hnow.1 rfl]
  exact ⟨rfl, rfl⟩

theorem exists_read (ws : WordSize) (sock : TcpSocket) (nrBytes : Nat) (q : EventQueueImpl)
    (k : Kernel) :
    ∃ result n, (sock.read ws nrBytes q).Exec Kernel.allows k
      (.returned (result, { sock with availableBytes := n }, q)) k := by
  unfold TcpSocket.read
  simp only
  split
  · exact ⟨_, _, rfl, rfl⟩
  · obtain ⟨result, hx⟩ := exists_rawRead ws sock.socket nrBytes k
    cases result with
    | ok n => exact ⟨_, _, (exec_bind _ _ _ _ _).mpr ⟨_, k, hx, rfl, rfl⟩⟩
    | error err =>
      refine ⟨.error err, sock.availableBytes, (exec_bind _ _ _ _ _).mpr ⟨_, k, hx, ?_⟩⟩
      simp only
      rw [if_neg fun hnow => hnow.1 rfl]
      exact ⟨rfl, rfl⟩

/-- A connect that is in progress. -/
theorem exists_connect (host : Endian) (this : Ptr) (info : SourceId) (addr : SocketAddr)
    (q : EventQueueImpl) :
    ∃ sock kernel, (TcpSocket.connect host this info addr q).Exec Kernel.allows none
      (.returned (.ok sock, q)) kernel ∧ sock.socket.connectionState = .connecting := by
  have hfd : (0 : Int) ≤ 5 := by decide
  obtain ⟨ip, port⟩ := addr
  cases ip
  all_goals
    refine ⟨⟨this, ⟨5, false, .connecting⟩, info, 0⟩, some ⟨5, 0x802, 0x802, some EPOLLOUT⟩, ?_,
      rfl⟩
    refine ⟨(5 : Int), some ⟨5, 0x802, 0x802, none⟩, .inr ⟨hfd, 0x802, by decide, rfl⟩,
      (-1 : Int), _, rfl, ?_⟩
    exact ⟨EINPROGRESS, _, rfl, (0 : Int), _, .inr ⟨rfl, _, rfl, rfl, rfl, rfl⟩, rfl, rfl⟩

/-- An error on an open socket. -/
theorem exists_error (ws : WordSize) (sock : TcpSocket) (q : EventQueueImpl) (k : Kernel)
    (hopen : sock.socket.connectionState ≠ .closed) :
    ∃ err kernel, (sock.processEpollEvents ws q EPOLLERR).Exec Kernel.allows k
      (.returned ({ sock with socket := shut sock.socket },
        q.pushBackEvent (Event.new (.ioErrorEvent err) sock.eventSourceInfo))) kernel := by
  have hclose : ∃ kernel, sock.socket.closeSocket.Exec Kernel.allows k
      (.returned (shut sock.socket)) kernel := by
    unfold RawTcpSocket.closeSocket
    rw [if_neg hopen]
    exact ⟨_, (0 : Int), _, rfl, rfl, rfl⟩
  obtain ⟨kernel, hx⟩ := hclose
  have herror : (translateError ECONNRESET false).Exec Kernel.allows k
      (.returned ⟨.connectionReset, "connection reset", none⟩) k := ⟨rfl, rfl⟩
  have hrest : (do
      let err ← translateError ECONNRESET false
      let raw ← sock.socket.closeSocket
      return ({ sock with socket := raw },
        q.pushBackEvent (Event.new (.ioErrorEvent err) sock.eventSourceInfo)) :
      Io (TcpSocket × EventQueueImpl)).Exec Kernel.allows k
      (.returned ({ sock with socket := shut sock.socket }, q.pushBackEvent (Event.new
        (.ioErrorEvent ⟨.connectionReset, "connection reset", none⟩) sock.eventSourceInfo)))
      kernel := by
    rw [exec_bind]
    exact ⟨_, k, herror, (exec_bind _ _ _ _ _).mpr ⟨_, kernel, hx, rfl, rfl⟩⟩
  exact ⟨_, kernel, ((0 : Int), ECONNRESET), k, rfl, hrest⟩

theorem exists_drop (sock : TcpSocket) (q : EventQueueImpl) (k : Kernel)
    (hclosed : sock.socket.connectionState = .closed) :
    (sock.drop q).Exec Kernel.allows k (.returned (sock.removePendingEvents q)) k := by
  unfold TcpSocket.drop RawTcpSocket.drop RawTcpSocket.closeSocket
  rw [if_pos hclosed]
  exact ⟨rfl, rfl⟩

theorem exists_close (sock : TcpSocket) (q : EventQueueImpl) (k : Kernel)
    (hclosed : sock.socket.connectionState = .closed) :
    (sock.close q).Exec Kernel.allows k (.returned (sock, sock.removePendingEvents q)) k := by
  unfold TcpSocket.close RawTcpSocket.closeSocket
  rw [if_pos hclosed]
  exact ⟨rfl, rfl⟩

/-! ## What a task can do -/

/-- A queue whose first event is taken. -/
def takenOut (s : StreamState) (rest : List Event) : StreamState :=
  { s with phase := .idle, queue := { s.queue with readyEvents := rest } }

/-- A socket that is told of an error. -/
def broken (s : StreamState) (err : IoError) (kernel : Kernel) : StreamState :=
  s.goOn .callback { s.sock with socket := shut s.sock.socket }
    (s.queue.pushBackEvent (Event.new (.ioErrorEvent err) s.sock.eventSourceInfo)) kernel
    .checking

/-- A socket after a call that leaves it open. -/
def answered (s : StreamState) (availableBytes : Nat) : StreamState :=
  s.goOn .call { s.sock with availableBytes } s.queue s.kernel .idle

@[simp] theorem broken_closedBy {err : IoError} {kernel : Kernel}
    (hopen : s.sock.socket.connectionState ≠ .closed) :
    (broken s err kernel).closedBy = some .callback := if_pos ⟨hopen, rfl⟩

@[simp] theorem answered_closedBy (s : StreamState) (k : Nat) :
    (answered s k).closedBy = s.closedBy := if_neg fun hnow => hnow.1 hnow.2

theorem DialInv.can_take (h : DialInv sources d) (hplace : d.place = .next) {ev : Event}
    {rest : List Event} (hq : d.stream.queue.readyEvents = ev :: rest)
    (hphase : d.stream.phase = .idle ∨ d.stream.phase = .checking) :
    DialStep ws host p sources d (.loop (.returns (.ok ev)))
      (d.after p (takenOut d.stream rest) (.returns (.ok ev))) := by
  have hloop : LoopStep d.stream.phase d.stream.queue (.returns (.ok ev)) .idle
      { d.stream.queue with readyEvents := rest } := by
    rcases hphase with hidle | hchecking
    · rw [hidle]
      exact .ready hq
    · have hvalid := h.told.inv.loop
      rw [hchecking] at hvalid ⊢
      exact .found hq (hvalid ev (by simp [hq]))
  exact .loop hplace (.loop hloop)

theorem can_wait (hplace : d.place = .next) (hq : d.stream.queue.readyEvents = [])
    (hphase : d.stream.phase = .idle ∨ d.stream.phase = .checking) :
    DialStep ws host p sources d (.loop .goesOn)
      { d with stream := { d.stream with phase := .polling } } := by
  have hloop : LoopStep d.stream.phase d.stream.queue .goesOn .polling d.stream.queue := by
    rcases hphase with hidle | hchecking
    · rw [hidle]
      exact .mustPoll hq
    · rw [hchecking]
      exact .nothing hq
  exact .loop hplace (.loop hloop)

theorem DialInv.can_break (h : DialInv sources d) (hplace : d.place = .next)
    (hphase : d.stream.phase = .polling)
    (hopen : d.stream.sock.socket.connectionState ≠ .closed) :
    ∃ err kernel, DialStep ws host p sources d (.callback EPOLLERR)
      { d with stream := broken d.stream err kernel } := by
  obtain ⟨err, kernel, hx⟩ := exists_error ws d.stream.sock d.stream.queue d.stream.kernel hopen
  have hwatched : Watched d.stream.kernel := by
    obtain ⟨desc, hk, hdesc⟩ := agrees_open h.told.inv.sound.agrees hopen
    exact ⟨desc, hk, by simp [hdesc.interest]⟩
  exact ⟨err, kernel, .callback hplace (.callback hphase hwatched hx)⟩

theorem can_read {nrBytes : Nat} (hplace : d.place = .reading nrBytes) :
    ∃ result k, DialStep ws host p sources d (.read result)
      { d with
        stream := answered d.stream k, place := .next, vars := p.afterRead d.vars result } := by
  obtain ⟨result, k, hx⟩ := exists_read ws d.stream.sock nrBytes d.stream.queue d.stream.kernel
  exact ⟨result, k, .read hplace hx⟩

theorem can_write {len : Nat} (hplace : d.place = .writing len) :
    ∃ result k, DialStep ws host p sources d (.write result)
      { d with stream := answered d.stream k, place := .next, vars := p.afterWrite d.vars } := by
  obtain ⟨result, hx⟩ := exists_write ws d.stream.sock len d.stream.queue d.stream.kernel
  exact ⟨result, d.stream.sock.availableBytes, .write hplace hx⟩

/-- The next connection, in progress. -/
theorem can_connect (hplace : d.place = .connecting)
    (hclosed : d.stream.sock.socket.connectionState = .closed) :
    ∃ stream, DialStep ws host p sources d .connect
        { stream, place := .next, vars := p.afterConnect d.vars, taken := []
          connects := d.connects + 1 } ∧
      stream.sock.socket.connectionState = .connecting ∧ stream.phase = .idle ∧
      stream.closedBy = none ∧ stream.pushed = [] ∧
      stream.queue.readyEvents.length = d.stream.queue.readyEvents.length := by
  obtain ⟨info, hnone, hunused⟩ := exists_info d.stream.queue
    (d.stream.sock.eventSourceInfo :: sources)
  simp only [List.mem_cons, not_or] at hunused
  obtain ⟨hne, hother⟩ := hunused
  obtain ⟨sock, kernel, hx, hstate⟩ := exists_connect host 0 info p.socketaddr d.stream.queue
  have hdrop := exists_drop d.stream.sock d.stream.queue d.stream.kernel hclosed
  refine ⟨_, .connect hplace hnone hne hother hx hdrop, hstate, rfl, rfl, by simp, ?_⟩
  simp [TcpSocket.removePendingEvents, EventQueueImpl.removePendingEvents]

/-- With the connection closed before, the task returns. -/
theorem DialInv.can_leave (h : DialInv sources d) (hplace : d.place = .leaving)
    (hclosed : d.stream.sock.socket.connectionState = .closed) :
    ∃ stream, DialStep ws host p sources d .leave { d with stream, place := .ended } ∧
      stream.closedBy = d.stream.closedBy := by
  have hidle := h.idle (by simp [hplace])
  have hothers : Step ws d.stream .others { d.stream with queue := d.stream.queue } :=
    .others hidle rfl
  have hclose := exists_close d.stream.sock d.stream.queue d.stream.kernel hclosed
  exact ⟨_, .leave hplace hothers (.call hidle hclose), if_neg fun hnow => hnow.1 hnow.2⟩

/-! ## Tasks that wait for the end -/

/-- Runs of the task and of the system lead to its `return`. -/
def CanReturn (ws : WordSize) (host : Endian) (p : Script V) (sources : List SourceId)
    (d : Dialer V) : Prop :=
  ∃ tr d', Run (DialStep ws host p sources) d tr d' ∧ d'.place = .ended

/-- The task is on its way to its end. -/
def OnItsWay (d : Dialer V) : Prop :=
  d.place ≠ .failed ∧ d.stream.closedBy ≠ some .call

/-- A step along the way. -/
def Advances (ws : WordSize) (host : Endian) (p : Script V) (sources : List SourceId)
    (rank : Dialer V → Nat) (d : Dialer V) : Prop :=
  ∃ l d', DialStep ws host p sources d l d' ∧ OnItsWay d' ∧ rank d' < rank d

/-- An open socket has to be closed. -/
def toClose (state : ConnectionState) : Nat := if state = .closed then 0 else 12

def toPoll : Phase → Nat
  | .idle => 1
  | .checking => 2
  | _ => 0

theorem toPoll_pos {phase : Phase} (hphase : phase = .idle ∨ phase = .checking) :
    0 < toPoll phase := by
  rcases hphase with rfl | rfl
  · simp [toPoll]
  · simp [toPoll]

/-- The task is done with a connection when it has been told of its end, and
not before. -/
structure Careful (ws : WordSize) (host : Endian) (p : Script V) (sources : List SourceId)
    (I : Dialer V → Prop) : Prop where
  dial : ∀ {d}, I d → DialInv sources d
  step : ∀ {d l d'}, I d → DialStep ws host p sources d l d' → I d'
  told : ∀ {d}, I d → d.place = .connecting ∨ d.place = .leaving ∨ d.place = .ended →
    ∃ k ∈ d.taken, Terminal k

section Careful

variable {I : Dialer V → Prop} {tr : List DialLabel}

theorem Careful.closed (h : Careful ws host p sources I) (hd : I d)
    (hplace : d.place = .connecting ∨ d.place = .leaving ∨ d.place = .ended) :
    d.stream.sock.socket.connectionState = .closed := by
  obtain ⟨k, hk, hterminal⟩ := h.told hd hplace
  exact (h.dial hd).closed hk hterminal

/-- A task that is not told is never done. -/
theorem Careful.unheard (h : Careful ws host p sources I) (hd : I d)
    (hcall : d.stream.closedBy = some .call) :
    ¬ (d.place = .connecting ∨ d.place = .leaving ∨ d.place = .ended) := by
  intro hplace
  obtain ⟨k, hk, hterminal⟩ := h.told hd hplace
  exact ((h.dial hd).silent hcall).2 k hk hterminal

theorem Careful.silent_step (h : Careful ws host p sources I) (hd : I d)
    (hcall : d.stream.closedBy = some .call) (hstep : DialStep ws host p sources d dl d') :
    d'.stream.closedBy = some .call ∧ d'.connects = d.connects := by
  have hidle := (h.dial hd).idle
  have htold := (h.dial hd).told
  have hunheard := h.unheard hd hcall
  cases hstep with
  | @loop ll stream hplace hloop =>
    have hstream := htold.silent hcall hloop
    cases ll with
    | goesOn => exact ⟨hstream, rfl⟩
    | returns result =>
      cases result with
      | ok ev => exact ⟨hstream, rfl⟩
      | error err => exact ⟨hstream, rfl⟩
  | report _ hreport => exact ⟨htold.silent hcall hreport, rfl⟩
  | callback _ hcallback => exact ⟨htold.silent hcall hcallback, rfl⟩
  | read hplace hx => exact ⟨htold.silent hcall (read_call (hidle (by simp [hplace])) hx), rfl⟩
  | write hplace hx => exact ⟨htold.silent hcall (write_call (hidle (by simp [hplace])) hx), rfl⟩
  | connect hplace => exact absurd (.inl hplace) hunheard
  | connectFailed => exact ⟨hcall, rfl⟩
  | leave hplace => exact absurd (.inr (.inl hplace)) hunheard

theorem Careful.silent_run (h : Careful ws host p sources I) (hd : I d)
    (hcall : d.stream.closedBy = some .call) (hrun : Run (DialStep ws host p sources) d tr d') :
    I d' ∧ d'.stream.closedBy = some .call ∧ d'.connects = d.connects := by
  refine hrun.invariant (I := fun d' => I d' ∧ d'.stream.closedBy = some .call ∧
    d'.connects = d.connects) ⟨hd, hcall, rfl⟩ ?_
  rintro u l v ⟨hu, hcall, hconnects⟩ hstep
  obtain ⟨hcall', hconnects'⟩ := h.silent_step hu hcall hstep
  exact ⟨h.step hu hstep, hcall', hconnects'.trans hconnects⟩

theorem failed_run (hfailed : d.place = .failed)
    (hrun : Run (DialStep ws host p sources) d tr d') : d'.place = .failed := by
  refine hrun.invariant (I := fun d => d.place = .failed) hfailed ?_
  intro u l v hu hstep
  cases hstep <;> simp_all

/-- Where the rest of the way is a number that the system can lower, the
task can return in just the states that are on the way. -/
theorem Careful.can_return_iff (h : Careful ws host p sources I) (rank : Dialer V → Nat)
    (hadvances : ∀ {d}, I d → OnItsWay d → d.place ≠ .ended →
      Advances ws host p sources rank d) (hd : I d) :
    CanReturn ws host p sources d ↔ OnItsWay d := by
  constructor
  · rintro ⟨tr, d', hrun, hended⟩
    refine ⟨?_, ?_⟩
    · intro hfailed
      simp [failed_run hfailed hrun] at hended
    · intro hcall
      obtain ⟨hd', hcall', -⟩ := h.silent_run hd hcall hrun
      exact h.unheard hd' hcall' (.inr (.inr hended))
  · intro hway
    have hstep : ∀ d, I d ∧ OnItsWay d → d.place ≠ .ended → ∃ l d', True ∧
        DialStep ws host p sources d l d' ∧ (I d' ∧ OnItsWay d') ∧ rank d' < rank d := by
      rintro d ⟨hd, hway⟩ hended
      obtain ⟨l, d', hstep, hway', hlt⟩ := hadvances hd hway hended
      exact ⟨l, d', trivial, hstep, ⟨h.step hd hstep, hway'⟩, hlt⟩
    obtain ⟨tr, d', hrun, -, -, hended⟩ :=
      exists_run_to (L := fun _ => True) rank hstep d ⟨hd, hway⟩
    exact ⟨tr, d', hrun, hended⟩

end Careful

/-- What a task that waits for the end of each connection does. -/
structure WaitsForTheEnd (ws : WordSize) (host : Endian) (p : Script V)
    (sources : List SourceId) (d : Dialer V) : Prop where
  /-- the old connection is closed before a new one is made -/
  oneByOne : d.place = .connecting → d.stream.sock.socket.connectionState = .closed
  ended : d.place = .ended → d.stream.sock.socket.connectionState = .closed
  /-- it can return, unless it has failed or a `read` or a `write` has closed
  the socket -/
  returns : CanReturn ws host p sources d ↔
    d.place ≠ .failed ∧ d.stream.closedBy ≠ some .call
  /-- then it waits for an event that does not come -/
  silent : d.stream.closedBy = some .call →
    ∀ tr d', Run (DialStep ws host p sources) d tr d' →
      d'.stream.sock.socket.connectionState = .closed ∧ d'.connects = d.connects ∧
        ∀ k ∈ d'.taken, ¬ Terminal k

theorem Careful.waits {I : Dialer V → Prop} (h : Careful ws host p sources I)
    (rank : Dialer V → Nat) (hadvances : ∀ {d}, I d → OnItsWay d → d.place ≠ .ended →
      Advances ws host p sources rank d) (hd : I d) :
    WaitsForTheEnd ws host p sources d := by
  refine ⟨?_, ?_, h.can_return_iff rank hadvances hd, ?_⟩
  · exact fun hplace => h.closed hd (.inl hplace)
  · exact fun hplace => h.closed hd (.inr (.inr hplace))
  · intro hcall tr d' hrun
    obtain ⟨hd', hcall', hconnects⟩ := h.silent_run hd hcall hrun
    obtain ⟨hclosed, hnone⟩ := (h.dial hd').silent hcall'
    exact ⟨hclosed, hconnects, hnone⟩

end Revbio.Dial
