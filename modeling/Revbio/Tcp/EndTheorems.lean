/-
Revbio.Tcp.EndTheorems — the end of a stream and the bytes before it.

A connected socket takes a count of zero for the end of the stream. Without
`EPOLLHUP` the count comes from `FIONREAD`, and the last bytes are announced
before the end is. With `EPOLLHUP` the count is set to zero unseen, and
bytes that have come with the hang-up are lost (`delivered_iff`).
-/
import Revbio.Tcp.ReadTheorems

namespace Revbio.Tcp

open CallTree Prog Transition

variable {ws : WordSize}

/-! ## What the callback owes the client -/

/-- A callback has closed the socket or pushed StreamClosedEvent. -/
def Ends (s t : SocketState) : Prop :=
  t.sock.socket.connectionState = .closed ∨
    ∃ ev ∈ t.queue.readyEvents.drop s.queue.readyEvents.length,
      ev.eventType = .streamClosedEvent

/-- The callback that leads from `s` to `t` ends the stream only when all
has been read, and announces all there is to read. -/
structure Delivers (s : SocketState) (mask : UInt32) (t : SocketState) : Prop where
  ended : Ends s t → s.inbox.unread = 0
  readable : mask &&& EPOLLIN ≠ 0 → 0 < s.inbox.unread →
    t.sock.socket.connectionState = .connected ∧
      t.sock.availableBytes = s.inbox.unread ∧
      t.queue = s.queue.pushBackEvent
        (Event.new (.dataAvailableEvent s.inbox.unread) s.sock.eventSourceInfo)

/-- Unread bytes and the hang-up are reported together. -/
def CutShort (s : SocketState) (mask : UInt32) : Prop :=
  mask &&& EPOLLIN ≠ 0 ∧ mask &&& EPOLLHUP ≠ 0 ∧ 0 < s.inbox.unread

/-- The callbacks of a step that are not about an error. -/
def Judged (s : SocketState) (l : SocketLabel) (t : SocketState) : Prop :=
  match l with
  | .callback mask => mask &&& EPOLLERR = 0 → Delivers s mask t
  | _ => True

def NotCut (s : SocketState) : SocketLabel → Prop
  | .callback mask => mask &&& EPOLLERR = 0 → ¬ CutShort s mask
  | _ => True

/-- A connected socket. -/
structure Opened (s : SocketState) : Prop where
  state : s.sock.socket.connectionState = .connected
  unread : s.inbox.unread < 2 ^ 31

/-! ## The callback -/

/-- The callback of a connected socket, without an error. -/
theorem connected_callback_exec {s s' : TcpSocket} {q q' : EventQueueImpl} {mask : UInt32}
    {i i' : Inbox} (hi : i.unread < 2 ^ 31) (hconn : s.socket.connectionState = .connected)
    (hmask : mask &&& EPOLLERR = 0)
    (h : (s.processEpollEvents ws q mask).Exec Inbox.allows i (.returned (s', q')) i') :
    (mask &&& EPOLLIN = 0 ∧ s' = s ∧ q' = q) ∨
      (mask &&& EPOLLIN ≠ 0 ∧ ReadableEffect s q mask i s' q') := by
  unfold TcpSocket.processEpollEvents at h
  rw [if_neg (not_not.mpr hmask), if_pos hconn] at h
  split at h
  case isTrue hin =>
    have hin' : mask &&& EPOLLIN ≠ 0 := hin.resolve_right (not_not.mpr hmask)
    exact .inr ⟨hin', (wp_sound (onReadable_wp s q mask i hi) h _ rfl).2⟩
  case isFalse hin =>
    obtain ⟨hx, -⟩ := h
    cases hx
    exact .inl ⟨not_not.mp fun hne => hin (.inl hne), rfl, rfl⟩

/-- **One callback**: it does what it owes exactly when no unread bytes and
hang-up are reported together. -/
theorem callback_delivers_iff {s t : SocketState} (hs : Opened s) {mask : UInt32}
    (hmask : mask &&& EPOLLERR = 0) (h : SocketStep ws s (.callback mask) t) :
    Delivers s mask t ↔ ¬ CutShort s mask := by
  cases h with
  | callback _ hx =>
    rcases connected_callback_exec hs.unread hs.state hmask hx with
      ⟨hnone, rfl, rfl⟩ | ⟨hin, heffect⟩
    · refine iff_of_true ⟨?_, fun hin => absurd hnone hin⟩ fun hcut => hcut.1 hnone
      intro hends
      rcases hends with hclosed | ⟨ev, hev, -⟩
      · cases hs.state.symm.trans hclosed
      · simp at hev
    · cases heffect with
      | data hhup hpos =>
        refine iff_of_true ⟨?_, fun _ _ => ⟨hs.state, rfl, rfl⟩⟩ fun hcut => hcut.2.1 hhup
        intro hends
        rcases hends with hclosed | ⟨ev, hev, hkind⟩
        · cases hs.state.symm.trans hclosed
        · simp only [EventQueueImpl.pushBackEvent, List.drop_left, List.mem_singleton] at hev
          subst hev
          cases hkind
      | ended hend hclosed =>
        constructor
        · intro hdelivers hcut
          exact Nat.ne_of_gt hcut.2.2 (hdelivers.ended (.inl hclosed))
        · intro hcut
          have hzero : s.inbox.unread = 0 := by
            by_contra hne
            have hpos : 0 < s.inbox.unread := Nat.pos_of_ne_zero hne
            exact hcut ⟨hin, fun hhup => hne (hend hhup), hpos⟩
          exact ⟨fun _ => hzero, fun _ hpos => absurd hzero (Nat.ne_of_gt hpos)⟩

/-! ## Runs -/

/-- What a run from a connected socket keeps. -/
structure Live (s : SocketState) : Prop where
  state : s.sock.socket.connectionState = .connected ∨
    s.sock.socket.connectionState = .closed
  unread : s.inbox.unread < 2 ^ 31

theorem Opened.live {s : SocketState} (h : Opened s) : Live s := ⟨.inl h.state, h.unread⟩

theorem Live.opened {s : SocketState} (h : Live s)
    (hopen : s.sock.socket.connectionState ≠ .closed) : Opened s :=
  ⟨h.state.resolve_right hopen, h.unread⟩

theorem exec_unread {α : Type} {p : Io α} {i i' : Inbox} {x : Exit α}
    (hx : p.Exec Inbox.allows i x i') (hi : i.unread < 2 ^ 31) : i'.unread < 2 ^ 31 := by
  refine exec_invariant (I := fun i => i.unread < 2 ^ 31) ?_ hx hi
  intro i c r i' hi hc
  unfold Inbox.allows at hc
  split at hc
  · rw [hc.2]
    exact hi
  · split at hc
    · rw [hc]
      exact hi
    · obtain ⟨n, -, -, -, rfl⟩ := hc
      exact Nat.lt_of_le_of_lt (Nat.sub_le _ _) hi
  · rw [hc]
    exact hi

/-- A `read` leaves the socket in its state, or closed. -/
theorem rawRead_returns (s : RawTcpSocket) (len : Nat) :
    (s.read ws len).Returns fun r => r.2.connectionState ≠ .closed → r.2 = s := by
  unfold RawTcpSocket.read
  split
  · exact fun _ => rfl
  · split
    · exact fun _ => rfl
    · simp only [retry_eq, call_bind, ret_bind]
      intro ret
      show Returns _ (if (ret : Int) = 0 then _ else _)
      split
      · rw [returns_bind]
        exact (closeSocket_quiet s).returns.mono fun raw hraw hopen => absurd hraw hopen
      · split
        · exact (ioFailed_quiet s).returns
        · exact fun _ => rfl

theorem read_returns (s : TcpSocket) (len : Nat) (q : EventQueueImpl) :
    (s.read ws len q).Returns fun r =>
      r.2.1.socket.connectionState ≠ .closed → r.2.1.socket = s.socket := by
  unfold TcpSocket.read
  simp only
  split
  · exact fun _ => rfl
  · rw [returns_bind]
    refine (rawRead_returns s.socket len).mono ?_
    intro ⟨result, raw⟩ hraw
    simp only
    split
    · exact hraw
    · split
      · exact hraw
      · exact hraw

/-- An operation that leaves the socket in its state, or closed. -/
theorem Live.after {s t : SocketState} (hs : Live s) (hunread : t.inbox.unread < 2 ^ 31)
    (hsame : t.sock.socket.connectionState ≠ .closed →
      t.sock.socket.connectionState = s.sock.socket.connectionState) : Live t := by
  refine ⟨?_, hunread⟩
  by_cases hclosed : t.sock.socket.connectionState = .closed
  · exact .inr hclosed
  · rw [hsame hclosed]
    exact hs.state

theorem step_live {s t : SocketState} {l : SocketLabel} (hs : Live s)
    (h : SocketStep ws s l t) : Live t := by
  cases h with
  | arrive hbound => exact ⟨hs.state, hbound⟩
  | read hx =>
    refine hs.after (exec_unread hx hs.unread) fun hopen => ?_
    exact congrArg _ ((read_returns s.sock _ s.queue).exec hx hopen)
  | write hx =>
    refine hs.after (exec_unread hx hs.unread) fun hopen => ?_
    exact congrArg (·.socket.connectionState) ((write_exec hx).2 hopen)
  | close hx =>
    exact hs.after (exec_unread hx hs.unread) fun hopen => absurd (close_exec hx).2 hopen
  | @callback mask _ _ _ hopen hx =>
    have hopened := hs.opened hopen
    refine hs.after (exec_unread hx hs.unread) fun hopen' => ?_
    by_cases hmask : mask &&& EPOLLERR = 0
    · rcases connected_callback_exec hs.unread hopened.state hmask hx with
        ⟨-, hsame, -⟩ | ⟨-, heffect⟩
      · exact congrArg (·.socket.connectionState) hsame
      · cases heffect with
        | data => rfl
        | ended _ hclosed => exact absurd hclosed hopen'
    · unfold TcpSocket.processEpollEvents at hx
      rw [if_pos hmask] at hx
      exact absurd ((onError_quiet s.sock s.queue).returns.exec hx) hopen'

theorem judged_iff {s t : SocketState} {l : SocketLabel} (hs : Live s)
    (h : SocketStep ws s l t) : Judged s l t ↔ NotCut s l := by
  cases l with
  | callback mask =>
    have hopen : s.sock.socket.connectionState ≠ .closed := by
      cases h with
      | callback hopen _ => exact hopen
    exact forall_congr' fun hmask => callback_delivers_iff (hs.opened hopen) hmask h
  | arrive bytes => exact Iff.rfl
  | read len result => exact Iff.rfl
  | write len => exact Iff.rfl
  | close => exact Iff.rfl

/-- **Nothing that has been received is thrown away**, in every callback of
a run, exactly when no callback of the run is called for unread bytes and a
hang-up at once. -/
theorem delivered_iff {s₀ s : SocketState} {tr : List SocketLabel} (h₀ : Opened s₀) :
    Run (fun s l t => SocketStep ws s l t ∧ Judged s l t) s₀ tr s ↔
      GuardedRun (SocketStep ws) NotCut s₀ tr s :=
  judged_iff_guarded h₀.live (fun _ _ _ => step_live) fun _ _ _ => judged_iff

theorem delivered_iff_behind :
    Run (fun s l t => SocketStep .w64 s l t ∧ Judged s l t) quietSocket
        [.arrive 10, .callback EPOLLIN, .arrive 20] behind ↔
      GuardedRun (SocketStep .w64) NotCut quietSocket
        [.arrive 10, .callback EPOLLIN, .arrive 20] behind :=
  delivered_iff ⟨rfl, by decide⟩

/-- Ten bytes and the hang-up of the peer, reported together: the stream
has ended, and the bytes are still there. -/
theorem delivered_fails : Opened quietSocket ∧ ∃ t,
    Run (SocketStep .w64) quietSocket
      [.arrive 10, .callback (EPOLLIN ||| EPOLLHUP)] t ∧
    t.sock.socket.connectionState = .closed ∧ t.inbox.unread = 10 ∧
    t.queue.readyEvents = [Event.new .streamClosedEvent 0] := by
  have h₁ : SocketStep .w64 quietSocket (.arrive 10) _ := .arrive (by decide)
  have h₂ : SocketStep .w64 { quietSocket with inbox := ⟨10, false⟩ }
      (.callback (EPOLLIN ||| EPOLLHUP))
      ⟨⟨0, ⟨5, true, .closed⟩, 0, 0⟩, ⟨3, [Event.new .streamClosedEvent 0]⟩, ⟨10, false⟩⟩ :=
    .callback (by decide) ⟨(0 : Int), _, rfl, rfl, rfl⟩
  exact ⟨⟨rfl, by decide⟩, _, (Run.nil.snoc h₁).snoc h₂, rfl, rfl, rfl⟩

end Revbio.Tcp
