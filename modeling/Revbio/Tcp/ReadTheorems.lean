/-
Revbio.Tcp.ReadTheorems — `available_bytes` against the receive buffer.

`available_bytes` is what the last callback found. `recv` is not told of
it: it fills the whole buffer of the caller, also with bytes that came
after that callback, and then the subtraction wraps. As long as no `read`
can get more than `available_bytes`, the count stays covered and `recv` is
never entered for nothing (`read_covered_iff`).
-/
import Revbio.Tcp.Inbox

namespace Revbio.Tcp

open CallTree Prog Transition

variable {ws : WordSize}

/-- The count is covered by the receive buffer, and no `recv` has blocked. -/
structure Covered (s : SocketState) : Prop where
  available : s.sock.socket.connectionState = .connected →
    s.sock.availableBytes ≤ s.inbox.unread
  emptyRecv : s.inbox.emptyRecv = false

/-- A `read` into a buffer of length `len` can get more than
`available_bytes`. -/
def Ahead (s : SocketState) (len : Nat) : Prop :=
  s.sock.socket.connectionState = .connected ∧ 0 < s.sock.availableBytes ∧
    s.sock.availableBytes < len ∧ s.sock.availableBytes < s.inbox.unread

/-- The steps that keep the count covered. -/
def NotAhead (s : SocketState) : SocketLabel → Prop
  | .read len _ => ¬ Ahead s len
  | _ => True

/-! ## Calls that leave the buffer alone -/

/-- All but `FIONREAD` and `recv`. -/
def Quiet : Call → Prop
  | .retry (.ioctlFionread _) => False
  | .retry (.recv _ _) => False
  | _ => True

theorem allows_quiet (i : Inbox) (c : Call) (r : c.Ret) (i' : Inbox) (hc : Quiet c)
    (h : i.allows c r i') : i' = i := by
  unfold Inbox.allows at h
  split at h
  · exact hc.elim
  · exact hc.elim
  · exact h

theorem reports_quiet (c : Call) (h : Reports c) : Quiet c :=
  h.each trivial trivial (fun _ => trivial) fun _ => trivial

theorem translateError_quiet (errno : Int) (detail : Bool) :
    (translateError errno detail).Within Quiet fun _ => True :=
  (translateError_reports errno detail).mono reports_quiet fun _ h => h

theorem lastError_quiet : lastError.Within Quiet fun _ => True :=
  lastError_reports.mono reports_quiet fun _ h => h

theorem closeSocket_quiet (s : RawTcpSocket) :
    s.closeSocket.Within Quiet fun s' => s'.connectionState = .closed := by
  unfold RawTcpSocket.closeSocket
  split
  · assumption
  · exact within_call trivial fun _ => rfl

/-- It gives back the socket it got, or a closed one. -/
theorem ioFailed_quiet (s : RawTcpSocket) :
    s.ioFailed.Within Quiet fun r => r.2.connectionState ≠ .closed → r.2 = s := by
  simp only [RawTcpSocket.ioFailed, sys_eq, call_bind, ret_bind]
  refine within_call trivial ?_
  intro errno
  split
  · refine within_bind (closeSocket_quiet s) ?_
    intro s' hs'
    exact within_bind lastError_quiet fun _ _ h => absurd hs' h
  · exact within_bind lastError_quiet fun _ _ _ => rfl

theorem rawWrite_quiet (s : RawTcpSocket) (len : Nat) :
    (s.write ws len).Within Quiet fun r => r.2.connectionState ≠ .closed → r.2 = s := by
  unfold RawTcpSocket.write
  split
  · exact fun _ => rfl
  · split
    · exact fun _ => rfl
    · simp only [retry_eq, call_bind, ret_bind]
      refine within_call trivial ?_
      intro ret
      split
      · exact ioFailed_quiet s
      · exact fun _ => rfl

theorem modifyFd_quiet (q : EventQueueImpl) (fd : Fd) (flags : UInt32) (callback : Ptr) :
    (q.modifyFd fd flags callback).Within Quiet fun _ => True := by
  simp only [EventQueueImpl.modifyFd, sys_eq, call_bind, ret_bind]
  refine within_call trivial ?_
  intro ret
  split <;> trivial

/-! ## What each operation does to the count -/

/-- Below `2 ^ 31` the casts between `int` and `uint` are exact. -/
theorem asUint_natCast {n : Nat} (h : n < 2 ^ 31) : ws.asUint (n : Int) = n := by
  have hbits : 2 ^ 31 < 2 ^ ws.bits := by cases ws <;> decide
  have hmod : ((n : Int) % (2 ^ ws.bits : Int)) = n := by
    refine Int.emod_eq_of_lt (by omega) ?_
    exact_mod_cast Nat.lt_trans h hbits
  simp only [WordSize.asUint, hmod, Int.toNat_natCast]

/-- What `Within.frame` gives for a program of quiet calls. -/
theorem quiet_wp {α : Type} {p : Io α} {P : α → Prop} (hp : p.Within Quiet P) (i : Inbox) :
    p.wp Inbox.allows (fun x i' => i' = i ∧ ∀ a, x = .returned a → P a) i :=
  hp.frame (fun i c r i' hc h => allows_quiet i c r i' hc h) i

theorem quiet_exec {α : Type} {p : Io α} {P : α → Prop} (hp : p.Within Quiet P)
    {i i' : Inbox} {a : α} (hx : p.Exec Inbox.allows i (.returned a) i') :
    i' = i ∧ P a := by
  obtain ⟨hi, ha⟩ := wp_sound (quiet_wp hp i) hx
  exact ⟨hi, ha a rfl⟩

theorem onError_quiet (s : TcpSocket) (q : EventQueueImpl) :
    (s.onError q).Within Quiet fun r => r.1.socket.connectionState = .closed := by
  simp only [TcpSocket.onError, sys_eq, call_bind, ret_bind]
  refine within_call trivial ?_
  intro ⟨_, errno⟩
  simp only
  split
  · refine within_bind (translateError_quiet _ _) ?_
    intro err _
    exact within_bind (closeSocket_quiet _) fun raw hraw => hraw
  · trivial

theorem onWritable_quiet (s : TcpSocket) (q : EventQueueImpl) :
    (s.onWritable q).Within Quiet fun r => r.1.availableBytes = s.availableBytes := by
  unfold TcpSocket.onWritable
  simp -zeta only [sys_eq, call_bind, ret_bind]
  refine within_call trivial ?_
  intro ⟨_, out⟩
  extract_lets tail
  have htail : ∀ r, (tail r).Within Quiet fun r => r.1.availableBytes = s.availableBytes := by
    intro ⟨success, errno⟩
    simp only [tail]
    split
    · refine within_bind (translateError_quiet _ _) ?_
      intro err _
      exact within_bind (closeSocket_quiet _) fun _ _ => rfl
    · refine within_bind (s.socket.setBlocking_within (fun _ => trivial)
        (fun _ _ => trivial) true) fun raw _ => ?_
      exact within_bind (modifyFd_quiet _ _ _ _) fun _ _ => rfl
  split
  · exact htail _
  · exact within_call trivial fun e => htail (false, e)

/-- `FIONREAD` makes the count the number of unread bytes. -/
theorem readAvailableBytes_wp (s : TcpSocket) (i : Inbox) (hi : i.unread < 2 ^ 31)
    (Q : Exit (IoResult Nat × TcpSocket) → Inbox → Prop)
    (hQ : Q (.returned (.ok i.unread, { s with availableBytes := i.unread })) i) :
    (s.readAvailableBytes ws).wp Inbox.allows Q i := by
  simp only [TcpSocket.readAvailableBytes, retry_eq, call_bind, ret_bind, wp_call]
  intro r i' h
  obtain ⟨rfl, rfl⟩ := h
  simpa [asUint_natCast hi] using hQ

/-- What the callback of a connected socket does when it is readable: with
`EPOLLHUP` it does not ask for the unread bytes. -/
inductive ReadableEffect (s : TcpSocket) (q : EventQueueImpl) (mask : UInt32) (i : Inbox) :
    TcpSocket → EventQueueImpl → Prop where
  | data : mask &&& EPOLLHUP = 0 → 0 < i.unread →
      ReadableEffect s q mask i { s with availableBytes := i.unread }
        (q.pushBackEvent (Event.new (.dataAvailableEvent i.unread) s.eventSourceInfo))
  | ended {s' : TcpSocket} : (mask &&& EPOLLHUP = 0 → i.unread = 0) →
      s'.socket.connectionState = .closed →
      ReadableEffect s q mask i s'
        (q.pushBackEvent (Event.new .streamClosedEvent s.eventSourceInfo))

theorem onReadable_wp (s : TcpSocket) (q : EventQueueImpl) (mask : UInt32) (i : Inbox)
    (hi : i.unread < 2 ^ 31) :
    (s.onReadable ws q mask).wp Inbox.allows
      (fun x i' => ∀ r, x = .returned r → i' = i ∧ ReadableEffect s q mask i r.1 r.2) i := by
  unfold TcpSocket.onReadable
  extract_lets tail
  -- `n` is the count the tail finds
  have htail : ∀ n, (mask &&& EPOLLHUP = 0 → n = i.unread) →
      (mask &&& EPOLLHUP ≠ 0 → n = 0) →
      (tail { s with availableBytes := n }).wp Inbox.allows (fun x i' =>
        ∀ r, x = .returned r → i' = i ∧ ReadableEffect s q mask i r.1 r.2) i := by
    intro n hasked hnot
    simp only [tail]
    split
    case isTrue hpos =>
      intro r hr
      cases hr
      have hzero : mask &&& EPOLLHUP = 0 :=
        Classical.byContradiction fun hhup => Nat.ne_of_gt hpos (hnot hhup)
      obtain rfl := hasked hzero
      exact ⟨rfl, .data hzero hpos⟩
    case isFalse hnone =>
      have hend : mask &&& EPOLLHUP = 0 → i.unread = 0 := fun hzero =>
        (hasked hzero).symm.trans (Nat.eq_zero_of_not_pos hnone)
      rw [wp_bind]
      refine wp_mono ?_ (quiet_wp (closeSocket_quiet s.socket) i)
      intro x i' h
      obtain ⟨rfl, hx⟩ := h
      cases x with
      | failed m =>
        intro r hr
        cases hr
      | returned raw =>
        intro r hr
        cases hr
        exact ⟨rfl, .ended hend (hx raw rfl)⟩
  split
  case isTrue hzero =>
    rw [wp_bind]
    exact readAvailableBytes_wp s i hi _ (htail _ (fun _ => rfl) fun hhup => absurd hzero hhup)
  case isFalse hhup => exact htail 0 (fun hzero => absurd hzero hhup) fun _ => rfl

/-- An open socket comes out of a callback with the count it had, or with
the number of unread bytes. -/
theorem callback_exec {s s' : TcpSocket} {q q' : EventQueueImpl} {mask : UInt32}
    {i i' : Inbox} (hi : i.unread < 2 ^ 31)
    (h : (s.processEpollEvents ws q mask).Exec Inbox.allows i (.returned (s', q')) i') :
    i' = i ∧ (s'.socket.connectionState ≠ .closed →
      s'.availableBytes = s.availableBytes ∨ s'.availableBytes = i.unread) := by
  unfold TcpSocket.processEpollEvents at h
  have hidle : (pure (s, q) : Io _).Exec Inbox.allows i (.returned (s', q')) i' →
      i' = i ∧ (s'.socket.connectionState ≠ .closed →
        s'.availableBytes = s.availableBytes ∨ s'.availableBytes = i.unread) := by
    rintro ⟨⟨⟩, rfl⟩
    exact ⟨rfl, fun _ => .inl rfl⟩
  split at h
  · obtain ⟨hi', hs'⟩ := quiet_exec (onError_quiet s q) h
    exact ⟨hi', fun hopen => absurd hs' hopen⟩
  · split at h
    · split at h
      · obtain ⟨hi', heffect⟩ := wp_sound (onReadable_wp s q mask i hi) h _ rfl
        refine ⟨hi', fun hopen => .inr ?_⟩
        cases heffect with
        | data => rfl
        | ended _ hclosed => exact absurd hclosed hopen
      · exact hidle h
    · split at h
      · obtain ⟨hi', hs'⟩ := quiet_exec (onWritable_quiet s q) h
        exact ⟨hi', fun _ => .inl hs'⟩
      · exact hidle h

theorem write_exec {s s' : TcpSocket} {q q' : EventQueueImpl} {len : Nat}
    {result : IoResult Nat} {i i' : Inbox}
    (h : (s.write ws len q).Exec Inbox.allows i (.returned (result, s', q')) i') :
    i' = i ∧ (s'.socket.connectionState ≠ .closed → s' = s) := by
  refine quiet_exec (P := fun r => r.2.1.socket.connectionState ≠ .closed → r.2.1 = s) ?_ h
  refine within_bind (rawWrite_quiet s.socket len) ?_
  intro ⟨_, raw⟩ hraw
  simp only
  split
  all_goals
    intro hopen
    exact congrArg (fun raw => { s with socket := raw }) (hraw hopen)

theorem close_exec {s s' : TcpSocket} {q q' : EventQueueImpl} {i i' : Inbox}
    (h : (s.close q).Exec Inbox.allows i (.returned (s', q')) i') :
    i' = i ∧ s'.socket.connectionState = .closed := by
  refine quiet_exec (P := fun r => r.1.socket.connectionState = .closed) ?_ h
  exact within_bind (closeSocket_quiet s.socket) fun raw hraw => within_ret hraw

/-! ## `read` -/

/-- The ways a `read` can end that does not find the buffer empty. -/
inductive ReadEffect (ws : WordSize) (s : TcpSocket) (i : Inbox) (len : Nat) :
    IoResult Nat → TcpSocket → Inbox → Prop where
  | notConnected : s.socket.connectionState ≠ .connected →
      ReadEffect ws s i len (.error (.notOpen "Connection is closed")) s i
  | nothing : s.socket.connectionState = .connected →
      ReadEffect ws s i len (.ok 0) s i
  | got {n : Nat} : s.socket.connectionState = .connected → 0 < s.availableBytes →
      1 ≤ n → n ≤ min len i.unread →
      ReadEffect ws s i len (.ok n)
        { s with availableBytes := ws.uintSub s.availableBytes n }
        { i with unread := i.unread - n }

theorem read_wp (s : TcpSocket) (q : EventQueueImpl) (len : Nat) (i : Inbox)
    (hi : i.unread < 2 ^ 31)
    (hcov : s.socket.connectionState = .connected → s.availableBytes ≤ i.unread) :
    (s.read ws len q).wp Inbox.allows
      (fun x i' => ∀ r, x = .returned r → ReadEffect ws s i len r.1 r.2.1 i') i := by
  simp only [TcpSocket.read, RawTcpSocket.read]
  by_cases hconn : s.socket.connectionState = .connected
  case neg =>
    simp only [hconn, false_and, if_false, ne_eq, not_false_eq_true, if_true, pure_eq,
      ret_bind, not_true_eq_false, wp_ret]
    intro r hr
    cases hr
    exact .notConnected hconn
  by_cases havail : s.availableBytes = 0
  case pos =>
    rw [if_pos ⟨hconn, havail⟩]
    intro r hr
    cases hr
    exact .nothing hconn
  rw [if_neg fun h => havail h.2, if_neg (not_not.mpr hconn)]
  by_cases hlen : len = 0
  case pos =>
    simp only [hlen, if_true, pure_eq, ret_bind, wp_ret, ws.uintSub_of_le (Nat.zero_le _)]
    intro r hr
    cases hr
    exact .nothing hconn
  -- the only branch that gets to `recv`: the buffer is not empty
  have hpos : i.unread ≠ 0 := by have := hcov hconn; omega
  simp only [hlen, if_false, retry_eq, call_bind, ret_bind, wp_call, Inbox.allows, hpos]
  intro _ i' h
  obtain ⟨n, h1, hn, rfl, rfl⟩ := h
  have hn0 : (n : Int) ≠ 0 := by omega
  have hneg : ¬ (n : Int) < 0 := by omega
  have hcast : ws.asUint (n : Int) = n := asUint_natCast (by omega)
  simp only [hn0, hneg, if_false, pure_eq, ret_bind, hcast, wp_ret]
  intro r hr
  cases hr
  exact .got hconn (by omega) h1 hn

theorem read_exec {s s' : TcpSocket} {q q' : EventQueueImpl} {len : Nat}
    {result : IoResult Nat} {i i' : Inbox} (hi : i.unread < 2 ^ 31)
    (hcov : s.socket.connectionState = .connected → s.availableBytes ≤ i.unread)
    (h : (s.read ws len q).Exec Inbox.allows i (.returned (result, s', q')) i') :
    ReadEffect ws s i len result s' i' :=
  wp_sound (read_wp s q len i hi hcov) h _ rfl

/-- `recv` may fill the buffer. -/
theorem read_fills (s : TcpSocket) (q : EventQueueImpl) (len : Nat) (i : Inbox)
    (hi : i.unread < 2 ^ 31) (hconn : s.socket.connectionState = .connected)
    (havail : 0 < s.availableBytes) (hlen : 0 < len) (hpos : 0 < i.unread) :
    (s.read ws len q).Exec Inbox.allows i
      (.returned (.ok (min len i.unread),
        { s with availableBytes := ws.uintSub s.availableBytes (min len i.unread) }, q))
      { i with unread := i.unread - min len i.unread } := by
  have hlen0 : len ≠ 0 := by omega
  have hunread : i.unread ≠ 0 := by omega
  have hn0 : ((min len i.unread : Nat) : Int) ≠ 0 := by omega
  have hneg : ¬ ((min len i.unread : Nat) : Int) < 0 := by omega
  have hcast : ws.asUint ((min len i.unread : Nat) : Int) = min len i.unread :=
    asUint_natCast (by omega)
  simp only [TcpSocket.read, RawTcpSocket.read]
  rw [if_neg fun h => (Nat.ne_of_gt havail) h.2, if_neg (not_not.mpr hconn), if_neg hlen0]
  simp only [retry_eq, call_bind, ret_bind, exec_call]
  refine ⟨((min len i.unread : Nat) : Int), { i with unread := i.unread - min len i.unread },
    ?_, ?_⟩
  · simp only [Inbox.allows, hunread, if_false]
    exact ⟨min len i.unread, by omega, Nat.le_refl _, rfl, rfl⟩
  · simp only [hn0, hneg, if_false, pure_eq, ret_bind, hcast]
    exact ⟨rfl, rfl⟩

/-! ## The invariant -/

structure Inv (s : SocketState) : Prop where
  bounded : s.inbox.unread < 2 ^ 31
  available : s.sock.socket.connectionState ≠ .closed →
    s.sock.availableBytes ≤ s.inbox.unread
  emptyRecv : s.inbox.emptyRecv = false

theorem Inv.covered {s : SocketState} (h : Inv s) : Covered s where
  available hconn := h.available (by rw [hconn]; decide)
  emptyRecv := h.emptyRecv

theorem Fresh.inv {s : SocketState} (h : Fresh s) : Inv s where
  bounded := h.unread
  available _ := h.available ▸ Nat.zero_le _
  emptyRecv := h.emptyRecv

/-- What a `read` gets that is not ahead of the callback. -/
theorem read_within {s : SocketState} {len n : Nat} {sock : TcpSocket} {i : Inbox}
    (hna : ¬ Ahead s len) (h : ReadEffect ws s.sock s.inbox len (.ok n) sock i) :
    n ≤ s.sock.availableBytes := by
  cases h with
  | nothing => exact Nat.zero_le _
  | got hconn hpos h1 hn =>
    by_contra hlt
    exact hna ⟨hconn, hpos, by omega, by omega⟩

theorem step_inv {s t : SocketState} {l : SocketLabel} (hI : Inv s) (hG : NotAhead s l)
    (h : SocketStep ws s l t) : Inv t := by
  obtain ⟨hbounded, havail, hempty⟩ := hI
  cases h with
  | arrive hb =>
    exact ⟨hb, fun hopen => Nat.le_trans (havail hopen) (Nat.le_add_right _ _), hempty⟩
  | callback hnc hx =>
    obtain ⟨rfl, hs'⟩ := callback_exec hbounded hx
    refine ⟨hbounded, fun hopen => ?_, hempty⟩
    have := havail hnc
    have := hs' hopen
    simp only at this ⊢
    omega
  | write hx =>
    obtain ⟨rfl, hs'⟩ := write_exec hx
    refine ⟨hbounded, fun hopen => ?_, hempty⟩
    obtain rfl := hs' hopen
    exact havail hopen
  | close hx =>
    obtain ⟨rfl, hs'⟩ := close_exec hx
    exact ⟨hbounded, fun hopen => absurd hs' hopen, hempty⟩
  | read hx =>
    have heff := read_exec hbounded (fun hconn => havail (by rw [hconn]; decide)) hx
    cases heff with
    | notConnected => exact ⟨hbounded, havail, hempty⟩
    | nothing => exact ⟨hbounded, havail, hempty⟩
    | got hconn hpos h1 hn =>
      have hle := read_within hG (@ReadEffect.got ws _ _ _ _ hconn hpos h1 hn)
      refine ⟨by simp only; omega, fun hopen => ?_, hempty⟩
      have := havail hopen
      simp only [ws.uintSub_of_le hle]
      omega

theorem guarded_inv {s₀ s : SocketState} {tr : List SocketLabel} (h0 : Fresh s₀)
    (h : GuardedRun (SocketStep ws) NotAhead s₀ tr s) : Inv s :=
  h.invariant h0.inv fun _ _ _ => step_inv

/-! ## The exact condition -/

/-- A `read` that keeps to the count: it takes no more off than is there,
and what it leaves is covered. -/
def Keeps (s : SocketState) (result : IoResult Nat) (t : SocketState) : Prop :=
  Covered t ∧ ∀ n, result = .ok n → n ≤ s.sock.availableBytes

theorem read_keeps {s t : SocketState} {len : Nat} {result : IoResult Nat} (hI : Inv s)
    (hna : ¬ Ahead s len) (h : SocketStep ws s (.read len result) t) : Keeps s result t := by
  refine ⟨(step_inv hI (show NotAhead s (.read len result) from hna) h).covered, ?_⟩
  intro n h
  subst h
  cases h with
  | read hx =>
    have hconn : s.sock.socket.connectionState = .connected →
        s.sock.availableBytes ≤ s.inbox.unread := hI.covered.available
    exact read_within hna (read_exec hI.bounded hconn hx)

theorem ahead_breaks {s : SocketState} {len : Nat} (hI : Inv s) (h : Ahead s len) :
    ∃ result t, SocketStep ws s (.read len result) t ∧ ¬ Keeps s result t := by
  obtain ⟨hconn, hpos, hlen, hunread⟩ := h
  refine ⟨_, _, .read (read_fills s.sock s.queue len s.inbox hI.bounded hconn hpos
    (by omega) (by omega)), ?_⟩
  intro h
  obtain ⟨-, hle⟩ := h
  have := hle _ rfl
  omega

/-- As long as no `read` on the connected socket is made into a buffer
longer than `available_bytes` while more than `available_bytes` are unread,
the count stays covered; and that is exactly what the next `read` needs. -/
theorem read_covered_iff {s₀ s : SocketState} {tr : List SocketLabel} (h0 : Fresh s₀)
    (h : GuardedRun (SocketStep ws) NotAhead s₀ tr s) :
    Covered s ∧ ∀ len, (∀ result t, SocketStep ws s (.read len result) t → Keeps s result t) ↔
      ¬ Ahead s len := by
  have hI := guarded_inv h0 h
  refine ⟨hI.covered, fun len => ⟨fun hall hahead => ?_, fun hna result t hs => ?_⟩⟩
  · obtain ⟨result, t, hs, hbad⟩ := @ahead_breaks ws _ _ hI hahead
    exact hbad (hall result t hs)
  · exact read_keeps hI hna hs

/-- A connected socket on which nothing has come yet. -/
def quietSocket : SocketState where
  sock := ⟨0, ⟨5, true, .connected⟩, 0, 0⟩
  queue := ⟨3, []⟩
  inbox := ⟨0, false⟩

theorem quietSocket_fresh : Fresh quietSocket := ⟨rfl, by decide, rfl⟩

/-- The same socket after a callback that found ten bytes, with twenty more
since. -/
def behind : SocketState where
  sock := ⟨0, ⟨5, true, .connected⟩, 0, 10⟩
  queue := ⟨3, [Event.new (.dataAvailableEvent 10) 0]⟩
  inbox := ⟨30, false⟩

theorem behind_run : GuardedRun (SocketStep .w64) NotAhead quietSocket
    [.arrive 10, .callback EPOLLIN, .arrive 20] behind := by
  have h₁ : SocketStep .w64 quietSocket (.arrive 10) _ := .arrive (by decide)
  have h₂ : SocketStep .w64 { quietSocket with inbox := ⟨10, false⟩ } (.callback EPOLLIN)
      { behind with inbox := ⟨10, false⟩ } :=
    .callback (by decide) ⟨(0, 10), _, ⟨rfl, rfl⟩, rfl, rfl⟩
  have h₃ : SocketStep .w64 { behind with inbox := ⟨10, false⟩ } (.arrive 20) _ :=
    .arrive (by decide)
  exact ((GuardedRun.nil.snoc trivial h₁).snoc trivial h₂).snoc trivial h₃

theorem read_covered_iff_behind : Covered behind ∧ ∀ len,
    (∀ result t, SocketStep .w64 behind (.read len result) t → Keeps behind result t) ↔
      ¬ Ahead behind len :=
  read_covered_iff quietSocket_fresh behind_run

/-- A buffer of a hundred bytes gets all thirty: the count wraps, and the
next `read` enters `recv` on an empty buffer. -/
theorem read_covered_fails : Fresh quietSocket ∧ ∃ t,
    Run (SocketStep .w64) quietSocket
      [.arrive 10, .callback EPOLLIN, .arrive 20, .read 100 (.ok 30)] t ∧
    t.sock.socket.connectionState = .connected ∧
    t.sock.availableBytes = 2 ^ 64 - 20 ∧ t.inbox.unread = 0 ∧
    ∃ result u, SocketStep .w64 t (.read 100 result) u ∧ u.inbox.emptyRecv = true := by
  have hread : SocketStep .w64 behind (.read 100 (.ok 30)) _ :=
    .read (read_fills behind.sock behind.queue 100 behind.inbox (by decide) rfl
      (by decide) (by decide) (by decide))
  refine ⟨quietSocket_fresh, _, behind_run.run.snoc hread, rfl, rfl, rfl, ?_⟩
  -- the peer closes, and `recv` comes back with nothing
  exact ⟨.error .endOfFile, _, .read ⟨0, ⟨0, true⟩, rfl, 0, _, rfl, rfl, rfl⟩, rfl⟩

end Revbio.Tcp
