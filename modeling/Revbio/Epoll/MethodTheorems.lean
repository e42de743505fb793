/-
Revbio.Epoll.MethodTheorems — what every constructor, method, callback and
destructor does to the descriptor of its object.

Each is a `Does` judgment about the object and the holding it starts with.
Most code only needs the rule for calls that leave the kernel's table
alone.
-/
import Revbio.Epoll.ChannelTheorems

namespace Revbio.Epoll

open CallTree Prog Ownership Function

variable {T α β : Type} {ws : WordSize} {host : Endian}

/-! ## Rules -/

/-- All calls but those that make or close a descriptor or change the
epoll set. -/
def Syscall.Neutral : Syscall → Prop
  | .epollCreate _ => False
  | .timerfdCreate => False
  | .eventfd => False
  | .socket _ _ => False
  | .accept _ => False
  | .epollCtl _ _ _ _ _ => False
  | .close _ => False
  | _ => True

def Neutral : Call → Prop
  | .once c => Syscall.Neutral c
  | .retry c => Syscall.Neutral c

theorem answers_neutral {k k' : Kernel} {c : Syscall} {r : c.Ret} (hc : Syscall.Neutral c)
    (h : k.answers c r k') : k' = k := by
  cases c <;> first | exact h | exact hc.elim

theorem allows_neutral {k k' : Kernel} {c : Call} {r : c.Ret} (hc : Neutral c)
    (h : k.allows c r k') : k' = k := by
  cases c with
  | once c => exact answers_neutral hc h
  | retry c => exact answers_neutral hc h

theorem reports_neutral (c : Call) (h : Reports c) : Neutral c :=
  h.each trivial trivial (fun _ => trivial) fun _ => trivial

/-- No call changes the table, and what is returned satisfies `P`. -/
abbrev Leaves (P : α → Prop) (p : Io α) : Prop := p.Within Neutral P

theorem leaves_reports {p : Io α} (h : p.Within Reports fun _ => True) :
    Leaves (fun _ => True) p := h.mono reports_neutral fun _ h => h

/-- Object `i` runs `p` with holding `h`. -/
abbrev Does (i : Ptr) (h : Holding Ptr Fd) (p : Io α) (post : α → Holding Ptr Fd) : Prop :=
  Ownership.Does Kernel.allows i h p post

section Rules

variable {i : Ptr} {h h' : Holding Ptr Fd} {post : α → Holding Ptr Fd}

theorem does_leaves_call {c : Call} {f : c.Ret → Io α} (hc : Neutral c)
    (hf : ∀ r, Does i h (f r) post) : Does i h (.call c f) post := by
  refine does_call ?_
  intro k r k' hrk
  rw [allows_neutral hc hrk]
  exact ⟨h, .refl, hf r⟩

/-- Sequencing after a part that acts on nothing. -/
theorem does_leaves_bind {p : Io β} {f : β → Io α} {P : β → Prop} (hp : Leaves P p)
    (hf : ∀ b, P b → Does i h (f b) post) : Does i h (p >>= f) post :=
  does_within_bind (fun _ _ _ _ => allows_neutral) hp hf

theorem does_leaves {p : Io α} (hp : Leaves (fun a => post a = h) p) : Does i h p post := by
  rw [← bind_ret p]
  exact does_leaves_bind hp fun a ha => does_ret ha.symm

theorem does_reports {p : Io β} {f : β → Io α} (hC : p.Within Reports fun _ => True)
    (hf : ∀ b, Does i h (f b) post) : Does i h (p >>= f) post :=
  does_leaves_bind (leaves_reports hC) fun b _ => hf b

theorem does_close {fd : Fd} {w : Option Ptr} {f : Int → Io α}
    (hf : ∀ r, Does i none (f r) post) :
    Does i (some (fd, w)) (.call (.once (.close fd)) f) post := by
  refine does_call ?_
  intro k r k' hrk
  cases hrk
  exact ⟨none, .release .refl, hf r⟩

/-- A new descriptor, or `-1`. -/
theorem handsOut_acts {k k' : Kernel} {r : Int} (h : k.handsOut r k') :
    (r = -1 ∧ Acts i none k none k') ∨ (r ≠ -1 ∧ Acts i none k (some (r, none)) k') := by
  rcases h with ⟨hr, rfl⟩ | ⟨hr, hfree, rfl⟩
  · exact .inl ⟨hr, .refl⟩
  · exact .inr ⟨Fd.ne_none hr, .acquire .refl hfree⟩

end Rules

/-! ## The epoll set -/

/-- `epoll_ctl` with the test that follows it everywhere. -/
theorem epollCtl_does {epfd fd : Fd} {op : EpollCtl} {flags : UInt32} {data : Option Ptr}
    {i : Ptr} {w w' : Option Ptr} {msg : String}
    (hset : ∀ k : Kernel, Acts i (some (fd, w)) k (some (fd, w'))
      (update k fd (.held (match op with | .del => none | _ => data)))) :
    Does i (some (fd, w)) (.call (.once (.epollCtl epfd op fd flags data)) fun s =>
      if s ≠ 0 then .fail msg else .ret ()) fun _ => some (fd, w') := by
  refine does_call ?_
  intro k s k' hs
  rcases hs with ⟨hs, rfl⟩ | ⟨hs, hk'⟩
  · exact ⟨_, .refl, by rw [if_pos hs]; exact does_fail msg⟩
  · refine ⟨some (fd, w'), ?_, by rw [if_neg (not_not.mpr hs)]; exact does_ret rfl⟩
    cases op <;> exact hk'.2 ▸ hset k

theorem registerFd_does (q : EventQueueImpl) (fd : Fd) (flags : UInt32) (i : Ptr)
    (w : Option Ptr) :
    Does i (some (fd, w)) (q.registerFd fd flags i) fun _ => some (fd, some i) :=
  epollCtl_does fun _ => .watch .refl

theorem modifyFd_does (q : EventQueueImpl) (fd : Fd) (flags : UInt32) (i : Ptr)
    (w : Option Ptr) :
    Does i (some (fd, w)) (q.modifyFd fd flags i) fun _ => some (fd, some i) :=
  epollCtl_does fun _ => .watch .refl

theorem unregisterFd_does (q : EventQueueImpl) (fd : Fd) (i : Ptr) (w : Option Ptr) :
    Does i (some (fd, w)) (q.unregisterFd fd) fun _ => some (fd, none) :=
  epollCtl_does fun _ => .unwatch .refl

/-! ## Raw sockets -/

theorem closeSocket_does (s : RawTcpSocket) (i : Ptr) (w : Option Ptr) :
    Does i (heldBy s.connectionState s.fd w) s.closeSocket fun s' =>
      heldBy s'.connectionState s'.fd w := by
  unfold RawTcpSocket.closeSocket heldBy
  split
  · exact does_ret (by simp [*])
  · exact does_close fun _ => does_ret rfl

theorem rawTcp_drop_does (s : RawTcpSocket) (i : Ptr) (w : Option Ptr) :
    Does i (heldBy s.connectionState s.fd w) s.drop fun _ => none := by
  unfold RawTcpSocket.drop RawTcpSocket.closeSocket heldBy
  split
  · exact does_ret rfl
  · exact does_close fun _ => does_ret rfl

theorem setBlocking_leaves (s : RawTcpSocket) (b : Bool) :
    Leaves (fun s' => s'.fd = s.fd ∧ s'.connectionState = s.connectionState)
      (s.setBlocking b) :=
  s.setBlocking_within (fun _ => trivial) (fun _ _ => trivial) b

theorem createSocket_does (addr : SocketAddr) (blocking : Bool) (i : Ptr) :
    Does i none (createSocket addr blocking) fun result => match result with
      | .ok fd => some (fd, none)
      | .error _ => none := by
  simp only [createSocket, sys_eq, call_bind, ret_bind]
  refine does_call ?_
  intro k r k' hr
  rcases handsOut_acts hr with ⟨rfl, ha⟩ | ⟨hr, ha⟩
  · exact ⟨_, ha, does_reports lastError_reports fun _ => does_ret rfl⟩
  · refine ⟨_, ha, ?_⟩
    rw [if_neg hr]
    exact does_ret rfl

theorem rawTcp_connect_does (addr : SocketAddr) (i : Ptr) :
    Does i none (RawTcpSocket.connect host addr) fun result => match result with
      | .ok s => heldBy s.connectionState s.fd none
      | .error _ => none := by
  refine does_bind (createSocket_does addr true i) ?_
  rintro (err | fd)
  · exact does_ret rfl
  · simp only [retry_eq, call_bind, ret_bind]
    refine does_leaves_call trivial ?_
    intro r
    split
    · refine does_reports lastError_reports ?_
      intro err
      exact does_bind (rawTcp_drop_does (.fromFd fd) i none) fun _ => does_ret rfl
    · exact does_ret rfl

theorem ioFailed_does (s : RawTcpSocket) (i : Ptr) (w : Option Ptr) :
    Does i (heldBy s.connectionState s.fd w) s.ioFailed fun r =>
      heldBy r.2.connectionState r.2.fd w := by
  simp only [RawTcpSocket.ioFailed, sys_eq, call_bind, ret_bind]
  refine does_leaves_call trivial ?_
  intro errno
  split
  · refine does_bind (closeSocket_does s i w) ?_
    intro s'
    exact does_reports lastError_reports fun _ => does_ret rfl
  · exact does_reports lastError_reports fun _ => does_ret rfl

theorem rawTcp_write_does (s : RawTcpSocket) (len : Nat) (i : Ptr) (w : Option Ptr) :
    Does i (heldBy s.connectionState s.fd w) (s.write ws len) fun r =>
      heldBy r.2.connectionState r.2.fd w := by
  unfold RawTcpSocket.write
  split
  · exact does_ret rfl
  · split
    · exact does_ret rfl
    · simp only [retry_eq, call_bind, ret_bind]
      refine does_leaves_call trivial ?_
      intro ret
      split
      · exact ioFailed_does s i w
      · exact does_ret rfl

theorem rawTcp_read_does (s : RawTcpSocket) (len : Nat) (i : Ptr) (w : Option Ptr) :
    Does i (heldBy s.connectionState s.fd w) (s.read ws len) fun r =>
      heldBy r.2.connectionState r.2.fd w := by
  unfold RawTcpSocket.read
  split
  · exact does_ret rfl
  · split
    · exact does_ret rfl
    · simp only [retry_eq, call_bind, ret_bind]
      refine does_leaves_call trivial ?_
      intro ret
      split
      · exact does_bind (closeSocket_does s i w) fun s' => does_ret rfl
      · split
        · exact ioFailed_does s i w
        · exact does_ret rfl

/-! ## `TcpSocket` -/

/-- What a `TcpSocket` holds, as `Object.holding` has it. -/
abbrev tcpHeld (s : TcpSocket) : Holding Ptr Fd :=
  heldBy s.socket.connectionState s.socket.fd (some s.processFunc)

theorem fromRawTcpSocket_does (this : Ptr) (info : SourceId) (raw : RawTcpSocket)
    (q : EventQueueImpl) :
    Does this (heldBy raw.connectionState raw.fd none)
      (TcpSocket.fromRawTcpSocket this info raw q) tcpHeld := by
  unfold TcpSocket.fromRawTcpSocket
  by_cases hc : raw.connectionState = .closed
  case pos =>
    rw [if_neg (not_not.mpr hc)]
    exact does_ret (by simp only [heldBy, hc, if_true])
  case neg =>
    rw [if_pos hc]
    simp only [heldBy, hc, if_false]
    have hreg : Does this (some (raw.fd, none))
        (TcpSocket.registerFd ⟨this, raw, info, 0⟩ q) fun _ => some (raw.fd, some this) := by
      unfold TcpSocket.registerFd
      split <;> exact registerFd_does q raw.fd _ this none
    exact does_bind hreg fun _ => does_ret (by simp only [heldBy, hc, if_false])

theorem tcp_connect_does (this : Ptr) (info : SourceId) (addr : SocketAddr)
    (q : EventQueueImpl) :
    Does this none (TcpSocket.connect host this info addr q) fun r => match r.1 with
      | .ok s => tcpHeld s
      | .error _ => none := by
  refine does_bind (createSocket_does addr false this) ?_
  rintro (err | fd)
  · exact does_ret rfl
  · simp only [retry_eq, call_bind, ret_bind]
    refine does_leaves_call trivial ?_
    intro r
    split
    · simp only [sys_eq, call_bind, ret_bind]
      refine does_leaves_call trivial ?_
      intro errno
      split
      · refine does_leaves_call trivial ?_
        intro _
        refine does_reports lastError_reports ?_
        intro err
        exact does_bind (rawTcp_drop_does ⟨fd, false, .created⟩ this none) fun _ => does_ret rfl
      · exact does_bind (fromRawTcpSocket_does this info ⟨fd, false, .connecting⟩ q)
          fun s => does_ret rfl
    · refine does_leaves_bind (setBlocking_leaves _ true) ?_
      intro raw h
      obtain ⟨hfd, hstate⟩ := h
      have hheld : heldBy raw.connectionState raw.fd none = some (fd, none) := by
        rw [hfd, hstate]
        rfl
      rw [← hheld]
      exact does_bind (fromRawTcpSocket_does this info raw q) fun s => does_ret rfl

theorem tcp_close_does (s : TcpSocket) (q : EventQueueImpl) (i : Ptr) :
    Does i (tcpHeld s) (s.close q) fun r => tcpHeld r.1 :=
  does_bind (closeSocket_does s.socket i (some s.processFunc)) fun _ => does_ret rfl

theorem tcp_write_does (s : TcpSocket) (len : Nat) (q : EventQueueImpl) (i : Ptr) :
    Does i (tcpHeld s) (s.write ws len q) fun r => tcpHeld r.2.1 := by
  refine does_bind (rawTcp_write_does s.socket len i (some s.processFunc)) ?_
  intro r
  obtain ⟨ret, raw⟩ := r
  simp only
  split <;> exact does_ret rfl

theorem tcp_read_does (s : TcpSocket) (len : Nat) (q : EventQueueImpl) (i : Ptr) :
    Does i (tcpHeld s) (s.read ws len q) fun r => tcpHeld r.2.1 := by
  unfold TcpSocket.read
  simp only
  split
  · exact does_ret rfl
  · refine does_bind (rawTcp_read_does s.socket len i (some s.processFunc)) ?_
    intro r
    obtain ⟨ret, raw⟩ := r
    cases ret with
    | ok n => exact does_ret rfl
    | error err =>
      simp only
      split <;> exact does_ret rfl

theorem tcp_onError_does (s : TcpSocket) (q : EventQueueImpl) (i : Ptr) :
    Does i (tcpHeld s) (s.onError q) fun r => tcpHeld r.1 := by
  simp only [TcpSocket.onError, sys_eq, call_bind, ret_bind]
  refine does_leaves_call trivial ?_
  intro r
  obtain ⟨ret, errno⟩ := r
  simp only
  split
  · refine does_reports (translateError_reports _ _) ?_
    intro err
    exact does_bind (closeSocket_does s.socket i (some s.processFunc)) fun _ => does_ret rfl
  · exact does_fail _

theorem readAvailableBytes_leaves (s : TcpSocket) :
    Leaves (fun r => tcpHeld r.2 = tcpHeld s) (s.readAvailableBytes ws) := by
  simp only [TcpSocket.readAvailableBytes, retry_eq, call_bind, ret_bind]
  refine within_call trivial ?_
  intro r
  obtain ⟨ret, bytes⟩ := r
  simp only
  split
  · exact within_bind (leaves_reports lastError_reports) fun _ _ => within_ret rfl
  · exact within_ret rfl

theorem tcp_onReadable_does (s : TcpSocket) (q : EventQueueImpl) (mask : UInt32) (i : Ptr) :
    Does i (tcpHeld s) (s.onReadable ws q mask) fun r => tcpHeld r.1 := by
  unfold TcpSocket.onReadable
  extract_lets tail
  have htail : ∀ s', tcpHeld s' = tcpHeld s →
      Does i (tcpHeld s) (tail s') fun r => tcpHeld r.1 := by
    intro s' hs'
    rw [← hs']
    simp only [tail]
    split
    · exact does_ret rfl
    · exact does_bind (closeSocket_does s'.socket i (some s'.processFunc)) fun _ => does_ret rfl
  split
  · exact does_leaves_bind (readAvailableBytes_leaves s) fun r hr => htail r.2 hr
  · exact htail { s with availableBytes := 0 } rfl

/-- A successful connect sets the watch again, with the same pointer. -/
theorem tcp_onWritable_does (s : TcpSocket) (q : EventQueueImpl)
    (hopen : s.socket.connectionState ≠ .closed) :
    Does s.processFunc (tcpHeld s) (s.onWritable q) fun r => tcpHeld r.1 := by
  unfold TcpSocket.onWritable
  simp -zeta only [sys_eq, call_bind, ret_bind]
  refine does_leaves_call trivial ?_
  intro r
  obtain ⟨ret, out⟩ := r
  extract_lets tail
  have htail : ∀ r, Does s.processFunc (tcpHeld s) (tail r) fun r => tcpHeld r.1 := by
    intro r
    obtain ⟨success, errno⟩ := r
    simp only [tail]
    split
    · refine does_reports (translateError_reports _ _) ?_
      intro err
      exact does_bind (closeSocket_does s.socket _ (some s.processFunc)) fun _ => does_ret rfl
    · refine does_leaves_bind (setBlocking_leaves _ true) ?_
      intro raw h
      obtain ⟨hfd, -⟩ := h
      simp only [tcpHeld, heldBy, hopen, if_false, hfd]
      refine does_bind (modifyFd_does q s.socket.fd EPOLLIN s.processFunc _) ?_
      intro _
      exact does_ret rfl
  split
  · exact htail _
  · exact does_leaves_call trivial fun e => htail (false, e)

theorem tcp_callback_does (s : TcpSocket) (q : EventQueueImpl) (mask : UInt32)
    (hopen : s.socket.connectionState ≠ .closed) :
    Does s.processFunc (tcpHeld s) (s.processEpollEvents ws q mask) fun r => tcpHeld r.1 := by
  unfold TcpSocket.processEpollEvents
  split
  · exact tcp_onError_does s q _
  · split
    · split
      · exact tcp_onReadable_does s q mask _
      · exact does_ret rfl
    · split
      · exact tcp_onWritable_does s q hopen
      · exact does_ret rfl

theorem tcp_drop_does (s : TcpSocket) (q : EventQueueImpl) (i : Ptr) :
    Does i (tcpHeld s) (s.drop q) fun _ => none :=
  does_bind (rawTcp_drop_does s.socket i (some s.processFunc)) fun _ => does_ret rfl

/-! ## Listening sockets -/

abbrev serverHeld (s : TcpServerSocket) : Holding Ptr Fd :=
  heldBy s.socket.connectionState s.socket.fd (some s.processFunc)

theorem server_closeSocket_does (s : RawTcpServerSocket) (i : Ptr) (w : Option Ptr) :
    Does i (heldBy s.connectionState s.fd w) s.closeSocket fun s' =>
      heldBy s'.connectionState s'.fd w := by
  unfold RawTcpServerSocket.closeSocket heldBy
  split
  · exact does_ret (by simp [*])
  · exact does_close fun _ => does_ret rfl

theorem rawServer_drop_does (s : RawTcpServerSocket) (i : Ptr) (w : Option Ptr) :
    Does i (heldBy s.connectionState s.fd w) s.drop fun _ => none := by
  unfold RawTcpServerSocket.drop RawTcpServerSocket.closeSocket heldBy
  split
  · exact does_ret rfl
  · exact does_close fun _ => does_ret rfl

theorem bindFailed_does (fd : Fd) (i : Ptr) :
    Does i (some (fd, none)) (RawTcpServerSocket.bindFailed ⟨fd, .connected⟩)
      fun result => match result with
        | .ok s => heldBy s.connectionState s.fd none
        | .error _ => none := by
  refine does_reports lastError_reports ?_
  intro err
  exact does_bind (rawServer_drop_does ⟨fd, .connected⟩ i none) fun _ => does_ret rfl

theorem rawServer_bind_does (addr : SocketAddr) (backlog : Int) (i : Ptr) :
    Does i none (RawTcpServerSocket.bind host addr backlog) fun result => match result with
      | .ok s => heldBy s.connectionState s.fd none
      | .error _ => none := by
  refine does_bind (createSocket_does addr true i) ?_
  rintro (err | fd)
  · exact does_ret rfl
  · simp only [sys_eq, call_bind, ret_bind]
    refine does_leaves_call trivial ?_
    intro opt
    split
    · exact bindFailed_does fd i
    · refine does_leaves_call trivial ?_
      intro b
      split
      · exact bindFailed_does fd i
      · refine does_leaves_call trivial ?_
        intro l
        split
        · exact bindFailed_does fd i
        · exact does_ret rfl

theorem fromRawServerSocket_does (this : Ptr) (info : SourceId) (raw : RawTcpServerSocket)
    (q : EventQueueImpl) :
    Does this (heldBy raw.connectionState raw.fd none)
      (TcpServerSocket.fromRawServerSocket this info raw q) serverHeld := by
  unfold TcpServerSocket.fromRawServerSocket
  by_cases hc : raw.connectionState = .closed
  case pos =>
    rw [if_neg (not_not.mpr hc)]
    exact does_ret (by simp only [heldBy, hc, if_true])
  case neg =>
    rw [if_pos hc]
    simp only [heldBy, hc, if_false]
    exact does_bind (registerFd_does q raw.fd EPOLLIN this none)
      fun _ => does_ret (by simp only [heldBy, hc, if_false])

theorem server_bind_does (this : Ptr) (info : SourceId) (addr : SocketAddr) (backlog : Int)
    (q : EventQueueImpl) :
    Does this none (TcpServerSocket.bind host this info addr backlog q)
      fun result => match result with
        | .ok s => serverHeld s
        | .error _ => none := by
  refine does_bind (rawServer_bind_does addr backlog this) ?_
  rintro (err | sock)
  · exact does_ret rfl
  · exact does_bind (fromRawServerSocket_does this info sock q) fun s => does_ret rfl

theorem server_close_does (s : TcpServerSocket) (q : EventQueueImpl) (i : Ptr) :
    Does i (serverHeld s) (s.close q) fun r => serverHeld r.1 :=
  does_bind (server_closeSocket_does s.socket i (some s.processFunc)) fun _ => does_ret rfl

theorem server_callback_does (s : TcpServerSocket) (q : EventQueueImpl) (mask : UInt32)
    (i : Ptr) :
    Does i (serverHeld s) (s.processEpollEvents q mask) fun r => serverHeld r.1 := by
  unfold TcpServerSocket.processEpollEvents
  split
  · simp only [sys_eq, call_bind, ret_bind]
    refine does_leaves_call trivial ?_
    intro r
    obtain ⟨ret, errno⟩ := r
    simp only
    split
    · refine does_reports (translateError_reports _ _) ?_
      intro err
      exact does_bind (server_closeSocket_does s.socket i (some s.processFunc))
        fun _ => does_ret rfl
    · exact does_fail _
  · split <;> exact does_ret rfl

theorem server_drop_does (s : TcpServerSocket) (q : EventQueueImpl) (i : Ptr) :
    Does i (serverHeld s) (s.drop q) fun _ => none :=
  does_bind (rawServer_drop_does s.socket i (some s.processFunc)) fun _ => does_ret rfl

theorem acceptFailed_does (s : RawTcpServerSocket) (i : Ptr) (w : Option Ptr) :
    Does i (heldBy s.connectionState s.fd w) s.acceptFailed fun r =>
      heldBy r.2.connectionState r.2.fd w := by
  simp only [RawTcpServerSocket.acceptFailed, sys_eq, call_bind, ret_bind]
  refine does_leaves_call trivial ?_
  intro errno
  split
  · refine does_bind (server_closeSocket_does s i w) ?_
    intro s'
    exact does_reports lastError_reports fun _ => does_ret rfl
  · exact does_reports lastError_reports fun _ => does_ret rfl

theorem acceptFailed_error (s : RawTcpServerSocket) :
    s.acceptFailed.Returns fun r => ∃ err, r.1 = .error err := by
  simp only [RawTcpServerSocket.acceptFailed, sys_eq, call_bind, ret_bind, returns_call]
  intro errno
  split
  · refine returns_next ?_
    intro s'
    exact returns_next fun err => ⟨err, rfl⟩
  · exact returns_next fun err => ⟨err, rfl⟩

/-- A call of `accept` on socket `s` by object `i`: it makes a descriptor
for `new` and leaves the socket alone, or it is an action of `i`. -/
inductive Accepts (i new : Ptr) (w : Option Ptr) (s : RawTcpServerSocket) (k : Kernel) :
    IoResult RawTcpSocket → RawTcpServerSocket → Kernel → Prop where
  | made {raw : RawTcpSocket} {k' : Kernel} :
      Acts new none k (heldBy raw.connectionState raw.fd none) k' →
      Accepts i new w s k (.ok raw) s k'
  | failed {err : IoError} {s' : RawTcpServerSocket} {k' : Kernel} :
      Acts i (heldBy s.connectionState s.fd w) k (heldBy s'.connectionState s'.fd w) k' →
      Accepts i new w s k (.error err) s' k'

theorem rawServer_accept_exec {s s' : RawTcpServerSocket} {result : IoResult RawTcpSocket}
    {i new : Ptr} {w : Option Ptr} {k k' : Kernel}
    (h : s.accept.Exec Kernel.allows k (.returned (result, s')) k') :
    Accepts i new w s k result s' k' := by
  unfold RawTcpServerSocket.accept at h
  split at h
  case isTrue =>
    obtain ⟨h, rfl⟩ := h
    cases h
    exact .failed .refl
  case isFalse =>
    simp only [retry_eq, call_bind, ret_bind, exec_call] at h
    obtain ⟨r, k₁, hr, h⟩ := h
    split at h
    case isTrue hr1 =>
      obtain ⟨-, rfl⟩ := hr.resolve_right fun hpos => absurd (hr1 ▸ hpos.1) (by decide)
      obtain ⟨err, herr⟩ := (acceptFailed_error s).exec h
      obtain rfl := herr
      exact .failed ((acceptFailed_does s i w).exec h)
    case isFalse hr1 =>
      obtain ⟨-, hfree, rfl⟩ := hr.resolve_left fun h => hr1 h.1
      obtain ⟨h, rfl⟩ := h
      cases h
      exact .made (.acquire .refl hfree)

theorem server_accept_exec {s s' : TcpServerSocket} {q q' : EventQueueImpl}
    {result : IoResult RawTcpSocket} {i new : Ptr} {k k' : Kernel}
    (h : (s.accept q).Exec Kernel.allows k (.returned (result, s', q')) k') :
    s'.processFunc = s.processFunc ∧
      Accepts i new (some s.processFunc) s.socket k result s'.socket k' := by
  unfold TcpServerSocket.accept at h
  simp only at h
  split at h
  · obtain ⟨h, rfl⟩ := h
    cases h
    exact ⟨rfl, .failed .refl⟩
  · rw [exec_bind] at h
    obtain ⟨⟨result₁, raw⟩, k₁, hraw, h⟩ := h
    have hacc := @rawServer_accept_exec _ _ _ i new (some s.processFunc) _ _ hraw
    cases hacc with
    | made ha =>
      obtain ⟨h, rfl⟩ := h
      cases h
      exact ⟨rfl, .made ha⟩
    | failed ha =>
      simp only at h
      split at h
      all_goals
        obtain ⟨h, rfl⟩ := h
        cases h
        exact ⟨rfl, .failed ha⟩

/-! ## Timers -/

abbrev timerHeld (t : Timer) : Holding Ptr Fd :=
  some (t.fd, if t.epollRegistered then some t.processFunc else none)

theorem timer_create_does (this : Ptr) (info : SourceId) :
    Does this none (Timer.create this info) fun result => match result with
      | .ok t => timerHeld t
      | .error _ => none := by
  simp only [Timer.create, sys_eq, call_bind, ret_bind]
  refine does_call ?_
  intro k r k' hr
  rcases handsOut_acts hr with ⟨rfl, ha⟩ | ⟨hr, ha⟩
  · exact ⟨_, ha, does_reports lastError_reports fun _ => does_ret rfl⟩
  · refine ⟨_, ha, ?_⟩
    rw [if_neg hr]
    exact does_ret rfl

theorem timer_start_does (t : Timer) (q : EventQueueImpl) :
    Does t.processFunc (timerHeld t) (t.start ws q) timerHeld := by
  unfold Timer.start
  split
  · exact does_ret rfl
  · simp only [sys_eq, call_bind, ret_bind]
    refine does_leaves_call trivial ?_
    intro ret
    split
    · exact does_reports lastError_reports fun _ => does_fail _
    · split
      · exact does_bind (registerFd_does q t.fd _ t.processFunc _) fun _ => does_ret rfl
      case isFalse hreg =>
        have hreg : t.epollRegistered = true := by simpa using hreg
        refine does_bind (modifyFd_does q t.fd _ t.processFunc _) fun _ => does_ret ?_
        simp only [timerHeld, hreg, if_true]

theorem timer_stop_does (t : Timer) (q : EventQueueImpl) (i : Ptr) :
    Does i (timerHeld t) (t.stop q) fun r => timerHeld r.1 := by
  unfold Timer.stop
  split
  · exact does_ret rfl
  · simp only [sys_eq, call_bind, ret_bind]
    refine does_leaves_call trivial ?_
    intro ret
    split
    · exact does_reports lastError_reports fun _ => does_fail _
    · exact does_bind (unregisterFd_does q t.fd i _) fun _ => does_ret rfl

/-- What an expiration leaves alone. -/
def SameTimer (t t' : Timer) : Prop :=
  timerHeld t' = timerHeld t ∧ t'.processFunc = t.processFunc

theorem onExpiration_same (t : Timer) (q : EventQueueImpl) (n : Nat) :
    SameTimer t (Timer.onExpiration^[n] (t, q)).1 := by
  rw [t.onExpiration_iterate q n]
  exact ⟨rfl, rfl⟩

theorem timer_callback_leaves (t : Timer) (q : EventQueueImpl) (mask : UInt32) :
    Leaves (fun r => SameTimer t r.1) (t.processEpollEvents q mask) := by
  unfold Timer.processEpollEvents
  split
  · simp only [retry_eq, call_bind, ret_bind]
    refine within_call trivial ?_
    intro r
    obtain ⟨ret, expirations⟩ := r
    simp only
    split
    · exact within_ret (onExpiration_same t q expirations)
    · exact within_ret ⟨rfl, rfl⟩
  · exact within_ret ⟨rfl, rfl⟩

theorem timer_callback_does (t : Timer) (q : EventQueueImpl) (mask : UInt32) (i : Ptr) :
    Does i (timerHeld t) (t.processEpollEvents q mask) fun r => timerHeld r.1 :=
  does_leaves ((timer_callback_leaves t q mask).mono (fun _ h => h) fun _ h => h.1)

theorem timer_start_processFunc (t : Timer) (q : EventQueueImpl) :
    (t.start ws q).Returns fun t' => t'.processFunc = t.processFunc := by
  unfold Timer.start
  split
  · rfl
  · simp only [sys_eq, call_bind, ret_bind, returns_call]
    intro ret
    split
    · exact returns_next fun _ => trivial
    · split
      all_goals
        exact returns_next fun _ => rfl

theorem timer_stop_processFunc (t : Timer) (q : EventQueueImpl) :
    (t.stop q).Returns fun r => r.1.processFunc = t.processFunc := by
  unfold Timer.stop
  split
  · rfl
  · simp only [sys_eq, call_bind, ret_bind, returns_call]
    intro ret
    split
    · exact returns_next fun _ => trivial
    · exact returns_next fun _ => rfl

/-- A timer with descriptor `0` keeps it. -/
theorem timer_drop_does (t : Timer) (q : EventQueueImpl) (i : Ptr) (hfd : t.fd ≠ 0) :
    Does i (timerHeld t) (t.drop q) fun _ => none := by
  unfold Timer.drop
  rw [if_pos hfd]
  exact does_close fun _ => does_ret rfl

/-! ## Channels -/

theorem channelCall_neutral {fd : Fd} (c : Call) (h : ChannelCall fd c) : Neutral c := by
  unfold ChannelCall at h
  split at h
  all_goals first | trivial | exact reports_neutral _ h

theorem channelMethod_leaves {d : SharedChannelData T} {m : Method T}
    {p : Io (SharedChannelData T)} (h : channelMethod ws d m = some p) :
    Leaves (fun d' => d'.epollFd = d.epollFd) p :=
  (channelMethod_calls h).mono channelCall_neutral fun _ h => h

theorem receiverMethod_leaves {r : Receiver} {d : SharedChannelData T} {q : EventQueueImpl}
    {m : Method T} {p : Io (Object T × EventQueueImpl)}
    (h : receiverMethod ws r d q m = some p) :
    Leaves (fun x => x.1.holding = (Object.receiver r d).holding) p :=
  (receiverMethod_calls h).mono channelCall_neutral fun _ h => h.holding

theorem readEventfd_leaves (d : SharedChannelData T) (mask : UInt32) :
    Leaves (fun _ => True) (Receiver.readEventfd d mask) :=
  (readEventfd_calls d mask).mono channelCall_neutral fun _ h => h

/-- With senders alive the new source makes an eventfd and has it watched;
without, it makes nothing. -/
theorem fromBlockingReceiver_does (this : Ptr) (info : SourceId) (d : SharedChannelData T)
    (q : EventQueueImpl) (hd : d.epollFd = -1) :
    Does this none (Receiver.fromBlockingReceiver this info d q)
      fun x => (Object.receiver x.1 x.2.1).holding := by
  simp only [Receiver.fromBlockingReceiver, sys_eq, retry_eq, call_bind, ret_bind]
  refine does_leaves_call trivial ?_
  intro _
  split
  case isFalse =>
    exact does_leaves_call trivial fun _ => does_ret (by simp [Object.holding, hd])
  case isTrue =>
    refine does_call ?_
    intro k fd k' hfd
    rcases handsOut_acts hfd with ⟨rfl, ha⟩ | ⟨hfd, ha⟩
    · exact ⟨_, ha, does_leaves_call trivial fun _ =>
        does_reports lastError_reports fun _ => does_fail _⟩
    · refine ⟨_, ha, ?_⟩
      rw [if_neg hfd]
      refine does_bind (registerFd_does q fd EPOLLIN this none) ?_
      intro _
      -- what is left makes the object and perhaps wakes it
      have hheld : ∀ d' : SharedChannelData T, d'.epollFd = fd →
          some (fd, some this) = (Object.receiver ⟨this, info, 0⟩ d').holding := by
        intro d' hd'
        simp only [Object.holding, hd']
        rw [if_neg hfd]
      split
      · refine does_leaves_call trivial ?_
        intro ret
        split
        · exact does_leaves_call trivial fun _ =>
            does_reports lastError_reports fun _ => does_fail _
        · exact does_leaves_call trivial fun _ => does_ret (hheld _ rfl)
      · exact does_leaves_call trivial fun _ => does_ret (hheld _ rfl)

theorem blockingReceiver_drop_leaves (d : SharedChannelData T) :
    Leaves (fun _ => True) (BlockingReceiver.drop Destructor.inert d) :=
  (blockingReceiver_drop_calls d d.epollFd).mono channelCall_neutral fun _ h => h

theorem receiver_drop_does (r : Receiver) (d : SharedChannelData T) (q : EventQueueImpl)
    (i : Ptr) : Does i (Object.receiver r d).holding (r.drop d q) fun _ => none := by
  unfold Receiver.drop
  simp -zeta only [sys_eq, call_bind, ret_bind]
  refine does_leaves_call trivial ?_
  intro _
  simp only [Object.holding]
  by_cases hfd : d.epollFd = -1
  · rw [if_pos hfd, if_neg (not_not.mpr hfd)]
    exact does_leaves_call trivial fun _ => does_ret rfl
  · rw [if_neg hfd, if_pos hfd]
    exact does_close fun _ => does_leaves_call trivial fun _ => does_ret rfl

end Revbio.Epoll
