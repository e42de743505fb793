/-
Revbio.Tcp.ErrorTheorems — which error a failed operation returns.

`errno` is one variable. A failing `send`, `recv`, `accept` or `connect`
leaves its error there, and `last_error` fetches it later: first as a
number, for kind and description, and once more as the text of the detail
(`os::last_os_error`). Every call in between that fails overwrites it.

`Outcomes` says for every call but the failing one whether it fails and
with what, `Outcomes.call` is the called side with its `errno`, and
`Attempt` ranges over the five operations. Two numbers decide: the `errno`
that `last_error` finds (`Attempt.errnoRead`) and the one the detail is made
from (`Outcomes.reported`). `errorFrom` is the error made of the two, and
`Attempt.run_fails` that every operation returns it. What they are depends
on how the calls in between turn out: `Attempt.between` are those made
before `last_error` (`close`, or the line printed by `connect`),
`Outcomes.written` those that `get_err` makes for a number it does not know,
and `Outcomes.leftBy` is what the last one that fails leaves.

`process_epoll_events` and the error path of `bind` build the error before
they close; the operations here close first, or print first.
-/
import Revbio.Linux.Tcp

namespace Revbio

open CallTree Prog

/-! ## `errno` -/

/-- `errno`, next to what the call of the operation left there when it
failed. -/
structure ErrnoState where
  errno : Int
  failed : Option Int
  deriving DecidableEq, Repr

/-- How everything turns out around one failing call. -/
structure Outcomes where
  /-- what the failing `send`, `recv`, `accept` or `connect` leaves in `errno` -/
  error : Int
  /-- another call: it succeeds and leaves `errno` alone, or fails with a number -/
  fails : Call → Option Int
  /-- what the other calls return -/
  answers : (c : Call) → c.Ret
  /-- the text of an error number (`strerror`) -/
  describe : Int → String

namespace Outcomes

def call (o : Outcomes) : (c : Call) → ErrnoState → c.Ret × ErrnoState
  | .once .errno, s => (s.errno, s)
  | .once .lastOsError, s => (o.describe s.errno, s)
  | .retry (.send _ _), _ => (-1, ⟨o.error, some o.error⟩)
  | .retry (.recv _ _), _ => (-1, ⟨o.error, some o.error⟩)
  | .retry (.accept _), _ => (-1, ⟨o.error, some o.error⟩)
  | .retry (.connect _ _ _), _ => (-1, ⟨o.error, some o.error⟩)
  | c, s => (o.answers c, { s with errno := (o.fails c).getD s.errno })

end Outcomes

/-! ## Translation -/

/-- The numbers that `get_err` knows. -/
def knownError (errno : Int) : Option (IoErrorKind × String) :=
  if errno = EOF then some (.endOfFile, "end of file")
  else if errno = ECONNREFUSED then some (.connectionRefused, "connection refused")
  else if errno = ECONNRESET then some (.connectionReset, "connection reset")
  else if errno = EPERM ∨ errno = EACCES then some (.permissionDenied, "permission denied")
  else if errno = EPIPE then some (.brokenPipe, "broken pipe")
  else if errno = ENOTCONN then some (.notConnected, "not connected")
  else if errno = ECONNABORTED then some (.connectionAborted, "connection aborted")
  else if errno = EADDRNOTAVAIL then some (.connectionRefused, "address not available")
  else if errno = EADDRINUSE then some (.connectionRefused, "address in use")
  else if errno = EAGAIN ∨ errno = EWOULDBLOCK then
    some (.resourceUnavailable, "resource temporarily unavailable")
  else none

/-- Kind and description that go with a number. -/
def errorClass (errno : Int) : IoErrorKind × String :=
  (knownError errno).getD (.otherIoError, "unknown error")

/-- The line that `get_err` prints for a number it does not know. -/
def unknownLine (errno : Int) : Call := .once (.println ("errno = " ++ toString errno))

/-- The line that `get_err` logs for it. -/
def ignoringLine (errno : Int) (text : String) : Call :=
  .once (.debug ("ignoring " ++ toString errno ++ ": " ++ text))

/-- The end of `get_err`, for what is known of the number. -/
def classified (errno : Int) : Option (IoErrorKind × String) → Io (IoErrorKind × String)
  | some known => .ret known
  | none =>
      .call (unknownLine errno) fun _ => .call (.once .lastOsError) fun text =>
        .call (ignoringLine errno text) fun _ => .ret (.otherIoError, "unknown error")

/-- One test of `get_err`. -/
theorem classified_ite {errno : Int} {c : Prop} [Decidable c] {known : IoErrorKind × String}
    {next : Io (IoErrorKind × String)} {others : Option (IoErrorKind × String)}
    (h : next = classified errno others) :
    (if c then .ret known else next) = classified errno (if c then some known else others) := by
  by_cases hc : c
  · rw [if_pos hc, if_pos hc]
    rfl
  · rw [if_neg hc, if_neg hc, h]

theorem getErr_eq (errno : Int) : getErr errno = classified errno (knownError errno) := by
  unfold getErr knownError
  repeat apply classified_ite
  rfl

namespace Outcomes

/-- The translation of an error number: what `translate_error` makes of it
while it is in `errno`. -/
def translation (o : Outcomes) (errno : Int) : IoError :=
  { kind := (errorClass errno).1, desc := (errorClass errno).2,
    detail := some (o.describe errno) }

/-- What the last of these calls that fails leaves in `errno`. -/
def leftBy (o : Outcomes) (calls : List Call) : Option Int := (calls.filterMap o.fails).getLast?

theorem leftBy_single (o : Outcomes) (c : Call) : o.leftBy [c] = o.fails c := by
  cases h : o.fails c <;> simp [leftBy, h]

theorem leftBy_append (o : Outcomes) (calls more : List Call) :
    o.leftBy (calls ++ more) = (o.leftBy more).or (o.leftBy calls) := by
  simp [leftBy]

/-- The lines that `get_err` writes when it finds `errno`. -/
def written (o : Outcomes) (errno : Int) : List Call :=
  match knownError errno with
  | some _ => []
  | none =>
      [unknownLine errno,
        ignoringLine errno (o.describe ((o.fails (unknownLine errno)).getD errno))]

/-- What is in `errno` once `get_err` has looked at it. -/
def reported (o : Outcomes) (errno : Int) : Int := (o.leftBy (o.written errno)).getD errno

/-- The error that `last_error` makes when it finds `errno`. -/
def errorFrom (o : Outcomes) (errno : Int) : IoError :=
  { kind := (errorClass errno).1, desc := (errorClass errno).2,
    detail := some (o.describe (o.reported errno)) }

theorem lastError_run (o : Outcomes) (s : ErrnoState) :
    lastError.run o.call s =
      (.returned (o.errorFrom s.errno), { s with errno := o.reported s.errno }) := by
  show (translateError s.errno true).run o.call s = _
  unfold translateError
  rw [getErr_eq]
  unfold errorFrom reported written errorClass
  cases knownError s.errno with
  | some known => rfl
  | none =>
    rw [← List.singleton_append, leftBy_append, leftBy_single, leftBy_single, Option.getD_or]
    rfl

theorem errorFrom_eq_iff (o : Outcomes) (n e : Int) :
    o.errorFrom n = o.translation e ↔
      errorClass n = errorClass e ∧ o.describe (o.reported n) = o.describe e := by
  simp only [errorFrom, translation, IoError.mk.injEq, Option.some.injEq, Prod.ext_iff,
    and_assoc]

theorem leftBy_of_quiet {o : Outcomes} (h : ∀ c, o.fails c = none) (calls : List Call) :
    o.leftBy calls = none := by
  simp [leftBy, funext h]

/-- When its lines get through, `last_error` translates the number it
found. -/
theorem errorFrom_of_quiet {o : Outcomes} (h : ∀ c, o.fails c = none) (n : Int) :
    o.errorFrom n = o.translation n := by
  have kept : o.reported n = n := by
    rw [reported, leftBy_of_quiet h, Option.getD_none]
  rw [errorFrom_eq_iff, kept]
  exact ⟨rfl, rfl⟩

end Outcomes

/-! ## Closing on an error -/

/-- The errors that end a connection. -/
def Closes (errno : Int) : Prop := errno ≠ EWOULDBLOCK ∧ errno ≠ EAGAIN

instance (errno : Int) : Decidable (Closes errno) :=
  inferInstanceAs (Decidable (_ ∧ _))

/-- What is in `errno` once the socket has been closed, or left open. -/
def Outcomes.afterClose (o : Outcomes) (fd : Fd) : Int :=
  if Closes o.error then (o.fails (.once (.close fd))).getD o.error else o.error

/-- The common tail of `write`, `read` and `accept`: the socket is closed,
unless its descriptor would only have blocked, and then the error is made. -/
theorem closeOnError_run (o : Outcomes) {σ α : Type} {s closed : σ} {closeSocket : Io σ} {fd : Fd}
    (hclose : ∀ st, closeSocket.run o.call st =
      (.returned closed, { st with errno := (o.fails (.once (.close fd))).getD st.errno }))
    (failed : Option Int) :
    Prog.run o.call (do
        let errno : Int ← sys .errno
        if errno ≠ EWOULDBLOCK ∧ errno ≠ EAGAIN then
          let s ← closeSocket
          return ((.error (← lastError) : IoResult α), s)
        else
          return (.error (← lastError), s)) ⟨o.error, failed⟩ =
      (.returned (.error (o.errorFrom (o.afterClose fd)),
        if Closes o.error then closed else s), ⟨o.reported (o.afterClose fd), failed⟩) := by
  simp only [sys_eq, call_bind, ret_bind, run_call]
  show Prog.run o.call (if Closes o.error then _ else _) ⟨o.error, failed⟩ = _
  by_cases hc : Closes o.error
  · simp only [if_pos hc, run_bind, hclose, Outcomes.lastError_run, Outcomes.afterClose,
      pure_eq, run_ret]
  · simp only [if_neg hc, run_bind, Outcomes.lastError_run, Outcomes.afterClose, pure_eq,
      run_ret]

namespace RawTcpSocket

theorem closeSocket_run (o : Outcomes) {s : RawTcpSocket} (hs : s.connectionState ≠ .closed)
    (st : ErrnoState) :
    s.closeSocket.run o.call st =
      (.returned { s with connectionState := .closed },
        { st with errno := (o.fails (.once (.close s.fd))).getD st.errno }) := by
  unfold closeSocket
  rw [if_neg hs]
  rfl

/-- The socket after a failed call. -/
def afterError (o : Outcomes) (s : RawTcpSocket) : RawTcpSocket :=
  if Closes o.error then { s with connectionState := .closed } else s

theorem afterError_closed {o : Outcomes} {s : RawTcpSocket}
    (hs : s.connectionState = .connected) :
    (s.afterError o).connectionState = .closed ↔ Closes o.error := by
  unfold afterError
  by_cases hc : Closes o.error
  · simp [hc]
  · simp [hc, hs]

theorem write_run (o : Outcomes) (ws : WordSize) {s : RawTcpSocket} {len : Nat}
    (hs : s.connectionState = .connected) (hlen : len ≠ 0) (st : ErrnoState) :
    (s.write ws len).run o.call st =
      (.returned (.error (o.errorFrom (o.afterClose s.fd)), s.afterError o),
        ⟨o.reported (o.afterClose s.fd), some o.error⟩) := by
  unfold write
  rw [if_neg (not_not_intro hs), if_neg hlen]
  exact closeOnError_run o (closeSocket_run o (by simp [hs])) (some o.error)

theorem read_run (o : Outcomes) (ws : WordSize) {s : RawTcpSocket} {len : Nat}
    (hs : s.connectionState = .connected) (hlen : len ≠ 0) (st : ErrnoState) :
    (s.read ws len).run o.call st =
      (.returned (.error (o.errorFrom (o.afterClose s.fd)), s.afterError o),
        ⟨o.reported (o.afterClose s.fd), some o.error⟩) := by
  unfold read
  rw [if_neg (not_not_intro hs), if_neg hlen]
  exact closeOnError_run o (closeSocket_run o (by simp [hs])) (some o.error)

end RawTcpSocket

namespace RawTcpServerSocket

theorem closeSocket_run (o : Outcomes) {s : RawTcpServerSocket}
    (hs : s.connectionState ≠ .closed) (st : ErrnoState) :
    s.closeSocket.run o.call st =
      (.returned { s with connectionState := .closed },
        { st with errno := (o.fails (.once (.close s.fd))).getD st.errno }) := by
  unfold closeSocket
  rw [if_neg hs]
  rfl

def afterError (o : Outcomes) (s : RawTcpServerSocket) : RawTcpServerSocket :=
  if Closes o.error then { s with connectionState := .closed } else s

theorem afterError_closed {o : Outcomes} {s : RawTcpServerSocket}
    (hs : s.connectionState = .connected) :
    (s.afterError o).connectionState = .closed ↔ Closes o.error := by
  unfold afterError
  by_cases hc : Closes o.error
  · simp [hc]
  · simp [hc, hs]

theorem accept_run (o : Outcomes) {s : RawTcpServerSocket}
    (hs : s.connectionState = .connected) (st : ErrnoState) :
    s.accept.run o.call st =
      (.returned (.error (o.errorFrom (o.afterClose s.fd)), s.afterError o),
        ⟨o.reported (o.afterClose s.fd), some o.error⟩) := by
  unfold accept
  rw [if_neg (not_not_intro hs)]
  exact closeOnError_run o (closeSocket_run o (by simp [hs])) (some o.error)

end RawTcpServerSocket

/-! ## Connecting -/

/-- What `socket` answers in `create_socket`. -/
def Outcomes.socketFd (o : Outcomes) (addr : SocketAddr) (blocking : Bool) : Fd :=
  let fam := match addr.ip with
    | .ipv4Addr .. => AF_INET
    | .ipv6Addr .. => AF_INET6
  let ty := SOCK_STREAM ||| SOCK_CLOEXEC
  let ty := if !blocking then ty ||| SOCK_NONBLOCK else ty
  o.answers (.once (.socket fam ty))

theorem createSocket_run (o : Outcomes) (addr : SocketAddr) (blocking : Bool)
    (st : ErrnoState) : ∃ errno err,
      (createSocket addr blocking).run o.call st =
        (.returned (if o.socketFd addr blocking = -1 then .error err
          else .ok (o.socketFd addr blocking)), { st with errno }) := by
  let st₁ : ErrnoState := (o.call (.once (.socket
    (match addr.ip with
      | .ipv4Addr .. => AF_INET
      | .ipv6Addr .. => AF_INET6)
    (if !blocking then SOCK_STREAM ||| SOCK_CLOEXEC ||| SOCK_NONBLOCK
      else SOCK_STREAM ||| SOCK_CLOEXEC))) st).2
  show ∃ errno err, Prog.run o.call (if o.socketFd addr blocking = -1 then _ else _) st₁ = _
  by_cases h : o.socketFd addr blocking = -1
  · rw [if_pos h]
    refine ⟨o.reported st₁.errno, o.errorFrom st₁.errno, ?_⟩
    rw [run_bind, Outcomes.lastError_run, if_pos h]
    rfl
  · rw [if_neg h]
    refine ⟨st₁.errno, o.errorFrom st₁.errno, ?_⟩
    rw [if_neg h]
    rfl

theorem RawTcpSocket.drop_run (o : Outcomes) {s : RawTcpSocket}
    (hs : s.connectionState ≠ .closed) (st : ErrnoState) : ∃ errno,
      s.drop.run o.call st = (.returned (), { st with errno }) := by
  refine ⟨(o.fails (.once (.close s.fd))).getD st.errno, ?_⟩
  unfold drop
  rw [run_bind, closeSocket_run o hs]
  rfl

/-- Here nothing comes between the failure and `last_error`. -/
theorem RawTcpSocket.connect_run (o : Outcomes) (host : Endian) {addr : SocketAddr}
    (h : o.socketFd addr true ≠ -1) (st : ErrnoState) : ∃ errno,
      (RawTcpSocket.connect host addr).run o.call st =
        (.returned (.error (o.errorFrom o.error)), ⟨errno, some o.error⟩) := by
  obtain ⟨errno₁, err, made⟩ := createSocket_run o addr true st
  rw [if_neg h] at made
  have opened : (fromFd (o.socketFd addr true)).connectionState ≠ .closed := by simp [fromFd]
  obtain ⟨errno₂, dropped⟩ := drop_run o opened ⟨o.reported o.error, some o.error⟩
  refine ⟨errno₂, ?_⟩
  unfold RawTcpSocket.connect
  rw [run_bind, made]
  show Prog.run o.call (lastError >>= fun err => _ >>= fun _ => Prog.ret _)
    ⟨o.error, some o.error⟩ = _
  rw [run_bind, Outcomes.lastError_run]
  show Prog.run o.call (drop _ >>= fun _ => _) ⟨o.reported o.error, some o.error⟩ = _
  rw [run_bind, dropped]
  rfl

/-- What is in `errno` once `TcpSocket::connect` has printed its line. -/
def Outcomes.afterLine (o : Outcomes) : Int :=
  (o.fails (.once (.println "Failed on connect"))).getD o.error

namespace TcpSocket

theorem connect_run (o : Outcomes) (host : Endian) (this : Ptr) (info : SourceId)
    {addr : SocketAddr} (q : EventQueueImpl) (h : o.socketFd addr false ≠ -1)
    (he : o.error ≠ EINPROGRESS) (st : ErrnoState) : ∃ errno,
      (connect host this info addr q).run o.call st =
        (.returned (.error (o.errorFrom o.afterLine), q), ⟨errno, some o.error⟩) := by
  obtain ⟨errno₁, err, made⟩ := createSocket_run o addr false st
  rw [if_neg h] at made
  let raw : RawTcpSocket :=
    { fd := o.socketFd addr false, blocking := false, connectionState := .created }
  have opened : raw.connectionState ≠ .closed := by simp [raw]
  obtain ⟨errno₂, dropped⟩ :=
    RawTcpSocket.drop_run o opened ⟨o.reported o.afterLine, some o.error⟩
  refine ⟨errno₂, ?_⟩
  unfold connect
  rw [run_bind, made]
  show Prog.run o.call (if o.error ≠ EINPROGRESS then _ else _) ⟨o.error, some o.error⟩ = _
  rw [if_pos he]
  show Prog.run o.call (lastError >>= fun err => raw.drop >>= fun _ =>
    Prog.ret (Except.error err, q)) ⟨o.afterLine, some o.error⟩ = _
  rw [run_bind, Outcomes.lastError_run]
  show Prog.run o.call (raw.drop >>= fun _ => _) ⟨o.reported o.afterLine, some o.error⟩ = _
  rw [run_bind, dropped]
  rfl

/-- `EINPROGRESS` is not a failure: no error is returned. -/
theorem connect_inProgress (o : Outcomes) (host : Endian) (this : Ptr) (info : SourceId)
    {addr : SocketAddr} (q : EventQueueImpl) (h : o.socketFd addr false ≠ -1)
    (he : o.error = EINPROGRESS) {st s' : ErrnoState}
    {res : IoResult TcpSocket × EventQueueImpl}
    (hx : (connect host this info addr q).run o.call st = (.returned res, s')) :
    ∃ socket, res.1 = .ok socket := by
  obtain ⟨errno₁, err, made⟩ := createSocket_run o addr false st
  rw [if_neg h] at made
  unfold connect at hx
  rw [run_bind, made] at hx
  have hx' : Prog.run o.call (if o.error ≠ EINPROGRESS then _ else _) ⟨o.error, some o.error⟩ =
    (.returned res, s') := hx
  rw [if_neg (not_not_intro he)] at hx'
  have ok : ∀ socket : TcpSocket,
      (Prog.ret (.ok socket, q) : Io (IoResult TcpSocket × EventQueueImpl)).Returns
        fun res => ∃ socket, res.1 = .ok socket := fun socket => ⟨socket, rfl⟩
  exact Returns.run (returns_next ok) hx'

end TcpSocket

/-! ## The five operations -/

inductive Attempt where
  | write (ws : WordSize) (s : RawTcpSocket) (len : Nat)
  | read (ws : WordSize) (s : RawTcpSocket) (len : Nat)
  | accept (s : RawTcpServerSocket)
  | rawConnect (host : Endian) (addr : SocketAddr)
  | connect (host : Endian) (this : Ptr) (info : SourceId) (addr : SocketAddr)
      (q : EventQueueImpl)

def errorOf {α : Type} : IoResult α → Option IoError
  | .ok _ => none
  | .error err => some err

namespace Attempt

/-- The operation, with what there is to see at its end: the error it
returns, and the state of the socket it was called on. -/
def io : Attempt → Io (Option IoError × Option ConnectionState)
  | write ws s len => do
      let (res, s) ← s.write ws len
      return (errorOf res, some s.connectionState)
  | read ws s len => do
      let (res, s) ← s.read ws len
      return (errorOf res, some s.connectionState)
  | accept s => do
      let (res, s) ← s.accept
      return (errorOf res, some s.connectionState)
  | rawConnect host addr => do
      let res ← RawTcpSocket.connect host addr
      return (errorOf res, none)
  | connect host this info addr q => do
      let (res, _) ← TcpSocket.connect host this info addr q
      return (errorOf res, none)

/-- `connect` on a socket that does not block is not over yet. -/
def InProgress (errno : Int) : Attempt → Prop
  | connect .. => errno = EINPROGRESS
  | _ => False

/-- The operation gets to its call, and so fails. -/
def Fails (o : Outcomes) : Attempt → Prop
  | write _ s len => s.connectionState = .connected ∧ len ≠ 0
  | read _ s len => s.connectionState = .connected ∧ len ≠ 0
  | accept s => s.connectionState = .connected
  | rawConnect _ addr => o.socketFd addr true ≠ -1
  | connect _ _ _ addr _ => o.socketFd addr false ≠ -1 ∧ o.error ≠ EINPROGRESS

/-- The `errno` that `last_error` finds. -/
def errnoRead (o : Outcomes) : Attempt → Int
  | write _ s _ => o.afterClose s.fd
  | read _ s _ => o.afterClose s.fd
  | accept s => o.afterClose s.fd
  | rawConnect _ _ => o.error
  | connect .. => o.afterLine

/-- The calls made between the failing one and `last_error`. -/
def between (o : Outcomes) : Attempt → List Call
  | write _ s _ => if Closes o.error then [.once (.close s.fd)] else []
  | read _ s _ => if Closes o.error then [.once (.close s.fd)] else []
  | accept s => if Closes o.error then [.once (.close s.fd)] else []
  | rawConnect _ _ => []
  | connect .. => [.once (.println "Failed on connect")]

theorem errnoRead_eq (o : Outcomes) (a : Attempt) :
    a.errnoRead o = (o.leftBy (a.between o)).getD o.error := by
  have closing : ∀ fd, o.afterClose fd =
      (o.leftBy (if Closes o.error then [.once (.close fd)] else [])).getD o.error := by
    intro fd
    unfold Outcomes.afterClose
    split
    · rw [Outcomes.leftBy_single]
    · rfl
  cases a with
  | write ws s len => exact closing s.fd
  | read ws s len => exact closing s.fd
  | accept s => exact closing s.fd
  | rawConnect host addr => rfl
  | connect host this info addr q =>
    show o.afterLine = _
    rw [between, Outcomes.leftBy_single]
    rfl

/-- The operation, started with some value in `errno`. -/
def runs (a : Attempt) (o : Outcomes) (before : Int) :
    Exit (Option IoError × Option ConnectionState) × ErrnoState :=
  a.io.run o.call ⟨before, none⟩

/-- Only the one call is recorded as a failure. -/
theorem failed_eq (o : Outcomes) (before : Int) (a : Attempt) {e : Int}
    (h : (a.runs o before).2.failed = some e) : e = o.error := by
  have step : ∀ (c : Call) (s : ErrnoState), (∀ n, s.failed = some n → n = o.error) →
      ∀ n, (o.call c s).2.failed = some n → n = o.error := by
    intro c s hs n hn
    unfold Outcomes.call at hn
    split at hn
    all_goals first | exact hs n hn | exact (Option.some.inj hn).symm
  exact run_invariant (I := fun s : ErrnoState => ∀ n, s.failed = some n → n = o.error) step a.io
    (by simp) e h

/-- For an operation whose socket stays in the hands of the caller. -/
theorem runs_of_failed {o : Outcomes} {σ α : Type} {p : Io (IoResult α × σ)}
    {state : σ → ConnectionState} {before n errno : Int} {s : σ}
    (run : p.run o.call ⟨before, none⟩ =
      (.returned (.error (o.errorFrom n), s), ⟨errno, some o.error⟩))
    (closed : state s = .closed ↔ Closes o.error) :
    ∃ st errno, Prog.run o.call (do
          let (res, s) ← p
          return (errorOf res, some (state s))) ⟨before, none⟩ =
        (.returned (some (o.errorFrom n), st), ⟨errno, some o.error⟩) ∧
      ∀ c, st = some c → (c = .closed ↔ Closes o.error) := by
  refine ⟨some (state s), errno, ?_, ?_⟩
  · rw [run_bind, run]
    rfl
  · intro c hc
    cases hc
    exact closed

/-- An operation that fails returns the error made from what `last_error`
finds, and its socket is closed as the number of the failure says. -/
theorem run_fails (o : Outcomes) (before : Int) {a : Attempt} (h : a.Fails o) :
    ∃ state errno, a.runs o before =
        (.returned (some (o.errorFrom (a.errnoRead o)), state), ⟨errno, some o.error⟩) ∧
      ∀ c, state = some c → (c = .closed ↔ Closes o.error) := by
  cases a with
  | write ws s len =>
    exact runs_of_failed (RawTcpSocket.write_run o ws h.1 h.2 _)
      (RawTcpSocket.afterError_closed h.1)
  | read ws s len =>
    exact runs_of_failed (RawTcpSocket.read_run o ws h.1 h.2 _)
      (RawTcpSocket.afterError_closed h.1)
  | accept s =>
    exact runs_of_failed (RawTcpServerSocket.accept_run o h _)
      (RawTcpServerSocket.afterError_closed h)
  | rawConnect host addr =>
    obtain ⟨errno, run⟩ := RawTcpSocket.connect_run o host h ⟨before, none⟩
    refine ⟨none, errno, ?_, by simp⟩
    unfold runs io
    rw [run_bind, run]
    rfl
  | connect host this info addr q =>
    obtain ⟨errno, run⟩ := TcpSocket.connect_run o host this info q h.1 h.2 ⟨before, none⟩
    refine ⟨none, errno, ?_, by simp⟩
    unfold runs io
    rw [run_bind, run]
    rfl

/-- A `connect` that goes on has no error to return. -/
theorem connect_errs_not {o : Outcomes} (host : Endian) (this : Ptr) (info : SourceId)
    {addr : SocketAddr} (q : EventQueueImpl) (before : Int) (h : o.socketFd addr false ≠ -1)
    (he : o.error = EINPROGRESS) {res : Option IoError × Option ConnectionState}
    (hres : ((connect host this info addr q).runs o before).1 = .returned res) :
    res = (none, none) := by
  unfold runs io at hres
  rw [run_bind] at hres
  cases hx : (TcpSocket.connect host this info addr q).run o.call ⟨before, none⟩ with
  | mk exit s' =>
    rw [hx] at hres
    cases exit with
    | failed msg => cases hres
    | returned made =>
      obtain ⟨socket, hok⟩ := TcpSocket.connect_inProgress o host this info q h he hx
      cases hres
      simp [hok, errorOf]

/-- Otherwise no call fails, unless it is a `connect` that goes on. -/
theorem run_goes_on (o : Outcomes) (before : Int) {a : Attempt} (h : ¬ a.Fails o) :
    (a.runs o before).2.failed = none ∨
      a.InProgress o.error ∧
        ∀ res, (a.runs o before).1 = .returned res → res = (none, none) := by
  cases a with
  | write ws s len =>
    left
    by_cases hs : s.connectionState = .connected
    · have hlen : len = 0 := Decidable.of_not_not fun hlen => h ⟨hs, hlen⟩
      simp [runs, io, RawTcpSocket.write, hs, hlen]
    · simp [runs, io, RawTcpSocket.write, hs]
  | read ws s len =>
    left
    by_cases hs : s.connectionState = .connected
    · have hlen : len = 0 := Decidable.of_not_not fun hlen => h ⟨hs, hlen⟩
      simp [runs, io, RawTcpSocket.read, hs, hlen]
    · simp [runs, io, RawTcpSocket.read, hs]
  | accept s =>
    left
    have hs : s.connectionState ≠ .connected := h
    simp [runs, io, RawTcpServerSocket.accept, hs]
  | rawConnect host addr =>
    left
    have refused : o.socketFd addr true = -1 := Decidable.of_not_not h
    obtain ⟨errno, err, made⟩ := createSocket_run o addr true ⟨before, none⟩
    rw [if_pos refused] at made
    unfold runs io RawTcpSocket.connect
    rw [run_bind, run_bind, made]
    rfl
  | connect host this info addr q =>
    by_cases refused : o.socketFd addr false = -1
    · left
      obtain ⟨errno, err, made⟩ := createSocket_run o addr false ⟨before, none⟩
      rw [if_pos refused] at made
      unfold runs io TcpSocket.connect
      rw [run_bind, run_bind, made]
      rfl
    · right
      have he : o.error = EINPROGRESS := Decidable.of_not_not fun he => h ⟨refused, he⟩
      exact ⟨he, fun _ hres => connect_errs_not host this info q before refused he hres⟩

/-- **The error that happened** is the error that is returned, and it
decides whether the socket is closed. -/
structure Faithful (a : Attempt) (o : Outcomes) (before : Int) : Prop where
  error : ∀ e, (a.runs o before).2.failed = some e →
    ∀ err state, (a.runs o before).1 = .returned (some err, state) → err = o.translation e
  returned : ∀ e, (a.runs o before).2.failed = some e →
    a.InProgress e ∨ ∃ err state, (a.runs o before).1 = .returned (some err, state)
  closed : ∀ e, (a.runs o before).2.failed = some e →
    ∀ res c, (a.runs o before).1 = .returned (res, some c) → (c = .closed ↔ Closes e)

theorem faithful_of_fails {o : Outcomes} {before : Int} {a : Attempt} (h : a.Fails o) :
    a.Faithful o before ↔ o.errorFrom (a.errnoRead o) = o.translation o.error := by
  obtain ⟨state, errno, run, closed⟩ := run_fails o before h
  constructor
  · intro faithful
    exact faithful.error o.error (by rw [run]) _ state (by rw [run])
  · intro same
    constructor
    · intro e he err st hst
      rw [run] at hst
      cases hst
      rw [same, failed_eq o before a he]
    · intro e _
      right
      exact ⟨_, state, by rw [run]⟩
    · intro e he res c hc
      rw [run] at hc
      cases hc
      rw [failed_eq o before a he]
      exact closed c rfl

theorem faithful_of_goes_on {o : Outcomes} {before : Int} {a : Attempt} (h : ¬ a.Fails o) :
    a.Faithful o before := by
  obtain silent | ⟨inProgress, ok⟩ := run_goes_on o before h
  · constructor
    · intro e he
      simp [silent] at he
    · intro e he
      simp [silent] at he
    · intro e he
      simp [silent] at he
  · constructor
    · intro e _ err state hend
      cases ok _ hend
    · intro e he
      left
      rwa [failed_eq o before a he]
    · intro e _ res c hend
      cases ok _ hend

/-- While nothing else fails, every operation does it right. -/
theorem faithful_of_quiet {o : Outcomes} (h : ∀ c, o.fails c = none) (before : Int)
    (a : Attempt) : a.Faithful o before := by
  by_cases hf : a.Fails o
  · rw [faithful_of_fails hf, errnoRead_eq, Outcomes.leftBy_of_quiet h, Option.getD_none]
    exact Outcomes.errorFrom_of_quiet h _
  · exact faithful_of_goes_on hf

/-- Either nothing has replaced the number, or the one that has looks the
same. -/
theorem getD_same {α : Type} (f : Int → α) (left : Option Int) (e : Int) :
    f (left.getD e) = f e ↔ ∀ x, left = some x → f x = f e := by
  cases left with
  | none => simp
  | some x => simp

/-- **Which error.** An operation that fails returns the error that happened
exactly when

* the call made before `last_error` (`close` in `write`, `read` and
  `accept`, the printed line in `TcpSocket::connect`) succeeds, or leaves a
  number of the same kind and description;
* of this call and the two lines that `get_err` writes for a number it does
  not know, the last one that fails leaves a number with the same text, or
  none fails. -/
theorem faithful_iff (o : Outcomes) (before : Int) (a : Attempt) :
    a.Faithful o before ↔
      (a.Fails o →
        (∀ x, o.leftBy (a.between o) = some x → errorClass x = errorClass o.error) ∧
        ∀ y, o.leftBy (a.between o ++
            o.written ((o.leftBy (a.between o)).getD o.error)) = some y →
          o.describe y = o.describe o.error) := by
  by_cases h : a.Fails o
  · rw [faithful_of_fails h, Outcomes.errorFrom_eq_iff, Outcomes.reported, errnoRead_eq,
      ← Option.getD_or, ← Outcomes.leftBy_append, getD_same, getD_same]
    constructor
    · intro same _
      exact same
    · intro same
      exact same h
  · constructor
    · intro _ fails
      exact absurd fails h
    · intro _
      exact faithful_of_goes_on h

/-- `send` fails with `EPIPE`, and the `close` of descriptor 5 with `EINTR`. -/
def brokenPipe : Outcomes where
  error := EPIPE
  fails c := if c = .once (.close 5) then some 4 else none
  answers
    | .once _ => default
    | .retry _ => default
  describe errno :=
    if errno = EPIPE then "Broken pipe"
    else if errno = 4 then "Interrupted system call"
    else "Unknown error"

/-- The caller is told of an interrupted call, and of no broken pipe. -/
theorem write_hides_brokenPipe :
    ((write .w64 ⟨5, true, .connected⟩ 10).runs brokenPipe 0).1 =
        .returned (some ⟨.otherIoError, "unknown error", some "Interrupted system call"⟩,
          some .closed) ∧
      ¬ (write .w64 ⟨5, true, .connected⟩ 10).Faithful brokenPipe 0 := by
  constructor
  · decide
  · intro faithful
    have told := faithful.error EPIPE (by decide)
      ⟨.otherIoError, "unknown error", some "Interrupted system call"⟩ (some .closed) (by decide)
    exact absurd told (by decide)

end Attempt

end Revbio
