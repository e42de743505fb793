/-
Revbio.Sockets.AccountTheorems — what every operation of a socket does to
the account of its descriptor.

The calls of a slot are summed up in an account (`Descriptor`), which any
misuse spoils for good. Every constructor, method, callback and destructor
keeps the account in step with the `connection_state` of the socket: an
open socket has an open descriptor, a closed one has closed it.
-/
import Revbio.Sockets.System

namespace Revbio.Sockets

open CallTree Prog Epoll Function

variable {T α β : Type} {ws : WordSize} {host : Endian}

/-! ## The account -/

/-- What has become of the descriptor of a slot. -/
inductive Descriptor where
  | none
  | opened (fd : Fd)
  | closed (fd : Fd)
  /-- a second one, or a call on one that is not open -/
  | misused
  deriving DecidableEq, Repr

def Descriptor.note : Descriptor → (c : Call) → c.Ret → Descriptor
  | .none, c, r =>
      match socketFd c r with
      | some fd => .opened fd
      | Option.none => if issuedOn c = Option.none then .none else .misused
  | .opened fd, c, r =>
      if (socketFd c r).isSome then .misused
      else if closes fd c then .closed fd
      else if issuedOn c = Option.none ∨ issuedOn c = some fd then .opened fd
      else .misused
  | .closed fd, c, r =>
      if (socketFd c r).isNone ∧ issuedOn c = Option.none then .closed fd else .misused
  | .misused, _, _ => .misused

/-- Before the first call: what `accept(2)` has given. -/
def Descriptor.begin : List Fd → Descriptor
  | [] => .none
  | [fd] => .opened fd
  | _ => .misused

def Descriptor.Gone (m : Descriptor) : Prop := m = .none ∨ ∃ fd, m = .closed fd

theorem closes_issuedOn {fd : Fd} {c : Call} (h : closes fd c = true) :
    issuedOn c = some fd := by
  unfold closes at h
  split at h
  · simpa [issuedOn, fdOf] using h
  · simpa [issuedOn, fdOf] using h
  · cases h

@[simp] theorem account_misused (tr : Trace) :
    account Descriptor.note .misused tr = .misused := by
  induction tr with
  | nil => rfl
  | cons c tr ih => exact ih

/-- After the close. -/
theorem account_closed {fd : Fd} {tr : Trace}
    (h : account Descriptor.note (.closed fd) tr ≠ .misused) :
    account Descriptor.note (.closed fd) tr = .closed fd ∧
      ∀ c ∈ tr, socketFd c.1 c.2 = none ∧ issuedOn c.1 = none := by
  induction tr with
  | nil => simp
  | cons c tr ih =>
    rw [account_cons] at h ⊢
    by_cases hc : (socketFd c.1 c.2).isNone ∧ issuedOn c.1 = none
    · rw [Descriptor.note, if_pos hc] at h ⊢
      obtain ⟨hend, hall⟩ := ih h
      refine ⟨hend, List.forall_mem_cons.mpr ⟨?_, hall⟩⟩
      exact ⟨Option.isNone_iff_eq_none.mp hc.1, hc.2⟩
    · rw [Descriptor.note, if_neg hc, account_misused] at h
      exact absurd rfl h

theorem madeBy_cons_none {c : Answered Call.Ret} {tr : Trace} (h : socketFd c.1 c.2 = none) :
    madeBy (c :: tr) = madeBy tr := List.filterMap_cons_none h

theorem madeBy_cons_some {c : Answered Call.Ret} {tr : Trace} {fd : Fd}
    (h : socketFd c.1 c.2 = some fd) : madeBy (c :: tr) = fd :: madeBy tr :=
  List.filterMap_cons_some h

theorem closings_cons_pos {fd : Fd} {c : Answered Call.Ret} {tr : Trace}
    (h : closes fd c.1 = true) : closings fd (c :: tr) = closings fd tr + 1 :=
  List.countP_cons_of_pos h

theorem closings_cons_neg {fd : Fd} {c : Answered Call.Ret} {tr : Trace}
    (h : ¬ closes fd c.1 = true) : closings fd (c :: tr) = closings fd tr :=
  List.countP_cons_of_neg h

theorem leftAlone_cons {fd : Fd} {c : Answered Call.Ret} {tr : Trace}
    (h : ¬ closes fd c.1 = true) (htr : LeftAlone fd tr) : LeftAlone fd (c :: tr) :=
  List.pairwise_cons.mpr ⟨fun _ _ hcl => absurd hcl h, htr⟩

theorem leftAlone_of_not_issued {fd : Fd} {tr : Trace}
    (h : ∀ c ∈ tr, issuedOn c.1 ≠ some fd) (c : Answered Call.Ret) : LeftAlone fd (c :: tr) :=
  List.pairwise_cons.mpr ⟨fun c' hc' _ => h c' hc',
    List.pairwise_of_forall_mem_list fun _ _ c'' hc'' _ => h c'' hc''⟩

/-- The calls `tr` on the open descriptor `fd` left the account at `m`. -/
structure UsedWell (fd : Fd) (tr : Trace) (m : Descriptor) : Prop where
  noOther : madeBy tr = []
  leftAlone : LeftAlone fd tr
  closed : (m = .opened fd ∧ closings fd tr = 0) ∨ (m = .closed fd ∧ closings fd tr = 1)

theorem account_opened {fd : Fd} {tr : Trace}
    (h : account Descriptor.note (.opened fd) tr ≠ .misused) :
    UsedWell fd tr (account Descriptor.note (.opened fd) tr) := by
  induction tr with
  | nil => exact ⟨rfl, .nil, .inl ⟨rfl, rfl⟩⟩
  | cons c tr ih =>
    rw [account_cons, Descriptor.note] at h ⊢
    split at h
    · exact absurd (account_misused tr) h
    case isFalse hsocket =>
      rw [if_neg hsocket]
      have hmade : madeBy (c :: tr) = madeBy tr :=
        madeBy_cons_none (Option.not_isSome_iff_eq_none.mp hsocket)
      split at h
      case isTrue hclose =>
        -- nothing of what follows is about `fd`
        rw [if_pos hclose]
        obtain ⟨hend, hall⟩ := account_closed h
        have hother : ∀ c' ∈ tr, issuedOn c'.1 ≠ some fd := by
          intro c' hc'
          simp [(hall c' hc').2]
        have hnone : closings fd tr = 0 :=
          List.countP_eq_zero.mpr fun c' hc' hcl => hother c' hc' (closes_issuedOn hcl)
        refine ⟨?_, leftAlone_of_not_issued hother c, .inr ⟨hend, ?_⟩⟩
        · rw [hmade]
          exact List.filterMap_eq_nil_iff.mpr fun c' hc' => (hall c' hc').1
        · rw [closings_cons_pos hclose, hnone]
      case isFalse hclose =>
        rw [if_neg hclose]
        split at h
        case isTrue hfd =>
          rw [if_pos hfd]
          have hrest := ih h
          refine ⟨by rw [hmade, hrest.noOther], leftAlone_cons hclose hrest.leftAlone, ?_⟩
          rw [closings_cons_neg hclose]
          exact hrest.closed
        case isFalse => exact absurd (account_misused tr) h

/-- Up to the descriptor and from there on. -/
theorem account_none {tr : Trace} (h : account Descriptor.note .none tr ≠ .misused) :
    (account Descriptor.note .none tr = .none ∧ madeBy tr = []) ∨
      ∃ fd, madeBy tr = [fd] ∧ LeftAlone fd tr ∧
        ((account Descriptor.note .none tr = .opened fd ∧ closings fd tr = 0) ∨
          (account Descriptor.note .none tr = .closed fd ∧ closings fd tr = 1)) := by
  induction tr with
  | nil => exact .inl ⟨rfl, rfl⟩
  | cons c tr ih =>
    rw [account_cons, Descriptor.note] at h ⊢
    split at h
    case h_1 fd hfd =>
      have hc : ¬ closes fd c.1 = true := by
        intro hcl
        unfold closes at hcl
        split at hcl <;> simp_all [socketFd]
      have hused := account_opened h
      refine .inr ⟨fd, ?_, leftAlone_cons hc hused.leftAlone, ?_⟩
      · rw [madeBy_cons_some hfd, hused.noOther]
      · rw [closings_cons_neg hc]
        exact hused.closed
    case h_2 hfd =>
      split at h
      case isFalse => exact absurd (account_misused tr) h
      case isTrue hissued =>
        rw [if_pos hissued, madeBy_cons_none hfd]
        rcases ih h with hnone | ⟨fd, hmade, halone, hclosed⟩
        · exact .inl hnone
        · have hc : ¬ closes fd c.1 = true := by
            intro hcl
            simp [closes_issuedOn hcl] at hissued
          refine .inr ⟨fd, hmade, leftAlone_cons hc halone, ?_⟩
          rw [closings_cons_neg hc]
          exact hclosed

/-! ## Rules -/

/-- `P` where a program returns, `F` where it fails. -/
def Ends (P : α → Descriptor → Prop) (F : Descriptor → Prop) : Exit α → Descriptor → Prop
  | .returned a, m => P a m
  | .failed _, m => F m

abbrev Leads (m : Descriptor) (p : Io α) (P : α → Descriptor → Prop)
    (F : Descriptor → Prop) : Prop :=
  p.wp (Accounts Descriptor.note) (Ends P F) m

section Rules

variable {m : Descriptor} {fd : Fd} {P Q : α → Descriptor → Prop} {F : Descriptor → Prop}

theorem leads_mono {p : Io α} (h : Leads m p P F) (hPQ : ∀ a m', P a m' → Q a m') :
    Leads m p Q F := by
  refine wp_mono ?_ h
  intro x m' hx
  cases x with
  | returned a => exact hPQ a m' hx
  | failed msg => exact hx

theorem leads_bind {p : Io β} {f : β → Io α} {R : β → Descriptor → Prop}
    (hp : Leads m p R F) (hf : ∀ b m', R b m' → Leads m' (f b) P F) :
    Leads m (p >>= f) P F := by
  rw [Leads, wp_bind]
  refine wp_mono ?_ hp
  intro x m' hx
  cases x with
  | returned b => exact hf b m' hx
  | failed msg => exact hx

/-- A call that is on no descriptor and makes none. -/
def Silent (c : Call) : Prop := (∀ r, socketFd c r = none) ∧ issuedOn c = none

/-- A call on `fd`, or a silent one. -/
def Uses (fd : Fd) (c : Call) : Prop :=
  (∀ r, socketFd c r = none) ∧ closes fd c = false ∧
    (issuedOn c = none ∨ issuedOn c = some fd)

theorem note_silent {c : Call} (hc : Silent c) (r : c.Ret) : m.note c r = m := by
  cases m with
  | opened fd =>
    have hcl : closes fd c = false := by
      by_contra h
      have := closes_issuedOn (Bool.of_not_eq_false h)
      simp [hc.2] at this
    simp [Descriptor.note, hc.1 r, hc.2, hcl]
  | _ => simp [Descriptor.note, hc.1 r, hc.2]

theorem note_uses {c : Call} (hc : Uses fd c) (r : c.Ret) :
    (Descriptor.opened fd).note c r = .opened fd := by
  simp [Descriptor.note, hc.1 r, hc.2.1, hc.2.2]

theorem leads_silent {c : Call} {f : c.Ret → Io α} (hc : Silent c)
    (hf : ∀ r, Leads m (f r) P F) : Leads m (.call c f) P F := by
  intro r _ h
  subst h
  rw [note_silent hc]
  exact hf r

theorem leads_use {c : Call} {f : c.Ret → Io α} (hc : Uses fd c)
    (hf : ∀ r, Leads (.opened fd) (f r) P F) : Leads (.opened fd) (.call c f) P F := by
  intro r _ h
  subst h
  rw [note_uses hc]
  exact hf r

theorem leads_close {f : Int → Io α} (hf : ∀ r, Leads (.closed fd) (f r) P F) :
    Leads (.opened fd) (.call (.once (.close fd)) f) P F := by
  intro r _ h
  subst h
  have hnote : (Descriptor.opened fd).note (.once (.close fd)) r = .closed fd := by
    simp [Descriptor.note, socketFd, closes]
  rw [hnote]
  exact hf r

theorem leads_ite {c : Prop} [Decidable c] {p q : Io α} (hp : Leads m p P F)
    (hq : Leads m q P F) : Leads m (if c then p else q) P F := by
  split
  · exact hp
  · exact hq

theorem leads_getErr (errno : Int) : Leads m (getErr errno) (fun _ m' => m' = m) F := by
  unfold getErr
  repeat refine leads_ite rfl ?_
  exact leads_silent ⟨fun _ => rfl, rfl⟩ fun _ => leads_silent ⟨fun _ => rfl, rfl⟩ fun _ =>
    leads_silent ⟨fun _ => rfl, rfl⟩ fun _ => rfl

theorem leads_translateError (errno : Int) (detail : Bool) :
    Leads m (translateError errno detail) (fun _ m' => m' = m) F := by
  refine leads_bind (leads_getErr errno) ?_
  intro r _ h
  obtain ⟨kind, desc⟩ := r
  subst h
  cases detail with
  | false => rfl
  | true => exact leads_silent ⟨fun _ => rfl, rfl⟩ fun _ => rfl

/-- Looking up an error changes nothing and does not fail. -/
theorem leads_lastError : Leads m lastError (fun _ m' => m' = m) F :=
  leads_silent ⟨fun _ => rfl, rfl⟩ fun _ => leads_translateError _ _

theorem leads_reports_bind {p : Io β} {f : β → Io α}
    (hp : Leads m p (fun _ m' => m' = m) F) (hf : ∀ b, Leads m (f b) P F) :
    Leads m (p >>= f) P F :=
  leads_bind hp fun b _ hm => hm ▸ hf b

end Rules

/-! ## Raw sockets -/

/-- The account that goes with a `connection_state`. -/
def standsFor (state : ConnectionState) (fd : Fd) : Descriptor :=
  if state = .closed then .closed fd else .opened fd

@[simp] theorem standsFor_closed (fd : Fd) : standsFor .closed fd = .closed fd := rfl

theorem standsFor_open {state : ConnectionState} (h : state ≠ .closed) (fd : Fd) :
    standsFor state fd = .opened fd := if_neg h

def rawStands (s : RawTcpSocket) : Descriptor := standsFor s.connectionState s.fd

section Raw

variable {F : Descriptor → Prop}

theorem setBlocking_leads (s : RawTcpSocket) (blocking : Bool)
    (hopen : s.connectionState ≠ .closed) :
    Leads (.opened s.fd) (s.setBlocking blocking)
      (fun s' m => m = .opened s.fd ∧ s'.fd = s.fd ∧
        s'.connectionState = s.connectionState) F := by
  unfold RawTcpSocket.setBlocking
  rw [if_neg hopen]
  split
  · exact ⟨rfl, rfl, rfl⟩
  · exact leads_use ⟨fun _ => rfl, rfl, .inr rfl⟩ fun _ =>
      leads_use ⟨fun _ => rfl, rfl, .inr rfl⟩ fun _ => ⟨rfl, rfl, rfl⟩

theorem closeSocket_leads (s : RawTcpSocket) :
    Leads (rawStands s) s.closeSocket (fun s' m => m = rawStands s' ∧ m = .closed s.fd) F := by
  unfold RawTcpSocket.closeSocket
  split
  case isTrue h =>
    refine ⟨rfl, ?_⟩
    simp [rawStands, h]
  case isFalse h =>
    rw [rawStands, standsFor_open h]
    exact leads_close fun _ => ⟨rfl, rfl⟩

theorem drop_leads (s : RawTcpSocket) :
    Leads (rawStands s) s.drop (fun _ m => m = .closed s.fd) F :=
  leads_bind (closeSocket_leads s) fun _ _ hm => hm.2

theorem ioFailed_leads (s : RawTcpSocket) :
    Leads (rawStands s) s.ioFailed (fun r m => m = rawStands r.2) F := by
  refine leads_silent ⟨fun _ => rfl, rfl⟩ fun errno => ?_
  show Leads _ (if _ then _ else _) _ _
  split
  · refine leads_bind (closeSocket_leads s) ?_
    intro s' m h
    obtain ⟨hm, -⟩ := h
    exact leads_reports_bind leads_lastError fun _ => hm
  · exact leads_reports_bind leads_lastError fun _ => rfl

theorem write_leads (s : RawTcpSocket) (len : Nat) :
    Leads (rawStands s) (s.write ws len) (fun r m => m = rawStands r.2) F := by
  unfold RawTcpSocket.write
  split
  · rfl
  case isFalse h =>
    have hstands : rawStands s = .opened s.fd := standsFor_open (by simp_all) s.fd
    split
    · rfl
    · rw [hstands]
      refine leads_use ⟨fun _ => rfl, rfl, .inr rfl⟩ fun ret => ?_
      show Leads _ (if _ then _ else _) _ _
      rw [← hstands]
      split
      · exact ioFailed_leads s
      · rfl

theorem read_leads (s : RawTcpSocket) (len : Nat) :
    Leads (rawStands s) (s.read ws len) (fun r m => m = rawStands r.2) F := by
  unfold RawTcpSocket.read
  split
  · rfl
  case isFalse h =>
    have hstands : rawStands s = .opened s.fd := standsFor_open (by simp_all) s.fd
    split
    · rfl
    · rw [hstands]
      refine leads_use ⟨fun _ => rfl, rfl, .inr rfl⟩ fun ret => ?_
      show Leads _ (if _ then _ else _) _ _
      rw [← hstands]
      split
      · exact leads_bind (closeSocket_leads s) fun _ _ hm => hm.1
      · split
        · exact ioFailed_leads s
        · rfl

/-! ### Constructors -/

/-- What a constructor leaves: a socket with its account, or nothing open. -/
def Made (f : α → Descriptor) : IoResult α → Descriptor → Prop
  | .ok a, m => m = f a
  | .error _, m => m.Gone

theorem createSocket_leads (addr : SocketAddr) (blocking : Bool) :
    Leads .none (createSocket addr blocking)
      (fun r m => match r with
        | .ok fd => m = .opened fd
        | .error _ => m = .none) F := by
  unfold createSocket
  extract_lets fam ty ty'
  intro ret _ h
  subst h
  show Leads _ (if _ then _ else _) _ _
  split
  case isTrue h =>
    have hnote : Descriptor.none.note (.once (.socket fam ty')) ret = .none := by
      simp [Descriptor.note, socketFd, h, issuedOn, fdOf]
    rw [hnote]
    exact leads_reports_bind leads_lastError fun _ => rfl
  case isFalse h =>
    simp [Descriptor.note, socketFd, h, Ends]

/-- The failing branches of a constructor: look up the error, drop, return
it. -/
theorem giveUp_leads (s : RawTcpSocket) (hopen : s.connectionState ≠ .closed) :
    Leads (.opened s.fd) (do
        let err ← lastError
        s.drop
        return .error err) (Made rawStands) F := by
  refine leads_reports_bind leads_lastError fun err => ?_
  rw [← standsFor_open hopen s.fd]
  exact leads_bind (drop_leads s) fun _ _ hm => .inr ⟨s.fd, hm⟩

theorem connect_leads (addr : SocketAddr) :
    Leads .none (RawTcpSocket.connect host addr) (Made rawStands) F := by
  refine leads_bind (createSocket_leads addr true) ?_
  rintro (err | fd) m hm
  · exact .inl hm
  · obtain rfl : m = .opened fd := hm
    refine leads_use ⟨fun _ => rfl, rfl, .inr rfl⟩ fun r => ?_
    show Leads _ (if _ then _ else _) _ _
    split
    · exact giveUp_leads (RawTcpSocket.fromFd fd) nofun
    · rfl

theorem connectRaw_leads (addr : SocketAddr) :
    Leads .none (connectRaw host addr) (Made rawStands) F := by
  refine leads_bind (createSocket_leads addr false) ?_
  rintro (err | fd) m hm
  · exact .inl hm
  · obtain rfl : m = .opened fd := hm
    refine leads_use ⟨fun _ => rfl, rfl, .inr rfl⟩ fun r => ?_
    show Leads _ (if _ then _ else _) _ _
    split
    · refine leads_silent ⟨fun _ => rfl, rfl⟩ fun errno => ?_
      show Leads _ (if _ then _ else _) _ _
      split
      · exact leads_silent ⟨fun _ => rfl, rfl⟩ fun _ => giveUp_leads ⟨fd, false, .created⟩ nofun
      · rfl
    · refine leads_bind (setBlocking_leads ⟨fd, false, .connected⟩ true nofun) ?_
      intro s m h
      obtain ⟨rfl, hfd, hstate⟩ := h
      simp [Ends, Made, rawStands, standsFor, hfd, hstate]

end Raw

/-! ## Raw listening sockets -/

def serverStands (s : RawTcpServerSocket) : Descriptor := standsFor s.connectionState s.fd

section RawServer

variable {F : Descriptor → Prop}

theorem server_closeSocket_leads (s : RawTcpServerSocket) :
    Leads (serverStands s) s.closeSocket
      (fun s' m => m = serverStands s' ∧ m = .closed s.fd) F := by
  unfold RawTcpServerSocket.closeSocket
  split
  case isTrue h =>
    refine ⟨rfl, ?_⟩
    simp [serverStands, h]
  case isFalse h =>
    rw [serverStands, standsFor_open h]
    exact leads_close fun _ => ⟨rfl, rfl⟩

theorem server_drop_leads (s : RawTcpServerSocket) :
    Leads (serverStands s) s.drop (fun _ m => m = .closed s.fd) F :=
  leads_bind (server_closeSocket_leads s) fun _ _ hm => hm.2

theorem bindFailed_leads (s : RawTcpServerSocket) :
    Leads (serverStands s) s.bindFailed (Made serverStands) F :=
  leads_reports_bind leads_lastError fun _ =>
    leads_bind (server_drop_leads s) fun _ _ hm => .inr ⟨s.fd, hm⟩

theorem bind_leads (addr : SocketAddr) (backlog : Int) :
    Leads .none (RawTcpServerSocket.bind host addr backlog) (Made serverStands) F := by
  refine leads_bind (createSocket_leads addr true) ?_
  rintro (err | fd) m hm
  · exact .inl hm
  · obtain rfl : m = .opened fd := hm
    have hfailed := bindFailed_leads (F := F) ⟨fd, .connected⟩
    refine leads_use ⟨fun _ => rfl, rfl, .inr rfl⟩ fun opt => ?_
    show Leads _ (if _ then _ else _) _ _
    split
    · exact hfailed
    refine leads_use ⟨fun _ => rfl, rfl, .inr rfl⟩ fun b => ?_
    show Leads _ (if _ then _ else _) _ _
    split
    · exact hfailed
    refine leads_use ⟨fun _ => rfl, rfl, .inr rfl⟩ fun l => ?_
    show Leads _ (if _ then _ else _) _ _
    split
    · exact hfailed
    · rfl

theorem acceptFailed_leads (s : RawTcpServerSocket) :
    Leads (serverStands s) s.acceptFailed (fun r m => m = serverStands r.2 ∧ r.1.toOption = none)
      F := by
  refine leads_silent ⟨fun _ => rfl, rfl⟩ fun errno => ?_
  show Leads _ (if _ then _ else _) _ _
  split
  · refine leads_bind (server_closeSocket_leads s) ?_
    intro s' m h
    obtain ⟨hm, -⟩ := h
    exact leads_reports_bind leads_lastError fun _ => ⟨hm, rfl⟩
  · exact leads_reports_bind leads_lastError fun _ => ⟨rfl, rfl⟩

theorem accept_leads (s : RawTcpServerSocket) :
    Leads (serverStands s) s.accept (fun r m => m = serverStands r.2) F := by
  unfold RawTcpServerSocket.accept
  split
  · rfl
  case isFalse h =>
    have hstands : serverStands s = .opened s.fd := standsFor_open (by simp_all) s.fd
    rw [hstands]
    refine leads_use ⟨fun _ => rfl, rfl, .inr rfl⟩ fun r => ?_
    show Leads _ (if _ then _ else _) _ _
    rw [← hstands]
    split
    · exact leads_mono (acceptFailed_leads s) fun _ _ hm => hm.1
    · rfl

end RawServer

/-! ## Boxed sockets -/

def tcpStands (s : TcpSocket) : Descriptor := rawStands s.socket

section Boxed

variable {F : Descriptor → Prop}

/-- `epoll_ctl`, with the test that follows it everywhere. -/
theorem epollCtl_leads {q : EventQueueImpl} {fd : Fd} {op : EpollCtl} {flags : UInt32}
    {data : Option Ptr} {msg : String} (hF : F (.opened fd)) :
    Leads (.opened fd) (.call (.once (.epollCtl q.fd op fd flags data)) fun s =>
      if s ≠ 0 then .fail msg else .ret ()) (fun _ m => m = .opened fd) F := by
  refine leads_use ⟨fun _ => rfl, rfl, .inr rfl⟩ fun s => ?_
  split
  · exact hF
  · rfl

theorem fromRawTcpSocket_leads (this : Ptr) (info : SourceId) (raw : RawTcpSocket)
    (q : EventQueueImpl) (hF : F (rawStands raw)) :
    Leads (rawStands raw) (TcpSocket.fromRawTcpSocket this info raw q)
      (fun s m => m = tcpStands s) F := by
  unfold TcpSocket.fromRawTcpSocket
  simp only
  split
  case isFalse h => rfl
  case isTrue h =>
    have hstands : rawStands raw = .opened raw.fd := standsFor_open h raw.fd
    rw [hstands] at hF ⊢
    have hreg : Leads (.opened raw.fd) (TcpSocket.registerFd
        { socket := raw, processFunc := this, eventSourceInfo := info, availableBytes := 0 } q)
        (fun _ m => m = .opened raw.fd) F := by
      unfold TcpSocket.registerFd
      split
      · exact epollCtl_leads hF
      · exact epollCtl_leads hF
    exact leads_bind hreg fun _ _ hm => hm.trans hstands.symm

theorem tcp_close_leads (s : TcpSocket) (q : EventQueueImpl) :
    Leads (tcpStands s) (s.close q) (fun r m => m = tcpStands r.1) F :=
  leads_bind (closeSocket_leads s.socket) fun _ _ hm => hm.1

theorem tcp_write_leads (s : TcpSocket) (len : Nat) (q : EventQueueImpl) :
    Leads (tcpStands s) (s.write ws len q) (fun r m => m = tcpStands r.2.1) F := by
  refine leads_bind (write_leads s.socket len) ?_
  intro r m hm
  obtain ⟨ret, raw⟩ := r
  simp only
  split
  · exact hm
  · exact hm

theorem tcp_read_leads (s : TcpSocket) (len : Nat) (q : EventQueueImpl) :
    Leads (tcpStands s) (s.read ws len q) (fun r m => m = tcpStands r.2.1) F := by
  unfold TcpSocket.read
  simp only
  split
  · rfl
  · refine leads_bind (read_leads s.socket len) ?_
    intro r m hm
    obtain ⟨ret, raw⟩ := r
    simp only
    split
    · exact hm
    · split
      · exact hm
      · exact hm

theorem tcp_drop_leads (s : TcpSocket) (q : EventQueueImpl) :
    Leads (tcpStands s) (s.drop q) (fun _ m => m = .closed s.socket.fd) F :=
  leads_bind (drop_leads s.socket) fun _ _ hm => hm

theorem readAvailableBytes_leads (s : TcpSocket) :
    Leads (.opened s.socket.fd) (s.readAvailableBytes ws)
      (fun r m => m = .opened s.socket.fd ∧ r.2.socket = s.socket) F := by
  refine leads_use ⟨fun _ => rfl, rfl, .inr rfl⟩ ?_
  intro r
  obtain ⟨ret, bytes⟩ := r
  show Leads _ (if _ then _ else _) _ _
  split
  · exact leads_reports_bind leads_lastError fun _ => ⟨rfl, rfl⟩
  · exact ⟨rfl, rfl⟩

/-- The end of every branch that closes the socket. -/
theorem closeAndPush_leads (s : TcpSocket) (q : EventQueueImpl) :
    Leads (tcpStands s) (do
        let raw ← s.socket.closeSocket
        return ({ s with socket := raw }, q)) (fun r m => m = tcpStands r.1) F :=
  leads_bind (closeSocket_leads s.socket) fun _ _ hm => hm.1

theorem onError_leads (s : TcpSocket) (q : EventQueueImpl)
    (hopen : s.socket.connectionState ≠ .closed) (hF : F (tcpStands s)) :
    Leads (tcpStands s) (s.onError q) (fun r m => m = tcpStands r.1) F := by
  have hstands : tcpStands s = .opened s.socket.fd := standsFor_open hopen s.socket.fd
  rw [hstands] at hF ⊢
  refine leads_use ⟨fun _ => rfl, rfl, .inr rfl⟩ ?_
  intro r
  obtain ⟨ret, errno⟩ := r
  show Leads _ (if _ then _ else _) _ _
  split
  · refine leads_reports_bind (leads_translateError _ _) fun err => ?_
    rw [← hstands]
    exact closeAndPush_leads s _
  · exact hF

theorem onReadable_leads (s : TcpSocket) (q : EventQueueImpl) (mask : UInt32)
    (hopen : s.socket.connectionState ≠ .closed) :
    Leads (tcpStands s) (s.onReadable ws q mask) (fun r m => m = tcpStands r.1) F := by
  have hstands : tcpStands s = .opened s.socket.fd := standsFor_open hopen s.socket.fd
  unfold TcpSocket.onReadable
  extract_lets tail
  have htail : ∀ s', s'.socket = s.socket →
      Leads (tcpStands s) (tail s') (fun r m => m = tcpStands r.1) F := by
    intro s' hs'
    have hs : tcpStands s = tcpStands s' := by rw [tcpStands, tcpStands, hs']
    rw [hs]
    simp only [tail]
    split
    · rfl
    · exact closeAndPush_leads s' _
  split
  · rw [hstands]
    refine leads_bind (readAvailableBytes_leads s) ?_
    intro r m h
    obtain ⟨ret, s'⟩ := r
    obtain ⟨rfl, hs'⟩ := h
    rw [← hstands]
    exact htail s' hs'
  · exact htail { s with availableBytes := 0 } rfl

theorem onWritable_leads (s : TcpSocket) (q : EventQueueImpl)
    (hopen : s.socket.connectionState ≠ .closed) (hF : F (tcpStands s)) :
    Leads (tcpStands s) (s.onWritable q) (fun r m => m = tcpStands r.1) F := by
  have hstands : tcpStands s = .opened s.socket.fd := standsFor_open hopen s.socket.fd
  rw [hstands] at hF ⊢
  unfold TcpSocket.onWritable
  simp -zeta only [sys_eq, call_bind, ret_bind]
  refine leads_use ⟨fun _ => rfl, rfl, .inr rfl⟩ ?_
  intro r
  obtain ⟨ret, out⟩ := r
  extract_lets tail
  have htail : ∀ r, Leads (.opened s.socket.fd) (tail r) (fun r m => m = tcpStands r.1) F := by
    intro r
    obtain ⟨success, errno⟩ := r
    simp only [tail]
    split
    · refine leads_reports_bind (leads_translateError _ _) fun err => ?_
      rw [← hstands]
      exact closeAndPush_leads s _
    · refine leads_bind (setBlocking_leads s.socket true hopen) ?_
      intro raw m h
      obtain ⟨rfl, hfd, -⟩ := h
      refine leads_bind (R := fun _ m => m = .opened s.socket.fd) ?_ ?_
      · simp only [hfd]
        exact epollCtl_leads hF
      · intro _ m h
        subst h
        show _ = standsFor .connected raw.fd
        rw [hfd]
        rfl
  split
  · exact htail (decide (out = 0), out)
  · exact leads_silent ⟨fun _ => rfl, rfl⟩ fun e => htail (false, e)

theorem tcp_callback_leads (s : TcpSocket) (q : EventQueueImpl) (mask : UInt32)
    (hopen : s.socket.connectionState ≠ .closed) (hF : F (tcpStands s)) :
    Leads (tcpStands s) (s.processEpollEvents ws q mask) (fun r m => m = tcpStands r.1) F := by
  unfold TcpSocket.processEpollEvents
  split
  · exact onError_leads s q hopen hF
  · split
    · split
      · exact onReadable_leads s q mask hopen
      · rfl
    · split
      · exact onWritable_leads s q hopen hF
      · rfl

def tcpServerStands (s : TcpServerSocket) : Descriptor := serverStands s.socket

theorem fromRawServerSocket_leads (this : Ptr) (info : SourceId) (raw : RawTcpServerSocket)
    (q : EventQueueImpl) (hF : F (serverStands raw)) :
    Leads (serverStands raw) (TcpServerSocket.fromRawServerSocket this info raw q)
      (fun s m => m = tcpServerStands s) F := by
  unfold TcpServerSocket.fromRawServerSocket
  simp only
  split
  case isFalse h => rfl
  case isTrue h =>
    have hstands : serverStands raw = .opened raw.fd := standsFor_open h raw.fd
    rw [hstands] at hF ⊢
    exact leads_bind (epollCtl_leads hF) fun _ _ hm => hm.trans hstands.symm

theorem server_close_leads (s : TcpServerSocket) (q : EventQueueImpl) :
    Leads (tcpServerStands s) (s.close q) (fun r m => m = tcpServerStands r.1) F :=
  leads_bind (server_closeSocket_leads s.socket) fun _ _ hm => hm.1

theorem server_accept_leads (s : TcpServerSocket) (q : EventQueueImpl) :
    Leads (tcpServerStands s) (s.accept q) (fun r m => m = tcpServerStands r.2.1) F := by
  unfold TcpServerSocket.accept
  simp only
  split
  · rfl
  · refine leads_bind (accept_leads s.socket) ?_
    intro r m hm
    obtain ⟨ret, raw⟩ := r
    simp only
    split
    · exact hm
    · split
      · exact hm
      · exact hm

theorem server_callback_leads (s : TcpServerSocket) (q : EventQueueImpl) (mask : UInt32)
    (hopen : s.socket.connectionState ≠ .closed) (hF : F (tcpServerStands s)) :
    Leads (tcpServerStands s) (s.processEpollEvents q mask)
      (fun r m => m = tcpServerStands r.1) F := by
  have hstands : tcpServerStands s = .opened s.socket.fd := standsFor_open hopen s.socket.fd
  unfold TcpServerSocket.processEpollEvents
  split
  · rw [hstands] at hF ⊢
    refine leads_use ⟨fun _ => rfl, rfl, .inr rfl⟩ ?_
    intro r
    obtain ⟨ret, errno⟩ := r
    show Leads _ (if _ then _ else _) _ _
    split
    · refine leads_reports_bind (leads_translateError _ _) fun err => ?_
      rw [← hstands]
      exact leads_bind (server_closeSocket_leads s.socket) fun _ _ hm => hm.1
    · exact hF
  · split
    · rfl
    · rfl

theorem server_boxed_drop_leads (s : TcpServerSocket) (q : EventQueueImpl) :
    Leads (tcpServerStands s) (s.drop q) (fun _ m => m = .closed s.socket.fd) F :=
  leads_bind (server_drop_leads s.socket) fun _ _ hm => hm

end Boxed

end Revbio.Sockets
