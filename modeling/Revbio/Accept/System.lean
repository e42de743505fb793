/-
Revbio.Accept.System — one TcpServerSocket and the clients that want to be
let in, as a labelled transition system.

The kernel keeps the clients that have connected and have not been accepted
(`Backlog`). `accept(2)` hands out the first of them or fails, and a failed
call takes nothing; with no client waiting it cannot succeed, and on a
blocking descriptor it waits for one. `epoll_wait` reports `EPOLLIN` only
while a client is waiting. A client that waits may go away again, also
between the report and the `accept` (`leave`).

The socket is used by its task outside `next_event`, its callback runs
inside, and clients arrive and leave at any time. Other sources share the
queue (`others`, `report`).
-/
import Revbio.Stream.System

namespace Revbio.Accept

open CallTree EventLoop Revbio.Stream

variable {γ : Type}

/-! ## The kernel -/

structure Backlog (γ : Type) where
  waiting : List γ
  /-- the clients that have been accepted, with their descriptors -/
  handed : List (Fd × γ)
  deriving DecidableEq, Repr

def Backlog.allows (k : Backlog γ) (c : Call) : c.Ret → Backlog γ → Prop :=
  match c with
  | .retry (.accept _) => fun r k' => (r = -1 ∧ k' = k) ∨
      (0 ≤ r ∧ ∃ client rest, k.waiting = client :: rest ∧
        k' = ⟨rest, k.handed ++ [(r, client)]⟩)
  | _ => fun _ k' => k' = k

/-! ## The system -/

structure AcceptState (γ : Type) where
  sock : TcpServerSocket
  queue : EventQueueImpl
  phase : Phase
  backlog : Backlog γ
  deriving DecidableEq

inductive AcceptLabel (γ : Type) where
  | loop (l : LoopLabel)
  | others
  | report
  | arrive (client : γ)
  /-- a client that has been waiting is gone -/
  | leave (client : γ)
  | accept (result : IoResult RawTcpSocket)
  | close
  | callback (epollEvents : UInt32)

/-- Steps that return; a task that fails does not go on. -/
inductive AcceptStep : AcceptState γ → AcceptLabel γ → AcceptState γ → Prop where
  | loop {s : AcceptState γ} {l : LoopLabel} {phase : Phase} {queue : EventQueueImpl} :
      LoopStep s.phase s.queue l phase queue →
      AcceptStep s (.loop l) { s with phase, queue }
  | others {s : AcceptState γ} {queue : EventQueueImpl} : s.phase = .idle →
      ownEvents s.sock.eventSourceInfo queue = ownEvents s.sock.eventSourceInfo s.queue →
      AcceptStep s .others { s with queue }
  | report {s : AcceptState γ} {src : SourceId} {kinds : List EventKind} :
      s.phase = .polling → src ≠ s.sock.eventSourceInfo →
      AcceptStep s .report { s with queue := s.queue.pushAll src kinds, phase := .checking }
  | arrive {s : AcceptState γ} {client : γ} :
      AcceptStep s (.arrive client)
        { s with backlog := { s.backlog with waiting := s.backlog.waiting ++ [client] } }
  | leave {s : AcceptState γ} {client : γ} {before behind : List γ} :
      s.backlog.waiting = before ++ client :: behind →
      AcceptStep s (.leave client)
        { s with backlog := { s.backlog with waiting := before ++ behind } }
  | accept {s : AcceptState γ} {result : IoResult RawTcpSocket} {sock : TcpServerSocket}
      {queue : EventQueueImpl} {backlog : Backlog γ} : s.phase = .idle →
      (s.sock.accept s.queue).Exec Backlog.allows s.backlog
        (.returned (result, sock, queue)) backlog →
      AcceptStep s (.accept result) ⟨sock, queue, .idle, backlog⟩
  | close {s : AcceptState γ} {sock : TcpServerSocket} {queue : EventQueueImpl}
      {backlog : Backlog γ} : s.phase = .idle →
      (s.sock.close s.queue).Exec Backlog.allows s.backlog (.returned (sock, queue)) backlog →
      AcceptStep s .close ⟨sock, queue, .idle, backlog⟩
  | callback {s : AcceptState γ} {mask : UInt32} {sock : TcpServerSocket}
      {queue : EventQueueImpl} {backlog : Backlog γ} : s.phase = .polling →
      s.sock.socket.connectionState ≠ .closed →
      (mask &&& EPOLLIN ≠ 0 → s.backlog.waiting ≠ []) →
      (s.sock.processEpollEvents s.queue mask).Exec Backlog.allows s.backlog
        (.returned (sock, queue)) backlog →
      AcceptStep s (.callback mask) ⟨sock, queue, .checking, backlog⟩

/-- A listening socket that has just been boxed. -/
structure Fresh (s : AcceptState γ) : Prop where
  clientAvailable : s.sock.clientAvailable = false
  queue : ownEvents s.sock.eventSourceInfo s.queue = []
  phase : s.phase = .idle
  handed : s.backlog.handed = []

/-- `from_raw_server_socket` returns such a socket, and so does `bind`. -/
theorem fromRawServerSocket_fresh (this : Ptr) (info : SourceId) (raw : RawTcpServerSocket)
    {q : EventQueueImpl} (hq : ownEvents info q = []) (waiting : List γ) :
    (TcpServerSocket.fromRawServerSocket this info raw q).Returns fun sock =>
      Fresh ⟨sock, q, .idle, (⟨waiting, []⟩ : Backlog γ)⟩ := by
  unfold TcpServerSocket.fromRawServerSocket
  show Prog.Returns _ (if _ then _ else _)
  split
  · exact Prog.returns_next fun _ => ⟨rfl, hq, rfl, rfl⟩
  · exact ⟨rfl, hq, rfl, rfl⟩

/-! ## Histories -/

/-- A step that clients make, and not the task. -/
def AcceptLabel.byClient : AcceptLabel γ → Bool
  | .arrive _ => true
  | .leave _ => true
  | _ => false

/-- The task runs alone. -/
def Alone (tr : List (AcceptLabel γ)) : Prop := ∀ l ∈ tr, l.byClient = false

/-- The clients that arrive in a run. -/
def arrived (tr : List (AcceptLabel γ)) : List γ :=
  tr.filterMap fun l => match l with
    | .arrive client => some client
    | _ => none

/-- The clients that go away in a run. -/
def gone (tr : List (AcceptLabel γ)) : List γ :=
  tr.filterMap fun l => match l with
    | .leave client => some client
    | _ => none

/-- A client has gone away since one was last reported. -/
def LeftSince (tr : List (AcceptLabel γ)) : Prop :=
  ∃ tr₁ client tr₂, tr = tr₁ ++ .leave client :: tr₂ ∧
    ∀ mask, .callback mask ∈ tr₂ → mask &&& EPOLLIN = 0

/-- The sockets that `accept` returns in a run. -/
def accepted (tr : List (AcceptLabel γ)) : List RawTcpSocket :=
  tr.filterMap fun l => match l with
    | .accept (.ok socket) => some socket
    | _ => none

/-- An event that tells of a client. -/
def tellsOfClient (info : SourceId) (ev : Event) : Bool :=
  decide (ev.eventType = .clientConnectedEvent) && decide (ev.sourceInfo = info)

/-- The events that tell of clients and are taken in a run. -/
def told (info : SourceId) (tr : List (AcceptLabel γ)) : Nat :=
  tr.countP fun l => match l with
    | .loop (.returns (.ok ev)) => tellsOfClient info ev
    | _ => false

theorem arrived_append (tr tr' : List (AcceptLabel γ)) :
    arrived (tr ++ tr') = arrived tr ++ arrived tr' := by
  simp [arrived]

theorem gone_append (tr tr' : List (AcceptLabel γ)) :
    gone (tr ++ tr') = gone tr ++ gone tr' := by
  simp [gone]

@[simp] theorem arrived_snoc (tr : List (AcceptLabel γ)) (l : AcceptLabel γ) :
    arrived (tr ++ [l]) = arrived tr ++ arrived [l] := arrived_append tr [l]

@[simp] theorem gone_snoc (tr : List (AcceptLabel γ)) (l : AcceptLabel γ) :
    gone (tr ++ [l]) = gone tr ++ gone [l] := gone_append tr [l]

theorem alone_one {l : AcceptLabel γ} (h : l.byClient = false) : Alone [l] := by
  simpa [Alone] using h

theorem Alone.append {tr tr' : List (AcceptLabel γ)} (h : Alone tr) (h' : Alone tr') :
    Alone (tr ++ tr') := by
  intro l hl
  exact (List.mem_append.mp hl).elim (h l) (h' l)

theorem Alone.arrived {tr : List (AcceptLabel γ)} (h : Alone tr) : arrived tr = [] := by
  refine List.filterMap_eq_nil_iff.mpr ?_
  intro l hl
  have := h l hl
  cases l <;> first | rfl | cases this

theorem Alone.gone {tr : List (AcceptLabel γ)} (h : Alone tr) : gone tr = [] := by
  refine List.filterMap_eq_nil_iff.mpr ?_
  intro l hl
  have := h l hl
  cases l <;> first | rfl | cases this

theorem leftSince_leave (tr : List (AcceptLabel γ)) (client : γ) :
    LeftSince (tr ++ [.leave client]) :=
  ⟨tr, client, [], rfl, by simp⟩

theorem LeftSince.snoc {tr : List (AcceptLabel γ)} {l : AcceptLabel γ} (h : LeftSince tr)
    (hl : ∀ mask, l = .callback mask → mask &&& EPOLLIN = 0) : LeftSince (tr ++ [l]) := by
  obtain ⟨tr₁, client, tr₂, rfl, hquiet⟩ := h
  refine ⟨tr₁, client, tr₂ ++ [l], by simp, ?_⟩
  intro mask hmask
  rcases List.mem_append.mp hmask with hmask | hmask
  · exact hquiet mask hmask
  · exact hl mask (List.mem_singleton.mp hmask).symm

@[simp] theorem accepted_snoc (tr : List (AcceptLabel γ)) (l : AcceptLabel γ) :
    accepted (tr ++ [l]) = accepted tr ++ accepted [l] := by
  simp [accepted]

@[simp] theorem told_snoc (info : SourceId) (tr : List (AcceptLabel γ)) (l : AcceptLabel γ) :
    told info (tr ++ [l]) = told info tr + told info [l] := by
  simp [told]

end Revbio.Accept
