/-
Revbio.Accept.ServerTask — the server of `serverexample.rs`.

`servertask` owns a TcpServerSocket, the only source on its queue. It
answers a ClientConnectedEvent with one `accept`, closes the socket and
leaves the loop after `client_count` clients, and leaves it at an
IoErrorEvent. Both `unwrap`s fail the task. Every step is one of
`Revbio.Accept.System`, so what holds of listening sockets holds here.

The queue holds at most one event, and what it tells of the socket is still
true when it is taken (`Stands`). So `accept` finds a client, unless one has
gone away meanwhile, and the socket is open until the last client has been
let in, unless it breaks (`server_serves`).
-/
import Revbio.Accept.AcceptTheorems

namespace Revbio.Accept

open CallTree Prog EventLoop Revbio.Stream Transition

variable {γ : Type}

/-! ## The task -/

/-- Where the task is in its loop. -/
inductive Place where
  /-- at `next_event` -/
  | next
  /-- with a ClientConnectedEvent -/
  | client
  /-- past the last client -/
  | closing
  | ended
  | failed
  deriving DecidableEq, Repr

structure ServerTask (γ : Type) where
  server : AcceptState γ
  place : Place
  clientCount : Nat

/-- What the task does with the result of `next_event`. -/
def Place.after (sock : TcpServerSocket) : LoopLabel → Place
  | .goesOn => .next
  | .returns (.error _) => .failed
  | .returns (.ok ev) =>
      if ev.originatesFrom sock then
        match ev.eventType with
        | .clientConnectedEvent => .client
        | .ioErrorEvent _ => .ended
        | _ => .next
      else .next

theorem Place.after_ne_closing (sock : TcpServerSocket) (l : LoopLabel) :
    Place.after sock l ≠ .closing := by
  unfold Place.after
  split
  · simp
  · simp
  · split
    · split <;> simp
    · simp

inductive ServerStep : ServerTask γ → AcceptLabel γ → ServerTask γ → Prop where
  | arrive {s : ServerTask γ} {client : γ} {server : AcceptState γ} :
      AcceptStep s.server (.arrive client) server →
      ServerStep s (.arrive client) { s with server }
  | leave {s : ServerTask γ} {client : γ} {server : AcceptState γ} :
      AcceptStep s.server (.leave client) server →
      ServerStep s (.leave client) { s with server }
  | callback {s : ServerTask γ} {mask : UInt32} {server : AcceptState γ} : s.place = .next →
      AcceptStep s.server (.callback mask) server →
      ServerStep s (.callback mask) { s with server }
  | loop {s : ServerTask γ} {l : LoopLabel} {server : AcceptState γ} : s.place = .next →
      AcceptStep s.server (.loop l) server →
      ServerStep s (.loop l) { s with server, place := Place.after s.server.sock l }
  | accept {s : ServerTask γ} {socket : RawTcpSocket} {server : AcceptState γ} :
      s.place = .client → AcceptStep s.server (.accept (.ok socket)) server →
      ServerStep s (.accept (.ok socket))
        { server
          place := if s.clientCount - 1 = 0 then .closing else .next
          clientCount := s.clientCount - 1 }
  | acceptFailed {s : ServerTask γ} {err : IoError} {server : AcceptState γ} :
      s.place = .client → AcceptStep s.server (.accept (.error err)) server →
      ServerStep s (.accept (.error err)) { s with server, place := .failed }
  | close {s : ServerTask γ} {server : AcceptState γ} : s.place = .closing →
      AcceptStep s.server .close server →
      ServerStep s .close { s with server, place := .ended }

theorem ServerStep.server {s t : ServerTask γ} {l : AcceptLabel γ} (h : ServerStep s l t) :
    AcceptStep s.server l t.server := by
  cases h <;> assumption

/-- In front of the loop, the socket bound. -/
structure ServerTask.Starts (s : ServerTask γ) : Prop where
  fresh : Fresh s.server
  connected : s.server.sock.socket.connectionState = .connected
  queue : s.server.queue.readyEvents = []
  place : s.place = .next
  clientCount : 0 < s.clientCount

/-! ## The invariant -/

variable {s t : ServerTask γ} {a : AcceptState γ} {tr : List (AcceptLabel γ)}

/-- How the socket and the queue stand with the task at a place. -/
inductive Stands (a : AcceptState γ) : Place → Prop where
  | quiet : (∀ ptr, a.phase ≠ .calling ptr) → a.queue.readyEvents = [] →
      a.sock.socket.connectionState = .connected → Stands a .next
  | announced : a.phase = .idle ∨ a.phase = .checking →
      a.queue.readyEvents = [Event.new .clientConnectedEvent a.sock.eventSourceInfo] →
      a.sock.socket.connectionState = .connected → a.sock.clientAvailable = true →
      Stands a .next
  | broken {err : IoError} : a.phase = .checking →
      a.queue.readyEvents = [Event.new (.ioErrorEvent err) a.sock.eventSourceInfo] →
      a.sock.socket.connectionState = .closed → Stands a .next
  | client : a.phase = .idle → a.queue.readyEvents = [] →
      a.sock.socket.connectionState = .connected → a.sock.clientAvailable = true →
      Stands a .client
  | closing : a.phase = .idle → a.sock.socket.connectionState = .connected → Stands a .closing
  | ended : a.sock.socket.connectionState = .closed → Stands a .ended
  | failed : Stands a .failed

/-- An error of the listening socket has been reported. -/
def Broken (tr : List (AcceptLabel γ)) : Prop :=
  ∃ mask, .callback mask ∈ tr ∧ mask &&& EPOLLERR ≠ 0

theorem Broken.snoc (h : Broken tr) (l : AcceptLabel γ) : Broken (tr ++ [l]) := by
  obtain ⟨mask, hmask, herr⟩ := h
  exact ⟨mask, List.mem_append_left _ hmask, herr⟩

structure TaskInv (n : Nat) (tr : List (AcceptLabel γ)) (s : ServerTask γ) : Prop where
  stands : Stands s.server s.place
  count : s.server.backlog.handed.length + s.clientCount = n
  more : s.place = .next ∨ s.place = .client ∨ s.place = .failed → 0 < s.clientCount
  all : s.place = .closing → s.clientCount = 0
  intact : s.place = .next → s.server.sock.socket.connectionState = .connected ∨ Broken tr
  ended : s.place = .ended → s.clientCount = 0 ∨ Broken tr

/-- A callback, in `epoll_wait`. -/
theorem callback_stands {mask : UInt32} {sock : TcpServerSocket} {q : EventQueueImpl}
    (hqueue : a.queue.readyEvents = []) (hconnected : a.sock.socket.connectionState = .connected)
    (heffect : CallbackEffect a.sock a.queue mask sock q) :
    Stands ⟨sock, q, .checking, a.backlog⟩ .next := by
  cases heffect with
  | nothing => exact .quiet (by simp) hqueue hconnected
  | client => exact .announced (.inr rfl) (by simp [hqueue]) hconnected rfl
  | @error raw err _ hraw =>
    have hpushed : (a.queue.pushBackEvent (Event.new (.ioErrorEvent err)
        a.sock.eventSourceInfo)).readyEvents =
        [Event.new (.ioErrorEvent err) a.sock.eventSourceInfo] := by simp [hqueue]
    exact .broken rfl hpushed hraw

/-- `next_event` goes on, and an event it returns is looked at. -/
theorem loop_stands {l : LoopLabel} {phase : Phase} {q : EventQueueImpl} (h : Stands a .next)
    (hstep : LoopStep a.phase a.queue l phase q) :
    Stands { a with phase, queue := q } (Place.after a.sock l) := by
  obtain ⟨sock, queue, phase₀, backlog⟩ := a
  cases h with
  | quiet hcalling hqueue hconnected =>
    simp only at hqueue hconnected
    cases hstep with
    | ready hq => simp [hqueue] at hq
    | mustPoll => exact .quiet (by simp) hqueue hconnected
    | pollFailed => exact .failed
    | pollIdle => exact .quiet (by simp) hqueue hconnected
    | found hq => simp [hqueue] at hq
    | invalid hq => simp [hqueue] at hq
    | nothing => exact .quiet (by simp) hqueue hconnected
  | announced hphase hqueue hconnected havailable =>
    simp only at hqueue hconnected havailable
    have htaken : ∀ {first rest phase}, queue.readyEvents = first :: rest → phase = .idle →
        Stands ⟨sock, { queue with readyEvents := rest }, phase, backlog⟩
          (Place.after sock (.returns (.ok first))) := by
      rintro first rest phase hq rfl
      rw [hqueue] at hq
      cases hq
      have hclient : Place.after sock
          (.returns (.ok (Event.new .clientConnectedEvent sock.eventSourceInfo))) = .client := by
        simp [Place.after, originatesFrom_eq, Event.new, EventSource.getEventSourceInfo]
      rw [hclient]
      exact .client rfl rfl hconnected havailable
    cases hstep with
    | ready hq => exact htaken hq rfl
    | mustPoll hq => simp [hqueue] at hq
    | pollFailed => simp at hphase
    | pollIdle => simp at hphase
    | found hq => exact htaken hq rfl
    | invalid hq hinvalid =>
      rw [hqueue] at hq
      cases hq
      simp [Event.new] at hinvalid
    | nothing hq => simp [hqueue] at hq
  | @broken err hphase hqueue hclosed =>
    simp only at hqueue hclosed hphase
    subst hphase
    cases hstep with
    | found hq =>
      rw [hqueue] at hq
      cases hq
      have hended : Place.after sock
          (.returns (.ok (Event.new (.ioErrorEvent err) sock.eventSourceInfo))) = .ended := by
        simp [Place.after, originatesFrom_eq, Event.new, EventSource.getEventSourceInfo]
      rw [hended]
      exact .ended hclosed
    | invalid hq hinvalid =>
      rw [hqueue] at hq
      cases hq
      simp [Event.new] at hinvalid
    | nothing hq => simp [hqueue] at hq

/-- A client that arrives or leaves changes nothing for the task. -/
theorem Stands.clients {place : Place} {backlog : Backlog γ} (h : Stands a place) :
    Stands { a with backlog } place := by
  cases h with
  | quiet hcalling hqueue hconnected => exact .quiet hcalling hqueue hconnected
  | announced hphase hqueue hconnected havailable =>
    exact .announced hphase hqueue hconnected havailable
  | broken hphase hqueue hclosed => exact .broken hphase hqueue hclosed
  | client hphase hqueue hconnected havailable => exact .client hphase hqueue hconnected havailable
  | closing hphase hconnected => exact .closing hphase hconnected
  | ended hclosed => exact .ended hclosed
  | failed => exact .failed

theorem Stands.polling (h : Stands a .next) (hphase : a.phase = .polling) :
    a.queue.readyEvents = [] ∧ a.sock.socket.connectionState = .connected := by
  cases h with
  | quiet _ hqueue hconnected => exact ⟨hqueue, hconnected⟩
  | announced hphase' => simp [hphase] at hphase'
  | broken hphase' => simp [hphase] at hphase'

theorem Stands.answers (h : Stands a .client) :
    a.queue.readyEvents = [] ∧ a.sock.socket.connectionState = .connected ∧
      a.sock.clientAvailable = true := by
  cases h with
  | client _ hqueue hconnected havailable => exact ⟨hqueue, hconnected, havailable⟩

theorem TaskInv.clients {n : Nat} {l : AcceptLabel γ} {backlog : Backlog γ}
    (h : TaskInv n tr s) (hhanded : backlog.handed = s.server.backlog.handed) :
    TaskInv n (tr ++ [l]) { s with server := { s.server with backlog } } where
  stands := h.stands.clients
  count := by simpa only [hhanded] using h.count
  more := h.more
  all := h.all
  intact hplace := (h.intact hplace).imp_right fun hb => hb.snoc l
  ended hplace := (h.ended hplace).imp_right fun hb => hb.snoc l

theorem step_task {n : Nat} {l : AcceptLabel γ} (h : TaskInv n tr s) (hstep : ServerStep s l t) :
    TaskInv n (tr ++ [l]) t := by
  obtain ⟨hstands, hcount, hmore, hall, hintact, hended⟩ := h
  cases hstep with
  | arrive harrive =>
    cases harrive
    exact TaskInv.clients ⟨hstands, hcount, hmore, hall, hintact, hended⟩ rfl
  | leave hleave =>
    cases hleave
    exact TaskInv.clients ⟨hstands, hcount, hmore, hall, hintact, hended⟩ rfl
  | @callback mask _ hplace hcallback =>
    rw [hplace] at hstands
    cases hcallback with
    | callback hphase _ _ hx =>
      obtain ⟨hqueue, hconnected⟩ := hstands.polling hphase
      obtain ⟨rfl, heffect⟩ := exec_leaves (callback_within s.server.sock _) hx
      refine ⟨?_, hcount, hmore, hall, ?_, ?_⟩
      · rw [hplace]
        exact callback_stands hqueue hconnected heffect
      · intro _
        cases heffect with
        | nothing => exact .inl hconnected
        | client => exact .inl hconnected
        | error herr => exact .inr ⟨mask, by simp, herr⟩
      · simp [hplace]
  | @loop l _ hplace hloop =>
    rw [hplace] at hstands
    cases hloop with
    | loop hloop =>
      have hstands' := loop_stands hstands hloop
      refine ⟨hstands', hcount, fun _ => hmore (.inl hplace), ?_, ?_, ?_⟩
      · intro hclosing
        exact absurd hclosing (Place.after_ne_closing _ _)
      · intro _
        exact (hintact hplace).imp_right fun hb => hb.snoc _
      · intro hended
        -- an IoErrorEvent comes from a socket that is closed
        simp only at hended
        rw [hended] at hstands'
        cases hstands' with
        | ended hclosed =>
          refine .inr (Broken.snoc ?_ _)
          exact (hintact hplace).resolve_left fun hconnected =>
            nomatch hclosed.symm.trans hconnected
  | accept hplace haccept =>
    have hpos := hmore (.inr (.inl hplace))
    rw [hplace] at hstands
    obtain ⟨hqueue, hconnected, -⟩ := hstands.answers
    cases haccept with
    | accept hphase hx =>
      cases acceptEffect_of_exec hx with
      | @accepted fd client =>
        have hcount' :
            (s.server.backlog.handed ++ [(fd, client)]).length + (s.clientCount - 1) = n := by
          rw [List.length_append, List.length_singleton]
          omega
        by_cases hzero : s.clientCount - 1 = 0
        · refine ⟨?_, hcount', ?_, fun _ => hzero, ?_, ?_⟩
          · rw [if_pos hzero]
            exact .closing rfl hconnected
          · simp [hzero]
          · simp [hzero]
          · simp [hzero]
        · have hleft : 0 < s.clientCount - 1 := by omega
          refine ⟨?_, hcount', fun _ => hleft, ?_, fun _ => .inl hconnected, ?_⟩
          · rw [if_neg hzero]
            exact .quiet (by simp) hqueue hconnected
          · simp [hzero]
          · simp [hzero]
  | acceptFailed hplace haccept =>
    have hpos := hmore (.inr (.inl hplace))
    cases haccept with
    | accept hphase hx =>
      cases acceptEffect_of_exec hx with
      | refused => exact ⟨.failed, hcount, fun _ => hpos, by simp, by simp, by simp⟩
      | failed => exact ⟨.failed, hcount, fun _ => hpos, by simp, by simp, by simp⟩
  | close hplace hclose =>
    cases hclose with
    | close hphase hx =>
      obtain ⟨rfl, ⟨raw, hclosed, rfl⟩, c, rfl⟩ := exec_leaves (close_within s.server.sock) hx
      exact ⟨.ended hclosed, hcount, by simp, by simp, by simp, fun _ => .inl (hall hplace)⟩

/-- What is known of a task in the middle of a run. -/
def Serving (n : Nat) (waiting : List γ) (info : SourceId) (tr : List (AcceptLabel γ))
    (s : ServerTask γ) : Prop :=
  AcceptInv waiting info tr s.server ∧ TaskInv n tr s

theorem step_serving {n : Nat} {waiting : List γ} {info : SourceId} {l : AcceptLabel γ}
    (h : Serving n waiting info tr s) (hstep : ServerStep s l t) :
    Serving n waiting info (tr ++ [l]) t :=
  ⟨step_inv h.1 hstep.server, step_task h.2 hstep⟩

theorem run_serving {n : Nat} {waiting : List γ} {info : SourceId} {tr' : List (AcceptLabel γ)}
    (h : Serving n waiting info tr s) (hrun : Run ServerStep s tr' t) :
    Serving n waiting info (tr ++ tr') t := by
  induction hrun with
  | nil => simpa using h
  | snoc _ hstep ih =>
    rw [← List.append_assoc]
    exact step_serving ih hstep

theorem ServerTask.Starts.serving (h : s.Starts) :
    Serving s.clientCount s.server.backlog.waiting s.server.sock.eventSourceInfo [] s := by
  have hidle := h.fresh.phase
  refine ⟨fresh_inv h.fresh, ?_, ?_, fun _ => h.clientCount, ?_, fun _ => .inl h.connected, ?_⟩
  · rw [h.place]
    exact .quiet (by simp [hidle]) h.queue h.connected
  · simp [h.fresh.handed]
  · simp [h.place]
  · simp [h.place]

/-! ## The way to the next client -/

/-- A run of the task alone serves `client` next. -/
def ServesNext (s : ServerTask γ) (client : γ) : Prop :=
  ∃ tr t fd, Run ServerStep s tr t ∧ Alone tr ∧
    t.server.backlog.handed = s.server.backlog.handed ++ [(fd, client)] ∧
    t.server.sock.socket.connectionState = .connected ∧ (t.place = .next ∨ t.place = .closing)

theorem ServesNext.after {l : AcceptLabel γ} {client : γ} (h : ServesNext t client)
    (hstep : ServerStep s l t) (hl : Alone [l])
    (hbacklog : t.server.backlog = s.server.backlog) : ServesNext s client := by
  obtain ⟨tr, u, fd, hrun, htr, hhanded, hu⟩ := h
  refine ⟨[l] ++ tr, u, fd, (Run.one hstep).append hrun, hl.append htr, ?_, hu⟩
  rw [hhanded, hbacklog]

variable {client : γ} {rest : List γ}

theorem client_serves (hplace : s.place = .client) (hphase : s.server.phase = .idle)
    (hconnected : s.server.sock.socket.connectionState = .connected)
    (havailable : s.server.sock.clientAvailable = true)
    (hwaiting : s.server.backlog.waiting = client :: rest) : ServesNext s client := by
  have haccept := accept_step hphase hconnected havailable hwaiting (by decide : (0 : Int) ≤ 0)
  refine ⟨_, _, 0, .one (.accept hplace haccept), alone_one rfl, rfl, hconnected, ?_⟩
  by_cases hlast : s.clientCount - 1 = 0
  · exact .inr (if_pos hlast)
  · exact .inl (if_neg hlast)

theorem announced_serves (hplace : s.place = .next)
    (hphase : s.server.phase = .idle ∨ s.server.phase = .checking)
    (hqueue : s.server.queue.readyEvents =
      [Event.new .clientConnectedEvent s.server.sock.eventSourceInfo])
    (hconnected : s.server.sock.socket.connectionState = .connected)
    (havailable : s.server.sock.clientAvailable = true)
    (hwaiting : s.server.backlog.waiting = client :: rest) : ServesNext s client := by
  let ev := Event.new .clientConnectedEvent s.server.sock.eventSourceInfo
  have hloop : LoopStep s.server.phase s.server.queue (.returns (.ok ev)) .idle
      { s.server.queue with readyEvents := [] } := by
    rcases hphase with hidle | hchecking
    · rw [hidle]
      exact .ready hqueue
    · rw [hchecking]
      exact .found hqueue rfl
  have hclient : Place.after s.server.sock (.returns (.ok ev)) = .client := by
    simp [ev, Place.after, originatesFrom_eq, Event.new, EventSource.getEventSourceInfo]
  refine ServesNext.after ?_ (.loop hplace (.loop hloop)) (alone_one rfl) rfl
  exact client_serves hclient rfl hconnected havailable hwaiting

theorem polling_serves (hplace : s.place = .next) (hphase : s.server.phase = .polling)
    (hqueue : s.server.queue.readyEvents = [])
    (hconnected : s.server.sock.socket.connectionState = .connected)
    (hwaiting : s.server.backlog.waiting = client :: rest) : ServesNext s client := by
  have hcallback := callback_step hphase hconnected (by simp [hwaiting])
  refine ServesNext.after ?_ (.callback hplace hcallback) (alone_one rfl) rfl
  exact announced_serves hplace (.inr rfl) (by simp [hqueue]) hconnected rfl hwaiting

theorem quiet_serves (hplace : s.place = .next) (hcalling : ∀ ptr, s.server.phase ≠ .calling ptr)
    (hqueue : s.server.queue.readyEvents = [])
    (hconnected : s.server.sock.socket.connectionState = .connected)
    (hwaiting : s.server.backlog.waiting = client :: rest) : ServesNext s client := by
  have hpolls : LoopStep s.server.phase s.server.queue .goesOn .polling s.server.queue →
      ServesNext s client := by
    intro hloop
    refine ServesNext.after ?_ (.loop hplace (.loop hloop)) (alone_one rfl) rfl
    exact polling_serves rfl rfl hqueue hconnected hwaiting
  cases hphase : s.server.phase with
  | idle => exact hpolls (hphase ▸ .mustPoll hqueue)
  | polling => exact polling_serves hplace hphase hqueue hconnected hwaiting
  | checking => exact hpolls (hphase ▸ .nothing hqueue)
  | calling ptr => exact absurd hphase (hcalling ptr)

/-- A task in its loop gets to the next client. -/
theorem TaskInv.serves {n : Nat} (h : TaskInv n tr s) (hplace : s.place = .next ∨ s.place = .client)
    (hconnected : s.server.sock.socket.connectionState = .connected)
    (hwaiting : s.server.backlog.waiting = client :: rest) : ServesNext s client := by
  have hstands := h.stands
  rcases hplace with hp | hp
  · rw [hp] at hstands
    cases hstands with
    | quiet hcalling hqueue => exact quiet_serves hp hcalling hqueue hconnected hwaiting
    | announced hphase hqueue _ havailable =>
      exact announced_serves hp hphase hqueue hconnected havailable hwaiting
    | broken _ _ hclosed => cases hclosed.symm.trans hconnected
  · rw [hp] at hstands
    cases hstands with
    | client hphase _ _ havailable =>
      exact client_serves hp hphase hconnected havailable hwaiting

/-! ## The way to the end -/

theorem close_step (hphase : a.phase = .idle) : ∃ b, AcceptStep a .close b := by
  have hclose : ∃ raw, a.sock.socket.closeSocket.Exec Backlog.allows a.backlog
      (.returned raw) a.backlog := by
    unfold RawTcpServerSocket.closeSocket
    split
    · exact ⟨_, rfl, rfl⟩
    · exact ⟨_, (0 : Int), a.backlog, rfl, rfl, rfl⟩
  obtain ⟨raw, hraw⟩ := hclose
  have hx : (a.sock.close a.queue).Exec Backlog.allows a.backlog
      (.returned ({ a.sock with socket := raw },
        { a.sock with socket := raw }.removePendingEvents a.queue)) a.backlog := by
    unfold TcpServerSocket.close
    rw [exec_bind]
    exact ⟨raw, a.backlog, hraw, rfl, rfl⟩
  exact ⟨_, .close hphase hx⟩

/-- A run of the task alone leads to the end, with no client left to serve. -/
def Ends (s : ServerTask γ) : Prop :=
  ∃ tr t, Run ServerStep s tr t ∧ Alone tr ∧ t.place = .ended ∧ t.clientCount = 0

theorem closing_ends {n : Nat} (h : TaskInv n tr s) (hplace : s.place = .closing) : Ends s := by
  have hstands := h.stands
  rw [hplace] at hstands
  cases hstands with
  | closing hphase =>
    obtain ⟨server, hclose⟩ := close_step hphase
    exact ⟨_, _, .one (.close hplace hclose), alone_one rfl, rfl, h.all hplace⟩

theorem Serving.ends {n : Nat} {waiting : List γ} {info : SourceId}
    (h : Serving n waiting info tr s) (hplace : s.place = .next ∨ s.place = .client)
    (hconnected : s.server.sock.socket.connectionState = .connected)
    (hmany : s.clientCount ≤ s.server.backlog.waiting.length) : Ends s := by
  induction hm : s.clientCount generalizing s tr with
  | zero =>
    have hpos := h.2.more (hplace.imp_right .inl)
    omega
  | succ m ih =>
    obtain ⟨client, rest, hwaiting⟩ : ∃ client rest, s.server.backlog.waiting = client :: rest := by
      cases hw : s.server.backlog.waiting with
      | nil => simp [hw, hm] at hmany
      | cons client rest => exact ⟨client, rest, rfl⟩
    obtain ⟨tr₁, t, fd, hrun, halone, hhanded, hconnected', hplace'⟩ :=
      h.2.serves hplace hconnected hwaiting
    have ht := run_serving h hrun
    have hcount : t.clientCount = m := by
      have hs := h.2.count
      have ht := ht.2.count
      rw [hhanded, List.length_append, List.length_singleton] at ht
      omega
    rcases hplace' with hnext | hclosing
    · have hmany' : t.clientCount ≤ t.server.backlog.waiting.length := by
        have hs := h.1.account.length_eq
        have ht := ht.1.account.length_eq
        simp only [arrived_append, gone_append, halone.arrived, halone.gone, hhanded,
          List.append_nil, List.length_append, List.length_map, List.length_singleton] at hs ht
        omega
      obtain ⟨tr₂, u, hrun', halone', hu⟩ := ih ht (.inl hnext) hconnected' hmany' hcount
      exact ⟨tr₁ ++ tr₂, u, hrun.append hrun', halone.append halone', hu⟩
    · obtain ⟨tr₂, u, hrun', halone', hu⟩ := closing_ends ht.2 hclosing
      exact ⟨tr₁ ++ tr₂, u, hrun.append hrun', halone.append halone', hu⟩

/-! ## The result -/

/-- What a server for `n` clients has done in a run `tr` to `s`, with
`waiting` in the backlog at first. -/
structure Serves (n : Nat) (waiting : List γ) (tr : List (AcceptLabel γ)) (s : ServerTask γ) :
    Prop where
  /-- it counts the clients it has accepted, in the order of their arrival -/
  counts : s.server.backlog.handed.length + s.clientCount = n
  inOrder : (s.server.backlog.handed.map Prod.snd ++ s.server.backlog.waiting).Sublist
    (waiting ++ arrived tr)
  account : (waiting ++ arrived tr).Perm
    (s.server.backlog.handed.map Prod.snd ++ s.server.backlog.waiting ++ gone tr)
  /-- it asks for a client only when there is one, unless one has gone away -/
  finds : s.place = .client → s.server.sock.socket.connectionState = .connected ∧
    s.server.sock.clientAvailable = true ∧ (s.server.backlog.waiting ≠ [] ∨ LeftSince tr)
  /-- before the last client it is in its loop, with the socket open unless
  that is broken, or it has failed -/
  opened : s.place = .next ∨ s.place = .client →
    s.server.backlog.handed.length < n ∧
      (s.server.sock.socket.connectionState = .connected ∨ Broken tr)
  fails : s.place = .failed → s.server.backlog.handed.length < n
  /-- right after the last one it closes the socket -/
  last : s.place = .closing → s.server.backlog.handed.length = n ∧
    s.server.sock.socket.connectionState = .connected ∧
    ∀ l t, ServerStep s l t → l.byClient = true ∨ (l = .close ∧ t.place = .ended)
  /-- so nobody can connect when it has ended: after the last client, or with
  the socket broken -/
  closes : s.place = .ended → s.server.sock.socket.connectionState = .closed ∧
    (s.server.backlog.handed.length = n ∨ Broken tr)
  /-- with the socket open it gets to whoever waits, and to its end when
  enough wait -/
  goesOn : ∀ client rest, s.place = .next ∨ s.place = .client →
    s.server.sock.socket.connectionState = .connected →
    s.server.backlog.waiting = client :: rest → ServesNext s client
  ends : s.place = .next ∨ s.place = .client →
    s.server.sock.socket.connectionState = .connected →
    s.clientCount ≤ s.server.backlog.waiting.length → Ends s
  endsAfter : s.place = .closing → Ends s

theorem Serving.serves {n : Nat} {waiting : List γ} {info : SourceId}
    (h : Serving n waiting info tr s) : Serves n waiting tr s := by
  have hends := h.ends
  obtain ⟨hI, hT⟩ := h
  have hstands := hT.stands
  have hcount := hT.count
  refine ⟨hcount, hI.inOrder, hI.account, ?_, ?_, ?_, ?_, ?_, fun _ _ => hT.serves, hends,
    closing_ends hT⟩
  · intro hplace
    rw [hplace] at hstands
    obtain ⟨-, hconnected, havailable⟩ := hstands.answers
    exact ⟨hconnected, havailable, hI.available hconnected havailable⟩
  · intro hplace
    have hpos := hT.more (hplace.imp_right .inl)
    refine ⟨by omega, ?_⟩
    rcases hplace with hplace | hplace
    · exact hT.intact hplace
    · rw [hplace] at hstands
      exact .inl hstands.answers.2.1
  · intro hplace
    have hpos := hT.more (.inr (.inr hplace))
    omega
  · intro hplace
    have hzero := hT.all hplace
    refine ⟨by omega, ?_, ?_⟩
    · rw [hplace] at hstands
      cases hstands with
      | closing _ hconnected => exact hconnected
    · intro l t hstep
      cases hstep with
      | arrive => exact .inl rfl
      | leave => exact .inl rfl
      | close => exact .inr ⟨rfl, rfl⟩
      | callback hnext => exact nomatch hplace.symm.trans hnext
      | loop hnext => exact nomatch hplace.symm.trans hnext
      | accept hclient => exact nomatch hplace.symm.trans hclient
      | acceptFailed hclient => exact nomatch hplace.symm.trans hclient
  · intro hplace
    have hended := hT.ended hplace
    rw [hplace] at hstands
    cases hstands with
    | ended hclosed => exact ⟨hclosed, hended.imp_left fun hzero => by omega⟩

/-- **The server serves**, in every run: it accepts client after client in
the order of their arrival, up to the number it was started for, and closes
the socket then. -/
theorem server_serves (h0 : s.Starts) (h : Run ServerStep s tr t) :
    Serves s.clientCount s.server.backlog.waiting tr t :=
  (run_serving h0.serving h).serves

/-- A server for one client lets it in and closes. -/
theorem server_serves_one : ∃ (s t : ServerTask String) (tr : List (AcceptLabel String)),
    s.Starts ∧ Run ServerStep s tr t ∧ Serves 1 [] tr t ∧ t.place = .ended ∧
    t.server.backlog = ⟨["b"], [(5, "a")]⟩ := by
  let sock (available : Bool) : TcpServerSocket := ⟨1, ⟨4, .connected⟩, 7, available⟩
  let ev := Event.new .clientConnectedEvent 7
  let s : ServerTask String := ⟨⟨sock false, ⟨3, []⟩, .idle, ⟨[], []⟩⟩, .next, 1⟩
  have hstarts : s.Starts := ⟨⟨rfl, rfl, rfl, rfl⟩, rfl, rfl, rfl, by decide⟩
  have hpoll : AcceptStep ⟨sock false, ⟨3, []⟩, .idle, ⟨["a", "b"], []⟩⟩ (.loop .goesOn) _ :=
    .loop (.mustPoll rfl)
  have hfound : AcceptStep ⟨sock true, ⟨3, [ev]⟩, .checking, ⟨["a", "b"], []⟩⟩
      (.loop (.returns (.ok ev))) _ := .loop (.found rfl rfl)
  have haccept : AcceptStep ⟨sock true, ⟨3, []⟩, .idle, ⟨["a", "b"], []⟩⟩ _ _ :=
    accept_step rfl rfl rfl rfl (by decide : (0 : Int) ≤ 5)
  have hclose : ((sock false).close ⟨3, []⟩).Exec Backlog.allows ⟨["b"], [(5, "a")]⟩
      (.returned (_, _)) ⟨["b"], [(5, "a")]⟩ := ⟨(0 : Int), _, rfl, rfl, rfl⟩
  have hrun : Run ServerStep s _ _ :=
    .cons (.arrive .arrive) (.cons (.arrive .arrive) (.cons (.loop rfl hpoll)
      (.cons (.callback rfl (callback_step rfl rfl (by simp))) (.cons (.loop rfl hfound)
        (.cons (.accept (s := ⟨_, .client, 1⟩) rfl haccept)
          (.one (.close rfl (.close rfl hclose))))))))
  exact ⟨s, _, _, hstarts, hrun, server_serves hstarts hrun, rfl, rfl⟩

end Revbio.Accept
