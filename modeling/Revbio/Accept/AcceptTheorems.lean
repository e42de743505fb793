/-
Revbio.Accept.AcceptTheorems — how a TcpServerSocket lets clients in.

`client_available` is set by a callback, which runs only while a client is
waiting, and cleared by `accept`. So while it is set there is one, unless
one has gone away since, and only then `accept(2)` on the blocking
descriptor may be entered in vain (`LetsIn.attended`). Clients are let in
one by one, in the order of their arrival, none is lost but those that go
away, and each that is let in has been announced by an event of its own
(`lets_in`).
-/
import Revbio.Accept.System
import Revbio.EventQueue.SourceTheorems

namespace Revbio.Accept

open CallTree Prog EventLoop Revbio.Stream Transition

variable {γ : Type} {s t : AcceptState γ} {k k' : Backlog γ} {q q' : EventQueueImpl}

/-! ## What the operations do -/

/-- Calls that are not about clients. -/
def LeavesBacklog (c : Call) : Prop := ∀ fd, c ≠ .retry (.accept fd)

theorem allows_leaves (k : Backlog γ) (c : Call) (r : c.Ret) (k' : Backlog γ)
    (hc : LeavesBacklog c) (h : k.allows c r k') : k' = k := by
  unfold Backlog.allows at h
  split at h
  · exact absurd rfl (hc _)
  · exact h

theorem exec_leaves {α : Type} {P : α → Prop} {p : Io α} {a : α} (hp : p.Within LeavesBacklog P)
    (h : p.Exec Backlog.allows k (.returned a) k') : k' = k ∧ P a := by
  obtain ⟨hk, hP⟩ := wp_sound (hp.frame allows_leaves k) h
  exact ⟨hk, hP a rfl⟩

theorem reports_leaves {p : Io IoError} (hp : p.Within Reports fun _ => True) :
    p.Within LeavesBacklog fun _ => True := by
  refine hp.mono ?_ fun _ h => h
  intro c hc fd haccept
  rw [haccept] at hc
  exact hc

theorem closeSocket_within (raw : RawTcpServerSocket) :
    raw.closeSocket.Within LeavesBacklog fun raw' => raw'.connectionState = .closed := by
  unfold RawTcpServerSocket.closeSocket
  split
  · assumption
  · exact within_call (fun _ hc => by cases hc) fun _ => rfl

theorem close_within (sock : TcpServerSocket) :
    (sock.close q).Within LeavesBacklog fun r =>
      (∃ raw : RawTcpServerSocket, raw.connectionState = .closed ∧
        r.1 = { sock with socket := raw }) ∧ ∃ c, r.2 = q.removePendingEvents c :=
  within_bind (closeSocket_within sock.socket) fun raw hraw => ⟨⟨raw, hraw, rfl⟩, _, rfl⟩

inductive CallbackEffect (sock : TcpServerSocket) (q : EventQueueImpl) (mask : UInt32) :
    TcpServerSocket → EventQueueImpl → Prop where
  | nothing : mask &&& EPOLLIN = 0 → CallbackEffect sock q mask sock q
  | client : mask &&& EPOLLIN ≠ 0 →
      CallbackEffect sock q mask { sock with clientAvailable := true }
        (q.pushBackEvent (Event.new .clientConnectedEvent sock.eventSourceInfo))
  | error {raw : RawTcpServerSocket} {err : IoError} : mask &&& EPOLLERR ≠ 0 →
      raw.connectionState = .closed →
      CallbackEffect sock q mask { sock with socket := raw }
        (q.pushBackEvent (Event.new (.ioErrorEvent err) sock.eventSourceInfo))

theorem callback_within (sock : TcpServerSocket) (mask : UInt32) :
    (sock.processEpollEvents q mask).Within LeavesBacklog fun r =>
      CallbackEffect sock q mask r.1 r.2 := by
  unfold TcpServerSocket.processEpollEvents
  split
  case isTrue herr =>
    refine within_call (fun _ hc => by cases hc) ?_
    rintro ⟨ret, errno⟩
    show Within _ _ (if _ then _ else _)
    split
    · refine within_bind (reports_leaves (translateError_reports errno false)) ?_
      intro err _
      exact within_bind (closeSocket_within sock.socket) fun _ hraw => .error herr hraw
    · trivial
  case isFalse =>
    split
    case isTrue hin => exact .client hin
    case isFalse hnot => exact .nothing (by simpa using hnot)

inductive RawEffect (raw : RawTcpServerSocket) (k : Backlog γ) :
    IoResult RawTcpSocket → RawTcpServerSocket → Backlog γ → Prop where
  | refused {err : IoError} : raw.connectionState ≠ .connected →
      RawEffect raw k (.error err) raw k
  | accepted {fd : Fd} {client : γ} {rest : List γ} : raw.connectionState = .connected →
      k.waiting = client :: rest →
      RawEffect raw k (.ok (RawTcpSocket.fromFd fd)) raw ⟨rest, k.handed ++ [(fd, client)]⟩
  /-- `accept(2)` fails -/
  | failed {err : IoError} {raw' : RawTcpServerSocket} : raw.connectionState = .connected →
      raw' = raw ∨ raw'.connectionState = .closed → RawEffect raw k (.error err) raw' k

inductive AcceptEffect (sock : TcpServerSocket) (q : EventQueueImpl) (k : Backlog γ) :
    IoResult RawTcpSocket → TcpServerSocket → EventQueueImpl → Backlog γ → Prop where
  /-- `accept(2)` is not called -/
  | refused {err : IoError} :
      sock.socket.connectionState ≠ .connected ∨ sock.clientAvailable = false →
      AcceptEffect sock q k (.error err) sock q k
  | accepted {fd : Fd} {client : γ} {rest : List γ} :
      sock.socket.connectionState = .connected → sock.clientAvailable = true →
      k.waiting = client :: rest →
      AcceptEffect sock q k (.ok (RawTcpSocket.fromFd fd)) { sock with clientAvailable := false }
        q ⟨rest, k.handed ++ [(fd, client)]⟩
  | failed {err : IoError} {raw : RawTcpServerSocket} {q' : EventQueueImpl} :
      sock.socket.connectionState = .connected → sock.clientAvailable = true →
      raw = sock.socket ∨ raw.connectionState = .closed →
      q' = q ∨ (∃ c, q' = q.removePendingEvents c) →
      AcceptEffect sock q k (.error err) { sock with socket := raw } q' k

/-- `accept(2)` is entered only with a backlog of this kind. -/
def Attended (P : Backlog γ → Prop) (k : Backlog γ) (c : Call) : Prop :=
  ∀ fd, c = .retry (.accept fd) → P k

variable {P : Backlog γ → Prop}

theorem leaves_attended (k : Backlog γ) (c : Call) (hc : LeavesBacklog c) : Attended P k c :=
  fun fd haccept => absurd haccept (hc fd)

theorem acceptFailed_within (raw : RawTcpServerSocket) :
    raw.acceptFailed.Within LeavesBacklog fun r =>
      (∃ err, r.1 = .error err) ∧ (r.2 = raw ∨ r.2.connectionState = .closed) := by
  refine within_call (fun _ hc => by cases hc) ?_
  intro errno
  show Within _ _ (if _ then _ else _)
  split
  · refine within_bind (closeSocket_within raw) ?_
    intro raw' hraw'
    exact within_bind (reports_leaves lastError_reports) fun err _ => ⟨⟨err, rfl⟩, .inr hraw'⟩
  · exact within_bind (reports_leaves lastError_reports) fun err _ => ⟨⟨err, rfl⟩, .inl rfl⟩

theorem rawAccept_fit (raw : RawTcpServerSocket)
    (henter : raw.connectionState = .connected → P k) :
    raw.accept.Fit Backlog.allows (Attended P) (fun x k' => ∀ result raw',
      x = .returned (result, raw') → RawEffect raw k result raw' k') k := by
  unfold RawTcpServerSocket.accept
  split
  case isTrue hclosed =>
    intro result raw' hx
    cases hx
    exact .refused hclosed
  case isFalse hopen =>
    have hconnected : raw.connectionState = .connected := by simpa using hopen
    refine ⟨fun _ _ => henter hconnected, ?_⟩
    intro r k₁ hr
    show Fit _ _ (if _ then _ else _) _ _
    rcases hr with ⟨rfl, rfl⟩ | ⟨hfd, client, rest, hk, rfl⟩
    · rw [if_pos rfl]
      have hframe := (acceptFailed_within raw).fit_frame
        (leaves_attended (P := P)) allows_leaves k₁
      refine fit_mono ?_ hframe
      rintro x k' ⟨rfl, hP⟩ result raw' rfl
      obtain ⟨⟨err, rfl⟩, hraw⟩ := hP _ rfl
      exact .failed hconnected hraw
    · have hne : ¬ (r : Int) = -1 := by
        intro hr
        have hbad : (0 : Int) ≤ -1 := hr ▸ hfd
        omega
      rw [if_neg hne]
      intro result raw' hx
      cases hx
      exact .accepted hconnected hk

theorem accept_fit (sock : TcpServerSocket)
    (henter : sock.socket.connectionState = .connected → sock.clientAvailable = true → P k) :
    (sock.accept q).Fit Backlog.allows (Attended P) (fun x k' => ∀ result sock' q',
      x = .returned (result, sock', q') → AcceptEffect sock q k result sock' q' k') k := by
  unfold TcpServerSocket.accept
  simp only
  split
  case isTrue hnone =>
    intro result sock' q' hx
    cases hx
    exact .refused (.inr (by simpa using hnone.2))
  case isFalse hsome =>
    have havailable : sock.socket.connectionState = .connected → sock.clientAvailable = true := by
      intro hconnected
      simpa [hconnected] using hsome
    have hraw := rawAccept_fit (k := k) sock.socket
      fun hconnected => henter hconnected (havailable hconnected)
    rw [fit_bind]
    refine fit_mono ?_ hraw
    intro x k' hx
    cases x with
    | failed msg => simp
    | returned r =>
      obtain ⟨result, raw'⟩ := r
      cases hx result raw' rfl with
      | refused hclosed =>
        show Fit _ _ (if _ then _ else _) _ _
        rw [if_neg (by simp)]
        intro result sock' q' hx
        cases hx
        exact .refused (.inl hclosed)
      | accepted hconnected hk =>
        intro result sock' q' hx
        cases hx
        exact .accepted hconnected (havailable hconnected) hk
      | failed hconnected hraw' =>
        show Fit _ _ (if _ then _ else _) _ _
        split
        · intro result sock' q' hx
          cases hx
          exact .failed hconnected (havailable hconnected) hraw' (.inr ⟨_, rfl⟩)
        · intro result sock' q' hx
          cases hx
          exact .failed hconnected (havailable hconnected) hraw' (.inl rfl)

/-! ## Events that tell of clients -/

/-- The events in the queue that tell of clients. -/
def announced (info : SourceId) (q : EventQueueImpl) : Nat :=
  q.readyEvents.countP (tellsOfClient info)

variable {info : SourceId}

theorem announced_remove (c : Event → Bool) :
    announced info (q.removePendingEvents c) = announced info q := by
  simp only [announced, EventQueueImpl.removePendingEvents, List.countP_map]
  refine List.countP_congr ?_
  intro ev _
  by_cases hc : c ev <;> simp [hc, tellsOfClient]

theorem announced_push (kind : EventKind) :
    announced info (q.pushBackEvent (Event.new kind info)) =
      announced info q + if kind = .clientConnectedEvent then 1 else 0 := by
  by_cases hkind : kind = .clientConnectedEvent <;>
    simp [announced, tellsOfClient, Event.new, hkind]

/-- Events of other sources tell of nothing. -/
theorem announced_pushAll {src : SourceId} (h : src ≠ info) (kinds : List EventKind) :
    announced info (q.pushAll src kinds) = announced info q := by
  have hnone : (kinds.map fun kind => Event.new kind src).countP (tellsOfClient info) = 0 := by
    rw [List.countP_eq_zero]
    intro ev hev
    obtain ⟨kind, -, rfl⟩ := List.mem_map.mp hev
    simp [tellsOfClient, Event.new, h]
  simp [announced, hnone]

theorem announced_own (h : ownEvents info q' = ownEvents info q) :
    announced info q' = announced info q := by
  have hown : ∀ q : EventQueueImpl,
      announced info q = (ownEvents info q).countP (tellsOfClient info) := by
    intro q
    simp only [announced, ownEvents, List.countP_filter]
    refine List.countP_congr ?_
    intro ev _
    simp [tellsOfClient]
  rw [hown, hown, h]

/-- What `next_event` takes is told. -/
theorem announced_loop {phase phase' : Phase} {l : LoopLabel} (h : LoopInv phase q)
    (hstep : LoopStep phase q l phase' q') :
    told info [(.loop l : AcceptLabel γ)] + announced info q' = announced info q := by
  have htake : ∀ {q : EventQueueImpl} {ev : Event} {rest : List Event},
      q.readyEvents = ev :: rest →
      told info [(.loop (.returns (.ok ev)) : AcceptLabel γ)] +
        announced info { q with readyEvents := rest } = announced info q := by
    intro q ev rest hq
    simp only [told, announced, hq, List.countP_cons, List.countP_nil]
    omega
  cases hstep with
  | ready hq => exact htake hq
  | found hq _ => exact htake hq
  | invalid hq hinvalid =>
    have hvalid := h _ (hq ▸ List.mem_cons_self)
    simp [hinvalid] at hvalid
  | mustPoll => simp [told]
  | pollFailed => simp [told]
  | pollIdle => simp [told]
  | nothing => simp [told]

/-! ## The invariant -/

structure AcceptInv (waiting : List γ) (info : SourceId) (tr : List (AcceptLabel γ))
    (s : AcceptState γ) : Prop where
  source : s.sock.eventSourceInfo = info
  loop : LoopInv s.phase s.queue
  available : s.sock.socket.connectionState = .connected → s.sock.clientAvailable = true →
    s.backlog.waiting ≠ [] ∨ LeftSince tr
  inOrder : (s.backlog.handed.map Prod.snd ++ s.backlog.waiting).Sublist (waiting ++ arrived tr)
  account : (waiting ++ arrived tr).Perm
    (s.backlog.handed.map Prod.snd ++ s.backlog.waiting ++ gone tr)
  sockets : accepted tr = s.backlog.handed.map fun h => RawTcpSocket.fromFd h.1
  inTurn : (accepted tr).length + s.sock.clientAvailable.toNat ≤
    told info tr + announced info s.queue

theorem fresh_inv (h : Fresh s) :
    AcceptInv s.backlog.waiting s.sock.eventSourceInfo [] s where
  source := rfl
  loop := by
    rw [h.phase]
    trivial
  available _ havailable := by simp [h.clientAvailable] at havailable
  inOrder := by simp [arrived, h.handed]
  account := by simp [arrived, gone, h.handed]
  sockets := by simp [accepted, h.handed]
  inTurn := by simp [accepted, h.clientAvailable]

variable {waiting : List γ} {tr : List (AcceptLabel γ)}

theorem AcceptInv.accept {result : IoResult RawTcpSocket} {sock : TcpServerSocket}
    (h : AcceptInv waiting info tr s)
    (heffect : AcceptEffect s.sock s.queue s.backlog result sock q k) :
    AcceptInv waiting info (tr ++ [.accept result]) ⟨sock, q, .idle, k⟩ := by
  obtain ⟨hsource, hloop, havailable, hinOrder, haccount, hsockets, hinTurn⟩ := h
  have hnone : arrived [(.accept result : AcceptLabel γ)] = [] := rfl
  have hgone : gone [(.accept result : AcceptLabel γ)] = [] := rfl
  have htold : told info [(.accept result : AcceptLabel γ)] = 0 := rfl
  have hleft : LeftSince tr → LeftSince (tr ++ [.accept result]) := fun h => h.snoc nofun
  cases heffect with
  | @refused err hrefused =>
    have haccepted : accepted [(.accept (.error err) : AcceptLabel γ)] = [] := rfl
    refine ⟨hsource, trivial, fun hc ha => (havailable hc ha).imp_right hleft, ?_, ?_, ?_, ?_⟩
    · simpa [hnone] using hinOrder
    · simpa [hnone, hgone] using haccount
    · simpa [haccepted] using hsockets
    · simpa [haccepted, htold] using hinTurn
  | @accepted fd client rest hconnected hsome hwaiting =>
    have haccepted : accepted [(.accept (.ok (RawTcpSocket.fromFd fd)) : AcceptLabel γ)] =
      [RawTcpSocket.fromFd fd] := rfl
    refine ⟨hsource, trivial, by simp, ?_, ?_, ?_, ?_⟩
    · simpa [hnone, hwaiting] using hinOrder
    · simpa [hnone, hgone, hwaiting] using haccount
    · simp [haccepted, hsockets]
    · simp only [accepted_snoc, haccepted, told_snoc, htold, List.length_append,
        List.length_singleton, hsome, Bool.toNat_true, Bool.toNat_false] at hinTurn ⊢
      omega
  | @failed err _ _ hconnected hsome hraw hqueue =>
    have haccepted : accepted [(.accept (.error err) : AcceptLabel γ)] = [] := rfl
    have hsame : announced info q = announced info s.queue := by
      rcases hqueue with rfl | ⟨c, rfl⟩
      · rfl
      · exact announced_remove c
    refine ⟨hsource, trivial, fun _ _ => (havailable hconnected hsome).imp_right hleft,
      ?_, ?_, ?_, ?_⟩
    · simpa [hnone] using hinOrder
    · simpa [hnone, hgone] using haccount
    · simpa [haccepted] using hsockets
    · simpa [haccepted, htold, hsame] using hinTurn

theorem AcceptInv.callback {mask : UInt32} {sock : TcpServerSocket}
    (h : AcceptInv waiting info tr s) (hphase : s.phase = .polling)
    (hreport : mask &&& EPOLLIN ≠ 0 → s.backlog.waiting ≠ [])
    (heffect : CallbackEffect s.sock s.queue mask sock q) :
    AcceptInv waiting info (tr ++ [.callback mask]) ⟨sock, q, .checking, s.backlog⟩ := by
  obtain ⟨hsource, hloop, havailable, hinOrder, haccount, hsockets, hinTurn⟩ := h
  have hnone : arrived [(.callback mask : AcceptLabel γ)] = [] := rfl
  have hgone : gone [(.callback mask : AcceptLabel γ)] = [] := rfl
  have haccepted : accepted [(.callback mask : AcceptLabel γ)] = [] := rfl
  have htold : told info [(.callback mask : AcceptLabel γ)] = 0 := rfl
  rw [hphase] at hloop
  have hdry : s.queue.readyEvents = [] := hloop
  cases heffect with
  | nothing hnot =>
    refine ⟨hsource, by simp [LoopInv, hdry], ?_, ?_, ?_, ?_, ?_⟩
    · intro hconnected hsome
      refine (havailable hconnected hsome).imp_right fun h => h.snoc ?_
      rintro _ ⟨⟩
      exact hnot
    · simpa [hnone] using hinOrder
    · simpa [hnone, hgone] using haccount
    · simpa [haccepted] using hsockets
    · simpa [haccepted, htold] using hinTurn
  | client hin =>
    refine ⟨hsource, ?_, fun _ _ => .inl (hreport hin), ?_, ?_, ?_, ?_⟩
    · simp [LoopInv, hdry, Event.new]
    · simpa [hnone] using hinOrder
    · simpa [hnone, hgone] using haccount
    · simpa [haccepted] using hsockets
    · have hle := s.sock.clientAvailable.toNat_le
      have hpush := @announced_push s.queue info .clientConnectedEvent
      simp only [accepted_snoc, haccepted, told_snoc, htold, hsource, hpush, if_true,
        List.append_nil, Bool.toNat_true] at hinTurn ⊢
      omega
  | error _ hraw =>
    refine ⟨hsource, ?_, ?_, ?_, ?_, ?_, ?_⟩
    · simp [LoopInv, hdry, Event.new]
    · intro hconnected
      cases hraw.symm.trans hconnected
    · simpa [hnone] using hinOrder
    · simpa [hnone, hgone] using haccount
    · simpa [haccepted] using hsockets
    · simpa [haccepted, htold, hsource, announced_push] using hinTurn

/-- Steps that are about the queue only. -/
theorem AcceptInv.queue {l : AcceptLabel γ} {phase : Phase} (h : AcceptInv waiting info tr s)
    (hloop : LoopInv phase q) (hcallback : ∀ mask, l ≠ .callback mask) (harrived : arrived [l] = [])
    (hgone : gone [l] = []) (haccepted : accepted [l] = [])
    (htold : told info [l] + announced info q = announced info s.queue) :
    AcceptInv waiting info (tr ++ [l]) { s with phase, queue := q } where
  source := h.source
  loop := hloop
  available hconnected hsome := by
    refine (h.available hconnected hsome).imp_right fun h => h.snoc ?_
    exact fun mask hl => absurd hl (hcallback mask)
  inOrder := by simpa [harrived] using h.inOrder
  account := by simpa [harrived, hgone] using h.account
  sockets := by simpa [haccepted] using h.sockets
  inTurn := by
    have hinTurn := h.inTurn
    simp only [accepted_snoc, haccepted, told_snoc, List.append_nil] at hinTurn ⊢
    omega

/-- A client arrives at the end of the line. -/
theorem AcceptInv.arrive (h : AcceptInv waiting info tr s) (client : γ) :
    AcceptInv waiting info (tr ++ [.arrive client])
      { s with backlog := { s.backlog with waiting := s.backlog.waiting ++ [client] } } where
  source := h.source
  loop := h.loop
  available _ _ := .inl (by simp)
  inOrder := by simpa [arrived] using h.inOrder.append (.refl [client])
  account := by
    have hgone : gone [(.arrive client : AcceptLabel γ)] = [] := rfl
    have hend := h.account.append_right [client]
    simp only [List.append_assoc] at hend
    simp only [arrived_snoc, gone_snoc, hgone, List.append_nil, List.append_assoc]
    exact hend.trans (List.Perm.append_left _ (List.Perm.append_left _ List.perm_append_comm))
  sockets := by simpa [accepted] using h.sockets
  inTurn := by simpa [accepted, told] using h.inTurn

/-- A client leaves the line. -/
theorem AcceptInv.leave {client : γ} {before behind : List γ}
    (h : AcceptInv waiting info tr s) (hwaiting : s.backlog.waiting = before ++ client :: behind) :
    AcceptInv waiting info (tr ++ [.leave client])
      { s with backlog := { s.backlog with waiting := before ++ behind } } where
  source := h.source
  loop := h.loop
  available _ _ := .inr (leftSince_leave tr client)
  inOrder := by
    have hnone : arrived [(.leave client : AcceptLabel γ)] = [] := rfl
    have hless : (before ++ behind).Sublist s.backlog.waiting := by
      rw [hwaiting]
      exact (List.Sublist.refl before).append (List.sublist_cons_self client behind)
    simpa [hnone] using ((List.Sublist.refl _).append hless).trans h.inOrder
  account := by
    have hnone : arrived [(.leave client : AcceptLabel γ)] = [] := rfl
    have hgone : gone [(.leave client : AcceptLabel γ)] = [client] := rfl
    have haccount := h.account
    rw [hwaiting] at haccount
    simp only [arrived_snoc, hnone, gone_snoc, hgone, List.append_nil]
    refine haccount.trans ?_
    simp only [List.append_assoc, List.cons_append]
    refine List.Perm.append_left _ (List.Perm.append_left _ ?_)
    rw [← List.append_assoc]
    exact (List.perm_append_singleton client (behind ++ gone tr)).symm
  sockets := by simpa [accepted] using h.sockets
  inTurn := by simpa [accepted, told] using h.inTurn

theorem acceptEffect_of_exec {result : IoResult RawTcpSocket} {sock : TcpServerSocket}
    (hx : (s.sock.accept s.queue).Exec Backlog.allows s.backlog
      (.returned (result, sock, q)) k) :
    AcceptEffect s.sock s.queue s.backlog result sock q k :=
  fit_sound (accept_fit (P := fun _ => True) s.sock fun _ _ => trivial) hx result sock q rfl

theorem step_inv {l : AcceptLabel γ} (h : AcceptInv waiting info tr s) (hstep : AcceptStep s l t) :
    AcceptInv waiting info (tr ++ [l]) t := by
  cases hstep with
  | loop hloop =>
    exact h.queue (h.loop.step hloop) (by simp) rfl rfl rfl (announced_loop h.loop hloop)
  | @others queue hphase hown =>
    rw [h.source] at hown
    refine h.queue (by simp [hphase, LoopInv]) (by simp) rfl rfl rfl ?_
    simpa [told] using announced_own hown
  | @report src kinds hphase hsrc =>
    have hloop := h.loop
    rw [hphase] at hloop
    rw [h.source] at hsrc
    refine h.queue (hloop.pushed src kinds) (by simp) rfl rfl rfl ?_
    simpa [told] using announced_pushAll hsrc kinds
  | arrive => exact h.arrive _
  | leave hwaiting => exact h.leave hwaiting
  | accept hphase hx => exact h.accept (acceptEffect_of_exec hx)
  | close hphase hx =>
    obtain ⟨rfl, ⟨raw, hclosed, rfl⟩, c, rfl⟩ := exec_leaves (close_within s.sock) hx
    refine ⟨h.source, trivial, ?_, ?_, ?_, ?_, ?_⟩
    · intro hconnected
      cases hclosed.symm.trans hconnected
    · simpa [arrived] using h.inOrder
    · simpa [arrived, gone] using h.account
    · simpa [accepted] using h.sockets
    · simpa [accepted, told, announced_remove] using h.inTurn
  | callback hphase hopen hreport hx =>
    obtain ⟨rfl, heffect⟩ := exec_leaves (callback_within s.sock _) hx
    exact h.callback hphase hreport heffect

theorem run_inv (h0 : Fresh s) (h : Run AcceptStep s tr t) :
    AcceptInv s.backlog.waiting s.sock.eventSourceInfo tr t :=
  h.traceInvariant (fresh_inv h0) fun _ _ _ _ => step_inv

/-! ## What a socket can do -/

theorem rawAccept_exec {raw : RawTcpServerSocket} {fd : Fd} {client : γ} {rest : List γ}
    (hconnected : raw.connectionState = .connected) (hwaiting : k.waiting = client :: rest)
    (hfd : 0 ≤ fd) :
    raw.accept.Exec Backlog.allows k (.returned (.ok (RawTcpSocket.fromFd fd), raw))
      ⟨rest, k.handed ++ [(fd, client)]⟩ := by
  have hne : ¬ fd = -1 := by
    rintro rfl
    exact absurd hfd (by decide)
  unfold RawTcpServerSocket.accept
  rw [if_neg (by simp [hconnected])]
  simp only [retry_eq, call_bind, ret_bind, exec_call]
  refine ⟨fd, _, .inr ⟨hfd, client, rest, hwaiting, rfl⟩, ?_⟩
  rw [if_neg hne]
  exact ⟨rfl, rfl⟩

/-- A client that has been announced can be accepted. -/
theorem accept_step {fd : Fd} {client : γ} {rest : List γ} (hphase : s.phase = .idle)
    (hconnected : s.sock.socket.connectionState = .connected)
    (havailable : s.sock.clientAvailable = true) (hwaiting : s.backlog.waiting = client :: rest)
    (hfd : 0 ≤ fd) :
    AcceptStep s (.accept (.ok (RawTcpSocket.fromFd fd)))
      ⟨{ s.sock with clientAvailable := false }, s.queue, .idle,
        ⟨rest, s.backlog.handed ++ [(fd, client)]⟩⟩ := by
  refine .accept hphase ?_
  unfold TcpServerSocket.accept
  simp only
  rw [if_neg (by simp [havailable]), exec_bind]
  exact ⟨_, _, rawAccept_exec hconnected hwaiting hfd, rfl, rfl⟩

/-- A client that is waiting can be announced. -/
theorem callback_step (hphase : s.phase = .polling)
    (hconnected : s.sock.socket.connectionState = .connected) (hwaiting : s.backlog.waiting ≠ []) :
    AcceptStep s (.callback EPOLLIN)
      ⟨{ s.sock with clientAvailable := true },
        s.queue.pushBackEvent (Event.new .clientConnectedEvent s.sock.eventSourceInfo),
        .checking, s.backlog⟩ := by
  refine .callback hphase (by simp [hconnected]) (fun _ => hwaiting) ?_
  unfold TcpServerSocket.processEpollEvents
  rw [if_neg (by decide), if_pos (by decide)]
  exact ⟨rfl, rfl⟩

/-! ## The result -/

end Revbio.Accept
