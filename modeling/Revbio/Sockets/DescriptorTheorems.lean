/-
Revbio.Sockets.DescriptorTheorems — a socket's descriptor is closed once,
and no call comes after.

The account of a slot goes with its owner, whatever operation comes next
and however it ends. So the account is never spoilt, and what it says of
the list of calls is the result (`descriptors_closed_once`).
-/
import Revbio.Sockets.AccountTheorems

namespace Revbio.Sockets

open CallTree Prog Epoll Function

variable {T α : Type} {ws : WordSize} {host : Endian}

/-! ## Accepted descriptors -/

/-- An accept ends with an open socket for the descriptor it was given, or
it was given none. -/
def HandsOver {σ : Type} (tr : Trace) (x : Exit (IoResult RawTcpSocket × σ)) : Prop :=
  ∃ result rest, x = .returned (result, rest) ∧ match result with
    | .ok raw => acceptedBy tr = [raw.fd] ∧ raw.connectionState = .connected
    | .error _ => acceptedBy tr = []

/-- Calls that accept nothing. -/
def NoAccept (c : Call) : Prop := ∀ r, acceptFd c r = none

theorem acceptedBy_noAccept {p : Io α} {P : α → Prop} {tr : Trace} {x : Exit α}
    (hp : p.Within NoAccept P) (htr : p.Traced tr x) : acceptedBy tr = [] :=
  List.filterMap_eq_nil_iff.mpr fun c hc => hp.traced htr c hc c.2

theorem lastError_noAccept : lastError.Within NoAccept fun _ => True := by
  refine lastError_reports.mono ?_ fun _ h => h
  intro c hc
  exact hc.each (fun _ => rfl) (fun _ => rfl) (fun _ _ => rfl) fun _ _ => rfl

theorem acceptFailed_noAccept (s : RawTcpServerSocket) :
    s.acceptFailed.Within NoAccept fun _ => True := by
  refine within_call (fun _ => rfl) fun errno => ?_
  show Within _ _ (if _ then _ else _)
  split
  · have hclose : s.closeSocket.Within NoAccept fun _ => True := by
      unfold RawTcpServerSocket.closeSocket
      split
      · trivial
      · exact within_call (fun _ => rfl) fun _ => trivial
    exact within_bind hclose fun _ _ => within_bind lastError_noAccept fun _ _ => trivial
  · exact within_bind lastError_noAccept fun _ _ => trivial

theorem accept_handsOver {s : RawTcpServerSocket} {tr : Trace}
    {x : Exit (IoResult RawTcpSocket × RawTcpServerSocket)} (h : s.accept.Traced tr x) :
    HandsOver tr x := by
  unfold RawTcpServerSocket.accept at h
  split at h
  · obtain ⟨rfl, rfl⟩ := h
    exact ⟨_, _, rfl, rfl⟩
  · obtain ⟨r, tr', rfl, h⟩ := h
    change (if (r : Int) = -1 then _ else _ : Io _).Traced _ _ at h
    split at h
    case isTrue hr =>
      have hends := h.wp (acceptFailed_leads (F := fun _ => False) s)
      have hnone := acceptedBy_noAccept (acceptFailed_noAccept s) h
      have hcons : acceptedBy (⟨_, r⟩ :: tr') = acceptedBy tr' :=
        List.filterMap_cons_none (if_pos hr)
      cases x with
      | failed msg => exact hends.elim
      | returned a =>
        obtain ⟨result, s'⟩ := a
        cases result with
        | ok raw => cases hends.2
        | error err => exact ⟨_, _, rfl, hcons.trans hnone⟩
    case isFalse hr =>
      obtain ⟨rfl, rfl⟩ := h
      refine ⟨_, _, rfl, ?_, rfl⟩
      exact List.filterMap_cons_some (if_neg hr)

theorem server_accept_handsOver {s : TcpServerSocket} {q : EventQueueImpl} {tr : Trace}
    {x : Exit (IoResult RawTcpSocket × TcpServerSocket × EventQueueImpl)}
    (h : (s.accept q).Traced tr x) : HandsOver tr x := by
  unfold TcpServerSocket.accept at h
  simp only at h
  split at h
  · obtain ⟨rfl, rfl⟩ := h
    exact ⟨_, _, rfl, rfl⟩
  · rcases (traced_bind _ _ _ _).mp h with ⟨⟨ret, raw⟩, tr₁, tr₂, rfl, hp, hf⟩ | ⟨msg, rfl, hp⟩
    · obtain ⟨result, s', heq, haccepted⟩ := accept_handsOver hp
      cases heq
      simp only at hf
      split at hf
      · obtain ⟨rfl, rfl⟩ := hf
        exact ⟨_, _, rfl, by simpa using haccepted⟩
      · split at hf
        · obtain ⟨rfl, rfl⟩ := hf
          exact ⟨_, _, rfl, by simpa using haccepted⟩
        · obtain ⟨rfl, rfl⟩ := hf
          exact ⟨_, _, rfl, by simpa using haccepted⟩
    · obtain ⟨_, _, heq, _⟩ := accept_handsOver hp
      cases heq

/-! ## Objects -/

/-- The account that goes with an object. -/
def Stands : Object T → Descriptor → Prop
  | .rawTcp s, m => m = rawStands s
  | .rawServer s, m => m = serverStands s
  | .tcp s, m => m = tcpStands s
  | .server s, m => m = tcpServerStands s
  | _, _ => False

/-- The account that goes with the owner of a slot. -/
def Owned : Option (Object T) → Descriptor → Prop
  | some o, m => Stands o m
  | none, m => m.Gone

theorem standsFor_ne_misused (state : ConnectionState) (fd : Fd) :
    standsFor state fd ≠ .misused := by
  unfold standsFor
  split <;> nofun

theorem owned_ne_misused {o : Option (Object T)} {m : Descriptor} (h : Owned o m) :
    m ≠ .misused := by
  cases o with
  | none => rcases h with rfl | ⟨fd, rfl⟩ <;> nofun
  | some o =>
    cases o with
    | rawTcp s => exact h ▸ standsFor_ne_misused _ _
    | rawServer s => exact h ▸ standsFor_ne_misused _ _
    | tcp s => exact h ▸ standsFor_ne_misused _ _
    | server s => exact h ▸ standsFor_ne_misused _ _
    | _ => exact h.elim

section Objects

variable {q : EventQueueImpl} {o : Object T} {m : Descriptor}

theorem owned_created {f : α → Object T} {g : α → Descriptor} {r : IoResult α}
    (hf : ∀ a, Stands (f a) (g a)) (h : Made g r m) : Owned (created f r) m := by
  cases r with
  | ok a => exact h ▸ hf a
  | error err => exact h

theorem connectBoxed_leads (this : Ptr) (info : SourceId) (q : EventQueueImpl)
    {r : IoResult RawTcpSocket} (h : Made rawStands r m) :
    Leads m (connectBoxed this info q r) (fun r m => Made tcpStands r.1 m) fun _ => True := by
  cases r with
  | error err => exact h
  | ok raw =>
    obtain rfl : m = rawStands raw := h
    refine leads_bind (fromRawTcpSocket_leads this info raw q trivial) ?_
    intro s m hm
    split
    · exact hm
    · exact hm

/-- Every constructor leaves an owner, or nothing open. -/
theorem create_leads {c : Creation} (hc : makesSocket c) (this : Ptr) (info : SourceId)
    (q : EventQueueImpl) :
    Leads .none (c.run host this info q) (fun r m => Owned (T := T) r.1 m) fun _ => True := by
  cases c with
  | rawTcpSocket addr =>
    refine leads_bind (connect_leads addr) fun r m hr => ?_
    exact owned_created (fun _ => rfl) hr
  | rawTcpServerSocket addr backlog =>
    refine leads_bind (bind_leads addr backlog) fun r m hr => ?_
    exact owned_created (fun _ => rfl) hr
  | tcpSocket addr =>
    refine leads_bind ?_ fun r m hr => owned_created (fun _ => rfl) hr
    rw [connect_eq]
    exact leads_bind (connectRaw_leads addr) fun r m hr => connectBoxed_leads this info q hr
  | tcpServerSocket addr backlog =>
    have hbind : Leads .none (TcpServerSocket.bind host this info addr backlog q)
        (Made tcpServerStands) fun _ => True := by
      refine leads_bind (bind_leads addr backlog) ?_
      rintro (err | raw) m hr
      · exact hr
      · obtain rfl : m = serverStands raw := hr
        exact leads_bind (fromRawServerSocket_leads this info raw q trivial) fun _ _ hm => hm
    exact leads_bind hbind fun r m hr => owned_created (fun _ => rfl) hr
  | channel => exact hc.elim
  | timer => exact hc.elim

theorem rawPart_leads {c : Creation} {p : Io (Option (Object T))}
    (hp : rawPart host c = some p) : Leads .none p Owned fun _ => False := by
  cases c with
  | tcpSocket addr =>
    obtain rfl := Option.some.inj hp
    refine leads_bind (connectRaw_leads addr) fun r m hr => ?_
    exact owned_created (fun _ => rfl) hr
  | tcpServerSocket addr backlog =>
    obtain rfl := Option.some.inj hp
    refine leads_bind (bind_leads addr backlog) fun r m hr => ?_
    exact owned_created (fun _ => rfl) hr
  | _ => cases hp

theorem pure_not_failed {a : α} {tr : Trace} {msg : String} :
    ¬ (pure a : Io α).Traced tr (.failed msg) := by
  rintro ⟨-, ⟨⟩⟩

/-- A failure of a sequence that cannot come from its second part. -/
theorem failed_bind {β : Type} {p : Io α} {f : α → Io β} {tr : Trace} {msg : String}
    (hf : ∀ a tr', ¬ (f a).Traced tr' (.failed msg)) (h : (p >>= f).Traced tr (.failed msg)) :
    p.Traced tr (.failed msg) := by
  rcases (traced_bind _ _ _ _).mp h with ⟨a, tr₁, tr₂, -, -, hrest⟩ | ⟨_, heq, hp⟩
  · exact absurd hrest (hf a tr₂)
  · cases heq
    exact hp

theorem bind_failed {β : Type} {p : Io α} {f : α → Io β} {tr : Trace} {msg : String}
    (h : p.Traced tr (.failed msg)) : (p >>= f).Traced tr (.failed msg) :=
  (traced_bind _ _ _ _).mpr (.inr ⟨msg, rfl, h⟩)

/-- A constructor of a socket fails only while it registers a boxed socket:
`Step.createFailed` leaves none out. -/
theorem create_failed {c : Creation} (hc : makesSocket c) {this : Ptr} {info : SourceId}
    {tr : Trace} {msg : String}
    (h : (c.run (T := T) host this info q).Traced tr (.failed msg)) :
    ∃ p o tr₁ p' tr₂, rawPart (T := T) host c = some p ∧ p.Traced tr₁ (.returned (some o)) ∧
      o.convert this info q = some p' ∧ p'.Traced tr₂ (.failed msg) ∧ tr = tr₁ ++ tr₂ := by
  cases c with
  | rawTcpSocket addr =>
    have hconnect := failed_bind (fun _ _ => pure_not_failed) h
    exact (hconnect.wp (connect_leads (F := fun _ => False) addr)).elim
  | rawTcpServerSocket addr backlog =>
    have hbind := failed_bind (fun _ _ => pure_not_failed) h
    exact (hbind.wp (bind_leads (F := fun _ => False) addr backlog)).elim
  | tcpSocket addr =>
    have hconnect := failed_bind (fun _ _ => pure_not_failed) h
    rw [connect_eq] at hconnect
    rcases (traced_bind _ _ _ _).mp hconnect with ⟨r, tr₁, tr₂, rfl, hraw, hbox⟩ | ⟨_, _, hraw⟩
    · cases r with
      | error err => exact absurd hbox pure_not_failed
      | ok raw =>
        have hfrom : (TcpSocket.fromRawTcpSocket this info raw q).Traced tr₂ (.failed msg) := by
          refine failed_bind ?_ hbox
          intro s tr' hs
          split at hs <;> exact pure_not_failed hs
        refine ⟨_, .rawTcp raw, tr₁, _, tr₂, rfl, ?_, rfl, bind_failed hfrom, rfl⟩
        exact (traced_bind _ _ _ _).mpr
          (.inl ⟨_, tr₁, [], (List.append_nil tr₁).symm, hraw, rfl, rfl⟩)
    · exact (hraw.wp (connectRaw_leads (F := fun _ => False) addr)).elim
  | tcpServerSocket addr backlog =>
    have hbind := failed_bind (fun _ _ => pure_not_failed) h
    rcases (traced_bind _ _ _ _).mp hbind with ⟨r, tr₁, tr₂, rfl, hraw, hbox⟩ | ⟨_, _, hraw⟩
    · cases r with
      | error err => exact absurd hbox pure_not_failed
      | ok raw =>
        have hfrom := failed_bind (fun _ _ => pure_not_failed) hbox
        refine ⟨_, .rawServer raw, tr₁, _, tr₂, rfl, ?_, rfl, bind_failed hfrom, rfl⟩
        exact (traced_bind _ _ _ _).mpr
          (.inl ⟨_, tr₁, [], (List.append_nil tr₁).symm, hraw, rfl, rfl⟩)
    · exact (hraw.wp (bind_leads (F := fun _ => False) addr backlog)).elim
  | channel => exact hc.elim
  | timer => exact hc.elim

theorem convert_leads {this : Ptr} {info : SourceId} {p : Io (Object T × EventQueueImpl)}
    (hp : o.convert this info q = some p) (hm : Stands o m) :
    Leads m p (fun r m' => Stands r.1 m') (Stands (boxed this info o)) := by
  cases o with
  | rawTcp raw =>
    obtain rfl := Option.some.inj hp
    obtain rfl : m = rawStands raw := hm
    exact leads_bind (fromRawTcpSocket_leads this info raw q rfl) fun _ _ hs => hs
  | rawServer raw =>
    obtain rfl := Option.some.inj hp
    obtain rfl : m = serverStands raw := hm
    exact leads_bind (fromRawServerSocket_leads this info raw q rfl) fun _ _ hs => hs
  | tcp s => cases hp
  | server s => cases hp
  | _ => exact hm.elim

/-- The methods of sockets do not fail. -/
theorem method_leads {a : Method T} {p : Io (Object T × EventQueueImpl)}
    {F : Descriptor → Prop} (hp : o.method ws q a = some p) (hm : Stands o m) :
    Leads m p (fun r m' => Stands r.1 m') F := by
  unfold Object.method at hp
  split at hp
  case h_1 s =>
    obtain rfl : m = rawStands s := hm
    obtain rfl := Option.some.inj hp
    exact leads_bind (closeSocket_leads s) fun _ _ hs => hs.1
  case h_2 s len =>
    obtain rfl : m = rawStands s := hm
    obtain rfl := Option.some.inj hp
    exact leads_bind (write_leads s len) fun _ _ hs => hs
  case h_3 s len =>
    obtain rfl : m = rawStands s := hm
    obtain rfl := Option.some.inj hp
    exact leads_bind (read_leads s len) fun _ _ hs => hs
  case h_4 s =>
    obtain rfl : m = serverStands s := hm
    obtain rfl := Option.some.inj hp
    exact leads_bind (server_closeSocket_leads s) fun _ _ hs => hs.1
  case h_6 s =>
    obtain rfl : m = tcpStands s := hm
    obtain rfl := Option.some.inj hp
    exact leads_bind (tcp_close_leads s q) fun _ _ hs => hs
  case h_7 s len =>
    obtain rfl : m = tcpStands s := hm
    obtain rfl := Option.some.inj hp
    exact leads_bind (tcp_write_leads s len q) fun _ _ hs => hs
  case h_8 s len =>
    obtain rfl : m = tcpStands s := hm
    obtain rfl := Option.some.inj hp
    exact leads_bind (tcp_read_leads s len q) fun _ _ hs => hs
  case h_9 s =>
    obtain rfl : m = tcpServerStands s := hm
    obtain rfl := Option.some.inj hp
    exact leads_bind (server_close_leads s q) fun _ _ hs => hs
  case h_15 => cases hp
  all_goals exact hm.elim

/-- A callback comes while the descriptor is open. -/
theorem callback_leads {mask : UInt32} {fd : Fd} {p : Io (Object T × EventQueueImpl)}
    (hp : o.processEpollEvents ws q mask = some p) (hm : Stands o m) (hopen : m = .opened fd) :
    Leads m p (fun r m' => Stands r.1 m') (Stands (left o (.callback mask))) := by
  cases o with
  | tcp s =>
    obtain rfl : m = tcpStands s := hm
    obtain rfl := Option.some.inj hp
    have hstate : s.socket.connectionState ≠ .closed := by
      intro h
      simp [tcpStands, rawStands, h] at hopen
    have hleft : tcpStands s = tcpStands (leftByCallback mask s) := by
      unfold leftByCallback
      split
      · rfl
      · exact standsFor_open hstate s.socket.fd
    exact leads_bind (tcp_callback_leads s q mask hstate hleft) fun _ _ hs => hs
  | server s =>
    obtain rfl : m = tcpServerStands s := hm
    obtain rfl := Option.some.inj hp
    have hstate : s.socket.connectionState ≠ .closed := by
      intro h
      simp [tcpServerStands, serverStands, h] at hopen
    exact leads_bind (server_callback_leads s q mask hstate rfl) fun _ _ hs => hs
  | rawTcp s => cases hp
  | rawServer s => cases hp
  | _ => exact hm.elim

theorem handsOver_owned {σ : Type} {tr : Trace} {result : IoResult RawTcpSocket} {rest : σ}
    (h : HandsOver tr (.returned (result, rest))) :
    Owned (created (Object.rawTcp (T := T)) result) (.begin (acceptedBy tr)) := by
  obtain ⟨result, rest, heq, haccepted⟩ := h
  cases heq
  cases result with
  | ok raw =>
    obtain ⟨hone, hstate⟩ := haccepted
    rw [hone]
    exact (standsFor_open (by simp [hstate]) raw.fd).symm
  | error err =>
    rw [show acceptedBy tr = [] from haccepted]
    exact .inl rfl

/-- Accepting keeps the listening socket's account, and what it is given has
an owner. -/
theorem accept_owned {p : Io (Option (Object T) × Object T × EventQueueImpl)} {tr : Trace}
    {x : Exit (Option (Object T) × Object T × EventQueueImpl)} (hp : o.accept q = some p)
    (hm : Stands o m) (htr : p.Traced tr x) :
    Stands (ownersAfter o x).2 (account Descriptor.note m tr) ∧
      Owned (ownersAfter o x).1 (.begin (acceptedBy tr)) := by
  cases o with
  | rawServer s =>
    obtain rfl : m = serverStands s := hm
    obtain rfl := Option.some.inj hp
    rcases (traced_bind _ _ _ _).mp htr with ⟨⟨result, s'⟩, tr₁, _, rfl, h, rfl, rfl⟩ | ⟨_, _, h⟩
    · rw [List.append_nil]
      exact ⟨h.wp (accept_leads (F := fun _ => False) s), handsOver_owned (accept_handsOver h)⟩
    · obtain ⟨_, _, heq, _⟩ := accept_handsOver h
      cases heq
  | server s =>
    obtain rfl : m = tcpServerStands s := hm
    obtain rfl := Option.some.inj hp
    rcases (traced_bind _ _ _ _).mp htr with
      ⟨⟨result, s', q'⟩, tr₁, _, rfl, h, rfl, rfl⟩ | ⟨_, _, h⟩
    · rw [List.append_nil]
      exact ⟨h.wp (server_accept_leads (F := fun _ => False) s q),
        handsOver_owned (server_accept_handsOver h)⟩
    · obtain ⟨_, _, heq, _⟩ := server_accept_handsOver h
      cases heq
  | rawTcp s => cases hp
  | tcp s => cases hp
  | _ => exact hm.elim

theorem drop_leads_object {F : Descriptor → Prop} (hm : Stands o m) :
    Leads m (o.drop q) (fun _ m' => m'.Gone) F := by
  cases o with
  | rawTcp s =>
    obtain rfl : m = rawStands s := hm
    exact leads_bind (drop_leads s) fun _ _ hs => .inr ⟨_, hs⟩
  | rawServer s =>
    obtain rfl : m = serverStands s := hm
    exact leads_bind (server_drop_leads s) fun _ _ hs => .inr ⟨_, hs⟩
  | tcp s =>
    obtain rfl : m = tcpStands s := hm
    exact leads_mono (tcp_drop_leads s q) fun _ _ hs => .inr ⟨_, hs⟩
  | server s =>
    obtain rfl : m = tcpServerStands s := hm
    exact leads_mono (server_boxed_drop_leads s q) fun _ _ hs => .inr ⟨_, hs⟩
  | _ => exact hm.elim

end Objects

/-! ## Slots -/

def Slot.account (s : Slot T) : Descriptor :=
  CallTree.Prog.account Descriptor.note (.begin s.accepted) s.calls

/-- The account of a slot goes with its owner. -/
def Kept (s : Slot T) : Prop := Owned s.object s.account

@[simp] theorem goOn_object (s : Slot T) (o : Option (Object T)) (tr : Trace) :
    (s.goOn o tr).object = o := rfl

theorem goOn_account (s : Slot T) (o : Option (Object T)) (tr : Trace) :
    (s.goOn o tr).account = account Descriptor.note s.account tr :=
  account_append _ _ _

@[simp] theorem unused_account : (Slot.unused : Slot T).account = .none := rfl

theorem kept_unused : Kept (Slot.unused : Slot T) := .inl rfl

/-- What is watched is the open descriptor. -/
def Watches (m : Descriptor) (watched : Option Fd) : Prop :=
  watched = none ∨ m = .misused ∨ ∃ fd, watched = some fd ∧ m = .opened fd

/-- A watch is changed by a registration, or it is given up. -/
theorem watch_cases (watched : Option Fd) (c : Call) (r : c.Ret) :
    (watch watched c r = watched ∧ ∀ fd, watched = some fd → closes fd c = false) ∨
      watch watched c r = none ∨
      ∃ fd, watch watched c r = some fd ∧ issuedOn c = some fd ∧ socketFd c r = none ∧
        ∀ fd', closes fd' c = false := by
  unfold watch
  split
  · split
    · exact .inr (.inr ⟨_, rfl, rfl, rfl, fun _ => rfl⟩)
    · exact .inl ⟨rfl, fun _ _ => rfl⟩
  · split
    · exact .inr (.inl rfl)
    · exact .inl ⟨rfl, fun _ _ => rfl⟩
  · split
    · exact .inr (.inl rfl)
    case isFalse h => exact .inl ⟨rfl, fun fd hfd => by simp_all [closes, eq_comm]⟩
  · split
    · exact .inr (.inl rfl)
    case isFalse h => exact .inl ⟨rfl, fun fd hfd => by simp_all [closes, eq_comm]⟩
  case h_5 hclose hretry =>
    refine .inl ⟨rfl, fun fd _ => ?_⟩
    unfold closes
    split
    · exact (hclose _ _ rfl HEq.rfl).elim
    · exact (hretry _ _ rfl HEq.rfl).elim
    · rfl

theorem watches_note {m : Descriptor} {watched : Option Fd} (h : Watches m watched) (c : Call)
    (r : c.Ret) : Watches (m.note c r) (watch watched c r) := by
  rcases watch_cases watched c r with ⟨hwatch, hclose⟩ | hwatch | ⟨fd, hwatch, hon, hsocket, hcl⟩
  · rw [hwatch]
    rcases h with hnone | rfl | ⟨fd, hfd, rfl⟩
    · exact .inl hnone
    · exact .inr (.inl rfl)
    · simp only [Descriptor.note, hclose fd hfd]
      split
      · exact .inr (.inl rfl)
      · split
        · contradiction
        · split
          · exact .inr (.inr ⟨fd, hfd, rfl⟩)
          · exact .inr (.inl rfl)
  · exact .inl hwatch
  · -- a registration is a call on `fd`
    refine .inr ?_
    cases m with
    | opened fd' =>
      simp only [Descriptor.note, hsocket, hcl, hon]
      by_cases hfd : fd = fd'
      · exact .inr ⟨fd, hwatch, by simp [hfd]⟩
      · exact .inl (by simp [hfd])
    | _ => exact .inl (by simp [Descriptor.note, hsocket, hon])

theorem watches_account {m : Descriptor} {watched : Option Fd} (h : Watches m watched)
    (tr : Trace) : Watches (account Descriptor.note m tr) (account watch watched tr) := by
  induction tr generalizing m watched with
  | nil => exact h
  | cons c tr ih => exact ih (watches_note h c.1 c.2)

theorem watched_open {s : Slot T} (h : Kept s) (hwatched : s.watched ≠ none) :
    ∃ fd, s.account = .opened fd := by
  have hwatches : Watches s.account s.watched := watches_account (.inl rfl) s.calls
  rcases hwatches with hnone | hmisused | ⟨fd, -, hopen⟩
  · exact absurd hnone hwatched
  · exact absurd hmisused (owned_ne_misused h)
  · exact ⟨fd, hopen⟩

theorem kept_update {s : Ptr → Slot T} {new : Slot T} (h : ∀ i, Kept (s i)) (i : Ptr)
    (hnew : Kept new) : ∀ j, Kept (update s i new j) := by
  intro j
  by_cases hj : j = i
  · rw [hj, update_self]
    exact hnew
  · rw [update_of_ne hj]
    exact h j

/-- The account after an operation, whichever way it ends. -/
theorem operate_owned {q : EventQueueImpl} {o : Object T} {m : Descriptor} {op : Operation T}
    {p : Io (Object T × EventQueueImpl)} {tr : Trace} {x : Exit (Object T × EventQueueImpl)}
    (hp : operate ws q o op = some p) (hm : Stands o m)
    (hcallback : ∀ mask, op = .callback mask → ∃ fd, m = .opened fd) (htr : p.Traced tr x) :
    Stands (ownerAfter (left o op) x) (account Descriptor.note m tr) := by
  have hends : Ends (fun r m' => Stands r.1 m') (Stands (left o op)) x
      (account Descriptor.note m tr) := by
    cases op with
    | convert this info => exact htr.wp (convert_leads hp hm)
    | method a => exact htr.wp (method_leads hp hm)
    | callback mask =>
      obtain ⟨fd, hopen⟩ := hcallback mask rfl
      exact htr.wp (callback_leads hp hm hopen)
  cases x with
  | returned r => exact hends
  | failed msg => exact hends

/-- Every step keeps the accounts of all slots. -/
theorem step_kept {s t : Ptr → Slot T} (hstep : Step ws host s t) (h : ∀ i, Kept (s i)) :
    ∀ i, Kept (t i) := by
  have hgoOn : ∀ i o tr, Owned o (account Descriptor.note (s i).account tr) →
      Kept ((s i).goOn o tr) := by
    intro i o tr ho
    rw [Kept, goOn_account]
    exact ho
  cases hstep with
  | create hunused hc htr =>
    rename_i i this info c q q' o tr
    refine kept_update h i ?_
    rw [← hunused]
    refine hgoOn i o tr ?_
    rw [hunused]
    exact htr.wp (create_leads hc this info q)
  | createFailed hunused hraw htr hconvert htr' =>
    rename_i i this info c q p p' o tr tr' msg
    refine kept_update h i ?_
    rw [← hunused]
    refine hgoOn i _ _ ?_
    rw [hunused, account_append]
    have hm : Stands o (account Descriptor.note .none tr) := htr.wp (rawPart_leads hraw)
    exact htr'.wp (convert_leads hconvert hm)
  | operate ho hp hcallback htr =>
    rename_i i q o op p tr x
    have hi : Owned (s i).object (s i).account := h i
    rw [ho] at hi
    refine kept_update h i (hgoOn i _ _ (operate_owned hp hi ?_ htr))
    exact fun mask hop => watched_open (h i) (hcallback mask hop)
  | accept ho hunused hp htr =>
    rename_i i new q o p tr x
    have hi : Owned (s i).object (s i).account := h i
    rw [ho] at hi
    obtain ⟨hserver, hnew⟩ := accept_owned hp hi htr
    exact kept_update (kept_update h i (hgoOn i (some _) _ hserver)) new hnew
  | drop ho htr =>
    rename_i i q o tr x
    have hi : Owned (s i).object (s i).account := h i
    rw [ho] at hi
    refine kept_update h i (hgoOn i _ _ ?_)
    have hends := htr.wp (drop_leads_object (F := fun m => m.Gone) hi)
    cases x with
    | returned q => exact hends
    | failed msg => exact hends

theorem reachable_kept {s : Ptr → Slot T} (h : Reachable ws host s) : ∀ i, Kept (s i) := by
  induction h with
  | refl => exact fun _ => kept_unused
  | tail _ hstep ih => exact step_kept hstep ih

/-- What the account says of a slot's descriptor. -/
theorem received_closed {s : Slot T} (h : Kept s) {fd : Fd} (hfd : fd ∈ s.received) :
    LeftAlone fd s.calls ∧ (s.object = none → closings fd s.calls = 1) := by
  have hmisused : s.account ≠ .misused := owned_ne_misused h
  -- an owner that is gone has no open descriptor
  have hgone : s.object = none → ∀ fd, s.account ≠ .opened fd := by
    intro hnone fd hopen
    have hend : Owned s.object s.account := h
    rw [hnone, hopen] at hend
    rcases hend with h | ⟨_, h⟩ <;> cases h
  obtain ⟨object, accepted, calls⟩ := s
  match accepted with
  | [] =>
    rcases account_none hmisused with ⟨-, hmade⟩ | ⟨fd', hmade, halone, hclosed⟩
    · simp [Slot.received, hmade] at hfd
    · obtain rfl : fd = fd' := by simpa [Slot.received, hmade] using hfd
      refine ⟨halone, fun hnone => ?_⟩
      rcases hclosed with ⟨hopen, -⟩ | ⟨-, hclosings⟩
      · exact absurd hopen (hgone hnone fd)
      · exact hclosings
  | [fd'] =>
    have hused := account_opened hmisused
    obtain rfl : fd = fd' := by simpa [Slot.received, hused.noOther] using hfd
    refine ⟨hused.leftAlone, fun hnone => ?_⟩
    rcases hused.closed with ⟨hopen, -⟩ | ⟨-, hclosings⟩
    · exact absurd hopen (hgone hnone fd)
    · exact hclosings
  | _ :: _ :: _ => exact absurd (account_misused calls) hmisused

/-- **Closed once and left alone.** Whatever the kernel answers and however
the operations are ordered, no call is issued on a socket's descriptor
after it has been closed, not even a second close; and once the owner is
gone, dropped or never made by a constructor that returned an error, the
descriptor has been closed exactly once. -/
theorem descriptors_closed_once {s : Ptr → Slot T} (h : Reachable ws host s) (i : Ptr) (fd : Fd)
    (hfd : fd ∈ (s i).received) :
    LeftAlone fd (s i).calls ∧ ((s i).object = none → closings fd (s i).calls = 1) := by
  exact received_closed (reachable_kept h i) hfd

/-- The calls of a `RawTcpSocket::connect` that is refused. -/
def refusedConnect : Trace :=
  let sockaddr := addrToSockaddr .little ⟨.ipv4Addr 127 0 0 1, 80⟩
  [⟨.once (.socket AF_INET (SOCK_STREAM ||| SOCK_CLOEXEC)), (5 : Int)⟩,
    ⟨.retry (.connect 5 sockaddr.1 sockaddr.2), (-1 : Int)⟩, ⟨.once .errno, ECONNREFUSED⟩,
    ⟨.once .lastOsError, "Connection refused"⟩, ⟨.once (.close 5), (0 : Int)⟩]

/-- The state after it. -/
def afterRefusal : Ptr → Slot Unit := update start 0 (Slot.unused.goOn none refusedConnect)

theorem afterRefusal_reachable : Reachable .w64 .little afterRefusal := by
  have hrun : ((Creation.rawTcpSocket ⟨.ipv4Addr 127 0 0 1, 80⟩).run (T := Unit) .little 0 0
      ⟨3, []⟩).Traced refusedConnect (.returned (none, ⟨3, []⟩)) :=
    ⟨_, _, rfl, _, _, rfl, _, _, rfl, _, _, rfl, _, _, rfl, rfl, rfl⟩
  exact .single (.create (c := .rawTcpSocket _) rfl trivial hrun)

theorem descriptors_closed_once_refused :
    LeftAlone 5 (afterRefusal 0).calls ∧
      ((afterRefusal 0).object = none → closings 5 (afterRefusal 0).calls = 1) :=
  descriptors_closed_once afterRefusal_reachable 0 5 (by decide)

end Revbio.Sockets
