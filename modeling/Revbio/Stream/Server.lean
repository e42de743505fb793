/-
Revbio.Stream.Server — one TcpServerSocket and its descriptor.

The kernel is that of `Revbio.Stream.System`. A listening socket has no
mode and is watched for `EPOLLIN` as long as it is open; the queue is
whatever it is at the time.
-/
import Revbio.Stream.EffectTheorems

namespace Revbio.Stream

open CallTree Prog

variable {ws : WordSize} {host : Endian}

/-! ## The system -/

/-- The raw listening sockets a program can have. -/
inductive RawServer (host : Endian) : RawTcpServerSocket → Kernel → Prop where
  | bind {addr : SocketAddr} {backlog : Int} {raw : RawTcpServerSocket} {k : Kernel} :
      (RawTcpServerSocket.bind host addr backlog).Exec Kernel.allows none
        (.returned (.ok raw)) k →
      RawServer host raw k
  | accept {raw raw' : RawTcpServerSocket} {k k' : Kernel} {r : IoResult RawTcpSocket} :
      RawServer host raw k → raw.accept.Exec Kernel.allows k (.returned (r, raw')) k' →
      RawServer host raw' k'
  | close {raw raw' : RawTcpServerSocket} {k k' : Kernel} :
      RawServer host raw k → raw.close.Exec Kernel.allows k (.returned raw') k' →
      RawServer host raw' k'

/-- The listening sockets that can be reached, by the constructors (`bind`
is the same as binding a raw socket and boxing it), methods and callbacks. -/
inductive ServerReachable (host : Endian) : TcpServerSocket → Kernel → Prop where
  | fromRaw {this : Ptr} {info : SourceId} {q : EventQueueImpl} {raw : RawTcpServerSocket}
      {s : TcpServerSocket} {k k' : Kernel} : RawServer host raw k →
      (TcpServerSocket.fromRawServerSocket this info raw q).Exec Kernel.allows k
        (.returned s) k' →
      ServerReachable host s k'
  | accept {s s' : TcpServerSocket} {q q' : EventQueueImpl} {k k' : Kernel}
      {r : IoResult RawTcpSocket} : ServerReachable host s k →
      (s.accept q).Exec Kernel.allows k (.returned (r, s', q')) k' →
      ServerReachable host s' k'
  | close {s s' : TcpServerSocket} {q q' : EventQueueImpl} {k k' : Kernel} :
      ServerReachable host s k → (s.close q).Exec Kernel.allows k (.returned (s', q')) k' →
      ServerReachable host s' k'
  | callback {s s' : TcpServerSocket} {q q' : EventQueueImpl} {k k' : Kernel} {mask : UInt32} :
      ServerReachable host s k → Watched k →
      (s.processEpollEvents q mask).Exec Kernel.allows k (.returned (s', q')) k' →
      ServerReachable host s' k'

/-! ## What the operations do -/

/-- A listening socket agrees with its descriptor. -/
def ServerAgrees (raw : RawTcpServerSocket) (interest : Option UInt32) (k : Kernel) : Prop :=
  if raw.connectionState = .closed then k = none
  else ∃ d, k = some d ∧ d.fd = raw.fd ∧ d.interest = interest

section

variable {raw : RawTcpServerSocket} {interest : Option UInt32} {k : Kernel}

theorem serverAgrees_closed (h : ServerAgrees raw interest k)
    (hclosed : raw.connectionState = .closed) : k = none := by
  rw [ServerAgrees, if_pos hclosed] at h
  exact h

theorem serverAgrees_open (h : ServerAgrees raw interest k)
    (hopen : raw.connectionState ≠ .closed) :
    ∃ d, k = some d ∧ d.fd = raw.fd ∧ d.interest = interest := by
  rw [ServerAgrees, if_neg hopen] at h
  exact h

def serverShut (raw : RawTcpServerSocket) : RawTcpServerSocket :=
  { raw with connectionState := .closed }

theorem serverShut_agrees (raw : RawTcpServerSocket) (interest : Option UInt32) :
    ServerAgrees (serverShut raw) interest none := by
  rw [ServerAgrees, if_pos (show (serverShut raw).connectionState = .closed from rfl)]

theorem server_closeSocket_fits (h : ServerAgrees raw interest k) :
    Fits k raw.closeSocket fun raw' k' => raw' = serverShut raw ∧ k' = none := by
  unfold RawTcpServerSocket.closeSocket
  split
  case isTrue hclosed =>
    refine ⟨?_, serverAgrees_closed h hclosed⟩
    cases raw
    simp_all [serverShut]
  case isFalse hopen =>
    obtain ⟨d, rfl, hfd, -⟩ := serverAgrees_open h hopen
    refine ⟨trivial, ?_⟩
    intro r k' hk'
    refine ⟨rfl, ?_⟩
    rw [show k' = (some d).filter fun d => d.fd ≠ raw.fd from hk']
    simp [Option.filter, hfd]

theorem bindFailed_fits (h : ServerAgrees raw interest k) :
    Fits k raw.bindFailed fun r k' => ∀ raw', r = .ok raw' → ServerAgrees raw' none k' := by
  refine fits_reports lastError_reports fun err => ?_
  refine Fits.bind (R := fun _ k' => k' = none) ?_ ?_
  · exact (server_closeSocket_fits h).bind fun _ _ hk => hk.2
  · intro _ k' _ raw' hraw'
    cases hraw'

theorem bind_fits (addr : SocketAddr) (backlog : Int) :
    Fits none (RawTcpServerSocket.bind host addr backlog) fun r k' =>
      ∀ raw, r = .ok raw → ServerAgrees raw none k' := by
  refine (createSocket_fits addr true).bind ?_
  rintro (err | fd) k' hk'
  · intro raw hraw
    cases hraw
  · obtain ⟨d, rfl, hd⟩ := hk'
    have hagrees : ServerAgrees ⟨fd, .connected⟩ none (some d) := by
      rw [ServerAgrees, if_neg nofun]
      exact ⟨d, rfl, (hd .connected).fd, (hd .connected).interest⟩
    refine fits_idle ⟨fun _ => trivial, fun _ _ _ h => h⟩ fun opt => ?_
    show Fits _ (if _ then _ else _) _
    split
    · exact bindFailed_fits hagrees
    refine fits_idle ⟨fun _ => trivial, fun _ _ _ h => h⟩ fun b => ?_
    show Fits _ (if _ then _ else _) _
    split
    · exact bindFailed_fits hagrees
    refine fits_idle ⟨fun _ => trivial, fun _ _ _ h => h⟩ fun l => ?_
    show Fits _ (if _ then _ else _) _
    split
    · exact bindFailed_fits hagrees
    · intro raw hraw
      cases hraw
      exact hagrees

theorem accept_fits (h : ServerAgrees raw interest k) :
    Fits k raw.accept fun r k' => ServerAgrees r.2 interest k' := by
  unfold RawTcpServerSocket.accept
  split
  · exact h
  · refine fits_idle ⟨fun _ => trivial, fun _ _ _ h => h⟩ fun r => ?_
    show Fits k (if _ then _ else _) _
    split
    · refine fits_idle ⟨fun _ => trivial, fun _ _ _ h => h⟩ fun errno => ?_
      show Fits k (if _ then _ else _) _
      split
      · refine (server_closeSocket_fits h).bind ?_
        intro raw' k' h
        obtain ⟨rfl, rfl⟩ := h
        exact fits_reports lastError_reports fun _ => serverShut_agrees raw interest
      · exact fits_reports lastError_reports fun _ => h
    · exact h

end

/-- A boxed listening socket that is open is watched for `EPOLLIN`. -/
def ServerSound (s : TcpServerSocket) (k : Kernel) : Prop :=
  ServerAgrees s.socket (some EPOLLIN) k

theorem fromRawServerSocket_fits {raw : RawTcpServerSocket} {k : Kernel} (this : Ptr)
    (info : SourceId) (q : EventQueueImpl) (h : ServerAgrees raw none k) :
    Fits k (TcpServerSocket.fromRawServerSocket this info raw q) ServerSound := by
  unfold TcpServerSocket.fromRawServerSocket
  simp only
  split
  case isTrue hopen =>
    obtain ⟨d, rfl, hfd, hnone⟩ := serverAgrees_open h hopen
    refine (register_fits q EPOLLIN this hfd hnone).bind ?_
    intro _ k' hk'
    rw [hk']
    show ServerAgrees raw (some EPOLLIN) _
    rw [ServerAgrees, if_neg hopen]
    exact ⟨_, rfl, hfd, rfl⟩
  case isFalse hclosed =>
    have hclosed' : raw.connectionState = .closed := by simpa using hclosed
    show ServerAgrees raw (some EPOLLIN) k
    rw [ServerAgrees, if_pos hclosed']
    exact serverAgrees_closed h hclosed'

theorem server_accept_fits {s : TcpServerSocket} {k : Kernel} (h : ServerSound s k)
    (q : EventQueueImpl) : Fits k (s.accept q) fun r k' => ServerSound r.2.1 k' := by
  unfold TcpServerSocket.accept
  simp only
  split
  · exact h
  · refine (accept_fits h).bind ?_
    intro r k' hk'
    obtain ⟨ret, raw⟩ := r
    simp only
    split
    · exact hk'
    · split
      · exact hk'
      · exact hk'

theorem server_close_fits {s : TcpServerSocket} {k : Kernel} (h : ServerSound s k)
    (q : EventQueueImpl) : Fits k (s.close q) fun r k' => ServerSound r.1 k' := by
  have hs : ServerAgrees s.socket (some EPOLLIN) k := h
  refine (server_closeSocket_fits hs).bind ?_
  intro raw k' h
  obtain ⟨rfl, rfl⟩ := h
  exact serverShut_agrees s.socket (some EPOLLIN)

/-- What the callback does: push one event, with the socket closed or not,
or nothing. -/
inductive ServerEffect (s : TcpServerSocket) (q : EventQueueImpl) (k : Kernel)
    (mask : UInt32) : TcpServerSocket → EventQueueImpl → Kernel → Prop where
  | nothing : mask &&& EPOLLERR = 0 → mask &&& EPOLLIN = 0 → ServerEffect s q k mask s q k
  | client : mask &&& EPOLLIN ≠ 0 → ServerEffect s q k mask { s with clientAvailable := true }
      (q.pushBackEvent (Event.new .clientConnectedEvent s.eventSourceInfo)) k
  | error {err : IoError} : mask &&& EPOLLERR ≠ 0 →
      ServerEffect s q k mask { s with socket := serverShut s.socket }
        (q.pushBackEvent (Event.new (.ioErrorEvent err) s.eventSourceInfo)) none

theorem server_callback_fits {s : TcpServerSocket} {k : Kernel} (h : ServerSound s k)
    (q : EventQueueImpl) (mask : UInt32) :
    Fits k (s.processEpollEvents q mask) fun r k' => ServerEffect s q k mask r.1 r.2 k' := by
  unfold TcpServerSocket.processEpollEvents
  split
  case isTrue herr =>
    refine fits_idle ⟨fun _ => trivial, fun _ _ _ h => h⟩ ?_
    intro r
    obtain ⟨ret, errno⟩ := r
    show Fits k (if _ then _ else _) _
    split
    · refine fits_reports (translateError_reports _ _) fun err => ?_
      refine (server_closeSocket_fits h).bind ?_
      intro raw k' h
      obtain ⟨rfl, rfl⟩ := h
      exact .error herr
    · trivial
  case isFalse herr =>
    split
    case isTrue hin => exact .client hin
    case isFalse hin => exact .nothing (by simpa using herr) (by simpa using hin)

theorem ServerEffect.sound {s s' : TcpServerSocket} {q q' : EventQueueImpl} {k k' : Kernel}
    {mask : UInt32} (h : ServerEffect s q k mask s' q' k') (hs : ServerSound s k) :
    ServerSound s' k' := by
  cases h with
  | nothing => exact hs
  | client => exact hs
  | error => exact serverShut_agrees s.socket _

/-! ## Reachable states -/

theorem RawServer.agrees {raw : RawTcpServerSocket} {k : Kernel} (h : RawServer host raw k) :
    ServerAgrees raw none k := by
  induction h with
  | bind hx => exact (bind_fits _ _).exec hx _ rfl
  | accept _ hx ih => exact (accept_fits ih).exec hx
  | close _ hx ih =>
    obtain ⟨rfl, rfl⟩ := (server_closeSocket_fits ih).exec hx
    exact serverShut_agrees _ _

theorem ServerReachable.sound {s : TcpServerSocket} {k : Kernel} (h : ServerReachable host s k) :
    ServerSound s k := by
  induction h with
  | fromRaw hraw hx => exact (fromRawServerSocket_fits _ _ _ hraw.agrees).exec hx
  | accept _ hx ih => exact (server_accept_fits ih _).exec hx
  | close _ hx ih => exact (server_close_fits ih _).exec hx
  | callback _ _ hx ih => exact ((server_callback_fits ih _ _).exec hx).sound ih

end Revbio.Stream
