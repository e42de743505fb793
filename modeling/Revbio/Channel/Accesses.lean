/-
Revbio.Channel.Accesses — the operations of a channel, access by access.

In `Revbio.Linux.Channel` an operation takes the shared data as it finds
them under the mutex and hands them back at its end. Here every look at a
field of the data (`load`) and every change of one (`store`) is a step of
its own, like the calls to the kernel and to the mutex. `mutex.wait()` is
the call that gives the mutex up and, later on, `relock`.

`Code.onData` makes the accesses of such a program on data of its own. What
is left is the operation of `Revbio.Linux.Channel`: `trySend_onData` and its
likes say so for each of them, whatever the kernel answers. They differ in
that the data show what has been written also where a `fail!` comes later.
-/
import Revbio.Linux.Channel

namespace Revbio.Channel

open CallTree

/-! ## Accesses -/

/-- The fields of `SharedChannelData`, the mutex apart. -/
inductive Field where
  | queue
  | portAlive
  | nrSenders
  | receiverNotified
  | epollFd
  deriving DecidableEq, Repr

abbrev Field.Val (T : Type) : Field → Type
  | .queue => List T
  | .portAlive => Bool
  | .nrSenders => Nat
  | .receiverNotified => Bool
  | .epollFd => Fd

variable {T : Type}

@[simp] def dataGet (d : SharedChannelData T) : (x : Field) → x.Val T
  | .queue => d.queue
  | .portAlive => d.portAlive
  | .nrSenders => d.nrSenders
  | .receiverNotified => d.receiverNotified
  | .epollFd => d.epollFd

@[simp] def dataSet (d : SharedChannelData T) : (x : Field) → x.Val T → SharedChannelData T
  | .queue, v => { d with queue := v }
  | .portAlive, v => { d with portAlive := v }
  | .nrSenders, v => { d with nrSenders := v }
  | .receiverNotified, v => { d with receiverNotified := v }
  | .epollFd, v => { d with epollFd := v }

inductive Op (T : Type) where
  | call (c : Call)
  | load (x : Field)
  | store (x : Field) (v : x.Val T)
  /-- `mutex.wait()` takes the mutex again -/
  | relock

abbrev Op.Ret : Op T → Type
  | .call c => c.Ret
  | .load x => x.Val T
  | .store _ _ => Unit
  | .relock => Unit

/-- Code that works on data it shares. -/
abbrev Code (T : Type) := Prog (Op T) Op.Ret

namespace Accesses

@[simp] def load (x : Field) : Code T (x.Val T) := .call (.load x) .ret

@[simp] def store (x : Field) (v : x.Val T) : Code T Unit := .call (.store x v) .ret

@[simp] def relock : Code T Unit := .call .relock .ret

/-- Code that does not look at the shared data. -/
def calls {α : Type} : Io α → Code T α
  | .ret a => .ret a
  | .fail msg => .fail msg
  | .call c k => .call (.call c) fun r => calls (k r)

@[simp] def sys (c : Syscall) : Code T c.Ret := .call (.call (.once c)) .ret

@[simp] def retry (c : Syscall) : Code T c.Ret := .call (.call (.retry c)) .ret

/-! ## `BlockingReceiver` -/

/-- `queue.len() < 1 && nr_senders != 0` -/
def mustWait : Code T Bool := do
  let queue : List T ← load .queue
  if queue.length < 1 then
    let nrSenders : Nat ← load .nrSenders
    return decide (nrSenders ≠ 0)
  else
    return false

def recvTurn : Code T (Turn T) := do
  if ← mustWait then
    let _ ← sys .mutexWait
    return .wait
  else
    let queue : List T ← load .queue
    match queue with
    | t :: rest =>
        store .queue rest
        store .receiverNotified false
        let _ ← sys .mutexUnlock
        return .done t
    | [] => -- Sender(s) dead
        let _ ← sys .mutexUnlock
        .fail "Remote channels are dead"

def recv : Code T (Turn T) := do
  let _ ← sys .mutexLock
  recvTurn

def recvOptTurn : Code T (Turn (Option T)) := do
  if ← mustWait then
    let _ ← sys .mutexWait
    return .wait
  else
    let queue : List T ← load .queue
    let ret ← match queue with
      | t :: rest => do
          store .queue rest
          pure (some t)
      | [] => pure none
    store .receiverNotified false
    let _ ← sys .mutexUnlock
    return .done ret

def recvOpt : Code T (Turn (Option T)) := do
  let _ ← sys .mutexLock
  recvOptTurn

def tryRecv : Code T (TryRecvResult T) := do
  let _ ← sys .mutexLock
  let queue : List T ← load .queue
  let ret ← match queue with
    | t :: rest => do
        store .queue rest
        pure (.data t)
    | [] => do
        let nrSenders : Nat ← load .nrSenders
        pure (if nrSenders = 0 then .disconnected else .empty)
  store .receiverNotified false
  let _ ← sys .mutexUnlock
  return ret

/-! ## `Transmitter` -/

/-- `... && !receiver_notified` -/
def notNotified (c : Bool) : Code T Bool :=
  if c then do
    let notified : Bool ← load .receiverNotified
    return !notified
  else return false

def signalReceiver : Code T Unit := do
  let epollFd : Fd ← load .epollFd
  if epollFd = -1 then
    let _ ← sys .mutexSignal
    store .receiverNotified true
  else
    let fd : Fd ← load .epollFd
    let ret : Int ← retry (.writeOne fd)
    if ret = -1 then
      let _ ← sys .mutexUnlock
      let err ← calls lastError
      .fail ("Error on writing to eventfd: " ++ err.desc)
    else
      store .receiverNotified true

def trySend (t : T) : Code T Bool := do
  let _ ← sys .mutexLock
  let portAlive : Bool ← load .portAlive
  if !portAlive then
    let _ ← sys .mutexUnlock
    return false
  else
    let queue : List T ← load .queue
    store .queue (queue ++ [t])
    let queue : List T ← load .queue
    if ← notNotified (queue.length = 1) then signalReceiver
    let _ ← sys .mutexUnlock
    return true

def dropTransmitter (ws : WordSize) : Code T Unit := do
  let _ ← sys .mutexLock
  let nrSenders : Nat ← load .nrSenders
  store .nrSenders (ws.uintSub nrSenders 1)
  let nrSenders : Nat ← load .nrSenders
  if ← notNotified (nrSenders = 0) then signalReceiver
  let _ ← sys .mutexUnlock
  return ()

def clone : Code T Unit := do
  let _ ← sys .mutexLock
  let nrSenders : Nat ← load .nrSenders
  store .nrSenders (nrSenders + 1)
  let _ ← sys .mutexUnlock
  return ()

/-! ## The destructor of `BlockingReceiver` -/

/-- The destructors of `n` Transmitters in a message. -/
def dropAll (ws : WordSize) : Nat → Code T Unit
  | 0 => return ()
  | n + 1 => do
      dropTransmitter ws
      dropAll ws n

/-- The destructors of these messages, one after the other. -/
def destroyAll (ws : WordSize) (owned : T → Nat) : List T → Code T Unit
  | [] => return ()
  | t :: rest => do
      dropAll ws (owned t)
      destroyAll ws owned rest

def dropBlockingReceiver (ws : WordSize) (owned : T → Nat) : Code T Unit := do
  let _ ← sys .mutexLock
  store .portAlive false
  let queue : List T ← load .queue
  destroyAll ws owned queue
  store .queue []
  let _ ← sys .mutexUnlock
  return ()

/-! ## `Receiver` -/

def fromBlockingReceiver (this : Ptr) (info : SourceId) (q : EventQueueImpl) :
    Code T (Receiver × EventQueueImpl) := do
  let receiver : Receiver :=
    { processFunc := this, eventSourceInfo := info, availableMessages := 0 }
  let _ ← sys .mutexLock
  let nrSenders : Nat ← load .nrSenders
  if nrSenders ≠ 0 then
    let fd : Int ← sys .eventfd
    if fd = -1 then
      let _ ← sys .mutexUnlock
      let err ← calls lastError
      .fail ("Creating eventfd for port failed: " ++ err.desc)
    else
      store .epollFd fd
      calls (q.registerFd fd EPOLLIN receiver.processFunc)
      let queue : List T ← load .queue
      if queue.length > 0 then
        let ret : Int ← retry (.writeOne fd)
        if ret = -1 then
          let _ ← sys .mutexUnlock
          let err ← calls lastError
          .fail ("Error on writing to eventfd: " ++ err.desc)
        else
          store .receiverNotified true
          let _ ← sys .mutexUnlock
          return (receiver, q)
      else
        let _ ← sys .mutexUnlock
        return (receiver, q)
  else
    let q := q.pushBackEvent (Event.new .channelClosedEvent receiver.eventSourceInfo)
    let _ ← sys .mutexUnlock
    return (receiver, q)

/-- `Receiver::recv` after a turn: what it returns, and the Receiver. -/
def received (r : Receiver) : Turn T → Turn (Option T × Receiver)
  | .wait => .wait
  | .done ret => .done (some ret, { r with availableMessages := r.availableMessages - 1 })

def receiverRecv (r : Receiver) : Code T (Turn (Option T × Receiver)) := do
  if r.availableMessages > 0 then
    let turn ← recv
    return received r turn
  else
    return .done (none, r)

def receiverRecvTurn (r : Receiver) : Code T (Turn (Option T × Receiver)) := do
  let turn ← recvTurn
  return received r turn

def readEventfd (epollEvents : UInt32) : Code T Bool := do
  if epollEvents &&& EPOLLIN ≠ 0 then
    let fd : Fd ← load .epollFd
    let (ret, value) : Int × Nat ← retry (.readCounter fd)
    return decide (ret = 8 ∧ value = 1)
  else
    return false

def announce (ws : WordSize) (r : Receiver) (q : EventQueueImpl) :
    Code T (Receiver × EventQueueImpl) := do
  let _ ← sys .mutexLock
  let queue : List T ← load .queue
  let newMessages := ws.uintSub queue.length r.availableMessages
  let queue : List T ← load .queue
  let r := { r with availableMessages := r.availableMessages + queue.length }
  let q := (List.range newMessages).foldl
    (fun q _ => q.pushBackEvent (Event.new .channelMessageEvent r.eventSourceInfo)) q
  let nrSenders : Nat ← load .nrSenders
  let q := if nrSenders = 0 then
      q.pushBackEvent (Event.new .channelClosedEvent r.eventSourceInfo)
    else q
  store .receiverNotified false
  let _ ← sys .mutexUnlock
  return (r, q)

def dropReceiver (r : Receiver) (q : EventQueueImpl) : Code T EventQueueImpl := do
  let _ ← sys .mutexLock
  let epollFd : Fd ← load .epollFd
  if epollFd ≠ -1 then
    let fd : Fd ← load .epollFd
    let _ ← sys (.close fd)
    store .epollFd (-1 : Int)
  let _ ← sys .mutexUnlock
  return r.removePendingEvents q

end Accesses

/-! ## On data of its own -/

/-- The accesses made on the data `d`, which nobody else touches. -/
@[simp] def onData {α : Type} : Code T α → SharedChannelData T → Io (α × SharedChannelData T)
  | .ret a, d => .ret (a, d)
  | .fail msg, _ => .fail msg
  | .call (.call c) k, d => .call c fun r => onData (k r) d
  | .call (.load x) k, d => onData (k (dataGet d x)) d
  | .call (.store x v) k, d => onData (k ()) (dataSet d x v)
  | .call .relock k, d => onData (k ()) d

theorem onData_bind {α β : Type} (p : Code T α) (f : α → Code T β) (d : SharedChannelData T) :
    onData (p >>= f) d = onData p d >>= fun r => onData (f r.1) r.2 := by
  induction p generalizing d with
  | ret a => rfl
  | fail msg => rfl
  | call op k ih =>
    cases op with
    | call c => exact congrArg (Prog.call c) (funext fun r => ih r d)
    | load x => exact ih _ d
    | store x v => exact ih () _
    | relock => exact ih () d

theorem onData_calls {α : Type} (p : Io α) (d : SharedChannelData T) :
    onData (Accesses.calls p) d = p >>= fun a => .ret (a, d) := by
  induction p with
  | ret a => rfl
  | fail msg => rfl
  | call c k ih => exact congrArg (Prog.call c) (funext ih)

namespace Accesses

/-- What a turn returns, and the data after it. -/
@[simp] def turnData {α : Type} (d : SharedChannelData T) :
    Turn (α × SharedChannelData T) → Turn α × SharedChannelData T
  | .wait => (.wait, d)
  | .done (a, d') => (.done a, d')

theorem recvTurn_onData (d : SharedChannelData T) :
    onData recvTurn d = BlockingReceiver.recvTurn d >>= fun turn => .ret (turnData d turn) := by
  obtain ⟨queue, alive, senders, notified, fd⟩ := d
  unfold recvTurn mustWait BlockingReceiver.recvTurn
  cases queue with
  | nil => by_cases hs : senders = 0 <;> simp [hs]
  | cons t rest => simp

theorem recv_onData (d : SharedChannelData T) :
    onData recv d = BlockingReceiver.recv d >>= fun turn => .ret (turnData d turn) :=
  congrArg (Prog.call _) (funext fun _ => recvTurn_onData d)

theorem recvOptTurn_onData (d : SharedChannelData T) :
    onData recvOptTurn d =
      BlockingReceiver.recvOptTurn d >>= fun turn => .ret (turnData d turn) := by
  obtain ⟨queue, alive, senders, notified, fd⟩ := d
  unfold recvOptTurn mustWait BlockingReceiver.recvOptTurn
  cases queue with
  | nil =>
    by_cases hs : senders = 0
    · simp [hs]
    · simp [hs]
  | cons t rest => simp

theorem recvOpt_onData (d : SharedChannelData T) :
    onData recvOpt d = BlockingReceiver.recvOpt d >>= fun turn => .ret (turnData d turn) :=
  congrArg (Prog.call _) (funext fun _ => recvOptTurn_onData d)

theorem tryRecv_onData (d : SharedChannelData T) :
    onData tryRecv d = BlockingReceiver.tryRecv d := by
  obtain ⟨queue, alive, senders, notified, fd⟩ := d
  unfold tryRecv BlockingReceiver.tryRecv
  cases queue with
  | nil => by_cases hs : senders = 0 <;> simp [hs]
  | cons t rest => simp

theorem signalReceiver_onData (d : SharedChannelData T) :
    onData signalReceiver d = Transmitter.signalReceiver d >>= fun d => .ret ((), d) := by
  unfold signalReceiver Transmitter.signalReceiver
  by_cases hfd : d.epollFd = -1
  · simp [hfd]
  · simp [hfd]
    funext ret
    split
    · simp [onData_bind, onData_calls, Prog.bind_bind]
    · rfl

theorem trySend_onData (d : SharedChannelData T) (t : T) :
    onData (trySend t) d = Transmitter.trySend d t := by
  obtain ⟨queue, alive, senders, notified, fd⟩ := d
  unfold trySend notNotified Transmitter.trySend
  cases alive with
  | false => simp
  | true =>
    by_cases hq : queue = []
    · cases notified with
      | true => simp [hq]
      | false =>
        simp [hq, onData_bind, signalReceiver_onData, Prog.bind_bind]
    · simp [hq]

theorem dropTransmitter_onData (ws : WordSize) (d : SharedChannelData T) :
    onData (dropTransmitter ws) d = Transmitter.drop ws d >>= fun d => .ret ((), d) := by
  obtain ⟨queue, alive, senders, notified, fd⟩ := d
  unfold dropTransmitter notNotified Transmitter.drop
  by_cases hs : ws.uintSub senders 1 = 0
  · cases notified with
    | true => simp [hs]
    | false =>
      simp [hs, onData_bind, signalReceiver_onData, Prog.bind_bind]
  · simp [hs]

theorem clone_onData (d : SharedChannelData T) :
    onData clone d = Transmitter.clone d >>= fun d => .ret ((), d) := rfl

theorem dropAll_onData (ws : WordSize) (n : Nat) (d : SharedChannelData T) :
    onData (dropAll ws n) d = Transmitter.dropAll ws n d >>= fun d => .ret ((), d) := by
  induction n generalizing d with
  | zero => rfl
  | succ n ih =>
    simp only [dropAll, Transmitter.dropAll, onData_bind, dropTransmitter_onData, Prog.bind_bind,
      Prog.ret_bind, ih]

theorem destroyAll_onData (ws : WordSize) (owned : T → Nat) (queue : List T)
    (d : SharedChannelData T) :
    onData (destroyAll ws owned queue) d =
      queue.foldlM (Destructor.transmitters ws owned) d >>= fun d => .ret ((), d) := by
  induction queue generalizing d with
  | nil => rfl
  | cons t rest ih =>
    simp only [destroyAll, Destructor.transmitters, List.foldlM_cons, onData_bind, dropAll_onData,
      Prog.bind_bind, Prog.ret_bind, ih]

theorem dropBlockingReceiver_onData (ws : WordSize) (owned : T → Nat) (d : SharedChannelData T) :
    onData (dropBlockingReceiver ws owned) d =
      BlockingReceiver.drop (Destructor.transmitters ws owned) d >>= fun d => .ret ((), d) := by
  unfold dropBlockingReceiver BlockingReceiver.drop BlockingReceiver.clear
  simp [onData_bind, destroyAll_onData, Prog.bind_bind]

theorem fromBlockingReceiver_onData (this : Ptr) (info : SourceId) (q : EventQueueImpl)
    (d : SharedChannelData T) :
    onData (fromBlockingReceiver this info q) d =
      Receiver.fromBlockingReceiver this info d q >>= fun r => .ret ((r.1, r.2.2), r.2.1) := by
  unfold fromBlockingReceiver Receiver.fromBlockingReceiver
  by_cases hs : d.nrSenders = 0
  · simp [hs]
  · simp [hs]
    refine funext fun _ => congrArg (Prog.call _) (funext fun fd => ?_)
    by_cases hfd : fd = -1
    · simp [hfd, onData_bind, onData_calls, Prog.bind_bind]
    · by_cases hq : 0 < d.queue.length
      · simp [hfd, hq, onData_bind, onData_calls, Prog.bind_bind]
        refine congrArg (q.registerFd fd EPOLLIN this >>= ·) (funext fun _ => ?_)
        refine congrArg (Prog.call _) (funext fun ret => ?_)
        by_cases hret : ret = -1
        · simp [hret, onData_bind, onData_calls, Prog.bind_bind]
        · simp [hret]
      · simp [hfd, hq, onData_bind, onData_calls, Prog.bind_bind]

/-- The same for `Receiver::recv`. -/
def receivedData (d : SharedChannelData T) :
    Turn (Option T × Receiver × SharedChannelData T) →
    Turn (Option T × Receiver) × SharedChannelData T
  | .wait => (.wait, d)
  | .done (ret, r, d') => (.done (ret, r), d')

theorem receiverRecvTurn_onData (r : Receiver) (d : SharedChannelData T) :
    onData (receiverRecvTurn r) d =
      r.recvTurn d >>= fun turn => .ret (receivedData d turn) := by
  unfold receiverRecvTurn Receiver.recvTurn
  rw [onData_bind, recvTurn_onData, Prog.bind_bind, Prog.bind_bind]
  refine congrArg (BlockingReceiver.recvTurn d >>= ·) (funext fun turn => ?_)
  cases turn <;> rfl

theorem receiverRecv_onData (r : Receiver) (d : SharedChannelData T) :
    onData (receiverRecv r) d = r.recv d >>= fun turn => .ret (receivedData d turn) := by
  unfold receiverRecv Receiver.recv
  split
  · exact congrArg (Prog.call _) (funext fun _ => receiverRecvTurn_onData r d)
  · rfl

theorem readEventfd_onData (mask : UInt32) (d : SharedChannelData T) :
    onData (readEventfd mask) d = Receiver.readEventfd d mask >>= fun b => .ret (b, d) := by
  unfold readEventfd Receiver.readEventfd
  split <;> rfl

theorem announce_onData (ws : WordSize) (r : Receiver) (q : EventQueueImpl)
    (d : SharedChannelData T) :
    onData (announce ws r q) d =
      r.announce ws d q >>= fun r => .ret ((r.1, r.2.2), r.2.1) := rfl

theorem dropReceiver_onData (r : Receiver) (q : EventQueueImpl) (d : SharedChannelData T) :
    onData (dropReceiver r q) d = r.drop d q >>= fun r => .ret (r.2, r.1) := by
  unfold dropReceiver Receiver.drop
  by_cases hfd : d.epollFd = -1
  · simp [hfd]
  · simp [hfd]

end Accesses

end Revbio.Channel
