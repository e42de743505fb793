/-
Revbio.Channel.SignalTheorems — how a Receiver is told of messages: the
eventfd handshake, the announced count, and the two ways in which they
fall behind the queue.

The handshake itself is sound (`handshake_of_run`). Two guards of the code
are not:

* `try_send` writes to the eventfd only when its message is alone in the
  queue. A message sent on top of others that the callback has already
  announced is not announced by anybody, and neither are the messages
  that a Receiver attached to a dead channel finds (`announced_iff`).
* The callback adds the length of the whole queue to
  `available_messages`, although the credit it already has stands for a
  part of it (`credited_iff`).

Both are stated as an exact condition on runs: the property holds in all
states of a run if and only if every step is taken under the guard.
-/
import Revbio.Channel.HistoryTheorems

namespace Revbio.Channel

open Transition

variable {T : Type} {ws : WordSize}

/-! ## The handshake -/

/-- The eventfd side of a channel in state `s`. -/
structure Handshake (ws : WordSize) (s : ChannelState T) : Prop where
  counter : s.counter ≤ 1
  /-- every read of the callback yields 1, and the callback goes on -/
  read : ∀ o s', Step ws s ⟨.callbackRead, o⟩ s' → s.counter = 1 ∧ s'.task = .callback
  /-- `receiver_notified` is "a wake-up is outstanding" -/
  flag : ∀ r, s.port = .attached r → s.live ≠ [] →
    (s.data.receiverNotified = true ↔ s.counter = 1 ∨ s.task = .callback)
  /-- `epoll_fd` is the open eventfd, or `-1` when there is none -/
  closed : s.data.epollFd = -1 ↔ s.eventfd = none
  named : ∀ e, s.eventfd = some e → s.data.epollFd = e.fd
  /-- no read, write or close has named another descriptor -/
  stray : s.stray = false

theorem Inv.counter_le {s : ChannelState T} (hi : Inv s) : s.counter ≤ 1 := by
  cases hi.mode with
  | blocking _ he _ => simp [ChannelState.counter, he]
  | attached _ he h => simpa [counter_of_some he] using h.counter
  | dead _ he _ => simp [ChannelState.counter, he]
  | gone _ he _ => simp [ChannelState.counter, he]

/-- The callback reads 1, from the eventfd of its Receiver. -/
theorem Effect.of_callbackRead {s s' : ChannelState T} {o : Out T} (hi : Inv s)
    (h : Effect ws s ⟨.callbackRead, o⟩ s') :
    ∃ e, s.eventfd = some e ∧ e.counter = 1 ∧ o = .done ∧
      s' = { s with eventfd := some { e with counter := 0 }, task := .callback } := by
  cases h with
  | @callbackRead r e hport htask he hpos _ =>
    have hone : e.counter = 1 :=
      Nat.le_antisymm (hi.attached hport he).counter hpos
    exact ⟨e, he, hone, rfl, by rw [if_pos hone]⟩
  | callbackStray _ _ he _ hne => exact absurd (hi.fd.of_some he).1.symm hne
  | turnWait ha => simp [turnOf] at ha
  | turnData ha => simp [turnOf] at ha
  | turnEnd ha => simp [turnOf] at ha
  | turnFail ha => simp [turnOf] at ha

theorem Effect.callbackRead_one {s s' : ChannelState T} {o : Out T} (hi : Inv s)
    (h : Effect ws s ⟨.callbackRead, o⟩ s') : s.counter = 1 ∧ s'.task = .callback := by
  obtain ⟨e, he, hone, -, rfl⟩ := h.of_callbackRead hi
  exact ⟨by rw [counter_of_some he, hone], rfl⟩

theorem Inv.flag {s : ChannelState T} {r : Receiver} (hi : Inv s)
    (hport : s.port = .attached r) (hlive : s.live ≠ []) :
    s.data.receiverNotified = true ↔ s.counter = 1 ∨ s.task = .callback := by
  cases hi.mode with
  | blocking hp _ _ => simp [hport] at hp
  | attached hp he h => rw [counter_of_some he]; exact (h.sender hlive).flag
  | dead _ _ h => exact absurd h.live hlive
  | gone hp _ _ => simp [hport] at hp

theorem handshake_of_run {events : EventQueueImpl} {tr : List (Label T)}
    {s : ChannelState T} (h : RunFrom ws events tr s) : Handshake ws s := by
  have hi := run_inv h
  exact
    { counter := hi.counter_le
      read := fun o s' hs => (step_effect hs).callbackRead_one hi
      flag := fun r hport hlive => hi.flag hport hlive
      closed := hi.eventfd_none
      named := fun e he => (hi.fd.of_some he).1
      stray := hi.stray }

/-- A Receiver attached with a message queued is told of it, takes it, and
is told of the next. -/
theorem handshake_of_run_two_notices :
    ∃ tr s, perform .w64 (initial Nat ⟨3, []⟩)
        [.trySend 0 1, .fromBlockingReceiver 100 5 0, .callbackRead, .callbackLock,
          .receiverRecv, .trySend 0 2, .callbackRead] = some (tr, s) ∧
      s.task = .callback ∧ Handshake .w64 s :=
  perform_ends ⟨_, _, rfl, rfl⟩ fun _ _ h _ => handshake_of_run h

/-! ## Wake-ups -/

/-- Something is on its way that makes the callback look at the queue. -/
def Outstanding (s : ChannelState T) : Prop := 1 ≤ s.counter ∨ s.task = .callback

instance (s : ChannelState T) : Decidable (Outstanding s) :=
  inferInstanceAs (Decidable (_ ∨ _))

/-- A message not yet announced will be. -/
def Announced (s : ChannelState T) : Prop :=
  ∀ r, s.port = .attached r → r.availableMessages < s.data.queue.length → Outstanding s

/-- The steps after which no message is forgotten: a send to a Receiver
finds the queue empty or a notice under way, and no Receiver is attached to
a dead channel that still has messages. -/
def Noticed (s : ChannelState T) (l : Label T) : Prop :=
  match l.act with
  | .trySend _ _ =>
      ∀ r, s.port = .attached r → s.data.queue = [] ∨ s.data.receiverNotified = true
  | .fromBlockingReceiver .. => s.data.nrSenders ≠ 0 ∨ s.data.queue = []
  | _ => True

theorem noticed_of_turn {s : ChannelState T} {a : Act T} {b : BlockedIn} {o : Out T}
    (h : turnOf s a = some b) : Noticed s ⟨a, o⟩ := by
  rcases turnOf_receives h with rfl | rfl | rfl | rfl <;> trivial

theorem Inv.outstanding_iff {s : ChannelState T} (hi : Inv s) :
    Outstanding s ↔ s.counter = 1 ∨ s.task = .callback := by
  have hle := hi.counter_le
  unfold Outstanding
  rw [show 1 ≤ s.counter ↔ s.counter = 1 by omega]

/-- What a step does not touch is as announced as before. -/
theorem Announced.of_eq {s s' : ChannelState T} (h : Announced s)
    (hport : s'.port = s.port) (hqueue : s'.data.queue = s.data.queue)
    (he : s'.eventfd = s.eventfd) (htask : s.task = .callback → s'.task = .callback) :
    Announced s' := by
  intro r hp hlt
  rw [hqueue] at hlt
  have hcounter : s'.counter = s.counter := by simp only [ChannelState.counter, he]
  rcases h r (hport ▸ hp) hlt with hc | hcb
  · exact .inl (hcounter ▸ hc)
  · exact .inr (htask hcb)

theorem announced_of_detached {s : ChannelState T} (h : ∀ r, s.port ≠ .attached r) :
    Announced s :=
  fun r hport => absurd hport (h r)

theorem outstanding_write {s : ChannelState T} {e : EventFd} (he : s.eventfd = some e)
    (hfd : s.data.epollFd = e.fd) : Outstanding s.write := by
  rw [write_eq he hfd]
  exact .inl (by simp [ChannelState.counter])

/-- A sender that has a descriptor to write to writes to the eventfd. -/
theorem Inv.open_eventfd {s : ChannelState T} (hi : Inv s) (hfd : s.data.epollFd ≠ -1) :
    ∃ e, s.eventfd = some e ∧ s.data.epollFd = e.fd := by
  cases he : s.eventfd with
  | none => exact absurd (hi.eventfd_none.mpr he) hfd
  | some e => exact ⟨e, rfl, (hi.fd.of_some he).1⟩

/-- A step under the guard forgets no message. -/
theorem Effect.announced {s s' : ChannelState T} {l : Label T} (hi : Inv s)
    (hP : Announced s) (hG : Noticed s l) (h : Effect ws s l s') : Announced s' := by
  cases h with
  | sendDead => exact hP
  | sendQuiet htx _ hq =>
    intro r hport _
    have hn : s.data.receiverNotified = true :=
      (hG r hport).elim (fun hnil => hq.resolve_left (by simp [hnil])) id
    have ho := (hi.flag hport (List.ne_nil_of_mem htx)).mp hn
    exact hi.outstanding_iff.mpr ho
  | sendSignal htx _ _ _ hfd =>
    intro r hport _
    have hlive := List.ne_nil_of_mem htx
    cases hi.mode with
    | blocking hp _ _ => simp [hp] at hport
    | attached _ he _ => simp [hi.eventfd_none.mp hfd] at he
    | dead _ _ h => exact absurd h.live hlive
    | gone hp _ _ => simp_all
  | sendWrite _ _ _ _ hfd =>
    obtain ⟨e, he, hef⟩ := hi.open_eventfd hfd
    exact fun _ _ _ => outstanding_write he hef
  | clone => exact hP.of_eq rfl rfl rfl id
  | dropQuiet => exact hP.of_eq rfl rfl rfl id
  | dropSignal => exact hP.of_eq rfl rfl rfl fun hcb => by simp [hcb, Task.signal]
  | dropWrite _ _ _ hfd =>
    obtain ⟨e, he, hef⟩ := hi.open_eventfd hfd
    exact fun _ _ _ => outstanding_write he hef
  | turnWait _ hq _ => exact fun _ _ hlt => by simp [hq] at hlt
  | turnData ha hq =>
    rcases turnOf_some ha with ⟨hport, hb⟩ | ⟨r, hport, rfl, ht⟩
    · exact announced_of_detached fun r => by simp [afterData_of_ne _ hb, hport]
    · obtain ⟨e, he, -, htask, hpos⟩ := hi.receiverTurn hport ht
      intro r' hport' hlt
      rw [hport] at hport'
      cases hport'
      simp only [take_queue] at hlt
      have hlt' : r.availableMessages < s.data.queue.length := by
        rw [hq, List.length_cons]
        omega
      rcases hP r hport hlt' with hc | hcb
      · exact .inl hc
      · simp [htask] at hcb
  | turnEnd ha =>
    rcases turnOf_some ha with ⟨hport, -⟩ | ⟨_, _, hb, _⟩
    · exact announced_of_detached fun r => by simp [hport]
    · cases hb
  | turnFail _ _ hq _ => exact fun _ _ hlt => by simp [hq] at hlt
  | tryRecvData hport => exact announced_of_detached fun r => by simp [hport]
  | tryRecvEmpty hport => exact announced_of_detached fun r => by simp [hport]
  | tryRecvEnd hport => exact announced_of_detached fun r => by simp [hport]
  | noCredit => exact hP
  | spuriousWakeup htask => exact hP.of_eq rfl rfl rfl fun hcb => by simp [htask] at hcb
  | attachDead _ _ hs =>
    have hq : s.data.queue = [] := hG.resolve_left (not_not_intro hs)
    exact fun _ _ hlt => by simp [hq] at hlt
  | attachEmpty _ _ _ _ hq => exact fun _ _ hlt => by simp [hq] at hlt
  | attachWrite => exact fun _ _ _ => outstanding_write rfl rfl
  | dropReceiver => exact announced_of_detached fun r => by simp
  | dropReceiverClose => exact announced_of_detached fun r => by simp
  | dropBlockingReceiver => exact announced_of_detached fun r => by simp
  | callbackRead hport _ he hpos _ =>
    have hone := Nat.le_antisymm (hi.attached hport he).counter hpos
    exact fun _ _ _ => .inr (by simp [hone])
  | callbackStray _ _ he _ hne => exact absurd (hi.fd.of_some he).1.symm hne
  | callbackLock =>
    intro r hport hlt
    cases hport
    simp only [ChannelState.credit] at hlt
    omega
  | otherEvents => exact hP.of_eq rfl rfl rfl id

/-- A send that the guard excludes is not announced. -/
theorem not_announced_push {s : ChannelState T} {tx : TxId} {t : T} {r : Receiver}
    (hi : Inv s) (htx : tx ∈ s.live) (hport : s.port = .attached r)
    (hn : s.data.receiverNotified ≠ true) : ¬ Announced (s.push t) := by
  have hlive := List.ne_nil_of_mem htx
  have hcredit : r.availableMessages ≤ s.data.queue.length := by
    cases hi.mode with
    | blocking hp _ _ => simp [hport] at hp
    | attached hp _ h => cases hport.symm.trans hp; exact (h.sender hlive).credit
    | dead _ _ h => exact absurd h.live hlive
    | gone hp _ _ => simp [hport] at hp
  intro hP
  have ho : Outstanding s := hP r hport (by simp; omega)
  exact hn ((hi.flag hport hlive).mpr (hi.outstanding_iff.mp ho))

/-- A step outside the guard does forget one. -/
theorem Effect.not_announced {s s' : ChannelState T} {l : Label T} (hi : Inv s)
    (hG : ¬ Noticed s l) (h : Effect ws s l s') : ¬ Announced s' := by
  cases h with
  | sendDead htx ha =>
    have hport := hi.alive.mp ha
    exact absurd (fun r hp => by simp [hport] at hp) hG
  | sendQuiet htx =>
    simp only [Noticed, not_forall, not_or] at hG
    obtain ⟨r, hport, -, hn⟩ := hG
    exact not_announced_push hi htx hport hn
  | sendSignal _ _ hq => exact absurd (fun _ _ => .inl hq) hG
  | sendWrite _ _ hq => exact absurd (fun _ _ => .inl hq) hG
  | attachDead hport htask =>
    simp only [Noticed, not_or] at hG
    have he := (hi.blocking hport).1
    intro hP
    rcases hP _ rfl (List.length_pos_iff.mpr hG.2) with hc | hcb
    · simp [ChannelState.counter, ChannelState.attach, he] at hc
    · simp [htask] at hcb
  | attachEmpty _ _ _ hs => exact absurd (.inl hs) hG
  | attachWrite _ _ _ hs => exact absurd (.inl hs) hG
  | turnWait ha => exact absurd (noticed_of_turn ha) hG
  | turnData ha => exact absurd (noticed_of_turn ha) hG
  | turnEnd ha => exact absurd (noticed_of_turn ha) hG
  | turnFail ha => exact absurd (noticed_of_turn ha) hG
  | _ => exact absurd trivial hG

/-- **No lost wake-up, exactly.** -/
theorem announced_iff (ws : WordSize) (events : EventQueueImpl) (tr : List (Label T))
    (s : ChannelState T) :
    SafeRun (Step ws) Announced (initial T events) tr s ↔
      GuardedRun (Step ws) Noticed (initial T events) tr s :=
  safe_iff_guarded (initial_inv events) (announced_of_detached (by simp [initial]))
    (fun _ _ _ => step_inv)
    (fun _ _ _ hi hP hG hs => (step_effect hs).announced hi hP hG)
    (fun _ _ _ hi _ hG hs => (step_effect hs).not_announced hi hG)

/-- Two messages, the second after the callback has announced the first:
once the first is received, nothing is left that would announce the
second. -/
theorem announced_fails :
    ∃ tr s, perform .w64 (initial Nat ⟨3, []⟩)
        [.fromBlockingReceiver 100 5 4, .trySend 0 1, .callbackRead, .callbackLock,
          .trySend 0 2, .receiverRecv] = some (tr, s) ∧
      (accepted tr = [(0, 1), (0, 2)] ∧ received tr = [1] ∧ s.data.queue = [2]) ∧
      ¬ Announced s :=
  ⟨_, _, rfl, by decide, fun h => absurd (h _ rfl (by decide)) (by decide)⟩

/-! ## Credit -/

/-- The announced count is covered by the queue: the subtraction in the
callback is exact, and `Receiver::recv` returns without waiting or
failing. -/
structure CreditCovered (ws : WordSize) (s : ChannelState T) (r : Receiver) : Prop where
  credit : r.availableMessages ≤ s.data.queue.length
  exact : ws.uintSub s.data.queue.length r.availableMessages + r.availableMessages =
    s.data.queue.length
  recv : ∀ o s', Step ws s ⟨.receiverRecv, o⟩ s' → o ≠ .waits ∧ ∀ msg, o ≠ .failed msg

def Credited (ws : WordSize) (s : ChannelState T) : Prop :=
  ∀ r, s.port = .attached r → CreditCovered ws s r

/-- The callback finds the credit used up. -/
def CreditSpent (s : ChannelState T) (l : Label T) : Prop :=
  match l.act with
  | .callbackLock => ∀ r, s.port = .attached r → r.availableMessages = 0
  | _ => True

theorem creditSpent_of_turn {s : ChannelState T} {a : Act T} {b : BlockedIn} {o : Out T}
    (h : turnOf s a = some b) : CreditSpent s ⟨a, o⟩ := by
  rcases turnOf_receives h with rfl | rfl | rfl | rfl <;> trivial

/-- Everything follows from the comparison of the two counts. -/
theorem creditCovered {s : ChannelState T} {r : Receiver} (hport : s.port = .attached r)
    (hle : r.availableMessages ≤ s.data.queue.length) : CreditCovered ws s r := by
  refine ⟨hle, by rw [WordSize.uintSub_of_le ws hle]; omega, fun o s' hs => ?_⟩
  have hq : turnOf s .receiverRecv ≠ none → s.data.queue ≠ [] := by
    intro hturn hnil
    rw [hnil, List.length_nil] at hle
    simp only [turnOf, hport] at hturn
    split at hturn
    · rename_i heq
      cases heq
      simp [Nat.le_zero.mp hle] at hturn
    · exact hturn rfl
  cases step_effect hs with
  | turnWait ha hnil => exact absurd hnil (hq (by simp [ha]))
  | turnData => exact ⟨by simp, by simp⟩
  | turnEnd => exact ⟨by simp, by simp⟩
  | turnFail ha _ hnil => exact absurd hnil (hq (by simp [ha]))
  | noCredit => exact ⟨by simp, by simp⟩

theorem credited_iff_le {s : ChannelState T} :
    Credited ws s ↔
      ∀ r, s.port = .attached r → r.availableMessages ≤ s.data.queue.length :=
  ⟨fun h r hport => (h r hport).credit, fun h r hport => creditCovered hport (h r hport)⟩

/-- A callback that finds credit left books too much. -/
theorem Effect.credited {s s' : ChannelState T} {l : Label T}
    (hP : Credited ws s) (hG : CreditSpent s l) (h : Effect ws s l s') :
    Credited ws s' := by
  rw [credited_iff_le] at hP ⊢
  cases h with
  | sendQuiet => exact fun r hport => by simpa using Nat.le_succ_of_le (hP r hport)
  | sendSignal => exact fun r hport => by simpa using Nat.le_succ_of_le (hP r hport)
  | sendWrite => exact fun r hport => by simpa using Nat.le_succ_of_le (hP r hport)
  | turnData ha hq =>
    rcases turnOf_some ha with ⟨hport, hb⟩ | ⟨r, hport, rfl, ht⟩
    · exact fun r hport' => by simp [afterData_of_ne _ hb, hport] at hport'
    · have hle := hP r hport
      rw [hq, List.length_cons] at hle
      intro r' hport'
      rw [hport] at hport'
      cases hport'
      simp only [take_queue]
      omega
  | turnEnd ha =>
    rcases turnOf_some ha with ⟨hport, -⟩ | ⟨_, _, hb, _⟩
    · exact fun r hport' => by simp [hport] at hport'
    · cases hb
  | tryRecvData hport => exact fun r hport' => by simp [hport] at hport'
  | tryRecvEmpty hport => exact fun r hport' => by simp [hport] at hport'
  | tryRecvEnd hport => exact fun r hport' => by simp [hport] at hport'
  | attachDead =>
    intro r hport
    cases hport
    exact Nat.zero_le _
  | attachEmpty =>
    intro r hport
    cases hport
    exact Nat.zero_le _
  | attachWrite =>
    intro r hport
    cases hport
    exact Nat.zero_le _
  | dropReceiver => exact fun r hport => by simp at hport
  | dropReceiverClose => exact fun r hport => by simp at hport
  | dropBlockingReceiver => exact fun r hport => by simp at hport
  | callbackLock hport =>
    intro r hport'
    cases hport'
    simp [ChannelState.credit, hG _ hport]
  | _ => exact hP

theorem Effect.not_credited {s s' : ChannelState T} {l : Label T}
    (hG : ¬ CreditSpent s l) (h : Effect ws s l s') : ¬ Credited ws s' := by
  rw [credited_iff_le]
  cases h with
  | callbackLock hport =>
    simp only [CreditSpent, not_forall] at hG
    obtain ⟨r, hport', hne⟩ := hG
    cases hport.symm.trans hport'
    intro hP
    have hle := hP _ rfl
    simp only [ChannelState.credit] at hle
    omega
  | turnWait ha => exact absurd (creditSpent_of_turn ha) hG
  | turnData ha => exact absurd (creditSpent_of_turn ha) hG
  | turnEnd ha => exact absurd (creditSpent_of_turn ha) hG
  | turnFail ha => exact absurd (creditSpent_of_turn ha) hG
  | _ => exact absurd trivial hG

/-- **The credit is covered, exactly.** -/
theorem credited_iff (ws : WordSize) (events : EventQueueImpl) (tr : List (Label T))
    (s : ChannelState T) :
    SafeRun (Step ws) (Credited ws) (initial T events) tr s ↔
      GuardedRun (Step ws) CreditSpent (initial T events) tr s :=
  safe_iff_guarded (initial_inv events) (fun r hport => by simp [initial] at hport)
    (fun _ _ _ => step_inv)
    (fun _ _ _ _ hP hG hs => (step_effect hs).credited hP hG)
    (fun _ _ _ _ _ hG hs => (step_effect hs).not_credited hG)

/-- The client leaves an announced message where it is, the last
Transmitter goes, and the callback counts the message a second time: the
second `recv` fails. -/
theorem credited_fails :
    ∃ tr s, perform .w64 (initial Nat ⟨3, []⟩)
        [.fromBlockingReceiver 100 5 4, .trySend 0 1, .callbackRead, .callbackLock,
          .dropTransmitter 0, .callbackRead, .callbackLock] = some (tr, s) ∧
      (s.port = .attached ⟨100, 5, 2⟩ ∧ s.data.queue = [1] ∧
        (perform .w64 s [.receiverRecv, .receiverRecv]).map (fun r => r.1.map Label.out) =
          some [.data 1, .failed "Remote channels are dead"]) ∧
      ¬ Credited .w64 s :=
  ⟨_, _, rfl, by decide, fun h => absurd (h _ rfl).credit (by decide)⟩

end Revbio.Channel
