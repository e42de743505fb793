/-
Revbio.Channel.MailboxTheorems — a channel is a mailbox.

`ChannelState.mailbox` is what the users of a channel know of it: the
messages on their way, the Transmitters, and whether anybody receives. The
flags, the eventfd, the condition and the credit of the Receiver are there
to get the receiving task going, and do not show. `Effect.mailbox` says so
step by step, and with the sections in their places (`explained`) it holds
access by access (`linearizable`).
-/
import Revbio.Lib.Mailbox
import Revbio.Channel.InterleavingTheorems
import Revbio.Channel.HistoryTheorems

namespace Revbio.Channel

variable {T : Type} {ws : WordSize} {owned : T → Nat}

def ChannelState.mailbox (s : ChannelState T) : Mailbox TxId T :=
  ⟨s.data.queue, s.live, s.data.portAlive⟩

/-- What an action is for the users of the channel. A wait tells its task
that there is nothing for now; `recv` fails where `recv_opt` would return
`None`. -/
def Label.op (l : Label T) : Option (Mailbox.Op TxId T) :=
  match l.act, l.out with
  | .spuriousWakeup, _ => none
  | .callbackRead, _ => none
  | .otherEvents _, _ => none
  | .trySend tx t, .sent true => some (.send tx t)
  | .trySend tx t, .sent false => some (.refused tx t)
  | .clone tx new, _ => some (.join tx new)
  | .dropTransmitter tx, _ => some (.leave tx)
  | .dropBlockingReceiver, _ => some .close
  | _, .data t => some (.receive t)
  | _, .empty => some .empty
  | _, .waits => some .empty
  | _, .ended => some .ended
  | _, .failed _ => some .ended
  | _, _ => none

/-- Only sections show. -/
theorem op_of_outside {l : Label T} (h : l.locked = false) : l.op = none := by
  obtain ⟨a, o⟩ := l
  cases a with
  | spuriousWakeup => rfl
  | callbackRead => rfl
  | otherEvents evs => rfl
  | receiverRecv =>
    cases o with
    | noCredit => rfl
    | _ => cases h
  | _ => cases h

theorem filterMap_sections (tr : List (Label T)) :
    (sections tr).filterMap Label.op = tr.filterMap Label.op := by
  induction tr with
  | nil => rfl
  | cons l tr ih =>
    cases h : l.locked with
    | true =>
      simp only [sections, List.filter_cons, h, if_true, List.filterMap_cons] at ih ⊢
      rw [ih]
    | false =>
      simp only [sections, List.filter_cons, h, List.filterMap_cons, op_of_outside h] at ih ⊢
      exact ih

/-- A receive call on an empty queue leaves the mailbox as it was. -/
theorem mailbox_take_nil {s : ChannelState T} (hq : s.data.queue = []) :
    (s.take []).mailbox = s.mailbox := by
  rw [ChannelState.mailbox, ChannelState.mailbox, hq]
  rfl

/-- What a turn of a receive loop is. -/
theorem op_of_turn {s : ChannelState T} {a : Act T} {b : BlockedIn} (ha : turnOf s a = some b)
    (o : Out T) : (⟨a, o⟩ : Label T).op = match o with
      | .data t => some (.receive t)
      | .empty => some .empty
      | .waits => some .empty
      | .ended => some .ended
      | .failed _ => some .ended
      | _ => none := by
  cases a with
  | recv => cases o <;> rfl
  | recvOpt => cases o <;> rfl
  | reacquire => cases o <;> rfl
  | receiverRecv => cases o <;> rfl
  | _ => simp [turnOf] at ha

/-- **One step** of the channel is an operation of the mailbox, or does not
show. -/
theorem Effect.mailbox {s s' : ChannelState T} {l : Label T} (hi : Inv s)
    (h : Effect ws s l s') :
    match l.op with
    | some o => Mailbox.Step s.mailbox o s'.mailbox
    | none => s'.mailbox = s.mailbox := by
  cases h with
  | sendDead htx hp => exact .refused htx hp
  | sendQuiet htx hp => exact .send htx hp
  | sendSignal htx hp => exact .send htx hp
  | sendWrite htx hp => exact .send htx hp
  | clone htx hnew => exact .join htx hnew
  | dropQuiet htx => exact .leave htx
  | dropSignal htx => exact .leave htx
  | dropWrite htx => exact .leave htx
  | turnWait ha hq hs =>
    rw [op_of_turn ha]
    exact .empty (hi.not_dropped (turnOf_not_dropped ha)) hq (mt hi.nrSenders_eq_zero.mpr hs)
  | turnData ha hq =>
    rw [op_of_turn ha]
    exact .receive (hi.not_dropped (turnOf_not_dropped ha)) hq
  | turnEnd ha hq hs =>
    rw [op_of_turn ha]
    show Mailbox.Step s.mailbox .ended (s.take []).mailbox
    rw [mailbox_take_nil hq]
    exact .ended (hi.not_dropped (turnOf_not_dropped ha)) hq (hi.nrSenders_eq_zero.mp hs)
  | turnFail ha _ hq hs =>
    rw [op_of_turn ha]
    exact .ended (hi.not_dropped (turnOf_not_dropped ha)) hq (hi.nrSenders_eq_zero.mp hs)
  | tryRecvData hport _ hq => exact .receive (hi.not_dropped (by simp [hport])) hq
  | tryRecvEmpty hport _ hq hs =>
    show Mailbox.Step s.mailbox .empty (s.take []).mailbox
    rw [mailbox_take_nil hq]
    exact .empty (hi.not_dropped (by simp [hport])) hq (mt hi.nrSenders_eq_zero.mpr hs)
  | tryRecvEnd hport _ hq hs =>
    show Mailbox.Step s.mailbox .ended (s.take []).mailbox
    rw [mailbox_take_nil hq]
    exact .ended (hi.not_dropped (by simp [hport])) hq (hi.nrSenders_eq_zero.mp hs)
  | dropBlockingReceiver hport =>
    refine .close (hi.not_dropped ?_)
    rcases hport with hport | hport <;> simp [hport]
  | _ => rfl

/-- A run of the channel is a history of a mailbox. -/
theorem run_mailbox {events : EventQueueImpl} {tr : List (Label T)} {s : ChannelState T}
    (h : RunFrom ws events tr s) :
    Transition.Run Mailbox.Step (Mailbox.new 0) (tr.filterMap Label.op) s.mailbox := by
  have hsim : ∃ m, (Inv s ∧ m = s.mailbox) ∧
      Transition.Run Mailbox.Step (Mailbox.new 0) (tr.filterMap Label.op) m := by
    refine Transition.Run.simulate (R := fun s m => Inv s ∧ m = s.mailbox) ?_ h
      ⟨initial_inv events, rfl⟩
    rintro s l t m ⟨hi, rfl⟩ hstep
    refine ⟨t.mailbox, ⟨step_inv hi hstep, rfl⟩, ?_⟩
    have := (step_effect hstep).mailbox hi
    cases hop : l.op with
    | none => simpa [hop] using this
    | some o => simpa [hop] using this
  obtain ⟨m, ⟨-, rfl⟩, hrun⟩ := hsim
  exact hrun

/-- The sections of a run in their places make up the same operations. -/
theorem explained_ops {tr tr' : List (Label T)} {pending : List (Label T)}
    (h : sections tr ++ pending = sections tr') :
    (tr ++ pending).filterMap Label.op = tr'.filterMap Label.op := by
  rw [← filterMap_sections tr', ← h, List.filterMap_append, List.filterMap_append,
    filterMap_sections]

/-- **A channel is a linearizable mailbox.** In every run access by access,
the operations that are over, in the order of their ends and with the
results they had, are a history of a mailbox; the operation of the task that
has the mutex may be part of it as well. -/
theorem linearizable {events : EventQueueImpl} {tr : List (CallLabel T)} {c : CallState T}
    (h : CallRun ws owned events tr c) :
    ∃ pending m, Transition.Run Mailbox.Step (Mailbox.new 0)
        ((completed tr ++ pending).filterMap Label.op) m ∧
      pending.length ≤ 1 ∧
      (∀ l ∈ pending, c.owner = some l.act.agent ∧
        ∃ p, c.running l.act.agent = some ⟨l.act, p⟩) ∧
      (c.owner = none → m = c.shared.mailbox) := by
  obtain ⟨-, pending, tr', t, hrun, hlin, hsec, -⟩ := explained h
  obtain ⟨hlength, hpend, hfree⟩ := hlin.pending
  exact ⟨pending, t.mailbox, explained_ops hsec ▸ run_mailbox hrun, hlength, hpend,
    fun h => congrArg _ (hfree h)⟩

theorem linearizable_wokenMeanwhile :
    ∃ m, Transition.Run Mailbox.Step (Mailbox.new 0) [.empty, .send 0 (7 : Nat)] m := by
  obtain ⟨c, hc, hfree⟩ := wokenMeanwhile_run .w64 (fun _ => 0) ⟨3, []⟩
  obtain ⟨pending, m, hrun, -, hpend, -⟩ := linearizable hc
  have hnone : pending = [] := List.eq_nil_iff_forall_not_mem.mpr fun l hl =>
    nomatch hfree.symm.trans (hpend l hl).1
  subst hnone
  exact ⟨m, hrun⟩

/-- What the users of a channel can rely on, with the mutex free: messages
arrive in order and once each; told the end, a receiver has had all of them
and there is no Transmitter left; a receiving end that is gone leaves
nothing behind. -/
theorem calls_in_order {events : EventQueueImpl} {tr : List (CallLabel T)} {c : CallState T}
    {ops : List (Mailbox.Op TxId T)} (h : CallRun ws owned events tr c) (hfree : c.owner = none)
    (hops : (completed tr).filterMap Label.op = ops) :
    Mailbox.received ops <+: Mailbox.sent ops ∧
      (.ended ∈ ops → c.shared.live = [] ∧ c.shared.data.queue = [] ∧
        Mailbox.received ops = Mailbox.sent ops) ∧
      (.close ∈ ops → c.shared.data.portAlive = false ∧ c.shared.data.queue = []) := by
  subst hops
  obtain ⟨-, pending, tr', t, hrun, hlin, hsec, -⟩ := explained h
  obtain ⟨rfl, rfl⟩ := hlin.of_free hfree
  have hmail := run_mailbox hrun
  rw [← explained_ops hsec, List.append_nil] at hmail
  exact ⟨Mailbox.Run.in_order hmail, Mailbox.Run.after_ended hmail, Mailbox.Run.after_close hmail⟩

end Revbio.Channel
