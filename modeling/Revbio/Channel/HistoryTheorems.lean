/-
Revbio.Channel.HistoryTheorems — what a run has accepted, delivered and
announced, and how one step moves it.

Histories are functions of the labels of a run. `Effect.queue` is the
FIFO law of one step: what it delivers comes from the front of the queue,
what it accepts goes to the back. `delivered` carries it over runs.
-/
import Revbio.Channel.InvariantTheorems

namespace Revbio.Channel

variable {T : Type} {ws : WordSize}

/-! ## Histories -/

/-- The message a step accepts, with its sender. -/
def Label.accepted (l : Label T) : Option (TxId × T) :=
  match l.out, l.act with
  | .sent true, .trySend tx t => some (tx, t)
  | _, _ => none

/-- The message a step delivers. -/
def Label.received (l : Label T) : Option T :=
  match l.out with
  | .data t => some t
  | _ => none

/-- The events a step pushes for the Receiver. -/
def Label.pushed (l : Label T) : List EventKind :=
  match l.out with
  | .pushed kinds => kinds
  | _ => []

/-- The messages for which `try_send` returned true, in the order in which
the sends took the mutex. -/
def accepted (tr : List (Label T)) : List (TxId × T) := tr.filterMap Label.accepted

/-- Those of one Transmitter. -/
def acceptedFrom (tx : TxId) (tr : List (Label T)) : List T :=
  ((accepted tr).filter (·.1 = tx)).map Prod.snd

/-- The messages returned by the receive calls. -/
def received (tr : List (Label T)) : List T := tr.filterMap Label.received

/-- All events pushed for the Receiver. -/
def pushes (tr : List (Label T)) : List EventKind := tr.flatMap Label.pushed

@[simp] theorem accepted_nil : accepted ([] : List (Label T)) = [] := rfl
@[simp] theorem received_nil : received ([] : List (Label T)) = [] := rfl
@[simp] theorem pushes_nil : pushes ([] : List (Label T)) = [] := rfl

@[simp] theorem accepted_snoc (tr : List (Label T)) (l : Label T) :
    accepted (tr ++ [l]) = accepted tr ++ l.accepted.toList := by
  cases h : l.accepted <;> simp [accepted, h]

@[simp] theorem received_snoc (tr : List (Label T)) (l : Label T) :
    received (tr ++ [l]) = received tr ++ l.received.toList := by
  cases h : l.received <;> simp [received, h]

@[simp] theorem pushes_snoc (tr : List (Label T)) (l : Label T) :
    pushes (tr ++ [l]) = pushes tr ++ l.pushed := by
  simp [pushes]

theorem acceptedFrom_sublist (tx : TxId) (tr : List (Label T)) :
    (acceptedFrom tx tr).Sublist ((accepted tr).map Prod.snd) :=
  (List.filter_sublist).map Prod.snd

/-! ## One step -/

/-- A dropped receiving end stays dropped. -/
theorem Effect.dropped {s s' : ChannelState T} {l : Label T} (h : Effect ws s l s')
    (hd : s.port = .dropped) : s'.port = .dropped := by
  cases h with
  | turnData ha _ => exact absurd hd (turnOf_not_dropped ha)
  | dropBlockingReceiver hp _ => rfl
  | _ => simp_all

/-- **FIFO, one step.** -/
theorem Effect.queue {s s' : ChannelState T} {l : Label T} (h : Effect ws s l s')
    (hd : s'.port ≠ .dropped) :
    s.data.queue ++ (l.accepted.map Prod.snd).toList =
      l.received.toList ++ s'.data.queue := by
  cases h with
  | turnData _ hq => simp [Label.accepted, Label.received, hq]
  | tryRecvData _ _ hq => simp [Label.accepted, Label.received, hq]
  | turnEnd _ hq => simp [Label.accepted, Label.received, hq]
  | tryRecvEmpty _ _ hq => simp [Label.accepted, Label.received, hq]
  | tryRecvEnd _ _ hq => simp [Label.accepted, Label.received, hq]
  | dropBlockingReceiver => exact absurd rfl hd
  | attachWrite => simp [Label.accepted, Label.received, write_openEventfd, ChannelState.attach]
  | _ => simp [Label.accepted, Label.received, ChannelState.attach, ChannelState.openEventfd,
      ChannelState.closeEventfd]

/-- Transmitters come and go only by `clone` and `drop`. -/
theorem Effect.live_nodup {s s' : ChannelState T} {l : Label T} (h : Effect ws s l s')
    (hn : s.live.Nodup) : s'.live.Nodup := by
  cases h with
  | clone _ hnew => exact List.nodup_cons.mpr ⟨hnew, hn⟩
  | dropQuiet => exact hn.erase _
  | dropSignal => exact hn.erase _
  | dropWrite => exact hn.erase _
  | _ => exact hn

/-- With no Transmitter left there is nobody to make a new one. -/
theorem Effect.dead {s s' : ChannelState T} {l : Label T} (h : Effect ws s l s')
    (hl : s.live = []) : s'.live = [] := by
  cases h with
  | clone htx => simp [hl] at htx
  | dropQuiet htx => simp [hl] at htx
  | dropSignal htx => simp [hl] at htx
  | dropWrite htx => simp [hl] at htx
  | _ => exact hl

/-- Nor does anybody send. -/
theorem Effect.accepted_dead {s s' : ChannelState T} {l : Label T} (h : Effect ws s l s')
    (hl : s.live = []) : l.accepted = none := by
  cases h with
  | sendQuiet htx => simp [hl] at htx
  | sendSignal htx => simp [hl] at htx
  | sendWrite htx => simp [hl] at htx
  | _ => rfl

/-! ## Runs -/

/-- **FIFO delivery.** Until the receiving end is dropped, what has been
delivered and what is queued make up what has been accepted. -/
theorem delivered {events : EventQueueImpl} {tr : List (Label T)} {s : ChannelState T}
    (h : RunFrom ws events tr s) (hd : s.port ≠ .dropped) :
    received tr ++ s.data.queue = (accepted tr).map Prod.snd := by
  induction h with
  | nil => rfl
  | @snoc tr s s' l _ hstep ih =>
    have he := step_effect hstep
    have hq := he.queue hd
    have ih := ih fun hd' => hd (he.dropped hd')
    rw [received_snoc, accepted_snoc, List.append_assoc, ← hq, ← List.append_assoc, ih,
      List.map_append, Option.toList_map]

theorem run_live_nodup {events : EventQueueImpl} {tr : List (Label T)} {s : ChannelState T}
    (h : RunFrom ws events tr s) : s.live.Nodup :=
  h.invariant (by simp [initial]) fun _ _ _ hn hs => (step_effect hs).live_nodup hn

end Revbio.Channel
