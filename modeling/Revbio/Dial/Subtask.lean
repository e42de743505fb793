/-
Revbio.Dial.Subtask — `subtask` of `example.rs`, in every run.

It makes no more connections than it has `iterations` for, one after the
other, and returns with the socket closed. It can always get to its end,
but for one case. A `read` or a `write` that fails closes the socket without
an event, and the task waits for an event: `stream_alive` stays true, and it
ticks for ever (`subtask_behaves`).
-/
import Revbio.Dial.SystemTheorems

namespace Revbio.Dial

open CallTree Prog EventLoop Revbio.Stream Transition

variable {ws : WordSize} {host : Endian} {subTimer : Timer} {n : Int}

abbrev SubtaskStep (ws : WordSize) (host : Endian) (subTimer : Timer) :
    Dialer SubtaskVars → DialLabel → Dialer SubtaskVars → Prop :=
  DialStep ws host (subtask subTimer) [subTimer.eventSourceInfo]

/-- In front of the loop, with `n` for `iterations`. -/
structure SubtaskStarts (ws : WordSize) (host : Endian) (subTimer : Timer) (n : Int)
    (s : Dialer SubtaskVars) : Prop where
  task : s.Starts ws host [subTimer.eventSourceInfo]
  streamAlive : s.vars.streamAlive = true
  iterations : s.vars.iterations = n

/-! ## What an event does -/

variable {s t : Dialer SubtaskVars} {l : DialLabel}

/-- The task after the event `ev`. -/
inductive Reaction (subTimer : Timer) (s : Dialer SubtaskVars) (stream : StreamState)
    (ev : Event) : Dialer SubtaskVars → Prop where
  | tick : ev.originatesFrom subTimer = true → s.vars.streamAlive = true →
      Reaction subTimer s stream ev
        { s with stream, vars := s.vars.send (.text "subtimer::tick()") }
  | again : ev.originatesFrom subTimer = true → s.vars.streamAlive = false →
      0 < s.vars.iterations →
      Reaction subTimer s stream ev
        { s with stream, vars := s.vars.send (.text "subtimer::tick()"), place := .connecting }
  | done : ev.originatesFrom subTimer = true → s.vars.streamAlive = false →
      s.vars.iterations ≤ 0 →
      Reaction subTimer s stream ev
        { s with stream, vars := s.vars.send (.text "subtimer::tick()"), place := .leaving }
  | connected {vars : SubtaskVars} {len : Nat} : ev.originatesFrom subTimer = false →
      ev.originatesFrom s.stream.sock = true → ev.eventType = .connectedEvent →
      vars.streamAlive = true → vars.iterations = s.vars.iterations →
      Reaction subTimer s stream ev
        { s with stream, vars, place := .writing len, taken := s.taken ++ [ev.eventType] }
  | ended {vars : SubtaskVars} : ev.originatesFrom subTimer = false →
      ev.originatesFrom s.stream.sock = true → Terminal ev.eventType →
      vars.streamAlive = false → vars.iterations = s.vars.iterations - 1 →
      Reaction subTimer s stream ev { s with stream, vars, taken := s.taken ++ [ev.eventType] }
  | data {nrBytes : Nat} : ev.originatesFrom subTimer = false →
      ev.originatesFrom s.stream.sock = true → ev.eventType = .dataAvailableEvent nrBytes →
      Reaction subTimer s stream ev
        { s with stream, place := .reading nrBytes, taken := s.taken ++ [ev.eventType] }
  | ignored : ev.originatesFrom subTimer = false → ev.originatesFrom s.stream.sock = true →
      ev.eventType ≠ .connectedEvent → ¬ Terminal ev.eventType → ¬ IsData ev.eventType →
      Reaction subTimer s stream ev { s with stream, taken := s.taken ++ [ev.eventType] }
  | others : ev.originatesFrom subTimer = false → ev.originatesFrom s.stream.sock = false →
      Reaction subTimer s stream ev { s with stream }

theorem reacts (h : DialInv [subTimer.eventSourceInfo] s) (hplace : s.place = .next)
    (stream : StreamState) (ev : Event) :
    Reaction subTimer s stream ev (s.after (subtask subTimer) stream (.returns (.ok ev))) := by
  cases htimer : ev.originatesFrom subTimer with
  | true =>
    have hother : ev.originatesFrom s.stream.sock = false := by
      have hne := h.others
      simp only [List.mem_singleton] at hne
      simp only [originatesFrom_eq, EventSource.getEventSourceInfo, decide_eq_true_eq] at htimer
      simp [originatesFrom_eq, EventSource.getEventSourceInfo, htimer, Ne.symm hne]
    cases halive : s.vars.streamAlive with
    | true =>
      have hafter : Reaction subTimer s stream ev _ := .tick htimer halive
      simpa [Dialer.after, subtask, htimer, hother, SubtaskVars.send, halive, hplace] using hafter
    | false =>
      by_cases hmore : 0 < s.vars.iterations
      · have hafter : Reaction subTimer s stream ev _ := .again htimer halive hmore
        simpa [Dialer.after, subtask, htimer, hother, SubtaskVars.send, halive, hmore] using hafter
      · have hafter : Reaction subTimer s stream ev _ := .done htimer halive (by omega)
        simpa [Dialer.after, subtask, htimer, hother, SubtaskVars.send, halive, hmore] using hafter
  | false =>
    cases hown : ev.originatesFrom s.stream.sock with
    | false =>
      have hafter : Reaction subTimer s stream ev _ := .others htimer hown
      simpa [Dialer.after, subtask, htimer, hown, hplace] using hafter
    | true =>
      have hignored : (subtask subTimer).react s.stream.sock s.vars ev = (s.vars, .next) →
          ev.eventType ≠ .connectedEvent → ¬ Terminal ev.eventType → ¬ IsData ev.eventType →
          Reaction subTimer s stream ev
            (s.after (subtask subTimer) stream (.returns (.ok ev))) := by
        intro hreact hconnected hterminal hdata
        have hafter : Reaction subTimer s stream ev _ :=
          .ignored htimer hown hconnected hterminal hdata
        simpa [Dialer.after, hreact, hown, hplace] using hafter
      cases hk : ev.eventType with
      | connectedEvent =>
        have hafter : Reaction subTimer s stream ev
            { s with
              stream
              vars := { s.vars.send (.text "TCP stream got connected") with streamAlive := true }
              place := .writing request.utf8ByteSize
              taken := s.taken ++ [ev.eventType] } := .connected htimer hown hk rfl rfl
        simpa [Dialer.after, subtask, htimer, hown, hk] using hafter
      | ioErrorEvent err =>
        have hafter : Reaction subTimer s stream ev
            { s with
              stream
              vars :=
                { (s.vars.send (.text "IoError")).send (.text err.desc) with
                  streamAlive := false, iterations := s.vars.iterations - 1 }
              taken := s.taken ++ [ev.eventType] } :=
          .ended htimer hown (.inr ⟨err, hk⟩) rfl rfl
        simpa [Dialer.after, subtask, htimer, hown, hk, SubtaskVars.send, hplace] using hafter
      | streamClosedEvent =>
        have hafter : Reaction subTimer s stream ev
            { s with
              stream
              vars :=
                { s.vars.send (.text "TCP connection closed") with
                  streamAlive := false, iterations := s.vars.iterations - 1 }
              taken := s.taken ++ [ev.eventType] } := .ended htimer hown (.inl hk) rfl rfl
        simpa [Dialer.after, subtask, htimer, hown, hk, SubtaskVars.send, hplace] using hafter
      | dataAvailableEvent nrBytes =>
        have hafter : Reaction subTimer s stream ev _ := .data htimer hown hk
        simpa [Dialer.after, subtask, htimer, hown, hk] using hafter
      | timerEvent =>
        exact hignored (by simp [subtask, htimer, hown, hk]) (by simp [hk])
          (by simp [hk, Terminal]) (by simp [hk, IsData])
      | channelClosedEvent =>
        exact hignored (by simp [subtask, htimer, hown, hk]) (by simp [hk])
          (by simp [hk, Terminal]) (by simp [hk, IsData])
      | channelMessageEvent =>
        exact hignored (by simp [subtask, htimer, hown, hk]) (by simp [hk])
          (by simp [hk, Terminal]) (by simp [hk, IsData])
      | clientConnectedEvent =>
        exact hignored (by simp [subtask, htimer, hown, hk]) (by simp [hk])
          (by simp [hk, Terminal]) (by simp [hk, IsData])

/-! ## The invariant -/

/-- The present connection has not been counted yet. -/
def Uncounted (s : Dialer SubtaskVars) : Prop := s.taken = [] ∨ ∃ len, s.place = .writing len

structure SubtaskInv (subTimer : Timer) (n : Int) (s : Dialer SubtaskVars) : Prop where
  dial : DialInv [subTimer.eventSourceInfo] s
  alive : s.vars.streamAlive = true ↔ ∀ k ∈ s.taken, ¬ Terminal k
  connecting : s.place = .connecting → s.vars.streamAlive = false ∧ 0 < s.vars.iterations
  leaving : s.place = .leaving ∨ s.place = .ended →
    s.vars.streamAlive = false ∧ s.vars.iterations ≤ 0
  least : -1 ≤ s.vars.iterations
  left : s.vars.streamAlive = true → 0 ≤ s.vars.iterations
  uncounted : Uncounted s → 1 ≤ s.vars.iterations
  connects : s.connects ≤ n
  account : s.connects + s.vars.iterations ≤ n + 1
  counted : ¬ Uncounted s → s.connects + s.vars.iterations ≤ n
  writing : ∀ len, s.place = .writing len → s.taken ≠ []

theorem subtask_start (hn : 1 ≤ n) (h : SubtaskStarts ws host subTimer n s) :
    SubtaskInv subTimer n s := by
  have htaken := h.task.taken
  have hplace := h.task.place
  have halive := h.streamAlive
  have hiterations := h.iterations
  have hconnects := h.task.connects
  refine ⟨dial_start h.task, ?_, ?_, ?_, ?_, ?_, ?_, ?_, ?_, ?_, by simp [hplace]⟩
  · simp [halive, htaken]
  · simp [hplace]
  · simp [hplace]
  · omega
  · omega
  · omega
  · omega
  · omega
  · exact fun hcounted => absurd (.inl htaken) hcounted

theorem SubtaskInv.dead (h : SubtaskInv subTimer n s) (hdead : s.vars.streamAlive = false) :
    ∃ k ∈ s.taken, Terminal k := by
  have hsome : ¬ ∀ k ∈ s.taken, ¬ Terminal k := by
    rw [← h.alive, hdead]
    simp
  push Not at hsome
  exact hsome

/-- The event of the end has been taken, so the socket is closed. -/
theorem SubtaskInv.closed (h : SubtaskInv subTimer n s) (hdead : s.vars.streamAlive = false) :
    s.stream.sock.socket.connectionState = .closed := by
  obtain ⟨k, hk, hterminal⟩ := h.dead hdead
  exact h.dial.closed hk hterminal

/-- The task goes on with nothing new about its connection. -/
theorem SubtaskInv.moves (h : SubtaskInv subTimer n s)
    (hdial : DialInv [subTimer.eventSourceInfo] t)
    (hvars : t.vars.streamAlive = s.vars.streamAlive ∧ t.vars.iterations = s.vars.iterations)
    (htaken : t.taken = s.taken) (hconnects : t.connects = s.connects)
    (hfrom : ∀ len, s.place ≠ .writing len) (hto : ∀ len, t.place ≠ .writing len)
    (hconnecting : t.place = .connecting → s.vars.streamAlive = false ∧ 0 < s.vars.iterations)
    (hleaving : t.place = .leaving ∨ t.place = .ended →
      s.vars.streamAlive = false ∧ s.vars.iterations ≤ 0) : SubtaskInv subTimer n t := by
  obtain ⟨halive, hiterations⟩ := hvars
  have huncounted : Uncounted t ↔ Uncounted s := by
    simp [Uncounted, htaken, hfrom, hto]
  refine ⟨hdial, ?_, ?_, ?_, ?_, ?_, ?_, ?_, ?_, ?_, fun len hplace => absurd hplace (hto len)⟩
  · rw [halive, htaken]
    exact h.alive
  · rw [halive, hiterations]
    exact hconnecting
  · rw [halive, hiterations]
    exact hleaving
  · rw [hiterations]
    exact h.least
  · rw [halive, hiterations]
    exact h.left
  · rw [huncounted, hiterations]
    exact h.uncounted
  · rw [hconnects]
    exact h.connects
  · rw [hconnects, hiterations]
    exact h.account
  · rw [huncounted, hconnects, hiterations]
    exact h.counted

/-- The event of the end counts the connection, once more if it has been
made. -/
theorem SubtaskInv.over (h : SubtaskInv subTimer n s) {k : EventKind} {stream : StreamState}
    {vars : SubtaskVars} (hplace : s.place = .next) (hk : Terminal k)
    (hbefore : ∀ j ∈ s.taken, ¬ Terminal j)
    (hvars : vars.streamAlive = false ∧ vars.iterations = s.vars.iterations - 1)
    (hdial : DialInv [subTimer.eventSourceInfo]
      { s with stream, vars, taken := s.taken ++ [k] }) :
    SubtaskInv subTimer n { s with stream, vars, taken := s.taken ++ [k] } := by
  obtain ⟨hdead, hiterations⟩ := hvars
  have hleft := h.left (h.alive.mpr hbefore)
  have haccount := h.account
  refine ⟨hdial, ?_, by simp [hplace], by simp [hplace], ?_, by simp [hdead], ?_, h.connects,
    ?_, ?_, by simp⟩
  · simp only [hdead, Bool.false_eq_true, false_iff]
    exact fun hall => hall k (by simp) hk
  · show -1 ≤ vars.iterations
    omega
  · simp [Uncounted, hplace]
  · show (s.connects : Int) + vars.iterations ≤ n + 1
    omega
  · intro _
    show (s.connects : Int) + vars.iterations ≤ n
    omega

/-- The first event of a connection that is made. -/
theorem SubtaskInv.connected (h : SubtaskInv subTimer n s) {stream : StreamState}
    {vars : SubtaskVars} {len : Nat} (htaken : s.taken = [])
    (hvars : vars.streamAlive = true ∧ vars.iterations = s.vars.iterations)
    (hdial : DialInv [subTimer.eventSourceInfo]
      { s with stream, vars, place := .writing len, taken := s.taken ++ [.connectedEvent] }) :
    SubtaskInv subTimer n
      { s with stream, vars, place := .writing len, taken := s.taken ++ [.connectedEvent] } := by
  obtain ⟨halive, hiterations⟩ := hvars
  have hleft := h.uncounted (.inl htaken)
  refine ⟨hdial, ?_, by simp, by simp, ?_, ?_, ?_, h.connects, ?_, ?_, by simp⟩
  · simp [halive, htaken, Terminal]
  · show -1 ≤ vars.iterations
    omega
  · intro _
    show 0 ≤ vars.iterations
    omega
  · intro _
    show 1 ≤ vars.iterations
    omega
  · show (s.connects : Int) + vars.iterations ≤ n + 1
    have haccount := h.account
    omega
  · exact fun hcounted => absurd (.inr ⟨len, rfl⟩) hcounted

/-- Data on a connection that has been counted. -/
theorem SubtaskInv.data (h : SubtaskInv subTimer n s) {k : EventKind} {stream : StreamState}
    {nrBytes : Nat} (hplace : s.place = .next) (hk : ¬ Terminal k) (htaken : s.taken ≠ [])
    (hdial : DialInv [subTimer.eventSourceInfo]
      { s with stream, place := .reading nrBytes, taken := s.taken ++ [k] }) :
    SubtaskInv subTimer n
      { s with stream, place := .reading nrBytes, taken := s.taken ++ [k] } := by
  refine ⟨hdial, ?_, by simp, by simp, h.least, h.left, by simp [Uncounted], h.connects,
    h.account, ?_, by simp⟩
  · rw [h.alive, List.forall_mem_append]
    simp [hk]
  · exact fun _ => h.counted (by simp [Uncounted, htaken, hplace])

theorem SubtaskInv.reaction (h : SubtaskInv subTimer n s) (hplace : s.place = .next)
    {stream : StreamState} {ev : Event} (hdial : DialInv [subTimer.eventSourceInfo] t)
    (htells : ev.originatesFrom s.stream.sock = true →
      (∃ rest, Allowed .connect (s.taken ++ ev.eventType :: rest)) ∧
        ∀ k ∈ s.taken, ¬ Terminal k)
    (hreaction : Reaction subTimer s stream ev t) : SubtaskInv subTimer n t := by
  cases hreaction with
  | tick =>
    exact h.moves hdial ⟨rfl, rfl⟩ rfl rfl (by simp [hplace]) (by simp [hplace])
      (by simp [hplace]) (by simp [hplace])
  | again _ hdead hmore =>
    exact h.moves hdial ⟨rfl, rfl⟩ rfl rfl (by simp [hplace]) (by simp)
      (fun _ => ⟨hdead, hmore⟩) (by simp)
  | done _ hdead hnone =>
    exact h.moves hdial ⟨rfl, rfl⟩ rfl rfl (by simp [hplace]) (by simp) (by simp)
      fun _ => ⟨hdead, hnone⟩
  | connected _ hown hk halive hiterations =>
    obtain ⟨⟨rest, hallowed⟩, -⟩ := htells hown
    rw [hk] at hallowed hdial ⊢
    exact h.connected (connected_first hallowed) ⟨halive, hiterations⟩ hdial
  | ended _ hown hk hdead hiterations =>
    exact h.over hplace hk (htells hown).2 ⟨hdead, hiterations⟩ hdial
  | data _ hown hk =>
    obtain ⟨⟨rest, hallowed⟩, -⟩ := htells hown
    have hne : ¬ Terminal ev.eventType := by simp [hk, Terminal]
    exact h.data hplace hne (data_not_first (by simp [hk]) hne hallowed).2 hdial
  | ignored _ hown hconnected hterminal hdata =>
    obtain ⟨⟨rest, hallowed⟩, -⟩ := htells hown
    exact absurd (data_not_first hconnected hterminal hallowed).1 hdata
  | others =>
    exact h.moves hdial ⟨rfl, rfl⟩ rfl rfl (by simp [hplace]) (by simp [hplace])
      (by simp [hplace]) (by simp [hplace])

theorem SubtaskInv.step (h : SubtaskInv subTimer n s)
    (hstep : SubtaskStep ws host subTimer s l t) : SubtaskInv subTimer n t := by
  have hdial := h.dial.step hstep
  cases hstep with
  | @loop ll stream hplace hloop =>
    cases ll with
    | goesOn =>
      exact h.moves hdial ⟨rfl, rfl⟩ rfl rfl (by simp [hplace]) (by simp [Dialer.after, hplace])
        (by simp [Dialer.after, hplace]) (by simp [Dialer.after, hplace])
    | returns result =>
      cases result with
      | error err =>
        exact h.moves hdial ⟨rfl, rfl⟩ rfl rfl (by simp [hplace]) (by simp [Dialer.after])
          (by simp [Dialer.after]) (by simp [Dialer.after])
      | ok ev =>
        exact h.reaction hplace hdial hdial.tells (reacts h.dial hplace stream ev)
  | report hplace =>
    exact h.moves hdial ⟨rfl, rfl⟩ rfl rfl (by simp [hplace]) (by simp [hplace])
      (by simp [hplace]) (by simp [hplace])
  | callback hplace =>
    exact h.moves hdial ⟨rfl, rfl⟩ rfl rfl (by simp [hplace]) (by simp [hplace])
      (by simp [hplace]) (by simp [hplace])
  | @read nrBytes result sock queue kernel hplace hx =>
    refine h.moves hdial ?_ rfl rfl (by simp [hplace]) (by simp) (by simp) (by simp)
    cases result with
    | ok nrRead => exact ⟨rfl, rfl⟩
    | error err => exact ⟨rfl, rfl⟩
  | @write len result sock queue kernel hplace hx =>
    have hleft := h.uncounted (.inr ⟨len, hplace⟩)
    have haccount := h.account
    refine ⟨hdial, h.alive, by simp, by simp, ?_, ?_, ?_, h.connects, ?_, ?_, by simp⟩
    · show -1 ≤ s.vars.iterations - 1
      omega
    · intro _
      show 0 ≤ s.vars.iterations - 1
      omega
    · simp [Uncounted, h.writing len hplace]
    · show (s.connects : Int) + (s.vars.iterations - 1) ≤ n + 1
      omega
    · intro _
      show (s.connects : Int) + (s.vars.iterations - 1) ≤ n
      omega
  | @connect this info sock queue queue' kernel kernel' hplace hown hne hother hx hdrop =>
    obtain ⟨hdead, hmore⟩ := h.connecting hplace
    have hcounted : ¬ Uncounted s := by
      obtain ⟨k, hk, -⟩ := h.dead hdead
      simp [Uncounted, hplace, List.ne_nil_of_mem hk]
    have haccount := h.counted hcounted
    refine ⟨hdial, ?_, by simp, by simp, h.least, fun _ => Int.le_of_lt hmore,
      fun _ => hmore, ?_, ?_, ?_, by simp⟩
    · simp [subtask]
    · show ((s.connects + 1 : Nat) : Int) ≤ n
      omega
    · show ((s.connects + 1 : Nat) : Int) + s.vars.iterations ≤ n + 1
      omega
    · exact fun hcounted => absurd (.inl rfl) hcounted
  | connectFailed hplace hx =>
    exact h.moves hdial ⟨rfl, rfl⟩ rfl rfl (by simp [hplace]) (by simp) (by simp) (by simp)
  | leave hplace hothers hclose =>
    exact h.moves hdial ⟨rfl, rfl⟩ rfl rfl (by simp [hplace]) (by simp) (by simp)
      fun _ => h.leaving (.inl hplace)

theorem subtask_careful (n : Int) : Careful ws host (subtask subTimer)
    [subTimer.eventSourceInfo] (SubtaskInv subTimer n) where
  dial h := h.dial
  step h hstep := h.step hstep
  told h hplace := by
    rcases hplace with hplace | hplace
    · exact h.dead (h.connecting hplace).1
    · exact h.dead (h.leaving hplace).1

/-! ## The way to the end -/

/-- What is left to be done with the connections there may be. -/
def SubtaskVars.rest (v : SubtaskVars) : Nat :=
  2 * (v.iterations + 1).toNat + if v.streamAlive then 0 else 1

/-- A tick is queued. -/
def Ticking (subTimer : Timer) (q : EventQueueImpl) : Prop :=
  ∃ ev ∈ q.readyEvents, ev.originatesFrom subTimer = true

instance (subTimer : Timer) (q : EventQueueImpl) : Decidable (Ticking subTimer q) :=
  inferInstanceAs (Decidable (∃ ev ∈ q.readyEvents, _))

/-- A task with a closed socket needs a tick. -/
def toTick (subTimer : Timer) (v : SubtaskVars) (q : EventQueueImpl) : Nat :=
  if v.streamAlive ∨ Ticking subTimer q then 0 else 12

/-- What is left to be done in the loop. -/
def toDo (subTimer : Timer) (v : SubtaskVars) (stream : StreamState) : Nat :=
  4 * stream.queue.readyEvents.length + toClose stream.sock.socket.connectionState +
    toTick subTimer v stream.queue + toPoll stream.phase

def rank (subTimer : Timer) (s : Dialer SubtaskVars) : Nat :=
  match s.place with
  | .ended => 0
  | .failed => 0
  | .leaving => 1
  | .connecting => 40 * s.vars.rest + 4 * s.stream.queue.readyEvents.length + 2
  | .next => 40 * s.vars.rest + toDo subTimer s.vars s.stream
  | _ => 40 * s.vars.rest + toDo subTimer s.vars s.stream + 1

theorem rank_next (hplace : s.place = .next) :
    rank subTimer s = 40 * s.vars.rest + toDo subTimer s.vars s.stream := by
  simp [rank, hplace]

theorem rank_stream (hplace : s.place = .next) (stream : StreamState) :
    rank subTimer { s with stream } = 40 * s.vars.rest + toDo subTimer s.vars stream :=
  rank_next hplace

section Taken

variable {ev : Event} {rest : List Event}

theorem toTick_le (subTimer : Timer) (v : SubtaskVars) (q : EventQueueImpl) :
    toTick subTimer v q ≤ 12 := by
  unfold toTick
  split <;> simp

theorem toTick_alive {v : SubtaskVars} (halive : v.streamAlive = true) (q : EventQueueImpl) :
    toTick subTimer v q = 0 := by
  simp [toTick, halive]

theorem toTick_taken {q : EventQueueImpl} (hq : q.readyEvents = ev :: rest)
    (htimer : ev.originatesFrom subTimer = false) (v : SubtaskVars) :
    toTick subTimer v { q with readyEvents := rest } = toTick subTimer v q := by
  have hticking : Ticking subTimer { q with readyEvents := rest } ↔ Ticking subTimer q := by
    simp [Ticking, hq, htimer]
  exact if_congr (or_congr_right hticking) rfl rfl

theorem toDo_takenOut (v : SubtaskVars) (stream : StreamState) :
    toDo subTimer v (takenOut stream rest) = 4 * rest.length +
      toClose stream.sock.socket.connectionState +
      toTick subTimer v { stream.queue with readyEvents := rest } + 1 := rfl

theorem SubtaskInv.take_rank (h : SubtaskInv subTimer n s) (hplace : s.place = .next)
    (hq : s.stream.queue.readyEvents = ev :: rest)
    (hphase : s.stream.phase = .idle ∨ s.stream.phase = .checking)
    (hbefore : ev.originatesFrom s.stream.sock = true → ∀ k ∈ s.taken, ¬ Terminal k)
    (hreaction : Reaction subTimer s (takenOut s.stream rest) ev t) :
    t.place ≠ .failed ∧ rank subTimer t < rank subTimer s := by
  have hrank : rank subTimer s = _ := rank_next hplace
  have hweight : 4 * rest.length + toClose s.stream.sock.socket.connectionState +
      toTick subTimer s.vars s.stream.queue + 5 ≤ toDo subTimer s.vars s.stream := by
    have hlength : s.stream.queue.readyEvents.length = rest.length + 1 := by simp [hq]
    rcases hphase with hphase | hphase
    · simp only [toDo, hphase, hlength, toPoll]
      omega
    · simp only [toDo, hphase, hlength, toPoll]
      omega
  have hold : ev.originatesFrom s.stream.sock = true → s.vars.streamAlive = true :=
    fun hown => h.alive.mpr (hbefore hown)
  cases hreaction with
  | tick _ halive =>
    refine ⟨by simp [hplace], ?_⟩
    have htick : toTick subTimer (s.vars.send (.text "subtimer::tick()"))
        { s.stream.queue with readyEvents := rest } = 0 := toTick_alive halive _
    have hafter : rank subTimer { s with
        stream := takenOut s.stream rest, vars := s.vars.send (.text "subtimer::tick()") } =
          40 * s.vars.rest + toDo subTimer (s.vars.send (.text "subtimer::tick()"))
            (takenOut s.stream rest) := by
      simp only [rank, hplace]
      rfl
    rw [hafter, toDo_takenOut, htick]
    omega
  | again =>
    refine ⟨by simp, ?_⟩
    show 40 * s.vars.rest + 4 * rest.length + 2 < rank subTimer s
    omega
  | done =>
    refine ⟨by simp, ?_⟩
    show 1 < rank subTimer s
    omega
  | @connected vars len _ hown _ halive hiterations =>
    refine ⟨by simp, ?_⟩
    have hrest : vars.rest = s.vars.rest := by
      simp [SubtaskVars.rest, halive, hold hown, hiterations]
    show 40 * vars.rest + toDo subTimer vars (takenOut s.stream rest) + 1 < _
    rw [toDo_takenOut, toTick_alive halive, hrest]
    omega
  | @ended vars _ hown _ hdead hiterations =>
    refine ⟨by simp [hplace], ?_⟩
    have hleft := h.left (hold hown)
    have hrest : vars.rest + 1 = s.vars.rest := by
      simp only [SubtaskVars.rest, hdead, hold hown, hiterations]
      simp
      omega
    have htick := toTick_le subTimer vars { s.stream.queue with readyEvents := rest }
    have hafter : ∀ k, rank subTimer
        { s with stream := takenOut s.stream rest, vars, taken := s.taken ++ [k] } =
          40 * vars.rest + toDo subTimer vars (takenOut s.stream rest) := by
      intro k
      simp only [rank, hplace]
    rw [hafter, toDo_takenOut]
    omega
  | data _ hown _ =>
    refine ⟨by simp, ?_⟩
    show 40 * s.vars.rest + toDo subTimer s.vars (takenOut s.stream rest) + 1 < _
    rw [toDo_takenOut, toTick_alive (hold hown)]
    omega
  | ignored _ hown =>
    refine ⟨by simp [hplace], ?_⟩
    have hafter : ∀ k, rank subTimer
        { s with stream := takenOut s.stream rest, taken := s.taken ++ [k] } =
          40 * s.vars.rest + toDo subTimer s.vars (takenOut s.stream rest) := by
      intro k
      simp only [rank, hplace]
    rw [hafter, toDo_takenOut, toTick_alive (hold hown)]
    omega
  | others htimer =>
    refine ⟨by simp [hplace], ?_⟩
    rw [rank_stream hplace, toDo_takenOut, toTick_taken hq htimer]
    omega

end Taken

/-- An event is taken. -/
theorem SubtaskInv.take (h : SubtaskInv subTimer n s) (hway : OnItsWay s)
    (hplace : s.place = .next) {ev : Event} {rest : List Event}
    (hq : s.stream.queue.readyEvents = ev :: rest)
    (hphase : s.stream.phase = .idle ∨ s.stream.phase = .checking) :
    Advances ws host (subtask subTimer) [subTimer.eventSourceInfo] (rank subTimer) s := by
  have hstep : SubtaskStep ws host subTimer s _ _ := h.dial.can_take hplace hq hphase
  have hdial := h.dial.step hstep
  obtain ⟨hfailed, hrank⟩ := h.take_rank hplace hq hphase (fun hown => (hdial.tells hown).2)
    (reacts h.dial hplace (takenOut s.stream rest) ev)
  exact ⟨_, _, hstep, ⟨hfailed, hway.2⟩, hrank⟩

/-- `epoll_wait` reports an error on the socket, or the timer. -/
theorem SubtaskInv.poll (h : SubtaskInv subTimer n s) (hway : OnItsWay s)
    (hplace : s.place = .next) (hphase : s.stream.phase = .polling) :
    Advances ws host (subtask subTimer) [subTimer.eventSourceInfo] (rank subTimer) s := by
  have hq : s.stream.queue.readyEvents = [] := by
    have hloop := h.dial.told.inv.loop
    rw [hphase] at hloop
    exact hloop
  have htoDo : toDo subTimer s.vars s.stream = toClose s.stream.sock.socket.connectionState +
      toTick subTimer s.vars s.stream.queue := by
    simp [toDo, hq, hphase, toPoll]
  cases halive : s.vars.streamAlive with
  | true =>
    have hopen := h.dial.isOpen hq (h.alive.mp halive) hway.2
    have hbreak : ∃ err kernel, SubtaskStep ws host subTimer s (.callback EPOLLERR)
        { s with stream := broken s.stream err kernel } := h.dial.can_break hplace hphase hopen
    obtain ⟨err, kernel, hstep⟩ := hbreak
    refine ⟨_, _, hstep, ⟨by simp [hplace], by simp [hopen]⟩, ?_⟩
    have htick : ∀ q, toTick subTimer s.vars q = 0 := toTick_alive halive
    rw [rank_stream hplace, rank_next hplace, htoDo]
    simp [toDo, broken, StreamState.goOn, htick, hq, toClose, hopen, toPoll]
  | false =>
    have hne : subTimer.eventSourceInfo ≠ s.stream.sock.eventSourceInfo := by
      have hothers := h.dial.others
      simp only [List.mem_singleton] at hothers
      exact Ne.symm hothers
    have hreport : Step ws s.stream .report
        { s.stream with
          queue := s.stream.queue.pushAll subTimer.eventSourceInfo [.timerEvent]
          phase := .checking } := .report hphase hne
    refine ⟨_, _, .report hplace hreport, ⟨by simp [hplace], hway.2⟩, ?_⟩
    have hbefore : toTick subTimer s.vars s.stream.queue = 12 := by
      simp [toTick, halive, Ticking, hq]
    have hafter : toTick subTimer s.vars
        (s.stream.queue.pushAll subTimer.eventSourceInfo [.timerEvent]) = 0 := by
      simp [toTick, Ticking, originatesFrom_eq, EventSource.getEventSourceInfo]
    rw [rank_stream hplace, rank_next hplace, htoDo, hbefore]
    simp only [toDo, hafter, toPoll, EventQueueImpl.pushAll_readyEvents, hq]
    simp
    omega

/-- `epoll_wait` is entered. -/
theorem OnItsWay.wait (hway : OnItsWay s) (hplace : s.place = .next)
    (hq : s.stream.queue.readyEvents = [])
    (hphase : s.stream.phase = .idle ∨ s.stream.phase = .checking) :
    Advances ws host (subtask subTimer) [subTimer.eventSourceInfo] (rank subTimer) s := by
  refine ⟨_, _, can_wait hplace hq hphase, ⟨by simp [hplace], hway.2⟩, ?_⟩
  have hpolling : toPoll .polling = 0 := rfl
  have hpos := toPoll_pos hphase
  rw [rank_stream hplace, rank_next hplace]
  simp only [toDo, hpolling]
  omega

/-- A call that leaves the socket open. -/
theorem SubtaskInv.answer_rank (h : SubtaskInv subTimer n s) (hnext : s.place ≠ .next)
    (hrank : rank subTimer s = 40 * s.vars.rest + toDo subTimer s.vars s.stream + 1)
    {vars : SubtaskVars} (halive : vars.streamAlive = s.vars.streamAlive)
    (hrest : vars.rest ≤ s.vars.rest) (k : Nat) :
    rank subTimer { s with stream := answered s.stream k, place := .next, vars } <
      rank subTimer s := by
  have hidle := h.dial.idle hnext
  have htick : toTick subTimer vars s.stream.queue = toTick subTimer s.vars s.stream.queue := by
    simp [toTick, halive]
  have hafter : toDo subTimer vars (answered s.stream k) = toDo subTimer s.vars s.stream := by
    simp [toDo, answered, StreamState.goOn, htick, hidle]
  rw [rank_next rfl, hrank]
  simp only [hafter]
  omega

/-- The calls. -/
theorem SubtaskInv.call (h : SubtaskInv subTimer n s) (hway : OnItsWay s)
    (hnext : s.place ≠ .next) (hended : s.place ≠ .ended) :
    Advances ws host (subtask subTimer) [subTimer.eventSourceInfo] (rank subTimer) s := by
  cases hplace : s.place with
  | next => exact absurd hplace hnext
  | ended => exact absurd hplace hended
  | failed => exact absurd hplace hway.1
  | reading nrBytes =>
    obtain ⟨result, k, hstep⟩ := can_read hplace
    refine ⟨_, _, hstep, ⟨by simp, by simpa using hway.2⟩, ?_⟩
    have hbefore : rank subTimer s = 40 * s.vars.rest + toDo subTimer s.vars s.stream + 1 := by
      simp [rank, hplace]
    cases result with
    | ok nrRead => exact h.answer_rank hnext hbefore rfl (Nat.le_refl _) k
    | error err => exact h.answer_rank hnext hbefore rfl (Nat.le_refl _) k
  | writing len =>
    obtain ⟨result, k, hstep⟩ := can_write hplace
    refine ⟨_, _, hstep, ⟨by simp, by simpa using hway.2⟩, ?_⟩
    have hbefore : rank subTimer s = 40 * s.vars.rest + toDo subTimer s.vars s.stream + 1 := by
      simp [rank, hplace]
    have hrest : ((subtask subTimer).afterWrite s.vars).rest ≤ s.vars.rest := by
      simp only [SubtaskVars.rest, subtask]
      omega
    have halive : ((subtask subTimer).afterWrite s.vars).streamAlive = s.vars.streamAlive := rfl
    exact h.answer_rank hnext hbefore halive hrest k
  | connecting =>
    obtain ⟨hdead, hmore⟩ := h.connecting hplace
    obtain ⟨stream, hstep, hstate, hidle, hnone, -, hlength⟩ := can_connect hplace (h.closed hdead)
    refine ⟨_, _, hstep, ⟨by simp, by simp [hnone]⟩, ?_⟩
    have hrest : ((subtask subTimer).afterConnect s.vars).rest + 1 = s.vars.rest := by
      simp [SubtaskVars.rest, subtask, hdead]
    have htick : ∀ q, toTick subTimer ((subtask subTimer).afterConnect s.vars) q = 0 :=
      toTick_alive rfl
    have hbefore : rank subTimer s =
        40 * s.vars.rest + 4 * s.stream.queue.readyEvents.length + 2 := by
      simp [rank, hplace]
    rw [rank_next rfl, hbefore]
    simp only [toDo, htick, hlength, hstate, hidle, toClose, toPoll]
    simp
    omega
  | leaving =>
    have hclosed := h.closed (h.leaving (.inl hplace)).1
    obtain ⟨stream, hstep, hby⟩ := h.dial.can_leave hplace hclosed
    exact ⟨_, _, hstep, ⟨by simp, by simpa [hby] using hway.2⟩, by simp [rank, hplace]⟩

theorem SubtaskInv.advances (h : SubtaskInv subTimer n s) (hway : OnItsWay s)
    (hended : s.place ≠ .ended) :
    Advances ws host (subtask subTimer) [subTimer.eventSourceInfo] (rank subTimer) s := by
  by_cases hplace : s.place = .next
  · cases hphase : s.stream.phase with
    | calling ptr => exact absurd hphase (h.dial.told.noCall ptr)
    | polling => exact h.poll hway hplace hphase
    | idle =>
      cases hq : s.stream.queue.readyEvents with
      | nil => exact hway.wait hplace hq (.inl hphase)
      | cons ev rest => exact h.take hway hplace hq (.inl hphase)
    | checking =>
      cases hq : s.stream.queue.readyEvents with
      | nil => exact hway.wait hplace hq (.inr hphase)
      | cons ev rest => exact h.take hway hplace hq (.inr hphase)
  · exact h.call hway hplace hended

/-! ## The result -/

/-- What `subtask` has done when it is at `s`, after a start with `n` for
`iterations`. -/
structure Behaves (ws : WordSize) (host : Endian) (subTimer : Timer) (n : Int)
    (s : Dialer SubtaskVars) : Prop where
  connects : s.connects ≤ n
  iterations : -1 ≤ s.vars.iterations
  leaves : s.place = .leaving ∨ s.place = .ended → s.vars.iterations ≤ 0
  waits : WaitsForTheEnd ws host (subtask subTimer) [subTimer.eventSourceInfo] s
  /-- not told of the end, it goes on to tick -/
  ticks : s.stream.closedBy = some .call → ∀ tr t, Run (SubtaskStep ws host subTimer) s tr t →
    t.vars.streamAlive = true

theorem SubtaskInv.behaves (h : SubtaskInv subTimer n s) : Behaves ws host subTimer n s := by
  have hcareful : Careful ws host (subtask subTimer) [subTimer.eventSourceInfo] _ :=
    subtask_careful n
  have hwaits := hcareful.waits (rank subTimer) (fun h hway hended => h.advances hway hended) h
  refine ⟨h.connects, h.least, fun hplace => (h.leaving hplace).2, hwaits, ?_⟩
  intro hcall tr t hrun
  obtain ⟨ht, -, -⟩ := hcareful.silent_run h hcall hrun
  exact ht.alive.mpr (hwaits.silent hcall tr t hrun).2.2

/-- **The sub-task**, in every run: it connects `n` times at most, one
connection after the other, and it can return as long as no `read` and no
`write` closes the socket. -/
theorem subtask_behaves {tr : List DialLabel} (hn : 1 ≤ n)
    (h₀ : SubtaskStarts ws host subTimer n s)
    (h : Run (SubtaskStep ws host subTimer) s tr t) : Behaves ws host subTimer n t :=
  SubtaskInv.behaves (h.invariant (subtask_start hn h₀) fun _ _ _ => SubtaskInv.step)

/-- The request meets a broken pipe: the first connection is the last. -/
theorem subtask_behaves_brokenPipe : ∃ (s t : Dialer SubtaskVars) (subTimer : Timer),
    SubtaskStarts .w64 .little subTimer 3 s ∧ Behaves .w64 .little subTimer 3 t ∧
      t.stream.closedBy = some .call ∧ t.connects = 1 := by
  let subTimer : Timer := ⟨7, 6, true, 3000, false, true, 9⟩
  let sock : TcpSocket := ⟨0, ⟨5, true, .connected⟩, 1, 0⟩
  let ev := Event.new .connectedEvent 1
  have hconnect : (TcpSocket.connect .little 0 1 ⟨.ipv4Addr 192 168 1 99, 80⟩ ⟨3, []⟩).Exec
      Kernel.allows none (.returned (.ok sock, ⟨3, [ev]⟩))
      (some ⟨5, 0x802, 0x2, some EPOLLIN⟩) :=
    ⟨(5 : Int), some ⟨5, 0x802, 0x802, none⟩, .inr ⟨by decide, 0x802, by decide, rfl⟩,
      (0 : Int), _, rfl, (0x802 : BitVec 32), _, ⟨rfl, by decide⟩, (0 : Int),
      some ⟨5, 0x802, 0x2, none⟩, ⟨rfl, rfl⟩, (0 : Int), _,
      .inr ⟨rfl, _, rfl, rfl, rfl, rfl⟩, rfl, rfl⟩
  let s : Dialer SubtaskVars :=
    { stream :=
        { sock, queue := ⟨3, [ev]⟩, phase := .idle, kernel := some ⟨5, 0x802, 0x2, some EPOLLIN⟩
          pushed := [.connectedEvent], closedBy := none }
      place := .next, vars := ⟨true, 3, []⟩, taken := [], connects := 1 }
  have hstarts : SubtaskStarts .w64 .little subTimer 3 s :=
    ⟨⟨.connect rfl hconnect, by decide, rfl, rfl, rfl⟩, rfl, rfl⟩
  let err : IoError := ⟨.brokenPipe, "broken pipe", some "Broken pipe"⟩
  have hfailed : sock.socket.ioFailed.Exec Kernel.allows (some ⟨5, 0x802, 0x2, some EPOLLIN⟩)
      (.returned (.error err, ⟨5, true, .closed⟩)) none :=
    ⟨EPIPE, _, rfl, (0 : Int), _, rfl, EPIPE, _, rfl, "Broken pipe", _, rfl, rfl, rfl⟩
  have hraw (len : Nat) (hlen : len ≠ 0) : (sock.socket.write .w64 len).Exec Kernel.allows
      (some ⟨5, 0x802, 0x2, some EPOLLIN⟩) (.returned (.error err, ⟨5, true, .closed⟩)) none := by
    unfold RawTcpSocket.write
    rw [if_neg (by decide), if_neg hlen]
    refine ⟨(-1 : Int), _, rfl, ?_⟩
    show Exec _ (if (-1 : Int) < 0 then sock.socket.ioFailed
      else return (.ok (WordSize.w64.asUint (-1)), sock.socket)) _ _ _
    rw [if_pos (by decide)]
    exact hfailed
  have hwrite : (sock.write .w64 request.utf8ByteSize ⟨3, []⟩).Exec Kernel.allows
      (some ⟨5, 0x802, 0x2, some EPOLLIN⟩)
      (.returned (.error err, ⟨0, ⟨5, true, .closed⟩, 1, 0⟩, ⟨3, []⟩)) none :=
    (exec_bind _ _ _ _ _).mpr ⟨_, none, hraw _ (by decide), rfl, rfl⟩
  have htake : SubtaskStep .w64 .little subTimer s (.loop (.returns (.ok ev))) _ :=
    .loop rfl (.loop (.ready rfl))
  have hrun : Run (SubtaskStep .w64 .little subTimer) s _ _ :=
    (Run.one htake).snoc (.write rfl hwrite)
  exact ⟨_, _, subTimer, hstarts, subtask_behaves (by decide) hstarts hrun, rfl, rfl⟩

end Revbio.Dial
