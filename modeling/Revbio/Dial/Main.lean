/-
Revbio.Dial.Main — `main` of `serverexample.rs`, in every run.

The task connects again when a connection it has read from is over, and
leaves its loop at the end of one it has not. So it makes one connection
more than it reads, at most (`main_behaves`). A `read` that closes the
socket leaves it in `next_event` for good, like the task of
`Revbio.Dial.Subtask`.
-/
import Revbio.Dial.SystemTheorems

namespace Revbio.Dial

open EventLoop Revbio.Stream Transition

variable {ws : WordSize} {host : Endian}

abbrev MainStep (ws : WordSize) (host : Endian) :
    Dialer MainVars → DialLabel → Dialer MainVars → Prop :=
  DialStep ws host main []

structure MainStarts (ws : WordSize) (host : Endian) (s : Dialer MainVars) : Prop where
  task : s.Starts ws host []
  receivedData : s.vars.receivedData = false

variable {s t : Dialer MainVars} {l : DialLabel}

/-! ## What an event does -/

/-- The task after the event `ev`. -/
inductive MainReaction (s : Dialer MainVars) (stream : StreamState) (ev : Event) :
    Dialer MainVars → Prop where
  | again : ev.originatesFrom s.stream.sock = true → Terminal ev.eventType →
      s.vars.receivedData = true →
      MainReaction s stream ev
        { s with stream, place := .connecting, taken := s.taken ++ [ev.eventType] }
  | done : ev.originatesFrom s.stream.sock = true → Terminal ev.eventType →
      s.vars.receivedData = false →
      MainReaction s stream ev
        { s with stream, place := .ended, taken := s.taken ++ [ev.eventType] }
  | data {nrBytes : Nat} : ev.originatesFrom s.stream.sock = true →
      ev.eventType = .dataAvailableEvent nrBytes →
      MainReaction s stream ev
        { s with stream, place := .reading nrBytes, taken := s.taken ++ [ev.eventType] }
  | ignored : ev.originatesFrom s.stream.sock = true → ¬ Terminal ev.eventType →
      ¬ IsData ev.eventType →
      MainReaction s stream ev { s with stream, taken := s.taken ++ [ev.eventType] }
  | others : ev.originatesFrom s.stream.sock = false → MainReaction s stream ev { s with stream }

theorem main_reacts (hplace : s.place = .next) (stream : StreamState) (ev : Event) :
    MainReaction s stream ev (s.after main stream (.returns (.ok ev))) := by
  cases hown : ev.originatesFrom s.stream.sock with
  | false =>
    have hafter : MainReaction s stream ev _ := .others hown
    simpa [Dialer.after, main, hown, hplace] using hafter
  | true =>
    have hignored : main.react s.stream.sock s.vars ev = (s.vars, .next) →
        ¬ Terminal ev.eventType → ¬ IsData ev.eventType →
        MainReaction s stream ev (s.after main stream (.returns (.ok ev))) := by
      intro hreact hterminal hdata
      have hafter : MainReaction s stream ev _ := .ignored hown hterminal hdata
      simpa [Dialer.after, hreact, hown, hplace] using hafter
    have hover : main.react s.stream.sock s.vars ev =
          (if s.vars.receivedData then (s.vars, .connecting) else (s.vars, .ended)) →
        Terminal ev.eventType →
        MainReaction s stream ev (s.after main stream (.returns (.ok ev))) := by
      intro hreact hterminal
      cases hdata : s.vars.receivedData with
      | true =>
        have hafter : MainReaction s stream ev _ := .again hown hterminal hdata
        simpa [Dialer.after, hreact, hown, hdata] using hafter
      | false =>
        have hafter : MainReaction s stream ev _ := .done hown hterminal hdata
        simpa [Dialer.after, hreact, hown, hdata] using hafter
    cases hk : ev.eventType with
    | ioErrorEvent err => exact hover (by simp [main, hown, hk]) (.inr ⟨err, hk⟩)
    | streamClosedEvent => exact hover (by simp [main, hown, hk]) (.inl hk)
    | dataAvailableEvent nrBytes =>
      have hafter : MainReaction s stream ev _ := .data hown hk
      simpa [Dialer.after, main, hown, hk] using hafter
    | connectedEvent =>
      exact hignored (by simp [main, hown, hk]) (by simp [hk, Terminal]) (by simp [hk, IsData])
    | timerEvent =>
      exact hignored (by simp [main, hown, hk]) (by simp [hk, Terminal]) (by simp [hk, IsData])
    | channelClosedEvent =>
      exact hignored (by simp [main, hown, hk]) (by simp [hk, Terminal]) (by simp [hk, IsData])
    | channelMessageEvent =>
      exact hignored (by simp [main, hown, hk]) (by simp [hk, Terminal]) (by simp [hk, IsData])
    | clientConnectedEvent =>
      exact hignored (by simp [main, hown, hk]) (by simp [hk, Terminal]) (by simp [hk, IsData])

/-! ## The invariant -/

/-- The reads that return something. -/
def okReads (tr : List DialLabel) : Nat :=
  tr.countP fun l => match l with
    | .read (.ok _) => true
    | _ => false

@[simp] theorem okReads_snoc (tr : List DialLabel) (l : DialLabel) :
    okReads (tr ++ [l]) = okReads tr + okReads [l] := by
  simp [okReads]

/-- The connection the task has read from. -/
def MainVars.owed (v : MainVars) : Nat := if v.receivedData then 1 else 0

structure MainInv (tr : List DialLabel) (s : Dialer MainVars) : Prop where
  dial : DialInv [] s
  alive : s.place = .next ∨ (∃ nrBytes, s.place = .reading nrBytes) →
    ∀ k ∈ s.taken, ¬ Terminal k
  done : s.place = .connecting ∨ s.place = .ended → ∃ k ∈ s.taken, Terminal k
  again : s.place = .connecting → s.vars.receivedData = true
  last : s.place = .ended → s.vars.receivedData = false
  heard : s.vars.receivedData = true ∨ (∃ nrBytes, s.place = .reading nrBytes) →
    ∃ k ∈ s.taken, IsData k
  never : s.place ≠ .leaving ∧ ∀ len, s.place ≠ .writing len
  account : s.connects + s.vars.owed ≤ 1 + okReads tr

theorem main_start (h : MainStarts ws host s) : MainInv [] s := by
  have hplace := h.task.place
  refine ⟨dial_start h.task, ?_, ?_, ?_, ?_, ?_, ?_, ?_⟩
  · simp [h.task.taken]
  · simp [hplace]
  · simp [hplace]
  · simp [hplace]
  · simp [hplace, h.receivedData]
  · simp [hplace]
  · simp [h.task.connects, MainVars.owed, h.receivedData]

variable {tr : List DialLabel}

/-- The task goes on in its loop, with nothing new about its connection. -/
theorem MainInv.stays (h : MainInv tr s) {stream : StreamState}
    (hdial : DialInv [] { s with stream }) : MainInv tr { s with stream } :=
  ⟨hdial, h.alive, h.done, h.again, h.last, h.heard, h.never, h.account⟩

/-- `unwrap` has failed. -/
theorem MainInv.fails (h : MainInv tr s) {stream : StreamState}
    (hdial : DialInv [] { s with stream, place := .failed })
    (hheard : s.vars.receivedData = true → ∃ k ∈ s.taken, IsData k) :
    MainInv tr { s with stream, place := .failed } :=
  ⟨hdial, by simp, by simp, by simp, by simp, by simpa using hheard, by simp, h.account⟩

/-- The event of the end. -/
theorem MainInv.ends (h : MainInv tr s) {k : EventKind} {stream : StreamState} {place : Place}
    (hk : Terminal k)
    (hplace : place = .connecting ∧ s.vars.receivedData = true ∨
      place = .ended ∧ s.vars.receivedData = false)
    (hdial : DialInv [] { s with stream, place, taken := s.taken ++ [k] }) :
    MainInv tr { s with stream, place, taken := s.taken ++ [k] } := by
  have hheard : s.vars.receivedData = true → ∃ j ∈ s.taken ++ [k], IsData j := by
    intro hdata
    obtain ⟨j, hj, hbytes⟩ := h.heard (.inl hdata)
    exact ⟨j, List.mem_append_left _ hj, hbytes⟩
  have hdone : ∃ j ∈ s.taken ++ [k], Terminal j := ⟨k, by simp, hk⟩
  rcases hplace with ⟨rfl, hdata⟩ | ⟨rfl, hdata⟩
  · exact ⟨hdial, by simp, fun _ => hdone, fun _ => hdata, by simp, by simpa using hheard,
      by simp, h.account⟩
  · exact ⟨hdial, by simp, fun _ => hdone, by simp, fun _ => hdata, by simpa using hheard,
      by simp, h.account⟩

/-- An event that does not end the connection. -/
theorem MainInv.goes_on (h : MainInv tr s) (hplace : s.place = .next) {k : EventKind}
    {stream : StreamState} {place : Place} (hk : ¬ Terminal k)
    (hto : place = .next ∨ ∃ nrBytes, place = .reading nrBytes ∧ IsData k)
    (hdial : DialInv [] { s with stream, place, taken := s.taken ++ [k] }) :
    MainInv tr { s with stream, place, taken := s.taken ++ [k] } := by
  have halive : ∀ j ∈ s.taken ++ [k], ¬ Terminal j := by
    rw [List.forall_mem_append]
    exact ⟨h.alive (.inl hplace), by simpa using hk⟩
  have hheard : s.vars.receivedData = true → ∃ j ∈ s.taken ++ [k], IsData j := by
    intro hdata
    obtain ⟨j, hj, hbytes⟩ := h.heard (.inl hdata)
    exact ⟨j, List.mem_append_left _ hj, hbytes⟩
  rcases hto with rfl | ⟨nrBytes, rfl, hbytes⟩
  · exact ⟨hdial, fun _ => halive, by simp, by simp, by simp, by simpa using hheard, by simp,
      h.account⟩
  · exact ⟨hdial, fun _ => halive, by simp, by simp, by simp, fun _ => ⟨k, by simp, hbytes⟩,
      by simp, h.account⟩

theorem MainInv.reaction (h : MainInv tr s) (hplace : s.place = .next) {stream : StreamState}
    {ev : Event} (hdial : DialInv [] t) (hreaction : MainReaction s stream ev t) :
    MainInv tr t := by
  cases hreaction with
  | again hown hterminal hdata => exact h.ends hterminal (.inl ⟨rfl, hdata⟩) hdial
  | done hown hterminal hdata => exact h.ends hterminal (.inr ⟨rfl, hdata⟩) hdial
  | @data nrBytes hown hk =>
    have hne : ¬ Terminal ev.eventType := by simp [hk, Terminal]
    exact h.goes_on hplace hne (.inr ⟨nrBytes, rfl, nrBytes, hk⟩) hdial
  | ignored hown hne hdata =>
    have hnext : s.place = .next ∨ ∃ nrBytes, s.place = .reading nrBytes ∧ IsData ev.eventType :=
      .inl hplace
    exact h.goes_on hplace hne hnext hdial
  | others => exact h.stays hdial

theorem MainInv.step (h : MainInv tr s) (hstep : MainStep ws host s l t) :
    MainInv (tr ++ [l]) t := by
  have hdial := h.dial.step hstep
  have haccount := h.account
  have hmore : ∀ {u : Dialer MainVars}, MainInv tr u → MainInv (tr ++ [l]) u := by
    intro u hu
    have hle := hu.account
    refine ⟨hu.dial, hu.alive, hu.done, hu.again, hu.last, hu.heard, hu.never, ?_⟩
    rw [okReads_snoc]
    omega
  cases hstep with
  | @loop ll stream hplace hloop =>
    cases ll with
    | goesOn => exact hmore (h.stays hdial)
    | returns result =>
      cases result with
      | error err => exact hmore (h.fails hdial fun hdata => h.heard (.inl hdata))
      | ok ev => exact hmore (h.reaction hplace hdial (main_reacts hplace stream ev))
  | report hplace => exact hmore (h.stays hdial)
  | callback hplace => exact hmore (h.stays hdial)
  | @read nrBytes result sock queue kernel hplace hx =>
    have halive := h.alive (.inr ⟨nrBytes, hplace⟩)
    have hheard := h.heard (.inr ⟨nrBytes, hplace⟩)
    refine ⟨hdial, fun _ => halive, by simp, by simp, by simp, fun _ => hheard, by simp, ?_⟩
    cases result with
    | ok nrRead =>
      have hone : okReads [DialLabel.read (.ok nrRead)] = 1 := rfl
      have howed : ((main.afterRead s.vars (.ok nrRead))).owed = 1 := rfl
      rw [okReads_snoc, hone]
      show s.connects + (main.afterRead s.vars (.ok nrRead)).owed ≤ _
      omega
    | error err =>
      rw [okReads_snoc]
      show s.connects + s.vars.owed ≤ _
      omega
  | write hplace => exact absurd hplace (h.never.2 _)
  | @connect this info sock queue queue' kernel kernel' hplace hown hne hother hx hdrop =>
    have howed : s.vars.owed = 1 := by simp [MainVars.owed, h.again hplace]
    refine ⟨hdial, by simp, by simp, by simp, by simp, by simp [main], by simp, ?_⟩
    rw [okReads_snoc]
    show s.connects + 1 + 0 ≤ _
    omega
  | connectFailed hplace =>
    exact hmore (h.fails hdial fun hdata => h.heard (.inl hdata))
  | leave hplace => exact absurd hplace h.never.1

theorem main_careful : Careful ws host main [] fun s => ∃ tr, MainInv tr s where
  dial := fun ⟨_, h⟩ => h.dial
  step := fun ⟨_, h⟩ hstep => ⟨_, h.step hstep⟩
  told := by
    rintro s ⟨tr, h⟩ (hplace | hplace | hplace)
    · exact h.done (.inl hplace)
    · exact absurd hplace h.never.1
    · exact h.done (.inr hplace)

/-! ## The way to the end -/

/-- The socket has pushed data: the task may connect once more. -/
def mayConnect (pushed : List EventKind) : Nat :=
  if pushed.any fun k => match k with
    | .dataAvailableEvent _ => true
    | _ => false
  then 1 else 0

theorem mayConnect_data {pushed : List EventKind} (h : ∃ k ∈ pushed, IsData k) :
    mayConnect pushed = 1 := by
  obtain ⟨k, hk, nrBytes, rfl⟩ := h
  exact if_pos (List.any_eq_true.mpr ⟨_, hk, rfl⟩)

theorem mayConnect_error (pushed : List EventKind) (err : IoError) :
    mayConnect (pushed ++ [.ioErrorEvent err]) = mayConnect pushed := by
  simp [mayConnect]

/-- What is left to be done with this connection. -/
def left (stream : StreamState) : Nat :=
  4 * stream.queue.readyEvents.length + toClose stream.sock.socket.connectionState +
    toPoll stream.phase

def mainRank (s : Dialer MainVars) : Nat :=
  match s.place with
  | .ended => 0
  | .failed => 0
  | .connecting => 4 * s.stream.queue.readyEvents.length + 40
  | .next => 40 * mayConnect s.stream.pushed + left s.stream
  | _ => 40 * mayConnect s.stream.pushed + left s.stream + 1

theorem mainRank_next (hplace : s.place = .next) :
    mainRank s = 40 * mayConnect s.stream.pushed + left s.stream := by
  simp [mainRank, hplace]

theorem mainRank_stays (hplace : s.place = .next) (stream : StreamState)
    (taken : List EventKind) :
    mainRank { s with stream, taken } = 40 * mayConnect stream.pushed + left stream :=
  mainRank_next hplace

/-- What the task has read the socket has pushed. -/
theorem MainInv.has_data (h : MainInv tr s) (hdata : s.vars.receivedData = true) :
    mayConnect s.stream.pushed = 1 := by
  obtain ⟨k, hk, hbytes⟩ := h.heard (.inl hdata)
  refine mayConnect_data ⟨k, ?_, hbytes⟩
  rw [← h.dial.told.told]
  exact List.mem_append_left _ hk

/-- An event is taken. -/
theorem MainInv.take (h : MainInv tr s) (hway : OnItsWay s) (hplace : s.place = .next)
    {ev : Event} {rest : List Event} (hq : s.stream.queue.readyEvents = ev :: rest)
    (hphase : s.stream.phase = .idle ∨ s.stream.phase = .checking) :
    Advances ws host main [] mainRank s := by
  have hstep : MainStep ws host s _ _ := h.dial.can_take hplace hq hphase
  have hrank := mainRank_next hplace
  have hleft : left (takenOut s.stream rest) + 4 ≤ left s.stream := by
    have hpos := toPoll_pos hphase
    have hidle : left (takenOut s.stream rest) =
        4 * rest.length + toClose s.stream.sock.socket.connectionState + 1 := rfl
    rw [hidle]
    simp only [left, hq, List.length_cons]
    omega
  have hlength : 4 * rest.length + 4 ≤ left s.stream := by
    simp only [left, hq, List.length_cons]
    omega
  refine ⟨_, _, hstep, ?_⟩
  have hreaction := main_reacts hplace (takenOut s.stream rest) ev
  generalize s.after main (takenOut s.stream rest) (.returns (.ok ev)) = t at hreaction
  cases hreaction with
  | again _ _ hdata =>
    refine ⟨⟨by simp, hway.2⟩, ?_⟩
    have hmay := h.has_data hdata
    show 4 * rest.length + 40 < mainRank s
    omega
  | done =>
    refine ⟨⟨by simp, hway.2⟩, ?_⟩
    show 0 < mainRank s
    omega
  | data =>
    refine ⟨⟨by simp, hway.2⟩, ?_⟩
    show 40 * mayConnect s.stream.pushed + left (takenOut s.stream rest) + 1 < mainRank s
    omega
  | ignored =>
    refine ⟨⟨by simp [hplace], hway.2⟩, ?_⟩
    have hpushed : (takenOut s.stream rest).pushed = s.stream.pushed := rfl
    rw [mainRank_stays hplace, hpushed]
    omega
  | others =>
    refine ⟨⟨by simp [hplace], hway.2⟩, ?_⟩
    have hpushed : (takenOut s.stream rest).pushed = s.stream.pushed := rfl
    rw [mainRank_stays hplace, hpushed]
    omega

/-- `epoll_wait` reports an error on the socket. -/
theorem MainInv.poll (h : MainInv tr s) (hway : OnItsWay s) (hplace : s.place = .next)
    (hphase : s.stream.phase = .polling) : Advances ws host main [] mainRank s := by
  have hq : s.stream.queue.readyEvents = [] := by
    have hloop := h.dial.told.inv.loop
    rw [hphase] at hloop
    exact hloop
  have hopen := h.dial.isOpen hq (h.alive (.inl hplace)) hway.2
  have hbreak : ∃ err kernel, MainStep ws host s (.callback EPOLLERR)
      { s with stream := broken s.stream err kernel } := h.dial.can_break hplace hphase hopen
  obtain ⟨err, kernel, hstep⟩ := hbreak
  refine ⟨_, _, hstep, ⟨by simp [hplace], by simp [hopen]⟩, ?_⟩
  have hpushed : (broken s.stream err kernel).pushed = s.stream.pushed ++ [.ioErrorEvent err] := by
    simp [broken, StreamState.goOn]
  have hbefore : left s.stream = 12 := by simp [left, hq, toClose, hopen, hphase, toPoll]
  have hafter : left (broken s.stream err kernel) = 6 := by
    simp [left, broken, StreamState.goOn, hq, toClose, toPoll]
  rw [mainRank_stays hplace, mainRank_next hplace, hpushed, mayConnect_error, hbefore, hafter]
  omega

/-- `epoll_wait` is entered. -/
theorem OnItsWay.polls (hway : OnItsWay s) (hplace : s.place = .next)
    (hq : s.stream.queue.readyEvents = [])
    (hphase : s.stream.phase = .idle ∨ s.stream.phase = .checking) :
    Advances ws host main [] mainRank s := by
  refine ⟨_, _, can_wait hplace hq hphase, ⟨by simp [hplace], hway.2⟩, ?_⟩
  have hpos := toPoll_pos hphase
  have hafter : left { s.stream with phase := .polling } =
      4 * s.stream.queue.readyEvents.length +
        toClose s.stream.sock.socket.connectionState := rfl
  rw [mainRank_stays hplace, mainRank_next hplace, hafter]
  simp only [left]
  omega

theorem MainInv.advances (h : MainInv tr s) (hway : OnItsWay s) (hended : s.place ≠ .ended) :
    Advances ws host main [] mainRank s := by
  cases hplace : s.place with
  | ended => exact absurd hplace hended
  | failed => exact absurd hplace hway.1
  | leaving => exact absurd hplace h.never.1
  | writing len => exact absurd hplace (h.never.2 len)
  | next =>
    cases hphase : s.stream.phase with
    | calling ptr => exact absurd hphase (h.dial.told.noCall ptr)
    | polling => exact h.poll hway hplace hphase
    | idle =>
      cases hq : s.stream.queue.readyEvents with
      | nil => exact hway.polls hplace hq (.inl hphase)
      | cons ev rest => exact h.take hway hplace hq (.inl hphase)
    | checking =>
      cases hq : s.stream.queue.readyEvents with
      | nil => exact hway.polls hplace hq (.inr hphase)
      | cons ev rest => exact h.take hway hplace hq (.inr hphase)
  | reading nrBytes =>
    obtain ⟨result, k, hstep⟩ := can_read hplace
    refine ⟨_, _, hstep, ⟨by simp, by simpa using hway.2⟩, ?_⟩
    have hidle := h.dial.idle (by simp [hplace])
    have hbefore : mainRank s = 40 * mayConnect s.stream.pushed + left s.stream + 1 := by
      simp [mainRank, hplace]
    have hpushed : (answered s.stream k).pushed = s.stream.pushed := by
      simp [answered, StreamState.goOn]
    have hafter : left (answered s.stream k) = left s.stream := by
      simp [left, answered, StreamState.goOn, hidle]
    rw [mainRank_next rfl, hbefore, hpushed, hafter]
    omega
  | connecting =>
    have hclosed : s.stream.sock.socket.connectionState = .closed := by
      obtain ⟨k, hk, hterminal⟩ := h.done (.inl hplace)
      exact h.dial.closed hk hterminal
    obtain ⟨stream, hstep, hstate, hidle, hnone, hpushed, hlength⟩ := can_connect hplace hclosed
    refine ⟨_, _, hstep, ⟨by simp, by simp [hnone]⟩, ?_⟩
    have hbefore : mainRank s = 4 * s.stream.queue.readyEvents.length + 40 := by
      simp [mainRank, hplace]
    have hafter : left stream = 4 * s.stream.queue.readyEvents.length + 13 := by
      simp [left, hlength, hstate, toClose, hidle, toPoll]
    have hnew : mayConnect stream.pushed = 0 := by simp [hpushed, mayConnect]
    rw [mainRank_next rfl, hbefore, hafter, hnew]
    omega

/-! ## The result -/

/-- What `main` has done when it is at `s`, after the run `tr`. -/
structure MainBehaves (ws : WordSize) (host : Endian) (tr : List DialLabel)
    (s : Dialer MainVars) : Prop where
  connects : s.connects ≤ 1 + okReads tr
  /-- it connects again after a connection that has sent something -/
  again : s.place = .connecting → ∃ k ∈ s.taken, IsData k
  /-- it ends at one it has read nothing from -/
  last : s.place = .ended → s.vars.receivedData = false
  waits : WaitsForTheEnd ws host main [] s

theorem MainInv.behaves (h : MainInv tr s) : MainBehaves ws host tr s := by
  have haccount := h.account
  refine ⟨by omega, fun hplace => h.heard (.inl (h.again hplace)), h.last, ?_⟩
  refine main_careful.waits mainRank ?_ ⟨tr, h⟩
  rintro s ⟨tr, hs⟩ hway hended
  exact hs.advances hway hended

/-- **`main` of the server example**, in every run: it makes one connection
more than it reads, one after the other, and it can end as long as no `read`
closes the socket. -/
theorem main_behaves (h₀ : MainStarts ws host s) (h : Run (MainStep ws host) s tr t) :
    MainBehaves ws host tr t :=
  MainInv.behaves (h.traceInvariant (main_start h₀) fun _ _ _ _ => MainInv.step)

/-- The first connection is refused. -/
theorem main_behaves_refused : ∃ (s t : Dialer MainVars) (tr : List DialLabel),
    MainStarts .w64 .little s ∧ MainBehaves .w64 .little tr t ∧ t.place = .ended ∧
      t.connects = 1 := by
  obtain ⟨sock, kernel, hconnect, hstate⟩ := exists_connect .little 0 1 main.socketaddr ⟨3, []⟩
  let s : Dialer MainVars :=
    { stream :=
        { sock, queue := ⟨3, []⟩, phase := .idle, kernel, pushed := [], closedBy := none }
      place := .next, vars := ⟨false⟩, taken := [], connects := 1 }
  have hstarts : MainStarts .w64 .little s :=
    ⟨⟨.connect rfl hconnect, by simp, rfl, rfl, rfl⟩, rfl⟩
  let polling : Dialer MainVars := { s with stream := { s.stream with phase := .polling } }
  have hwait : MainStep .w64 .little s (.loop .goesOn) polling := can_wait rfl rfl (.inl rfl)
  have hdial : DialInv [] polling := (dial_start hstarts.task).step hwait
  have hopen : sock.socket.connectionState ≠ .closed := by simp [hstate]
  have hbreak : ∃ err kernel, MainStep .w64 .little polling (.callback EPOLLERR)
      { polling with stream := broken polling.stream err kernel } := hdial.can_break rfl rfl hopen
  obtain ⟨err, kernel', hbreak⟩ := hbreak
  let refused : Dialer MainVars := { polling with stream := broken polling.stream err kernel' }
  let ev := Event.new (.ioErrorEvent err) sock.eventSourceInfo
  have htake : MainStep .w64 .little refused (.loop (.returns (.ok ev)))
      (refused.after main (takenOut refused.stream []) (.returns (.ok ev))) :=
    (hdial.step hbreak).can_take rfl rfl (.inr rfl)
  have hrun : Run (MainStep .w64 .little) s _ _ := ((Run.one hwait).snoc hbreak).snoc htake
  have hown : ev.originatesFrom refused.stream.sock = true := by
    rw [originatesFrom_eq]
    exact decide_eq_true rfl
  refine ⟨s, _, _, hstarts, main_behaves hstarts hrun, ?_, rfl⟩
  simp only [Dialer.after, main, hown, if_true]
  rfl

end Revbio.Dial
