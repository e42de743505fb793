/-
Revbio.Channel.SyncBench — the two tasks of `syncchannelbench.rs`, each with
an event queue and a Receiver of its own.

The task of `bench_conditions_main` sends, waits for the answer in its event
queue, and does so until it has received `ITERATIONS` answers. The task it
spawns makes a Receiver of the other channel, and for each of its
`ITERATIONS` rounds takes an event, calls `recv` and answers. What a task
does to its own Receiver is `Client.next`, what it sends goes to the channel
of the other one.

All the messages are 0. `eventfd`, `epoll_ctl` and `write` succeed, and
`epoll_wait` does not fail.
-/
import Revbio.Channel.Client

namespace Revbio.Channel

/-- Where a task of the benchmark is. -/
inductive Place where
  /-- before it has a Receiver -/
  | starting
  /-- about to `send` -/
  | sending
  /-- in `next_event`, or about to call `recv` -/
  | looping
  | ended
  deriving DecidableEq, Repr

/-- What the benchmark is started with. -/
structure Bench where
  ws : WordSize
  /-- `ITERATIONS` -/
  iterations : Nat
  /-- the EventSourceInfo of `rx` -/
  rx : SourceId
  /-- the EventSourceInfo of `rselport` -/
  rselport : SourceId
  deriving DecidableEq, Repr

structure SyncBench where
  /-- the first task, with `rx`; its peer has `tx` -/
  main : Client Int
  mainPlace : Place
  nrReceived : Nat
  /-- the spawned task, with `rselport`; its peer has `rtx` -/
  sub : Client Int
  subPlace : Place
  /-- the rounds it has done -/
  rounds : Nat
  deriving DecidableEq, Repr

inductive BenchAct where
  | main
  | sub
  /-- `Receiver::from_blocking_receiver(rrx, &rev)` -/
  | attach (this : Ptr) (fd : Fd)
  /-- the spawned task is over, and `tx` goes with it -/
  | dropTx
  deriving DecidableEq, Repr

namespace SyncBench

/-- The first task has gone on to `c`: it counts the message it has
received, and sends again after an event of any other kind. -/
def mainGoesOn (b : Bench) (s : SyncBench) (c : Client Int) : SyncBench :=
  if s.main.phase = .answering then
    let nrReceived := s.nrReceived + 1
    { s with
      main := c
      nrReceived
      mainPlace := if nrReceived = b.iterations then .ended else .sending }
  else
    match c.phase with
    | .idle => { s with main := c, mainPlace := .sending }
    | .closed => { s with main := { c with phase := .idle }, mainPlace := .sending }
    | _ => { s with main := c }

/-- The spawned task has gone on to `c`: it calls `recv` after an event of
any kind, and answers after it. -/
def subGoesOn (s : SyncBench) (c : Client Int) : SyncBench :=
  if s.sub.phase = .answering then { s with sub := c, subPlace := .sending }
  else
    match c.phase with
    | .idle => { s with sub := { c with phase := .answering } }
    | .closed => { s with sub := { c with phase := .answering } }
    | _ => { s with sub := c }

/-- One step of a task; `none` where it blocks. -/
def step (b : Bench) (s : SyncBench) : BenchAct → Option SyncBench
  | .main =>
      match s.mainPlace with
      | .sending =>
          (Channel.step b.ws s.sub.channel (.trySend 0 0)).map fun r =>
            { s with sub := { s.sub with channel := r.2 }, mainPlace := .looping }
      | .looping => (s.main.next b.ws b.rx).map (s.mainGoesOn b)
      | _ => none
  | .sub =>
      match s.subPlace with
      | .sending =>
          (Channel.step b.ws s.main.channel (.trySend 0 0)).map fun r =>
            { s with
              main := { s.main with channel := r.2 }
              rounds := s.rounds + 1
              subPlace := if s.rounds + 1 = b.iterations then .ended else .looping }
      | .looping => (s.sub.next b.ws b.rselport).map s.subGoesOn
      | _ => none
  | .attach this fd =>
      match s.subPlace with
      | .starting =>
          (Channel.step b.ws s.sub.channel (.fromBlockingReceiver this b.rselport fd)).map
            fun r =>
              { s with
                sub := Client.start r.2
                subPlace := if b.iterations = 0 then .ended else .looping }
      | _ => none
  | .dropTx =>
      match s.subPlace with
      | .ended =>
          (Channel.step b.ws s.main.channel (.dropTransmitter 0)).map fun r =>
            { s with main := { s.main with channel := r.2 } }
      | _ => none

/-- Both channels are there, `rx` is attached, and the second task is about
to start. -/
def start (rx : ChannelState Int) (epfd : Fd) : SyncBench where
  main := Client.start rx
  mainPlace := .sending
  nrReceived := 0
  sub := Client.start (initial Int ⟨epfd, []⟩)
  subPlace := .starting
  rounds := 0

end SyncBench

def BenchStep (b : Bench) (s : SyncBench) (a : BenchAct) (t : SyncBench) : Prop :=
  s.step b a = some t

end Revbio.Channel
