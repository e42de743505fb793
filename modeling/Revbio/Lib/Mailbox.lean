/-
Revbio.Lib.Mailbox — a mailbox: any number of senders and one receiver, as
its users see it.

Items come out in the order they went in. A sender may bring in another
one, or go. The receiver closes the mailbox, which throws away what is in
it. `ended` is what a receiver is told that finds nothing and has nobody to
wait for.

`Op` are the operations with their results, `Step` says which results are
right; a history of a mailbox is a run of `Step`. Two facts about all
histories: `Run.in_order`, that nothing is lost, doubled or overtaken, and
`Run.after_ended`, that the end is the end.
-/
import Revbio.Lib.Transition

structure Mailbox (ι α : Type) where
  queue : List α
  senders : List ι
  isOpen : Bool
  deriving DecidableEq, Repr

namespace Mailbox

variable {ι α : Type}

/-- An open mailbox with one sender. -/
def new (i : ι) : Mailbox ι α := ⟨[], [i], true⟩

inductive Op (ι α : Type) where
  | send (i : ι) (a : α)
  /-- a send to a closed mailbox -/
  | refused (i : ι) (a : α)
  | join (i j : ι)
  | leave (i : ι)
  | receive (a : α)
  /-- nothing there for now -/
  | empty
  | ended
  | close
  deriving DecidableEq, Repr

inductive Step [DecidableEq ι] : Mailbox ι α → Op ι α → Mailbox ι α → Prop where
  | send {m : Mailbox ι α} {i : ι} {a : α} : i ∈ m.senders → m.isOpen = true →
      Step m (.send i a) { m with queue := m.queue ++ [a] }
  | refused {m : Mailbox ι α} {i : ι} {a : α} : i ∈ m.senders → m.isOpen = false →
      Step m (.refused i a) m
  | join {m : Mailbox ι α} {i j : ι} : i ∈ m.senders → j ∉ m.senders →
      Step m (.join i j) { m with senders := j :: m.senders }
  | leave {m : Mailbox ι α} {i : ι} : i ∈ m.senders →
      Step m (.leave i) { m with senders := m.senders.erase i }
  | receive {m : Mailbox ι α} {a : α} {rest : List α} : m.isOpen = true →
      m.queue = a :: rest → Step m (.receive a) { m with queue := rest }
  | empty {m : Mailbox ι α} : m.isOpen = true → m.queue = [] → m.senders ≠ [] →
      Step m .empty m
  | ended {m : Mailbox ι α} : m.isOpen = true → m.queue = [] → m.senders = [] →
      Step m .ended m
  | close {m : Mailbox ι α} : m.isOpen = true →
      Step m .close { m with queue := [], isOpen := false }

/-! ## Histories -/

/-- What has been sent, in order. -/
def sent (ops : List (Op ι α)) : List α :=
  ops.filterMap fun o => match o with
    | .send _ a => some a
    | _ => none

/-- What has been received, in order. -/
def received (ops : List (Op ι α)) : List α :=
  ops.filterMap fun o => match o with
    | .receive a => some a
    | _ => none

variable [DecidableEq ι]

/-- What has come out and what is in there make up what has been put in;
once the mailbox is closed the rest is missing, and is not received. -/
theorem Run.account {m : Mailbox ι α} {ops : List (Op ι α)} {i : ι}
    (h : Transition.Run Step (new i) ops m) :
    (m.isOpen = true → received ops ++ m.queue = sent ops) ∧
      (m.isOpen = false → received ops <+: sent ops) := by
  induction h with
  | nil => simp [new, received, sent]
  | snoc _ hs ih =>
    obtain ⟨hopen, hclosed⟩ := ih
    cases hs with
    | send _ ho =>
      simp only [ho, true_implies] at hopen
      simp [received, sent, ho] at hopen ⊢
      rw [← hopen, List.append_assoc]
    | receive ho hq =>
      simp only [ho, true_implies, hq] at hopen
      simp [received, sent, ho] at hopen ⊢
      exact hopen
    | close ho =>
      simp only [ho, true_implies] at hopen
      simp [received, sent] at hopen ⊢
      exact ⟨_, hopen⟩
    | _ => simpa [received, sent] using ⟨hopen, hclosed⟩

/-- **In order, once each**: what comes out is a beginning of what was put
in. -/
theorem Run.in_order {m : Mailbox ι α} {ops : List (Op ι α)} {i : ι}
    (h : Transition.Run Step (new i) ops m) : received ops <+: sent ops := by
  obtain ⟨hopen, hclosed⟩ := Run.account h
  cases ho : m.isOpen with
  | true => exact ⟨_, hopen ho⟩
  | false => exact hclosed ho

/-- **The end is the end**: a receiver that has been told so has had
everything that was ever sent, and there is nobody left to send more. -/
theorem Run.after_ended {m : Mailbox ι α} {ops : List (Op ι α)} {i : ι}
    (h : Transition.Run Step (new i) ops m) (he : .ended ∈ ops) :
    m.senders = [] ∧ m.queue = [] ∧ received ops = sent ops := by
  induction h with
  | nil => simp at he
  | @snoc ops m m' o hrun hs ih =>
    rcases List.mem_append.mp he with he | he
    · obtain ⟨hsenders, hqueue, hall⟩ := ih he
      cases hs with
      | send hi => simp [hsenders] at hi
      | join hi => simp [hsenders] at hi
      | receive _ hq => simp [hqueue] at hq
      | leave hi => simp [hsenders] at hi
      | refused hi => simp [hsenders] at hi
      | _ => simpa [received, sent, hsenders, hqueue] using hall
    · obtain rfl : Op.ended = o := by simpa using he
      cases hs with
      | ended ho hq hsenders =>
        refine ⟨hsenders, hq, ?_⟩
        have := (Run.account hrun).1 ho
        simpa [received, sent, hq] using this

/-- A closed mailbox stays closed, and takes nothing. -/
theorem Run.after_close {m : Mailbox ι α} {ops : List (Op ι α)} {i : ι}
    (h : Transition.Run Step (new i) ops m) (hc : .close ∈ ops) :
    m.isOpen = false ∧ m.queue = [] := by
  induction h with
  | nil => simp at hc
  | @snoc ops m m' o _ hs ih =>
    rcases List.mem_append.mp hc with hc | hc
    · obtain ⟨hclosed, hqueue⟩ := ih hc
      cases hs with
      | send _ ho => simp [hclosed] at ho
      | receive ho => simp [hclosed] at ho
      | close ho => simp [hclosed] at ho
      | _ => exact ⟨hclosed, hqueue⟩
    · obtain rfl : Op.close = o := by simpa using hc
      cases hs with
      | close => exact ⟨rfl, rfl⟩

end Mailbox
