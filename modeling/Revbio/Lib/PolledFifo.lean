/-
Revbio.Lib.PolledFifo — a FIFO queue with deletion, in front of a source
that is polled when the queue has run dry.

The queue is a list of items. Deletion takes out all items that satisfy a
condition. `next` returns and removes the head; on an empty queue it polls
the source until an answer brings items or an error. Answers come from
outside, so they are a list that is consumed; when it is used up inside a
`next`, that call has not returned.

Items are of any type, and nothing here says how a queue is represented.
-/
import Mathlib.Data.List.Basic

namespace PolledFifo

variable {α ε : Type}

/-- What one poll of the source brings. -/
inductive Answer (α ε : Type) where
  | failed (err : ε)
  | ready (items : List α)
  | idle

inductive Op (α : Type) where
  | pushBack (a : α)
  | pushFront (a : α)
  | delete (condition : α → Bool)
  | next

/-- The result of a `next`, the queue after it and the answers not used. -/
def next : List α → List (Answer α ε) → Option (Except ε α × List α × List (Answer α ε))
  | a :: rest, answers => some (.ok a, rest, answers)
  | [], [] => none
  | [], .failed err :: answers => some (.error err, [], answers)
  | [], .ready items :: answers => next items answers
  | [], .idle :: answers => next [] answers

/-- The results of the calls of `next` in a sequence of operations. -/
def run : List α → List (Op α) → List (Answer α ε) → List (Except ε α)
  | _, [], _ => []
  | q, .pushBack a :: ops, answers => run (q ++ [a]) ops answers
  | q, .pushFront a :: ops, answers => run (a :: q) ops answers
  | q, .delete c :: ops, answers => run (q.filter fun a => !c a) ops answers
  | q, .next :: ops, answers =>
      match next q answers with
      | some (result, q, answers) => result :: run q ops answers
      | none => []

/-! ## What comes out went in -/

/-- Every item of the answers satisfies `P`. -/
def Answers (P : α → Prop) (answers : List (Answer α ε)) : Prop :=
  ∀ answer ∈ answers, ∀ items, answer = .ready items → ∀ a ∈ items, P a

/-- Every item the operations push satisfies `P`. -/
def Pushes (P : α → Prop) (ops : List (Op α)) : Prop :=
  ∀ op ∈ ops, ∀ a, op = .pushBack a ∨ op = .pushFront a → P a

theorem Answers.tail {P : α → Prop} {answer : Answer α ε} {answers : List (Answer α ε)}
    (h : Answers P (answer :: answers)) : Answers P answers :=
  fun x hx => h x (List.mem_cons_of_mem _ hx)

theorem next_all {P : α → Prop} {q q' : List α} {answers answers' : List (Answer α ε)}
    {result : Except ε α} (hq : ∀ a ∈ q, P a) (hans : Answers P answers)
    (h : next q answers = some (result, q', answers')) :
    (∀ a, result = .ok a → P a) ∧ (∀ a ∈ q', P a) ∧ Answers P answers' := by
  induction q, answers using next.induct with
  | case1 a rest answers =>
    simp only [next, Option.some.injEq, Prod.mk.injEq] at h
    obtain ⟨rfl, rfl, rfl⟩ := h
    refine ⟨?_, fun b hb => hq b (List.mem_cons_of_mem _ hb), hans⟩
    intro b hb
    cases hb
    exact hq a (List.mem_cons_self ..)
  | case2 => simp [next] at h
  | case3 err answers =>
    simp only [next, Option.some.injEq, Prod.mk.injEq] at h
    obtain ⟨rfl, rfl, rfl⟩ := h
    exact ⟨by simp, by simp, hans.tail⟩
  | case4 items answers ih =>
    rw [next] at h
    exact ih (hans _ (List.mem_cons_self ..) items rfl) hans.tail h
  | case5 answers ih =>
    rw [next] at h
    exact ih (by simp) hans.tail h

/-- Whatever holds of everything that goes in holds of everything that
comes out. -/
theorem run_all {P : α → Prop} {q : List α} {ops : List (Op α)}
    {answers : List (Answer α ε)} (hq : ∀ a ∈ q, P a) (hops : Pushes P ops)
    (hans : Answers P answers) : ∀ a, .ok a ∈ run q ops answers → P a := by
  induction ops generalizing q answers with
  | nil => simp [run]
  | cons op ops ih =>
    have htail : Pushes P ops := fun x hx => hops x (List.mem_cons_of_mem _ hx)
    have hhead := hops op (List.mem_cons_self ..)
    cases op with
    | pushBack b =>
      refine ih (fun a ha => ?_) htail hans
      rcases List.mem_append.mp ha with ha | ha
      · exact hq a ha
      · exact List.mem_singleton.mp ha ▸ hhead b (.inl rfl)
    | pushFront b =>
      refine ih (fun a ha => ?_) htail hans
      rcases List.mem_cons.mp ha with rfl | ha
      · exact hhead a (.inr rfl)
      · exact hq a ha
    | delete c => exact ih (fun a ha => hq a (List.mem_of_mem_filter ha)) htail hans
    | next =>
      intro a ha
      simp only [run] at ha
      split at ha
      · rename_i result q' answers' hnext
        obtain ⟨hres, hq', hans'⟩ := next_all hq hans hnext
        rcases List.mem_cons.mp ha with hok | ha
        · exact hres a hok.symm
        · exact ih hq' htail hans' a ha
      · cases ha

end PolledFifo
