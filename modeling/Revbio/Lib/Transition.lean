/-
Revbio.Lib.Transition — runs of a labelled transition system, and the
induction rules every safety argument over such runs uses.

A system is a relation `step : σ → ι → σ → Prop`. `Run step s tr t` says
that the labels `tr`, in order, lead from `s` to `t`. Labels carry
whatever a step shows to the outside, so a history is a function of the
label list and needs no ghost field in the state.

Two refinements of `Run` put a condition on every point of the run:

* `SafeRun step P s tr t` — every state of the run satisfies `P`;
* `GuardedRun step G s tr t` — every step of the run is taken in a state
  and with a label that satisfy `G`.

`safe_iff_guarded` is the rule for an exact condition: when `G` is what a
step needs to keep `P` and a step outside `G` breaks `P`, the two kinds
of run coincide.
-/
import Mathlib.Data.List.Basic

namespace Transition

universe u v

variable {σ : Type u} {ι : Type v} {step : σ → ι → σ → Prop}

/-- The labels of `tr` lead from `s` to the last argument. -/
inductive Run (step : σ → ι → σ → Prop) (s : σ) : List ι → σ → Prop where
  | nil : Run step s [] s
  | snoc {tr : List ι} {t u : σ} {l : ι} :
      Run step s tr t → step t l u → Run step s (tr ++ [l]) u

/-- A run all of whose states satisfy `P`. -/
inductive SafeRun (step : σ → ι → σ → Prop) (P : σ → Prop) (s : σ) :
    List ι → σ → Prop where
  | nil : P s → SafeRun step P s [] s
  | snoc {tr : List ι} {t u : σ} {l : ι} :
      SafeRun step P s tr t → step t l u → P u → SafeRun step P s (tr ++ [l]) u

/-- A run all of whose steps are taken under the guard `G`. -/
inductive GuardedRun (step : σ → ι → σ → Prop) (G : σ → ι → Prop) (s : σ) :
    List ι → σ → Prop where
  | nil : GuardedRun step G s [] s
  | snoc {tr : List ι} {t u : σ} {l : ι} :
      GuardedRun step G s tr t → G t l → step t l u →
      GuardedRun step G s (tr ++ [l]) u

/-! ## Runs -/

theorem Run.append {s t u : σ} {tr tr' : List ι}
    (h : Run step s tr t) (h' : Run step t tr' u) : Run step s (tr ++ tr') u := by
  induction h' with
  | nil => simpa using h
  | snoc _ hstep ih =>
    rw [← List.append_assoc]
    exact ih.snoc hstep

theorem Run.one {s t : σ} {l : ι} (h : step s l t) : Run step s [l] t :=
  show Run step s ([] ++ [l]) t from .snoc .nil h

theorem Run.cons {s t u : σ} {l : ι} {tr : List ι} (h : step s l t)
    (h' : Run step t tr u) : Run step s (l :: tr) u :=
  (Run.one h).append h'

/-- The run of a step function. -/
theorem Run.of_foldlM {f : σ → ι → Option σ} {s t : σ} {tr : List ι}
    (h : tr.foldlM f s = some t) : Run (fun s l t => f s l = some t) s tr t := by
  induction tr generalizing s with
  | nil =>
    cases h
    exact .nil
  | cons l tr ih =>
    rw [List.foldlM_cons] at h
    obtain ⟨u, hstep, hrest⟩ := Option.bind_eq_some_iff.mp h
    exact .cons hstep (ih hrest)

/-- **Invariant rule**: what holds initially and is kept by every step
holds at the end of every run. -/
theorem Run.invariant {I : σ → Prop} {s t : σ} {tr : List ι}
    (h : Run step s tr t) (h0 : I s)
    (hstep : ∀ ⦃s l t⦄, I s → step s l t → I t) : I t := by
  induction h with
  | nil => exact h0
  | snoc _ hs ih => exact hstep ih hs

/-- **Invariant rule with history**: the invariant also sees the labels
of the run so far. -/
theorem Run.traceInvariant {I : List ι → σ → Prop} {s t : σ} {tr : List ι}
    (h : Run step s tr t) (h0 : I [] s)
    (hstep : ∀ ⦃tr s l t⦄, I tr s → step s l t → I (tr ++ [l]) t) : I tr t := by
  induction h with
  | nil => exact h0
  | snoc _ hs ih => exact hstep ih hs

/-- **Forward simulation**: steps of the one system are steps of the other,
or do not show there (`obs` says which, and as what). -/
theorem Run.simulate {σ' : Type*} {ι' : Type*} {step' : σ' → ι' → σ' → Prop}
    {R : σ → σ' → Prop} {obs : ι → Option ι'}
    (hstep : ∀ ⦃s l t s'⦄, R s s' → step s l t →
      ∃ t', R t t' ∧ match obs l with
        | some l' => step' s' l' t'
        | none => t' = s')
    {s t : σ} {s' : σ'} {tr : List ι} (h : Run step s tr t) (h0 : R s s') :
    ∃ t', R t t' ∧ Run step' s' (tr.filterMap obs) t' := by
  induction h with
  | nil => exact ⟨s', h0, .nil⟩
  | @snoc tr t u l _ hs ih =>
    obtain ⟨t', ht, hrun⟩ := ih
    obtain ⟨u', hu, hs'⟩ := hstep ht hs
    refine ⟨u', hu, ?_⟩
    rw [List.filterMap_append]
    cases hobs : obs l with
    | none =>
      rw [hobs] at hs'
      subst hs'
      simpa [hobs] using hrun
    | some l' =>
      rw [hobs] at hs'
      simpa [hobs] using hrun.snoc hs'

/-- **Progress rule**: where every state short of `End` has a step, with a
label in `L`, that keeps `I` and lowers `rank`, a run of such steps leads to
`End`. -/
theorem exists_run_to {I End : σ → Prop} {L : ι → Prop} (rank : σ → Nat)
    (hstep : ∀ s, I s → ¬ End s → ∃ l t, L l ∧ step s l t ∧ I t ∧ rank t < rank s)
    (s : σ) (hs : I s) :
    ∃ tr t, Run step s tr t ∧ (∀ l ∈ tr, L l) ∧ I t ∧ End t := by
  induction hn : rank s using Nat.strongRecOn generalizing s with
  | _ n ih =>
    by_cases he : End s
    · exact ⟨[], s, .nil, by simp, hs, he⟩
    · obtain ⟨l, t, hl, hst, ht, hlt⟩ := hstep s hs he
      obtain ⟨tr, u, hrun, htr, hu, hend⟩ := ih (rank t) (hn ▸ hlt) t ht rfl
      exact ⟨l :: tr, u, .cons hst hrun, List.forall_mem_cons.mpr ⟨hl, htr⟩, hu, hend⟩

/-- **Termination rule**: where every step keeps `I` and lowers `cost`, a
run is no longer than what it starts with allows. -/
theorem Run.length_le {I : σ → Prop} (cost : σ → Nat) {s t : σ} {tr : List ι}
    (h : Run step s tr t) (h0 : I s)
    (hstep : ∀ ⦃s l t⦄, I s → step s l t → I t ∧ cost t < cost s) :
    I t ∧ tr.length + cost t ≤ cost s := by
  induction h with
  | nil => exact ⟨h0, by simp⟩
  | snoc _ hs ih =>
    obtain ⟨hI, hle⟩ := ih
    obtain ⟨hI', hlt⟩ := hstep hI hs
    refine ⟨hI', ?_⟩
    rw [List.length_append, List.length_singleton]
    omega

/-! ## Runs under a condition -/

theorem SafeRun.run {P : σ → Prop} {s t : σ} {tr : List ι}
    (h : SafeRun step P s tr t) : Run step s tr t := by
  induction h with
  | nil _ => exact .nil
  | snoc _ hs _ ih => exact ih.snoc hs

theorem SafeRun.last {P : σ → Prop} {s t : σ} {tr : List ι}
    (h : SafeRun step P s tr t) : P t := by
  cases h with
  | nil hP => exact hP
  | snoc _ _ hP => exact hP

theorem GuardedRun.run {G : σ → ι → Prop} {s t : σ} {tr : List ι}
    (h : GuardedRun step G s tr t) : Run step s tr t := by
  induction h with
  | nil => exact .nil
  | snoc _ _ hs ih => exact ih.snoc hs

theorem GuardedRun.append {G : σ → ι → Prop} {s t u : σ} {tr tr' : List ι}
    (h : GuardedRun step G s tr t) (h' : GuardedRun step G t tr' u) :
    GuardedRun step G s (tr ++ tr') u := by
  induction h' with
  | nil => simpa using h
  | snoc _ hG hstep ih =>
    rw [← List.append_assoc]
    exact ih.snoc hG hstep

/-- **Guarded invariant rule**: what the steps inside `G` keep. -/
theorem GuardedRun.invariant {G : σ → ι → Prop} {I : σ → Prop} {s t : σ} {tr : List ι}
    (h : GuardedRun step G s tr t) (h0 : I s)
    (hstep : ∀ ⦃s l t⦄, I s → G s l → step s l t → I t) : I t := by
  induction h with
  | nil => exact h0
  | snoc _ hG hs ih => exact hstep ih hG hs

/-- The same with history. -/
theorem GuardedRun.traceInvariant {G : σ → ι → Prop} {I : List ι → σ → Prop} {s t : σ}
    {tr : List ι} (h : GuardedRun step G s tr t) (h0 : I [] s)
    (hstep : ∀ ⦃tr s l t⦄, I tr s → G s l → step s l t → I (tr ++ [l]) t) : I tr t := by
  induction h with
  | nil => exact h0
  | snoc _ hG hs ih => exact hstep ih hG hs

/-- **Exact condition rule.** The steps inside `G` keep `I`, which implies
`P`; from `I`, a step outside `G` breaks `P`. Then a run keeps `P` in all
its states exactly when all its steps are inside `G`. -/
theorem safe_iff_guarded_of_invariant {I P : σ → Prop} {G : σ → ι → Prop} {s t : σ}
    {tr : List ι} (h0 : I s) (hsafe : ∀ ⦃s⦄, I s → P s)
    (hkeep : ∀ ⦃s l t⦄, I s → G s l → step s l t → I t)
    (hbad : ∀ ⦃s l t⦄, I s → ¬ G s l → step s l t → ¬ P t) :
    SafeRun step P s tr t ↔ GuardedRun step G s tr t := by
  constructor
  · intro h
    induction h with
    | nil _ => exact .nil
    | snoc _ hs hPu ih =>
      have hI := ih.invariant h0 hkeep
      exact ih.snoc (Classical.byContradiction fun hG => hbad hI hG hs hPu) hs
  · intro h
    induction h with
    | nil => exact .nil (hsafe h0)
    | snoc hrun hG hs ih =>
      exact ih.snoc hs (hsafe (hkeep (hrun.invariant h0 hkeep) hG hs))

/-- The same with an invariant `Inv` of all steps beside `P`. -/
theorem safe_iff_guarded {Inv P : σ → Prop} {G : σ → ι → Prop} {s t : σ}
    {tr : List ι} (hInv : Inv s) (hP : P s)
    (hkeep : ∀ ⦃s l t⦄, Inv s → step s l t → Inv t)
    (hgood : ∀ ⦃s l t⦄, Inv s → P s → G s l → step s l t → P t)
    (hbad : ∀ ⦃s l t⦄, Inv s → P s → ¬ G s l → step s l t → ¬ P t) :
    SafeRun step P s tr t ↔ GuardedRun step G s tr t :=
  safe_iff_guarded_of_invariant (I := fun s => Inv s ∧ P s) ⟨hInv, hP⟩ (fun _ h => h.2)
    (fun _ _ _ h hG hs => ⟨hkeep h.1 hs, hgood h.1 h.2 hG hs⟩)
    (fun _ _ _ h hG hs => hbad h.1 h.2 hG hs)

/-- **Exact condition rule for steps.** Where `G` is exactly what a step
needs to be as `J` wants it, the runs of such steps are the guarded runs. -/
theorem judged_iff_guarded {Inv : σ → Prop} {J : σ → ι → σ → Prop} {G : σ → ι → Prop}
    {s t : σ} {tr : List ι} (hInv : Inv s)
    (hkeep : ∀ ⦃s l t⦄, Inv s → step s l t → Inv t)
    (hiff : ∀ ⦃s l t⦄, Inv s → step s l t → (J s l t ↔ G s l)) :
    Run (fun s l t => step s l t ∧ J s l t) s tr t ↔ GuardedRun step G s tr t := by
  constructor
  · intro h
    induction h with
    | nil => exact .nil
    | snoc _ hs ih => exact ih.snoc ((hiff (ih.run.invariant hInv hkeep) hs.1).mp hs.2) hs.1
  · intro h
    induction h with
    | nil => exact .nil
    | snoc hrun hG hs ih =>
      exact ih.snoc ⟨hs, (hiff (hrun.run.invariant hInv hkeep) hs).mpr hG⟩

end Transition
