import Mathlib
import SensorCore.Lib.Transition

/-!
Runs that have to end, by the potential method.

Every label has the work it does and the credit it brings. A machine has a potential
when a step never does more work than its credit and the drop of the potential pay for;
then so it is for a run (`Potential.run_le`). Runs of labels that do more work than they
bring credit are finite, and when one of them leads on wherever a goal is not reached,
the goal can be reached (`Potential.runs_to`).

`sum_map_set` is the change of a sum over a list of components when one of them moves.
-/

namespace SensorCore.Lib

universe u v

/-- One component moves. -/
theorem sum_map_set {α : Type u} (f : α → Nat) {xs : List α} {i : Nat} {a : α}
    (at_ : xs[i]? = some a) (b : α) :
    ((xs.set i b).map f).sum + f a = (xs.map f).sum + f b := by
  induction xs generalizing i with
  | nil => cases at_
  | cons x xs ih =>
      cases i with
      | zero =>
          obtain rfl : x = a := Option.some.inj at_
          simp only [List.set_cons_zero, List.map_cons, List.sum_cons]
          omega
      | succ i =>
          have rest := ih (i := i) at_
          simp only [List.set_cons_succ, List.map_cons, List.sum_cons]
          omega

namespace Machine

variable {σ : Type u} {ℓ : Type v} {M : Machine σ ℓ}

/-- Wherever `I` holds, the work of a step is paid for by its credit and by the drop of
the potential, and `I` goes on to hold. -/
structure Potential (M : Machine σ ℓ) (I : σ → Prop) (work credit : ℓ → Nat) (rank : σ → Nat) :
    Prop where
  kept : ∀ s t l, I s → M.step l s = some t → I t
  paid : ∀ s t l, I s → M.step l s = some t → work l + rank t ≤ credit l + rank s

section

variable {I : σ → Prop} {work credit : ℓ → Nat} {rank : σ → Nat}
  (p : M.Potential I work credit rank)

include p

/-- A run does no more work than its credit and the potential it starts with. -/
theorem Potential.run_le {run : List ℓ} {s t : σ} (inv : I s) (ran : M.exec run s = some t) :
    (run.map work).sum + rank t ≤ (run.map credit).sum + rank s := by
  induction run generalizing s with
  | nil =>
      cases ran
      exact Nat.le_refl _
  | cons l run ih =>
      simp only [exec_cons, Option.bind_eq_some_iff] at ran
      obtain ⟨mid, taken, rest⟩ := ran
      have first := p.paid s mid l inv taken
      have others := ih (p.kept s mid l inv taken) rest
      simp only [List.map_cons, List.sum_cons]
      omega

/-- When a step that does more work than it brings credit leads on wherever the goal is
not reached, some run of such steps gets there. -/
theorem Potential.runs_to {J goal : σ → Prop} (within : ∀ s, J s → I s)
    (moves : ∀ s, J s → ¬ goal s → ∃ l t, credit l < work l ∧ M.step l s = some t ∧ J t)
    {s : σ} (inv : J s) :
    ∃ run t, run.length ≤ rank s ∧ (∀ l ∈ run, credit l < work l) ∧ M.exec run s = some t ∧
      J t ∧ goal t := by
  induction left : rank s using Nat.strongRecOn generalizing s with
  | _ n ih =>
      by_cases there : goal s
      · exact ⟨[], s, Nat.zero_le _, by simp, rfl, inv, there⟩
      · obtain ⟨l, mid, pays, taken, kept⟩ := moves s inv there
        have lower : rank mid < n := by
          have paid := p.paid s mid l (within s inv) taken
          omega
        obtain ⟨run, t, short, own, ran, still, arrived⟩ := ih _ lower kept rfl
        refine ⟨l :: run, t, ?_, ?_, by simp [taken, ran], still, arrived⟩
        · simp only [List.length_cons]
          omega
        · intro l' mem
          rcases List.mem_cons.mp mem with rfl | rest
          · exact pays
          · exact own l' rest

end

end Machine

end SensorCore.Lib
