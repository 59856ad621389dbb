/-!
Labelled machines and what holds along their runs.

A machine is given by its initial state and a partial step function: a label
names one step, and a label that is not enabled has no successor. Choices of the
environment are part of the label, so a run is a list of labels.

`ReachVia ok` restricts the steps by a condition `ok` on the state before the
step and its label; `Reach` is the unrestricted case. `ReachVia.invariant` is the
induction rule: an invariant holds initially, one step preserves it, hence it
holds in every state reached. `ReachVia.invariant_under` proves an invariant on
top of one that is already known. `Along` states a condition about every step of
a given run.
-/

namespace SensorCore.Lib

universe u v

/-- An initial state and a partial step function. -/
structure Machine (σ : Type u) (ℓ : Type v) where
  init : σ
  step : ℓ → σ → Option σ

namespace Machine

variable {σ : Type u} {ℓ : Type v} (M : Machine σ ℓ)

/-- Take the labels one after the other, as long as they are enabled. -/
def exec : List ℓ → σ → Option σ
  | [], s => some s
  | l :: run, s => (M.step l s).bind (exec run)

@[simp] theorem exec_nil (s : σ) : M.exec [] s = some s := rfl

@[simp] theorem exec_cons (l : ℓ) (run : List ℓ) (s : σ) :
    M.exec (l :: run) s = (M.step l s).bind (M.exec run) := rfl

theorem exec_append (run run' : List ℓ) (s : σ) :
    M.exec (run ++ run') s = (M.exec run s).bind (M.exec run') := by
  induction run generalizing s with
  | nil => rfl
  | cons l run ih =>
      cases h : M.step l s with
      | none => simp [h]
      | some t => simp [h, ih]

/-- The states reached by steps that meet `ok`. -/
inductive ReachVia (ok : σ → ℓ → Prop) : σ → Prop where
  | init : ReachVia ok M.init
  | step {s t : σ} {l : ℓ} : ReachVia ok s → ok s l → M.step l s = some t → ReachVia ok t

/-- The states reached by any steps. -/
abbrev Reach : σ → Prop := M.ReachVia fun _ _ => True

variable {M}

/-- Fewer conditions on the steps reach more states. -/
theorem ReachVia.mono {ok ok' : σ → ℓ → Prop} (weaker : ∀ s l, ok s l → ok' s l) {s : σ}
    (reach : M.ReachVia ok s) : M.ReachVia ok' s := by
  induction reach with
  | init => exact .init
  | step _ guard taken ih => exact .step ih (weaker _ _ guard) taken

/-- The invariant rule. -/
theorem ReachVia.invariant {ok : σ → ℓ → Prop} {I : σ → Prop} (start : I M.init)
    (preserved : ∀ s t l, I s → ok s l → M.step l s = some t → I t) {s : σ}
    (reach : M.ReachVia ok s) : I s := by
  induction reach with
  | init => exact start
  | step _ guard taken ih => exact preserved _ _ _ ih guard taken

/-- The invariant rule on top of a known invariant `J`. -/
theorem ReachVia.invariant_under {ok : σ → ℓ → Prop} {I J : σ → Prop}
    (known : ∀ s, M.ReachVia ok s → J s) (start : I M.init)
    (preserved : ∀ s t l, J s → I s → ok s l → M.step l s = some t → I t) {s : σ}
    (reach : M.ReachVia ok s) : I s := by
  induction reach with
  | init => exact start
  | step before guard taken ih => exact preserved _ _ _ (known _ before) ih guard taken

/-- A run whose every label meets a condition on labels alone ends in a state
reached under that condition. -/
theorem ReachVia.of_exec {ok : ℓ → Prop} {run : List ℓ} {s t : σ}
    (reach : M.ReachVia (fun _ => ok) s) (guards : ∀ l ∈ run, ok l)
    (ran : M.exec run s = some t) : M.ReachVia (fun _ => ok) t := by
  induction run generalizing s with
  | nil =>
      cases ran
      exact reach
  | cons l run ih =>
      simp only [exec_cons, Option.bind_eq_some_iff] at ran
      obtain ⟨mid, taken, rest⟩ := ran
      refine ih (.step reach (guards l List.mem_cons_self) taken) ?_ rest
      intro l' mem
      exact guards l' (List.mem_cons_of_mem _ mem)

/-- The machine in which a step is enabled only when it meets a condition. -/
def restrict (M : Machine σ ℓ) (ok : σ → ℓ → Prop) [∀ s l, Decidable (ok s l)] : Machine σ ℓ where
  init := M.init
  step l s := if ok s l then M.step l s else none

/-- What the restricted machine reaches is reached under the condition. -/
theorem ReachVia.of_restrict {ok : σ → ℓ → Prop} [∀ s l, Decidable (ok s l)] {s : σ}
    (reach : (M.restrict ok).Reach s) : M.ReachVia ok s := by
  induction reach with
  | init => exact .init
  | step _ _ taken ih =>
      simp only [restrict] at taken
      split at taken
      · rename_i guard
        exact .step ih guard taken
      · cases taken

/-! ### Conditions along a run -/

/-- Every step of a run meets `P` in the state before it. -/
def Along (M : Machine σ ℓ) (P : σ → ℓ → Prop) : List ℓ → σ → Prop
  | [], _ => True
  | l :: run, s => P s l ∧ ∀ t, M.step l s = some t → Along M P run t

/-- Two conditions agree along runs when they agree wherever an invariant holds, and
the steps that meet the first one keep the invariant. -/
theorem along_congr_of_kept {P Q : σ → ℓ → Prop} {I : σ → Prop}
    (kept : ∀ s t l, I s → P s l → M.step l s = some t → I t)
    (agree : ∀ s l, I s → (P s l ↔ Q s l)) {run : List ℓ} {s : σ} (inv : I s) :
    M.Along P run s ↔ M.Along Q run s := by
  induction run generalizing s with
  | nil => exact Iff.rfl
  | cons l run ih =>
      unfold Along
      rw [← agree s l inv]
      apply and_congr_right
      intro here
      apply forall_congr'
      intro t
      apply imp_congr_right
      intro taken
      exact ih (kept s t l inv here taken)

/-- Two conditions that agree wherever an invariant holds agree along runs. -/
theorem along_congr {P Q : σ → ℓ → Prop} {I : σ → Prop}
    (preserved : ∀ s t l, I s → M.step l s = some t → I t)
    (agree : ∀ s l, I s → (P s l ↔ Q s l)) {run : List ℓ} {s : σ} (inv : I s) :
    M.Along P run s ↔ M.Along Q run s :=
  along_congr_of_kept (fun s t l inv _ => preserved s t l inv) agree inv

/-- A condition that an invariant implies holds along every run whose labels keep
the invariant. -/
theorem along_of_invariant {ok : ℓ → Prop} {P : σ → ℓ → Prop} {I : σ → Prop}
    (preserved : ∀ s t l, I s → ok l → M.step l s = some t → I t)
    (implied : ∀ s l, I s → ok l → P s l) {run : List ℓ} {s : σ} (inv : I s)
    (guards : ∀ l ∈ run, ok l) : M.Along P run s := by
  induction run generalizing s with
  | nil => trivial
  | cons l run ih =>
      have here := guards l List.mem_cons_self
      refine ⟨implied s l inv here, ?_⟩
      intro t taken
      apply ih (preserved s t l inv here taken)
      intro l' mem
      exact guards l' (List.mem_cons_of_mem _ mem)

end Machine

end SensorCore.Lib
