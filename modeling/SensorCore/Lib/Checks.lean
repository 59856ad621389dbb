import Mathlib.Data.List.Forall2

/-!
Checks that throw.

A validator is a sequence of checks and loops of checks in `Except`: the first
one that fails ends it. `throwIf` is one check. The lemmas say when a check, a
sequence or a loop goes through, so a validator's acceptance unfolds to a
conjunction without a look at its control flow.
-/

namespace SensorCore.Lib

universe u v w

/-- The result of a method: a value, or the text of an error. -/
abbrev Result := Except String

variable {ε : Type u} {α β : Type v} {γ : Type w}

/-- Throw `error` when `bad` holds. -/
def throwIf (bad : Prop) [Decidable bad] (error : ε) : Except ε Unit :=
  if bad then .error error else .ok ()

@[simp] theorem throwIf_eq_ok {bad : Prop} [Decidable bad] {error : ε} :
    throwIf bad error = .ok () ↔ ¬ bad := by
  unfold throwIf
  split <;> simp_all

/-- A first part that succeeds hands its value on. -/
@[simp] theorem ok_bind (a : α) (f : α → Except ε β) : (Except.ok a >>= f) = f a := rfl

/-- A sequence succeeds when its first part does and the rest does on its value. -/
theorem bind_eq_ok {x : Except ε α} {f : α → Except ε β} {b : β} :
    (x >>= f) = .ok b ↔ ∃ a, x = .ok a ∧ f a = .ok b := by
  cases x with
  | error e => simp [bind, Except.bind]
  | ok a => simp [bind, Except.bind]

/-- A sequence whose first part only checks. -/
@[simp] theorem check_bind_eq_ok {x : Except ε PUnit} {f : PUnit → Except ε β} {b : β} :
    (x >>= f) = .ok b ↔ x = .ok ⟨⟩ ∧ f ⟨⟩ = .ok b := by
  rw [bind_eq_ok]
  exact ⟨fun ⟨⟨⟩, first, rest⟩ => ⟨first, rest⟩, fun ⟨first, rest⟩ => ⟨⟨⟩, first, rest⟩⟩

/-- A loop of checks succeeds when every check does. -/
theorem forM_eq_ok {check : γ → Except ε PUnit} {xs : List γ} :
    forM xs check = .ok ⟨⟩ ↔ ∀ x ∈ xs, check x = .ok ⟨⟩ := by
  induction xs with
  | nil => simp [pure, Except.pure]
  | cons x xs ih =>
      rw [List.forM_cons, check_bind_eq_ok, ih]
      constructor
      · rintro ⟨head, tail⟩ y hy
        rcases List.mem_cons.mp hy with rfl | hy
        · exact head
        · exact tail y hy
      · intro all
        refine ⟨all x List.mem_cons_self, ?_⟩
        intro y hy
        exact all y (List.mem_cons_of_mem _ hy)

/-- A loop that collects succeeds when every turn does, with the results in order. -/
theorem mapM_eq_ok {f : γ → Except ε α} {xs : List γ} {ys : List α} :
    xs.mapM f = .ok ys ↔ List.Forall₂ (fun x y => f x = .ok y) xs ys := by
  induction xs generalizing ys with
  | nil =>
      rw [List.mapM_nil, List.forall₂_nil_left_iff]
      constructor
      · rintro ⟨⟩
        rfl
      · rintro rfl
        rfl
  | cons x xs ih =>
      rw [List.mapM_cons, bind_eq_ok, List.forall₂_cons_left_iff]
      constructor
      · rintro ⟨y, head, rest⟩
        obtain ⟨ys', tail, ⟨⟩⟩ := bind_eq_ok.mp rest
        exact ⟨y, ys', head, ih.mp tail, rfl⟩
      · rintro ⟨y, ys', head, tail, rfl⟩
        exact ⟨y, head, bind_eq_ok.mpr ⟨ys', ih.mpr tail, rfl⟩⟩

end SensorCore.Lib
