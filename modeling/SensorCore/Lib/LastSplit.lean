/-!
Splitting a list at the last occurrence of a separator.

`splitLast_eq_some_iff` says that the split is the only one whose second part is free
of the separator, so a text that is written as `before`, separator, `after` is read
back when `after` does not contain the separator.
-/

namespace SensorCore.Lib

universe u

variable {α : Type u} [DecidableEq α]

/-- What comes before and after the last `c`. -/
def splitLast (c : α) : List α → Option (List α × List α)
  | [] => none
  | x :: xs =>
      match splitLast c xs with
      | some (before, after) => some (x :: before, after)
      | none => if x = c then some ([], xs) else none

/-- There is no split exactly when the separator is missing. -/
theorem splitLast_eq_none_iff {c : α} {xs : List α} : splitLast c xs = none ↔ c ∉ xs := by
  induction xs with
  | nil => simp [splitLast]
  | cons x xs ih =>
      rw [splitLast, List.mem_cons, not_or, ← ih]
      cases splitLast c xs with
      | some parts => simp
      | none =>
          by_cases same : x = c
          · simp [same]
          · simp [same, Ne.symm same]

/-- A split gives the list back, and its second part is free of the separator. -/
theorem splitLast_sound {c : α} {xs before after : List α}
    (split_ : splitLast c xs = some (before, after)) : xs = before ++ c :: after ∧ c ∉ after := by
  induction xs generalizing before with
  | nil => cases split_
  | cons x xs ih =>
      rw [splitLast] at split_
      split at split_
      · rename_i b a tail
        cases split_
        obtain ⟨rest, free⟩ := ih tail
        exact ⟨by rw [rest, List.cons_append], free⟩
      · rename_i tail
        split at split_
        · rename_i same
          cases split_
          exact ⟨by rw [same, List.nil_append], splitLast_eq_none_iff.mp tail⟩
        · cases split_

/-- The split is the one whose second part is free of the separator. -/
theorem splitLast_eq_some_iff {c : α} {xs before after : List α} :
    splitLast c xs = some (before, after) ↔ xs = before ++ c :: after ∧ c ∉ after := by
  constructor
  · exact splitLast_sound
  · rintro ⟨rfl, free⟩
    induction before with
    | nil => rw [List.nil_append, splitLast, splitLast_eq_none_iff.mpr free, if_pos rfl]
    | cons x before ih => rw [List.cons_append, splitLast, ih]

end SensorCore.Lib
