import Mathlib.Data.List.Basic

/-!
Serving requests in sequence, and views of a server.

A server handles one request after the other: `step` gives the answer to a request
and the next state. Somebody who sees only some of the requests and only a part of
the state has a view of it. `IsView` says that the view is a server of its own: a
visible request is answered from the viewed part, and a request that is not visible
does not change that part. `IsView.serveAll` is the consequence for runs: the visible
answers, and the viewed part of the final state, are those of the other server on
the visible requests alone. Two servers with one view cannot be told apart by it.
-/

namespace SensorCore.Lib

universe u v w x

variable {ρ : Type u} {ω : ρ → Type v} {σ : Type w} {τ : Type x}

/-- The answers to a list of requests, in order, and the state at the end. -/
def serveAll (step : (r : ρ) → σ → ω r × σ) : List ρ → σ → List (Σ r, ω r) × σ
  | [], s => ([], s)
  | r :: rs, s =>
      (⟨r, (step r s).1⟩ :: (serveAll step rs (step r s).2).1, (serveAll step rs (step r s).2).2)

theorem serveAll_cons (step : (r : ρ) → σ → ω r × σ) (r : ρ) (rs : List ρ) (s : σ) :
    serveAll step (r :: rs) s =
      (⟨r, (step r s).1⟩ :: (serveAll step rs (step r s).2).1,
        (serveAll step rs (step r s).2).2) := rfl

/-- One request more. -/
theorem serveAll_append (step : (r : ρ) → σ → ω r × σ) (rs : List ρ) (r : ρ) (s : σ) :
    serveAll step (rs ++ [r]) s =
      ((serveAll step rs s).1 ++ [⟨r, (step r (serveAll step rs s).2).1⟩],
        (step r (serveAll step rs s).2).2) := by
  induction rs generalizing s with
  | nil => rfl
  | cons r' rs ih => rw [List.cons_append, serveAll_cons, ih, serveAll_cons, List.cons_append]

/-- The part `view` of the state is a server for the visible requests. -/
structure IsView (visible : ρ → Bool) (view : σ → τ) (step : (r : ρ) → σ → ω r × σ)
    (step' : (r : ρ) → τ → ω r × τ) : Prop where
  seen : ∀ r s, visible r = true →
    (step r s).1 = (step' r (view s)).1 ∧ view (step r s).2 = (step' r (view s)).2
  unseen : ∀ r s, visible r = false → view (step r s).2 = view s

/-- A run looks like the run of the view on the visible requests. -/
theorem IsView.serveAll {visible : ρ → Bool} {view : σ → τ} {step : (r : ρ) → σ → ω r × σ}
    {step' : (r : ρ) → τ → ω r × τ} (isView : IsView visible view step step') (rs : List ρ)
    (s : σ) :
    (serveAll step rs s).1.filter (fun answer => visible answer.1) =
        (serveAll step' (rs.filter visible) (view s)).1 ∧
      view (serveAll step rs s).2 = (serveAll step' (rs.filter visible) (view s)).2 := by
  induction rs generalizing s with
  | nil => exact ⟨rfl, rfl⟩
  | cons r rs ih =>
      obtain ⟨answers, final⟩ := ih (step r s).2
      cases h : visible r with
      | true =>
          obtain ⟨answer, next⟩ := isView.seen r s h
          have kept : (r :: rs).filter visible = r :: rs.filter visible :=
            List.filter_cons_of_pos h
          rw [next] at answers final
          rw [kept, serveAll_cons, serveAll_cons, ← answers, ← final, ← answer]
          exact ⟨List.filter_cons_of_pos h, rfl⟩
      | false =>
          have dropped : (r :: rs).filter visible = rs.filter visible :=
            List.filter_cons_of_neg (by simp [h])
          rw [isView.unseen r s h] at answers final
          rw [dropped, serveAll_cons, ← answers]
          exact ⟨List.filter_cons_of_neg (by simp [h]), final⟩

/-- Related states give the same answers, and the next states are related again. -/
def Simulates (R : σ → τ → Prop) (step : (r : ρ) → σ → ω r × σ)
    (step' : (r : ρ) → τ → ω r × τ) : Prop :=
  ∀ r s t, R s t → (step r s).1 = (step' r t).1 ∧ R (step r s).2 (step' r t).2

/-- From related states two servers answer every list of requests alike. -/
theorem Simulates.serveAll {R : σ → τ → Prop} {step : (r : ρ) → σ → ω r × σ}
    {step' : (r : ρ) → τ → ω r × τ} (simulates : Simulates R step step') (rs : List ρ) {s : σ}
    {t : τ} (related : R s t) :
    (serveAll step rs s).1 = (serveAll step' rs t).1 ∧
      R (serveAll step rs s).2 (serveAll step' rs t).2 := by
  induction rs generalizing s t with
  | nil => exact ⟨rfl, related⟩
  | cons r rs ih =>
      obtain ⟨answer, next⟩ := simulates r s t related
      obtain ⟨answers, final⟩ := ih next
      rw [serveAll_cons, serveAll_cons, answer, answers]
      exact ⟨rfl, final⟩

end SensorCore.Lib
