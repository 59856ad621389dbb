import Mathlib.Data.List.Sort
import Mathlib.Order.RelClasses

/-!
Sorting by a comparator, and the element that comes out first.

A `Sorter` is all a caller of a sort may count on: the result is a rearrangement in
which nothing stands behind something it is less than. What is equal for the comparator
comes out in any order, so the first element is one of the `Least` ones, and which one
may depend on the order of the input and on the procedure. `heads_agree_iff` says for a
selection (filter, sort, take the first) when it does not.
-/

namespace SensorCore.Lib

universe u v w

variable {α : Type u}

/-- A sorting procedure for one comparator. -/
structure Sorter (less : α → α → Prop) where
  sort : List α → List α
  perm : ∀ xs, (sort xs).Perm xs
  ordered : ∀ xs, (sort xs).Pairwise fun a b => ¬ less b a

/-- An element of the list that nothing in it is less than. -/
def Least (less : α → α → Prop) (xs : List α) (a : α) : Prop :=
  a ∈ xs ∧ ∀ b ∈ xs, ¬ less b a

/-- The order of the list does not matter. -/
theorem Least.of_perm {less : α → α → Prop} {xs ys : List α} {a : α} (least : Least less xs a)
    (perm : ys.Perm xs) : Least less ys a := by
  refine ⟨perm.mem_iff.mpr least.1, ?_⟩
  intro b mem
  exact least.2 b (perm.mem_iff.mp mem)

@[simp] theorem Sorter.sort_nil {less : α → α → Prop} (s : Sorter less) : s.sort [] = [] :=
  (s.perm []).eq_nil

/-- Something that is sorted comes out. -/
theorem Sorter.sort_ne_nil {less : α → α → Prop} (s : Sorter less) {xs : List α}
    (nonempty : xs ≠ []) : s.sort xs ≠ [] := by
  intro empty
  have perm := s.perm xs
  rw [empty] at perm
  exact nonempty perm.nil_eq.symm

/-- A comparator that compares a rank is one a sort can be called with. -/
theorem strictWeak_of_rank {β : Type v} [LinearOrder β] (rank : α → β) :
    IsStrictWeakOrder α fun a b => rank a < rank b := by
  have order : IsStrictWeakOrder β (· < ·) := isStrictWeakOrder_of_isOrderConnected
  exact inferInstanceAs (IsStrictWeakOrder α (Order.Preimage rank (· < ·)))

section StrictWeak

variable {less : α → α → Prop} [IsStrictWeakOrder α less]

/-- "Not behind" is transitive: this is what a strict weak order adds to a strict order. -/
theorem not_less_trans {a b c : α} (hab : ¬ less b a) (hbc : ¬ less c b) : ¬ less c a := by
  intro hca
  have hba : ¬ less a b := fun h => hbc (Trans.trans hca h)
  have hcb : ¬ less b c := fun h => hab (Trans.trans h hca)
  exact (IsStrictWeakOrder.incomp_trans a b c ⟨hba, hab⟩ ⟨hcb, hbc⟩).2 hca

/-- What is sorted to the front is least. -/
theorem Sorter.head_least (s : Sorter less) {xs : List α} (nonempty : s.sort xs ≠ []) :
    Least less xs ((s.sort xs).head nonempty) := by
  refine ⟨(s.perm xs).mem_iff.mp (List.head_mem nonempty), ?_⟩
  intro b mem
  have sorted := s.ordered xs
  rw [← List.cons_head_tail nonempty] at sorted
  have mem := (s.perm xs).mem_iff.mpr mem
  rw [← List.cons_head_tail nonempty] at mem
  rcases List.mem_cons.mp mem with rfl | mem
  · exact irrefl _
  · exact List.rel_of_pairwise_cons sorted mem

variable (less) in
/-- Insertion sort, which keeps equal elements in their order. -/
def Sorter.insertion [DecidableRel less] : Sorter less where
  sort xs := xs.insertionSort fun a b => ¬ less b a
  perm xs := List.perm_insertionSort _ xs
  ordered xs := by
    have total : Std.Total fun a b => ¬ less b a := ⟨fun a b => by
      by_contra both
      rw [not_or, not_not, not_not] at both
      exact asymm both.1 both.2⟩
    have transitive : IsTrans α fun a b => ¬ less b a := ⟨fun _ _ _ => not_less_trans⟩
    exact List.pairwise_insertionSort _ xs

/-- Any least element comes out first, for a suitable order of the input. -/
theorem Sorter.insertion_head [DecidableRel less] {γ : Type w} {g : γ → Option α} {xs : List γ}
    {c : γ} {a : α} (mem : c ∈ xs) (kept : g c = some a)
    (least : Least less (xs.filterMap g) a) :
    ∃ ys : List γ, ys.Perm xs ∧ ((Sorter.insertion less).sort (ys.filterMap g)).head? = some a := by
  obtain ⟨before, after, rfl⟩ := List.append_of_mem mem
  refine ⟨c :: (before ++ after), List.perm_middle.symm, ?_⟩
  have first : ((c :: (before ++ after)).filterMap g) = a :: (before ++ after).filterMap g :=
    List.filterMap_cons_some kept
  have smallest : ∀ b ∈ (before ++ after).filterMap g, ¬ less b a := by
    intro b found
    apply least.2 b
    rw [(List.perm_middle.filterMap g).mem_iff, first]
    exact List.mem_cons_of_mem _ found
  rw [first]
  simp only [insertion]
  rw [List.insertionSort_cons_of_forall_rel _ smallest, List.head?_cons]

/-- What a selection shows of its first element is the same for all orders of the input and
all sorting procedures exactly when all least elements show the same. -/
theorem Sorter.heads_agree_iff [DecidableRel less] {β : Type v} {γ : Type w} {g : γ → Option α}
    (f : α → β) (xs : List γ) :
    (∀ (s t : Sorter less) (ys zs : List γ), ys.Perm xs → zs.Perm xs →
        (s.sort (ys.filterMap g)).head?.map f = (t.sort (zs.filterMap g)).head?.map f) ↔
      ∀ a b, Least less (xs.filterMap g) a → Least less (xs.filterMap g) b → f a = f b := by
  constructor
  · intro agree a b ha hb
    obtain ⟨c, hc, kept⟩ := List.mem_filterMap.mp ha.1
    obtain ⟨d, hd, kept'⟩ := List.mem_filterMap.mp hb.1
    obtain ⟨ys, hys, first⟩ := insertion_head hc kept ha
    obtain ⟨zs, hzs, first'⟩ := insertion_head hd kept' hb
    have same := agree (.insertion less) (.insertion less) ys zs hys hzs
    rw [first, first'] at same
    exact Option.some.inj same
  · intro same s t ys zs hys hzs
    have perm := hys.filterMap g
    have perm' := hzs.filterMap g
    by_cases empty : xs.filterMap g = []
    · rw [empty] at perm perm'
      rw [perm.eq_nil, perm'.eq_nil, s.sort_nil, t.sort_nil]
    · have left := s.sort_ne_nil fun nil => empty (perm.symm.trans (.of_eq nil)).eq_nil
      have right := t.sort_ne_nil fun nil => empty (perm'.symm.trans (.of_eq nil)).eq_nil
      rw [List.head?_eq_some_head left, List.head?_eq_some_head right]
      exact congrArg some
        (same _ _ ((s.head_least left).of_perm perm.symm) ((t.head_least right).of_perm perm'.symm))

end StrictWeak

end SensorCore.Lib
