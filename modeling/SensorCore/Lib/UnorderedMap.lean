import Mathlib.Data.List.AList

/-!
Maps that are filled by a loop of assignments.

An `UnorderedMap` is a finite map: an association list without repeated keys, as
Mathlib has it. `AList.insert` is the assignment `m[k] = v`, which overwrites;
`emplace` adds an entry and keeps the one that is already there. `assignAll` is a
loop of assignments, and `lookup_assignAll` says what it leaves under a key: the
last value written to it, and otherwise what was there before. With `emplaceAll` what was
there comes first, and then the first value.
-/

namespace SensorCore.Lib

universe u v

variable {κ : Type u} {ν : Type v}

/-- A finite map from keys to values, without an order that means anything. -/
abbrev UnorderedMap (κ : Type u) (ν : Type v) := AList fun _ : κ => ν

/-- The value of the last entry for `k` in a list of assignments. -/
def lastValue [DecidableEq κ] (k : κ) : List (κ × ν) → Option ν
  | [] => none
  | (k', v) :: rest => (lastValue k rest).or (if k = k' then some v else none)

@[simp] theorem lastValue_nil [DecidableEq κ] (k : κ) :
    lastValue k ([] : List (κ × ν)) = none := rfl

theorem lastValue_cons [DecidableEq κ] (k : κ) (p : κ × ν) (rest : List (κ × ν)) :
    lastValue k (p :: rest) = (lastValue k rest).or (if k = p.1 then some p.2 else none) := rfl

/-- A last value was assigned to its key. -/
theorem lastValue_mem [DecidableEq κ] {k : κ} {v : ν} {kvs : List (κ × ν)}
    (h : lastValue k kvs = some v) : (k, v) ∈ kvs := by
  induction kvs with
  | nil => cases h
  | cons p rest ih =>
      rw [lastValue_cons] at h
      cases tail : lastValue k rest with
      | some w =>
          rw [tail] at h
          cases h
          exact List.mem_cons_of_mem _ (ih tail)
      | none =>
          rw [tail, Option.none_or] at h
          split at h
          · rename_i same
            cases h
            exact same ▸ List.mem_cons_self
          · cases h

/-- A key has a last value exactly when something is assigned to it. -/
theorem lastValue_isSome_iff [DecidableEq κ] {k : κ} {kvs : List (κ × ν)} :
    (lastValue k kvs).isSome ↔ k ∈ kvs.map Prod.fst := by
  induction kvs with
  | nil => simp
  | cons p rest ih =>
      rw [lastValue_cons, Option.isSome_or, Bool.or_eq_true, ih, List.map_cons, List.mem_cons]
      by_cases same : k = p.1 <;> simp [same]

/-- Assignments to other keys do not change the last value of `k`. -/
theorem lastValue_filter [DecidableEq κ] (k : κ) (kvs : List (κ × ν)) :
    lastValue k (kvs.filter fun p => p.1 = k) = lastValue k kvs := by
  induction kvs with
  | nil => rfl
  | cons p rest ih =>
      by_cases same : p.1 = k
      · rw [List.filter_cons_of_pos (by simpa using same), lastValue_cons, lastValue_cons, ih]
      · rw [List.filter_cons_of_neg (by simpa using same), lastValue_cons, ih,
          if_neg (Ne.symm same), Option.or_none]

/-- Mapping the values maps the last value. -/
theorem lastValue_map [DecidableEq κ] {ω : Type*} (f : ν → ω) (k : κ) (kvs : List (κ × ν)) :
    lastValue k (kvs.map fun p => (p.1, f p.2)) = (lastValue k kvs).map f := by
  induction kvs with
  | nil => rfl
  | cons p rest ih =>
      rw [List.map_cons, lastValue_cons, lastValue_cons, ih]
      cases lastValue k rest with
      | some w => rfl
      | none =>
          simp only [Option.map_none, Option.none_or]
          split <;> rfl

namespace UnorderedMap

variable [DecidableEq κ]

/-- A loop of assignments `m[k] = v`. -/
def assignAll (m : UnorderedMap κ ν) (kvs : List (κ × ν)) : UnorderedMap κ ν :=
  kvs.foldl (fun m p => m.insert p.1 p.2) m

@[simp] theorem assignAll_nil (m : UnorderedMap κ ν) : m.assignAll [] = m := rfl

@[simp] theorem assignAll_cons (m : UnorderedMap κ ν) (p : κ × ν) (kvs : List (κ × ν)) :
    m.assignAll (p :: kvs) = assignAll (m.insert p.1 p.2) kvs := rfl

/-- A loop of assignments leaves under `k` the last value written to it. -/
theorem lookup_assignAll (k : κ) (kvs : List (κ × ν)) (m : UnorderedMap κ ν) :
    (m.assignAll kvs).lookup k = (lastValue k kvs).or (m.lookup k) := by
  induction kvs generalizing m with
  | nil => rfl
  | cons p rest ih =>
      rw [assignAll_cons, ih, lastValue_cons, Option.or_assoc]
      by_cases same : k = p.1
      · subst same
        rw [AList.lookup_insert, if_pos rfl, Option.some_or]
      · rw [AList.lookup_insert_ne same, if_neg same, Option.none_or]

/-- Add an entry unless the key is taken. -/
def emplace (m : UnorderedMap κ ν) (k : κ) (v : ν) : UnorderedMap κ ν :=
  if absent : k ∈ m then m
  else ⟨m.entries ++ [⟨k, v⟩], by
    have fresh : k ∉ m.entries.keys := absent
    rw [List.NodupKeys, List.keys_append]
    refine List.nodup_append.mpr ⟨m.nodupKeys, List.nodup_singleton k, ?_⟩
    rintro a ha b hb rfl
    cases List.mem_singleton.mp hb
    exact fresh ha⟩

/-- A fresh entry goes to the end. -/
theorem entries_emplace {m : UnorderedMap κ ν} {k : κ} (absent : k ∉ m) (v : ν) :
    (m.emplace k v).entries = m.entries ++ [⟨k, v⟩] := by
  rw [emplace, dif_neg absent]

/-- A taken key keeps its entry. -/
theorem emplace_of_mem {m : UnorderedMap κ ν} {k : κ} (taken : k ∈ m) (v : ν) :
    m.emplace k v = m := dif_pos taken

/-- Under a key there is what was there, and otherwise what is added. -/
theorem lookup_emplace (m : UnorderedMap κ ν) (k k' : κ) (v : ν) :
    (m.emplace k v).lookup k' = (m.lookup k').or (if k' = k then some v else none) := by
  by_cases taken : k ∈ m
  · rw [emplace_of_mem taken]
    split
    · rename_i same
      obtain ⟨v', found⟩ := Option.isSome_iff_exists.mp (AList.lookup_isSome.mpr taken)
      rw [same, found, Option.some_or]
    · rw [Option.or_none]
  · rw [AList.lookup, entries_emplace taken, List.dlookup_append]
    congr 1
    split
    · rename_i same
      subst same
      exact List.dlookup_cons_eq _ _ _
    · rename_i other
      exact List.dlookup_cons_ne _ (⟨k, v⟩ : Σ _ : κ, ν) other

/-- A loop of `emplace`. -/
def emplaceAll (m : UnorderedMap κ ν) (kvs : List (Σ _ : κ, ν)) : UnorderedMap κ ν :=
  kvs.foldl (fun m p => m.emplace p.1 p.2) m

@[simp] theorem emplaceAll_nil (m : UnorderedMap κ ν) : m.emplaceAll [] = m := rfl

@[simp] theorem emplaceAll_cons (m : UnorderedMap κ ν) (p : Σ _ : κ, ν)
    (kvs : List (Σ _ : κ, ν)) :
    m.emplaceAll (p :: kvs) = emplaceAll (m.emplace p.1 p.2) kvs := rfl

/-- A loop of `emplace` leaves under a key what was there, and otherwise the first value. -/
theorem lookup_emplaceAll (k : κ) (kvs : List (Σ _ : κ, ν)) (m : UnorderedMap κ ν) :
    (m.emplaceAll kvs).lookup k = (m.lookup k).or (kvs.dlookup k) := by
  induction kvs generalizing m with
  | nil => exact Option.or_none.symm
  | cons p rest ih =>
      rw [emplaceAll_cons, ih, lookup_emplace, Option.or_assoc]
      congr 1
      by_cases same : k = p.1
      · subst same
        rw [if_pos rfl, Option.some_or]
        exact (List.dlookup_cons_eq rest p.1 p.2).symm
      · rw [if_neg same, Option.none_or, List.dlookup_cons_ne rest p same]

end UnorderedMap

end SensorCore.Lib
