import SensorCore.Lib.Yaml
import Mathlib.Data.List.Perm.Basic

/-!
The order of the entries of a YAML map.

`Reordered` relates two trees that differ only in the order of the entries of their maps,
at any depth, where the keys of a map have different texts. A program that reads nodes by
key cannot tell such trees apart: reading either one gives the same text, or nodes that
are related again.
-/

namespace SensorCore.Lib

section InStep

variable {α β γ : Type*} {R : α → β → Prop} {S : α → γ → Prop} {T : β → γ → Prop}

/-- What holds along one list is carried to the related list. -/
theorem forall₂_carry (carry : ∀ a b c, R a b → S a c → T b c) {as : List α} {bs : List β}
    {cs : List γ} (related : List.Forall₂ R as bs) (holds : List.Forall₂ S as cs) :
    List.Forall₂ T bs cs := by
  induction related generalizing cs with
  | nil =>
      cases holds
      exact .nil
  | cons head _ ih =>
      cases holds with
      | cons here rest => exact .cons (carry _ _ _ head here) (ih rest)

theorem forall₂_mem_right {as : List α} {bs : List β} (related : List.Forall₂ R as bs) {b : β}
    (mem : b ∈ bs) : ∃ a ∈ as, R a b := by
  induction related with
  | nil => cases mem
  | cons head _ ih =>
      rcases List.mem_cons.mp mem with rfl | mem
      · exact ⟨_, List.mem_cons_self, head⟩
      · obtain ⟨a, mem, there⟩ := ih mem
        exact ⟨a, List.mem_cons_of_mem _ mem, there⟩

end InStep

end SensorCore.Lib

namespace SensorCore.Lib.Yaml.Node

/-- No two keys have the same text. -/
def Distinct (entries : List (Node × Node)) : Prop :=
  entries.Pairwise fun e e' => ∀ text, e.1.asString = .ok text → e'.1.asString ≠ .ok text

theorem Distinct.moved {entries moved : List (Node × Node)} (distinct : Distinct entries)
    (keys : entries.map Prod.fst = moved.map Prod.fst) : Distinct moved := by
  have texts : (entries.map Prod.fst).Pairwise fun k k' : Node =>
      ∀ text, k.asString = .ok text → k'.asString ≠ .ok text := List.pairwise_map.mpr distinct
  rw [keys] at texts
  exact List.pairwise_map.mp texts

theorem Distinct.perm {entries entries' : List (Node × Node)} (distinct : Distinct entries)
    (perm : entries.Perm entries') : Distinct entries' := by
  have symmetric : ∀ {e e' : Node × Node},
      (∀ text, e.1.asString = .ok text → e'.1.asString ≠ .ok text) →
      ∀ text, e'.1.asString = .ok text → e.1.asString ≠ .ok text :=
    fun differ text reads reads' => differ text reads' reads
  exact (perm.pairwise_iff symmetric).mp distinct

/-- The same tree up to the order of the entries of its maps. -/
inductive Reordered : Node → Node → Prop where
  | null : Reordered .null .null
  | scalar (text : String) : Reordered (.scalar text) (.scalar text)
  | sequence {items items' : List Node} :
      List.Forall₂ Reordered items items' → Reordered (.sequence items) (.sequence items')
  | map {entries moved entries' : List (Node × Node)} :
      Distinct entries → entries.map Prod.fst = moved.map Prod.fst →
      List.Forall₂ Reordered (entries.map Prod.snd) (moved.map Prod.snd) → moved.Perm entries' →
      Reordered (.map entries) (.map entries')

/-- Entries with equal keys and related values. -/
def SameEntry (e e' : Node × Node) : Prop := e.1 = e'.1 ∧ Reordered e.2 e'.2

theorem forall₂_sameEntry {entries moved : List (Node × Node)} :
    List.Forall₂ SameEntry entries moved ↔
      entries.map Prod.fst = moved.map Prod.fst ∧
        List.Forall₂ Reordered (entries.map Prod.snd) (moved.map Prod.snd) := by
  induction entries generalizing moved with
  | nil => cases moved <;> simp
  | cons e rest ih =>
      cases moved with
      | nil => simp
      | cons e' rest' =>
          simp only [List.forall₂_cons, ih, List.map_cons, List.cons.injEq, SameEntry]
          tauto

/-- A key is a scalar, so its text tells it apart. -/
theorem isKey_iff {key : String} {node : Node} : node.isKey key = true ↔ node = .scalar key := by
  cases node <;> simp [isKey]

/-- In a map with distinct keys the order does not matter to a lookup. -/
theorem lookup_perm {entries entries' : List (Node × Node)} (distinct : Distinct entries)
    (perm : entries.Perm entries') (key : String) : lookup key entries = lookup key entries' := by
  induction perm with
  | nil => rfl
  | cons e _ ih =>
      rw [lookup, lookup, ih (List.Pairwise.of_cons distinct)]
  | swap e e' rest =>
      simp only [lookup]
      by_cases here : e.1.isKey key = true <;> by_cases there : e'.1.isKey key = true <;>
        simp only [here, there, if_true, Bool.false_eq_true, if_false]
      have differ := (List.pairwise_cons.mp distinct).1 e List.mem_cons_self key
      rw [isKey_iff.mp here, isKey_iff.mp there] at differ
      exact absurd rfl (differ rfl)
  | trans first _ ih ih' => exact (ih distinct).trans (ih' (distinct.perm first))

theorem lookup_forall₂ {entries moved : List (Node × Node)}
    (same : List.Forall₂ SameEntry entries moved) (key : String) :
    Option.Rel Reordered (lookup key entries) (lookup key moved) := by
  induction same with
  | nil => exact .none
  | cons head _ ih =>
      rw [lookup, lookup, head.1]
      split
      · exact .some head.2
      · exact ih

namespace Reordered

variable {node node' : Node}

theorem asString (same : Reordered node node') : node.asString = node'.asString := by
  cases same <;> rfl

theorem asNumber {α : Type} (same : Reordered node node') (decode : String → Option α) :
    node.asNumber decode = node'.asNumber decode := by
  cases same <;> rfl

/-- Reading under a key throws on both, or gives related nodes. -/
theorem get (same : Reordered node node') (key : String) :
    (∃ e, node.get key = .error e ∧ node'.get key = .error e) ∨
      ∃ value value', node.get key = .ok value ∧ node'.get key = .ok value' ∧
        Option.Rel Reordered value value' := by
  cases same with
  | null => exact .inr ⟨_, _, rfl, rfl, .none⟩
  | scalar text => exact .inl ⟨_, rfl, rfl⟩
  | sequence items => exact .inr ⟨_, _, rfl, rfl, .none⟩
  | @map entries moved entries' distinct keys values perm =>
      refine .inr ⟨_, _, rfl, rfl, ?_⟩
      rw [← lookup_perm (distinct.moved keys) perm]
      exact lookup_forall₂ (forall₂_sameEntry.mpr ⟨keys, values⟩) key

/-- What is absent in one is absent in the other. -/
theorem get_none (same : Reordered node node') {key : String} (absent : node.get key = .ok none) :
    node'.get key = .ok none := by
  rcases same.get key with ⟨e, thrown, -⟩ | ⟨_, _, there, there', related⟩
  · rw [absent] at thrown
    cases thrown
  · rw [absent] at there
    cases there
    cases related
    exact there'

theorem get_some (same : Reordered node node') {key : String} {value : Node}
    (found : node.get key = .ok (some value)) :
    ∃ value', node'.get key = .ok (some value') ∧ Reordered value value' := by
  rcases same.get key with ⟨e, thrown, -⟩ | ⟨_, _, there, there', related⟩
  · rw [found] at thrown
    cases thrown
  · rw [found] at there
    cases there
    cases related with
    | some related => exact ⟨_, there', related⟩

theorem symm (same : Reordered node node') : Reordered node' node := by
  refine @Reordered.rec (fun a b _ => Reordered b a) (fun xs ys _ => List.Forall₂ Reordered ys xs)
    .null .scalar (fun _ ih => .sequence ih) ?map .nil (fun _ _ ih ih' => .cons ih ih')
    node node' same
  case map =>
    intro entries moved entries' distinct keys values perm back
    -- each entry of the second map goes back to where it came from
    obtain ⟨origin, same, perm'⟩ :=
      List.perm_comp_forall₂ perm.symm (forall₂_sameEntry.mpr ⟨keys.symm, back⟩)
    obtain ⟨keys', values'⟩ := forall₂_sameEntry.mp same
    exact .map ((distinct.moved keys).perm perm) keys' values' perm'

/-- Maps with scalar keys, field by field. -/
theorem object {fields moved fields' : List (String × Node)} (distinct : (fields.map Prod.fst).Nodup)
    (same : List.Forall₂ (fun f f' => f.1 = f'.1 ∧ Reordered f.2 f'.2) fields moved)
    (perm : moved.Perm fields') : Reordered (Yaml.object fields) (Yaml.object fields') := by
  have entries : List.Forall₂ SameEntry
      (fields.map fun field => (Node.scalar field.1, field.2))
      (moved.map fun field => (Node.scalar field.1, field.2)) := by
    rw [List.forall₂_map_left_iff, List.forall₂_map_right_iff]
    exact same.imp fun f f' both => ⟨congrArg Node.scalar both.1, both.2⟩
  obtain ⟨keys, values⟩ := forall₂_sameEntry.mp entries
  refine .map ?_ keys values (perm.map _)
  refine List.pairwise_map.mpr ((List.pairwise_map.mp distinct).imp ?_)
  intro f f' differ text reads reads'
  rw [asString_scalar] at reads reads'
  exact differ (Except.ok.inj (reads.trans reads'.symm))

end Reordered

end SensorCore.Lib.Yaml.Node
