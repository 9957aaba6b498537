import Mathlib.Data.List.Forall2
/-!
Values paired with what they are related to: a value that may be missing with another that is missing with it, and
the items of a list with those of another in order. Main statement: where an item is related to one result only, and
that under a condition, the list is related to the list of these results alone, when every item meets the condition.
-/
namespace LookupJoin

variable {α β : Type} {relation : α → β → Prop} {first : Option α}

theorem eq_none_iff_of_rel {second : Option β} (related : Option.Rel relation first second) :
    first = none ↔ second = none := by
  cases related <;> simp

theorem rel_none_iff : Option.Rel relation first none ↔ first = none := by
  constructor
  · intro related
    exact (eq_none_iff_of_rel related).2 rfl
  · intro absent
    rw [absent]
    exact .none

theorem rel_some_iff {result : β} :
    Option.Rel relation first (some result) ↔ ∃ value, first = some value ∧ relation value result := by
  constructor
  · intro related
    cases related with
    | some held => exact ⟨_, rfl, held⟩
  · intro present
    obtain ⟨value, same, held⟩ := present
    rw [same]
    exact .some held

theorem rel_map_left {convert : β → α} {second : Option β}
    (each : ∀ result ∈ second, relation (convert result) result) :
    Option.Rel relation (second.map convert) second := by
  cases second with
  | none => exact .none
  | some result => exact .some (each result rfl)

theorem rel_map_right {convert : α → β} (each : ∀ value ∈ first, relation value (convert value)) :
    Option.Rel relation first (first.map convert) := by
  cases first with
  | none => exact .none
  | some value => exact .some (each value rfl)

theorem exists_of_mem_rel {second : Option β} (related : Option.Rel relation first second) :
    ∀ result ∈ second, ∃ value, relation value result := by
  intro result same
  cases same
  obtain ⟨value, _, held⟩ := rel_some_iff.1 related
  exact ⟨value, held⟩

theorem exists_rel_iff :
    (∃ second, Option.Rel relation first second) ↔ ∀ value ∈ first, ∃ result, relation value result := by
  constructor
  · intro related value present
    obtain ⟨second, related⟩ := related
    cases present
    cases related with
    | some held => exact ⟨_, held⟩
  · intro each
    cases first with
    | none => exact ⟨none, .none⟩
    | some value =>
      obtain ⟨result, held⟩ := each value rfl
      exact ⟨some result, .some held⟩

theorem forall₂_map_iff {condition : α → Prop} {convert : α → β} {items : List α} {results : List β}
    (each : ∀ item ∈ items, ∀ result, relation item result ↔ condition item ∧ result = convert item) :
    List.Forall₂ relation items results ↔ (∀ item ∈ items, condition item) ∧ results = items.map convert := by
  induction items generalizing results with
  | nil => simp
  | cons item rest ih =>
    obtain ⟨first, others⟩ := List.forall_mem_cons.1 each
    rw [List.forall₂_cons_left_iff, List.forall_mem_cons, List.map_cons]
    constructor
    · intro pairs
      obtain ⟨result, more, here, following, rfl⟩ := pairs
      obtain ⟨met, rfl⟩ := (first result).1 here
      obtain ⟨later, rfl⟩ := (ih others).1 following
      exact ⟨⟨met, later⟩, rfl⟩
    · intro parts
      obtain ⟨⟨met, later⟩, rfl⟩ := parts
      exact ⟨_, _, (first _).2 ⟨met, rfl⟩, (ih others).2 ⟨later, rfl⟩, rfl⟩

end LookupJoin
