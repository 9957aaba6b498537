import LookupJoin.Proofs.Plan.Forwarding
/-!
What the identity calculation puts out, with or without a filter: each field under its name, with its type, nested
fields and their metadata included, and its nullability, but without metadata of its own. Main statement: the output
is the row of the table, and joined rows over the one are those over the other, exactly when no field of the table
carries metadata.
-/
namespace LookupJoin

theorem FieldOf.bare_eq_self_iff {τ : Type} {field : FieldOf τ} : field.bare = field ↔ field.metadata = [] := by
  obtain ⟨name, type, nullable, metadata⟩ := field
  simp [bare, eq_comm]

namespace Schema

def Unannotated (row : Schema) : Prop := ∀ field ∈ row, field.metadata = []

theorem bare_eq_self_iff {row : Schema} : row.bare = row ↔ row.Unannotated := by
  have copied : row.map FieldOf.bare = row.map id ↔ ∀ field ∈ row, field.bare = field := List.map_inj_left
  rw [List.map_id] at copied
  exact copied.trans (forall₂_congr fun _ _ => FieldOf.bare_eq_self_iff)

end Schema

/-- A joined row cannot tell the lookup side from its bare copy but by the metadata of the fields. -/
theorem JoinType.joinedRow_bare_iff {joinType : JoinType} {driving lookup : Schema} :
    joinType.joinedRow driving lookup.bare = joinType.joinedRow driving lookup ↔ lookup.Unannotated := by
  have same (field : Field) :
      joinType.lookupField field.bare = joinType.lookupField field ↔ field.metadata = [] := by
    obtain ⟨name, type, nullable, metadata⟩ := field
    simp [lookupField, FieldOf.bare, eq_comm]
  rw [joinedRow, joinedRow, List.append_cancel_left_eq, Schema.bare, List.map_map, List.map_inj_left]
  exact forall₂_congr fun field _ => same field

namespace Calc

theorem output_identity {input : Schema} {filter : Option Expr} {program : Calc}
    (made : identity input filter = .ok program) : program.output = input.bare := by
  obtain ⟨_, rfl, columns, _⟩ := build_eq_ok_iff.1 made
  exact output_of_columns columns

theorem identity_keeps_iff_unannotated {input : Schema} {filter : Option Expr} {program : Calc}
    (made : identity input filter = .ok program) :
    program.output = input.bare ∧ (program.output = input ↔ input.Unannotated) ∧
      ∀ joinType driving, JoinType.joinedRow joinType driving program.output =
        joinType.joinedRow driving input ↔ input.Unannotated := by
  rw [output_identity made]
  exact ⟨rfl, Schema.bare_eq_self_iff, fun _ _ => JoinType.joinedRow_bare_iff⟩

def tagged : Schema :=
  [⟨"tags", .list false ⟨"item", .utf8, true, [("language", "en")]⟩, true, []⟩, ⟨"age", .int32, false, []⟩]

def grownUp : Expr := .call .gt [.ref 1 .int32, .lit (.int true .w32 (some 18)) .int32] .boolean

def taggedAdults : Calc := ⟨tagged, forwarded tagged, some grownUp, rfl⟩

theorem identity_keeps_tagged :
    identity tagged (some grownUp) = .ok taggedAdults ∧ taggedAdults.output = tagged ∧
      JoinType.leftOuter.joinedRow tagged taggedAdults.output = JoinType.leftOuter.joinedRow tagged tagged := by
  have made : identity tagged (some grownUp) = .ok taggedAdults := build_eq_ok_iff.2 ⟨rfl, rfl, rfl, rfl⟩
  have plain : tagged.Unannotated := by simp [Schema.Unannotated, tagged]
  obtain ⟨_, output, rows⟩ := identity_keeps_iff_unannotated made
  exact ⟨made, output.2 plain, (rows _ _).2 plain⟩

def measured : Schema := [⟨"id", .int32, false, []⟩, ⟨"age", .int32, true, [("unit", "years")]⟩]

theorem identity_measured_forgets :
    identity measured none = .ok (forwarding measured) ∧ (forwarding measured).output ≠ measured ∧
      JoinType.inner.joinedRow [] (forwarding measured).output ≠ JoinType.inner.joinedRow [] measured :=
  ⟨identity_eq_ok measured, by decide, by decide⟩

end Calc

end LookupJoin
