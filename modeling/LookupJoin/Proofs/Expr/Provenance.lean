import Mathlib.Logic.Relation
import LookupJoin.Proofs.Expr.Construction
/-!
The field behind an expression. A wrapper is an identity call or a cast, and it shows what it wraps unless it is a
lossy cast. Main statement: an expression forwards a field exactly when wrappers that show what they wrap lead down
to a reference to it, however many they are; a lossy cast anywhere among the wrappers hides the field; and where
identity calls carry their operand's type, the type of the field is interoperable with that of the expression.
-/
namespace LookupJoin.Expr

open Relation

/-- The value is that of the field, passed on by identity calls and casts between interoperable types alone. -/
inductive Forwards (index : Nat) : Expr → Prop
  | ref (type : DataType) : Forwards index (.ref index type)
  | passThrough {operand : Expr} (rest : List Expr) (type : DataType) (behind : operand.Forwards index) :
      Forwards index (.call .passThrough (operand :: rest) type)
  | cast {operand : Expr} (rest : List Expr) {target : DataType}
      (interoperable : operand.type.Interoperable target) (behind : operand.Forwards index) :
      Forwards index (.call .cast (operand :: rest) target)

theorem source?_eq_some_iff {expr : Expr} {index : Nat} : expr.source? = some index ↔ expr.Forwards index := by
  constructor
  · intro traced
    fun_induction source? expr with
    | case1 other type =>
      cases traced
      exact .ref type
    | case2 operand rest type ih => exact .passThrough rest type (ih traced)
    | case3 operand rest target interoperable ih =>
      exact .cast rest (DataType.interoperable_iff.1 interoperable) (ih traced)
    | case4 => cases traced
    | case5 => cases traced
  · intro forwards
    induction forwards with
    | ref type => rfl
    | passThrough rest type _ ih => rw [source?, ih]
    | cast rest interoperable _ ih => rw [source?, if_pos (DataType.interoperable_iff.2 interoperable), ih]

inductive Wraps : Expr → Expr → Prop
  | passThrough (operand : Expr) (rest : List Expr) (type : DataType) :
      Wraps (.call .passThrough (operand :: rest) type) operand
  | cast (operand : Expr) (rest : List Expr) (target : DataType) :
      Wraps (.call .cast (operand :: rest) target) operand

def LossyCast : Expr → Prop
  | .call .cast (operand :: _) target => ¬operand.type.interoperable target = true
  | _ => False

/-- The wrapper passes on what identifies the value. -/
def Shows (expr operand : Expr) : Prop := expr.Wraps operand ∧ ¬expr.LossyCast

variable {expr operand inner : Expr} {index : Nat}

theorem LossyCast.source? (lossy : expr.LossyCast) : expr.source? = none := by
  unfold LossyCast at lossy
  split at lossy
  next operand rest target => rw [Expr.source?, if_neg lossy]
  next => exact lossy.elim

theorem Shows.source? (shown : expr.Shows operand) : expr.source? = operand.source? := by
  obtain ⟨wraps, kept⟩ := shown
  cases wraps with
  | passThrough rest type => rw [Expr.source?]
  | cast rest target => rw [Expr.source?, if_pos (not_not.1 kept)]

theorem Wraps.source?_eq_none (wraps : expr.Wraps operand) (hidden : operand.source? = none) :
    expr.source? = none := by
  by_cases lossy : expr.LossyCast
  · exact lossy.source?
  · have shown : expr.Shows operand := ⟨wraps, lossy⟩
    rw [shown.source?, hidden]

/-- Wrapping that shows what it wraps does not change the field, at any depth. -/
theorem source?_of_shown (chain : ReflTransGen Shows expr inner) : expr.source? = inner.source? := by
  -- Wrappers come off from the outside, as the search takes them off.
  induction chain using ReflTransGen.head_induction_on with
  | refl => rfl
  | head step _ ih => rw [step.source?, ih]

theorem source?_eq_none_of_lossy (chain : ReflTransGen Wraps expr inner) (lossy : inner.LossyCast) :
    expr.source? = none := by
  induction chain using ReflTransGen.head_induction_on with
  | refl => exact lossy.source?
  | head step _ ih => exact step.source?_eq_none ih

theorem Forwards.shown (forwards : expr.Forwards index) : ∃ type, ReflTransGen Shows expr (.ref index type) := by
  induction forwards with
  | ref type => exact ⟨type, .refl⟩
  | passThrough rest type _ ih =>
    obtain ⟨fieldType, chain⟩ := ih
    exact ⟨fieldType, .head ⟨.passThrough _ rest type, id⟩ chain⟩
  | @cast operand rest target interoperable _ ih =>
    obtain ⟨fieldType, chain⟩ := ih
    have kept : ¬(Expr.call .cast (operand :: rest) target).LossyCast :=
      not_not.2 (DataType.interoperable_iff.2 interoperable)
    exact ⟨fieldType, .head ⟨.cast operand rest target, kept⟩ chain⟩

theorem source?_eq_some_iff_shown :
    expr.source? = some index ↔ ∃ type, ReflTransGen Shows expr (.ref index type) := by
  constructor
  · intro traced
    exact (source?_eq_some_iff.1 traced).shown
  · intro reached
    obtain ⟨type, chain⟩ := reached
    exact source?_of_shown chain

theorem exists_field_of_source? {row : Schema} (valid : expr.validate row = .ok ()) (faithful : expr.Faithful)
    (traced : expr.source? = some index) :
    ∃ field, row[index]? = some field ∧ field.type.interoperable expr.type = true := by
  obtain ⟨inside, steps⟩ := interoperable_of_source? valid faithful traced
  have present : row[index]? = some row[index] := List.getElem?_eq_getElem inside
  have typed : row.typeAt index = row[index].type := by
    rw [Schema.typeAt, present]
    rfl
  exact ⟨row[index], present, DataType.interoperable_iff.2 (typed ▸ steps)⟩

theorem source?_along_wrappers (expr : Expr) :
    (∀ index, expr.source? = some index ↔ ∃ type, ReflTransGen Shows expr (.ref index type)) ∧
      (∀ inner, ReflTransGen Shows expr inner → expr.source? = inner.source?) ∧
        (∀ inner, ReflTransGen Wraps expr inner → inner.LossyCast → expr.source? = none) ∧
          (∀ row index, expr.validate row = .ok () → expr.Faithful → expr.source? = some index →
            ∃ field, row[index]? = some field ∧ field.type.interoperable expr.type = true) ∧
              ∀ casts, expr.Constructed casts → expr.Faithful := by
  refine ⟨fun index => source?_eq_some_iff_shown, fun inner => source?_of_shown,
    fun inner => source?_eq_none_of_lossy, ?_, fun casts => Constructed.faithful⟩
  intro row index valid faithful traced
  exact exists_field_of_source? valid faithful traced

def ages : Schema := [⟨"id", .int64, false, []⟩, ⟨"age", .int32, true, []⟩]

def widenedAge : Expr :=
  .call .passThrough [.call .cast [.call .passThrough [.ref 1 .int32] .int32] .int64] .int64

def cutId : Expr := .call .passThrough [.call .cast [.ref 0 .int64] .int32] .int32

theorem source?_along_ages :
    (widenedAge.validate ages = .ok () ∧ widenedAge.Faithful ∧ widenedAge.source? = some 1 ∧
      ∃ field, ages[1]? = some field ∧ field.type.interoperable widenedAge.type = true) ∧
      (ReflTransGen Shows widenedAge (.call .passThrough [.ref 1 .int32] .int32) ∧
        widenedAge.source? = (Expr.call .passThrough [.ref 1 .int32] .int32).source?) ∧
        (ReflTransGen Wraps cutId (.call .cast [.ref 0 .int64] .int32) ∧
          (Expr.call .cast [.ref 0 .int64] .int32).LossyCast ∧ cutId.source? = none) := by
  have valid : widenedAge.validate ages = .ok () := rfl
  have faithful : widenedAge.Faithful := ⟨rfl, rfl, trivial⟩
  have kept : ¬(Expr.call .cast [.call .passThrough [.ref 1 .int32] .int32] .int64).LossyCast :=
    not_not.2 (by decide)
  have shown : ReflTransGen Shows widenedAge (.call .passThrough [.ref 1 .int32] .int32) :=
    .head ⟨.passThrough _ _ _, id⟩ (.single ⟨.cast _ _ _, kept⟩)
  have reached : ReflTransGen Shows widenedAge (.ref 1 .int32) := shown.tail ⟨.passThrough _ _ _, id⟩
  have traced : widenedAge.source? = some 1 := ((source?_along_wrappers widenedAge).1 1).2 ⟨.int32, reached⟩
  have wrapped : ReflTransGen Wraps cutId (.call .cast [.ref 0 .int64] .int32) := .single (.passThrough _ _ _)
  have lossy : (Expr.call .cast [.ref 0 .int64] .int32).LossyCast := by
    change ¬DataType.interoperable .int64 .int32 = true
    decide
  exact ⟨⟨valid, faithful, traced, (source?_along_wrappers widenedAge).2.2.2.1 ages 1 valid faithful traced⟩,
    ⟨shown, (source?_along_wrappers widenedAge).2.1 _ shown⟩,
    ⟨wrapped, lossy, (source?_along_wrappers cutId).2.2.1 _ wrapped lossy⟩⟩

end LookupJoin.Expr
