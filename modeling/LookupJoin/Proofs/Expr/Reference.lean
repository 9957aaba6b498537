import LookupJoin.LookupKey.Analysis
import LookupJoin.Proofs.Outcome
/-!
The references of an expression. A valid expression refers to fields of its row only, with their types; its
conjuncts share its references out among them; the field it forwards is one of them. What a calculation
reads is therefore inside the row of its table.
-/
namespace LookupJoin

def Schema.typeAt (row : Schema) (index : Nat) : DataType := (row[index]?.map FieldOf.type).getD .null

namespace Expr

theorem column_eq_ok {row : Schema} {index : Nat} {expr : Expr} :
    column row index = .ok expr ↔ index < row.length ∧ expr = .ref index (row.typeAt index) := by
  unfold column
  split
  next field found =>
    have inside : index < row.length := (List.getElem?_eq_some_iff.1 found).1
    have type : row.typeAt index = field.type := by rw [Schema.typeAt, found]; rfl
    rw [type]
    simp [inside, eq_comm]
  next beyond => simpa using fun inside => absurd inside (Nat.not_lt.2 (List.getElem?_eq_none_iff.1 beyond))

theorem column_eq_error {row : Schema} {index : Nat} {fault : Error} :
    column row index = .error fault ↔
      row.length ≤ index ∧ fault = .indexOutOfRange .inputReference index row.length := by
  unfold column
  split
  next field found =>
    have inside : ¬row.length ≤ index := Nat.not_le.2 (List.getElem?_eq_some_iff.1 found).1
    simp [inside]
  next beyond => simp [List.getElem?_eq_none_iff.1 beyond, eq_comm]

@[simp] theorem refs_call (op : Operator) (operands : List Expr) (type : DataType) :
    refs (.call op operands type) = operands.flatMap refs := by
  rw [refs, refsAll_eq]

theorem checkRef_eq_ok {schema : Schema} {ref : Nat × DataType} :
    checkRef schema ref = .ok () ↔ ∃ field, schema[ref.1]? = some field ∧ field.type = ref.2 := by
  unfold checkRef
  split
  next beyond => simp [beyond]
  next field found =>
    by_cases typed : field.type = ref.2 <;> simp [found, typed]

theorem validate_eq_ok {schema : Schema} {expr : Expr} :
    expr.validate schema = .ok () ↔
      ∀ ref ∈ expr.refs, ∃ field, schema[ref.1]? = some field ∧ field.type = ref.2 := by
  simp only [validate, Outcome.forM_eq_ok, checkRef_eq_ok]

theorem validatePredicate_eq_ok {schema : Schema} {fault : DataType → Malformed} {expr : Expr} :
    expr.validatePredicate schema fault = .ok () ↔ expr.validate schema = .ok () ∧ expr.type = .boolean := by
  rw [validatePredicate, Outcome.bind_unit_eq_ok]
  by_cases boolean : expr.type = .boolean <;> simp [boolean]

theorem ref_lt_length {schema : Schema} {expr : Expr} {ref : Nat × DataType}
    (valid : expr.validate schema = .ok ()) (member : ref ∈ expr.refs) : ref.1 < schema.length := by
  obtain ⟨field, found, _⟩ := validate_eq_ok.1 valid ref member
  exact (List.getElem?_eq_some_iff.1 found).1

theorem conjuncts_of_operator_ne {op : Operator} {operands : List Expr} {type : DataType} (other : op ≠ .and) :
    conjuncts (.call op operands type) = [.call op operands type] := by
  rw [conjuncts]
  intro _ _ same
  cases same
  exact other rfl

theorem refs_conjuncts (expr : Expr) : expr.conjuncts.flatMap refs = expr.refs := by
  induction expr using induct with
  | ref index type => rfl
  | lit value type => rfl
  | call op operands type ih =>
    by_cases conjunction : op = .and
    · subst conjunction
      rw [conjuncts_and, List.flatMap_assoc, refs_call]
      exact List.flatMap_congr ih
    · rw [conjuncts_of_operator_ne conjunction, List.flatMap_singleton]

theorem mem_refs_of_conjunct {expr conjunct : Expr} {ref : Nat × DataType}
    (member : conjunct ∈ expr.conjuncts) (read : ref ∈ conjunct.refs) : ref ∈ expr.refs := by
  rw [← refs_conjuncts]
  exact List.mem_flatMap.2 ⟨conjunct, member, read⟩

theorem mem_refs_of_source? {expr : Expr} {index : Nat} (forwards : expr.source? = some index) :
    ∃ type, (index, type) ∈ expr.refs := by
  fun_induction source? expr with
  | case1 other type =>
    cases forwards
    exact ⟨type, List.mem_singleton_self _⟩
  | case2 operand rest type ih =>
    obtain ⟨carried, member⟩ := ih forwards
    exact ⟨carried, by simp [member]⟩
  | case3 operand rest target interoperable ih =>
    obtain ⟨carried, member⟩ := ih forwards
    exact ⟨carried, by simp [member]⟩
  | case4 => cases forwards
  | case5 => cases forwards

end Expr

namespace Calc

theorem check_eq_ok {input : Schema} {columns : List (Expr × String)} {filter : Option Expr} :
    check input columns filter = .ok () ↔
      (∀ column ∈ columns, column.1.validate input = .ok ()) ∧
        ∀ predicate ∈ filter, predicate.validate input = .ok () ∧ predicate.type = .boolean := by
  rw [check, Outcome.bind_unit_eq_ok, Outcome.forM_eq_ok]
  refine and_congr_right fun _ => ?_
  cases filter with
  | none => simp [pure, Except.pure]
  | some predicate => simp [Expr.validatePredicate_eq_ok]

theorem validate_projection {program : Calc} {ordinal : Nat} {expr : Expr}
    (found : program.projection? ordinal = some expr) : expr.validate program.input = .ok () := by
  obtain ⟨column, member, rfl⟩ := List.mem_map.1 (List.mem_of_getElem? found)
  exact (check_eq_ok.1 program.sound).1 column member

theorem validate_filter {program : Calc} {predicate : Expr} (filtered : program.filter = some predicate) :
    predicate.validate program.input = .ok () :=
  ((check_eq_ok.1 program.sound).2 predicate filtered).1

end Calc

end LookupJoin
