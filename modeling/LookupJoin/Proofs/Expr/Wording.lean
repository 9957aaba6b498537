import LookupJoin.Expr.Text
import LookupJoin.Proofs.Expr.Reference
import LookupJoin.Proofs.Pairing
/-!
Expressions in the names of fields. A reference is told by the name of the field it points at, so a reference
beyond the row cannot be told at all. Main statement: an expression is told exactly when each of its references
lies in the row, and then by the text that displays it.
-/
namespace LookupJoin.Expr

/-- Texts one after the other, with the separator between them. -/
inductive Joined (separator : String) : List String → String → Prop
  | none : Joined separator [] ""
  | one (text : String) : Joined separator [text] text
  | more (first : String) {second : String} {rest : List String} {text : String}
      (joined : Joined separator (second :: rest) text) :
    Joined separator (first :: second :: rest) (first ++ separator ++ text)

inductive Between : Operator → String → Prop
  | eq : Between .eq "="
  | notEq : Between .notEq "<>"
  | lt : Between .lt "<"
  | ltEq : Between .ltEq "<="
  | gt : Between .gt ">"
  | gtEq : Between .gtEq ">="
  | and : Between .and "AND"
  | or : Between .or "OR"
  | like : Between .like "LIKE"

inductive Before : Operator → String → Prop
  | not : Before .not "NOT"
  | cast : Before .cast "CAST"
  | passThrough : Before .passThrough "IDENTITY"
  | function (name : String) : Before (.function name) name

/-- The text tells the expression, each reference by the name of a field of the row. A cast of one operand names its
type. -/
inductive Told (row : Schema) : Expr → String → Prop
  | ref {index : Nat} (type : DataType) {field : Field} (found : row[index]? = some field) :
    Told row (.ref index type) field.name
  | lit (value : Scalar) (type : DataType) : Told row (.lit value type) value.sql
  | between {op : Operator} {sign : String} {operands : List Expr} {texts : List String} {text : String}
      (type : DataType) (between : Between op sign) (told : List.Forall₂ (Told row) operands texts)
      (joined : Joined (" " ++ sign ++ " ") texts text) :
    Told row (.call op operands type) ("(" ++ text ++ ")")
  | before {op : Operator} {name : String} {operands : List Expr} {texts : List String} {text : String}
      (type : DataType) (before : Before op name) (several : op = .cast → operands.length ≠ 1)
      (told : List.Forall₂ (Told row) operands texts) (joined : Joined ", " texts text) :
    Told row (.call op operands type) (name ++ "(" ++ text ++ ")")
  | cast {operand : Expr} {text : String} (type : DataType) (told : Told row operand text) :
    Told row (.call .cast [operand] type) ("CAST(" ++ text ++ " AS " ++ type.name ++ ")")

theorem joined_iff {separator text : String} {texts : List String} :
    Joined separator texts text ↔ text = separator.intercalate texts := by
  constructor
  · intro joined
    induction joined with
    | none => rw [String.intercalate_nil]
    | one text => rw [String.intercalate_singleton]
    | more first _ ih => rw [String.intercalate_cons_cons, ih]
  · intro same
    subst same
    match texts with
    | [] => exact String.intercalate_nil ▸ .none
    | [text] => exact String.intercalate_singleton ▸ .one text
    | first :: second :: rest =>
      exact String.intercalate_cons_cons ▸ .more first (joined_iff.2 rfl)

theorem between_symbol {op : Operator} {sign : String} (between : Between op sign) : sign = op.symbol := by
  cases between <;> rfl

theorem before_symbol {op : Operator} {name : String} (before : Before op name) : name = op.symbol := by
  cases before <;> rfl

theorem applicationText_cases (op : Operator) (texts : List String) (type : DataType) :
    (Between op op.symbol ∧ applicationText op texts type = infixText op texts) ∨
      (Before op op.symbol ∧ (op = .cast → texts.length ≠ 1) ∧ applicationText op texts type = callText op texts) ∨
        ∃ text, op = .cast ∧ texts = [text] ∧
          applicationText op texts type = "CAST(" ++ text ++ " AS " ++ type.name ++ ")" := by
  cases op with
  | eq => exact .inl ⟨.eq, rfl⟩
  | notEq => exact .inl ⟨.notEq, rfl⟩
  | lt => exact .inl ⟨.lt, rfl⟩
  | ltEq => exact .inl ⟨.ltEq, rfl⟩
  | gt => exact .inl ⟨.gt, rfl⟩
  | gtEq => exact .inl ⟨.gtEq, rfl⟩
  | and => exact .inl ⟨.and, rfl⟩
  | or => exact .inl ⟨.or, rfl⟩
  | like => exact .inl ⟨.like, rfl⟩
  | not => exact .inr (.inl ⟨.not, by simp, rfl⟩)
  | passThrough => exact .inr (.inl ⟨.passThrough, by simp, rfl⟩)
  | function name => exact .inr (.inl ⟨.function name, by simp, rfl⟩)
  | cast =>
    match texts with
    | [] => exact .inr (.inl ⟨.cast, by simp, rfl⟩)
    | [text] => exact .inr (.inr ⟨text, rfl, rfl, rfl⟩)
    | first :: second :: rest => exact .inr (.inl ⟨.cast, by simp, rfl⟩)

theorem nameAt_of_found {row : Schema} {index : Nat} {field : Field} (found : row[index]? = some field) :
    row.nameAt index = field.name := by
  rw [Schema.nameAt, found, Option.map_some, Option.getD_some]

theorem told_ref_iff {row : Schema} {index : Nat} {type : DataType} {text : String} :
    Told row (.ref index type) text ↔ index < row.length ∧ text = row.nameAt index := by
  constructor
  · intro told
    cases told with
    | ref _ found => exact ⟨(List.getElem?_eq_some_iff.1 found).1, (nameAt_of_found found).symm⟩
  · intro parts
    obtain ⟨inside, rfl⟩ := parts
    have found := List.getElem?_eq_getElem inside
    exact nameAt_of_found found ▸ .ref type found

theorem renderAll_eq (name : Nat → String) (operands : List Expr) :
    renderAll name operands = operands.map (render name) := by
  induction operands with
  | nil => rfl
  | cons operand rest ih => simp only [renderAll, List.map_cons, ih]

theorem display_call (row : Schema) (op : Operator) (operands : List Expr) (type : DataType) :
    display row (.call op operands type) = applicationText op (operands.map (display row)) type := by
  rw [display, render, renderAll_eq]
  rfl

theorem told_call {row : Schema} {op : Operator} {operands : List Expr} {texts : List String} (type : DataType)
    (told : List.Forall₂ (Told row) operands texts) :
    Told row (.call op operands type) (applicationText op texts type) := by
  rcases applicationText_cases op texts type with ⟨between, same⟩ | ⟨before, several, same⟩ | ⟨text, rfl, rfl, same⟩
  · rw [same]
    exact .between type between told (joined_iff.2 rfl)
  · rw [same]
    exact .before type before (told.length_eq ▸ several) told (joined_iff.2 rfl)
  · rw [same]
    obtain ⟨operand, _, first, none, rfl⟩ := List.forall₂_cons_right_iff.1 told
    cases none
    exact .cast type first

theorem exists_told_operands {row : Schema} {op : Operator} {operands : List Expr} {type : DataType} {text : String}
    (told : Told row (.call op operands type) text) :
    ∃ texts, List.Forall₂ (Told row) operands texts ∧ text = applicationText op texts type := by
  cases told with
  | @between _ sign _ texts _ _ between told joined =>
    refine ⟨texts, told, ?_⟩
    cases between_symbol between
    cases joined_iff.1 joined
    rcases applicationText_cases op texts type with ⟨_, same⟩ | ⟨before, _⟩ | ⟨_, rfl, _⟩
    · exact same.symm
    · cases between <;> cases before
    · cases between
  | @before _ name _ texts _ _ before several told joined =>
    refine ⟨texts, told, ?_⟩
    cases before_symbol before
    cases joined_iff.1 joined
    rcases applicationText_cases op texts type with ⟨between, _⟩ | ⟨_, _, same⟩ | ⟨_, rfl, rfl, _⟩
    · cases between <;> cases before
    · exact same.symm
    · exact absurd told.length_eq (several rfl)
  | @cast operand text _ told => exact ⟨[text], .cons told .nil, rfl⟩

theorem told_iff {row : Schema} {expr : Expr} {text : String} :
    expr.Told row text ↔ (∀ ref ∈ expr.refs, ref.1 < row.length) ∧ text = expr.display row := by
  induction expr using induct generalizing text with
  | ref index type =>
    rw [told_ref_iff]
    simp [refs, display, render]
  | lit value type =>
    constructor
    · intro told
      cases told
      exact ⟨by simp [refs], rfl⟩
    · intro parts
      obtain ⟨_, rfl⟩ := parts
      exact .lit value type
  | call op operands type ih =>
    have inside : (∀ ref ∈ refs (.call op operands type), ref.1 < row.length) ↔
        ∀ operand ∈ operands, ∀ ref ∈ operand.refs, ref.1 < row.length := by
      rw [refs_call, List.forall_mem_flatMap]
    -- By induction the texts of the operands are determined, and with them their list.
    have each (texts : List String) : List.Forall₂ (Told row) operands texts ↔
        (∀ operand ∈ operands, ∀ ref ∈ operand.refs, ref.1 < row.length) ∧ texts = operands.map (display row) :=
      forall₂_map_iff fun operand member _ => ih operand member
    rw [inside, display_call]
    constructor
    · intro told
      obtain ⟨texts, apart, rfl⟩ := exists_told_operands told
      obtain ⟨inside, rfl⟩ := (each texts).1 apart
      exact ⟨inside, rfl⟩
    · intro parts
      obtain ⟨inside, rfl⟩ := parts
      exact told_call type ((each _).2 ⟨inside, rfl⟩)

end LookupJoin.Expr
