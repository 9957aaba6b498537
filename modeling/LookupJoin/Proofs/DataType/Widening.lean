import LookupJoin.DataType.Interoperable
/-!
Widening of types, followed down to the items of lists. A type is interoperable with itself, a flat type with
those it widens to, and a list with lists of its kind as its items are. Main statements: interoperability is a
preorder on the types; and two types that one type is interoperable with can be compared, unless they are lists
that part ways, with numbers at the bottom that do not widen to each other.
-/
namespace LookupJoin

namespace FlatType

theorem intWidens_trans {first second third : Bool} {width width' width'' : IntWidth}
    (step : intWidens first width second width' = true)
    (next : intWidens second width' third width'' = true) : intWidens first width third width'' = true := by
  cases first <;> cases second <;> cases third <;> simp [intWidens] at step next ⊢ <;> omega

theorem decimalWidens_trans {precision precision' precision'' : UInt8} {scale scale' scale'' : Int8}
    (step : decimalWidens precision scale precision' scale' = true)
    (next : decimalWidens precision' scale' precision'' scale'' = true) :
    decimalWidens precision scale precision'' scale'' = true := by
  simp only [decimalWidens, Bool.and_eq_true, decide_eq_true_eq] at step next ⊢
  have places : scale ≤ scale'' := Int8.le_trans step.1 next.1
  have digits : wholeDigits precision scale ≤ wholeDigits precision'' scale'' := Int16.le_trans step.2 next.2
  exact ⟨places, digits⟩

variable {first second third : FlatType}

theorem widens_trans (step : first.widens second = true) (next : second.widens third = true) :
    first.widens third = true := by
  -- A type widens within its family only, so all three are of one family.
  cases first <;> cases second <;> simp only [widens, Bool.false_eq_true] at step <;>
    cases third <;> simp only [widens, Bool.false_eq_true] at next ⊢
  case int.int.int => exact intWidens_trans step next
  case float.float.float =>
    simp only [decide_eq_true_eq] at step next ⊢
    exact Nat.le_trans step next
  case decimal.decimal.decimal => exact decimalWidens_trans step next
  case timestamp.timestamp.timestamp =>
    simp only [decide_eq_true_eq] at step next ⊢
    exact step.trans next

theorem widens_or_isNumeric (left : first.widens second = true) (right : first.widens third = true) :
    second.widens third = true ∨ second.isNumeric = true ∧ third.isNumeric = true := by
  cases first <;> cases second <;> simp only [widens, Bool.false_eq_true] at left <;>
    cases third <;> simp only [widens, Bool.false_eq_true] at right
  case timestamp.timestamp.timestamp =>
    simp only [decide_eq_true_eq] at left right
    exact .inl (decide_eq_true (left.symm.trans right))
  all_goals simp [widens, isNumeric, isInt, isFloat, isDecimal]

end FlatType

namespace DataType

/-- The steps that make one type interoperable with another. -/
inductive Interoperable : DataType → DataType → Prop
  | same (type : DataType) : Interoperable type type
  | flat {source target : FlatType} (widens : source.widens target = true) :
      Interoperable (.flat source) (.flat target)
  | list {large : Bool} {item item' : Field} (items : Interoperable item.type item'.type) :
      Interoperable (.list large item) (.list large item')

variable {source target raw left right : DataType}

theorem Interoperable.of_widens (widens : source.widens target = true) : Interoperable source target := by
  fun_induction DataType.widens source target with
  | case1 source target => exact .flat widens
  | case2 large _ source _ _ large' _ target _ _ ih =>
    simp only [Bool.and_eq_true, Bool.or_eq_true, decide_eq_true_eq] at widens
    obtain ⟨rfl, same | wider⟩ := widens
    · subst same
      exact .list (.same source)
    · exact .list (ih wider)
  | case3 => cases widens

theorem interoperable_iff : source.interoperable target = true ↔ Interoperable source target := by
  constructor
  · intro passes
    rw [interoperable, Bool.or_eq_true, decide_eq_true_eq] at passes
    rcases passes with rfl | widens
    · exact .same source
    · exact .of_widens widens
  · intro steps
    induction steps with
    | same type => exact interoperable_self type
    | flat widens => simp [interoperable, DataType.widens, widens]
    | list items ih =>
      rw [interoperable] at ih
      simp [interoperable, DataType.widens, ih]

theorem comparable_iff :
    left.comparable right = true ↔
      (left.isNull = true ∨ right.isNull = true) ∨ (left.isNumeric = true ∧ right.isNumeric = true) ∨
        Interoperable left right ∨ Interoperable right left := by
  simp only [comparable, Bool.or_eq_true, Bool.and_eq_true, decide_eq_true_eq, interoperable_iff, or_assoc]
  constructor
  · rintro (rfl | rest)
    · exact .inr (.inr (.inr (.inl (.same left))))
    · exact rest
  · exact .inr

theorem Interoperable.trans {first second third : DataType} (step : Interoperable first second)
    (next : Interoperable second third) : Interoperable first third := by
  induction step generalizing third with
  | same type => exact next
  | flat widens =>
    cases next with
    | same => exact .flat widens
    | flat widens' => exact .flat (FlatType.widens_trans widens widens')
  | list items ih =>
    cases next with
    | same => exact .list items
    | list items' => exact .list (ih items')

theorem interoperable_preorder :
    (∀ type : DataType, type.interoperable type = true) ∧
      ∀ first second third : DataType, first.interoperable second = true →
        second.interoperable third = true → first.interoperable third = true := by
  refine ⟨interoperable_self, ?_⟩
  intro first second third step next
  have steps : Interoperable first third := (interoperable_iff.1 step).trans (interoperable_iff.1 next)
  exact interoperable_iff.2 steps

def amounts (width : DecimalWidth) (precision : UInt8) (scale : Int8) : DataType :=
  .list true ⟨"row", .list false ⟨"item", .flat (.decimal width precision scale), scale < 0, []⟩, false, []⟩

theorem interoperable_amounts :
    (amounts .w128 4 (-2)).interoperable (amounts .w256 6 0) = true ∧
      (amounts .w256 6 0).interoperable (amounts .w128 9 3) = true ∧
        (amounts .w128 4 (-2)).interoperable (amounts .w128 9 3) = true := by
  have step : (amounts .w128 4 (-2)).interoperable (amounts .w256 6 0) = true := by decide
  have next : (amounts .w256 6 0).interoperable (amounts .w128 9 3) = true := by decide
  exact ⟨step, next, interoperable_preorder.2 _ _ _ step next⟩

theorem Interoperable.items {large large' : Bool} {item item' : Field}
    (lists : Interoperable (.list large item) (.list large' item')) : Interoperable item.type item'.type := by
  cases lists with
  | same => exact .same item.type
  | list items => exact items

/-- Lists that one list is interoperable with, but that are not with each other: lists of numbers, or of lists
that part in the same way. -/
inductive Parted : DataType → DataType → DataType → Prop
  | numbers {large : Bool} {item item' item'' : Field}
      (left : Interoperable item.type item'.type) (right : Interoperable item.type item''.type)
      (numeric : item'.type.isNumeric = true ∧ item''.type.isNumeric = true)
      (neither : ¬Interoperable item'.type item''.type ∧ ¬Interoperable item''.type item'.type) :
      Parted (.list large item) (.list large item') (.list large item'')
  | nested {large : Bool} {item item' item'' : Field} (items : Parted item.type item'.type item''.type) :
      Parted (.list large item) (.list large item') (.list large item'')

theorem Parted.not_interoperable (parted : Parted raw left right) :
    ¬Interoperable left right ∧ ¬Interoperable right left := by
  induction parted with
  | numbers _ _ _ neither => exact ⟨fun lists => neither.1 lists.items, fun lists => neither.2 lists.items⟩
  | nested _ ih => exact ⟨fun lists => ih.1 lists.items, fun lists => ih.2 lists.items⟩

theorem Parted.not_comparable (parted : Parted raw left right) : ¬left.comparable right = true := by
  rw [comparable_iff]
  rintro ((null | null) | numeric | forth | back)
  · cases parted <;> cases null
  · cases parted <;> cases null
  · cases parted <;> cases numeric.1
  · exact parted.not_interoperable.1 forth
  · exact parted.not_interoperable.2 back

theorem Interoperable.numeric_or_parted (forth : Interoperable raw left) (forth' : Interoperable raw right) :
    (Interoperable left right ∨ Interoperable right left) ∨
      (left.isNumeric = true ∧ right.isNumeric = true) ∨ Parted raw left right := by
  induction forth generalizing right with
  | same type => exact .inl (.inl forth')
  | flat widens =>
    cases forth' with
    | same => exact .inl (.inr (.flat widens))
    | flat widens' =>
      rcases FlatType.widens_or_isNumeric widens widens' with wider | numeric
      · exact .inl (.inl (.flat wider))
      · exact .inr (.inl numeric)
  | @list large item item' items ih =>
    cases forth' with
    | same => exact .inl (.inr (.list items))
    | @list _ _ item'' items' =>
      -- Neither list widens to the other exactly when neither item does; then the items part, or they are numbers.
      by_cases wider : Interoperable item'.type item''.type
      · exact .inl (.inl (.list wider))
      by_cases narrower : Interoperable item''.type item'.type
      · exact .inl (.inr (.list narrower))
      rcases ih items' with either | numeric | parted
      · exact absurd either (not_or.2 ⟨wider, narrower⟩)
      · exact .inr (.inr (.numbers items items' numeric ⟨wider, narrower⟩))
      · exact .inr (.inr (.nested parted))

/-- Of two types that one type is interoperable with, only parted lists cannot be compared. -/
theorem comparable_iff_not_parted (forth : Interoperable raw left) (forth' : Interoperable raw right) :
    left.comparable right = true ↔ ¬Parted raw left right := by
  constructor
  · intro comparable parted
    exact parted.not_comparable comparable
  · intro together
    rw [comparable_iff]
    rcases forth.numeric_or_parted forth' with either | numeric | parted
    · exact .inr (.inr either)
    · exact .inr (.inl numeric)
    · exact absurd parted together

end DataType

end LookupJoin
