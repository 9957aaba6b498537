import LookupJoin.DataType.Castable
import LookupJoin.Proofs.DataType.Widening
import LookupJoin.Proofs.Expr.Construction
/-!
Casts between interoperable types. There is one unless byte strings do not fit: those of one fixed size are not
cast to another size, nor views to any. Main statement: under every rule that casts as the library documents, an
expression is cast to a type that its own is interoperable with exactly when the two are not byte strings that do
not fit, nor lists with such byte strings at the bottom.
-/
namespace LookupJoin

/-- What the library documents of its casts, between types of one family and between lists. -/
structure CastRule.Documented (casts : CastRule) : Prop where
  same : ∀ type, casts type type = true
  texts : ∀ layout layout', casts (.flat (.text layout)) (.flat (.text layout')) = true
  bytes : ∀ layout layout', casts (.flat (.binary layout)) (.flat (.binary layout')) = true
  fromSized : ∀ size layout, casts (.flat (.fixedSizeBinary size)) (.flat (.binary layout)) = true
  toSized : ∀ layout size, layout ≠ .view → casts (.flat (.binary layout)) (.flat (.fixedSizeBinary size)) = true
  viewToSized : ∀ size, casts (.flat (.binary .view)) (.flat (.fixedSizeBinary size)) = false
  resized : ∀ size size', size ≠ size' →
    casts (.flat (.fixedSizeBinary size)) (.flat (.fixedSizeBinary size')) = false
  integers : ∀ signed width signed' width', casts (.flat (.int signed width)) (.flat (.int signed' width')) = true
  floats : ∀ width width', casts (.flat (.float width)) (.flat (.float width')) = true
  decimals : ∀ width precision scale width' precision' scale',
    casts (.flat (.decimal width precision scale)) (.flat (.decimal width' precision' scale')) = true
  days : casts (.flat .date32) (.flat .date64) = true
  milliseconds : casts (.flat .date64) (.flat .date32) = true
  timestamps : ∀ unit zone unit' zone', casts (.flat (.timestamp unit zone)) (.flat (.timestamp unit' zone')) = true
  lists : ∀ large item item', casts (.list large item) (.list large item') = casts item.type item'.type

namespace FlatType

/-- Byte strings that are not cast to those of the fixed size. -/
inductive Misfit : FlatType → FlatType → Prop
  | size {size size' : Int} (different : size ≠ size') : Misfit (.fixedSizeBinary size) (.fixedSizeBinary size')
  | view (size : Int) : Misfit (.binary .view) (.fixedSizeBinary size)

variable {casts : CastRule} {source target : FlatType}

theorem Misfit.casts_eq_false (misfit : source.Misfit target) (documented : casts.Documented) :
    casts (.flat source) (.flat target) = false := by
  cases misfit with
  | size different => exact documented.resized _ _ different
  | view size => exact documented.viewToSized size

theorem casts_or_misfit (documented : casts.Documented) (widens : source.widens target = true) :
    casts (.flat source) (.flat target) = true ∨ source.Misfit target := by
  -- A type widens within its family only.
  cases source <;> cases target <;> simp only [FlatType.widens, Bool.false_eq_true] at widens
  case text.text => exact .inl (documented.texts _ _)
  case binary.binary => exact .inl (documented.bytes _ _)
  case binary.fixedSizeBinary layout size =>
    by_cases view : layout = .view
    · exact .inr (view ▸ .view size)
    · exact .inl (documented.toSized layout size view)
  case fixedSizeBinary.binary => exact .inl (documented.fromSized _ _)
  case fixedSizeBinary.fixedSizeBinary size size' =>
    by_cases same : size = size'
    · exact .inl (same ▸ documented.same _)
    · exact .inr (.size same)
  case int.int => exact .inl (documented.integers _ _ _ _)
  case float.float => exact .inl (documented.floats _ _)
  case decimal.decimal => exact .inl (documented.decimals _ _ _ _ _ _)
  case date32.date32 => exact .inl (documented.same _)
  case date32.date64 => exact .inl documented.days
  case date64.date32 => exact .inl documented.milliseconds
  case date64.date64 => exact .inl (documented.same _)
  case timestamp.timestamp => exact .inl (documented.timestamps _ _ _ _)

end FlatType

namespace DataType

/-- Byte strings that do not fit, or lists of them. -/
inductive Misfit : DataType → DataType → Prop
  | flat {source target : FlatType} (bytes : source.Misfit target) : Misfit (.flat source) (.flat target)
  | list {large : Bool} {item item' : Field} (items : Misfit item.type item'.type) :
      Misfit (.list large item) (.list large item')

variable {casts : CastRule} {source target : DataType}

theorem Misfit.casts_eq_false (misfit : Misfit source target) (documented : casts.Documented) :
    casts source target = false := by
  induction misfit with
  | flat bytes => exact bytes.casts_eq_false documented
  | list _ ih => exact (documented.lists _ _ _).trans ih

theorem Interoperable.casts_or_misfit (steps : Interoperable source target) (documented : casts.Documented) :
    casts source target = true ∨ Misfit source target := by
  induction steps with
  | same type => exact .inl (documented.same type)
  | flat widens => exact (FlatType.casts_or_misfit documented widens).imp_right .flat
  | list _ ih =>
    rcases ih with casts | misfit
    · exact .inl ((documented.lists _ _ _).trans casts)
    · exact .inr (.list misfit)

theorem Interoperable.casts_iff (steps : Interoperable source target) (documented : casts.Documented) :
    casts source target = true ↔ ¬Misfit source target := by
  constructor
  · intro castable misfit
    rw [misfit.casts_eq_false documented] at castable
    cases castable
  · intro fits
    exact (steps.casts_or_misfit documented).resolve_right fits

theorem castable_flat_eq_false {source target : FlatType} (different : source ≠ target)
    (uncastable : source.castable target = false) : (flat source).castable (.flat target) = false := by
  refine Bool.eq_false_iff.2 fun cast => ?_
  rcases castable_flat.1 cast with same | castable
  · exact different same
  · exact Bool.false_ne_true (uncastable.symm.trans castable)

theorem documented_castable : CastRule.Documented castable where
  same := castable_self
  texts := fun layout layout' => castable_flat.2 (.inr rfl)
  bytes := fun layout layout' => castable_flat.2 (.inr (by cases layout <;> rfl))
  fromSized := fun size layout => castable_flat.2 (.inr rfl)
  toSized := fun layout size sized => by
    cases layout with
    | view => exact absurd rfl sized
    | standard => exact castable_flat.2 (.inr rfl)
    | large => exact castable_flat.2 (.inr rfl)
  viewToSized := fun size => castable_flat_eq_false (by simp) rfl
  resized := fun size size' different => castable_flat_eq_false (by simpa using different) rfl
  integers := fun signed width signed' width' => castable_flat.2 (.inr rfl)
  floats := fun width width' => castable_flat.2 (.inr (by cases width <;> rfl))
  decimals := fun width precision scale width' precision' scale' => castable_flat.2 (.inr rfl)
  days := castable_flat.2 (.inr rfl)
  milliseconds := castable_flat.2 (.inr rfl)
  timestamps := fun unit zone unit' zone' => castable_flat.2 (.inr rfl)
  lists := fun large item item' => castable_list

end DataType

namespace Expr

variable {casts : CastRule}

theorem exists_castTo_iff_not_misfit (documented : casts.Documented) {operand : Expr} {target : DataType}
    (interoperable : operand.type.interoperable target = true) :
    (∃ expr, operand.castTo casts target = .ok expr) ↔ ¬DataType.Misfit operand.type target := by
  rw [← (DataType.interoperable_iff.1 interoperable).casts_iff documented]
  constructor
  · intro cast
    obtain ⟨expr, made⟩ := cast
    exact (castTo_eq_ok.1 made).1
  · intro castable
    exact ⟨_, castTo_eq_ok.2 ⟨castable, rfl⟩⟩

def digests (bytes : FlatType) : DataType := .list false ⟨"digest", .flat bytes, true, []⟩

theorem exists_castTo_digests :
    CastRule.Documented DataType.castable ∧
      (Expr.ref 0 (digests (.fixedSizeBinary 16))).type.interoperable (digests (.binary .view)) = true ∧
        (∃ expr, (Expr.ref 0 (digests (.fixedSizeBinary 16))).castTo DataType.castable (digests (.binary .view)) =
          .ok expr) ∧ ¬DataType.Misfit (digests (.fixedSizeBinary 16)) (digests (.binary .view)) := by
  have documented := DataType.documented_castable
  have interoperable :
      (Expr.ref 0 (digests (.fixedSizeBinary 16))).type.interoperable (digests (.binary .view)) = true := by decide
  have fits : ¬DataType.Misfit (digests (.fixedSizeBinary 16)) (digests (.binary .view)) := by
    intro misfit
    cases misfit with
    | list items =>
      cases items with
      | flat bytes => cases bytes
  exact ⟨documented, interoperable, (exists_castTo_iff_not_misfit documented interoperable).2 fits, fits⟩

/-- Four bytes count as interoperable with sixteen, and cannot be cast to them. -/
theorem castTo_other_size :
    (DataType.flat (.fixedSizeBinary 4)).interoperable (.flat (.fixedSizeBinary 16)) = true ∧
      (Expr.ref 0 (.flat (.fixedSizeBinary 4))).castTo DataType.castable (.flat (.fixedSizeBinary 16)) =
        .error (.malformed (.uncastable (.flat (.fixedSizeBinary 4)) (.flat (.fixedSizeBinary 16)))) := by
  have misfit : DataType.Misfit (.flat (.fixedSizeBinary 4)) (.flat (.fixedSizeBinary 16)) :=
    .flat (.size (by decide))
  have uncastable := misfit.casts_eq_false DataType.documented_castable
  exact ⟨by decide, if_neg (Bool.eq_false_iff.1 uncastable)⟩

end Expr

end LookupJoin
