import LookupJoin.DataType.Interoperable
/-!
The rule of casts by which the program runs. Between flat types a table decides; a dictionary casts as its
values do, a list to a list as their elements do, a single value to a list of it, and structures and maps part
by part.
-/
namespace LookupJoin

namespace FlatType

def isPrimitive : FlatType → Bool
  | .int _ _ | .float _ | .decimal _ _ _ | .date32 | .date64 | .time32 _ | .time64 _ | .timestamp _ _
  | .duration _ | .interval _ => true
  | _ => false

def shortTime : TimeUnit → Bool
  | .second | .millisecond => true
  | .microsecond | .nanosecond => false

def isHalf : FlatType → Bool
  | .float .half => true
  | _ => false

def castableFromText : FlatType → Bool
  | .boolean | .text _ | .binary _ | .date32 | .date64 | .timestamp _ _ | .interval _ | .decimal _ _ _ => true
  | .time32 unit => shortTime unit
  | .time64 unit => !shortTime unit
  | target => target.isNumeric && !target.isHalf

def castableFromBinary : Layout → FlatType → Bool
  | _, .binary _ | _, .text _ => true
  | .view, .fixedSizeBinary _ => false
  | _, .fixedSizeBinary _ => true
  | _, _ => false

def castableFromNumber : FlatType → FlatType → Bool
  | .int _ _, .binary .standard | .int _ _, .binary .large => true
  | .int true .w32, .date32 | .int true .w32, .date64 | .int true .w32, .time32 _ => true
  | .int true .w64, .date32 | .int true .w64, .date64 | .int true .w64, .time64 _ => true
  | .int true .w32, .interval .yearMonth => true
  | _, .timestamp _ _ | _, .duration _ => true
  | _, _ => false

def castableFromTime : FlatType → FlatType → Bool
  | .date32, .int true .w32 | .date32, .int true .w64 => true
  | .date64, .int true .w32 | .date64, .int true .w64 => true
  | .date32, .date64 | .date64, .date32 => true
  | .date32, .timestamp _ _ | .date64, .timestamp _ _ => true
  | .time32 _, .int true .w32 | .time64 _, .int true .w64 => true
  | .time32 _, .time32 _ | .time32 _, .time64 _ | .time64 _, .time64 _ => true
  | .time64 _, .time32 unit => shortTime unit
  | .timestamp _ _, .timestamp _ _ | .timestamp _ _, .date32 | .timestamp _ _, .date64 => true
  | .timestamp _ _, .time32 unit => shortTime unit
  | .timestamp _ _, .time64 unit => !shortTime unit
  | .timestamp _ _, target => target.isNumeric
  | .duration _, .duration _ | .duration _, .interval .monthDayNano => true
  | .duration _, target => target.isNumeric
  | .interval .monthDayNano, .duration _ => true
  | .interval .yearMonth, .int true .w64 | .interval .dayTime, .int true .w64 => true
  | .interval .yearMonth, .interval .monthDayNano | .interval .dayTime, .interval .monthDayNano => true
  | _, _ => false

/-- Decimals and half-precision floats do not cast to each other; other numbers all do. -/
def numbersCast (source target : FlatType) : Bool :=
  !(source.isDecimal && target.isHalf) && !(source.isHalf && target.isDecimal)

def castable (source target : FlatType) : Bool :=
  match source, target with
  | .null, target => !target.isHalf
  | .decimal _ _ _, .null => true
  | .boolean, target => target.isInt || target.isFloat || target.isText
  | .text _, target => castableFromText target
  | .binary layout, target => castableFromBinary layout target
  | .fixedSizeBinary _, .binary _ => true
  | .fixedSizeBinary _, _ => false
  | source, .boolean => source.isInt || source.isFloat
  | source, .text .view => source.isNumeric
  | source, .text _ => source.isPrimitive
  | source, target =>
    if source.isNumeric then
      if target.isNumeric then numbersCast source target else castableFromNumber source target
    else castableFromTime source target

end FlatType

namespace DataType

/-- What a null casts to: everything but half-precision floats, views of lists, unions and run lengths. -/
def acceptsNull : DataType → Bool
  | .flat target => FlatType.castable .null target
  | .listView _ _ | .union _ _ | .runEndEncoded _ _ => false
  | _ => true

mutual

def castable (source target : DataType) : Bool :=
  if source = target then true
  else
    match source, target with
    | .flat .null, target => target.acceptsNull
    | .dictionary _ s, .dictionary _ t => castable s t
    | .dictionary _ s, target => castable s target
    | source, .dictionary _ t => castable source t
    | .list _ ⟨_, s, _, _⟩, .list _ ⟨_, t, _, _⟩ => castable s t
    | .list _ ⟨_, s, _, _⟩, .flat (.text .standard) => castable s (.flat (.text .standard))
    | .list _ ⟨_, s, _, _⟩, .flat (.text .large) => castable s (.flat (.text .large))
    | .fixedSizeList ⟨_, s, _, _⟩ _, .list _ ⟨_, t, _, _⟩ => castable s t
    | .list _ ⟨_, s, _, _⟩, .fixedSizeList ⟨_, t, _, _⟩ _ => castable s t
    | source, .list _ ⟨_, t, _, _⟩ => castable source t
    | .fixedSizeList ⟨n, s, b, m⟩ size, .fixedSizeList ⟨n', t, b', m'⟩ size' =>
      if size = size' then castable s t
      else if size' = 1 then castable (.fixedSizeList ⟨n, s, b, m⟩ size) t
      else if size = 1 then castable s (.fixedSizeList ⟨n', t, b', m'⟩ size')
      else false
    | source, .fixedSizeList ⟨_, t, _, _⟩ size => if size = 1 then castable source t else false
    | .fixedSizeList ⟨_, s, _, _⟩ size, target => if size = 1 then castable s target else false
    | .map entries sorted, .map entries' sorted' =>
      match entries, entries' with
      | ⟨_, .struct (⟨_, key, _, _⟩ :: ⟨_, value, _, _⟩ :: _), _, _⟩,
        ⟨_, .struct (⟨_, key', _, _⟩ :: ⟨_, value', _, _⟩ :: _), _, _⟩ =>
        sorted = sorted' && castable key key' && castable value value'
      | _, _ => false
    | .struct sources, .struct targets => castableFields sources targets
    | .flat s, .flat t => s.castable t
    | _, _ => false
termination_by sizeOf source + sizeOf target

def castableFields (sources targets : List Field) : Bool :=
  match sources, targets with
  | [], [] => true
  | ⟨_, s, _, _⟩ :: sources, ⟨_, t, _, _⟩ :: targets => castable s t && castableFields sources targets
  | _, _ => false
termination_by sizeOf sources + sizeOf targets

end

theorem castable_self (type : DataType) : type.castable type = true := by
  unfold castable
  rw [if_pos rfl]

theorem castable_flat {source target : FlatType} :
    (flat source).castable (.flat target) = true ↔ source = target ∨ source.castable target = true := by
  unfold castable
  split
  next same => simp [flat.inj same]
  next different =>
    have distinct : source ≠ target := fun same => different (congrArg flat same)
    cases source <;> simp [distinct, acceptsNull]

theorem castable_list {large large' : Bool} {item item' : Field} :
    (list large item).castable (.list large' item') = item.type.castable item'.type := by
  by_cases same : list large item = .list large' item'
  · cases same
    rw [castable_self, castable_self]
  · conv => lhs; unfold castable
    rw [if_neg same]

end DataType

end LookupJoin
