/-!
The types of columns and expressions. A type is flat, or it is built from other types: lists,
structures, unions, maps, dictionaries and run-length encodings. A field gives a type a name, says
whether it may be null, and may carry metadata. Types are compared by structure, names, nullability and
metadata of the fields inside them included.
-/
namespace LookupJoin

inductive TimeUnit where
  | second | millisecond | microsecond | nanosecond
deriving DecidableEq, Repr

inductive IntervalUnit where
  | yearMonth | dayTime | monthDayNano
deriving DecidableEq, Repr

inductive IntWidth where
  | w8 | w16 | w32 | w64
deriving DecidableEq, Repr

def IntWidth.bits : IntWidth → Nat
  | .w8 => 8
  | .w16 => 16
  | .w32 => 32
  | .w64 => 64

inductive FloatWidth where
  | half | single | double
deriving DecidableEq, Repr

def FloatWidth.bits : FloatWidth → Nat
  | .half => 16
  | .single => 32
  | .double => 64

inductive DecimalWidth where
  | w128 | w256
deriving DecidableEq, Repr

inductive Layout where
  | standard | large | view
deriving DecidableEq, Repr

inductive FlatType where
  | null
  | boolean
  | int (signed : Bool) (width : IntWidth)
  | float (width : FloatWidth)
  | decimal (width : DecimalWidth) (precision : UInt8) (scale : Int8)
  | text (layout : Layout)
  | binary (layout : Layout)
  | fixedSizeBinary (size : Int)
  | date32
  | date64
  | time32 (unit : TimeUnit)
  | time64 (unit : TimeUnit)
  | timestamp (unit : TimeUnit) (zone : Option String)
  | duration (unit : TimeUnit)
  | interval (unit : IntervalUnit)
deriving DecidableEq, Repr

/-- A named member of a row or of a nested type. Metadata stands in the order of its keys. -/
structure FieldOf (τ : Type) where
  name : String
  type : τ
  nullable : Bool
  metadata : List (String × String) := []
deriving DecidableEq, Repr

/-- `list` and `listView` differ in layout only; each comes with short and with long offsets. Each member
of a union has a tag; in a sparse union every member has a value in every row. -/
inductive DataType where
  | flat (type : FlatType)
  | list (large : Bool) (item : FieldOf DataType)
  | listView (large : Bool) (item : FieldOf DataType)
  | fixedSizeList (item : FieldOf DataType) (size : Int)
  | struct (fields : List (FieldOf DataType))
  | union (members : List (Int8 × FieldOf DataType)) (sparse : Bool)
  | map (entries : FieldOf DataType) (sorted : Bool)
  | dictionary (key value : DataType)
  | runEndEncoded (runEnds values : FieldOf DataType)

abbrev Field := FieldOf DataType

abbrev Schema := List Field

namespace DataType

instance : Inhabited DataType := ⟨.flat .null⟩

mutual

def beq : DataType → DataType → Bool
  | .flat s, .flat t => s = t
  | .list l x, .list l' y => l = l' && beqField x y
  | .listView l x, .listView l' y => l = l' && beqField x y
  | .fixedSizeList x k, .fixedSizeList y k' => beqField x y && k = k'
  | .struct xs, .struct ys => beqFields xs ys
  | .union xs k, .union ys k' => beqMembers xs ys && k = k'
  | .map x k, .map y k' => beqField x y && k = k'
  | .dictionary k v, .dictionary k' v' => k.beq k' && v.beq v'
  | .runEndEncoded x₁ x₂, .runEndEncoded y₁ y₂ => beqField x₁ y₁ && beqField x₂ y₂
  | _, _ => false
termination_by structural s => s

def beqField : FieldOf DataType → FieldOf DataType → Bool
  | ⟨name, s, nullable, metadata⟩, ⟨name', t, nullable', metadata'⟩ =>
    name = name' && s.beq t && nullable = nullable' && metadata = metadata'
termination_by structural x => x

def beqFields : List (FieldOf DataType) → List (FieldOf DataType) → Bool
  | [], [] => true
  | x :: xs, y :: ys => beqField x y && beqFields xs ys
  | _, _ => false
termination_by structural xs => xs

def beqMember : Int8 × FieldOf DataType → Int8 × FieldOf DataType → Bool
  | (tag, x), (tag', y) => tag = tag' && beqField x y
termination_by structural x => x

def beqMembers : List (Int8 × FieldOf DataType) → List (Int8 × FieldOf DataType) → Bool
  | [], [] => true
  | x :: xs, y :: ys => beqMember x y && beqMembers xs ys
  | _, _ => false
termination_by structural xs => xs

end

mutual

theorem eq_of_beq (s t : DataType) (same : s.beq t = true) : s = t := by
  match s with
  | .flat s =>
    cases t with
    | flat t => simpa [beq] using same
    | _ => simp [beq] at same
  | .list l x =>
    cases t with
    | list l' y =>
      simp only [beq, Bool.and_eq_true, decide_eq_true_eq] at same
      rw [same.1, eq_of_beqField x y same.2]
    | _ => simp [beq] at same
  | .listView l x =>
    cases t with
    | listView l' y =>
      simp only [beq, Bool.and_eq_true, decide_eq_true_eq] at same
      rw [same.1, eq_of_beqField x y same.2]
    | _ => simp [beq] at same
  | .fixedSizeList x k =>
    cases t with
    | fixedSizeList y k' =>
      simp only [beq, Bool.and_eq_true, decide_eq_true_eq] at same
      rw [same.2, eq_of_beqField x y same.1]
    | _ => simp [beq] at same
  | .struct xs =>
    cases t with
    | struct ys => rw [eq_of_beqFields xs ys (by simpa [beq] using same)]
    | _ => simp [beq] at same
  | .union xs k =>
    cases t with
    | union ys k' =>
      simp only [beq, Bool.and_eq_true, decide_eq_true_eq] at same
      rw [same.2, eq_of_beqMembers xs ys same.1]
    | _ => simp [beq] at same
  | .map x k =>
    cases t with
    | map y k' =>
      simp only [beq, Bool.and_eq_true, decide_eq_true_eq] at same
      rw [same.2, eq_of_beqField x y same.1]
    | _ => simp [beq] at same
  | .dictionary k v =>
    cases t with
    | dictionary k' v' =>
      simp only [beq, Bool.and_eq_true] at same
      rw [eq_of_beq k k' same.1, eq_of_beq v v' same.2]
    | _ => simp [beq] at same
  | .runEndEncoded x₁ x₂ =>
    cases t with
    | runEndEncoded y₁ y₂ =>
      simp only [beq, Bool.and_eq_true] at same
      rw [eq_of_beqField x₁ y₁ same.1, eq_of_beqField x₂ y₂ same.2]
    | _ => simp [beq] at same

theorem eq_of_beqField (x y : FieldOf DataType) (same : beqField x y = true) : x = y := by
  match x, y with
  | ⟨_, s, _, _⟩, ⟨_, t, _, _⟩ =>
    simp only [beqField, Bool.and_eq_true, decide_eq_true_eq] at same
    rw [same.1.1.1, eq_of_beq s t same.1.1.2, same.1.2, same.2]

theorem eq_of_beqFields (xs ys : List (FieldOf DataType)) (same : beqFields xs ys = true) :
    xs = ys := by
  match xs, ys with
  | [], [] => rfl
  | x :: xs, y :: ys =>
    simp only [beqFields, Bool.and_eq_true] at same
    rw [eq_of_beqField x y same.1, eq_of_beqFields xs ys same.2]
  | [], _ :: _ | _ :: _, [] => simp [beqFields] at same

theorem eq_of_beqMembers (xs ys : List (Int8 × FieldOf DataType)) (same : beqMembers xs ys = true) :
    xs = ys := by
  match xs, ys with
  | [], [] => rfl
  | (_, x) :: xs, (_, y) :: ys =>
    simp only [beqMembers, beqMember, Bool.and_eq_true, decide_eq_true_eq] at same
    rw [same.1.1, eq_of_beqField x y same.1.2, eq_of_beqMembers xs ys same.2]
  | [], _ :: _ | _ :: _, [] => simp [beqMembers] at same

end

mutual

theorem beq_self (t : DataType) : t.beq t = true := by
  match t with
  | .flat _ => simp [beq]
  | .list _ x | .listView _ x | .fixedSizeList x _ | .map x _ => simp [beq, beqField_self x]
  | .struct fields => simp [beq, beqFields_self fields]
  | .union members _ => simp [beq, beqMembers_self members]
  | .dictionary k v => simp [beq, beq_self k, beq_self v]
  | .runEndEncoded x y => simp [beq, beqField_self x, beqField_self y]

theorem beqField_self (x : FieldOf DataType) : beqField x x = true := by
  match x with
  | ⟨_, t, _, _⟩ => simp [beqField, beq_self t]

theorem beqFields_self (fields : List (FieldOf DataType)) : beqFields fields fields = true := by
  match fields with
  | [] => rfl
  | x :: rest => simp [beqFields, beqField_self x, beqFields_self rest]

theorem beqMembers_self (members : List (Int8 × FieldOf DataType)) : beqMembers members members = true := by
  match members with
  | [] => rfl
  | (_, x) :: rest => simp [beqMembers, beqMember, beqField_self x, beqMembers_self rest]

end

instance : DecidableEq DataType := fun s t =>
  if same : s.beq t then .isTrue (eq_of_beq s t same)
  else .isFalse fun equal => same (equal ▸ beq_self s)

@[match_pattern] abbrev null : DataType := .flat .null
@[match_pattern] abbrev boolean : DataType := .flat .boolean
@[match_pattern] abbrev int32 : DataType := .flat (.int true .w32)
@[match_pattern] abbrev int64 : DataType := .flat (.int true .w64)
@[match_pattern] abbrev utf8 : DataType := .flat (.text .standard)

end DataType

end LookupJoin
