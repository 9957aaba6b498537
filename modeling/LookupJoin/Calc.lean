import LookupJoin.Expr.Build
/-!
Calculations on the rows of a table: named columns and an optional filter, all of them read over the raw
row. A calculation exists only when its references fit the row and its filter is boolean; the row it puts
out follows from its columns.
-/
namespace LookupJoin

namespace Calc

def check (input : Schema) (columns : List (Expr × String)) (filter : Option Expr) : Except Error Unit := do
  columns.forM fun column => column.1.validate input
  filter.forM (Expr.validatePredicate input .filterNotBoolean)

end Calc

structure Calc where
  input : Schema
  columns : List (Expr × String)
  filter : Option Expr
  sound : Calc.check input columns filter = .ok ()

namespace Calc

def build (input : Schema) (columns : List (Expr × String)) (filter : Option Expr) : Except Error Calc :=
  match sound : check input columns filter with
  | .ok () => .ok ⟨input, columns, filter, sound⟩
  | .error fault => .error fault

def forwarded (input : Schema) : List (Expr × String) :=
  input.zipIdx.map fun (field, index) => (.ref index field.type, field.name)

def identity (input : Schema) (filter : Option Expr) : Except Error Calc :=
  build input (forwarded input) filter

def projections (program : Calc) : List Expr := program.columns.map Prod.fst

def projection? (program : Calc) (ordinal : Nat) : Option Expr := program.projections[ordinal]?

def outputField (input : Schema) (column : Expr × String) : Field :=
  ⟨column.2, column.1.type, column.1.nullable input, []⟩

/-- The row a calculation puts out. Metadata is not carried over. -/
def output (program : Calc) : Schema := program.columns.map (outputField program.input)

@[simp] theorem length_output (program : Calc) : program.output.length = program.projections.length := by
  simp [output, projections]

theorem build_eq_ok_iff {input : Schema} {columns : List (Expr × String)} {filter : Option Expr} {program : Calc} :
    build input columns filter = .ok program ↔
      check input columns filter = .ok () ∧ program.input = input ∧ program.columns = columns ∧
        program.filter = filter := by
  unfold build
  split
  case h_1 sound =>
    constructor
    · intro built
      cases built
      exact ⟨sound, rfl, rfl, rfl⟩
    · rintro ⟨_, rfl, rfl, rfl⟩
      rfl
  case h_2 fault failed => simp [failed]

end Calc

end LookupJoin
