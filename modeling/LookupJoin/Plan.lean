import LookupJoin.AsyncOptions
import LookupJoin.Catalog
import LookupJoin.LogicalPlan
import LookupJoin.LookupKey.Analysis
import LookupJoin.PrimaryKey
import LookupJoin.Residual
/-!
Lookup joins, asked for and planned. `JoinInput` holds all a join is made from. `JoinInput.accept` checks it
and gives the condition left over; a `JoinPlan` is an input that was accepted, together with that condition,
and everything else about the plan follows from the input.
-/
namespace LookupJoin

structure JoinInput where
  driving : Schema
  table : LookupTable
  program : Option Calc := none
  joinType : JoinType
  info : JoinInfo
  hint : Option JoinHint := none
  settings : Settings := default
  insertOnly : Bool := true

namespace JoinInput

def lookupSide (input : JoinInput) : Schema :=
  match input.program with
  | some program => program.output
  | none => input.table.schema

def keys (input : JoinInput) : LookupKeys := .analyze input.info.pairs input.program

def row (input : JoinInput) : Schema := input.joinType.joinedRow input.driving input.lookupSide

def checkCapability (input : JoinInput) : Except Error Unit :=
  if input.table.capability.lookup then .ok () else .error (.lookupNotSupported input.table.name)

/-- A calculation runs over the very fields of the table. -/
def checkProgram (input : JoinInput) : Except Error Unit :=
  match input.program with
  | none => .ok ()
  | some program =>
    if input.table.schema.length ≠ program.input.length then
      .error (.fieldCount input.table.schema.length program.input.length)
    else if program.input ≠ input.table.schema then .error (.calcInput input.table.name)
    else .ok ()

def checkHint (input : JoinInput) : Except Error Unit :=
  match input.hint.bind JoinHint.table with
  | some hinted =>
    if hinted = input.table.name then .ok ()
    else .error (.invalidHint (.otherTable hinted input.table.name))
  | none => .ok ()

def checkPair (input : JoinInput) (pair : JoinPair) : Except Error Unit :=
  if input.driving.length ≤ pair.source then
    .error (.indexOutOfRange .joinKeySource pair.source input.driving.length)
  else if input.lookupSide.length ≤ pair.target then
    .error (.indexOutOfRange .joinKeyTarget pair.target input.lookupSide.length)
  else .ok ()

/-- Checks the input and gives the condition left over. -/
def accept (input : JoinInput) : Except Error (Option Expr) := do
  input.checkCapability
  input.checkProgram
  input.checkHint
  input.info.pairs.forM input.checkPair
  let residual ← input.info.residual input.keys input.driving.length input.row
  input.info.conditions.forM (Expr.validatePredicate input.row .conditionNotBoolean)
  return residual

def ofLogical (driving : Schema) (side : LogicalPlan) (joinType : JoinType) (info : JoinInfo)
    (catalog : Catalog) : Except Error JoinInput :=
  match side.lookupSource? with
  | none => .error (.unsupportedShape side.name)
  | some (program, name) => do
    let table ← catalog.resolve name
    return { driving, table, program, joinType, info }

end JoinInput

structure JoinPlan where
  input : JoinInput
  residual : Option Expr
  accepted : input.accept = .ok residual

namespace JoinPlan

def build (input : JoinInput) : Except Error JoinPlan :=
  match accepted : input.accept with
  | .ok residual => .ok ⟨input, residual, accepted⟩
  | .error fault => .error fault

def ofLogical (driving : Schema) (side : LogicalPlan) (joinType : JoinType) (info : JoinInfo)
    (hint : Option JoinHint) (catalog : Catalog) : Except Error JoinPlan := do
  let input ← JoinInput.ofLogical driving side joinType info catalog
  build { input with hint }

def withDriving (plan : JoinPlan) (driving : Schema) : Except Error JoinPlan :=
  build { plan.input with driving }

def table (plan : JoinPlan) : LookupTable := plan.input.table

def keys (plan : JoinPlan) : LookupKeys := plan.input.keys

def row (plan : JoinPlan) : Schema := plan.input.row

def asyncOptions (plan : JoinPlan) : AsyncOptions :=
  .resolve plan.input.hint plan.input.settings.asyncLookup plan.table.capability plan.input.insertOnly

def retry? (plan : JoinPlan) : Option Retry := plan.input.hint.bind JoinHint.retry

def primaryKey (plan : JoinPlan) : Except Error (Option (List Nat)) :=
  PrimaryKey.outputIndices plan.table.name plan.table.primaryKey plan.table.schema plan.input.program

def coversPrimaryKey (plan : JoinPlan) : Except Error Bool :=
  plan.primaryKey.map (PrimaryKey.covered plan.keys)

end JoinPlan

end LookupJoin
