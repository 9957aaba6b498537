import LookupJoin.Proofs.Execution
import LookupJoin.Proofs.Plan.KeyFit
/-!
When a plan is made ready, and what is made of it. A plan is refused for want of a key, for a key whose driving field
and column have types that cannot stand for each other, and, in streaming mode alone, for a primary key that names no
column of the table. Main statement: these are all the reasons, the keys come before the primary key, of several keys
that do not fit the one on the least column is reported, and what is made of any other plan is what the plan holds.
-/
namespace LookupJoin

section

variable {keys : LookupKeys} {before after : LookupKeys.Entries} {entry other : Nat × LookupKey}

theorem LookupKeys.lt_of_mem_before (split : keys.entries = before ++ entry :: after) (member : other ∈ before) :
    other.1 < entry.1 := by
  have ascending := keys.ascending
  rw [split, Ascending, List.map_append, List.pairwise_append] at ascending
  exact ascending.2.2 _ (List.mem_map_of_mem member) _ List.mem_cons_self

theorem LookupKeys.mem_before_or_le (split : keys.entries = before ++ entry :: after)
    (member : other ∈ keys.entries) : other ∈ before ∨ entry.1 ≤ other.1 := by
  have ascending := keys.ascending
  rw [split, Ascending, List.map_append, List.pairwise_append, List.map_cons, List.pairwise_cons] at ascending
  rw [split, List.mem_append, List.mem_cons] at member
  rcases member with earlier | rfl | later
  · exact .inl earlier
  · exact .inr (Nat.le_refl _)
  · exact .inr (Nat.le_of_lt (ascending.2.1.1 _ (List.mem_map_of_mem later)))

end

namespace JoinPlan

def Keyless (plan : JoinPlan) : Prop := ∀ column, plan.keys.get? column = none

/-- The column is looked up by the driving field, and of their types neither can stand for the other. -/
structure Misfit (plan : JoinPlan) (column : Nat) (target field : Field) : Prop where
  key : ∃ source, plan.keys.get? column = some (.field source) ∧ plan.input.driving[source]? = some field
  present : plan.table.schema[column]? = some target
  apart : field.type.interoperable target.type = false ∧ target.type.interoperable field.type = false

def NamesUnknown (plan : JoinPlan) : Prop :=
  ∃ columns ∈ plan.table.primaryKey, ∃ name ∈ columns, ¬PrimaryKey.Named plan.table.schema name

/-- Why a plan is not made ready, with what is reported. -/
inductive Refusal (plan : JoinPlan) : ExecutionMode → Error → Prop
  | keyless {mode : ExecutionMode} (none : plan.Keyless) : Refusal plan mode (.noLookupKey plan.table.name)
  | misfit {mode : ExecutionMode} {column : Nat} {target field : Field} (found : plan.Misfit column target field)
      (least : ∀ other target' field', plan.Misfit other target' field' → column ≤ other) :
      Refusal plan mode (.keyTypes target.name plan.table.name target.type field.name field.type)
  | unknown {columns : List String} {name : String} (keyed : ¬plan.Keyless)
      (fits : ∀ column target field, ¬plan.Misfit column target field)
      (declared : plan.table.primaryKey = some columns)
      (first : PrimaryKey.FirstUnknown plan.table.schema columns name) :
      Refusal plan .streaming (.unknownColumn plan.table.name name)

/-- What an execution has from its plan. -/
structure Supplies (plan : JoinPlan) (mode : ExecutionMode) (made : Execution) : Prop where
  keys : made.keys = plan.keys
  residual : made.residual = plan.residual
  row : made.row = plan.row
  projection : made.projection = plan.input.program.map Calc.projections
  filter : made.filter = plan.input.program.bind Calc.filter
  coverage : mode = .streaming → plan.coversPrimaryKey = .ok made.coversPrimaryKey
  upsert : mode = .streaming →
    (made.upsert = true ↔ plan.input.insertOnly = false ∧ made.coversPrimaryKey = false)

variable {plan : JoinPlan} {mode : ExecutionMode} {fault : Error} {made : Execution} {column : Nat}

theorem keyless_iff : plan.Keyless ↔ plan.keys.entries = [] := by
  constructor
  · intro keyless
    refine List.eq_nil_iff_forall_not_mem.2 fun entry member => ?_
    have found : plan.keys.get? entry.1 = some entry.2 := LookupKeys.get?_eq_some_iff.2 member
    rw [keyless] at found
    cases found
  · intro none column
    rw [LookupKeys.get?, none, LookupKeys.find]

theorem checkKey_eq_error_iff {key : LookupKey} (found : plan.keys.get? column = some key) :
    plan.checkKey (column, key) = .error fault ↔
      ∃ target field, plan.Misfit column target field ∧
        fault = .keyTypes target.name plan.table.name target.type field.name field.type := by
  constructor
  · intro refused
    obtain ⟨source, target, field, rfl, present, driving, apart, same⟩ := checkKey_eq_error (keyFits_of_get? found) refused
    exact ⟨target, field, ⟨⟨source, found, driving⟩, present, Bool.or_eq_false_iff.1 apart⟩, same⟩
  · intro misfit
    obtain ⟨target, field, ⟨⟨source, found', driving⟩, present, apart⟩, rfl⟩ := misfit
    cases Option.some.inj (found.symm.trans found')
    simp [checkKey, driving, present, compatible, apart]

theorem checkKey_eq_ok_iff {key : LookupKey} (found : plan.keys.get? column = some key) :
    plan.checkKey (column, key) = .ok () ↔ ∀ target field, ¬plan.Misfit column target field := by
  constructor
  · intro passed target field misfit
    have refused := (checkKey_eq_error_iff found).2 ⟨target, field, misfit, rfl⟩
    rw [passed] at refused
    cases refused
  · intro fits
    cases checked : plan.checkKey (column, key) with
    | ok passed => rfl
    | error fault =>
      obtain ⟨target, field, misfit, _⟩ := (checkKey_eq_error_iff found).1 checked
      exact absurd misfit (fits target field)

theorem checkKeys_eq_ok_iff :
    plan.checkKeys = .ok () ↔ ¬plan.Keyless ∧ ∀ column target field, ¬plan.Misfit column target field := by
  rw [checkKeys_eq_ok, keyless_iff]
  refine and_congr_right fun _ => ?_
  constructor
  · intro passed column target field misfit
    obtain ⟨source, found, _⟩ := misfit.key
    exact (checkKey_eq_ok_iff found).1 (passed _ (LookupKeys.get?_eq_some_iff.1 found)) target field misfit
  · intro fits entry member
    exact (checkKey_eq_ok_iff (LookupKeys.get?_eq_some_iff.2 member)).2 (fits entry.1)

/-- The keys are gone through from the least column on, so the first that does not fit is on the least one. -/
theorem forM_checkKey_eq_error :
    plan.keys.entries.forM plan.checkKey = .error fault ↔
      ∃ column target field, plan.Misfit column target field ∧
        (∀ other target' field', plan.Misfit other target' field' → column ≤ other) ∧
          fault = .keyTypes target.name plan.table.name target.type field.name field.type := by
  rw [Outcome.forM_eq_error_iff]
  constructor
  · intro failed
    obtain ⟨before, ⟨column, key⟩, after, split, passed, refused⟩ := failed
    have found : plan.keys.get? column = some key := LookupKeys.get?_eq_some_iff.2 (split ▸ List.mem_append_cons_self)
    obtain ⟨target, field, misfit, same⟩ := (checkKey_eq_error_iff found).1 refused
    refine ⟨column, target, field, misfit, fun other target' field' misfit' => ?_, same⟩
    obtain ⟨source, found', _⟩ := misfit'.key
    rcases LookupKeys.mem_before_or_le split (LookupKeys.get?_eq_some_iff.1 found') with earlier | inside
    · exact absurd misfit' ((checkKey_eq_ok_iff found').1 (passed _ earlier) target' field')
    · exact inside
  · intro misfits
    obtain ⟨column, target, field, misfit, least, rfl⟩ := misfits
    obtain ⟨source, found, _⟩ := misfit.key
    obtain ⟨before, after, split⟩ := List.append_of_mem (LookupKeys.get?_eq_some_iff.1 found)
    refine ⟨before, _, after, split, fun earlier member => ?_, (checkKey_eq_error_iff found).2 ⟨_, _, misfit, rfl⟩⟩
    have found' : plan.keys.get? earlier.1 = some earlier.2 :=
      LookupKeys.get?_eq_some_iff.2 (split ▸ List.mem_append_left _ member)
    refine (checkKey_eq_ok_iff found').2 fun target' field' misfit' => ?_
    exact absurd (least _ _ _ misfit') (Nat.not_le.2 (LookupKeys.lt_of_mem_before split member))

theorem checkKeys_eq_error :
    plan.checkKeys = .error fault ↔
      plan.Keyless ∧ fault = .noLookupKey plan.table.name ∨
        ∃ column target field, plan.Misfit column target field ∧
          (∀ other target' field', plan.Misfit other target' field' → column ≤ other) ∧
            fault = .keyTypes target.name plan.table.name target.type field.name field.type := by
  rw [← forM_checkKey_eq_error, keyless_iff, checkKeys]
  by_cases none : plan.keys.entries = []
  · simp [none, pure, Except.pure, eq_comm]
  · simp [none]

theorem finish_eq_error :
    plan.finish mode = .error fault ↔
      mode = .streaming ∧ ∃ columns ∈ plan.table.primaryKey, ∃ name,
        PrimaryKey.FirstUnknown plan.table.schema columns name ∧ fault = .unknownColumn plan.table.name name := by
  cases mode with
  | batch => simp [finish]
  | streaming => simp [finish, coversPrimaryKey, primaryKey, Outcome.map_eq_error, PrimaryKey.outputIndices_eq_error]

theorem execution_eq_error_iff : plan.execution mode = .error fault ↔ plan.Refusal mode fault := by
  rw [execution_eq, Outcome.bind_eq_error, checkKeys_eq_error]
  constructor
  · intro failed
    rcases failed with (⟨none, rfl⟩ | ⟨column, target, field, misfit, least, rfl⟩) | ⟨_, passed, finishing⟩
    · exact .keyless none
    · exact .misfit misfit least
    · obtain ⟨keyed, fits⟩ := checkKeys_eq_ok_iff.1 passed
      obtain ⟨rfl, columns, declared, name, first, rfl⟩ := finish_eq_error.1 finishing
      exact .unknown keyed fits declared first
  · intro refusal
    cases refusal with
    | keyless none => exact .inl (.inl ⟨none, rfl⟩)
    | misfit found least => exact .inl (.inr ⟨_, _, _, found, least, rfl⟩)
    | unknown keyed fits declared first =>
      exact .inr ⟨(), checkKeys_eq_ok_iff.2 ⟨keyed, fits⟩, finish_eq_error.2 ⟨rfl, _, declared, _, first, rfl⟩⟩

theorem supplies_of_execution (executed : plan.execution mode = .ok made) : plan.Supplies mode made := by
  obtain ⟨_, finished⟩ := execution_eq_ok.1 executed
  cases mode with
  | batch =>
    cases finished
    exact ⟨rfl, rfl, rfl, rfl, rfl, nofun, nofun⟩
  | streaming =>
    obtain ⟨covered, tested, rfl⟩ := Outcome.map_eq_ok.1 finished
    refine ⟨rfl, rfl, rfl, rfl, rfl, fun _ => tested, fun _ => ?_⟩
    simp [executionWith, PrimaryKey.upsertRequired]

theorem exists_refusal_iff :
    (∃ fault, plan.Refusal mode fault) ↔
      plan.Keyless ∨ (∃ column target field, plan.Misfit column target field) ∨
        mode = .streaming ∧ plan.NamesUnknown := by
  constructor
  · intro refused
    obtain ⟨fault, refusal⟩ := refused
    cases refusal with
    | keyless none => exact .inl none
    | misfit found _ => exact .inr (.inl ⟨_, _, _, found⟩)
    | unknown _ _ declared first =>
      obtain ⟨name, member, absent⟩ := PrimaryKey.exists_firstUnknown_iff.1 ⟨_, first⟩
      exact .inr (.inr ⟨rfl, _, declared, name, member, absent⟩)
  · intro reasons
    -- The reason at hand may be hidden by one that comes before it, but then that one is reported.
    simp only [← execution_eq_error_iff]
    cases executed : plan.execution mode with
    | error fault => exact ⟨fault, rfl⟩
    | ok made =>
      obtain ⟨passed, finished⟩ := execution_eq_ok.1 executed
      obtain ⟨keyed, fits⟩ := checkKeys_eq_ok_iff.1 passed
      rcases reasons with none | ⟨column, target, field, misfit⟩ | ⟨rfl, columns, declared, unknown⟩
      · exact absurd none keyed
      · exact absurd misfit (fits column target field)
      · obtain ⟨name, first⟩ := PrimaryKey.exists_firstUnknown_iff.2 unknown
        have failed := finish_eq_error.2 ⟨rfl, columns, declared, name, first, rfl⟩
        rw [finished] at failed
        cases failed

theorem execution_refused_iff (plan : JoinPlan) (mode : ExecutionMode) :
    ((∃ fault, plan.execution mode = .error fault) ↔
      plan.Keyless ∨ (∃ column target field, plan.Misfit column target field) ∨
        mode = .streaming ∧ plan.NamesUnknown) ∧
      (∀ fault, plan.execution mode = .error fault ↔ plan.Refusal mode fault) ∧
        ∀ made, plan.execution mode = .ok made → plan.Supplies mode made := by
  have refused : ∀ fault, plan.execution mode = .error fault ↔ plan.Refusal mode fault :=
    fun _ => execution_eq_error_iff
  refine ⟨?_, refused, fun made => supplies_of_execution⟩
  simp only [refused, exists_refusal_iff]

def strayKey : JoinPlan where
  input := {
    driving := [⟨"a", .int32, true, []⟩]
    table := ⟨"D", [⟨"id", .int64, false, []⟩, ⟨"name", .utf8, true, []⟩], some ["id", "uid"], ⟨true, true⟩⟩
    joinType := .leftOuter
    info := ⟨[⟨0, 0⟩], []⟩
    insertOnly := false }
  residual := none
  accepted := rfl

theorem execution_strayKey_refused :
    (∃ made, strayKey.execution .batch = .ok made ∧ strayKey.Supplies .batch made) ∧
      strayKey.execution .streaming = .error (.unknownColumn "D" "uid") ∧
        strayKey.Refusal .streaming (.unknownColumn "D" "uid") ∧ ¬strayKey.Keyless ∧
          (∀ column target field, ¬strayKey.Misfit column target field) ∧ strayKey.NamesUnknown := by
  have batch : strayKey.execution .batch = .ok _ := rfl
  have streaming : strayKey.execution .streaming = .error (.unknownColumn "D" "uid") := rfl
  obtain ⟨refused, exactly, _⟩ := execution_refused_iff strayKey .streaming
  obtain ⟨refused', _, supplies⟩ := execution_refused_iff strayKey .batch
  -- In batch mode there is no reason to refuse it, which leaves the primary key for streaming mode.
  have ready : ¬(strayKey.Keyless ∨ (∃ column target field, strayKey.Misfit column target field) ∨
      ExecutionMode.batch = .streaming ∧ strayKey.NamesUnknown) := by
    rw [← refused', batch]
    simp
  have keyed : ¬strayKey.Keyless := fun none => ready (.inl none)
  have fits : ∀ column target field, ¬strayKey.Misfit column target field :=
    fun column target field misfit => ready (.inr (.inl ⟨column, target, field, misfit⟩))
  refine ⟨⟨_, batch, supplies _ batch⟩, streaming, (exactly _).1 streaming, keyed, fits, ?_⟩
  rcases refused.1 ⟨_, streaming⟩ with none | ⟨column, target, field, misfit⟩ | ⟨_, unknown⟩
  · exact absurd none keyed
  · exact absurd misfit (fits column target field)
  · exact unknown

end JoinPlan

end LookupJoin
