import LookupJoin.Proofs.Settings.Library
import LookupJoin.Settings.Documents
/-!
The library of documents in files and of variables. Main statement: it stores values and reads sources as documented.
-/
namespace LookupJoin.Settings

variable {entries members : Value.Entries}

theorem folded_groupName : Text.folded groupName = groupName := by decide +kernel

theorem folded_name (setting : Setting) : Text.folded setting.name = setting.name := by
  cases setting <;> decide +kernel

theorem store_eq_put {key : String} {value : Value} (single : value.table? = none) :
    store key value entries = Value.put (Text.folded key) value entries := by
  cases value with
  | table members => cases single
  | _ => simp [store]

theorem under?_table (entries : Value.Entries) (key : String) :
    documents.under? (.table entries) key = entries.lookup key := rfl

theorem under?_eq_lookup (data : Value) (key : String) : documents.under? data key = (entriesOf data).lookup key := by
  cases data <;> rfl

/-- Only the entry at the root of the path changes. -/
theorem exists_storePath_eq_put (path : Path) (value data : Value) :
    ∃ held, storePath path value data = .table (Value.put (Text.folded path.root) held (entriesOf data)) := by
  obtain ⟨root, steps⟩ := path
  cases steps with
  | nil =>
    show ∃ held, Value.table (store root value (entriesOf data)) = _
    cases value with
    | table incoming => exact ⟨_, by rw [store]⟩
    | _ => exact ⟨_, by rw [store_eq_put rfl]⟩
  | cons step rest => exact ⟨_, rfl⟩

theorem under?_storePath (path : Path) (value data : Value) {key : String} (elsewhere : Text.folded path.root ≠ key) :
    documents.under? (storePath path value data) key = documents.under? data key := by
  obtain ⟨held, put⟩ := exists_storePath_eq_put path value data
  rw [put, under?_table, Value.lookup_put, if_neg (Ne.symm elsewhere), under?_eq_lookup]

theorem storePath_key {group name : String} {value : Value} (data : Value) (folded : Text.folded group = group)
    (single : value.table? = none) :
    storePath ⟨group, [.key name]⟩ value data =
      .table (Value.put group (.table (Value.put (Text.folded name) value
        (entriesOf (((entriesOf data).lookup group).getD .null)))) (entriesOf data)) := by
  show Value.table (Value.put (Text.folded group) (.table (store name value
    (entriesOf (member group (entriesOf data) .null)))) (entriesOf data)) = _
  rw [store_eq_put single, member, folded]

theorem nested?_eq_lookup (data : Value) (group name : String) :
    documents.nested? data group name = (entriesOf (((entriesOf data).lookup group).getD .null)).lookup name := by
  rw [Reader.nested?, under?_eq_lookup]
  cases (entriesOf data).lookup group with
  | none => rfl
  | some inner => exact under?_eq_lookup inner name

/-- A single value is stored under two keys, and nothing beside it changes. -/
theorem nested?_storePath {group name : String} {value : Value} (data : Value) (folded : Text.folded group = group)
    (folded' : Text.folded name = name) (single : value.table? = none) (other : String) :
    documents.nested? (storePath ⟨group, [.key name]⟩ value data) group other =
      if other = name then some value else documents.nested? data group other := by
  rw [storePath_key data folded single, folded', Reader.nested?, under?_table, Value.lookup_put, if_pos rfl,
    Option.bind_some, under?_table, Value.lookup_put, nested?_eq_lookup]

theorem grouped_put (group : String) (members entries : Value.Entries) :
    documents.Grouped (.table (Value.put group (.table members) entries)) group := by
  intro inner present
  rw [under?_table, Value.lookup_put, if_pos rfl, Option.some.injEq] at present
  rw [← present]
  rfl

/-- Members with keys in small letters are stored as they are; of several with one key the first stays. -/
theorem lookup_storeAll {name : String} (folded : ∀ member ∈ members, Text.folded member.1 = member.1)
    (single : ∀ inner, members.lookup name = some inner → inner.table? = none) :
    (entriesOf (storeAll members (.table []))).lookup name = members.lookup name := by
  induction members with
  | nil => rfl
  | cons member rest ih =>
    obtain ⟨key, value⟩ := member
    obtain ⟨here, later⟩ := List.forall_mem_cons.1 folded
    rw [Value.lookup_cons_eq] at single ⊢
    show (store key value (entriesOf (storeAll rest (.table [])))).lookup name = _
    by_cases same : name = key
    · simp only [if_pos same] at single ⊢
      -- The first member is stored last, over any other of its key.
      rw [store_eq_put (single value rfl), here, Value.lookup_put, if_pos same]
    · simp only [if_neg same] at single ⊢
      obtain ⟨held, put⟩ := exists_storePath_eq_put ⟨key, []⟩ value (.table (entriesOf (storeAll rest (.table []))))
      have stored : store key value (entriesOf (storeAll rest (.table []))) =
          Value.put (Text.folded key) held (entriesOf (storeAll rest (.table []))) := Value.table.inj put
      rw [stored, here, Value.lookup_put, if_neg same, ih later single]

theorem exists_storeAll_eq_table (members : Value.Entries) : ∃ inner, storeAll members (.table []) = .table inner := by
  cases members with
  | nil => exact ⟨[], rfl⟩
  | cons member rest => exact ⟨_, rfl⟩

theorem storePath_table {key : String} {data : Value} (fresh : documents.under? data (Text.folded key) = none) :
    storePath ⟨key, []⟩ (.table members) data =
      .table (Value.put (Text.folded key) (storeAll members (.table [])) (entriesOf data)) := by
  rw [under?_eq_lookup] at fresh
  show Value.table (store key (.table members) (entriesOf data)) = _
  rw [store, member, fresh, Option.getD_none]

theorem table_storePath {key : String} {data : Value} (fresh : documents.under? data (Text.folded key) = none)
    (folded : ∀ name, (members.lookup name).isSome → Text.folded name = name) :
    documents.Grouped (storePath ⟨key, []⟩ (.table members) data) (Text.folded key) ∧
      ∀ name, (∀ inner, members.lookup name = some inner → inner.table? = none) →
        documents.nested? (storePath ⟨key, []⟩ (.table members) data) (Text.folded key) name = members.lookup name := by
  obtain ⟨stored, same⟩ := exists_storeAll_eq_table members
  have keys : ∀ member ∈ members, Text.folded member.1 = member.1 := by
    intro member inside
    refine folded member.1 (Option.isSome_iff_ne_none.2 fun absent => ?_)
    simpa using List.lookup_eq_none_iff.1 absent member inside
  rw [storePath_table fresh, same]
  refine ⟨grouped_put _ _ _, fun name single => ?_⟩
  calc documents.nested? (.table (Value.put (Text.folded key) (.table stored) (entriesOf data))) (Text.folded key) name
      = documents.under? (.table stored) name := by
        rw [Reader.nested?, under?_table, Value.lookup_put, if_pos rfl, Option.bind_some]
    _ = (entriesOf (storeAll members (.table []))).lookup name := by rw [same, under?_eq_lookup]
    _ = members.lookup name := lookup_storeAll keys single

theorem table?_parse (naming : Naming) (text : String) : (Documents.parse naming text).table? = none := by
  unfold Documents.parse
  split
  · split <;> rfl
  · rfl

theorem documented_documents : documents.Documented where
  empty := rfl
  root := fun path value data _ => by
    obtain ⟨held, put⟩ := exists_storePath_eq_put path value data
    show (storePath path value data).table?.isSome
    rw [put]
    rfl
  elsewhere := fun path value data key elsewhere => under?_storePath path value data elsewhere
  single := fun group name value data folded folded' single _ _ =>
    (nested?_storePath data folded folded' single name).trans (if_pos rfl)
  beside := fun group name value data other folded folded' different single _ _ =>
    (nested?_storePath data folded folded' single other).trans (if_neg different)
  within := fun group name value data folded single _ _ => by
    show documents.Grouped (storePath ⟨group, [.key name]⟩ value data) group
    rw [storePath_key data folded single]
    exact grouped_put group _ _
  table := fun key value data members _ fresh table folded => by
    cases value with
    | table inner =>
      cases table
      exact table_storePath fresh folded
    | _ => cases table
  environment := fun world naming => rfl
  unmarked := fun naming name unmarked => by
    show Documents.pathOf? naming name = none
    rw [Documents.pathOf?, unmarked]
    rfl
  leads := fun setting => by cases setting <;> decide +kernel
  parsed := table?_parse
  located := fun world name path required located => by
    show Documents.file? _ _ _ = Documents.file? _ _ _
    rw [show Documents.locate world.files name = some path from located]
  unrelated := fun environment other files path required => rfl

end LookupJoin.Settings
