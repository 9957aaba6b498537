import LookupJoin.Proofs.Settings.Setting
/-!
What is assumed of the library that reads sources and stores their values. A value is stored at its path alone: what
stands elsewhere stays, and a single value takes the place of what stood at the path. The environment is read variable
by variable, from the names of one family to paths.
-/
namespace LookupJoin.Settings

def Setting.variableName : Setting → String
  | bufferCapacity => "FLOE_PLANNER__ASYNC_LOOKUP__BUFFER_CAPACITY"
  | timeoutMs => "FLOE_PLANNER__ASYNC_LOOKUP__TIMEOUT_MS"
  | outputMode => "FLOE_PLANNER__ASYNC_LOOKUP__OUTPUT_MODE"
  | preferAsync => "FLOE_PLANNER__ASYNC_LOOKUP__PREFER_ASYNC"

def Setting.path (setting : Setting) : Path := ⟨groupName, [.key setting.name]⟩

/-- What the library documents. Keys are compared in small letters. -/
structure Library.Documented {Files Data : Type} (library : Library Files Data) : Prop where
  -- Settings start from a table without members, and they stay a table.
  empty : library.table? library.empty = some fun _ => none
  root : ∀ path value data, (library.table? data).isSome → (library.table? (library.store path value data)).isSome
  -- A value is stored at its path alone; a single one takes the place of what stood there.
  elsewhere : ∀ path value data key, Text.folded path.root ≠ key →
    library.under? (library.store path value data) key = library.under? data key
  single : ∀ group name value data, Text.folded group = group → Text.folded name = name →
    library.table? value = none → (library.table? data).isSome → library.Grouped data group →
      library.nested? (library.store ⟨group, [.key name]⟩ value data) group name = some value
  beside : ∀ group name value data other, Text.folded group = group → Text.folded name = name → other ≠ name →
    library.table? value = none → (library.table? data).isSome → library.Grouped data group →
      library.nested? (library.store ⟨group, [.key name]⟩ value data) group other = library.nested? data group other
  within : ∀ group name value data, Text.folded group = group → library.table? value = none →
    (library.table? data).isSome → library.Grouped data group →
      library.Grouped (library.store ⟨group, [.key name]⟩ value data) group
  -- Under a key that had nothing, a table is stored with its members.
  table : ∀ key value data members, (library.table? data).isSome → library.under? data (Text.folded key) = none →
    library.table? value = some members → (∀ name, (members name).isSome → Text.folded name = name) →
      library.Grouped (library.store ⟨key, []⟩ value data) (Text.folded key) ∧
        ∀ name, (∀ inner, members name = some inner → library.table? inner = none) →
          library.nested? (library.store ⟨key, []⟩ value data) (Text.folded key) name = members name
  -- The environment sets what its variables name, each variable a single value; other names set nothing.
  environment : ∀ world naming, library.collect world (.environment naming) =
    some (world.environment.filterMap fun entry =>
      (library.pathOf? naming entry.1).map fun path => (path, library.parse naming entry.2))
  unmarked : ∀ naming name, naming.marks name = false → library.pathOf? naming name = none
  leads : ∀ setting : Setting,
    library.pathOf? ⟨"FLOE_PLANNER", "__", "__", true⟩ setting.variableName = some setting.path
  parsed : ∀ naming text, library.table? (library.parse naming text) = none
  -- A file is the same by its name as by its path, whatever the environment.
  located : ∀ world name path required, library.locate world.files name = some path →
    library.collect world (.named name required) = library.collect world (.file path required)
  unrelated : ∀ environment other files path required,
    library.collect ⟨environment, files⟩ (.file path required) = library.collect ⟨other, files⟩ (.file path required)

end LookupJoin.Settings
