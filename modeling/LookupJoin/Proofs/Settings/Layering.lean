import LookupJoin.Proofs.Settings.Document
/-!
Layers of settings. A variable of the environment that names a setting takes the place of this setting alone; all
others stay what the layers below made them. Main statements, for every library that does what it documents: after the
environment is laid over a file, each setting has the value of its variable, or else its value in the file; so settings
load exactly when each of these values can be read, whatever values they cover, and both ways to load agree.
-/
namespace LookupJoin.Settings

variable {Files Data : Type} {library : Library Files Data} {world : World Files} {environment : Environment}
  {setting : Setting} {data : Data} {file : List (Path × Data)} {path : String}

theorem Setting.variableName_injective : Function.Injective Setting.variableName := by
  intro first second same
  cases first <;> cases second <;> first | rfl | exact absurd same (by decide)

theorem folded_path (setting : Setting) :
    Text.folded groupName = groupName ∧ Text.folded setting.name = setting.name :=
  ⟨folded_groupName, folded_name setting⟩

namespace Environment

def value? (environment : Environment) (library : Library Files Data) (setting : Setting) : Option Data :=
  (environment.lookup setting.variableName).map (library.parse naming)

/-- Names are distinct, and every name that begins as those of settings do is the name of a setting. -/
structure Ordinary (environment : Environment) : Prop where
  distinct : (environment.map Prod.fst).Nodup
  known : ∀ entry ∈ environment, naming.marks entry.1 = true → ∃ setting : Setting, entry.1 = setting.variableName

theorem Ordinary.tail {entry : String × String} (ordinary : Ordinary (entry :: environment)) :
    Ordinary environment where
  distinct := (List.nodup_cons.1 ordinary.distinct).2
  known := fun other member => ordinary.known other (List.mem_cons_of_mem entry member)

theorem value?_cons (library : Library Files Data) (name text : String) (setting : Setting) :
    value? ((name, text) :: environment) library setting =
      if setting.variableName = name then some (library.parse naming text) else value? environment library setting := by
  rw [value?, List.lookup_cons]
  by_cases same : setting.variableName = name
  · rw [if_pos same, beq_iff_eq.2 same]
    rfl
  · rw [if_neg same, beq_eq_false_iff_ne.2 same]
    rfl

theorem value?_eq_none (absent : setting.variableName ∉ environment.map Prod.fst) :
    value? environment library setting = none := by
  rw [value?, List.lookup_eq_none_iff.2]
  · rfl
  · intro entry member
    rw [bne_iff_ne]
    intro same
    exact absent (List.mem_map.2 ⟨entry, member, same.symm⟩)

end Environment

namespace Library

def setBy (library : Library Files Data) (environment : Environment) : List (Path × Data) :=
  environment.filterMap fun entry =>
    (library.pathOf? naming entry.1).map fun path => (path, library.parse naming entry.2)

def value? (library : Library Files Data) (file : List (Path × Data)) (setting : Setting) : Option Data :=
  library.nested? (library.lay library.empty file) groupName setting.name

/-- The value of a setting in the environment, or else in the file. -/
def highest? (library : Library Files Data) (environment : Environment) (file : List (Path × Data))
    (setting : Setting) : Option Data :=
  (environment.value? library setting).or (library.value? file setting)

/-- What a file gives for the group: nothing, or the members of the one table that leads there. -/
inductive Gives (library : Library Files Data) (file : List (Path × Data)) : (String → Option Data) → Prop
  | nothing (elsewhere : ∀ entry ∈ file, Text.folded entry.1.root ≠ groupName) : Gives library file fun _ => none
  | table {before after : List (Path × Data)} {key : String} {value : Data} {members : String → Option Data}
      (whole : file = before ++ (⟨key, []⟩, value) :: after) (leads : Text.folded key = groupName)
      (elsewhere : ∀ entry ∈ before ++ after, Text.folded entry.1.root ≠ groupName)
      (table : library.table? value = some members)
      (folded : ∀ name, (members name).isSome → Text.folded name = name) : Gives library file members

theorem setBy_cons_unmarked (documented : library.Documented) {name text : String}
    (unmarked : naming.marks name = false) :
    library.setBy ((name, text) :: environment) = library.setBy environment := by
  simp [setBy, documented.unmarked naming name unmarked]

theorem setBy_cons_setting (documented : library.Documented) (setting : Setting) (text : String) :
    library.setBy ((setting.variableName, text) :: environment) =
      (setting.path, library.parse naming text) :: library.setBy environment := by
  have leads : library.pathOf? naming setting.variableName = some setting.path := documented.leads setting
  simp [setBy, leads]

theorem nested?_store (documented : library.Documented) (root : (library.table? data).isSome)
    (grouped : library.Grouped data groupName) (text : String) (setting other : Setting) :
    library.nested? (library.store setting.path (library.parse naming text) data) groupName other.name =
      if other = setting then some (library.parse naming text) else library.nested? data groupName other.name := by
  obtain ⟨group, name⟩ := folded_path setting
  have single := documented.parsed naming text
  by_cases same : other = setting
  · rw [if_pos same, same]
    exact documented.single _ _ _ _ group name single root grouped
  · rw [if_neg same]
    have different : other.name ≠ setting.name := fun equal => same (Setting.name_injective equal)
    exact documented.beside _ _ _ _ _ group name different single root grouped

theorem isSome_table?_lay (documented : library.Documented) (layer : List (Path × Data))
    (root : (library.table? data).isSome) : (library.table? (library.lay data layer)).isSome := by
  induction layer generalizing data with
  | nil => exact root
  | cons entry rest ih => exact ih (documented.root _ _ _ root)

/-- The environment over anything: the group stays a table, and a setting has the value of its variable, or what it
had. -/
theorem lay_setBy (documented : library.Documented) (ordinary : environment.Ordinary)
    (root : (library.table? data).isSome) (grouped : library.Grouped data groupName) :
    library.Grouped (library.lay data (library.setBy environment)) groupName ∧
      ∀ setting : Setting, library.nested? (library.lay data (library.setBy environment)) groupName setting.name =
        (environment.value? library setting).or (library.nested? data groupName setting.name) := by
  induction environment generalizing data with
  | nil => exact ⟨grouped, fun setting => rfl⟩
  | cons entry rest ih =>
    obtain ⟨name, text⟩ := entry
    simp only [Environment.value?_cons]
    cases marked : naming.marks name with
    | false =>
      obtain ⟨stays, values⟩ := ih ordinary.tail root grouped
      rw [setBy_cons_unmarked documented marked]
      refine ⟨stays, fun setting => ?_⟩
      have apart : setting.variableName ≠ name := by
        intro same
        have leads : library.pathOf? naming setting.variableName = some setting.path := documented.leads setting
        rw [same, documented.unmarked naming name marked] at leads
        cases leads
      rw [if_neg apart, values]
    | true =>
      obtain ⟨named, rfl⟩ := ordinary.known (name, text) List.mem_cons_self marked
      have group := (folded_path named).1
      have within := documented.within _ named.name _ _ group (documented.parsed naming text) root grouped
      -- The variable is stored first; what the rest sets is laid over it.
      obtain ⟨stays, values⟩ := ih ordinary.tail (documented.root _ _ _ root) within
      rw [setBy_cons_setting documented]
      refine ⟨stays, fun setting => (values setting).trans ?_⟩
      have stored := nested?_store documented root grouped text named setting
      rw [show Path.mk groupName [.key named.name] = named.path from rfl, stored]
      by_cases same : setting = named
      · -- The names are distinct, so nothing later sets it again.
        have fresh := (List.nodup_cons.1 ordinary.distinct).1
        rw [same, Environment.value?_eq_none fresh, if_pos rfl, if_pos rfl]
        rfl
      · rw [if_neg same, if_neg fun equal => same (Setting.variableName_injective equal)]

theorem under?_lay (documented : library.Documented) {layer : List (Path × Data)}
    (elsewhere : ∀ entry ∈ layer, Text.folded entry.1.root ≠ groupName) :
    library.under? (library.lay data layer) groupName = library.under? data groupName := by
  induction layer generalizing data with
  | nil => rfl
  | cons entry rest ih =>
    obtain ⟨here, others⟩ := List.forall_mem_cons.1 elsewhere
    exact (ih others).trans (documented.elsewhere _ _ _ _ here)

theorem isSome_table?_empty (documented : library.Documented) : (library.table? library.empty).isSome := by
  rw [documented.empty]
  rfl

theorem under?_empty (documented : library.Documented) (key : String) : library.under? library.empty key = none := by
  rw [Reader.under?_eq documented.empty]

theorem Gives.value?_eq {members : String → Option Data} (gives : library.Gives file members)
    (documented : library.Documented) :
    library.Grouped (library.lay library.empty file) groupName ∧
      ∀ setting : Setting, (∀ inner, members setting.name = some inner → library.table? inner = none) →
        library.value? file setting = members setting.name := by
  cases gives with
  | nothing elsewhere =>
    have absent : library.under? (library.lay library.empty file) groupName = none :=
      (under?_lay documented elsewhere).trans (under?_empty documented groupName)
    refine ⟨fun inner present => ?_, fun setting _ => ?_⟩
    · rw [absent] at present
      cases present
    · rw [Library.value?, Reader.nested?, absent, Option.bind_none]
  | @table before after key value _ whole leads elsewhere table folded =>
    obtain ⟨earlier, later⟩ := List.forall_mem_append.1 elsewhere
    have fresh : library.under? (library.lay library.empty before) (Text.folded key) = none :=
      leads ▸ (under?_lay documented earlier).trans (under?_empty documented groupName)
    have root := isSome_table?_lay documented before (isSome_table?_empty documented)
    obtain ⟨grouped, members⟩ := leads ▸ documented.table key value _ _ root fresh table folded
    -- What comes after the table leaves its key as it is.
    have same : library.under? (library.lay library.empty file) groupName =
        library.under? (library.store ⟨key, []⟩ value (library.lay library.empty before)) groupName := by
      rw [whole, Library.lay, List.foldl_append, List.foldl_cons]
      exact under?_lay documented later
    refine ⟨fun inner present => grouped inner (same ▸ present), fun setting single => ?_⟩
    rw [Library.value?, Reader.nested?, same]
    exact members setting.name single

theorem build_file (documented : library.Documented) (world : World Files) (path : String) :
    library.build world [.file path true, .environment naming] =
      (library.collect world (.file path true)).map fun file =>
        library.lay (library.lay library.empty file) (library.setBy world.environment) := by
  cases collected : library.collect world (.file path true) <;> simp [build, collected, documented.environment, setBy]

theorem load_eq {sources : List Source} {built : Data} (builds : library.build world sources = some built)
    {settings : Settings} :
    library.load world sources = .ok settings ↔ read? library.toReader built = some settings := by
  rw [load, builds, Option.bind_some]
  cases read? library.toReader built <;> simp

end Library

open Library

theorem fromPath_eq_ok_iff (documented : library.Documented)
    (readable : library.collect world (.file path true) = some file)
    (grouped : library.Grouped (library.lay library.empty file) groupName) (ordinary : world.environment.Ordinary)
    {settings : Settings} :
    fromPath library world path = .ok settings ↔
      ∀ setting : Setting, setting.Takes library.toReader (library.highest? world.environment file setting)
        (setting.get settings.asyncLookup) := by
  have builds : library.build world [.file path true, .environment naming] =
      some (library.lay (library.lay library.empty file) (library.setBy world.environment)) := by
    rw [build_file documented, readable, Option.map_some]
  have root := isSome_table?_lay documented file (isSome_table?_empty documented)
  obtain ⟨within, values⟩ := lay_setBy documented ordinary root grouped
  have table := isSome_table?_lay documented (library.setBy world.environment) root
  rw [fromPath, load_eq builds, read?_grouped table within]
  simp only [values]
  rfl

theorem new_eq_ok_iff (documented : library.Documented) (ordinary : world.environment.Ordinary)
    (untold : world.environment.lookup fileVariable = none) {settings : Settings} :
    new library world = .ok settings ↔
      ∀ setting : Setting, setting.Takes library.toReader (world.environment.value? library setting)
        (setting.get settings.asyncLookup) := by
  have builds : library.build world [.environment naming] =
      some (library.lay library.empty (library.setBy world.environment)) := by
    simp [build, documented.environment, setBy]
  have grouped : library.Grouped library.empty groupName := by
    intro inner present
    rw [under?_empty documented] at present
    cases present
  have root := isSome_table?_empty documented
  obtain ⟨within, values⟩ := lay_setBy documented ordinary root grouped
  have table := isSome_table?_lay documented (library.setBy world.environment) root
  have nothing (setting : Setting) : library.nested? library.empty groupName setting.name = none := by
    rw [Reader.nested?, under?_empty documented, Option.bind_none]
  rw [new, untold]
  show library.load world [.environment naming] = _ ↔ _
  rw [load_eq builds, read?_grouped table within]
  simp only [values, nothing, Option.or_none]

theorem new_eq_fromPath {name : String} (documented : library.Documented)
    (told : world.environment.lookup fileVariable = some name) (located : library.locate world.files name = some path) :
    new library world = fromPath library world path := by
  have same : library.build world [.named name true, .environment naming] =
      library.build world [.file path true, .environment naming] := by
    rw [build, build, List.foldlM_cons, List.foldlM_cons, documented.located world name path true located]
  rw [new, told]
  show library.load world [.named name true, .environment naming] = _
  rw [fromPath, load, load, same]

theorem marks_fileVariable : naming.marks fileVariable = false := by decide +kernel

theorem fromPath_cons_fileVariable (documented : library.Documented) (name : String) :
    fromPath library ⟨(fileVariable, name) :: world.environment, world.files⟩ path = fromPath library world path := by
  have unset : library.setBy ((fileVariable, name) :: world.environment) = library.setBy world.environment :=
    setBy_cons_unmarked documented marks_fileVariable
  have file := documented.unrelated ((fileVariable, name) :: world.environment) world.environment world.files path true
  rw [fromPath, fromPath, load, load, build_file documented, build_file documented, file, unset]

theorem load_congr {sources sources' : List Source}
    (same : ∀ settings, library.load world sources = .ok settings ↔ library.load world sources' = .ok settings) :
    library.load world sources = library.load world sources' := by
  unfold load at same ⊢
  cases first : (library.build world sources).bind (read? library.toReader) with
  | some settings => exact ((same settings).1 (by rw [first])).symm
  | none =>
    cases second : (library.build world sources').bind (read? library.toReader) with
    | none => rfl
    | some settings =>
      have loaded := (same settings).2 (by rw [second])
      rw [first] at loaded
      cases loaded

theorem highest?_congr {other : List (Path × Data)}
    (same : ∀ setting, environment.value? library setting = none →
      library.value? file setting = library.value? other setting)
    (setting : Setting) : library.highest? environment file setting = library.highest? environment other setting := by
  unfold highest?
  cases set : environment.value? library setting with
  | none => rw [same setting set]
  | some value => rfl

/-- A library that does what it documents, a file that can be read, and an ordinary environment. In this order: a
setting in the file has the value of the member with its name; the settings loaded are those in which each has its
highest value or its default; they load exactly when each highest value decodes; where there is none at all, they are
the default settings; of the file only the settings count that the environment leaves open; the loader that is told of
the file by a variable agrees, a variable that sets nothing itself; and the loader that is not told of a file takes the
values of the environment, as with a file without settings. -/
theorem fromPath_layered (documented : library.Documented)
    (readable : library.collect world (.file path true) = some file)
    (grouped : library.Grouped (library.lay library.empty file) groupName) (ordinary : world.environment.Ordinary) :
    (∀ members, library.Gives file members →
        ∀ setting : Setting, (∀ inner, members setting.name = some inner → library.table? inner = none) →
          library.value? file setting = members setting.name) ∧
      (∀ settings, fromPath library world path = .ok settings ↔
        ∀ setting : Setting, setting.Takes library.toReader (library.highest? world.environment file setting)
          (setting.get settings.asyncLookup)) ∧
      ((∃ settings, fromPath library world path = .ok settings) ↔
        ∀ setting, ∀ value ∈ library.highest? world.environment file setting,
          (setting.decode? library.toReader value).isSome) ∧
      ((∀ setting, library.highest? world.environment file setting = none) →
        fromPath library world path = .ok default) ∧
      (∀ otherPath other, library.collect world (.file otherPath true) = some other →
        library.Grouped (library.lay library.empty other) groupName →
          (∀ setting, world.environment.value? library setting = none →
            library.value? file setting = library.value? other setting) →
              fromPath library world path = fromPath library world otherPath) ∧
      (∀ name, (world.environment.lookup fileVariable = some name → library.locate world.files name = some path →
          new library world = fromPath library world path) ∧
        fromPath library ⟨(fileVariable, name) :: world.environment, world.files⟩ path =
          fromPath library world path) ∧
      (world.environment.lookup fileVariable = none →
        (∀ settings, new library world = .ok settings ↔
          ∀ setting : Setting, setting.Takes library.toReader (world.environment.value? library setting)
            (setting.get settings.asyncLookup)) ∧
          ∀ blank, library.collect world (.file blank true) = some [] →
            new library world = fromPath library world blank) := by
  have decided (settings : Settings) : fromPath library world path = .ok settings ↔
      ∀ setting : Setting, setting.Takes library.toReader (library.highest? world.environment file setting)
        (setting.get settings.asyncLookup) := fromPath_eq_ok_iff documented readable grouped ordinary
  refine ⟨fun members gives => (gives.value?_eq documented).2, decided, ?_, ?_, ?_, ?_, ?_⟩
  · simp only [decided, Setting.exists_settings_iff, Setting.exists_takes_iff]
  · intro nothing
    rw [decided]
    intro setting
    rw [nothing]
    exact .default
  · intro otherPath other otherReadable otherGrouped same
    refine load_congr fun settings => (decided settings).trans ?_
    simp only [highest?_congr same]
    exact (fromPath_eq_ok_iff documented otherReadable otherGrouped ordinary).symm
  · exact fun name => ⟨new_eq_fromPath documented, fromPath_cons_fileVariable documented name⟩
  · intro untold
    refine ⟨fun settings => new_eq_ok_iff documented ordinary untold, fun blank empty => ?_⟩
    rw [new, untold, fromPath, load, load, build_file documented, empty]
    simp [build, documented.environment, setBy, lay]

def hasty : String := "[async_lookup]\ntimeout_ms = \"soon\"\nbuffer_capacity = 16"

def hastyMembers : Value.Entries := [("timeout_ms", .text "soon"), ("buffer_capacity", .int 16)]

/-- What the file sets. -/
def hastyLayer : List (Path × Value) := [(⟨"async_lookup", []⟩, .table hastyMembers)]

def patient : World Texts where
  environment := [("HOME", "/"), (fileVariable, "settings"), (Setting.timeoutMs.variableName, "250")]
  files := fun path => if path = "settings.toml" then some hasty else none

theorem gives_hasty : documents.Gives hastyLayer (hastyMembers.lookup ·) := by
  have whole : hastyLayer = [] ++ (⟨"async_lookup", []⟩, .table hastyMembers) :: [] := rfl
  refine .table whole folded_groupName (by simp) rfl fun name present => ?_
  rw [hastyMembers, Value.lookup_cons_eq, Value.lookup_cons_eq] at present
  by_cases timeout : name = "timeout_ms"
  · exact timeout ▸ folded_name .timeoutMs
  · by_cases capacity : name = "buffer_capacity"
    · exact capacity ▸ folded_name .bufferCapacity
    · rw [if_neg timeout, if_neg capacity] at present
      cases present

/-- The environment covers the timeout that is no number, and it names the file. -/
theorem fromPath_layered_patient :
    documents.Documented ∧ documents.collect patient (.file "settings.toml" true) = some hastyLayer ∧
      documents.Grouped (documents.lay documents.empty hastyLayer) groupName ∧ patient.environment.Ordinary ∧
        Setting.timeoutMs.decode? documents.toReader (.text "soon") = none ∧
          fromPath documents patient "settings.toml" = .ok ⟨⟨16, 250, .ordered, false⟩⟩ ∧
            new documents patient = fromPath documents patient "settings.toml" := by
  have readable : documents.collect patient (.file "settings.toml" true) = some hastyLayer := by decide +kernel
  have ordinary : patient.environment.Ordinary := by
    refine ⟨by decide, fun entry member marked => ?_⟩
    simp only [patient, List.mem_cons, List.not_mem_nil, or_false] at member
    rcases member with rfl | rfl | rfl
    · exact absurd marked (by decide +kernel)
    · exact absurd marked (by decide +kernel)
    · exact ⟨.timeoutMs, rfl⟩
  obtain ⟨grouped, _⟩ := gives_hasty.value?_eq documented_documents
  obtain ⟨values, decided, _, _, _, told, _⟩ := fromPath_layered documented_documents readable grouped ordinary
  have located : documents.locate patient.files "settings" = some "settings.toml" := by decide +kernel
  have highest (setting : Setting) : documents.highest? patient.environment hastyLayer setting =
      (patient.environment.value? documents setting).or (hastyMembers.lookup setting.name) := by
    rw [Library.highest?, values _ gives_hasty]
    intro inner found
    cases setting <;> cases found <;> rfl
  have loaded : fromPath documents patient "settings.toml" = .ok ⟨⟨16, 250, .ordered, false⟩⟩ := by
    refine (decided _).2 (Setting.forall_setting.2 ?_)
    simp only [highest]
    exact ⟨.decoded rfl, .decoded rfl, .default, .default⟩
  exact ⟨documented_documents, readable, grouped, ordinary, by decide +kernel, loaded, (told "settings").1 rfl located⟩

end LookupJoin.Settings
