import LookupJoin.Settings.Loader
/-!
The settings of asynchronous lookups one by one. Each has its own type, its own way to be read from data, and its
own default. Main statement: settings can be read from a table whose group is missing or a table exactly when each
setting that is present can be read, and each setting is then what its own value gives, or its default.
-/
namespace LookupJoin

namespace Reader

variable {Data : Type}

def under? (reader : Reader Data) (data : Data) (key : String) : Option Data :=
  (reader.table? data).bind fun entries => entries key

/-- What stands under the first key is missing, or it is a table. -/
def Grouped (reader : Reader Data) (data : Data) (group : String) : Prop :=
  ∀ inner, reader.under? data group = some inner → (reader.table? inner).isSome

/-- What stands under the second key in the table under the first. -/
def nested? (reader : Reader Data) (data : Data) (group name : String) : Option Data :=
  (reader.under? data group).bind fun inner => reader.under? inner name

theorem under?_eq {reader : Reader Data} {data : Data} {entries : String → Option Data}
    (table : reader.table? data = some entries) : reader.under? data = entries := by
  funext key
  rw [under?, table, Option.bind_some]

end Reader

namespace Settings

inductive Setting where
  | bufferCapacity
  | timeoutMs
  | outputMode
  | preferAsync
deriving DecidableEq, Repr

def groupName : String := "async_lookup"

namespace Setting

abbrev Carrier : Setting → Type
  | bufferCapacity | timeoutMs => Nat
  | outputMode => OutputMode
  | preferAsync => Bool

def name : Setting → String
  | bufferCapacity => "buffer_capacity"
  | timeoutMs => "timeout_ms"
  | outputMode => "output_mode"
  | preferAsync => "prefer_async"

def get (settings : LookupSettings) : (setting : Setting) → setting.Carrier
  | bufferCapacity => settings.bufferCapacity
  | timeoutMs => settings.timeoutMs
  | outputMode => settings.outputMode
  | preferAsync => settings.preferAsync

variable {Data : Type} {reader : Reader Data}

def decode? (reader : Reader Data) : (setting : Setting) → Data → Option setting.Carrier
  | bufferCapacity | timeoutMs => reader.natural?
  | outputMode => fun data => (reader.variant? data).bind OutputMode.ofWord?
  | preferAsync => reader.flag?

/-- What a setting becomes: without a value what it is by default, else what the value decodes to. -/
inductive Takes (reader : Reader Data) (setting : Setting) : Option Data → setting.Carrier → Prop
  | default : Takes reader setting none (setting.get default)
  | decoded {data : Data} {result : setting.Carrier} (decodes : setting.decode? reader data = some result) :
    Takes reader setting (some data) result

variable {setting : Setting} {settings : LookupSettings} {data : Data}

theorem name_injective : Function.Injective name := by
  intro first second same
  cases first <;> cases second <;> first | rfl | exact absurd same (by decide)

theorem forall_setting {predicate : Setting → Prop} :
    (∀ setting, predicate setting) ↔
      predicate bufferCapacity ∧ predicate timeoutMs ∧ predicate outputMode ∧ predicate preferAsync := by
  constructor
  · intro each
    exact ⟨each _, each _, each _, each _⟩
  · intro each setting
    obtain ⟨capacity, timeout, mode, async⟩ := each
    cases setting <;> assumption

theorem eq_of_get {first second : LookupSettings} (same : ∀ setting, get first setting = get second setting) :
    first = second := by
  obtain ⟨capacity, timeout, mode, async⟩ := forall_setting.1 same
  cases first
  cases second
  cases capacity
  cases timeout
  cases mode
  cases async
  rfl

theorem takes_none_iff {result : setting.Carrier} :
    setting.Takes reader none result ↔ result = setting.get default := by
  constructor
  · intro taken
    cases taken
    rfl
  · intro same
    rw [same]
    exact .default

theorem takes_some_iff {result : setting.Carrier} :
    setting.Takes reader (some data) result ↔ setting.decode? reader data = some result := by
  constructor
  · intro taken
    cases taken with
    | decoded decodes => exact decodes
  · exact .decoded

theorem exists_takes_iff {given : Option Data} :
    (∃ result, setting.Takes reader given result) ↔ ∀ data ∈ given, (setting.decode? reader data).isSome := by
  cases given with
  | none => simp [takes_none_iff]
  | some data => simp [takes_some_iff, Option.isSome_iff_exists]

theorem member?_eq_some_iff {given : Option Data} {result : setting.Carrier} :
    member? (setting.decode? reader) (setting.get default) given = some result ↔
      setting.Takes reader given result := by
  cases given with
  | none => rw [takes_none_iff, member?, Option.some.injEq, eq_comm]
  | some data => rw [takes_some_iff, member?]

theorem exists_settings_iff {admits : (setting : Setting) → setting.Carrier → Prop} :
    (∃ settings : Settings, ∀ setting, admits setting (get settings.asyncLookup setting)) ↔
      ∀ setting, ∃ result, admits setting result := by
  constructor
  · intro chosen setting
    obtain ⟨settings, each⟩ := chosen
    exact ⟨_, each setting⟩
  · intro each
    obtain ⟨⟨capacity, first⟩, ⟨timeout, second⟩, ⟨mode, third⟩, ⟨async, fourth⟩⟩ := forall_setting.1 each
    exact ⟨⟨⟨capacity, timeout, mode, async⟩⟩, forall_setting.2 ⟨first, second, third, fourth⟩⟩

/-- The defaults of the members, written next to them, are those of the group as a whole. -/
theorem read?_table {entries : String → Option Data} (table : reader.table? data = some entries) :
    LookupSettings.read? reader data = some settings ↔
      ∀ setting : Setting, setting.Takes reader (entries setting.name) (setting.get settings) := by
  simp only [← member?_eq_some_iff, forall_setting, LookupSettings.read?, Reader.members?, table, Option.pure_def,
    Option.bind_eq_bind, Option.bind_some, Option.bind_eq_some_iff, Option.some.injEq]
  constructor
  · intro read
    obtain ⟨capacity, first, timeout, second, mode, third, async, fourth, rfl⟩ := read
    exact ⟨first, second, third, fourth⟩
  · intro each
    obtain ⟨first, second, third, fourth⟩ := each
    exact ⟨_, first, _, second, _, third, _, fourth, rfl⟩

end Setting

theorem read?_grouped {Data : Type} {reader : Reader Data} {data : Data} {settings : Settings}
    (table : (reader.table? data).isSome) (grouped : reader.Grouped data groupName) :
    read? reader data = some settings ↔
      ∀ setting : Setting,
        setting.Takes reader (reader.nested? data groupName setting.name) (setting.get settings.asyncLookup) := by
  obtain ⟨entries, table⟩ := Option.isSome_iff_exists.1 table
  obtain ⟨group⟩ := settings
  have read : read? reader data = some ⟨group⟩ ↔
      member? (LookupSettings.read? reader) default (reader.under? data groupName) = some group := by
    simp [read?, Reader.members?, table, Reader.under?, groupName, Option.bind_eq_some_iff]
  rw [read]
  cases present : reader.under? data groupName with
  | none =>
    simp only [Reader.nested?, present, Option.bind_none, Setting.takes_none_iff, member?, Option.some.injEq]
    constructor
    · intro default setting
      rw [default]
    · intro each
      exact (Setting.eq_of_get each).symm
  | some inner =>
    obtain ⟨members, inside⟩ := Option.isSome_iff_exists.1 (grouped inner present)
    simp only [Reader.nested?, present, Option.bind_some, Reader.under?_eq inside, member?]
    exact Setting.read?_table inside

end Settings

end LookupJoin
