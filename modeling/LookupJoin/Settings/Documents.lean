import LookupJoin.Json.Reader
import LookupJoin.Settings.Decoder
import LookupJoin.Settings.Path
import LookupJoin.Toml.Reader
/-!
The library by which the program loads its settings: documents in files, and variables whose names are paths with a
separator in place of the dots.
-/
namespace LookupJoin.Settings

def extension (path : String) : String :=
  let reversed := (path.toList.reverse.takeWhile (· ≠ '/'))
  let ending := reversed.takeWhile (· ≠ '.')
  if ending.length + 1 < reversed.length then String.ofList ending.reverse else ""

mutual

/-- Integers beyond 63 bits become numbers in double precision. -/
def narrow : Value → Value
  | .int n => if -(1 <<< 63) ≤ n ∧ n < 1 <<< 63 then .int n else .float (Value.floatOfInt n)
  | .list items => .list (narrowItems items)
  | .table entries => .table (narrowEntries entries)
  | value => value

def narrowItems : List Value → List Value
  | [] => []
  | item :: rest => narrow item :: narrowItems rest

def narrowEntries : List (String × Value) → List (String × Value)
  | [] => []
  | (key, value) :: rest => (key, narrow value) :: narrowEntries rest

end

def document? (path content : String) : Option Value :=
  if extension path = "toml" then Toml.read? content
  else if extension path = "json" then (Json.read? content).map narrow
  else none

/-- What a file sets; its document must be a table. -/
def layer? (path content : String) : Option (List (Path × Value)) :=
  match document? path content with
  | some (.table entries) => some (entries.map fun entry => (.ofText entry.1, entry.2))
  | _ => none

abbrev Texts := String → Option String

namespace Documents

def locate (files : Texts) (name : String) : Option String :=
  [name, name ++ ".toml", name ++ ".json"].find? fun path => (files path).isSome

def file? (files : Texts) (required : Bool) (path : Option String) : Option (List (Path × Value)) :=
  match path.bind fun path => (files path).map (path, ·) with
  | some (path, content) => layer? path content
  | none => if required then none else some []

def dotted (separator : List Char) : (skip : Nat) → List Char → List Char
  | _, [] => []
  | skip + 1, _ :: rest => dotted separator skip rest
  | 0, c :: rest =>
    if separator.isPrefixOf (c :: rest) then '.' :: dotted separator (separator.length - 1) rest
    else c :: dotted separator 0 rest

def pathOf? (naming : Naming) (name : String) : Option Path :=
  if naming.marks name then
    let keys := (Text.fold name.toList).drop (naming.family ++ naming.familySeparator).length
    some (.ofText (String.ofList (dotted naming.separator.toList 0 keys)))
  else none

def parse (naming : Naming) (text : String) : Value :=
  if naming.parsing then
    match Text.folded text, Text.integer? (1 <<< 63) text.toList, FloatFormat.double.read? text.toList with
    | "true", _, _ => .bool true
    | "false", _, _ => .bool false
    | _, some n, _ => .int n
    | _, none, some bits => .float bits
    | _, none, none => .text text
  else .text text

def collect (world : World Texts) : Source → Option (List (Path × Value))
  | .file path required => file? world.files required path
  | .named name required => file? world.files required (locate world.files name)
  | .environment naming =>
    some (world.environment.filterMap fun (name, text) => (pathOf? naming name).map (·, parse naming text))

end Documents

def documents : Library Texts Value where
  toReader := Decoder.lenient
  locate := Documents.locate
  pathOf? := Documents.pathOf?
  parse := Documents.parse
  collect := Documents.collect
  empty := .table []
  store := storePath

end LookupJoin.Settings
