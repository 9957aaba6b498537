import LookupJoin.Error
import LookupJoin.Settings
import LookupJoin.Text.Blank
/-!
Settings from a file and from the environment. The sources are stacked, the first one lowest, and each is stored over
those below it, value by value. How a source is read and how a value is stored is for a library to say.
-/
namespace LookupJoin.Settings

abbrev Environment := List (String × String)

structure World (Files : Type) where
  environment : Environment
  files : Files

/-- How variables are named: a family, what parts it from the keys, and what parts the keys from each other. -/
structure Naming where
  family : String
  familySeparator : String
  separator : String
  parsing : Bool
deriving DecidableEq, Repr

/-- A file is given by its path or by a name that may lack the ending. -/
inductive Source where
  | file (path : String) (required : Bool)
  | named (name : String) (required : Bool)
  | environment (naming : Naming)
deriving DecidableEq, Repr

inductive Step where
  | key (name : String)
  | item (number : Int)
deriving DecidableEq, Repr

/-- Where a value stands: under a key, and so many steps from there. -/
structure Path where
  root : String
  steps : List Step
deriving DecidableEq, Repr

structure Library (Files Data : Type) extends Reader Data where
  /-- The file that a name stands for. -/
  locate : Files → String → Option String
  /-- Where the value of a variable goes. -/
  pathOf? : Naming → String → Option Path
  parse : Naming → String → Data
  collect : World Files → Source → Option (List (Path × Data))
  empty : Data
  store : Path → Data → Data → Data

def Naming.marks (naming : Naming) (name : String) : Bool :=
  (Text.fold (naming.family ++ naming.familySeparator).toList).isPrefixOf (Text.fold name.toList)

namespace Library

def lay (library : Library Files Data) (below : Data) (layer : List (Path × Data)) : Data :=
  layer.foldl (fun data entry => library.store entry.1 entry.2 data) below

def build (library : Library Files Data) (world : World Files) (sources : List Source) : Option Data :=
  sources.foldlM (fun data source => (library.collect world source).map (library.lay data)) library.empty

def load (library : Library Files Data) (world : World Files) (sources : List Source) : Except Error Settings :=
  match (library.build world sources).bind (read? library.toReader) with
  | some settings => .ok settings
  | none => .error .configuration

end Library

def naming : Naming where
  family := "FLOE_PLANNER"
  familySeparator := "__"
  separator := "__"
  parsing := true

def fileVariable : String := "FLOE_PLANNER_CONFIG_PATH"

def new (library : Library Files Data) (world : World Files) : Except Error Settings :=
  let told := match world.environment.lookup fileVariable with
    | some name => [.named name true]
    | none => []
  library.load world (told ++ [.environment naming])

def fromPath (library : Library Files Data) (world : World Files) (path : String) : Except Error Settings :=
  library.load world [.file path true, .environment naming]

end LookupJoin.Settings
