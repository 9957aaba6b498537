import LookupJoin.Toml.Number
import LookupJoin.Toml.Table
import LookupJoin.Toml.Text
/-!
Data read from TOML documents: lines that give keys their values, and headers that say which table the
lines after them belong to.
-/
namespace LookupJoin.Toml

mutual

/-- A value with at most `depth` lists and tables inside each other. The bound counts steps and is never
short for a text in hand. -/
def value? : Nat → Nat → List Char → Option (Value × List Char)
  | 0, _, _ => none
  | bound + 1, depth, text =>
    match text with
    | '[' :: rest =>
      if depth = 0 then none
      else (items? bound (depth - 1) rest).map fun (items, rest) => (.list items, rest)
    | '\x7b' :: rest =>
      if depth = 0 then none
      else
        match skip rest with
        | '\x7d' :: rest => some (.table [], rest)
        | rest => do
          let (assignments, rest) ← assignments? bound (depth - 1) rest
          return (← Node.inline? assignments, rest)
    | c :: rest =>
      if c = '"' || c = '\'' then
        (textLiteral? bound (c :: rest)).map fun (content, rest) => (.text (String.ofList content), rest)
      else
        let (word, rest) := splitWord (c :: rest)
        (word? word).map fun value => (value, rest)
    | [] => none

def items? : Nat → Nat → List Char → Option (List Value × List Char)
  | 0, _, _ => none
  | bound + 1, depth, text =>
    match skipLines bound text with
    | ']' :: rest => some ([], rest)
    | rest => do
      let (item, rest) ← value? bound depth rest
      match skipLines bound rest with
      | ',' :: rest => (items? bound depth rest).map fun (more, rest) => (item :: more, rest)
      | ']' :: rest => some ([item], rest)
      | _ => none

def assignment? : Nat → Nat → List Char → Option ((List String × Value) × List Char)
  | 0, _, _ => none
  | bound + 1, depth, text => do
    let (path, rest) ← path? bound text
    let '=' :: rest := skip rest | none
    let (value, rest) ← value? bound depth (skip rest)
    return ((path, value), rest)

def assignments? : Nat → Nat → List Char → Option (List (List String × Value) × List Char)
  | 0, _, _ => none
  | bound + 1, depth, text => do
    let (first, rest) ← assignment? bound depth text
    match skip rest with
    | ',' :: rest => (assignments? bound depth rest).map fun (more, rest) => (first :: more, rest)
    | '\x7d' :: rest => some ([first], rest)
    | _ => none

end

/-- The tables read so far and the header the next lines belong to. -/
structure Draft where
  header : List String
  entries : Node.Entries

def line? (bound : Nat) (draft : Draft) (text : List Char) : Option (Draft × List Char) :=
  match skip text with
  | '[' :: '[' :: rest => do
    let (path, rest) ← path? bound rest
    let ']' :: ']' :: rest := rest | none
    return (⟨path, ← Node.append? path draft.entries⟩, ← endLine? rest)
  | '[' :: rest => do
    let (path, rest) ← path? bound rest
    let ']' :: rest := rest | none
    return (⟨path, ← Node.open? path draft.entries⟩, ← endLine? rest)
  | rest =>
    match endLine? rest with
    | some rest => some (draft, rest)
    | none => do
      let ((path, value), rest) ← assignment? bound (depthLimit - 1) rest
      let entries ← Node.assign? draft.header path value draft.entries
      return (⟨draft.header, entries⟩, ← endLine? rest)

def lines? : Nat → Draft → List Char → Option Draft
  | 0, _, _ => none
  | bound + 1, draft, text =>
    if text.isEmpty then some draft
    else do
      let (draft, rest) ← line? (bound + 1) draft text
      lines? bound draft rest

def dropMark : List Char → List Char
  | '\uFEFF' :: rest => rest
  | text => text

def read? (text : String) : Option Value :=
  let chars := dropMark text.toList
  (lines? (2 * chars.length + 8) ⟨[], []⟩ chars).map fun draft => .table (Node.toEntries draft.entries)

end LookupJoin.Toml
