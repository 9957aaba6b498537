import LookupJoin.Text.Hex
import LookupJoin.Text.Digits
/-!
Blanks, comments, texts and keys of TOML documents. Each reader takes the characters still to be read and
gives back what it read and the rest, or nothing when the text breaks the grammar. A text stands in double
quotes, with escapes, or in single quotes, without; three quotes enclose a text of several lines.
-/
namespace LookupJoin.Toml

def isSpace (c : Char) : Bool := c = ' ' || c = '\t'

def skip (text : List Char) : List Char := text.dropWhile isSpace

def isContent (c : Char) : Bool := c = '\t' || (0x20 ≤ c.toNat && c.toNat ≠ 0x7F)

def skipComment : List Char → List Char
  | '#' :: rest => rest.dropWhile isContent
  | text => text

def newline? : List Char → Option (List Char)
  | '\n' :: rest => some rest
  | '\r' :: '\n' :: rest => some rest
  | _ => none

def endLine? (text : List Char) : Option (List Char) :=
  match skipComment (skip text) with
  | [] => some []
  | rest => newline? rest

def skipLines : Nat → List Char → List Char
  | 0, text => text
  | bound + 1, text =>
    match skipComment (skip text) with
    | [] => []
    | rest =>
      match newline? rest with
      | some rest => skipLines bound rest
      | none => rest

def escape? : List Char → Option (Char × List Char)
  | 'u' :: a :: b :: c :: d :: rest => do
    return (← Text.charAt? (← Text.hexNumber? [a, b, c, d]), rest)
  | 'U' :: a :: b :: c :: d :: e :: f :: g :: h :: rest => do
    return (← Text.charAt? (← Text.hexNumber? [a, b, c, d, e, f, g, h]), rest)
  | 'b' :: rest => some ('\x08', rest)
  | 'f' :: rest => some ('\x0c', rest)
  | 'n' :: rest => some ('\n', rest)
  | 'r' :: rest => some ('\r', rest)
  | 't' :: rest => some ('\t', rest)
  | '"' :: rest => some ('"', rest)
  | '\\' :: rest => some ('\\', rest)
  | _ => none

def basicBody? : Nat → List Char → Option (List Char × List Char)
  | 0, _ => none
  | bound + 1, text =>
    match text with
    | [] => none
    | '"' :: rest => some ([], rest)
    | '\\' :: rest => do
      let (c, rest) ← escape? rest
      let (more, rest) ← basicBody? bound rest
      return (c :: more, rest)
    | c :: rest => do
      guard (isContent c)
      let (more, rest) ← basicBody? bound rest
      return (c :: more, rest)

def literalBody? : List Char → Option (List Char × List Char)
  | [] => none
  | '\'' :: rest => some ([], rest)
  | c :: rest =>
    if isContent c then (literalBody? rest).map fun (more, rest) => (c :: more, rest) else none

/-- A backslash at the end of a line joins it to the next text, blanks and line ends left out. -/
def joinedLine? (bound : Nat) (text : List Char) : Option (List Char) :=
  (newline? (skip text)).map fun rest => (skipBlank bound rest)
where
  skipBlank : Nat → List Char → List Char
    | 0, text => text
    | bound + 1, text =>
      match newline? (skip text) with
      | some rest => skipBlank bound rest
      | none => skip text

/-- The run of quotes at the front of a text of several lines: how many of them belong to it, and whether
the text ends with them. -/
def closing (quote : Char) (text : List Char) : Nat × Bool :=
  let run := (text.takeWhile (· = quote)).length
  if run < 3 then (run, false) else (min (run - 3) 2, true)

def linesBody? (quote : Char) : Nat → List Char → Option (List Char × List Char)
  | 0, _ => none
  | bound + 1, text =>
    match newline? text, text with
    | some rest, _ => do
      let (more, rest) ← linesBody? quote bound rest
      return ('\n' :: more, rest)
    | none, [] => none
    | none, c :: rest =>
      if c = quote then
        let (kept, ends) := closing quote text
        let quotes := List.replicate kept quote
        if ends then some (quotes, text.drop (kept + 3))
        else do
          let (more, rest) ← linesBody? quote bound (text.drop kept)
          return (quotes ++ more, rest)
      else if c = '\\' && quote = '"' then
        match joinedLine? bound rest with
        | some rest => linesBody? quote bound rest
        | none => do
          let (c, rest) ← escape? rest
          let (more, rest) ← linesBody? quote bound rest
          return (c :: more, rest)
      else do
        guard (isContent c)
        let (more, rest) ← linesBody? quote bound rest
        return (c :: more, rest)

def afterOpening (text : List Char) : List Char := (newline? text).getD text

def textLiteral? (bound : Nat) : List Char → Option (List Char × List Char)
  | '"' :: '"' :: '"' :: rest => linesBody? '"' bound (afterOpening rest)
  | '\'' :: '\'' :: '\'' :: rest => linesBody? '\'' bound (afterOpening rest)
  | '"' :: rest => basicBody? bound rest
  | '\'' :: rest => literalBody? rest
  | _ => none

def isBare (c : Char) : Bool := c.isAlphanum || c = '_' || c = '-'

def simpleKey? (bound : Nat) : List Char → Option (String × List Char)
  | '"' :: rest => (basicBody? bound rest).map fun (key, rest) => (String.ofList key, rest)
  | '\'' :: rest => (literalBody? rest).map fun (key, rest) => (String.ofList key, rest)
  | text =>
    let row := text.takeWhile isBare
    if row.isEmpty then none else some (String.ofList row, text.dropWhile isBare)

def keyPath? : Nat → List Char → Option (List String × List Char)
  | 0, _ => none
  | bound + 1, text => do
    let (key, rest) ← simpleKey? bound (skip text)
    match skip rest with
    | '.' :: rest => (keyPath? bound rest).map fun (path, rest) => (key :: path, rest)
    | rest => some ([key], rest)

/-- How many keys a path may have, and how deep lists and tables may nest. -/
def depthLimit : Nat := 80

def path? (bound : Nat) (text : List Char) : Option (List String × List Char) := do
  let (path, rest) ← keyPath? bound text
  if path.length < depthLimit then some (path, rest) else none

end LookupJoin.Toml
