/-!
Blanks and letter case. A blank is a character with the Unicode property White_Space; trimming
removes blanks from both ends. Case folding here concerns ASCII letters, with one exception: the
Kelvin sign is the only other character whose lower case is a single ASCII letter, so `fold`
decides equality with an ASCII word in any letter case.
-/
namespace LookupJoin.Text

def blankRanges : List (Nat × Nat) :=
  [(0x09, 0x0D), (0x20, 0x20), (0x85, 0x85), (0xA0, 0xA0), (0x1680, 0x1680), (0x2000, 0x200A),
   (0x2028, 0x2029), (0x202F, 0x202F), (0x205F, 0x205F), (0x3000, 0x3000)]

def inRanges (ranges : List (Nat × Nat)) (c : Char) : Bool :=
  ranges.any fun range => range.1 ≤ c.toNat && c.toNat ≤ range.2

def isBlank (c : Char) : Bool := inRanges blankRanges c

def trimLeft (text : List Char) : List Char := text.dropWhile isBlank

def trimRight (text : List Char) : List Char := (text.reverse.dropWhile isBlank).reverse

def trim (text : List Char) : List Char := trimRight (trimLeft text)

def lower (text : List Char) : List Char := text.map Char.toLower

def foldChar (c : Char) : Char := if c = '\u212A' then 'k' else c.toLower

def fold (text : List Char) : List Char := text.map foldChar

def folded (word : String) : String := String.ofList (fold word.toList)

def normalize (text : String) : String := String.ofList (lower (trim text.toList))

end LookupJoin.Text
