import LookupJoin.Scalar.Text
import Mathlib.Logic.Function.Basic
/-!
Texts in single quotes read back. A reader takes a literal off the front of a text: after the opening quote, two
quotes stand for one, and a quote by itself closes. Main statement: what is read is a text and a rest exactly when
that text, written as a literal, stood before that rest and the rest goes on with no quote. So nothing inside a
text ends its literal early, and different texts are written differently.
-/
namespace LookupJoin.Scalar

/-- What a literal holds, read after its opening quote, and what follows its closing quote. -/
def readContent? : List Char → Option (List Char × List Char)
  | '\'' :: '\'' :: rest => (readContent? rest).map fun (content, after) => ('\'' :: content, after)
  | '\'' :: after => some ([], after)
  | c :: rest => (readContent? rest).map fun (content, after) => (c :: content, after)
  | [] => none

def readLiteral? : List Char → Option (List Char × List Char)
  | '\'' :: rest => readContent? rest
  | _ => none

/-- The text goes on with no quote, which would double the one before it. -/
def Unquoted (after : List Char) : Prop := after.head? ≠ some '\''

variable {text content after : List Char}

theorem readContent?_close (unquoted : Unquoted after) : readContent? ('\'' :: after) = some ([], after) := by
  rw [readContent?]
  intro rest same
  exact unquoted (by rw [same, List.head?_cons])

theorem readContent?_doubleQuotes (unquoted : Unquoted after) :
    readContent? (doubleQuotes content ++ '\'' :: after) = some (content, after) := by
  induction content with
  | nil => exact readContent?_close unquoted
  | cons c more ih =>
    by_cases quote : c = '\''
    · simp only [quote, doubleQuotes, if_pos, List.cons_append, readContent?, ih, Option.map_some]
    · simp only [doubleQuotes, if_neg quote, List.cons_append]
      rw [readContent?, ih, Option.map_some]
      · exact fun _ same _ => quote same
      · exact quote

theorem eq_doubleQuotes_of_readContent? (read : readContent? text = some (content, after)) :
    text = doubleQuotes content ++ '\'' :: after ∧ Unquoted after := by
  fun_induction readContent? text generalizing content with
  | case1 rest ih =>
    obtain ⟨⟨more, left⟩, inner, same⟩ := Option.map_eq_some_iff.1 read
    cases same
    obtain ⟨written, unquoted⟩ := ih inner
    exact ⟨by simp only [doubleQuotes, if_pos, List.cons_append, written], unquoted⟩
  | case2 left other =>
    cases read
    -- The literal ends here, so the quote is not the first of two.
    refine ⟨rfl, fun quoted => ?_⟩
    obtain ⟨rest, same⟩ := List.head?_eq_some_iff.1 quoted
    exact other rest same
  | case3 c rest _ other ih =>
    obtain ⟨⟨more, left⟩, inner, same⟩ := Option.map_eq_some_iff.1 read
    cases same
    obtain ⟨written, unquoted⟩ := ih inner
    exact ⟨by simp only [doubleQuotes, if_neg other, List.cons_append, written], unquoted⟩
  | case4 => cases read

theorem readLiteral?_eq_some_iff :
    readLiteral? text = some (content, after) ↔ text = quoteSql content ++ after ∧ Unquoted after := by
  have written : quoteSql content ++ after = '\'' :: (doubleQuotes content ++ '\'' :: after) := by
    simp [quoteSql]
  rw [written]
  constructor
  · intro read
    unfold readLiteral? at read
    split at read
    next rest =>
      obtain ⟨same, unquoted⟩ := eq_doubleQuotes_of_readContent? read
      exact ⟨by rw [same], unquoted⟩
    next => cases read
  · intro parts
    obtain ⟨same, unquoted⟩ := parts
    rw [same, readLiteral?, readContent?_doubleQuotes unquoted]

theorem toList_sql_text (layout : Layout) (content : String) :
    (sql (.text layout (some content))).toList = quoteSql content.toList := by
  simp [sql, isNull]

theorem quoteSql_injective : Function.Injective quoteSql := by
  intro content content' same
  -- What is read back from a literal is its content.
  have read (row : List Char) : readLiteral? (quoteSql row) = some (row, []) :=
    readLiteral?_eq_some_iff.2 ⟨(List.append_nil _).symm, nofun⟩
  have both := congrArg readLiteral? same
  rw [read content, read content'] at both
  exact congrArg Prod.fst (Option.some.inj both)

theorem readLiteral?_sql_iff (layout layout' : Layout) (content content' : String) :
    (∀ text after, readLiteral? text = some (content.toList, after) ↔
      text = (sql (.text layout (some content))).toList ++ after ∧ Unquoted after) ∧
        (sql (.text layout (some content)) = sql (.text layout' (some content')) ↔ content = content') := by
  refine ⟨fun text after => ?_, ?_⟩
  · rw [toList_sql_text]
    exact readLiteral?_eq_some_iff
  · rw [← String.toList_inj, toList_sql_text, toList_sql_text, quoteSql_injective.eq_iff, String.toList_inj]

example : sql (.text .standard (some "'it''s'")) = "'''it''''s'''" ∧
    readLiteral? "'''it''''s''' = b".toList = some ("'it''s'".toList, " = b".toList) := by decide +kernel

end LookupJoin.Scalar
