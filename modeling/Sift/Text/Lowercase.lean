import Sift.Text.CaseIgnorable
import Sift.Text.Cased
import Sift.Text.LowercaseTable

/-!
# Lower case

A text is lowered character by character, with two mappings that a table of single characters
cannot give:

* `İ` becomes two characters, `i` and a combining dot;
* `Σ` at the end of a word becomes `ς`, and `σ` everywhere else. A capital sigma ends a word when a
  cased letter stands before it and none after it, case-ignorable characters not counted.

The second one makes lowering depend on the context: lowering a part of a text need not give a
part of the lowered text.
-/

namespace Sift.Text

/-- Whether the first character that is not case-ignorable is a cased one. -/
def casedAhead (cs : List Char) : Bool :=
  match cs.dropWhile caseIgnorableTable.has with
  | [] => false
  | c :: _ => casedTable.has c

/-- The lower case of one character away from its context. -/
def lowerChar (c : Char) : List Char :=
  if c.toNat < 128 then [c.toLower]
  else if c = 'İ' then ['i', '\u0307']
  else [(lowercaseRuns.findSome? (·.map? c)).getD c]

/-- Lowers a list of characters; `before` holds what stands before it, nearest character first. -/
def lowerFrom (before : List Char) : List Char → List Char
  | [] => []
  | c :: rest =>
    (if c = 'Σ' then
        if casedAhead before && !casedAhead rest then ['ς'] else ['σ']
      else lowerChar c) ++ lowerFrom (c :: before) rest

/-- The lower case of a text. -/
def lower (s : String) : String :=
  String.ofList (lowerFrom [] s.toList)

end Sift.Text
