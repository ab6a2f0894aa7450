/-!
# Searching in text

One text occurs in another when its characters stand there next to each other. The empty text
occurs everywhere.
-/

namespace Sift.Text

/-- Whether `part` occurs in the list of characters. -/
def occurs (part : List Char) : List Char → Bool
  | [] => part.isEmpty
  | c :: rest => part.isPrefixOf (c :: rest) || occurs part rest

def contains (whole part : String) : Bool :=
  occurs part.toList whole.toList

def startsWith (whole part : String) : Bool :=
  part.toList.isPrefixOf whole.toList

def endsWith (whole part : String) : Bool :=
  part.toList.isSuffixOf whole.toList

/-- **Occurrence is being a block of neighbours.** -/
theorem occurs_eq_true_iff {part whole : List Char} :
    occurs part whole = true ↔ part <:+: whole := by
  induction whole with
  | nil => simp [occurs]
  | cons c rest ih =>
    simp only [occurs, Bool.or_eq_true, List.isPrefixOf_iff_prefix, ih]
    exact List.infix_cons_iff.symm

theorem contains_eq_true_iff {whole part : String} :
    contains whole part = true ↔ part.toList <:+: whole.toList :=
  occurs_eq_true_iff

end Sift.Text
