/-!
# Compiler options

Two settings shape every specification that a factory compiles:

* `ignoreIfEmpty` is the emptiness policy of the filter fields that do not choose their own;
* `like` says whether the `like` operator respects case.

Options are stored in configuration files, as a document of nulls, booleans, numbers, texts, arrays
and objects. Reading one is lenient in three ways: missing keys keep their defaults, unknown keys
are ignored, and an array gives the settings by position. It is strict in all others: a key that is
present must hold a value of its own kind, which `null` is not.
-/

namespace Sift

/-- How the `like` operator compares text. -/
inductive LikeMode where
  | ordinal
  | caseInsensitive
  deriving DecidableEq, Repr, Inhabited

namespace LikeMode

/-- The name of the mode in a configuration document. -/
def name : LikeMode → String
  | .ordinal => "ordinal"
  | .caseInsensitive => "case_insensitive"

def ofName? (s : String) : Option LikeMode :=
  [ordinal, caseInsensitive].find? (·.name == s)

/-- The mode as it stands in the inspection text of the options. -/
def inspect : LikeMode → String
  | .ordinal => "Ordinal"
  | .caseInsensitive => "CaseInsensitive"

end LikeMode

structure Options where
  ignoreIfEmpty : Bool
  like : LikeMode
  deriving DecidableEq, Repr

namespace Options

/-- Empty filter values are ignored, and `like` respects case. -/
def default : Options := ⟨true, .ordinal⟩

instance : Inhabited Options := ⟨default⟩

def isDefault (o : Options) : Bool := o == default

def inspect (o : Options) : String :=
  "CompilerOptions \x7b ignore_if_empty: " ++ (if o.ignoreIfEmpty then "true" else "false") ++
    ", like: " ++ o.like.inspect ++ " \x7d"

end Options

/-- A configuration document. Numbers carry no value, because no setting is a number. -/
inductive Document where
  | null
  | bool (b : Bool)
  | number
  | text (s : String)
  | array (items : List Document)
  | object (members : List (String × Document))
  deriving Inhabited

namespace Options

def readBool? : Document → Option Bool
  | .bool b => some b
  | _ => none

/-- A mode is its name, or an object whose only member has that name and holds `null`. -/
def readLike? : Document → Option LikeMode
  | .text s => LikeMode.ofName? s
  | .object [(s, .null)] => LikeMode.ofName? s
  | _ => none

/-- A setting that is absent keeps its default; one that is present has to read. -/
def setting {α : Type} (standard : α) (read : Document → Option α) : Option Document → Option α
  | none => some standard
  | some d => read d

/-- Reads options from a document: by name from an object, by position from an array of at most
    two items. -/
def ofDocument? : Document → Option Options
  | .object members => do
    let ignoreIfEmpty ← setting default.ignoreIfEmpty readBool? (members.lookup "ignore_if_empty")
    let like ← setting default.like readLike? (members.lookup "like")
    return ⟨ignoreIfEmpty, like⟩
  | .array items => do
    if 2 < items.length then none
    let ignoreIfEmpty ← setting default.ignoreIfEmpty readBool? items[0]?
    let like ← setting default.like readLike? items[1]?
    return ⟨ignoreIfEmpty, like⟩
  | _ => none

end Options

end Sift
