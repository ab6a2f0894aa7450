import Sift.Text.Blank
import Sift.Text.Identifier
import Sift.Text.Quoted

/-!
# The tokens of a declaration

The text of a declaration is a sequence of words, literals, punctuation marks and bracketed groups
of such. Blanks and comments separate tokens and are no tokens; a comment that documents something
stands for an attribute that holds its text. A text that is not such a sequence, because a bracket
or a quote is left open or a character begins no token, is refused as a whole.

Reading takes two steps: the text is cut into lexemes, in which a bracket is a lexeme of its own,
and the lexemes are then nested.
-/

namespace Sift.Declaration

/-! ## 1. Tokens -/

inductive Bracket where
  | round
  | square
  | curly
  deriving DecidableEq, Repr

inductive Token where
  /-- An identifier, a keyword or a lone underscore. A word that is marked as no keyword keeps its
      mark. -/
  | word (spelling : String)
  /-- A text between quotes: the text that is meant, and how it is written. -/
  | text (value spelling : String)
  /-- A number, a character or a sequence of bytes. -/
  | literal (spelling : String)
  /-- A punctuation mark, and whether another one follows at once. -/
  | mark (c : Char) (joined : Bool)
  | group (bracket : Bracket) (inner : List Token)
  deriving Repr, Inhabited

namespace Bracket

def opening : Bracket → String
  | .round => "("
  | .square => "["
  | .curly => "\x7b"

def closing : Bracket → String
  | .round => ")"
  | .square => "]"
  | .curly => "\x7d"

end Bracket

namespace Token

mutual

/-- How a token is written. -/
def spelling : Token → String
  | .word s | .text _ s | .literal s => s
  | .mark c _ => c.toString
  | .group b inner => b.opening ++ spellings inner ++ b.closing

/-- How tokens are written without anything between them. -/
def spellings : List Token → String
  | [] => ""
  | t :: rest => t.spelling ++ spellings rest

end

mutual

/-- The number of tokens in a token, groups and what they hold included. -/
def weight : Token → Nat
  | .group _ inner => weights inner + 1
  | _ => 1

def weights : List Token → Nat
  | [] => 0
  | t :: rest => t.weight + weights rest

end

end Token

/-! ## 2. Blanks and comments -/

/-- Blanks, and the two marks of writing direction. -/
def isGap (c : Char) : Bool :=
  Text.blankTable.has c || c == '\u200e' || c == '\u200f'

/-- A line and what follows it, beginning with the line break. -/
def untilBreak : List Char → List Char × List Char
  | [] => ([], [])
  | '\n' :: rest => ([], '\n' :: rest)
  | '\r' :: '\n' :: rest => ([], '\n' :: rest)
  | c :: rest => ((c :: (untilBreak rest).1), (untilBreak rest).2)

/-- What follows a block comment that is open at a depth. Block comments nest. -/
def afterBlock : Nat → List Char → Option (List Char)
  | 0, rest => some rest
  | depth + 1, '*' :: '/' :: rest => afterBlock depth rest
  | depth + 1, '/' :: '*' :: rest => afterBlock (depth + 2) rest
  | depth + 1, _ :: rest => afterBlock (depth + 1) rest
  | _ + 1, [] => none

/-- What follows a comment. Comments that document something are not passed over. -/
def afterComment? : List Char → Option (List Char)
  | '/' :: '/' :: '/' :: '/' :: rest => some (untilBreak rest).2
  | '/' :: '/' :: '/' :: _ | '/' :: '/' :: '!' :: _ => none
  | '/' :: '/' :: rest => some (untilBreak rest).2
  | '/' :: '*' :: '*' :: '/' :: rest => some rest
  | '/' :: '*' :: '*' :: '*' :: rest => afterBlock 1 ('*' :: '*' :: rest)
  | '/' :: '*' :: '*' :: _ | '/' :: '*' :: '!' :: _ => none
  | '/' :: '*' :: rest => afterBlock 1 rest
  | _ => none

/-- What follows the blanks and comments at the front. A comment that leaves nothing shorter would
    end the search, which keeps it finite. -/
def afterGap (cs : List Char) : List Char :=
  match cs with
  | [] => []
  | c :: rest =>
    if isGap c then afterGap rest
    else
      match afterComment? (c :: rest) with
      | some left => if left.length < rest.length + 1 then afterGap left else c :: rest
      | none => c :: rest
termination_by cs.length

/-- Whether every carriage return is followed by a line feed. -/
def hasWholeBreaks : List Char → Bool
  | [] => true
  | '\r' :: '\n' :: rest => hasWholeBreaks rest
  | '\r' :: _ => false
  | _ :: rest => hasWholeBreaks rest

/-- The text of a block comment without its marks, the first of which has three characters, and
    what follows. -/
def blockText? (cs : List Char) : Option (List Char × List Char) :=
  (afterBlock 1 (cs.drop 2)).map fun rest =>
    ((cs.drop 3).take (cs.length - rest.length - 5), rest)

/-- A comment that documents something: whether it documents what it stands in, its text, and what
    follows. -/
def documentation? (cs : List Char) : Option (Bool × List Char × List Char) := do
  let (inner, text, rest) ←
    match cs with
    | '/' :: '/' :: '!' :: rest => some (true, untilBreak rest)
    | '/' :: '*' :: '!' :: _ => (blockText? cs).map (true, ·)
    | '/' :: '/' :: '/' :: '/' :: _ => none
    | '/' :: '/' :: '/' :: rest => some (false, untilBreak rest)
    | '/' :: '*' :: '*' :: '*' :: _ => none
    | '/' :: '*' :: '*' :: _ => (blockText? cs).map (false, ·)
    | _ => none
  if hasWholeBreaks text then some (inner, text, rest) else none

/-! ## 3. Words -/

/-- A word that may be a keyword. -/
def plainWord? : List Char → Option (String × List Char)
  | [] => none
  | c :: rest =>
    if Text.isIdentifierStart c then
      some (String.ofList (c :: rest.takeWhile Text.isIdentifierContinue),
        rest.dropWhile Text.isIdentifierContinue)
    else none

/-- The words that cannot be marked as no keywords. -/
def reservedWords : List String := ["_", "super", "self", "Self", "crate"]

/-- A word, or one that is marked as no keyword. -/
def word? : List Char → Option (String × List Char)
  | 'r' :: '#' :: rest => do
    let (w, left) ← plainWord? rest
    if reservedWords.contains w then none else some ("r#" ++ w, left)
  | cs => plainWord? cs

/-- What follows the suffix that a literal may have. -/
def afterSuffix (cs : List Char) : List Char :=
  match plainWord? cs with
  | some (_, rest) => rest
  | none => cs

/-! ## 4. Literals -/

def hexDigit? (c : Char) : Option Nat :=
  if c.isDigit then some (c.toNat - '0'.toNat)
  else if 'a' ≤ c ∧ c ≤ 'f' then some (c.toNat - 'a'.toNat + 10)
  else if 'A' ≤ c ∧ c ≤ 'F' then some (c.toNat - 'A'.toNat + 10)
  else none

/-- The character of a code point, if there is one. -/
def charOf? (n : Nat) : Option Char :=
  if n.isValidChar then some (Char.ofNat n) else none

/-- The character of one to six hexadecimal digits, between which underscores may stand. -/
def codePoint? (digits : List Char) : Option Char := do
  if digits.head? = some '_' then none
  let ns ← (digits.filter (· != '_')).mapM hexDigit?
  if ns.isEmpty || 6 < ns.length then none
  charOf? (ns.foldl (fun n d => n * 16 + d) 0)

/-- What stands between quotes. -/
inductive Quotation where
  /-- Characters. -/
  | characters
  /-- Bytes, written as ASCII characters. -/
  | bytes
  /-- Bytes or characters that a zero byte ends, so none of them is one. -/
  | terminated
  deriving DecidableEq, Repr

/-- Whether a character may stand for itself. -/
def Quotation.admits : Quotation → Char → Bool
  | .characters, _ => true
  | .bytes, c => c.toNat < 128
  | .terminated, c => c != '\x00'

/-- Whether a value may be given by two hexadecimal digits: any byte, or a character that is a byte
    of its own. -/
def Quotation.admitsByte : Quotation → Nat → Bool
  | .characters, n => n < 128
  | .bytes, _ => true
  | .terminated, n => n != 0

/-- A character that is written after a backslash. Code points cannot be given among bytes. -/
def escaped? (q : Quotation) : List Char → Option (Char × List Char)
  | 'n' :: rest => some ('\n', rest)
  | 'r' :: rest => some ('\r', rest)
  | 't' :: rest => some ('\t', rest)
  | '0' :: rest => if q.admits '\x00' then some ('\x00', rest) else none
  | '\\' :: rest => some ('\\', rest)
  | '\'' :: rest => some ('\'', rest)
  | '"' :: rest => some ('"', rest)
  | 'x' :: high :: low :: rest => do
    let n := (← hexDigit? high) * 16 + (← hexDigit? low)
    if q.admitsByte n then some (Char.ofNat n, rest) else none
  | 'u' :: '\x7b' :: rest =>
    match rest.dropWhile (· != '\x7d') with
    | _ :: left => do
      let c ← codePoint? (rest.takeWhile (· != '\x7d'))
      if q != .bytes && q.admits c then some (c, left) else none
    | [] => none
  | _ => none

/-- The character after blanks and line breaks, and what follows it. -/
def afterIndent? : List Char → Option (List Char)
  | ' ' :: rest | '\t' :: rest | '\n' :: rest | '\r' :: '\n' :: rest => afterIndent? rest
  | '\r' :: _ | [] => none
  | cs => some cs

/-- What follows a line break that is escaped: blanks up to the next character are passed over. -/
def afterEscapedBreak? : List Char → Option (List Char)
  | '\n' :: rest | '\r' :: '\n' :: rest => afterIndent? rest
  | _ => none

/-- The characters up to the closing quote, and what follows it. A line break of two characters
    counts as one. -/
def quotedChars? (q : Quotation) (cs : List Char) : Option (List Char × List Char) :=
  match cs with
  | [] => none
  | '"' :: rest => some ([], rest)
  | '\r' :: '\n' :: rest => (quotedChars? q rest).map fun (v, left) => ('\n' :: v, left)
  | '\r' :: _ => none
  | '\\' :: rest =>
    match afterEscapedBreak? rest with
    | some left => if left.length ≤ rest.length then quotedChars? q left else none
    | none =>
      match escaped? q rest with
      | some (c, left) =>
        if left.length ≤ rest.length then
          (quotedChars? q left).map fun (v, after) => (c :: v, after)
        else none
      | none => none
  | c :: rest =>
    if q.admits c then (quotedChars? q rest).map fun (v, left) => (c :: v, left) else none
termination_by cs.length

/-- The characters up to a quote that is followed by a number of hashes. Backslashes stand for
    themselves. -/
def rawChars? (q : Quotation) (hashes : Nat) : List Char → Option (List Char × List Char)
  | [] => none
  | c :: rest =>
    if c = '"' ∧ rest.take hashes = List.replicate hashes '#' then some ([], rest.drop hashes)
    else if (c = '\r' ∧ rest.head? ≠ some '\n') ∨ !q.admits c then none
    else (rawChars? q hashes rest).map fun (v, left) => (c :: v, left)

/-- A text between quotes, in the plain or in the raw form, which has at most 255 hashes. -/
def quoted? (q : Quotation) : List Char → Option (List Char × List Char)
  | '"' :: rest => quotedChars? q rest
  | 'r' :: rest =>
    let hashes := (rest.takeWhile (· == '#')).length
    match rest.drop hashes with
    | '"' :: body => if hashes ≤ 255 then rawChars? q hashes body else none
    | _ => none
  | _ => none

/-- What follows a character between single quotes, the first of which is already read. -/
def afterChar? (q : Quotation) : List Char → Option (List Char)
  | '\\' :: rest =>
    match escaped? q rest with
    | some (_, '\'' :: left) => some left
    | _ => none
  | c :: '\'' :: rest => if q.admits c then some rest else none
  | _ => none

/-- What follows the digits of a number with a base. At least one has to be there, and each has to
    be below the base. -/
def afterDigits? (base : Nat) (cs : List Char) : Option (List Char) :=
  let isDigit := fun c : Char => c == '_' || c.isDigit || (base == 16 && (hexDigit? c).isSome)
  let digits := (cs.takeWhile isDigit).filterMap hexDigit?
  if digits.isEmpty || digits.any (base ≤ ·) then none else some (cs.dropWhile isDigit)

/-- What follows an exponent, if there is one. A sign may stand before the first digit. -/
def afterExponent (cs : List Char) : List Char :=
  let isDigit := fun c : Char => c == '_' || c.isDigit
  match cs with
  | e :: rest =>
    let left :=
      match rest.dropWhile (· == '_') with
      | '+' :: left | '-' :: left => left
      | left => left
    if (e = 'e' ∨ e = 'E') ∧ (left.takeWhile isDigit).any Char.isDigit then left.dropWhile isDigit
    else cs
  | [] => []

/-- What follows a fraction, if there is one. A point before another one, or before a word, does not
    belong to a number. -/
def afterFraction (cs : List Char) : List Char :=
  match cs with
  | '.' :: rest =>
    match rest with
    | [] => []
    | c :: _ =>
      if c = '.' ∨ Text.isIdentifierStart c then cs
      else rest.dropWhile fun c => c == '_' || c.isDigit
  | _ => cs

/-- What follows a number. -/
def afterNumber? : List Char → Option (List Char)
  | '0' :: 'x' :: rest => afterDigits? 16 rest
  | '0' :: 'o' :: rest => afterDigits? 8 rest
  | '0' :: 'b' :: rest => afterDigits? 2 rest
  | c :: rest =>
    if c.isDigit then
      some (afterExponent (afterFraction (rest.dropWhile fun c => c == '_' || c.isDigit)))
    else none
  | [] => none

/-- What was cut off the front of a text. -/
def cutOff (cs rest : List Char) : String :=
  String.ofList (cs.take (cs.length - rest.length))

/-- What follows a literal that is no text. -/
def afterLiteral? (cs : List Char) : Option (List Char) :=
  match cs with
  | 'b' :: '\'' :: rest => afterChar? .bytes rest
  | '\'' :: rest => afterChar? .characters rest
  | 'b' :: rest => (quoted? .bytes rest).map (·.2)
  | 'c' :: rest => (quoted? .terminated rest).map (·.2)
  | _ => afterNumber? cs

/-- A literal with its suffix. -/
def literal? (cs : List Char) : Option (Token × List Char) :=
  match quoted? .characters cs with
  | some (v, rest) =>
    let rest := afterSuffix rest
    some (.text (String.ofList v) (cutOff cs rest), rest)
  | none =>
    (afterLiteral? cs).map fun rest =>
      let rest := afterSuffix rest
      (.literal (cutOff cs rest), rest)

/-! ## 5. Lexemes -/

/-- The punctuation marks. A single quote marks the name of a lifetime. -/
def marks : List Char := "~!@#$%^&*-=+|;:,<.>/?'".toList

/-- A punctuation mark. What begins a comment is none. -/
def mark? : List Char → Option (Char × List Char)
  | '/' :: '/' :: _ | '/' :: '*' :: _ => none
  | c :: rest => if marks.contains c then some (c, rest) else none
  | [] => none

/-- The beginnings of literals, none of which begins a word. -/
def literalOpenings : List String :=
  ["r\"", "r#\"", "r##", "b\"", "b'", "br\"", "br#", "c\"", "cr\"", "cr#"]

inductive Lexeme where
  | token (t : Token)
  | opening (b : Bracket)
  | closing (b : Bracket)

/-- A mark as a token. A quote has to be followed by a word, which is not quoted again. Hashes
    belong to words that are marked as no keywords. -/
def markToken? (c : Char) (rest : List Char) : Option Token :=
  if c = '\'' then
    match word? rest with
    | some (w, '#' :: _) => if w.startsWith "r#" then some (.mark c true) else none
    | some (_, '\'' :: _) | none => none
    | some _ => some (.mark c true)
  else some (.mark c (mark? rest).isSome)

/-- How a literal is written that could not be given. -/
def brokenLiteral : String := "(/*ERROR*/)"

/-- The lexeme at the front of a text. -/
def lexeme? (cs : List Char) : Option (Lexeme × List Char) :=
  if brokenLiteral.toList.isPrefixOf cs then
    some (.token (.literal brokenLiteral), cs.drop brokenLiteral.length)
  else match cs with
  | '(' :: rest => some (.opening .round, rest)
  | '[' :: rest => some (.opening .square, rest)
  | '\x7b' :: rest => some (.opening .curly, rest)
  | ')' :: rest => some (.closing .round, rest)
  | ']' :: rest => some (.closing .square, rest)
  | '\x7d' :: rest => some (.closing .curly, rest)
  | _ =>
    match literal? cs with
    | some (t, rest) => some (.token t, rest)
    | none =>
      match mark? cs with
      | some (c, rest) => (markToken? c rest).map fun t => (.token t, rest)
      | none =>
        if literalOpenings.any fun o => o.toList.isPrefixOf cs then none
        else (word? cs).map fun (w, rest) => (.token (.word w), rest)

/-- The attribute that a comment stands for. -/
def documented (inner : Bool) (text : List Char) : List Lexeme :=
  [.token (.mark '#' false)] ++ (if inner then [.token (.mark '!' false)] else []) ++
    [.opening .square, .token (.word "doc"), .token (.mark '=' false),
      .token (.text (String.ofList text) (Text.quoted (String.ofList text))), .closing .square]

/-- The lexemes at the front of a text. -/
def front? (cs : List Char) : Option (List Lexeme × List Char) :=
  match documentation? cs with
  | some (inner, text, rest) => some (documented inner text, rest)
  | none => (lexeme? cs).map fun (l, rest) => ([l], rest)

/-- Cuts a text into lexemes. A lexeme is never empty; one that were would be refused, which keeps
    the cutting finite. -/
def lexemes? (cs : List Char) : Option (List Lexeme) :=
  if (afterGap cs).isEmpty then some []
  else
    match front? (afterGap cs) with
    | some (ls, rest) =>
      if rest.length < cs.length then (lexemes? rest).map (ls ++ ·) else none
    | none => none
termination_by cs.length

/-! ## 6. Nesting -/

/-- Nests lexemes. `outer` holds the brackets that are open, each with the tokens before it;
    `done` the tokens since the innermost one. Both lists of tokens are reversed. -/
def nest? (outer : List (Bracket × List Token)) (done : List Token) :
    List Lexeme → Option (List Token)
  | [] => if outer.isEmpty then some done.reverse else none
  | .token t :: rest => nest? outer (t :: done) rest
  | .opening b :: rest => nest? ((b, done) :: outer) [] rest
  | .closing b :: rest =>
    match outer with
    | (b', before) :: outer =>
      if b = b' then nest? outer (.group b done.reverse :: before) rest else none
    | [] => none

/-- The tokens of a text. -/
def Token.ofText? (s : String) : Option (List Token) :=
  (lexemes? s.toList).bind (nest? [] [])

end Sift.Declaration
