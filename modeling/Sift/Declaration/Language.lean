import Sift.Declaration.Item

/-!
# The language of declarations

The rules for types, bounds, expressions, patterns, statements and items refer to one another. Here
they are tied together: a grammar of one more level uses the grammar below for the phrases within.
Between two tokens a rule goes down at most three levels, so a few levels for each token are enough
for all the phrases that some tokens can hold.
-/

namespace Sift.Declaration

namespace Grammar

/-- The rules above a grammar. -/
def next (g : Grammar) : Grammar :=
  ⟨g.exact, g.typeRule, g.boundRule, g.expressionRule, g.operandRule, g.continuationRule,
    g.standingRule, g.patternRule, g.bodyRule, g.itemRule, g.importTreeRule⟩

/-- The grammar of a number of levels. -/
def ofLevels (exact : Bool) : Nat → Grammar
  | 0 => empty exact
  | n + 1 => (ofLevels exact n).next

/-- A grammar for the phrases among some tokens. With `exact`, brackets hold nothing besides the
    phrase that is looked for in them. -/
def within (exact : Bool) (ts : List Token) : Grammar :=
  ofLevels exact (4 * (Token.weights ts + 1))

end Grammar

end Sift.Declaration
