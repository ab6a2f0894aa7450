import Sift.Options
import Sift.Pair
import Sift.Specification
import Sift.Table

/-!
# Caches of specifications

A cache holds at most one specification for each pair of types, and what was stored first stays.
Whoever comes later with a specification of the same pair is handed the stored one instead.

Specifications are functions, so whether two of them are the same one cannot be seen from what they
do. A `Handle` therefore carries an identity, and copies of a handle keep it.
-/

namespace Sift

/-- A specification of a pair, as it is handed around. -/
structure Handle where
  identity : Nat
  pair : Pair
  spec : Specification

namespace Handle

/-- The specification, if it belongs to the pair that is asked for. -/
def ofPair? (h : Handle) (pair : Pair) : Option Handle :=
  if h.pair = pair then some h else none

/-- The text of a handle whose types are not known to the reader. -/
def inspectErased (h : Handle) : String :=
  "ErasedSpecification(" ++ h.pair.display ++ ")"

end Handle

/-- How a stored specification came about. -/
inductive Provenance where
  /-- Written by hand. Good for every factory. -/
  | supplied
  /-- Compiled under these options; `overrides` identifies the set of predicates, if there was
      one. -/
  | compiled (options : Options) (overrides : Option Nat)
  deriving DecidableEq, Repr

structure Stored where
  handle : Handle
  provenance : Provenance

structure Cache where
  stored : Table Pair Stored

namespace Cache

def empty : Cache := ⟨.empty⟩

instance : Inhabited Cache := ⟨empty⟩

def lookup? (c : Cache) (pair : Pair) : Option Stored := c.stored.get? pair

def contains (c : Cache) (pair : Pair) : Bool := (c.lookup? pair).isSome

def size (c : Cache) : Nat := c.stored.size

def isEmpty (c : Cache) : Bool := c.stored.isEmpty

/-- Stores a specification unless its pair has one. -/
def insertIfAbsent (c : Cache) (s : Stored) : Cache :=
  match c.lookup? s.handle.pair with
  | some _ => c
  | none => ⟨c.stored.put s.handle.pair s⟩

/-- What is stored for the pair of a specification after it was offered to the cache. -/
def winner (c : Cache) (s : Stored) : Stored :=
  (c.lookup? s.handle.pair).getD s

def inspect (c : Cache) : String :=
  "SpecificationCache \x7b len: " ++ toString c.size ++ " \x7d"

@[simp] theorem lookup?_empty (pair : Pair) : empty.lookup? pair = none := rfl

/-- An offer for a pair without an entry wins. -/
theorem winner_of_absent {c : Cache} {s : Stored} (h : c.lookup? s.handle.pair = none) :
    c.winner s = s := by
  rw [winner, h]
  rfl

/-- An offer for a pair with an entry loses to it. -/
theorem winner_of_present {c : Cache} {s t : Stored} (h : c.lookup? s.handle.pair = some t) :
    c.winner s = t := by
  rw [winner, h]
  rfl

/-- **What is stored stays; a pair without an entry gets the offered one.** -/
theorem lookup?_insertIfAbsent (c : Cache) (s : Stored) (pair : Pair) :
    (c.insertIfAbsent s).lookup? pair =
      if s.handle.pair = pair then some (c.winner s) else c.lookup? pair := by
  unfold insertIfAbsent winner
  cases h : c.lookup? s.handle.pair with
  | some t =>
    by_cases hp : s.handle.pair = pair
    · subst hp
      simp [h]
    · simp [hp]
  | none =>
    by_cases hp : s.handle.pair = pair
    · subst hp
      simp [lookup?]
    · simp [lookup?, Table.get?_put_of_ne _ _ hp, hp]

end Cache

end Sift
