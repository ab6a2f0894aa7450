import Sift.Cache

/-!
# Providers

A provider is a place outside the compiler that may have a hand-written specification for a pair.
It answers from the pair it is asked for and from what it was asked before. A factory trusts it
only as far as the pair: it may answer with a specification of another one.

Asking takes time, and meanwhile somebody else may store a specification for the pair in the
shared cache. The answer says so: a `Rival` is what was stored there while the provider was asked.
-/

namespace Sift

/-- A specification that is offered: one that exists already, or a new one from a predicate. -/
inductive Offer where
  | existing (h : Handle)
  | fresh (pair : Pair) (p : Predicate)

/-- What somebody else stores for the pair while the provider is asked. -/
inductive Rival where
  /-- A new specification written by hand, stored under some provenance. -/
  | written (p : Predicate) (provenance : Provenance)
  /-- A specification of the pair that exists already, stored under some provenance. -/
  | shared (identity : Nat) (spec : Specification) (provenance : Provenance)
  /-- The pair, compiled without overrides under these options and stored as such. A pair that does
      not compile stores nothing. -/
  | compiled (options : Options)

structure Answer where
  rival : Option Rival
  offer : Option Offer

structure Provider where
  /-- The answer for a pair, after the given pairs were asked for, oldest first. -/
  ask : List Pair → Pair → Answer

namespace Provider

/-- A provider that never has a specification. -/
def declining : Provider := ⟨fun _ _ => ⟨none, none⟩⟩

/-- A provider that answers every question with the same specification. -/
def always (h : Handle) : Provider := ⟨fun _ _ => ⟨none, some (.existing h)⟩⟩

/-- A provider that looks the pair up in a table. -/
def ofTable (t : Table Pair Handle) : Provider :=
  ⟨fun _ pair => ⟨none, (t.get? pair).map .existing⟩⟩

/-- A provider that loses time to a rival, and then answers with a new specification or none. -/
def racing (rival : Rival) (answer : Option Predicate) : Provider :=
  ⟨fun _ pair => ⟨some rival, answer.map (.fresh pair)⟩⟩

end Provider

end Sift
