import Sift.Compile
import Sift.Event
import Sift.Provider

/-!
# Factories

A factory hands out specifications. It looks in its cache, asks its provider and compiles, in this
order, and the first result is stored for good. Several factories may share a cache, so what a
factory finds there may have been compiled by another one; it takes it only if it was compiled
under its own options and its own overrides.

Overrides are compared by number. Every accepted registration gives the set of predicates of the
pair a new number, counted through all factories; the number zero stands for a set that was begun
by a registration that was then refused, and is empty.

A `World` is everything that can change: the shapes, the caches, the factories and the two
counters. Each operation gives its reply, the world after it and what it reports.
-/

namespace Sift

/-! ## 1. State -/

/-- The predicates a factory has for one pair. -/
structure OverrideSet where
  /-- Never greater than the count of registrations that were accepted so far. -/
  number : Nat
  overrides : Overrides

namespace OverrideSet

/-- The set before the first registration was accepted. -/
def begun : OverrideSet := ⟨0, .empty⟩

end OverrideSet

structure Factory where
  options : Options
  provider : Option Provider
  /-- The number of its cache, which may be shared. -/
  cache : Nat
  overrides : Table Pair OverrideSet
  /-- The pairs its provider was asked for, oldest first. -/
  asked : List Pair

namespace Factory

/-- A factory without overrides. -/
def start (options : Options) (provider : Option Provider) (cache : Nat) : Factory :=
  ⟨options, provider, cache, .empty, []⟩

instance : Inhabited Factory := ⟨start .default none 0⟩

/-- The predicates it compiles a pair with. -/
def overridesOf (g : Factory) (pair : Pair) : Overrides :=
  ((g.overrides.get? pair).map (·.overrides)).getD .empty

/-- The provenance of what it compiles for a pair. -/
def provenance (g : Factory) (pair : Pair) : Provenance :=
  .compiled g.options ((g.overrides.get? pair).map (·.number))

/-- Whether it takes a specification with this provenance. -/
def accepts (expected stored : Provenance) : Bool :=
  stored == .supplied || stored == expected

end Factory

structure World where
  shapes : List (TypeName × Shape)
  caches : Table Nat Cache
  factories : Table Nat Factory
  /-- The identity of the next specification that is made. -/
  nextIdentity : Nat
  /-- The number of the next set of overrides. It grows by one with each registration that is
      accepted, so 64 bits are enough for it as long as fewer than `2 ^ 64` are. -/
  nextSet : Nat

/-- The reply of an operation, the world after it and what it reports, oldest first. -/
structure Outcome (α : Type) where
  reply : α
  world : World
  events : List Event

namespace World

def start (shapes : List (TypeName × Shape)) : World := ⟨shapes, .empty, .empty, 0, 1⟩

instance : Inhabited World := ⟨start []⟩

def catalog (w : World) : Catalog := Catalog.ofList w.shapes

def cache (w : World) (id : Nat) : Cache := (w.caches.get? id).getD .empty

def factory (w : World) (id : Nat) : Factory := (w.factories.get? id).getD default

def putCache (w : World) (id : Nat) (c : Cache) : World :=
  ⟨w.shapes, w.caches.put id c, w.factories, w.nextIdentity, w.nextSet⟩

def putFactory (w : World) (id : Nat) (g : Factory) : World :=
  ⟨w.shapes, w.caches, w.factories.put id g, w.nextIdentity, w.nextSet⟩

/-- Changes the shape of a record type. -/
def reshape (w : World) (name : TypeName) (shape : Shape) : World :=
  ⟨(name, shape) :: w.shapes, w.caches, w.factories, w.nextIdentity, w.nextSet⟩

/-- Adds an empty cache and gives its number. -/
def newCache (w : World) : Nat × World :=
  (w.caches.size, w.putCache w.caches.size .empty)

/-- Adds a factory, with a new cache of its own if none is given, and gives its number. -/
def newFactory (w : World) (options : Options) (provider : Option Provider)
    (cache : Option Nat) : Nat × World :=
  let (c, w) :=
    match cache with
    | some c => (c, w)
    | none => w.newCache
  (w.factories.size, w.putFactory w.factories.size (.start options provider c))

/-! ## 2. Specifications and caches -/

/-- Makes a specification with an identity of its own. -/
def make (w : World) (pair : Pair) (spec : Specification) : Handle × World :=
  (⟨w.nextIdentity, pair, spec⟩,
    ⟨w.shapes, w.caches, w.factories, w.nextIdentity + 1, w.nextSet⟩)

/-- The specification that is offered. -/
def realise (w : World) : Offer → Handle × World
  | .existing h => (h, w)
  | .fresh pair p => w.make pair (.ofPredicate p)

def lookup (w : World) (cache : Nat) (pair : Pair) : Outcome (Option Stored) :=
  match (w.cache cache).lookup? pair with
  | some s => ⟨some s, w, [.cacheHit pair]⟩
  | none => ⟨none, w, []⟩

/-- The specification a cache has for a pair, without where it came from. -/
def get (w : World) (cache : Nat) (pair : Pair) : Outcome (Option Handle) :=
  let found := w.lookup cache pair
  ⟨found.reply.map (·.handle), found.world, found.events⟩

/-- Stores a specification unless its pair has one, and gives what is stored. -/
def insertIfAbsent (w : World) (cache : Nat) (s : Stored) : Outcome Stored :=
  let c := w.cache cache
  ⟨c.winner s, w.putCache cache (c.insertIfAbsent s),
    if c.contains s.handle.pair then [.alreadyStored s.handle.pair] else []⟩

/-- Stores a specification written by hand, refusing if its pair has one. -/
def tryInsert (w : World) (cache : Nat) (h : Handle) : Outcome (Except Error Unit) :=
  let c := w.cache cache
  if c.contains h.pair then ⟨.error (.alreadyRegistered h.pair), w, []⟩
  else ⟨.ok (), w.putCache cache (c.insertIfAbsent ⟨h, .supplied⟩), []⟩

/-! ## 3. Factories -/

/-- Hands out what is stored for a pair, if a factory that expects the given provenance takes it. -/
def accept (w : World) (pair : Pair) (expected : Provenance) (s : Stored) :
    Outcome (Except Error Handle) :=
  if Factory.accepts expected s.provenance then ⟨.ok s.handle, w, []⟩
  else ⟨.error (.configurationMismatch pair), w, [.otherSettings pair]⟩

/-- Offers a specification to a cache and hands out what is stored there afterwards. -/
def settle (w : World) (cache : Nat) (expected : Provenance) (s : Stored) :
    Outcome (Except Error Handle) :=
  let stored := w.insertIfAbsent cache s
  let handed := stored.world.accept s.handle.pair expected stored.reply
  ⟨handed.reply, handed.world, stored.events ++ handed.events⟩

/-- Compiles a pair in the present shapes. -/
def compile (w : World) (pair : Pair) (overrides : Overrides) (options : Options) :
    Except Error Specification :=
  Specification.compile w.catalog (w.catalog pair.model) (w.catalog pair.filter) overrides options

/-- What compiling reports when it succeeds. -/
def compileEvents (spec : Specification) : List Event :=
  match spec.plan with
  | some p => Event.ofPlan p
  | none => []

/-- What a rival does in a cache. -/
def letRival (w : World) (cache : Nat) (pair : Pair) : Rival → Outcome Unit
  | .written p provenance =>
    let (h, w) := w.make pair (.ofPredicate p)
    let stored := w.insertIfAbsent cache ⟨h, provenance⟩
    ⟨(), stored.world, stored.events⟩
  | .shared identity spec provenance =>
    let stored := w.insertIfAbsent cache ⟨⟨identity, pair, spec⟩, provenance⟩
    ⟨(), stored.world, stored.events⟩
  | .compiled options =>
    match w.compile pair .empty options with
    | .error _ => ⟨(), w, []⟩
    | .ok spec =>
      let (h, w) := w.make pair spec
      let stored := w.insertIfAbsent cache ⟨h, .compiled options none⟩
      ⟨(), stored.world, compileEvents spec ++ stored.events⟩

/-- Asks the provider of a factory for a pair. -/
def ask (w : World) (id : Nat) (pair : Pair) : Outcome (Option Handle) :=
  let g := w.factory id
  match g.provider with
  | none => ⟨none, w, []⟩
  | some provider =>
    let answer := provider.ask g.asked pair
    let w := w.putFactory id ⟨g.options, g.provider, g.cache, g.overrides, g.asked ++ [pair]⟩
    let raced : Outcome Unit :=
      match answer.rival with
      | some rival => w.letRival g.cache pair rival
      | none => ⟨(), w, []⟩
    match answer.offer with
    | none => ⟨none, raced.world, raced.events⟩
    | some offer =>
      let (h, w) := raced.world.realise offer
      ⟨some h, w, raced.events⟩

/-- The end of a lookup that found nothing, after the provider was asked: its answer is taken, else
    the pair is compiled. `g` is the factory as it was before, so what it expects and what it
    compiles with was settled before the provider was asked. -/
def conclude (g : Factory) (pair : Pair) (asked : Outcome (Option Handle)) :
    Outcome (Except Error Handle) :=
  let expected := g.provenance pair
  match asked.reply with
  | some h =>
    if h.pair = pair then
      let settled := asked.world.settle g.cache expected ⟨h, .supplied⟩
      ⟨settled.reply, settled.world,
        asked.events ++ [.suppliedByProvider pair] ++ settled.events⟩
    else ⟨.error (.providerMismatch pair), asked.world, asked.events⟩
  | none =>
    match asked.world.compile pair (g.overridesOf pair) g.options with
    | .error cause =>
      ⟨.error (.notConfigured pair cause), asked.world,
        asked.events ++ [.notAvailable pair cause]⟩
    | .ok spec =>
      let (h, w) := asked.world.make pair spec
      let settled := w.settle g.cache expected ⟨h, expected⟩
      ⟨settled.reply, settled.world, asked.events ++ compileEvents spec ++ settled.events⟩

/-- The specification of a pair when the cache of the factory has none: from the provider, else from
    the compiler. -/
def obtain (w : World) (id : Nat) (pair : Pair) : Outcome (Except Error Handle) :=
  conclude (w.factory id) pair (w.ask id pair)

/-- Hands out the specification of a pair. -/
def specification (w : World) (id : Nat) (pair : Pair) : Outcome (Except Error Handle) :=
  let g := w.factory id
  let found := w.lookup g.cache pair
  match found.reply with
  | some s =>
    let handed := w.accept pair (g.provenance pair) s
    ⟨handed.reply, handed.world, found.events ++ handed.events⟩
  | none => w.obtain id pair

/-- Registers a specification written by hand with the cache of a factory. -/
def register (w : World) (id : Nat) (h : Handle) : Outcome (Except Error Unit) :=
  let tried := w.tryInsert (w.factory id).cache h
  match tried.reply with
  | .ok _ => ⟨.ok (), tried.world, tried.events ++ [.registered h.pair]⟩
  | .error e => ⟨.error e, tried.world, tried.events⟩

/-- Registers a predicate for a filter field. Once the pair has a specification it is too late. -/
def overrideField (w : World) (id : Nat) (pair : Pair) (field : String) (type : FieldType)
    (p : Predicate) : Outcome (Except Error Unit) :=
  let g := w.factory id
  if (w.cache g.cache).contains pair then ⟨.error (.alreadyRegistered pair), w, []⟩
  else
    let set := (g.overrides.get? pair).getD .begun
    let withSet (s : OverrideSet) : Factory :=
      ⟨g.options, g.provider, g.cache, g.overrides.put pair s, g.asked⟩
    match set.overrides.insert (w.catalog pair.filter) field type p with
    | .error e => ⟨.error e, w.putFactory id (withSet set), []⟩
    | .ok overrides =>
      let w := w.putFactory id (withSet ⟨w.nextSet, overrides⟩)
      ⟨.ok (), ⟨w.shapes, w.caches, w.factories, w.nextIdentity, w.nextSet + 1⟩,
        [.overrideRegistered pair field]⟩

/-- The text of a factory in an inspection. -/
def inspectFactory (w : World) (id : Nat) : String :=
  let g := w.factory id
  "SpecificationFactory \x7b options: " ++ g.options.inspect ++ ", provider: " ++
    (if g.provider.isSome then "true" else "false") ++ ", cache: " ++ (w.cache g.cache).inspect ++
    ", overrides: " ++ toString g.overrides.size ++ " \x7d"

end World

end Sift
