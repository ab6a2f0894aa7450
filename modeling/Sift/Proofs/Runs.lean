import Sift.Proofs.Steps
import Sift.Proofs.Stores

/-!
# Runs

A run is any sequence of calls, by any number of factories on any caches. The types and their
shapes are those of the world it starts in. Only what was created can be called.

* `Call`, `World.after`, `World.run` -- calls, and what they make of a world;
* `World.Admits`, `World.Admissible` -- what can be called in a world, and in a run;
* `World.WellFormed` -- the invariant of runs: numbers are handed out in order, a factory has a
  cache that exists, and a cache has one entry for each pair, under the pair of its specification;
* `after_stores`, `after_keeps` -- what a call does to the caches: it stores at most one entry, or
  leaves all entries as they are;
* `WellFormed.after`, `WellFormed.run` -- every call preserves the invariant, and so does every run.
-/

namespace Sift

/-! ## 1. Calls -/

/-- A call on a world. Caches and factories are named by their numbers. -/
inductive Call where
  | newCache
  | newFactory (options : Options) (provider : Option Provider) (cache : Option Nat)
  | get (cache : Nat) (pair : Pair)
  | lookup (cache : Nat) (pair : Pair)
  | insertIfAbsent (cache : Nat) (s : Stored)
  | tryInsert (cache : Nat) (h : Handle)
  | register (factory : Nat) (h : Handle)
  | overrideField (factory : Nat) (pair : Pair) (field : String) (type : FieldType)
      (p : Predicate)
  | specification (factory : Nat) (pair : Pair)

/-- The pair a call is about. -/
def Call.pair? : Call → Option Pair
  | .newCache | .newFactory .. => none
  | .get _ pair | .lookup _ pair | .overrideField _ pair .. | .specification _ pair => some pair
  | .insertIfAbsent _ s => some s.handle.pair
  | .tryInsert _ h | .register _ h => some h.pair

/-- The call creates a cache or a factory, or registers a predicate. -/
def Call.changesSettings : Call → Bool
  | .newCache | .newFactory .. | .overrideField .. => true
  | _ => false

namespace World

/-- The world after a call. -/
def after (w : World) : Call → World
  | .newCache => w.newCache.2
  | .newFactory options provider cache => (w.newFactory options provider cache).2
  | .get cache pair => (w.get cache pair).world
  | .lookup cache pair => (w.lookup cache pair).world
  | .insertIfAbsent cache s => (w.insertIfAbsent cache s).world
  | .tryInsert cache h => (w.tryInsert cache h).world
  | .register factory h => (w.register factory h).world
  | .overrideField factory pair field type p => (w.overrideField factory pair field type p).world
  | .specification factory pair => (w.specification factory pair).world

/-- What a call is made on exists. -/
def Admits (w : World) : Call → Prop
  | .newCache | .newFactory _ _ none => True
  | .newFactory _ _ (some cache) => w.HasCache cache
  | .get cache _ | .lookup cache _ | .insertIfAbsent cache _ | .tryInsert cache _ =>
    w.HasCache cache
  | .register factory _ | .overrideField factory .. | .specification factory _ =>
    w.HasFactory factory

instance (w : World) (call : Call) : Decidable (w.Admits call) :=
  match call with
  | .newCache | .newFactory _ _ none => inferInstanceAs (Decidable True)
  | .newFactory _ _ (some cache) => inferInstanceAs (Decidable (w.HasCache cache))
  | .get cache _ | .lookup cache _ | .insertIfAbsent cache _ | .tryInsert cache _ =>
    inferInstanceAs (Decidable (w.HasCache cache))
  | .register factory _ | .overrideField factory .. | .specification factory _ =>
    inferInstanceAs (Decidable (w.HasFactory factory))

/-- The world after a run. -/
def run (w : World) : List Call → World
  | [] => w
  | call :: rest => (w.after call).run rest

/-- Every call of a run is made on what exists by then. -/
def Admissible (w : World) : List Call → Prop
  | [] => True
  | call :: rest => w.Admits call ∧ (w.after call).Admissible rest

instance decidableAdmissible :
    (w : World) → (calls : List Call) → Decidable (w.Admissible calls)
  | _, [] => inferInstanceAs (Decidable True)
  | w, call :: rest =>
    have := decidableAdmissible (w.after call) rest
    inferInstanceAs (Decidable (w.Admits call ∧ (w.after call).Admissible rest))

@[simp] theorem run_nil (w : World) : w.run [] = w := rfl

@[simp] theorem run_cons (w : World) (call : Call) (rest : List Call) :
    w.run (call :: rest) = (w.after call).run rest := rfl

theorem run_append (w : World) (calls more : List Call) :
    w.run (calls ++ more) = (w.run calls).run more := by
  induction calls generalizing w with
  | nil => rfl
  | cons call rest ih => exact ih (w.after call)

theorem admissible_append {w : World} {calls more : List Call} :
    w.Admissible (calls ++ more) ↔ w.Admissible calls ∧ (w.run calls).Admissible more := by
  induction calls generalizing w with
  | nil => exact ⟨fun h => ⟨trivial, h⟩, And.right⟩
  | cons call rest ih =>
    show w.Admits call ∧ (w.after call).Admissible (rest ++ more) ↔ _
    rw [ih, ← and_assoc]
    rfl

/-! ## 2. The invariant -/

/-- **The invariant of runs.** -/
structure WellFormed (w : World) : Prop where
  /-- The number of the next cache is new. -/
  caches : ∀ id, w.HasCache id → id < w.caches.size
  /-- The number of the next factory is new. -/
  factories : ∀ id, w.HasFactory id → id < w.factories.size
  cacheOf : ∀ id, w.HasFactory id → w.HasCache (w.factory id).cache
  distinct : ∀ id, (w.cache id).stored.keys.Nodup
  ownPair : ∀ id pair s, (w.cache id).lookup? pair = some s → s.handle.pair = pair

namespace WellFormed

variable {w : World}

theorem start (shapes : List (TypeName × Shape)) : (World.start shapes).WellFormed := by
  refine ⟨?_, ?_, ?_, ?_, ?_⟩
  · intro id h
    exact absurd h List.not_mem_nil
  · intro id h
    exact absurd h List.not_mem_nil
  · intro id h
    exact absurd h List.not_mem_nil
  · intro id
    exact List.nodup_nil
  · intro id pair s h
    cases h

theorem not_hasCache_size (hw : w.WellFormed) : ¬ w.HasCache w.caches.size :=
  fun h => Nat.lt_irrefl _ (hw.caches _ h)

theorem not_hasFactory_size (hw : w.WellFormed) : ¬ w.HasFactory w.factories.size :=
  fun h => Nat.lt_irrefl _ (hw.factories _ h)

/-- Storing an entry keeps the pairs of a cache distinct. -/
theorem nodup_insertIfAbsent {c : Cache} (h : c.stored.keys.Nodup) (s : Stored) :
    (c.insertIfAbsent s).stored.keys.Nodup := by
  unfold Cache.insertIfAbsent
  split
  · exact h
  · exact Table.nodup_keys_put h _ _

/-- **What stores at most one entry keeps a world well formed.** -/
theorem stores {w' : World} {id : Nat} {pair : Pair} {P : Stored → Prop} (hw : w.WellFormed)
    (h : w.Stores id pair P w') : w'.WellFormed := by
  refine ⟨?_, ?_, ?_, ?_, ?_⟩
  · intro other hother
    rw [Table.size_eq_of_keys h.cacheKeys]
    exact hw.caches other (h.hasCache.mp hother)
  · intro g hg
    rw [Table.size_eq_of_keys h.factoryKeys]
    exact hw.factories g (h.hasFactory.mp hg)
  · intro g hg
    rw [(h.factory g).cache, h.hasCache]
    exact hw.cacheOf g (h.hasFactory.mp hg)
  · intro other
    by_cases hother : other = id
    · subst hother
      rcases h.entry with he | ⟨s, _, _, he⟩
      · rw [he]
        exact hw.distinct other
      · rw [he]
        exact nodup_insertIfAbsent (hw.distinct other) s
    · rw [h.others other hother]
      exact hw.distinct other
  · intro other key s hs
    rcases h.lookup?_eq hs with hbefore | ⟨_, hkey, _, hown, _⟩
    · exact hw.ownPair other key s hbefore
    · rw [hkey]
      exact hown

/-- What keeps the entries of all caches keeps a world well formed, if it numbers what it adds in
    order. -/
theorem keeps {w' : World} (hw : w.WellFormed)
    (hcaches : ∀ id, w'.HasCache id → id < w'.caches.size)
    (hfactories : ∀ id, w'.HasFactory id → id < w'.factories.size)
    (hcacheOf : ∀ id, w'.HasFactory id → w'.HasCache (w'.factory id).cache)
    (hcache : ∀ id, w'.cache id = w.cache id) : w'.WellFormed := by
  refine ⟨hcaches, hfactories, hcacheOf, ?_, ?_⟩
  · intro id
    rw [hcache]
    exact hw.distinct id
  · intro id pair s hs
    rw [hcache] at hs
    exact hw.ownPair id pair s hs

theorem newCache_cache (hw : w.WellFormed) (id : Nat) : w.newCache.2.cache id = w.cache id :=
  World.newCache_cache hw.not_hasCache_size id

theorem hasCache_newCache (hw : w.WellFormed) {id : Nat} :
    w.newCache.2.HasCache id ↔ w.HasCache id ∨ id = w.caches.size := by
  unfold HasCache
  rw [World.newCache_keys hw.not_hasCache_size, List.mem_append, List.mem_singleton]

theorem newCache (hw : w.WellFormed) : w.newCache.2.WellFormed := by
  have hsize : w.newCache.2.caches.size = w.caches.size + 1 :=
    Table.size_eq_succ_of_keys (World.newCache_keys hw.not_hasCache_size)
  refine hw.keeps ?_ hw.factories ?_ hw.newCache_cache
  · intro id hid
    rw [hsize]
    rcases hw.hasCache_newCache.mp hid with hid | rfl
    · exact Nat.lt_succ_of_lt (hw.caches id hid)
    · exact Nat.lt_succ_self _
  · intro id hid
    exact hw.hasCache_newCache.mpr (.inl (hw.cacheOf id hid))

theorem withCacheFor (hw : w.WellFormed) (cache : Option Nat) :
    (w.withCacheFor cache).WellFormed := by
  cases cache with
  | none => exact hw.newCache
  | some _ => exact hw

theorem withCacheFor_cache (hw : w.WellFormed) (cache : Option Nat) (id : Nat) :
    (w.withCacheFor cache).cache id = w.cache id := by
  cases cache with
  | none => exact hw.newCache_cache id
  | some _ => rfl

theorem newFactory_cache (hw : w.WellFormed) (options : Options) (provider : Option Provider)
    (cache : Option Nat) (id : Nat) :
    (w.newFactory options provider cache).2.cache id = w.cache id := by
  rw [newFactory_world]
  exact hw.withCacheFor_cache cache id

theorem hasFactory_newFactory (hw : w.WellFormed) (options : Options) (provider : Option Provider)
    (cache : Option Nat) {id : Nat} :
    (w.newFactory options provider cache).2.HasFactory id ↔
      w.HasFactory id ∨ id = w.factories.size := by
  unfold HasFactory
  rw [newFactory_keys w options provider cache hw.not_hasFactory_size, List.mem_append,
    List.mem_singleton]

theorem newFactory (hw : w.WellFormed) {options : Options} {provider : Option Provider}
    {cache : Option Nat} (ha : w.Admits (.newFactory options provider cache)) :
    (w.newFactory options provider cache).2.WellFormed := by
  have hcaches := newFactory_caches w options provider cache
  have hhas : ∀ id, (w.newFactory options provider cache).2.HasFactory id ↔
      w.HasFactory id ∨ id = w.factories.size := fun _ =>
    hw.hasFactory_newFactory options provider cache
  have hsize : (w.newFactory options provider cache).2.factories.size = w.factories.size + 1 :=
    Table.size_eq_succ_of_keys (newFactory_keys w options provider cache hw.not_hasFactory_size)
  refine hw.keeps ?_ ?_ ?_ (hw.newFactory_cache options provider cache)
  · intro id hid
    unfold HasCache at hid
    rw [hcaches] at hid ⊢
    exact (hw.withCacheFor cache).caches id hid
  · intro id hid
    rw [hsize]
    rcases (hhas id).mp hid with hid | rfl
    · exact Nat.lt_succ_of_lt (hw.factories id hid)
    · exact Nat.lt_succ_self _
  · intro id hid
    unfold HasCache
    rw [hcaches, newFactory_factory]
    split
    · -- the new factory has the cache it was given, or the one that was made for it
      cases cache with
      | none => exact hw.hasCache_newCache.mpr (.inr rfl)
      | some _ => exact ha
    · rename_i hne
      rcases (hhas id).mp hid with hold | rfl
      · cases cache with
        | none => exact hw.hasCache_newCache.mpr (.inl (hw.cacheOf id hold))
        | some _ => exact hw.cacheOf id hold
      · exact absurd rfl hne

theorem overrideField (hw : w.WellFormed) {id : Nat} (hid : w.HasFactory id) (pair : Pair)
    (field : String) (type : FieldType) (p : Predicate) :
    (w.overrideField id pair field type p).world.WellFormed := by
  obtain ⟨_, hcaches, _⟩ := overrideField_keeps w id pair field type p
  have hkeys := overrideField_keys hid pair field type p
  refine hw.keeps ?_ ?_ ?_ ?_
  · intro other hother
    unfold HasCache at hother
    rw [hcaches] at hother ⊢
    exact hw.caches other hother
  · intro g hg
    unfold HasFactory at hg
    rw [hkeys] at hg
    rw [Table.size_eq_of_keys hkeys]
    exact hw.factories g hg
  · intro g hg
    unfold HasFactory at hg
    rw [hkeys] at hg
    obtain ⟨sets, hfactory⟩ := overrideField_factory w id pair field type p g
    unfold HasCache
    rw [hfactory, hcaches]
    exact hw.cacheOf g hg
  · intro other
    unfold cache
    rw [hcaches]

end WellFormed

/-! ## 3. Steps and runs -/

/-- What a call may store that creates nothing and registers no predicate. -/
def CallStores (w : World) : Call → Stored → Prop
  | .insertIfAbsent _ s => fun stored => stored = s
  | .tryInsert _ h | .register _ h => fun stored => stored = ⟨h, .supplied⟩
  | .specification factory pair => w.MayStore factory pair
  | _ => fun _ => False

variable {w : World}

/-- **A call that creates nothing and registers no predicate stores at most one entry**, for its own
    pair. -/
theorem after_stores (hw : w.WellFormed) {call : Call} (ha : w.Admits call)
    (hkeeps : call.changesSettings = false) :
    ∃ id pair, call.pair? = some pair ∧ w.Stores id pair (w.CallStores call) (w.after call) := by
  cases call with
  | newCache => cases hkeeps
  | newFactory options provider cache => cases hkeeps
  | overrideField factory pair field type p => cases hkeeps
  | get cache pair =>
    refine ⟨cache, pair, rfl, ?_⟩
    show w.Stores cache pair _ (w.lookup cache pair).world
    rw [lookup_world]
    exact .refl ..
  | lookup cache pair =>
    refine ⟨cache, pair, rfl, ?_⟩
    show w.Stores cache pair _ (w.lookup cache pair).world
    rw [lookup_world]
    exact .refl ..
  | insertIfAbsent cache s => exact ⟨cache, _, rfl, insertIfAbsent_stores ha rfl⟩
  | tryInsert cache h => exact ⟨cache, _, rfl, tryInsert_stores ha rfl⟩
  | register factory h => exact ⟨_, _, rfl, register_stores (hw.cacheOf factory ha) rfl⟩
  | specification factory pair =>
    exact ⟨_, pair, rfl, specification_stores ha (hw.cacheOf factory ha) pair⟩

/-- A call that creates something or registers a predicate leaves shapes and entries as they
    are. -/
theorem after_keeps (hw : w.WellFormed) {call : Call} (hchanges : call.changesSettings = true) :
    (w.after call).shapes = w.shapes ∧ ∀ id, (w.after call).cache id = w.cache id := by
  cases call with
  | newCache => exact ⟨rfl, hw.newCache_cache⟩
  | newFactory options provider cache =>
    refine ⟨?_, hw.newFactory_cache options provider cache⟩
    cases cache <;> rfl
  | overrideField factory pair field type p =>
    obtain ⟨hshapes, hcaches, _⟩ := overrideField_keeps w factory pair field type p
    refine ⟨hshapes, fun id => ?_⟩
    show (w.overrideField factory pair field type p).world.cache id = w.cache id
    unfold cache
    rw [hcaches]
  | _ => cases hchanges

theorem after_shapes (hw : w.WellFormed) {call : Call} (ha : w.Admits call) :
    (w.after call).shapes = w.shapes := by
  cases hcall : call.changesSettings with
  | true => exact (after_keeps hw hcall).1
  | false =>
    obtain ⟨_, _, _, hstores⟩ := after_stores hw ha hcall
    exact hstores.shapes

/-- **Every call keeps a world well formed.** -/
theorem WellFormed.after (hw : w.WellFormed) {call : Call} (ha : w.Admits call) :
    (w.after call).WellFormed := by
  cases hcall : call.changesSettings with
  | false =>
    obtain ⟨_, _, _, hstores⟩ := after_stores hw ha hcall
    exact hw.stores hstores
  | true =>
    cases call with
    | newCache => exact hw.newCache
    | newFactory options provider cache => exact hw.newFactory ha
    | overrideField factory pair field type p => exact hw.overrideField ha pair field type p
    | _ => cases hcall

theorem WellFormed.run {calls : List Call} (hw : w.WellFormed) (ha : w.Admissible calls) :
    (w.run calls).WellFormed := by
  induction calls generalizing w with
  | nil => exact hw
  | cons call rest ih => exact ih (hw.after ha.1) ha.2

theorem run_shapes {calls : List Call} (hw : w.WellFormed) (ha : w.Admissible calls) :
    (w.run calls).shapes = w.shapes := by
  induction calls generalizing w with
  | nil => rfl
  | cons call rest ih =>
    rw [run_cons, ih (hw.after ha.1) ha.2, after_shapes hw ha.1]

end World

/-! ## 4. A worked world -/

namespace Ticket

def pair : Pair := ⟨⟨"Ticket"⟩, ⟨"TicketFilter"⟩⟩

/-- Two factories with one cache. The provider of the first loses every race. -/
def opening : List Call :=
  [.newCache, .newFactory .default (some (.racing (.compiled .default) none)) (some 0),
    .newFactory .default none (some 0)]

end Ticket

end Sift
