import Sift.Factory

/-!
# What changes the settings of a factory

Only two operations touch factories: creating one and registering a predicate. Neither touches an
entry of a cache. A registration that is refused because the pair has a specification changes
nothing; one that is refused because of its field or type leaves a set behind, the one there was or
the empty set number zero; and one that is accepted puts the predicate into the set and gives it
the next number.

* `newFactory_factory`, `newCache_cache` -- what creating adds;
* `overrideField_cases` -- the three outcomes of a registration.
-/

namespace Sift

/-- A factory with a set of predicates for a pair. -/
def Factory.withSet (g : Factory) (pair : Pair) (set : OverrideSet) : Factory :=
  ⟨g.options, g.provider, g.cache, g.overrides.put pair set, g.asked⟩

namespace World

@[simp] theorem cache_putCache (w : World) (id other : Nat) (c : Cache) :
    (w.putCache id c).cache other = if id = other then c else w.cache other := by
  simp only [cache, putCache, Table.get?_put]
  split <;> rfl

@[simp] theorem factory_putFactory (w : World) (id other : Nat) (g : Factory) :
    (w.putFactory id g).factory other = if id = other then g else w.factory other := by
  simp only [factory, putFactory, Table.get?_put]
  split <;> rfl

theorem catalog_of_shapes {w w' : World} (h : w'.shapes = w.shapes) : w'.catalog = w.catalog := by
  unfold catalog
  rw [h]

/-- What compiles in a world depends on its shapes alone. -/
theorem compile_of_shapes {w w' : World} (h : w'.shapes = w.shapes) : w'.compile = w.compile := by
  unfold compile
  rw [catalog_of_shapes h]

/-! ## 1. Creating -/

/-- The cache was created. -/
def HasCache (w : World) (id : Nat) : Prop := id ∈ w.caches.keys

/-- The factory was created. -/
def HasFactory (w : World) (id : Nat) : Prop := id ∈ w.factories.keys

instance (w : World) (id : Nat) : Decidable (w.HasCache id) :=
  inferInstanceAs (Decidable (id ∈ w.caches.keys))

instance (w : World) (id : Nat) : Decidable (w.HasFactory id) :=
  inferInstanceAs (Decidable (id ∈ w.factories.keys))

theorem keys_putCache {w : World} {id : Nat} (h : w.HasCache id) (c : Cache) :
    (w.putCache id c).caches.keys = w.caches.keys := by
  simp only [putCache, Table.keys_put]
  exact if_pos h

theorem keys_putFactory {w : World} {id : Nat} (h : w.HasFactory id) (g : Factory) :
    (w.putFactory id g).factories.keys = w.factories.keys := by
  simp only [putFactory, Table.keys_put]
  exact if_pos h

/-- A cache that was not created is empty. -/
theorem cache_eq_empty {w : World} {id : Nat} (h : ¬ w.HasCache id) : w.cache id = .empty := by
  rw [cache, (Table.get?_eq_none_iff w.caches id).mpr h]
  rfl

/-- A factory that was not created has no settings of its own. -/
theorem factory_eq_default {w : World} {id : Nat} (h : ¬ w.HasFactory id) :
    w.factory id = default := by
  rw [factory, (Table.get?_eq_none_iff w.factories id).mpr h]
  rfl

/-- A new cache is empty, as it was before it was created. -/
theorem newCache_cache {w : World} (h : ¬ w.HasCache w.caches.size) (id : Nat) :
    w.newCache.2.cache id = w.cache id := by
  show (w.putCache w.caches.size .empty).cache id = w.cache id
  rw [cache_putCache]
  split
  · rename_i hid
    rw [← hid, cache_eq_empty h]
  · rfl

theorem newCache_keys {w : World} (h : ¬ w.HasCache w.caches.size) :
    w.newCache.2.caches.keys = w.caches.keys ++ [w.caches.size] := by
  show (w.caches.put w.caches.size .empty).keys = _
  rw [Table.keys_put]
  exact if_neg h

section NewFactory

variable (w : World) (options : Options) (provider : Option Provider) (cache : Option Nat)

/-- The world in which a new factory finds its cache. -/
def withCacheFor : World :=
  match cache with
  | some _ => w
  | none => w.newCache.2

theorem newFactory_world : (w.newFactory options provider cache).2 =
    (w.withCacheFor cache).putFactory w.factories.size
      (.start options provider (cache.getD w.caches.size)) := by
  cases cache <;> rfl

theorem newFactory_factory (id : Nat) :
    (w.newFactory options provider cache).2.factory id =
      if w.factories.size = id then .start options provider (cache.getD w.caches.size)
      else w.factory id := by
  rw [newFactory_world, factory_putFactory]
  cases cache <;> rfl

theorem newFactory_caches :
    (w.newFactory options provider cache).2.caches = (w.withCacheFor cache).caches := by
  rw [newFactory_world]
  rfl

theorem newFactory_keys (h : ¬ w.HasFactory w.factories.size) :
    (w.newFactory options provider cache).2.factories.keys =
      w.factories.keys ++ [w.factories.size] := by
  have hsame : (w.withCacheFor cache).factories = w.factories := by
    cases cache <;> rfl
  rw [newFactory_world, putFactory, hsame, Table.keys_put]
  exact if_neg h

end NewFactory

/-! ## 2. Registering predicates -/

/-- The set of predicates a factory has for a pair, the empty set number zero if it has none. -/
def setOf (w : World) (id : Nat) (pair : Pair) : OverrideSet :=
  ((w.factory id).overrides.get? pair).getD .begun

/-- A world in which a factory was given a set of predicates, with the next number. -/
def withOverrides (w : World) (id : Nat) (pair : Pair) (o : Overrides) : World :=
  ⟨w.shapes, w.caches, w.factories.put id ((w.factory id).withSet pair ⟨w.nextSet, o⟩),
    w.nextIdentity, w.nextSet + 1⟩

theorem overridesOf_eq_setOf (w : World) (id : Nat) (pair : Pair) :
    (w.factory id).overridesOf pair = (w.setOf id pair).overrides := by
  unfold Factory.overridesOf setOf
  cases (w.factory id).overrides.get? pair <;> rfl

/-- A registration in the words of this file. -/
theorem overrideField_eq (w : World) (id : Nat) (pair : Pair) (field : String)
    (type : FieldType) (p : Predicate) :
    w.overrideField id pair field type p =
      if (w.cache (w.factory id).cache).contains pair then
        ⟨.error (.alreadyRegistered pair), w, []⟩
      else
        match (w.setOf id pair).overrides.insert (w.catalog pair.filter) field type p with
        | .error e =>
          ⟨.error e, w.putFactory id ((w.factory id).withSet pair (w.setOf id pair)), []⟩
        | .ok o => ⟨.ok (), w.withOverrides id pair o, [.overrideRegistered pair field]⟩ := rfl

/-- **The three outcomes of a registration.** -/
theorem overrideField_cases (w : World) (id : Nat) (pair : Pair) (field : String)
    (type : FieldType) (p : Predicate) :
    let done := w.overrideField id pair field type p
    (∃ e, done.reply = .error e ∧ done.world = w) ∨
      (∃ e, done.reply = .error e ∧
        (w.setOf id pair).overrides.insert (w.catalog pair.filter) field type p = .error e ∧
        done.world = w.putFactory id ((w.factory id).withSet pair (w.setOf id pair))) ∨
      ∃ o, done.reply = .ok () ∧
        (w.setOf id pair).overrides.insert (w.catalog pair.filter) field type p = .ok o ∧
        done.world = w.withOverrides id pair o := by
  simp only
  rw [overrideField_eq]
  split
  · exact .inl ⟨_, rfl, rfl⟩
  · split
    · rename_i e hinsert
      exact .inr (.inl ⟨e, rfl, hinsert, rfl⟩)
    · rename_i o hinsert
      exact .inr (.inr ⟨o, rfl, hinsert, rfl⟩)

/-- A registration changes at most the sets of predicates of its factory. -/
theorem overrideField_keeps (w : World) (id : Nat) (pair : Pair) (field : String)
    (type : FieldType) (p : Predicate) :
    let w' := (w.overrideField id pair field type p).world
    w'.shapes = w.shapes ∧ w'.caches = w.caches ∧
      (w'.factories = w.factories ∨
        ∃ set, w'.factories = w.factories.put id ((w.factory id).withSet pair set)) := by
  simp only
  rcases overrideField_cases w id pair field type p with
    ⟨_, _, h⟩ | ⟨_, _, _, h⟩ | ⟨o, _, _, h⟩
  · rw [h]
    exact ⟨rfl, rfl, .inl rfl⟩
  · rw [h]
    exact ⟨rfl, rfl, .inr ⟨_, rfl⟩⟩
  · rw [h]
    exact ⟨rfl, rfl, .inr ⟨_, rfl⟩⟩

/-- A registration creates no factory. -/
theorem overrideField_keys {w : World} {id : Nat} (hid : w.HasFactory id) (pair : Pair)
    (field : String) (type : FieldType) (p : Predicate) :
    (w.overrideField id pair field type p).world.factories.keys = w.factories.keys := by
  obtain ⟨_, _, hsame | ⟨set, hput⟩⟩ := overrideField_keeps w id pair field type p
  · rw [hsame]
  · rw [hput, Table.keys_put]
    exact if_pos hid

/-- The factories after a registration: the same ones, with the same options, provider and
    cache. -/
theorem overrideField_factory (w : World) (id : Nat) (pair : Pair) (field : String)
    (type : FieldType) (p : Predicate) (g : Nat) :
    ∃ sets, (w.overrideField id pair field type p).world.factory g =
      ⟨(w.factory g).options, (w.factory g).provider, (w.factory g).cache, sets,
        (w.factory g).asked⟩ := by
  obtain ⟨_, _, hsame | ⟨set, hput⟩⟩ := overrideField_keeps w id pair field type p
  · unfold factory
    rw [hsame]
    exact ⟨_, rfl⟩
  · have hfactory : (w.overrideField id pair field type p).world.factory g =
        (w.putFactory id ((w.factory id).withSet pair set)).factory g := by
      unfold factory
      rw [hput]
      rfl
    rw [hfactory, factory_putFactory]
    split
    · rename_i hg
      subst hg
      exact ⟨_, rfl⟩
    · exact ⟨_, rfl⟩

end World

end Sift
