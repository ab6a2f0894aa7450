import Sift.Proofs.Settled

/-!
# What a refused registration leaves behind

A registration that is refused because of its field or its type should not be noticed later. It is
not, if the factory has a set of predicates for the pair already: the set is put back as it was.
But the first registration for a pair begins a set before it looks at the field. If it is refused,
the empty set number zero stays, and the factory now expects compiled specifications of the pair to
carry the number zero, which those of a factory without a set do not.

* `answer?`, `IndistinguishableFrom` -- what is noticed: the answers of all later calls through
  factories, in any history, and the number of sets a factory shows;
* `Traced` -- two worlds that are the same but for such a set, and for the number zero in the
  provenance of what was stored on its account;
* `Traced.move`, `Traced.play` -- a simulation: what is done in both worlds keeps them so;
* `Traced.answer?_eq_or` -- and is answered alike, except that a lookup of the pair may be refused
  in one of them because of other settings;
* `World.refused_registration_unnoticed_iff` -- a refused registration goes unnoticed exactly if
  the pair is stored or has a set, and nothing but such refusals comes of it otherwise.
-/

namespace Sift

namespace World

/-! ## 1. What is noticed -/

/-- What a call through a factory answers: a specification, that it is done, or an error. -/
def answer? (w : World) : Call → Option (Except Error (Option Handle))
  | .specification factory pair => some ((w.specification factory pair).reply.map some)
  | .register factory h => some ((w.register factory h).reply.map fun _ => none)
  | .overrideField factory pair field type p =>
    some ((w.overrideField factory pair field type p).reply.map fun _ => none)
  | _ => none

/-- How many pairs a factory has a set of predicates for. -/
def setCount (w : World) (id : Nat) : Nat := (w.factory id).overrides.size

/-- Whatever is done from here on, in both worlds alike, every call through a factory is answered
    alike, and the factory shows as many sets of predicates. -/
def IndistinguishableFrom (w w' : World) (id : Nat) : Prop :=
  (∀ future, w.Playable future → ∀ call, (w.play future).Admits call →
    (w'.play future).answer? call = (w.play future).answer? call) ∧
  w'.setCount id = w.setCount id

/-- One answer is a specification and the other one refuses it because of its settings. -/
def RefusedInOne (pair : Pair) (r r' : Except Error Handle) : Prop :=
  ∃ h, r = .ok h ∧ r' = .error (.configurationMismatch pair) ∨
    r = .error (.configurationMismatch pair) ∧ r' = .ok h

end World

/-! ## 2. Twins -/

/-- The same provenance, or, where there is a mark, with the number zero instead of none. -/
def Provenance.Twin (mark : Prop) (p p' : Provenance) : Prop :=
  p' = p ∨ mark ∧ ∃ options, p = .compiled options none ∧ p' = .compiled options (some 0)

/-- The same specification with twin provenances. -/
structure Stored.Twin (mark : Prop) (s s' : Stored) : Prop where
  handle : s'.handle = s.handle
  provenance : s.provenance.Twin mark s'.provenance

theorem Stored.Twin.refl (mark : Prop) (s : Stored) : s.Twin mark s := ⟨rfl, .inl rfl⟩

/-- The same factory, except that it has the empty set number zero for a marked pair instead of
    none. -/
structure Factory.Twin (mark : Pair → Prop) (g g' : Factory) : Prop where
  options : g'.options = g.options
  provider : g'.provider = g.provider
  cache : g'.cache = g.cache
  asked : g'.asked = g.asked
  sets : ∀ pair, g'.overrides.get? pair = g.overrides.get? pair ∨
    mark pair ∧ g.overrides.get? pair = none ∧ g'.overrides.get? pair = some .begun

namespace Factory.Twin

variable {mark : Pair → Prop} {g g' : Factory}

theorem refl (mark : Pair → Prop) (g : Factory) : g.Twin mark g :=
  ⟨rfl, rfl, rfl, rfl, fun _ => .inl rfl⟩

/-- The empty set is no set, so twins compile with the same predicates. -/
theorem setOf (h : g.Twin mark g') (pair : Pair) :
    (g'.overrides.get? pair).getD .begun = (g.overrides.get? pair).getD .begun := by
  rcases h.sets pair with hsame | ⟨_, hnone, hbegun⟩
  · rw [hsame]
  · rw [hnone, hbegun]
    rfl

theorem overridesOf (h : g.Twin mark g') (pair : Pair) :
    g'.overridesOf pair = g.overridesOf pair := by
  unfold Factory.overridesOf
  rcases h.sets pair with hsame | ⟨_, hnone, hbegun⟩
  · rw [hsame]
  · rw [hnone, hbegun]
    rfl

theorem provenance (h : g.Twin mark g') (pair : Pair) :
    (g.provenance pair).Twin (mark pair) (g'.provenance pair) := by
  unfold Factory.provenance
  rw [h.options]
  rcases h.sets pair with hsame | ⟨hmark, hnone, hbegun⟩
  · rw [hsame]
    exact .inl rfl
  · rw [hnone, hbegun]
    exact .inr ⟨hmark, _, rfl, rfl⟩

/-- Twins that are given the same set stay twins. -/
theorem withSet (h : g.Twin mark g') (pair : Pair) (set : OverrideSet) :
    (g.withSet pair set).Twin mark (g'.withSet pair set) := by
  refine ⟨h.options, h.provider, h.cache, h.asked, fun about => ?_⟩
  simp only [Factory.withSet, Table.get?_put]
  split
  · exact .inl rfl
  · exact h.sets about

end Factory.Twin

/-! ## 3. Two worlds -/

namespace World

/-- **The worlds differ by a trace**: factory `id`, with the cache `home`, may have the empty set
    number zero for the pair in the second world and none in the first, and the entry of the pair
    in this cache may carry the number zero in the second and none in the first. -/
structure Traced (id home : Nat) (pair : Pair) (w w' : World) : Prop where
  shapes : w'.shapes = w.shapes
  nextIdentity : w'.nextIdentity = w.nextIdentity
  nextSet : w'.nextSet = w.nextSet
  cacheKeys : w'.caches.keys = w.caches.keys
  factoryKeys : w'.factories.keys = w.factories.keys
  own : (w.factory id).cache = home
  factory : ∀ g, (w.factory g).Twin (fun about => g = id ∧ about = pair) (w'.factory g)
  entries : ∀ c about, Option.Rel (Stored.Twin (c = home ∧ about = pair))
    ((w.cache c).lookup? about) ((w'.cache c).lookup? about)

namespace Traced

variable {id home : Nat} {pair : Pair} {w w' : World}

theorem compile (h : Traced id home pair w w') : w'.compile = w.compile :=
  compile_of_shapes h.shapes

theorem hasCache (h : Traced id home pair w w') (c : Nat) : w'.HasCache c ↔ w.HasCache c := by
  unfold HasCache
  rw [h.cacheKeys]

theorem hasFactory (h : Traced id home pair w w') (g : Nat) :
    w'.HasFactory g ↔ w.HasFactory g := by
  unfold HasFactory
  rw [h.factoryKeys]

theorem contains (h : Traced id home pair w w') (c : Nat) (about : Pair) :
    (w'.cache c).contains about = (w.cache c).contains about := by
  have hentry := h.entries c about
  unfold Cache.contains
  generalize (w.cache c).lookup? about = found, (w'.cache c).lookup? about = found' at hentry
  cases hentry with
  | none => rfl
  | some _ => rfl

/-- The same calls can be made in both worlds. -/
theorem allows (h : Traced id home pair w w') (m : Move) : w'.Allows m ↔ w.Allows m := by
  cases m with
  | reshape name shape => exact Iff.rfl
  | call c =>
    cases c with
    | newCache => exact Iff.rfl
    | newFactory options provider cache =>
      cases cache with
      | none => exact Iff.rfl
      | some c => exact h.hasCache c
    | get c _ | lookup c _ | insertIfAbsent c _ | tryInsert c _ => exact h.hasCache c
    | register g _ | overrideField g _ _ _ _ | specification g _ => exact h.hasFactory g

/-! ### Changing one cache or one factory -/

theorem putCache (h : Traced id home pair w w') {c : Nat} {k k' : Cache}
    (hk : ∀ about, Option.Rel (Stored.Twin (c = home ∧ about = pair)) (k.lookup? about)
      (k'.lookup? about)) :
    Traced id home pair (w.putCache c k) (w'.putCache c k') := by
  refine ⟨h.shapes, h.nextIdentity, h.nextSet, ?_, h.factoryKeys, h.own, h.factory, ?_⟩
  · simp only [World.putCache, Table.keys_put, h.cacheKeys]
  · intro other about
    rw [cache_putCache, cache_putCache]
    split
    · rename_i hother
      subst hother
      exact hk about
    · exact h.entries other about

theorem putFactory (h : Traced id home pair w w') {g : Nat} {f f' : Factory}
    (hf : f.Twin (fun about => g = id ∧ about = pair) f') (hhome : g = id → f.cache = home) :
    Traced id home pair (w.putFactory g f) (w'.putFactory g f') := by
  refine ⟨h.shapes, h.nextIdentity, h.nextSet, h.cacheKeys, ?_, ?_, ?_, h.entries⟩
  · simp only [World.putFactory, Table.keys_put, h.factoryKeys]
  · rw [factory_putFactory]
    split
    · rename_i hg
      exact hhome hg
    · exact h.own
  · intro other
    rw [factory_putFactory, factory_putFactory]
    split
    · rename_i hother
      subst hother
      exact hf
    · exact h.factory other

theorem make (h : Traced id home pair w w') (made : Pair) (spec : Specification) :
    (w'.make made spec).1 = (w.make made spec).1 ∧
      Traced id home pair (w.make made spec).2 (w'.make made spec).2 := by
  refine ⟨?_, h.shapes, ?_, h.nextSet, h.cacheKeys, h.factoryKeys, h.own, h.factory, h.entries⟩
  · simp only [World.make, h.nextIdentity]
  · simp only [World.make, h.nextIdentity]

theorem insertIfAbsent (h : Traced id home pair w w') {c : Nat} {s s' : Stored}
    (hs : s.Twin (c = home ∧ s.handle.pair = pair) s') :
    (w.insertIfAbsent c s).reply.Twin (c = home ∧ s.handle.pair = pair)
        (w'.insertIfAbsent c s').reply ∧
      Traced id home pair (w.insertIfAbsent c s).world (w'.insertIfAbsent c s').world := by
  have hwinner : ((w.cache c).winner s).Twin (c = home ∧ s.handle.pair = pair)
      ((w'.cache c).winner s') := by
    have hentry := h.entries c s.handle.pair
    unfold Cache.winner
    rw [hs.handle]
    generalize (w.cache c).lookup? s.handle.pair = found,
      (w'.cache c).lookup? s.handle.pair = found' at hentry
    cases hentry with
    | none => exact hs
    | some hfound => exact hfound
  refine ⟨hwinner, h.putCache fun about => ?_⟩
  rw [Cache.lookup?_insertIfAbsent, Cache.lookup?_insertIfAbsent, hs.handle]
  split
  · rename_i habout
    subst habout
    exact .some hwinner
  · exact h.entries c about

/-! ### Operations -/

theorem tryInsert (h : Traced id home pair w w') (c : Nat) (handle : Handle) :
    (w'.tryInsert c handle).reply = (w.tryInsert c handle).reply ∧
      Traced id home pair (w.tryInsert c handle).world (w'.tryInsert c handle).world := by
  unfold World.tryInsert
  simp only [h.contains]
  split
  · exact ⟨rfl, h⟩
  · exact ⟨rfl, (h.insertIfAbsent (s := ⟨handle, .supplied⟩) (.refl _ _)).2⟩

theorem register (h : Traced id home pair w w') (g : Nat) (handle : Handle) :
    (w'.register g handle).reply = (w.register g handle).reply ∧
      Traced id home pair (w.register g handle).world (w'.register g handle).world := by
  obtain ⟨hreply, hworld⟩ := h.tryInsert (w.factory g).cache handle
  rw [register_world, register_world, (h.factory g).cache]
  refine ⟨?_, hworld⟩
  unfold World.register
  simp only [(h.factory g).cache, hreply]
  split <;> rfl

theorem setOf (h : Traced id home pair w w') (g : Nat) (about : Pair) :
    w'.setOf g about = w.setOf g about :=
  (h.factory g).setOf about

theorem withSet (h : Traced id home pair w w') (g : Nat) (about : Pair) (set : OverrideSet) :
    Traced id home pair (w.putFactory g ((w.factory g).withSet about set))
      (w'.putFactory g ((w'.factory g).withSet about set)) := by
  refine h.putFactory ((h.factory g).withSet about set) fun hg => ?_
  subst hg
  exact h.own

/-- **A registration finds the same predicates in both worlds**, and leaves the same behind. -/
theorem overrideField (h : Traced id home pair w w') (g : Nat) (about : Pair) (field : String)
    (type : FieldType) (p : Predicate) :
    (w'.overrideField g about field type p).reply = (w.overrideField g about field type p).reply ∧
      Traced id home pair (w.overrideField g about field type p).world
        (w'.overrideField g about field type p).world := by
  rw [overrideField_eq, overrideField_eq, (h.factory g).cache, h.contains, h.setOf,
    catalog_of_shapes h.shapes]
  split
  · exact ⟨rfl, h⟩
  · split
    · exact ⟨rfl, h.withSet g about _⟩
    · rename_i o _
      have hset := h.withSet g about ⟨w.nextSet, o⟩
      refine ⟨rfl, ?_⟩
      show Traced id home pair (w.withOverrides g about o) (w'.withOverrides g about o)
      unfold withOverrides
      rw [h.nextSet]
      exact ⟨hset.shapes, hset.nextIdentity, rfl, hset.cacheKeys, hset.factoryKeys, hset.own,
        hset.factory, hset.entries⟩

theorem newCache (h : Traced id home pair w w') :
    Traced id home pair w.newCache.2 w'.newCache.2 := by
  show Traced id home pair (w.putCache w.caches.size .empty)
    (w'.putCache w'.caches.size .empty)
  rw [Table.size_eq_of_keys h.cacheKeys]
  exact h.putCache fun _ => .none

theorem newFactory (h : Traced id home pair w w') (hid : id ≠ w.factories.size)
    (options : Options) (provider : Option Provider) (cache : Option Nat) :
    Traced id home pair (w.newFactory options provider cache).2
      (w'.newFactory options provider cache).2 := by
  have hfound : Traced id home pair (w.withCacheFor cache) (w'.withCacheFor cache) := by
    cases cache with
    | some _ => exact h
    | none => exact h.newCache
  rw [newFactory_world, newFactory_world, Table.size_eq_of_keys h.factoryKeys,
    Table.size_eq_of_keys h.cacheKeys]
  exact hfound.putFactory (.refl _ _) fun hg => absurd hg.symm hid

theorem letRival (h : Traced id home pair w w') (c : Nat) (about : Pair) (rival : Rival) :
    Traced id home pair (w.letRival c about rival).world (w'.letRival c about rival).world := by
  cases rival with
  | written p provenance =>
    obtain ⟨hhandle, hmade⟩ := h.make about (.ofPredicate p)
    unfold World.letRival
    simp only [hhandle]
    exact (hmade.insertIfAbsent (.refl _ _)).2
  | shared identity spec provenance => exact (h.insertIfAbsent (.refl _ _)).2
  | compiled options =>
    unfold World.letRival
    simp only [h.compile]
    cases w.compile about .empty options with
    | error _ => exact h
    | ok spec =>
      obtain ⟨hhandle, hmade⟩ := h.make about spec
      simp only [hhandle]
      exact (hmade.insertIfAbsent (.refl _ _)).2

theorem race (h : Traced id home pair w w') (c : Nat) (about : Pair) (rival : Option Rival) :
    Traced id home pair
      (match rival with
        | some r => w.letRival c about r
        | none => ⟨(), w, []⟩).world
      (match rival with
        | some r => w'.letRival c about r
        | none => ⟨(), w', []⟩).world := by
  cases rival with
  | some r => exact h.letRival c about r
  | none => exact h

theorem realise (h : Traced id home pair w w') (offer : Offer) :
    (w'.realise offer).1 = (w.realise offer).1 ∧
      Traced id home pair (w.realise offer).2 (w'.realise offer).2 := by
  cases offer with
  | existing handle => exact ⟨rfl, h⟩
  | fresh made p => exact h.make made (.ofPredicate p)

/-- **A provider answers alike**: it was asked the same questions. -/
theorem ask (h : Traced id home pair w w') (g : Nat) (about : Pair) :
    (w'.ask g about).reply = (w.ask g about).reply ∧
      Traced id home pair (w.ask g about).world (w'.ask g about).world := by
  have hg := h.factory g
  have hasked : Traced id home pair
      (w.putFactory g ⟨(w.factory g).options, (w.factory g).provider, (w.factory g).cache,
        (w.factory g).overrides, (w.factory g).asked ++ [about]⟩)
      (w'.putFactory g ⟨(w.factory g).options, (w.factory g).provider, (w.factory g).cache,
        (w'.factory g).overrides, (w.factory g).asked ++ [about]⟩) := by
    refine h.putFactory ⟨rfl, rfl, rfl, rfl, hg.sets⟩ fun hgid => ?_
    subst hgid
    exact h.own
  unfold World.ask
  simp only [hg.options, hg.provider, hg.cache, hg.asked]
  cases hprovider : (w.factory g).provider with
  | none => exact ⟨rfl, h⟩
  | some provider =>
    rw [hprovider] at hasked
    have hraced := hasked.race (w.factory g).cache about
      (provider.ask (w.factory g).asked about).rival
    simp only
    cases (provider.ask (w.factory g).asked about).offer with
    | none => exact ⟨rfl, hraced⟩
    | some offer =>
      obtain ⟨hhandle, hworld⟩ := hraced.realise offer
      exact ⟨congrArg some hhandle, hworld⟩

/-! ### Lookups -/

/-- Two factories that compare twin provenances hand out the same, or one of them refuses. -/
theorem accept_twin {mark : Prop} {about : Pair} {expected expected' : Provenance} {s s' : Stored}
    (hexpected : expected.Twin mark expected') (hs : s.Twin mark s') :
    (w'.accept about expected' s').reply = (w.accept about expected s).reply ∨
      mark ∧ RefusedInOne about (w.accept about expected s).reply
        (w'.accept about expected' s').reply := by
  by_cases hmark : mark
  · unfold World.accept
    rw [hs.handle]
    split
    · split
      · exact .inl rfl
      · exact .inr ⟨hmark, s.handle, .inr ⟨rfl, rfl⟩⟩
    · split
      · exact .inr ⟨hmark, s.handle, .inl ⟨rfl, rfl⟩⟩
      · exact .inl rfl
  · -- without a mark twins are equal
    have heq : expected' = expected := hexpected.resolve_right fun h => hmark h.1
    have hsame : s'.provenance = s.provenance := hs.provenance.resolve_right fun h => hmark h.1
    left
    unfold World.accept
    rw [heq, hsame, hs.handle]
    split <;> rfl

theorem settle (h : Traced id home pair w w') {c : Nat} {expected expected' : Provenance}
    {s s' : Stored} (hexpected : expected.Twin (c = home ∧ s.handle.pair = pair) expected')
    (hs : s.Twin (c = home ∧ s.handle.pair = pair) s') :
    ((w'.settle c expected' s').reply = (w.settle c expected s).reply ∨
      (c = home ∧ s.handle.pair = pair) ∧ RefusedInOne s.handle.pair
        (w.settle c expected s).reply (w'.settle c expected' s').reply) ∧
      Traced id home pair (w.settle c expected s).world (w'.settle c expected' s').world := by
  obtain ⟨hstored, hworld⟩ := h.insertIfAbsent hs
  unfold World.settle
  simp only [accept_world, hs.handle]
  exact ⟨accept_twin hexpected hstored, hworld⟩

/-- What a factory expects of a pair differs only where the trace is. -/
theorem provenance (h : Traced id home pair w w') (g : Nat) (about : Pair) :
    ((w.factory g).provenance about).Twin ((w.factory g).cache = home ∧ about = pair)
      ((w'.factory g).provenance about) := by
  refine ((h.factory g).provenance about).imp_right fun hmarked => ⟨⟨?_, hmarked.1.2⟩, hmarked.2⟩
  rw [hmarked.1.1]
  exact h.own

theorem obtained (h : Traced id home pair w w') (g : Nat) (about : Pair) :
    ((w'.obtain g about).reply = (w.obtain g about).reply ∨
      ((w.factory g).cache = home ∧ about = pair) ∧ RefusedInOne about
        (w.obtain g about).reply (w'.obtain g about).reply) ∧
      Traced id home pair (w.obtain g about).world (w'.obtain g about).world := by
  have hexpected := h.provenance g about
  obtain ⟨hreply, hasked⟩ := h.ask g about
  unfold World.obtain World.conclude
  simp only [hreply, hasked.compile, (h.factory g).cache, (h.factory g).options,
    (h.factory g).overridesOf]
  cases (w.ask g about).reply with
  | some offered =>
    simp only
    split
    · rename_i habout
      subst habout
      exact hasked.settle (s := ⟨offered, .supplied⟩) hexpected (.refl _ _)
    · exact ⟨.inl rfl, hasked⟩
  | none =>
    simp only
    cases (w.ask g about).world.compile about ((w.factory g).overridesOf about)
        (w.factory g).options with
    | error cause => exact ⟨.inl rfl, hasked⟩
    | ok spec =>
      obtain ⟨hhandle, hmade⟩ := hasked.make about spec
      simp only [hhandle]
      exact hmade.settle (s := ⟨((w.ask g about).world.make about spec).1, _⟩) hexpected
        ⟨rfl, hexpected⟩

/-- **A lookup is answered alike, or refused in one of the worlds**: this can happen only for the
    pair, and only on the cache of the factory. -/
theorem specification (h : Traced id home pair w w') (g : Nat) (about : Pair) :
    ((w'.specification g about).reply = (w.specification g about).reply ∨
      ((w.factory g).cache = home ∧ about = pair) ∧ RefusedInOne about
        (w.specification g about).reply (w'.specification g about).reply) ∧
      Traced id home pair (w.specification g about).world (w'.specification g about).world := by
  have hexpected := h.provenance g about
  have hentry := h.entries (w.factory g).cache about
  unfold World.specification
  simp only [lookup_reply, (h.factory g).cache]
  generalize (w.cache (w.factory g).cache).lookup? about = found,
    (w'.cache (w.factory g).cache).lookup? about = found' at hentry
  cases hentry with
  | none => exact h.obtained g about
  | some hstored =>
    simp only [accept_world]
    exact ⟨accept_twin hexpected hstored, h⟩

/-! ### Histories -/

/-- **What is done in both worlds keeps them the same but for the trace.** -/
theorem move (h : Traced id home pair w w') (hw : w.WellFormed) (hid : w.HasFactory id)
    (m : Move) : Traced id home pair (w.move m) (w'.move m) := by
  cases m with
  | reshape name shape =>
    refine ⟨?_, h.nextIdentity, h.nextSet, h.cacheKeys, h.factoryKeys, h.own, h.factory,
      h.entries⟩
    show (name, shape) :: w'.shapes = (name, shape) :: w.shapes
    rw [h.shapes]
  | call c =>
    cases c with
    | newCache => exact h.newCache
    | newFactory options provider cache =>
      exact h.newFactory (fun heq => hw.not_hasFactory_size (heq ▸ hid)) options provider cache
    | get c about =>
      show Traced id home pair (w.lookup c about).world (w'.lookup c about).world
      rw [lookup_world, lookup_world]
      exact h
    | lookup c about =>
      show Traced id home pair (w.lookup c about).world (w'.lookup c about).world
      rw [lookup_world, lookup_world]
      exact h
    | insertIfAbsent c s => exact (h.insertIfAbsent (.refl _ s)).2
    | tryInsert c handle => exact (h.tryInsert c handle).2
    | register g handle => exact (h.register g handle).2
    | overrideField g about field type p => exact (h.overrideField g about field type p).2
    | specification g about => exact (h.specification g about).2

theorem play (h : Traced id home pair w w') (hw : w.WellFormed) (hid : w.HasFactory id)
    {moves : List Move} (ha : w.Playable moves) :
    w'.Playable moves ∧ Traced id home pair (w.play moves) (w'.play moves) := by
  induction moves generalizing w w' with
  | nil => exact ⟨trivial, h⟩
  | cons m rest ih =>
    obtain ⟨hrest, hplay⟩ := ih (h.move hw hid m) (hw.move ha.1)
      (settingsKept_move hw ha.1 hid).created ha.2
    exact ⟨⟨(h.allows m).mpr ha.1, hrest⟩, hplay⟩

/-- **Every call through a factory is answered alike**, except that a lookup of the pair may be
    refused in one of the worlds. -/
theorem answer?_eq_or (h : Traced id home pair w w') (call : Call) :
    w'.answer? call = w.answer? call ∨
      ∃ g, call = .specification g pair ∧ (w.factory g).cache = home ∧
        RefusedInOne pair (w.specification g pair).reply (w'.specification g pair).reply := by
  cases call with
  | specification g about =>
    rcases (h.specification g about).1 with hsame | ⟨⟨hcache, rfl⟩, hrefused⟩
    · left
      simp only [answer?, hsame]
    · exact .inr ⟨g, rfl, hcache, hrefused⟩
  | register g handle =>
    left
    simp only [answer?, (h.register g handle).1]
  | overrideField g about field type p =>
    left
    simp only [answer?, (h.overrideField g about field type p).1]
  | _ => exact .inl rfl

end Traced

/-! ## 4. Refused registrations -/

section Refused

variable {w : World} {id : Nat}

theorem putFactory_self (hid : w.HasFactory id) : w.putFactory id (w.factory id) = w := by
  obtain ⟨g, hg⟩ := Option.isSome_iff_exists.mp ((Table.get?_isSome_iff w.factories id).mpr hid)
  have hfactory : w.factory id = g := by
    rw [factory, hg]
    rfl
  rw [hfactory, putFactory, Table.put_of_get? hg]

/-- The empty set number zero is all that a refused registration can leave. -/
theorem traced_withSet_begun (hid : w.HasFactory id) {pair : Pair}
    (hnone : (w.factory id).overrides.get? pair = none) :
    Traced id (w.factory id).cache pair w
      (w.putFactory id ((w.factory id).withSet pair .begun)) := by
  refine ⟨rfl, rfl, rfl, rfl, keys_putFactory hid _, rfl, fun g => ?_, fun c about => ?_⟩
  · rw [factory_putFactory]
    split
    · rename_i hg
      subst hg
      refine ⟨rfl, rfl, rfl, rfl, fun about => ?_⟩
      rw [Factory.withSet, Table.get?_put]
      split
      · rename_i habout
        subst habout
        exact .inr ⟨⟨rfl, rfl⟩, hnone, rfl⟩
      · exact .inl rfl
    · exact .refl _ _
  · show Option.Rel _ ((w.cache c).lookup? about) ((w.cache c).lookup? about)
    cases (w.cache c).lookup? about with
    | none => exact .none
    | some s => exact .some (.refl _ s)

/-- **What a refused registration leaves**: nothing, or the empty set number zero for a pair that
    had neither an entry nor a set. -/
theorem refused_world (hid : w.HasFactory id) {pair : Pair} {field : String} {type : FieldType}
    {p : Predicate} {e : Error}
    (hrefused : (w.overrideField id pair field type p).reply = .error e) :
    (w.overrideField id pair field type p).world =
      if (w.cache (w.factory id).cache).contains pair ∨
          ((w.factory id).overrides.get? pair).isSome then w
      else w.putFactory id ((w.factory id).withSet pair .begun) := by
  rw [overrideField_eq] at hrefused ⊢
  by_cases hstored : (w.cache (w.factory id).cache).contains pair = true
  · rw [if_pos hstored, if_pos (.inl hstored)]
  · rw [if_neg hstored] at hrefused ⊢
    split at hrefused
    · cases hset : (w.factory id).overrides.get? pair with
      | some set =>
        -- the set that was there is put back
        rw [if_pos (.inr rfl)]
        have hput : (w.factory id).withSet pair (w.setOf id pair) = w.factory id := by
          rw [setOf, hset, Factory.withSet, Option.getD_some, Table.put_of_get? hset]
        show w.putFactory id ((w.factory id).withSet pair (w.setOf id pair)) = w
        rw [hput, putFactory_self hid]
      | none =>
        rw [if_neg (by simp [hstored])]
        show w.putFactory id ((w.factory id).withSet pair (w.setOf id pair)) = _
        rw [setOf, hset]
        rfl
    · cases hrefused

/-- **When a refused registration goes unnoticed.** After any history: a refused registration cannot
    be noticed in any future exactly if the pair is stored already or the factory has a set of
    predicates for it, and then it has changed nothing at all. Otherwise the factory shows one set
    more; and whatever is done later, all calls through factories are answered as if it had not been
    made, except that a lookup of the pair on the same cache may be refused because of other
    settings where it is handed out otherwise, or the other way round. -/
theorem refused_registration_unnoticed_iff (shapes : List (TypeName × Shape)) {past : List Move}
    (hpast : (World.start shapes).Playable past) {id : Nat}
    (hid : ((World.start shapes).play past).HasFactory id) {pair : Pair} {field : String}
    {type : FieldType} {p : Predicate} {e : Error}
    (hrefused :
      (((World.start shapes).play past).overrideField id pair field type p).reply = .error e) :
    let w := (World.start shapes).play past
    let w' := (w.overrideField id pair field type p).world
    (w.IndistinguishableFrom w' id ↔
      (w.cache (w.factory id).cache).contains pair ∨
        ((w.factory id).overrides.get? pair).isSome) ∧
    (w.IndistinguishableFrom w' id → w' = w) ∧
    (¬ w.IndistinguishableFrom w' id → w'.setCount id = w.setCount id + 1) ∧
    ∀ future, w.Playable future → w'.Playable future ∧
      ∀ call, (w.play future).Admits call →
        (w'.play future).answer? call = (w.play future).answer? call ∨
          ∃ g, call = .specification g pair ∧
            ((w.play future).factory g).cache = (w.factory id).cache ∧
            RefusedInOne pair ((w.play future).specification g pair).reply
              ((w'.play future).specification g pair).reply := by
  intro w w'
  have hw : w.WellFormed := (WellFormed.start shapes).play hpast
  have hworld : w' = _ := refused_world hid hrefused
  by_cases hkept : (w.cache (w.factory id).cache).contains pair ∨
      ((w.factory id).overrides.get? pair).isSome
  · rw [if_pos hkept] at hworld
    have hsame : w.IndistinguishableFrom w' id := by
      rw [hworld]
      exact ⟨fun _ _ _ _ => rfl, rfl⟩
    refine ⟨iff_of_true hsame hkept, fun _ => hworld, fun h => absurd hsame h, ?_⟩
    intro future hfuture
    rw [hworld]
    exact ⟨hfuture, fun _ _ => .inl rfl⟩
  · rw [if_neg hkept] at hworld
    have hnone : (w.factory id).overrides.get? pair = none :=
      Option.not_isSome_iff_eq_none.mp fun h => hkept (.inr h)
    have hcount : w'.setCount id = w.setCount id + 1 := by
      have hkeys : (w'.factory id).overrides.keys = (w.factory id).overrides.keys ++ [pair] := by
        rw [hworld, factory_putFactory, if_pos rfl, Factory.withSet, Table.keys_put]
        exact if_neg ((Table.get?_eq_none_iff _ _).mp hnone)
      exact Table.size_eq_succ_of_keys hkeys
    have hnoticed : ¬ w.IndistinguishableFrom w' id := by
      intro h
      have := h.2
      omega
    refine ⟨iff_of_false hnoticed hkept, fun h => absurd h hnoticed, fun _ => hcount, ?_⟩
    intro future hfuture
    have htraced : Traced id (w.factory id).cache pair w w' := by
      rw [hworld]
      exact traced_withSet_begun hid hnone
    obtain ⟨hplayable, hplay⟩ := htraced.play hw hid hfuture
    exact ⟨hplayable, fun call _ => hplay.answer?_eq_or call⟩

end Refused

end World

namespace Ticket

/-- Two factories with one cache and the same options, and no providers. -/
def desks : List Move :=
  [.call .newCache, .call (.newFactory .default none (some 0)),
    .call (.newFactory .default none (some 0))]

/-- A registration for a field that does not exist is noticed: the second factory compiles the
    pair, and the first one, which would be handed the specification, refuses it. -/
theorem refused_registration_noticed :
    let w := (World.start shapes).play desks
    let done := w.overrideField 0 pair "nope" .text fun _ _ => true
    let future := [Move.call (.specification 1 pair)]
    done.reply = .error (.unknownField "TicketFilter" "nope") ∧
      (∃ h, ((w.play future).specification 0 pair).reply = .ok h) ∧
      ((done.world.play future).specification 0 pair).reply =
        .error (.configurationMismatch pair) ∧
      ¬ w.IndistinguishableFrom done.world 0 := by
  intro w done future
  have hreply : done.reply = .error (.unknownField "TicketFilter" "nope") := rfl
  -- both worlds store the pair as the second factory compiles it, without a set
  have hstored : (((w.play future).cache ((w.play future).factory 0).cache).lookup? pair).map
      (·.provenance) = some (.compiled .default none) := by decide +kernel
  have hstored' : (((done.world.play future).cache
      ((done.world.play future).factory 0).cache).lookup? pair).map (·.provenance) =
        some (.compiled .default none) := by decide +kernel
  have hexpected : ((w.play future).factory 0).provenance pair = .compiled .default none := by
    decide +kernel
  have hexpected' : ((done.world.play future).factory 0).provenance pair =
      .compiled .default (some 0) := by decide +kernel
  obtain ⟨s, hs, hprovenance⟩ := Option.map_eq_some_iff.mp hstored
  obtain ⟨s', hs', hprovenance'⟩ := Option.map_eq_some_iff.mp hstored'
  have hhanded : ((w.play future).specification 0 pair).reply = .ok s.handle := by
    rw [World.specification_of_stored hs, hexpected, hprovenance]
    rfl
  have hrefused : ((done.world.play future).specification 0 pair).reply =
      .error (.configurationMismatch pair) := by
    rw [World.specification_of_stored hs', hexpected', hprovenance']
    rfl
  refine ⟨hreply, ⟨s.handle, hhanded⟩, hrefused, fun hsame => ?_⟩
  have hanswer := hsame.1 future (by decide) (.specification 0 pair) (by decide)
  simp only [World.answer?, hhanded, hrefused] at hanswer
  cases hanswer

/-- After a first predicate for the title a registration for a field that does not exist changes
    nothing. -/
theorem refused_registration_unnoticed_second :
    let past := desks ++ [.call (.overrideField 0 pair "title" .text fun r f =>
      (r.get "title").sameAs (f.get "title"))]
    let w := (World.start shapes).play past
    let done := w.overrideField 0 pair "nope" .text fun _ _ => true
    (World.start shapes).Playable past ∧ w.HasFactory 0 ∧
      done.reply = .error (.unknownField "TicketFilter" "nope") ∧
      w.IndistinguishableFrom done.world 0 ∧ done.world = w := by
  intro past w done
  have hpast : (World.start shapes).Playable past := by decide
  have hid : w.HasFactory 0 := by decide
  have hrefused : done.reply = .error (.unknownField "TicketFilter" "nope") := rfl
  obtain ⟨hiff, hunchanged, _⟩ :=
    World.refused_registration_unnoticed_iff shapes hpast hid hrefused
  have hsame := hiff.mpr (.inr rfl)
  exact ⟨hpast, hid, hrefused, hsame, hunchanged hsame⟩

end Ticket

end Sift
