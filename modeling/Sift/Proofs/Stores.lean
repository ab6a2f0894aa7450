import Sift.Proofs.Settings

/-!
# What an operation stores

A lookup may ask a provider, lose a race, compile and store, and a registration only stores. What
they do to a world comes to the same: one cache may get one entry, for the pair they are about, if
it had none. This file says so once, and everything about runs rests on it.

* `World.Stores` -- from one world to the next, one cache got at most one entry, and the entry has
  a given property. Nothing else changed but what providers were asked;
* `Stores.trans` -- two such steps for one pair are one: the second finds the first one's entry;
* `tryInsert_cases` -- when a registration is accepted, and what it leaves;
* `World.MayStore` -- what a lookup can be the first to store;
* `specification_stores`, `specification_hands` -- what a lookup stores, and that it hands out what
  is stored afterwards.
-/

namespace Sift

/-! ## 1. Caches and factories -/

namespace Cache

theorem contains_eq_true_iff {c : Cache} {pair : Pair} :
    c.contains pair = true ↔ ∃ s, c.lookup? pair = some s :=
  Option.isSome_iff_exists

/-- Of two offers for one pair the second changes nothing. -/
theorem insertIfAbsent_insertIfAbsent (c : Cache) {s t : Stored}
    (h : t.handle.pair = s.handle.pair) :
    (c.insertIfAbsent s).insertIfAbsent t = c.insertIfAbsent s := by
  have hfound : (c.insertIfAbsent s).lookup? t.handle.pair = some (c.winner s) := by
    rw [lookup?_insertIfAbsent, if_pos h.symm]
  rw [insertIfAbsent, hfound]

end Cache

namespace Factory

/-- Two factories differ at most in what their providers were asked. -/
structure SameSettings (g g' : Factory) : Prop where
  options : g'.options = g.options
  provider : g'.provider = g.provider
  cache : g'.cache = g.cache
  overrides : g'.overrides = g.overrides

namespace SameSettings

theorem refl (g : Factory) : g.SameSettings g := ⟨rfl, rfl, rfl, rfl⟩

theorem trans {g g' g'' : Factory} (h : g.SameSettings g') (h' : g'.SameSettings g'') :
    g.SameSettings g'' :=
  ⟨h'.options.trans h.options, h'.provider.trans h.provider, h'.cache.trans h.cache,
    h'.overrides.trans h.overrides⟩

theorem overridesOf {g g' : Factory} (h : g.SameSettings g') (pair : Pair) :
    g'.overridesOf pair = g.overridesOf pair := by
  unfold Factory.overridesOf
  rw [h.overrides]

end SameSettings

theorem accepts_eq_true_iff {expected stored : Provenance} :
    accepts expected stored = true ↔ stored = .supplied ∨ stored = expected := by
  unfold accepts
  rw [Bool.or_eq_true, beq_iff_eq, beq_iff_eq]

end Factory

/-! ## 2. At most one entry -/

namespace World

/-- **From `w` to `w'` the cache got at most one entry**, for the pair, which has the property `P`.
    An entry that was there stays, because it is offered and not put. -/
structure Stores (w : World) (id : Nat) (pair : Pair) (P : Stored → Prop) (w' : World) : Prop where
  shapes : w'.shapes = w.shapes
  nextSet : w'.nextSet = w.nextSet
  cacheKeys : w'.caches.keys = w.caches.keys
  factoryKeys : w'.factories.keys = w.factories.keys
  factory : ∀ g, (w.factory g).SameSettings (w'.factory g)
  others : ∀ other, other ≠ id → w'.cache other = w.cache other
  entry : w'.cache id = w.cache id ∨
    ∃ s, s.handle.pair = pair ∧ P s ∧ w'.cache id = (w.cache id).insertIfAbsent s

namespace Stores

variable {w w' w'' : World} {id : Nat} {pair : Pair} {P : Stored → Prop}

theorem refl (w : World) (id : Nat) (pair : Pair) (P : Stored → Prop) : w.Stores id pair P w :=
  ⟨rfl, rfl, rfl, rfl, fun _ => .refl _, fun _ _ => rfl, .inl rfl⟩

/-- **Two steps for one pair are one**: only the first can find the cache without an entry. -/
theorem trans (h : w.Stores id pair P w') (h' : w'.Stores id pair P w'') :
    w.Stores id pair P w'' := by
  refine ⟨h'.shapes.trans h.shapes, h'.nextSet.trans h.nextSet, h'.cacheKeys.trans h.cacheKeys,
    h'.factoryKeys.trans h.factoryKeys, fun g => (h.factory g).trans (h'.factory g), ?_, ?_⟩
  · intro other hother
    rw [h'.others other hother, h.others other hother]
  · rcases h'.entry with he' | ⟨t, ht, hPt, he'⟩
    · rw [he']
      exact h.entry
    · rcases h.entry with he | ⟨s, hs, hPs, he⟩
      · rw [he', he]
        exact .inr ⟨t, ht, hPt, rfl⟩
      · refine .inr ⟨s, hs, hPs, ?_⟩
        rw [he', he, Cache.insertIfAbsent_insertIfAbsent _ (ht.trans hs.symm)]

theorem hasCache (h : w.Stores id pair P w') {other : Nat} :
    w'.HasCache other ↔ w.HasCache other := by
  unfold HasCache
  rw [h.cacheKeys]

theorem hasFactory (h : w.Stores id pair P w') {g : Nat} : w'.HasFactory g ↔ w.HasFactory g := by
  unfold HasFactory
  rw [h.factoryKeys]

theorem compile (h : w.Stores id pair P w') : w'.compile = w.compile :=
  compile_of_shapes h.shapes

/-- What is in a cache afterwards was there before, or is the entry of the pair. -/
theorem lookup?_eq (h : w.Stores id pair P w') {other : Nat} {key : Pair} {t : Stored}
    (ht : (w'.cache other).lookup? key = some t) :
    (w.cache other).lookup? key = some t ∨
      (other = id ∧ key = pair ∧ (w.cache id).lookup? pair = none ∧
        t.handle.pair = pair ∧ P t) := by
  by_cases hother : other = id
  · subst hother
    rcases h.entry with he | ⟨s, hs, hP, he⟩
    · rw [he] at ht
      exact .inl ht
    · rw [he, Cache.lookup?_insertIfAbsent] at ht
      split at ht
      · rename_i hkey
        subst hkey
        cases ht
        unfold Cache.winner
        cases hfound : (w.cache other).lookup? s.handle.pair with
        | some t => exact .inl rfl
        | none => exact .inr ⟨rfl, hs, hs ▸ hfound, hs, hP⟩
      · exact .inl ht
  · rw [h.others other hother] at ht
    exact .inl ht

/-- **What is in a cache stays there.** -/
theorem lookup?_stays (h : w.Stores id pair P w') {other : Nat} {key : Pair} {t : Stored}
    (ht : (w.cache other).lookup? key = some t) : (w'.cache other).lookup? key = some t := by
  by_cases hother : other = id
  · subst hother
    rcases h.entry with he | ⟨s, hs, hP, he⟩
    · rw [he]
      exact ht
    · rw [he, Cache.lookup?_insertIfAbsent]
      split
      · rename_i hkey
        subst hkey
        rw [Cache.winner_of_present ht]
      · exact ht
  · rw [h.others other hother]
    exact ht

/-- **The entries of other pairs are as they were.** -/
theorem lookup?_of_ne (h : w.Stores id pair P w') {key : Pair} (hkey : key ≠ pair) (other : Nat) :
    (w'.cache other).lookup? key = (w.cache other).lookup? key := by
  cases hafter : (w'.cache other).lookup? key with
  | some t =>
    rcases h.lookup?_eq hafter with hbefore | ⟨_, hpair, _⟩
    · exact hbefore.symm
    · exact absurd hpair hkey
  | none =>
    cases hbefore : (w.cache other).lookup? key with
    | none => rfl
    | some t =>
      rw [h.lookup?_stays hbefore] at hafter
      cases hafter

end Stores

/-! ## 3. Operations on caches -/

section Operations

variable {w : World} {id : Nat} {pair : Pair} {P : Stored → Prop}

@[simp] theorem lookup_world (w : World) (id : Nat) (pair : Pair) :
    (w.lookup id pair).world = w := by
  unfold lookup
  split <;> rfl

@[simp] theorem lookup_reply (w : World) (id : Nat) (pair : Pair) :
    (w.lookup id pair).reply = (w.cache id).lookup? pair := by
  unfold lookup
  split
  · rename_i s hs
    exact hs.symm
  · rename_i hnone
    exact hnone.symm

@[simp] theorem accept_world (w : World) (pair : Pair) (expected : Provenance) (s : Stored) :
    (w.accept pair expected s).world = w := by
  unfold accept
  split <;> rfl

theorem accept_eq_ok_iff {expected : Provenance} {s : Stored} {h : Handle} :
    (w.accept pair expected s).reply = .ok h ↔
      Factory.accepts expected s.provenance = true ∧ s.handle = h := by
  unfold accept
  split <;> simp_all

theorem make_stores (w : World) (id : Nat) (pair made : Pair) (spec : Specification)
    (P : Stored → Prop) : w.Stores id pair P (w.make made spec).2 :=
  ⟨rfl, rfl, rfl, rfl, fun _ => .refl _, fun _ _ => rfl, .inl rfl⟩

theorem insertIfAbsent_stores (hc : w.HasCache id) {s : Stored} (hP : P s) :
    w.Stores id s.handle.pair P (w.insertIfAbsent id s).world := by
  refine ⟨rfl, rfl, keys_putCache hc _, rfl, fun _ => .refl _, fun other hother => ?_, .inr ?_⟩
  · exact (cache_putCache ..).trans (if_neg hother.symm)
  · exact ⟨s, rfl, hP, (cache_putCache ..).trans (if_pos rfl)⟩

/-- After an offer the cache has what the reply says. -/
theorem lookup?_insertIfAbsent_reply (w : World) (id : Nat) (s : Stored) :
    ((w.insertIfAbsent id s).world.cache id).lookup? s.handle.pair =
      some (w.insertIfAbsent id s).reply := by
  simp only [insertIfAbsent, cache_putCache, if_true, Cache.lookup?_insertIfAbsent]

theorem tryInsert_stores (hc : w.HasCache id) {h : Handle} (hP : P ⟨h, .supplied⟩) :
    w.Stores id h.pair P (w.tryInsert id h).world := by
  unfold tryInsert
  simp only
  split
  · exact .refl ..
  · exact insertIfAbsent_stores (s := ⟨h, .supplied⟩) hc hP

/-- **A registration is accepted exactly where the pair has no entry**, and then the cache has the
    specification, as one that was written by hand. A refused one changes nothing. -/
theorem tryInsert_cases (w : World) (id : Nat) (h : Handle) :
    ((w.cache id).lookup? h.pair = none ∧ (w.tryInsert id h).reply = .ok () ∧
      ((w.tryInsert id h).world.cache id).lookup? h.pair = some ⟨h, .supplied⟩) ∨
    ∃ s, (w.cache id).lookup? h.pair = some s ∧
      (w.tryInsert id h).reply = .error (.alreadyRegistered h.pair) ∧
      (w.tryInsert id h).world = w := by
  cases hfound : (w.cache id).lookup? h.pair with
  | some s =>
    have hcontains : (w.cache id).contains h.pair = true :=
      Cache.contains_eq_true_iff.mpr ⟨s, hfound⟩
    have hrefused : w.tryInsert id h = ⟨.error (.alreadyRegistered h.pair), w, []⟩ :=
      if_pos hcontains
    rw [hrefused]
    exact .inr ⟨s, rfl, rfl, rfl⟩
  | none =>
    have hcontains : ¬ (w.cache id).contains h.pair = true := by
      rw [Cache.contains, hfound]
      exact Bool.false_ne_true
    have haccepted : w.tryInsert id h =
        ⟨.ok (), w.putCache id ((w.cache id).insertIfAbsent ⟨h, .supplied⟩), []⟩ :=
      if_neg hcontains
    have hwinner : (w.cache id).winner ⟨h, .supplied⟩ = ⟨h, .supplied⟩ :=
      Cache.winner_of_absent hfound
    rw [haccepted]
    refine .inl ⟨rfl, rfl, ?_⟩
    rw [cache_putCache, if_pos rfl, Cache.lookup?_insertIfAbsent, if_pos rfl, hwinner]

theorem register_reply (w : World) (id : Nat) (h : Handle) :
    (w.register id h).reply = (w.tryInsert (w.factory id).cache h).reply := by
  unfold register
  simp only
  split
  · rename_i hreply
    exact hreply.symm
  · rename_i e hreply
    exact hreply.symm

theorem register_world (w : World) (id : Nat) (h : Handle) :
    (w.register id h).world = (w.tryInsert (w.factory id).cache h).world := by
  unfold register
  simp only
  split <;> rfl

theorem register_stores {g : Nat} (hc : w.HasCache (w.factory g).cache) {h : Handle}
    (hP : P ⟨h, .supplied⟩) : w.Stores (w.factory g).cache h.pair P (w.register g h).world := by
  rw [register_world]
  exact tryInsert_stores hc hP

/-- Judging comes after storing and changes nothing. -/
theorem settle_world (w : World) (id : Nat) (expected : Provenance) (s : Stored) :
    (w.settle id expected s).world = (w.insertIfAbsent id s).world :=
  accept_world ..

theorem settle_stores (hc : w.HasCache id) {expected : Provenance} {s : Stored} (hP : P s) :
    w.Stores id s.handle.pair P (w.settle id expected s).world := by
  rw [settle_world]
  exact insertIfAbsent_stores hc hP

/-- **What is handed out after an offer is what is stored**, whoever offered it. -/
theorem settle_hands {expected : Provenance} {s : Stored} {h : Handle}
    (hr : (w.settle id expected s).reply = .ok h) :
    ∃ t, ((w.settle id expected s).world.cache id).lookup? s.handle.pair = some t ∧
      t.handle = h ∧ Factory.accepts expected t.provenance = true := by
  obtain ⟨haccepts, hhandle⟩ := accept_eq_ok_iff.mp hr
  refine ⟨_, ?_, hhandle, haccepts⟩
  rw [settle_world]
  exact lookup?_insertIfAbsent_reply w id s

end Operations

end World

/-! ## 4. Lookups -/

/-- What a rival may store for a pair. -/
inductive Rival.Makes (w : World) (pair : Pair) : Rival → Stored → Prop where
  | written (identity : Nat) (p : Predicate) (provenance : Provenance) :
      Makes w pair (.written p provenance) ⟨⟨identity, pair, .ofPredicate p⟩, provenance⟩
  | shared (identity : Nat) (spec : Specification) (provenance : Provenance) :
      Makes w pair (.shared identity spec provenance) ⟨⟨identity, pair, spec⟩, provenance⟩
  | compiled (identity : Nat) {options : Options} {spec : Specification}
      (h : w.compile pair .empty options = .ok spec) :
      Makes w pair (.compiled options) ⟨⟨identity, pair, spec⟩, .compiled options none⟩

/-- What a rival makes depends on the world only through what compiles there. -/
theorem Rival.Makes.of_compile_eq {w w' : World} {pair : Pair} {rival : Rival} {s : Stored}
    (hcompile : w'.compile = w.compile) (h : rival.Makes w' pair s) : rival.Makes w pair s := by
  cases h with
  | written identity p provenance => exact .written identity p provenance
  | shared identity spec provenance => exact .shared identity spec provenance
  | compiled identity hspec => exact .compiled identity (hcompile ▸ hspec)

namespace World

/-- **What a lookup can be the first to store**: what the provider answers, what somebody else
    stores while the provider is asked, or what is compiled under the settings of the factory. -/
inductive MayStore (w : World) (id : Nat) (pair : Pair) : Stored → Prop where
  | supplied (h : Handle) : MayStore w id pair ⟨h, .supplied⟩
  | rival {provider : Provider} {rival : Rival} {s : Stored}
      (hprovider : (w.factory id).provider = some provider)
      (hrival : (provider.ask (w.factory id).asked pair).rival = some rival)
      (hmakes : rival.Makes w pair s) : MayStore w id pair s
  | compiled (h : Handle)
      (hcompile : w.compile pair ((w.factory id).overridesOf pair) (w.factory id).options =
        .ok h.spec) : MayStore w id pair ⟨h, (w.factory id).provenance pair⟩

section Lookups

variable {w : World} {id : Nat} {pair : Pair} {P : Stored → Prop}

theorem letRival_stores (hc : w.HasCache id) {rival : Rival}
    (hP : ∀ s, rival.Makes w pair s → P s) :
    w.Stores id pair P (w.letRival id pair rival).world := by
  cases rival with
  | written p provenance =>
    have hmake : w.Stores id pair P (w.make pair (.ofPredicate p)).2 := make_stores ..
    exact hmake.trans (insertIfAbsent_stores (s := ⟨⟨w.nextIdentity, pair, _⟩, provenance⟩)
      (hmake.hasCache.mpr hc) (hP _ (.written ..)))
  | shared identity spec provenance =>
    exact insertIfAbsent_stores (s := ⟨⟨identity, pair, spec⟩, provenance⟩) hc (hP _ (.shared ..))
  | compiled options =>
    unfold letRival
    simp only
    split
    · exact .refl ..
    · rename_i spec hspec
      have hmake : w.Stores id pair P (w.make pair spec).2 := make_stores ..
      exact hmake.trans
        (insertIfAbsent_stores (s := ⟨⟨w.nextIdentity, pair, spec⟩, .compiled options none⟩)
          (hmake.hasCache.mpr hc) (hP _ (.compiled _ hspec)))

/-- If there is a rival, it stores what it makes. -/
theorem race_stores (hc : w.HasCache id) {rival : Option Rival}
    (hP : ∀ r, rival = some r → ∀ s, r.Makes w pair s → P s) :
    w.Stores id pair P (match rival with
      | some r => w.letRival id pair r
      | none => ⟨(), w, []⟩).world := by
  cases rival with
  | some r => exact letRival_stores hc (hP r rfl)
  | none => exact .refl ..

/-- A provider was asked, and nothing else. -/
theorem putFactory_asked_stores (hid : w.HasFactory id) (cache : Nat) (asked : List Pair) :
    w.Stores cache pair P (w.putFactory id ⟨(w.factory id).options, (w.factory id).provider,
      (w.factory id).cache, (w.factory id).overrides, asked⟩) := by
  refine ⟨rfl, rfl, rfl, keys_putFactory hid _, fun g => ?_, fun _ _ => rfl, .inl rfl⟩
  rw [factory_putFactory]
  split
  · rename_i hg
    subst hg
    exact ⟨rfl, rfl, rfl, rfl⟩
  · exact .refl _

theorem realise_stores (w : World) (cache : Nat) (pair : Pair) (P : Stored → Prop)
    (offer : Offer) : w.Stores cache pair P (w.realise offer).2 := by
  cases offer with
  | existing h => exact .refl ..
  | fresh made p => exact make_stores ..

/-- While a provider is asked only a rival stores anything. -/
theorem ask_stores (hid : w.HasFactory id) (hc : w.HasCache (w.factory id).cache)
    (hP : ∀ provider rival s, (w.factory id).provider = some provider →
      (provider.ask (w.factory id).asked pair).rival = some rival → rival.Makes w pair s → P s) :
    w.Stores (w.factory id).cache pair P (w.ask id pair).world := by
  unfold ask
  simp only
  split
  · exact .refl ..
  · rename_i provider hprovider
    have hasked : w.Stores (w.factory id).cache pair P _ :=
      putFactory_asked_stores hid (w.factory id).cache ((w.factory id).asked ++ [pair])
    -- the rival comes first, the offer is realised in the world it leaves
    have hraced : w.Stores (w.factory id).cache pair P _ :=
      hasked.trans (race_stores (hasked.hasCache.mpr hc) fun rival hrival s hs =>
        hP provider rival s hprovider hrival (hs.of_compile_eq hasked.compile))
    split
    · exact hraced
    · exact hraced.trans (realise_stores ..)

theorem obtain_stores (hid : w.HasFactory id) (hc : w.HasCache (w.factory id).cache)
    (hP : ∀ s, w.MayStore id pair s → P s) :
    w.Stores (w.factory id).cache pair P (w.obtain id pair).world := by
  have hasked := ask_stores hid hc fun _ _ s hprovider hrival hs => hP s (.rival hprovider hrival hs)
  unfold obtain conclude
  simp only
  split
  · rename_i h hreply
    split
    · rename_i hpair
      subst hpair
      exact hasked.trans (settle_stores (s := ⟨h, .supplied⟩) (hasked.hasCache.mpr hc)
        (hP _ (.supplied h)))
    · exact hasked
  · split
    · exact hasked
    · rename_i spec hspec
      rw [hasked.compile] at hspec
      have hmake : (w.ask id pair).world.Stores (w.factory id).cache pair P
        ((w.ask id pair).world.make pair spec).2 := make_stores ..
      refine hasked.trans (hmake.trans ?_)
      exact settle_stores (s := ⟨⟨(w.ask id pair).world.nextIdentity, pair, spec⟩, _⟩)
        (hmake.hasCache.mpr (hasked.hasCache.mpr hc)) (hP _ (.compiled _ hspec))

/-- **A lookup stores at most one entry, for its own pair in the cache of its factory.** -/
theorem specification_stores (hid : w.HasFactory id) (hc : w.HasCache (w.factory id).cache)
    (pair : Pair) :
    w.Stores (w.factory id).cache pair (w.MayStore id pair) (w.specification id pair).world := by
  unfold specification
  simp only
  split
  · rw [accept_world]
    exact .refl ..
  · exact obtain_stores hid hc fun _ hs => hs

theorem obtain_hands {h : Handle} (hr : (w.obtain id pair).reply = .ok h) :
    ∃ s, ((w.obtain id pair).world.cache (w.factory id).cache).lookup? pair = some s ∧
      s.handle = h ∧ Factory.accepts ((w.factory id).provenance pair) s.provenance = true := by
  unfold obtain conclude at hr ⊢
  simp only at hr ⊢
  split at hr
  · split at hr
    · rename_i hpair
      subst hpair
      rw [if_pos rfl]
      exact settle_hands hr
    · cases hr
  · split at hr
    · cases hr
    · exact settle_hands hr

/-- **A lookup hands out what is stored afterwards**, and only what its factory takes. -/
theorem specification_hands {h : Handle} (hr : (w.specification id pair).reply = .ok h) :
    ∃ s, ((w.specification id pair).world.cache (w.factory id).cache).lookup? pair = some s ∧
      s.handle = h ∧ Factory.accepts ((w.factory id).provenance pair) s.provenance = true := by
  unfold specification at hr ⊢
  simp only [lookup_reply] at hr ⊢
  split at hr
  · rename_i s hs
    obtain ⟨haccepts, hhandle⟩ := accept_eq_ok_iff.mp hr
    exact ⟨s, by rw [accept_world, hs], hhandle, haccepts⟩
  · exact obtain_hands hr

end Lookups

end World

end Sift
