import Mathlib.Logic.Function.Basic
import Sift.Proofs.Registration
import Sift.Proofs.Runs

/-!
# No factory is served with the settings of another

Factories share caches, and a specification found in a cache is taken if its provenance is the one
the factory would give it now: its options, and the NUMBER of its set of predicates. This file says
that the number is enough.

* `World.registrations` -- the predicates a factory accepted for a pair in the course of a run;
  `overridesOf_run` says that they are what the factory compiles the pair with;
* `World.nextSet_run` -- numbers are given out one after the other, one for each registration that
  is accepted;
* `Call.Honest` -- what a provider lets be stored while it is asked is written by hand or compiled
  without overrides, as its provenance says;
* `World.Ledger` -- the invariant. It speaks of a LEDGER, a set of predicates for each number given
  out so far: every factory's set is the one the ledger has for its number, and every entry was
  compiled with the set the ledger has for the number in its provenance;
* `Ledger.after` -- every call preserves it. An accepted registration adds a line to the ledger;
* `World.number_le_accepted` -- how great the numbers can become;
* `World.configuration_isolated` -- what a factory is handed was written by hand, or is what the
  pair compiles to under its own options and the predicates it accepted itself.
-/

namespace Sift

namespace World

/-! ## 1. What a factory registered -/

/-- The registration a call makes for a pair with a factory, if it is accepted. -/
def registration? (w : World) (id : Nat) (pair : Pair) : Call → Option Registration
  | .overrideField factory about field type p =>
    if factory = id ∧ about = pair then
      match (w.overrideField factory about field type p).reply with
      | .ok _ => some ⟨field, type, p⟩
      | .error _ => none
    else none
  | _ => none

/-- The registrations accepted for a pair by a factory in the course of a run, oldest first. -/
def registrations (w : World) (id : Nat) (pair : Pair) : List Call → List Registration
  | [] => []
  | call :: rest =>
    (w.registration? id pair call).toList ++ (w.after call).registrations id pair rest

variable {w : World}

theorem setOf_putFactory (w : World) (id g : Nat) (pair other : Pair) (set : OverrideSet) :
    (w.putFactory g ((w.factory g).withSet other set)).setOf id pair =
      if g = id ∧ other = pair then set else w.setOf id pair := by
  unfold setOf
  rw [factory_putFactory]
  by_cases hg : g = id
  · subst hg
    rw [if_pos rfl, Factory.withSet, Table.get?_put]
    by_cases hp : other = pair
    · rw [if_pos hp, if_pos ⟨rfl, hp⟩]
      rfl
    · rw [if_neg hp, if_neg fun h => hp h.2]
  · rw [if_neg hg, if_neg fun h => hg h.1]

theorem setOf_withOverrides (w : World) (id g : Nat) (pair other : Pair) (o : Overrides) :
    (w.withOverrides g other o).setOf id pair =
      if g = id ∧ other = pair then ⟨w.nextSet, o⟩ else w.setOf id pair :=
  setOf_putFactory w id g pair other ⟨w.nextSet, o⟩

/-- A registration adds the predicate to its own set, if it is accepted, and to no other. -/
theorem setOf_overrideField (w : World) (id g : Nat) (pair about : Pair) (field : String)
    (type : FieldType) (p : Predicate) :
    ((w.overrideField g about field type p).world.setOf id pair).overrides =
      (w.setOf id pair).overrides.registerAll (w.catalog pair.filter)
        (w.registration? id pair (.overrideField g about field type p)).toList := by
  simp only [registration?]
  rcases overrideField_cases w g about field type p with
    ⟨e, hreply, hworld⟩ | ⟨e, hreply, _, hworld⟩ | ⟨o, hreply, hinsert, hworld⟩
  · rw [hworld, hreply]
    split <;> rfl
  · rw [hworld, hreply, setOf_putFactory]
    by_cases hown : g = id ∧ about = pair
    · obtain ⟨rfl, rfl⟩ := hown
      simp only [and_self, if_true]
      rfl
    · rw [if_neg hown, if_neg hown]
      rfl
  · rw [hworld, hreply, setOf_withOverrides]
    by_cases hown : g = id ∧ about = pair
    · obtain ⟨rfl, rfl⟩ := hown
      simp only [and_self, if_true]
      show o = (w.setOf g about).overrides.register (w.catalog about.filter) ⟨field, type, p⟩
      rw [Overrides.register, hinsert]
    · rw [if_neg hown, if_neg hown]
      rfl

/-- **A call changes the predicates of a pair by the registration it makes.** -/
theorem overridesOf_after (hw : w.WellFormed) {call : Call} (ha : w.Admits call) (id : Nat)
    (pair : Pair) :
    ((w.after call).factory id).overridesOf pair =
      ((w.factory id).overridesOf pair).registerAll (w.catalog pair.filter)
        (w.registration? id pair call).toList := by
  cases hcall : call.changesSettings with
  | false =>
    obtain ⟨_, _, _, hstores⟩ := after_stores hw ha hcall
    rw [(hstores.factory id).overridesOf]
    cases call with
    | overrideField => cases hcall
    | _ => rfl
  | true =>
    cases call with
    | newCache => rfl
    | newFactory options provider cache =>
      show ((w.newFactory options provider cache).2.factory id).overridesOf pair =
        (w.factory id).overridesOf pair
      rw [newFactory_factory]
      split
      · rename_i hid
        rw [← hid, factory_eq_default hw.not_hasFactory_size]
        rfl
      · rfl
    | overrideField g about field type p =>
      rw [overridesOf_eq_setOf, overridesOf_eq_setOf]
      exact setOf_overrideField w id g pair about field type p
    | _ => cases hcall

/-- **A factory compiles a pair with the predicates it accepted for it**, in their order. -/
theorem overridesOf_run {calls : List Call} (hw : w.WellFormed) (ha : w.Admissible calls) (id : Nat)
    (pair : Pair) :
    ((w.run calls).factory id).overridesOf pair =
      ((w.factory id).overridesOf pair).registerAll (w.catalog pair.filter)
        (w.registrations id pair calls) := by
  induction calls generalizing w with
  | nil => rfl
  | cons call rest ih =>
    rw [run_cons, ih (hw.after ha.1) ha.2, overridesOf_after hw ha.1,
      catalog_of_shapes (after_shapes hw ha.1)]
    exact (List.foldl_append ..).symm

/-- Whether a call registers a predicate and is accepted. -/
def acceptsPredicate (w : World) : Call → Bool
  | .overrideField factory pair field type p =>
    (w.overrideField factory pair field type p).reply.toBool
  | _ => false

/-- How many predicates are accepted in the course of a run, by all factories and for all pairs. -/
def acceptedPredicates (w : World) : List Call → Nat
  | [] => 0
  | call :: rest => (w.acceptsPredicate call).toNat + (w.after call).acceptedPredicates rest

/-- A call gives out the next number if it registers a predicate and is accepted, and else none. -/
theorem nextSet_after (hw : w.WellFormed) {call : Call} (ha : w.Admits call) :
    (w.after call).nextSet = w.nextSet + (w.acceptsPredicate call).toNat := by
  cases hcall : call.changesSettings with
  | false =>
    obtain ⟨_, _, _, hstores⟩ := after_stores hw ha hcall
    have hnone : w.acceptsPredicate call = false := by
      cases call with
      | overrideField => cases hcall
      | _ => rfl
    rw [hstores.nextSet, hnone]
    rfl
  | true =>
    cases call with
    | newCache => rfl
    | newFactory options provider cache => cases cache <;> rfl
    | overrideField g about field type p =>
      show (w.overrideField g about field type p).world.nextSet =
        w.nextSet + (w.overrideField g about field type p).reply.toBool.toNat
      rcases overrideField_cases w g about field type p with
        ⟨e, hreply, hworld⟩ | ⟨e, hreply, _, hworld⟩ | ⟨o, hreply, _, hworld⟩
      · rw [hworld, hreply]
        rfl
      · rw [hworld, hreply]
        rfl
      · rw [hworld, hreply]
        rfl
    | _ => cases hcall

/-- **A run gives out as many numbers as it accepts predicates**, one after the other. -/
theorem nextSet_run {calls : List Call} (hw : w.WellFormed) (ha : w.Admissible calls) :
    (w.run calls).nextSet = w.nextSet + w.acceptedPredicates calls := by
  induction calls generalizing w with
  | nil => rfl
  | cons call rest ih =>
    rw [run_cons, ih (hw.after ha.1) ha.2, nextSet_after hw ha.1, acceptedPredicates, Nat.add_assoc]

end World

/-! ## 2. Honest calls -/

/-- A specification that is what its provenance says, without any overrides: written by hand, or
    compiled in the shapes of the world under the options it names. -/
def Stored.Plain (w : World) (s : Stored) : Prop :=
  s.provenance = .supplied ∨ ∃ options, s.provenance = .compiled options none ∧
    w.compile s.handle.pair .empty options = .ok s.handle.spec

/-- While the provider is asked, only plain specifications are stored. -/
def Provider.Honest (w : World) (provider : Provider) : Prop :=
  ∀ asked pair rival, (provider.ask asked pair).rival = some rival →
    ∀ s, rival.Makes w pair s → s.Plain w

/-- Apart from lookups, which compile, only plain specifications are stored. -/
def Call.Honest (w : World) : Call → Prop
  | .newFactory _ provider _ => ∀ p, provider = some p → p.Honest w
  | .insertIfAbsent _ s => s.Plain w
  | _ => True

/-- A rival that compiles without overrides is honest by itself. -/
theorem Rival.Makes.plain_of_compiled {w : World} {pair : Pair} {options : Options} {s : Stored}
    (h : (Rival.compiled options).Makes w pair s) : s.Plain w := by
  cases h with
  | compiled identity hspec => exact .inr ⟨options, rfl, hspec⟩

theorem Stored.Plain.of_compile_eq {w w' : World} {s : Stored} (hcompile : w'.compile = w.compile)
    (h : s.Plain w) : s.Plain w' := by
  unfold Stored.Plain at h ⊢
  rw [hcompile]
  exact h

theorem Provider.Honest.of_compile_eq {w w' : World} {provider : Provider}
    (hcompile : w'.compile = w.compile) (h : provider.Honest w) : provider.Honest w' :=
  fun asked pair rival hrival s hs =>
    (h asked pair rival hrival s (hs.of_compile_eq hcompile)).of_compile_eq hcompile

/-- Honesty is about the shapes, which no call changes. -/
theorem Call.Honest.of_shapes_eq {w w' : World} {call : Call} (hshapes : w'.shapes = w.shapes)
    (h : call.Honest w) : call.Honest w' := by
  have hcompile : w'.compile = w.compile := World.compile_of_shapes hshapes
  cases call with
  | newFactory options provider cache => exact fun p hp => (h p hp).of_compile_eq hcompile
  | insertIfAbsent cache s => exact Stored.Plain.of_compile_eq hcompile h
  | _ => trivial

/-! ## 3. The ledger -/

/-- An entry was compiled with the predicates that the ledger has for the number in its provenance,
    and with none if there is no number. -/
def Stored.Recorded (w : World) (ledger : Nat → Overrides) (s : Stored) : Prop :=
  match s.provenance with
  | .supplied => True
  | .compiled options none => w.compile s.handle.pair .empty options = .ok s.handle.spec
  | .compiled options (some n) =>
    n < w.nextSet ∧ w.compile s.handle.pair (ledger n) options = .ok s.handle.spec

namespace World

/-- **The invariant.** The ledger has a set of predicates for every number given out so far, and
    sets and entries are what it says they are. -/
structure Ledger (w : World) (ledger : Nat → Overrides) : Prop where
  /-- Number zero is the empty set of every factory that was only refused. -/
  zero : ledger 0 = .empty
  positive : 0 < w.nextSet
  sets : ∀ id pair set, (w.factory id).overrides.get? pair = some set →
    set.number < w.nextSet ∧ set.overrides = ledger set.number
  entries : ∀ id pair s, (w.cache id).lookup? pair = some s → s.Recorded w ledger
  providers : ∀ id provider, (w.factory id).provider = some provider → provider.Honest w

end World

theorem Stored.Plain.recorded {w : World} {ledger : Nat → Overrides} {s : Stored}
    (h : s.Plain w) : s.Recorded w ledger := by
  unfold Stored.Recorded
  rcases h with h | ⟨options, h, hcompile⟩
  · rw [h]
    trivial
  · rw [h]
    exact hcompile

/-- A world that compiles alike and has given out no fewer numbers takes over what is recorded, if
    its ledger agrees on the numbers there were. -/
theorem Stored.Recorded.mono {w w' : World} {ledger ledger' : Nat → Overrides} {s : Stored}
    (hcompile : w'.compile = w.compile) (hnext : w.nextSet ≤ w'.nextSet)
    (hledger : ∀ n, n < w.nextSet → ledger' n = ledger n) (h : s.Recorded w ledger) :
    s.Recorded w' ledger' := by
  unfold Stored.Recorded at h ⊢
  split
  · trivial
  · rename_i options hp
    rw [hp] at h
    rw [hcompile]
    exact h
  · rename_i options n hp
    rw [hp] at h
    obtain ⟨hn, hspec⟩ := h
    rw [hcompile, hledger n hn]
    exact ⟨Nat.lt_of_lt_of_le hn hnext, hspec⟩

namespace World

namespace Ledger

variable {w : World} {ledger : Nat → Overrides}

theorem start (shapes : List (TypeName × Shape)) :
    (World.start shapes).Ledger fun _ => .empty := by
  refine ⟨rfl, Nat.one_pos, ?_, ?_, ?_⟩
  · intro id pair set h
    cases h
  · intro id pair s h
    cases h
  · intro id provider h
    cases h

/-- The set a factory has for a pair is the one the ledger has for its number. -/
theorem setOf (hl : w.Ledger ledger) (id : Nat) (pair : Pair) :
    (w.setOf id pair).number < w.nextSet ∧
      (w.setOf id pair).overrides = ledger (w.setOf id pair).number := by
  unfold World.setOf
  cases h : (w.factory id).overrides.get? pair with
  | none => exact ⟨hl.positive, hl.zero.symm⟩
  | some set => exact hl.sets id pair set h

/-- **What a lookup may store is recorded.** -/
theorem recorded_of_mayStore (hl : w.Ledger ledger) {id : Nat} {pair : Pair} {s : Stored}
    (hs : w.MayStore id pair s) (hpair : s.handle.pair = pair) : s.Recorded w ledger := by
  cases hs with
  | supplied h => trivial
  | rival hprovider hrival hmakes =>
    exact (hl.providers id _ hprovider _ _ _ hrival s hmakes).recorded
  | compiled h hcompile =>
    have hpair : h.pair = pair := hpair
    subst hpair
    unfold Stored.Recorded Factory.provenance
    cases hset : (w.factory id).overrides.get? h.pair with
    | none =>
      simp only [Factory.overridesOf, hset] at hcompile
      exact hcompile
    | some set =>
      obtain ⟨hnumber, hledger⟩ := hl.sets id h.pair set hset
      simp only [Factory.overridesOf, hset, Option.map_some, Option.getD_some, hledger] at hcompile
      exact ⟨hnumber, hcompile⟩

/-- **A step that stores at most one recorded entry preserves the invariant.** -/
theorem stores {w' : World} {id : Nat} {pair : Pair} {P : Stored → Prop} (hl : w.Ledger ledger)
    (h : w.Stores id pair P w')
    (hP : ∀ s, s.handle.pair = pair → P s → s.Recorded w ledger) : w'.Ledger ledger := by
  have recorded : ∀ s : Stored, s.Recorded w ledger → s.Recorded w' ledger := fun s hs =>
    hs.mono h.compile (Nat.le_of_eq h.nextSet.symm) fun _ _ => rfl
  refine ⟨hl.zero, by rw [h.nextSet]; exact hl.positive, ?_, ?_, ?_⟩
  · intro g about set hset
    rw [(h.factory g).overrides] at hset
    rw [h.nextSet]
    exact hl.sets g about set hset
  · intro other about s hs
    rcases h.lookup?_eq hs with hbefore | ⟨_, _, _, hpair, hPs⟩
    · exact recorded s (hl.entries other about s hbefore)
    · exact recorded s (hP s hpair hPs)
  · intro g provider hprovider
    rw [(h.factory g).provider] at hprovider
    exact (hl.providers g provider hprovider).of_compile_eq h.compile

/-- A step that leaves shapes and entries as they are preserves the invariant, if the ledger goes
    on from where it was and has the sets of all factories. -/
theorem keeps {w' : World} {ledger' : Nat → Overrides} (hl : w.Ledger ledger)
    (hshapes : w'.shapes = w.shapes) (hcache : ∀ id, w'.cache id = w.cache id)
    (hnext : w.nextSet ≤ w'.nextSet) (hledger : ∀ n, n < w.nextSet → ledger' n = ledger n)
    (hsets : ∀ id pair set, (w'.factory id).overrides.get? pair = some set →
      set.number < w'.nextSet ∧ set.overrides = ledger' set.number)
    (hproviders : ∀ id provider, (w'.factory id).provider = some provider →
      provider.Honest w) : w'.Ledger ledger' := by
  have hcompile : w'.compile = w.compile := compile_of_shapes hshapes
  refine ⟨?_, Nat.lt_of_lt_of_le hl.positive hnext, hsets, ?_, ?_⟩
  · rw [hledger 0 hl.positive]
    exact hl.zero
  · intro id pair s hs
    rw [hcache] at hs
    exact (hl.entries id pair s hs).mono hcompile hnext hledger
  · intro id provider hprovider
    exact (hproviders id provider hprovider).of_compile_eq hcompile

theorem newFactory (hl : w.Ledger ledger) (hw : w.WellFormed) {options : Options}
    {provider : Option Provider} {cache : Option Nat}
    (hhonest : ∀ p, provider = some p → p.Honest w) :
    (w.newFactory options provider cache).2.Ledger ledger := by
  refine hl.keeps ?_ (hw.newFactory_cache options provider cache) ?_ (fun _ _ => rfl) ?_ ?_
  · cases cache <;> rfl
  · cases cache <;> exact Nat.le_refl _
  · intro id pair set hset
    have hnext : (w.newFactory options provider cache).2.nextSet = w.nextSet := by
      cases cache <;> rfl
    rw [hnext]
    rw [newFactory_factory] at hset
    split at hset
    · cases hset
    · exact hl.sets id pair set hset
  · intro id p hp
    rw [newFactory_factory] at hp
    split at hp
    · exact hhonest p hp
    · exact hl.providers id p hp

/-- The sets of a factory after it was given one more. -/
theorem sets_withSet {next : Nat} {set : OverrideSet}
    (hsets : ∀ id pair s, (w.factory id).overrides.get? pair = some s →
      s.number < next ∧ s.overrides = ledger s.number)
    (hset : set.number < next ∧ set.overrides = ledger set.number) (g : Nat) (about : Pair)
    (id : Nat) (pair : Pair) (s : OverrideSet)
    (hs : ((w.putFactory g ((w.factory g).withSet about set)).factory id).overrides.get? pair =
      some s) : s.number < next ∧ s.overrides = ledger s.number := by
  rw [factory_putFactory] at hs
  split at hs
  · rw [Factory.withSet, Table.get?_put] at hs
    split at hs
    · cases hs
      exact hset
    · exact hsets g pair s hs
  · exact hsets id pair s hs

/-- **An accepted registration adds a line to the ledger**, and a refused one leaves it as it is. -/
theorem overrideField (hl : w.Ledger ledger) (id : Nat) (pair : Pair) (field : String)
    (type : FieldType) (p : Predicate) :
    ∃ ledger', (w.overrideField id pair field type p).world.Ledger ledger' := by
  have hproviders : ∀ g provider,
      ((w.overrideField id pair field type p).world.factory g).provider = some provider →
        provider.Honest w := by
    intro g provider hprovider
    obtain ⟨sets, hfactory⟩ := overrideField_factory w id pair field type p g
    rw [hfactory] at hprovider
    exact hl.providers g provider hprovider
  rcases overrideField_cases w id pair field type p with
    ⟨_, _, hworld⟩ | ⟨_, _, _, hworld⟩ | ⟨o, _, _, hworld⟩
  · rw [hworld]
    exact ⟨ledger, hl⟩
  · rw [hworld] at hproviders ⊢
    exact ⟨ledger, hl.keeps rfl (fun _ => rfl) (Nat.le_refl _) (fun _ _ => rfl)
      (sets_withSet hl.sets (hl.setOf id pair) id pair) hproviders⟩
  · rw [hworld] at hproviders ⊢
    have hold : ∀ n, n < w.nextSet → Function.update ledger w.nextSet o n = ledger n :=
      fun n hn => Function.update_of_ne (Nat.ne_of_lt hn) ..
    refine ⟨Function.update ledger w.nextSet o, hl.keeps rfl (fun _ => rfl) (Nat.le_succ _) hold
      (sets_withSet ?_ ?_ id pair) hproviders⟩
    · intro g about s hs
      obtain ⟨hnumber, hledger⟩ := hl.sets g about s hs
      exact ⟨Nat.lt_succ_of_lt hnumber, hledger.trans (hold _ hnumber).symm⟩
    · refine ⟨Nat.lt_succ_self _, ?_⟩
      show o = Function.update ledger w.nextSet o w.nextSet
      rw [Function.update_self]

/-- **Every honest call preserves the invariant**, with a ledger that may be longer. -/
theorem after (hl : w.Ledger ledger) (hw : w.WellFormed) {call : Call} (ha : w.Admits call)
    (hhonest : call.Honest w) : ∃ ledger', (w.after call).Ledger ledger' := by
  cases hcall : call.changesSettings with
  | true =>
    cases call with
    | newCache =>
      exact ⟨ledger, hl.keeps rfl hw.newCache_cache (Nat.le_refl _) (fun _ _ => rfl) hl.sets
        hl.providers⟩
    | newFactory options provider cache => exact ⟨ledger, hl.newFactory hw hhonest⟩
    | overrideField id pair field type p => exact hl.overrideField id pair field type p
    | _ => cases hcall
  | false =>
    obtain ⟨id, pair, hpair, hstores⟩ := after_stores hw ha hcall
    refine ⟨ledger, hl.stores hstores fun s hown hs => ?_⟩
    cases call with
    | insertIfAbsent cache s' =>
      cases hs
      exact hhonest.recorded
    | tryInsert cache h =>
      cases hs
      trivial
    | register factory h =>
      cases hs
      trivial
    | specification factory about =>
      cases hpair
      exact hl.recorded_of_mayStore hs hown
    | _ => cases hs

theorem run {calls : List Call} (hl : w.Ledger ledger) (hw : w.WellFormed)
    (ha : w.Admissible calls) (hhonest : ∀ call ∈ calls, call.Honest w) :
    ∃ ledger', (w.run calls).Ledger ledger' := by
  induction calls generalizing w ledger with
  | nil => exact ⟨ledger, hl⟩
  | cons call rest ih =>
    obtain ⟨ledger', hl'⟩ := hl.after hw ha.1 (hhonest call List.mem_cons_self)
    refine ih hl' (hw.after ha.1) ha.2 fun other hother => ?_
    exact (hhonest other (List.mem_cons_of_mem _ hother)).of_shapes_eq (after_shapes hw ha.1)

/-- **An entry with the provenance of a factory was compiled with its predicates**: the number
    stands for them. -/
theorem compile_of_recorded (hl : w.Ledger ledger) {id : Nat} {s : Stored}
    (hs : s.Recorded w ledger)
    (hprovenance : s.provenance = (w.factory id).provenance s.handle.pair) :
    w.compile s.handle.pair ((w.factory id).overridesOf s.handle.pair) (w.factory id).options =
      .ok s.handle.spec := by
  unfold Stored.Recorded at hs
  rw [hprovenance, Factory.provenance] at hs
  unfold Factory.overridesOf
  cases hset : (w.factory id).overrides.get? s.handle.pair with
  | none =>
    rw [hset] at hs
    exact hs
  | some set =>
    rw [hset] at hs
    obtain ⟨_, hspec⟩ := hs
    rw [← (hl.sets id _ set hset).2] at hspec
    exact hspec

end Ledger

/-! ## 4. Isolation -/

/-- **No number is greater than the count of accepted predicates.** -/
theorem number_le_accepted (shapes : List (TypeName × Shape)) {past : List Call}
    (hpast : (World.start shapes).Admissible past)
    (hhonest : ∀ call ∈ past, call.Honest (World.start shapes)) (id : Nat) (pair : Pair) :
    (((World.start shapes).run past).setOf id pair).number ≤
      (World.start shapes).acceptedPredicates past := by
  have hstart : (World.start shapes).WellFormed := .start shapes
  obtain ⟨ledger, hl⟩ := (Ledger.start shapes).run hstart hpast hhonest
  have hnumber := (hl.setOf id pair).1
  rw [nextSet_run hstart hpast] at hnumber
  have hfirst : (World.start shapes).nextSet = 1 := rfl
  omega

/-- **What a factory hands out is written by hand or its own.** After any run of honest calls: a
    specification that a factory hands out for a pair is stored in its cache, and unless it was
    written by hand it is what the pair compiles to under the options of this factory and the
    predicates that this factory accepted for the pair, up to this moment.

    Numbers of sets have no bound here. None is greater than the count of accepted predicates
    (`number_le_accepted`), so a counter of 64 bits that starts at one gives the same numbers in
    every run in which fewer than `2 ^ 64` predicates are accepted. -/
theorem configuration_isolated (shapes : List (TypeName × Shape)) {past : List Call}
    (hpast : (World.start shapes).Admissible past)
    (hhonest : ∀ call ∈ past, call.Honest (World.start shapes)) {id : Nat} {pair : Pair}
    (hid : ((World.start shapes).run past).HasFactory id) {h : Handle}
    (hr : (((World.start shapes).run past).specification id pair).reply = .ok h) :
    let w := (World.start shapes).run past
    ∃ s, ((w.specification id pair).world.cache (w.factory id).cache).lookup? pair = some s ∧
      s.handle = h ∧
      (s.provenance = .supplied ∨
        w.compile pair
          (Overrides.empty.registerAll (w.catalog pair.filter)
            ((World.start shapes).registrations id pair past))
          (w.factory id).options = .ok h.spec) := by
  intro w
  have hstart : (World.start shapes).WellFormed := .start shapes
  have hw : w.WellFormed := hstart.run hpast
  obtain ⟨ledger, hl⟩ := (Ledger.start shapes).run hstart hpast hhonest
  obtain ⟨s, hs, rfl, haccepts⟩ := specification_hands hr
  have hstores := specification_stores hid (hw.cacheOf id hid) pair
  have hown : s.handle.pair = pair := (hw.stores hstores).ownPair _ _ _ hs
  refine ⟨s, hs, rfl, ?_⟩
  unfold Factory.accepts at haccepts
  rw [Bool.or_eq_true, beq_iff_eq, beq_iff_eq] at haccepts
  refine haccepts.imp_right fun hprovenance => ?_
  have hl' := hl.stores hstores fun _ hp hs => hl.recorded_of_mayStore hs hp
  -- the lookup changed neither settings nor shapes, so what is recorded after it tells about `w`
  have hsame := hstores.factory id
  have hprovenance' : s.provenance =
      ((w.specification id pair).world.factory id).provenance s.handle.pair := by
    rw [hown, hprovenance]
    unfold Factory.provenance
    rw [hsame.options, hsame.overrides]
  have hcompiled := hl'.compile_of_recorded (hl'.entries _ _ s hs) hprovenance'
  rw [hstores.compile, hown, hsame.overridesOf, hsame.options,
    overridesOf_run hstart hpast] at hcompiled
  rw [catalog_of_shapes (run_shapes hstart hpast)]
  exact hcompiled

end World

namespace Ticket

/-- A factory with a predicate of its own for the title is handed what it compiled itself: the entry
    carries the number of its set, so it was not written by hand. -/
theorem configuration_isolated_own_title :
    let past := opening ++ [.overrideField 1 pair "title" .text fun r f =>
      (r.get "title").sameAs (f.get "title")]
    let w := (World.start shapes).run past
    (World.start shapes).Admissible past ∧
      (∀ call ∈ past, call.Honest (World.start shapes)) ∧ w.HasFactory 1 ∧
      ∃ h, (w.specification 1 pair).reply = .ok h ∧
        ∃ s, ((w.specification 1 pair).world.cache (w.factory 1).cache).lookup? pair = some s ∧
          s.handle = h ∧ s.provenance = .compiled .default (some 1) ∧
          w.compile pair
            (Overrides.empty.registerAll (w.catalog pair.filter)
              ((World.start shapes).registrations 1 pair past))
            (w.factory 1).options = .ok h.spec := by
  intro past w
  have hpast : (World.start shapes).Admissible past := by decide
  have hhonest : ∀ call ∈ past, call.Honest (World.start shapes) := by
    intro call hcall
    simp only [past, opening, List.cons_append, List.nil_append, List.mem_cons, List.not_mem_nil,
      or_false] at hcall
    rcases hcall with rfl | rfl | rfl | rfl
    · trivial
    · intro p hp asked about rival hrival s hs
      cases hp
      cases hrival
      exact hs.plain_of_compiled
    · intro p hp
      cases hp
    · trivial
  have hid : w.HasFactory 1 := by decide
  have hreply : ∃ h, (w.specification 1 pair).reply = .ok h := ⟨_, rfl⟩
  obtain ⟨h, hr⟩ := hreply
  obtain ⟨s, hs, hhandle, hown⟩ := World.configuration_isolated shapes hpast hhonest hid hr
  have hstored : (((w.specification 1 pair).world.cache (w.factory 1).cache).lookup? pair).map
      (·.provenance) = some (.compiled .default (some 1)) := rfl
  have hprovenance : s.provenance = .compiled .default (some 1) := by
    have hs : ((w.specification 1 pair).world.cache (w.factory 1).cache).lookup? pair = some s := hs
    rw [hs] at hstored
    exact Option.some.inj hstored
  have hcompiled := hown.resolve_left fun hsupplied => by
    rw [hprovenance] at hsupplied
    cases hsupplied
  exact ⟨hpast, hhonest, hid, h, hr, s, hs, hhandle, hprovenance, hcompiled⟩

end Ticket

end Sift
