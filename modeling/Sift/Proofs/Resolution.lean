import Sift.Proofs.Histories

/-!
# How a lookup ends that finds nothing

A lookup that finds no entry for its pair asks the provider of its factory, once, and compiles the
pair if there is no provider or it declines. What comes of this is a CANDIDATE. It is offered to the
cache, and only then judged. Between the look into the cache and the offer the provider may do
anything, also to the cache: what it leaves is what the lookup goes on with. So the end of a lookup
is stated for every outcome the question can have, whatever the provider did meanwhile.

* `AskedOnce`, `ask_once` -- what asking comes to: one question to one provider, and nothing stored
  but by a rival;
* `Factory.Candidate`, `conclude_cases` -- what a lookup has to offer, or why it has nothing;
* `conclude_of_mismatch`, `conclude_of_uncompiled`, `conclude_of_candidate` -- the exits of a lookup;
* `Factory.Resolves`, `conclude_resolves` -- **the exits put together**: which answer each of them
  gives, when the candidate is stored, and that a lookup that fails stores nothing;
* `World.specification_resolved` -- the lookup as a whole, after every history.
-/

namespace Sift

namespace World

/-! ## 1. The question -/

theorem letRival_factories (w : World) (cache : Nat) (pair : Pair) (rival : Rival) :
    (w.letRival cache pair rival).world.factories = w.factories := by
  cases rival with
  | written p provenance => rfl
  | shared identity spec provenance => rfl
  | compiled options =>
    unfold letRival
    simp only
    split <;> rfl

theorem realise_factories (w : World) (offer : Offer) :
    (w.realise offer).2.factories = w.factories := by
  cases offer <;> rfl

end World

/-- What is handed to the factory that is made an offer: the specification that exists, or a new one
    of the predicate. -/
inductive Offer.Handed : Offer → Handle → Prop where
  | existing (h : Handle) : Handed (.existing h) h
  | fresh (identity : Nat) (pair : Pair) (p : Predicate) :
      Handed (.fresh pair p) ⟨identity, pair, .ofPredicate p⟩

namespace World

variable {w : World} {id : Nat} {pair : Pair}

theorem realise_handed (w : World) (offer : Offer) : offer.Handed (w.realise offer).1 := by
  cases offer with
  | existing h => exact .existing h
  | fresh pair p => exact .fresh w.nextIdentity pair p

/-- What a rival stores while the provider of a factory is asked. -/
def RivalStores (w : World) (id : Nat) (pair : Pair) (s : Stored) : Prop :=
  ∃ provider rival, (w.factory id).provider = some provider ∧
    (provider.ask (w.factory id).asked pair).rival = some rival ∧ rival.Makes w pair s

/-- **The provider of a factory, if there is one, was asked for a pair once**, and nothing else
    happened but what a rival did meanwhile. -/
structure AskedOnce (w : World) (id : Nat) (pair : Pair) (asked : Outcome (Option Handle)) :
    Prop where
  without : (w.factory id).provider = none → asked.reply = none ∧ asked.world = w
  question : ∀ provider, (w.factory id).provider = some provider →
    (asked.world.factory id).asked = (w.factory id).asked ++ [pair]
  answer : ∀ provider, (w.factory id).provider = some provider →
    Option.Rel Offer.Handed (provider.ask (w.factory id).asked pair).offer asked.reply
  others : ∀ other, other ≠ id → asked.world.factory other = w.factory other
  left : w.Stores (w.factory id).cache pair (w.RivalStores id pair) asked.world

theorem ask_without (hnone : (w.factory id).provider = none) (pair : Pair) :
    w.ask id pair = ⟨none, w, []⟩ := by
  unfold ask
  simp only [hnone]

section Asked

variable {provider : Provider} (hprovider : (w.factory id).provider = some provider)

include hprovider in
/-- Asking writes the pair down as asked for, whatever a rival does and whatever is answered. -/
theorem ask_factories (pair : Pair) :
    (w.ask id pair).world.factories = (w.putFactory id ⟨(w.factory id).options,
      (w.factory id).provider, (w.factory id).cache, (w.factory id).overrides,
      (w.factory id).asked ++ [pair]⟩).factories := by
  unfold ask
  simp only [hprovider]
  cases (provider.ask (w.factory id).asked pair).rival with
  | none =>
    simp only
    split
    · rfl
    · exact realise_factories ..
  | some rival =>
    simp only
    split
    · exact letRival_factories ..
    · exact (realise_factories ..).trans (letRival_factories ..)

include hprovider in
theorem ask_factory (pair : Pair) (other : Nat) : (w.ask id pair).world.factory other =
    if id = other then ⟨(w.factory id).options, (w.factory id).provider, (w.factory id).cache,
      (w.factory id).overrides, (w.factory id).asked ++ [pair]⟩
    else w.factory other := by
  rw [← factory_putFactory]
  unfold factory
  rw [ask_factories hprovider]
  rfl

include hprovider in
/-- The answer is what the provider offers, in the world the rival leaves. -/
theorem ask_answer (pair : Pair) :
    Option.Rel Offer.Handed (provider.ask (w.factory id).asked pair).offer
      (w.ask id pair).reply := by
  unfold ask
  simp only [hprovider]
  cases (provider.ask (w.factory id).asked pair).offer with
  | none => exact .none
  | some offer => exact .some (realise_handed _ offer)

end Asked

theorem ask_once (hid : w.HasFactory id) (hc : w.HasCache (w.factory id).cache) (pair : Pair) :
    w.AskedOnce id pair (w.ask id pair) := by
  refine ⟨?without, ?question, ?answer, ?others, ?left⟩
  case without =>
    intro hnone
    rw [ask_without hnone]
    exact ⟨rfl, rfl⟩
  case question =>
    intro provider hprovider
    rw [ask_factory hprovider, if_pos rfl]
  case answer =>
    intro provider hprovider
    exact ask_answer hprovider pair
  case others =>
    intro other hother
    cases hprovider : (w.factory id).provider with
    | none => rw [ask_without hprovider]
    | some provider => rw [ask_factory hprovider, if_neg hother.symm]
  case left =>
    exact ask_stores hid hc fun provider rival _ hprovider hrival hmakes =>
      ⟨provider, rival, hprovider, hrival, hmakes⟩

end World

/-! ## 2. Candidates -/

namespace Factory

variable {g : Factory} {pair : Pair} {asked : Outcome (Option Handle)}

/-- **What a lookup has to offer** when the provider has been asked: its answer, if it is a
    specification of the pair, or the pair as it compiles under the settings of the factory, if
    there was no answer. -/
inductive Candidate (g : Factory) (pair : Pair) (asked : Outcome (Option Handle)) :
    Stored → Prop where
  | supplied {h : Handle} (hreply : asked.reply = some h) (hpair : h.pair = pair) :
      Candidate g pair asked ⟨h, .supplied⟩
  | compiled {spec : Specification} (hreply : asked.reply = none)
      (hcompile : asked.world.compile pair (g.overridesOf pair) g.options = .ok spec) :
      Candidate g pair asked ⟨⟨asked.world.nextIdentity, pair, spec⟩, g.provenance pair⟩

namespace Candidate

variable {s : Stored}

theorem pair_eq (h : g.Candidate pair asked s) : s.handle.pair = pair := by
  cases h with
  | supplied _ hpair => exact hpair
  | compiled _ _ => rfl

/-- A factory takes what it offers. -/
theorem accepts (h : g.Candidate pair asked s) :
    Factory.accepts (g.provenance pair) s.provenance = true := by
  cases h with
  | supplied _ _ => rfl
  | compiled _ _ => simp [Factory.accepts]

end Candidate

/-- There is a candidate, or the provider answered with another pair, or the pair does not
    compile. -/
theorem conclude_cases (g : Factory) (pair : Pair) (asked : Outcome (Option Handle)) :
    (∃ h, asked.reply = some h ∧ h.pair ≠ pair) ∨
      (∃ cause, asked.reply = none ∧
        asked.world.compile pair (g.overridesOf pair) g.options = .error cause) ∨
      ∃ s, g.Candidate pair asked s := by
  cases hreply : asked.reply with
  | some h =>
    by_cases hpair : h.pair = pair
    · exact .inr (.inr ⟨_, .supplied hreply hpair⟩)
    · exact .inl ⟨h, rfl, hpair⟩
  | none =>
    cases hcompile : asked.world.compile pair (g.overridesOf pair) g.options with
    | error cause => exact .inr (.inl ⟨cause, rfl, rfl⟩)
    | ok spec => exact .inr (.inr ⟨_, .compiled hreply hcompile⟩)

end Factory

/-! ## 3. Exits -/

namespace World

variable {w : World} {id : Nat} {pair : Pair}

/-- Offered for a pair without an entry, a specification is stored, and handed out if the factory
    takes it. -/
theorem settle_of_absent {expected : Provenance} {s : Stored}
    (habsent : (w.cache id).lookup? s.handle.pair = none)
    (haccepts : Factory.accepts expected s.provenance = true) :
    (w.settle id expected s).reply = .ok s.handle ∧
      (∀ about, ((w.settle id expected s).world.cache id).lookup? about =
        if s.handle.pair = about then some s else (w.cache id).lookup? about) ∧
      ∀ other, other ≠ id → (w.settle id expected s).world.cache other = w.cache other := by
  have hwinner : (w.cache id).winner s = s := Cache.winner_of_absent habsent
  have hworld (other : Nat) : (w.settle id expected s).world.cache other =
      if id = other then (w.cache id).insertIfAbsent s else w.cache other := by
    rw [settle_world]
    exact cache_putCache ..
  refine ⟨?_, fun about => ?_, fun other hother => ?_⟩
  · refine accept_eq_ok_iff.mpr ⟨?_, ?_⟩
    · show Factory.accepts expected ((w.cache id).winner s).provenance = true
      rw [hwinner, haccepts]
    · exact congrArg Stored.handle hwinner
  · rw [hworld, if_pos rfl, Cache.lookup?_insertIfAbsent, hwinner]
  · rw [hworld, if_neg hother.symm]

/-- Offered for a pair with an entry, a specification is dropped, and the entry is judged. -/
theorem settle_of_present (expected : Provenance) {s t : Stored}
    (hpresent : (w.cache id).lookup? s.handle.pair = some t) :
    (w.settle id expected s).reply = (w.accept s.handle.pair expected t).reply ∧
      ∀ other, (w.settle id expected s).world.cache other = w.cache other := by
  have hwinner : (w.cache id).winner s = t := Cache.winner_of_present hpresent
  have hsame : (w.cache id).insertIfAbsent s = w.cache id := by
    unfold Cache.insertIfAbsent
    rw [hpresent]
  refine ⟨?_, fun other => ?_⟩
  · show (World.accept _ s.handle.pair expected ((w.cache id).winner s)).reply = _
    rw [hwinner]
    unfold accept
    split <;> rfl
  · rw [settle_world]
    refine (cache_putCache ..).trans ?_
    split
    · rename_i hother
      rw [hsame, hother]
    · rfl

section Exits

variable {g : Factory} {asked : Outcome (Option Handle)}

theorem conclude_of_mismatch {h : Handle} (hreply : asked.reply = some h) (hpair : h.pair ≠ pair) :
    conclude g pair asked = ⟨.error (.providerMismatch pair), asked.world, asked.events⟩ := by
  unfold conclude
  simp only [hreply, if_neg hpair]

theorem conclude_of_uncompiled {cause : Error} (hreply : asked.reply = none)
    (hcompile : asked.world.compile pair (g.overridesOf pair) g.options = .error cause) :
    conclude g pair asked = ⟨.error (.notConfigured pair cause), asked.world,
      asked.events ++ [.notAvailable pair cause]⟩ := by
  unfold conclude
  simp only [hreply, hcompile]

/-- A candidate is settled in the world that was left, up to the identity it was given. -/
theorem conclude_of_candidate {s : Stored} (h : g.Candidate pair asked s) :
    ∃ left : World, left.cache = asked.world.cache ∧ left.factories = asked.world.factories ∧
      (conclude g pair asked).reply = (left.settle g.cache (g.provenance pair) s).reply ∧
      (conclude g pair asked).world = (left.settle g.cache (g.provenance pair) s).world := by
  cases h with
  | supplied hreply hpair =>
    refine ⟨asked.world, rfl, rfl, ?_⟩
    unfold conclude
    simp only [hreply, if_pos hpair, and_self]
  | @compiled spec hreply hcompile =>
    refine ⟨(asked.world.make pair spec).2, rfl, rfl, ?_⟩
    unfold conclude
    simp only [hreply, hcompile]
    exact ⟨rfl, rfl⟩

end Exits

end World

/-! ## 4. Put together -/

namespace Factory

/-- **How a lookup ends**, by what came of the question. `g` is the factory as it was when the
    lookup began, so an entry is judged by what the factory expected then. -/
structure Resolves (g : Factory) (pair : Pair) (asked : Outcome (Option Handle))
    (done : Outcome (Except Error Handle)) : Prop where
  mismatch : ∀ h, asked.reply = some h → h.pair ≠ pair →
    done.reply = .error (.providerMismatch pair)
  notConfigured : ∀ cause, asked.reply = none →
    asked.world.compile pair (g.overridesOf pair) g.options = .error cause →
    done.reply = .error (.notConfigured pair cause)
  /-- The pair still has no entry: it gets the candidate, which is handed out. -/
  stored : ∀ s, g.Candidate pair asked s → (asked.world.cache g.cache).lookup? pair = none →
    done.reply = .ok s.handle ∧
      (∀ about, (done.world.cache g.cache).lookup? about =
        if pair = about then some s else (asked.world.cache g.cache).lookup? about) ∧
      ∀ other, other ≠ g.cache → done.world.cache other = asked.world.cache other
  /-- Meanwhile the pair has an entry: the candidate is dropped. -/
  discarded : ∀ s t, g.Candidate pair asked s →
    (asked.world.cache g.cache).lookup? pair = some t →
    ∀ c, done.world.cache c = asked.world.cache c
  taken : ∀ s t, g.Candidate pair asked s →
    (asked.world.cache g.cache).lookup? pair = some t →
    t.provenance = .supplied ∨ t.provenance = g.provenance pair → done.reply = .ok t.handle
  refused : ∀ s t, g.Candidate pair asked s →
    (asked.world.cache g.cache).lookup? pair = some t →
    ¬ (t.provenance = .supplied ∨ t.provenance = g.provenance pair) →
    done.reply = .error (.configurationMismatch pair)
  /-- A lookup that fails leaves all caches as the provider left them. -/
  failed : ∀ e, done.reply = .error e → ∀ c, done.world.cache c = asked.world.cache c
  factories : done.world.factories = asked.world.factories

end Factory

namespace World

variable {g : Factory} {pair : Pair} {asked : Outcome (Option Handle)}

theorem conclude_stored {s : Stored} (h : g.Candidate pair asked s)
    (habsent : (asked.world.cache g.cache).lookup? pair = none) :
    (conclude g pair asked).reply = .ok s.handle ∧
      (∀ about, ((conclude g pair asked).world.cache g.cache).lookup? about =
        if pair = about then some s else (asked.world.cache g.cache).lookup? about) ∧
      ∀ other, other ≠ g.cache →
        (conclude g pair asked).world.cache other = asked.world.cache other := by
  obtain ⟨left, hleft, _, hreply, hworld⟩ := conclude_of_candidate h
  rw [← hleft] at habsent ⊢
  rw [hreply, hworld]
  cases h.pair_eq
  exact settle_of_absent habsent h.accepts

theorem conclude_discarded {s t : Stored} (h : g.Candidate pair asked s)
    (hpresent : (asked.world.cache g.cache).lookup? pair = some t) :
    (∃ left : World, (conclude g pair asked).reply =
        (left.accept pair (g.provenance pair) t).reply) ∧
      ∀ c, (conclude g pair asked).world.cache c = asked.world.cache c := by
  obtain ⟨left, hleft, _, hreply, hworld⟩ := conclude_of_candidate h
  rw [← hleft] at hpresent ⊢
  rw [hreply, hworld]
  cases h.pair_eq
  obtain ⟨hjudged, hcaches⟩ := settle_of_present (g.provenance _) hpresent
  exact ⟨⟨left, hjudged⟩, hcaches⟩

theorem conclude_factories (g : Factory) (pair : Pair) (asked : Outcome (Option Handle)) :
    (conclude g pair asked).world.factories = asked.world.factories := by
  rcases g.conclude_cases pair asked with ⟨h, hreply, hpair⟩ | ⟨cause, hreply, hcompile⟩ | ⟨s, hs⟩
  · rw [conclude_of_mismatch hreply hpair]
  · rw [conclude_of_uncompiled hreply hcompile]
  · obtain ⟨left, _, hfactories, _, hworld⟩ := conclude_of_candidate hs
    rw [hworld, settle_world]
    exact hfactories

/-- A lookup that fails has stored nothing: only a candidate for a pair that still had no entry is
    stored, and that one is handed out. -/
theorem conclude_failed {e : Error} (he : (conclude g pair asked).reply = .error e) (c : Nat) :
    (conclude g pair asked).world.cache c = asked.world.cache c := by
  rcases g.conclude_cases pair asked with ⟨h, hreply, hpair⟩ | ⟨cause, hreply, hcompile⟩ | ⟨s, hs⟩
  · rw [conclude_of_mismatch hreply hpair]
  · rw [conclude_of_uncompiled hreply hcompile]
  · cases hfound : (asked.world.cache g.cache).lookup? pair with
    | none =>
      rw [(conclude_stored hs hfound).1] at he
      cases he
    | some t => exact (conclude_discarded hs hfound).2 c

/-- **Whatever the provider did while it was asked, a lookup ends as it should.** -/
theorem conclude_resolves (g : Factory) (pair : Pair) (asked : Outcome (Option Handle)) :
    g.Resolves pair asked (conclude g pair asked) where
  mismatch h hreply hpair := by rw [conclude_of_mismatch hreply hpair]
  notConfigured cause hreply hcompile := by rw [conclude_of_uncompiled hreply hcompile]
  stored s hs habsent := conclude_stored hs habsent
  discarded s t hs hpresent := (conclude_discarded hs hpresent).2
  taken s t hs hpresent htakes := by
    obtain ⟨⟨left, hreply⟩, _⟩ := conclude_discarded hs hpresent
    rw [hreply]
    exact accept_eq_ok_iff.mpr ⟨Factory.accepts_eq_true_iff.mpr htakes, rfl⟩
  refused s t hs hpresent hrefuses := by
    obtain ⟨⟨left, hreply⟩, _⟩ := conclude_discarded hs hpresent
    rw [hreply]
    unfold accept
    rw [if_neg fun haccepts => hrefuses (Factory.accepts_eq_true_iff.mp haccepts)]
  failed e he := conclude_failed he
  factories := conclude_factories g pair asked

/-- A lookup that finds nothing asks, and then concludes. -/
theorem specification_of_absent {w : World} {id : Nat}
    (hnone : (w.cache (w.factory id).cache).lookup? pair = none) :
    w.specification id pair = conclude (w.factory id) pair (w.ask id pair) := by
  unfold specification
  simp only [lookup_reply, hnone]
  rfl

/-- **The order in which a lookup tries, and what a failure leaves behind.** After any history, a
    lookup of a pair without an entry asks the provider of its factory once, if there is one, and
    then ends as `Factory.Resolves` says: with the provider's specification, with the compiled one,
    with the entry that appeared meanwhile, or with an error and nothing stored. The settings of the
    factory, its predicates among them, are what they were. And it would end so whatever else the
    provider had answered and whatever world it had left. -/
theorem specification_resolved (shapes : List (TypeName × Shape)) {past : List Move}
    (hpast : (World.start shapes).Playable past) {id : Nat} {pair : Pair}
    (hid : ((World.start shapes).play past).HasFactory id)
    (hnone : (((World.start shapes).play past).cache
      (((World.start shapes).play past).factory id).cache).lookup? pair = none) :
    let w := (World.start shapes).play past
    let g := w.factory id
    let asked := w.ask id pair
    let done := w.specification id pair
    w.AskedOnce id pair asked ∧
      g.Resolves pair asked done ∧
      (done.world.factory id).asked = g.asked ++ (if g.provider.isSome then [pair] else []) ∧
      g.SameSettings (done.world.factory id) ∧
      done = conclude g pair asked ∧
      ∀ asked', g.Resolves pair asked' (conclude g pair asked') := by
  intro w g asked done
  have hw : w.WellFormed := (WellFormed.start shapes).play hpast
  have hdone : done = conclude g pair asked := specification_of_absent hnone
  have hasked : w.AskedOnce id pair asked := ask_once hid (hw.cacheOf id hid) pair
  have hfactory : done.world.factory id = asked.world.factory id := by
    unfold factory
    rw [hdone, conclude_factories]
  refine ⟨hasked, hdone ▸ conclude_resolves g pair asked, ?_, ?_, hdone, conclude_resolves g pair⟩
  · rw [hfactory]
    cases hprovider : g.provider with
    | none => rw [(hasked.without hprovider).2, Option.isSome_none, if_neg Bool.false_ne_true,
        List.append_nil]
    | some provider => exact hasked.question provider hprovider
  · rw [hfactory]
    exact hasked.left.factory id

end World

namespace Ticket

/-- While the provider of the first factory is asked, and declines, a rival stores the pair as it
    compiles under the same settings. What the factory compiles itself is dropped, and it hands out
    the specification of the rival. -/
theorem specification_resolved_race :
    let past := opening.map Move.call
    let w := (World.start shapes).play past
    let asked := w.ask 0 pair
    let done := w.specification 0 pair
    (World.start shapes).Playable past ∧ w.HasFactory 0 ∧
      (w.cache (w.factory 0).cache).lookup? pair = none ∧
      (done.world.factory 0).asked = [pair] ∧
      ∃ s t, (w.factory 0).Candidate pair asked s ∧
        (asked.world.cache (w.factory 0).cache).lookup? pair = some t ∧
        s.handle.identity ≠ t.handle.identity ∧ done.reply = .ok t.handle ∧
        ∀ c, done.world.cache c = asked.world.cache c := by
  intro past w asked done
  have hpast : (World.start shapes).Playable past := by decide
  have hid : w.HasFactory 0 := by decide
  have hnone : (w.cache (w.factory 0).cache).lookup? pair = none := rfl
  have hcompiled : ∃ s, (w.factory 0).Candidate pair asked s ∧ s.handle.identity = 1 :=
    ⟨_, .compiled rfl rfl, rfl⟩
  have hraced : ∃ t, (asked.world.cache (w.factory 0).cache).lookup? pair = some t ∧
      t.handle.identity = 0 ∧ t.provenance = (w.factory 0).provenance pair :=
    ⟨_, rfl, rfl, rfl⟩
  obtain ⟨s, hs, hown⟩ := hcompiled
  obtain ⟨t, ht, hrival, hprovenance⟩ := hraced
  have hidentity : s.handle.identity ≠ t.handle.identity := by
    rw [hown, hrival]
    exact Nat.one_ne_zero
  obtain ⟨_, hresolves, hquestions, _⟩ := World.specification_resolved shapes hpast hid hnone
  exact ⟨hpast, hid, hnone, hquestions, s, t, hs, ht, hidentity,
    hresolves.taken s t hs ht (.inr hprovenance), hresolves.discarded s t hs ht⟩

end Ticket

end Sift
