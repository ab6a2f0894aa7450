import Sift.Proofs.Histories

/-!
# A stored pair is settled

A factory finds out anew, at every lookup, whether it takes the entry it finds: it compares the
provenance of the entry with the one it would give the pair now. Both sides could move. This file
says that neither does: an entry stays, and once a pair has one, the factories of that cache take
no more predicates for it.

* `specification_of_stored`, `register_of_stored`, `overrideField_of_stored` -- what a factory
  answers for a pair that has an entry, and that nothing else happens then;
* `set_after`, `provenance_play` -- the set of predicates of a stored pair does not change, so the
  provenance a factory expects stays the same through every history;
* `World.outcome_fixed_once_stored` -- from then on a factory always hands out the entry or always
  refuses it, and refuses registrations, whatever else happens.
-/

namespace Sift

namespace World

variable {w : World} {id : Nat} {pair : Pair}

/-! ## 1. Answers for a stored pair -/

/-- A lookup of a stored pair compares provenances and does nothing else. -/
theorem specification_of_stored {s : Stored}
    (hs : (w.cache (w.factory id).cache).lookup? pair = some s) :
    w.specification id pair =
      if Factory.accepts ((w.factory id).provenance pair) s.provenance then
        ⟨.ok s.handle, w, [.cacheHit pair]⟩
      else ⟨.error (.configurationMismatch pair), w, [.cacheHit pair, .otherSettings pair]⟩ := by
  have hfound : w.lookup (w.factory id).cache pair = ⟨some s, w, [.cacheHit pair]⟩ := by
    unfold lookup
    rw [hs]
  unfold specification
  simp only [hfound]
  unfold accept
  split <;> rfl

theorem register_of_stored (hs : (w.cache (w.factory id).cache).contains pair = true) {h : Handle}
    (hpair : h.pair = pair) : w.register id h = ⟨.error (.alreadyRegistered pair), w, []⟩ := by
  have htried : w.tryInsert (w.factory id).cache h = ⟨.error (.alreadyRegistered pair), w, []⟩ := by
    unfold tryInsert
    rw [hpair, if_pos hs]
  unfold register
  simp only [htried]

theorem overrideField_of_stored (hs : (w.cache (w.factory id).cache).contains pair = true)
    (field : String) (type : FieldType) (p : Predicate) :
    w.overrideField id pair field type p = ⟨.error (.alreadyRegistered pair), w, []⟩ := by
  unfold overrideField
  exact if_pos hs

/-! ## 2. The expected provenance stays -/

/-- A registration touches the set of its own factory and pair only. -/
theorem overrideField_get? (w : World) {g id : Nat} {about pair : Pair}
    (hother : ¬ (g = id ∧ about = pair)) (field : String) (type : FieldType) (p : Predicate) :
    ((w.overrideField g about field type p).world.factory id).overrides.get? pair =
      (w.factory id).overrides.get? pair := by
  have hput : ∀ set : OverrideSet,
      ((w.putFactory g ((w.factory g).withSet about set)).factory id).overrides.get? pair =
        (w.factory id).overrides.get? pair := by
    intro set
    rw [factory_putFactory]
    split
    · rename_i hg
      subst hg
      exact Table.get?_put_of_ne _ _ fun habout => hother ⟨rfl, habout⟩
    · rfl
  rcases overrideField_cases w g about field type p with
    ⟨_, _, hworld⟩ | ⟨_, _, _, hworld⟩ | ⟨o, _, _, hworld⟩
  · rw [hworld]
  · rw [hworld]
    exact hput _
  · rw [hworld]
    exact hput ⟨w.nextSet, o⟩

/-- **Once a pair is stored, its set of predicates does not change.** -/
theorem set_after (hw : w.WellFormed) {call : Call} (ha : w.Admits call) (hid : w.HasFactory id)
    (hs : (w.cache (w.factory id).cache).contains pair = true) :
    ((w.after call).factory id).overrides.get? pair = (w.factory id).overrides.get? pair := by
  cases hcall : call.changesSettings with
  | false =>
    obtain ⟨_, _, _, hstores⟩ := after_stores hw ha hcall
    rw [(hstores.factory id).overrides]
  | true =>
    cases call with
    | newCache => rfl
    | newFactory options provider cache =>
      have hne : w.factories.size ≠ id := fun h => hw.not_hasFactory_size (h ▸ hid)
      show ((w.newFactory options provider cache).2.factory id).overrides.get? pair = _
      rw [newFactory_factory, if_neg hne]
    | overrideField g about field type p =>
      show ((w.overrideField g about field type p).world.factory id).overrides.get? pair = _
      by_cases hown : g = id ∧ about = pair
      · -- too late: the pair of this very registration is stored
        obtain ⟨rfl, rfl⟩ := hown
        rw [overrideField_of_stored hs]
      · exact overrideField_get? w hown field type p
    | _ => cases hcall

theorem set_move (hw : w.WellFormed) {m : Move} (ha : w.Allows m) (hid : w.HasFactory id)
    (hs : (w.cache (w.factory id).cache).contains pair = true) :
    ((w.move m).factory id).overrides.get? pair = (w.factory id).overrides.get? pair := by
  cases m with
  | call c => exact set_after hw ha hid hs
  | reshape name shape => rfl

/-- **What a factory expects of a stored pair stays the same** through every history. -/
theorem provenance_play {moves : List Move} (hw : w.WellFormed) (ha : w.Playable moves)
    (hid : w.HasFactory id) (hs : (w.cache (w.factory id).cache).contains pair = true) :
    ((w.play moves).factory id).provenance pair = (w.factory id).provenance pair := by
  induction moves generalizing w with
  | nil => rfl
  | cons m rest ih =>
    have hkept := settingsKept_move hw ha.1 hid
    have hstep : ((w.move m).factory id).provenance pair = (w.factory id).provenance pair := by
      unfold Factory.provenance
      rw [hkept.options, set_move hw ha.1 hid hs]
    have hstored : ((w.move m).cache ((w.move m).factory id).cache).contains pair = true := by
      obtain ⟨s, hs⟩ := Cache.contains_eq_true_iff.mp hs
      rw [hkept.cache]
      exact Cache.contains_eq_true_iff.mpr ⟨s, lookup?_move hw ha.1 hs⟩
    rw [play_cons, ih (hw.move ha.1) ha.2 hkept.created hstored, hstep]

/-! ## 3. Settled -/

/-- A factory finds the same entry through every history. -/
theorem lookup?_own_cache_play {moves : List Move} (hw : w.WellFormed) (ha : w.Playable moves)
    (hid : w.HasFactory id) {s : Stored}
    (hs : (w.cache (w.factory id).cache).lookup? pair = some s) :
    ((w.play moves).cache ((w.play moves).factory id).cache).lookup? pair = some s := by
  rw [(settingsKept_play hw ha hid).cache]
  exact lookup?_play hw ha hs

/-- **Every later lookup of a stored pair is answered like the first.** -/
theorem specification_play {moves : List Move} (hw : w.WellFormed) (ha : w.Playable moves)
    (hid : w.HasFactory id) {s : Stored}
    (hs : (w.cache (w.factory id).cache).lookup? pair = some s) :
    (w.play moves).specification id pair =
      if Factory.accepts ((w.factory id).provenance pair) s.provenance then
        ⟨.ok s.handle, w.play moves, [.cacheHit pair]⟩
      else ⟨.error (.configurationMismatch pair), w.play moves,
        [.cacheHit pair, .otherSettings pair]⟩ := by
  have hstored := Cache.contains_eq_true_iff.mpr ⟨s, hs⟩
  rw [specification_of_stored (lookup?_own_cache_play hw ha hid hs),
    provenance_play hw ha hid hstored]

/-- **The outcome for a stored pair is fixed.** After any history: once the cache of a factory has
    an entry for a pair, the factory hands it out at every later lookup, or refuses it at every
    later lookup; no lookup asks the provider or compiles, and every registration for the pair is
    refused, all this without changing anything. In particular, what a lookup hands out once is
    handed out for good. -/
theorem outcome_fixed_once_stored (shapes : List (TypeName × Shape)) {past : List Move}
    (hpast : (World.start shapes).Playable past) {id : Nat} (pair : Pair)
    (hid : ((World.start shapes).play past).HasFactory id) :
    let w := (World.start shapes).play past
    (∀ s, (w.cache (w.factory id).cache).lookup? pair = some s →
      ((∀ future, w.Playable future → (w.play future).specification id pair =
          ⟨.ok s.handle, w.play future, [.cacheHit pair]⟩) ∨
        (∀ future, w.Playable future → (w.play future).specification id pair =
          ⟨.error (.configurationMismatch pair), w.play future,
            [.cacheHit pair, .otherSettings pair]⟩)) ∧
      ∀ future, w.Playable future →
        (∀ h : Handle, h.pair = pair → (w.play future).register id h =
          ⟨.error (.alreadyRegistered pair), w.play future, []⟩) ∧
        (∀ field type p, (w.play future).overrideField id pair field type p =
          ⟨.error (.alreadyRegistered pair), w.play future, []⟩)) ∧
    (∀ h, (w.specification id pair).reply = .ok h →
      ∀ future, (w.specification id pair).world.Playable future →
        (((w.specification id pair).world.play future).specification id pair).reply = .ok h) := by
  intro w
  have hw : w.WellFormed := (WellFormed.start shapes).play hpast
  refine ⟨fun s hs => ⟨?_, fun future hfuture => ?_⟩, fun h hr future hfuture => ?_⟩
  · by_cases haccepts : Factory.accepts ((w.factory id).provenance pair) s.provenance = true
    · left
      intro future hfuture
      rw [specification_play hw hfuture hid hs, if_pos haccepts]
    · right
      intro future hfuture
      rw [specification_play hw hfuture hid hs, if_neg haccepts]
  · have hstored := Cache.contains_eq_true_iff.mpr
      ⟨s, lookup?_own_cache_play hw hfuture hid hs⟩
    exact ⟨fun h => register_of_stored hstored, overrideField_of_stored hstored⟩
  · obtain ⟨s, hs, rfl, haccepts⟩ := specification_hands hr
    -- the lookup itself is a step like any other: it keeps what the factory expects
    have hstores := specification_stores hid (hw.cacheOf id hid) pair
    have hsame := hstores.factory id
    have hprovenance : ((w.specification id pair).world.factory id).provenance pair =
        (w.factory id).provenance pair := by
      unfold Factory.provenance
      rw [hsame.options, hsame.overrides]
    rw [← hsame.cache] at hs
    rw [specification_play (hw.stores hstores) hfuture (hstores.hasFactory.mpr hid) hs,
      hprovenance, if_pos haccepts]

end World

namespace Ticket

/-- The second factory is handed the specification it compiled, and goes on being handed it when the
    filter has lost all its fields. -/
theorem outcome_fixed_once_stored_reshaped :
    let past := opening.map Move.call ++ [.call (.specification 1 pair)]
    let w := (World.start shapes).play past
    let future := [Move.reshape pair.filter ⟨"TicketFilter", []⟩,
      .call (.overrideField 1 pair "title" .text fun _ _ => true)]
    (World.start shapes).Playable past ∧ w.HasFactory 1 ∧
      ∃ s, (w.cache (w.factory 1).cache).lookup? pair = some s ∧ w.Playable future ∧
        (w.specification 1 pair).reply = .ok s.handle ∧
        (((w.specification 1 pair).world.play future).specification 1 pair).reply =
          .ok s.handle := by
  intro past w future
  have hpast : (World.start shapes).Playable past := by decide
  have hid : w.HasFactory 1 := by decide
  have hfuture : w.Playable future := by decide
  have hstored : ∃ s, (w.cache (w.factory 1).cache).lookup? pair = some s ∧
      (w.specification 1 pair).reply = .ok s.handle := ⟨_, rfl, rfl⟩
  obtain ⟨s, hs, hreply⟩ := hstored
  obtain ⟨_, hhanded⟩ := World.outcome_fixed_once_stored shapes hpast pair hid
  exact ⟨hpast, hid, s, hs, hfuture, hreply, hhanded s.handle hreply future hfuture⟩

end Ticket

end Sift
