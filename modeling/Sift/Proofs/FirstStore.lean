import Mathlib.Data.Set.Card
import Sift.Proofs.Runs

/-!
# The first store wins

However many callers race for a pair, on however many factories with one cache, the specification
that was stored first is the one everybody is handed, for good. This file says so about whole runs.

* `World.hands?` -- the specification a call hands out, with the cache and the pair it is of;
* `World.stores?` -- the entry a call claims to have made: a first offer or an accepted registration;
* `World.storedSoFar` -- the pairs that a cache had an entry for at some moment of a run;
* `lookup?_run`, `hands?_stored`, `stores?_stored` -- entries stay, and what is handed out or claimed
  to be stored is an entry;
* `World.first_store_wins` -- entries never change, a cache has one for each pair stored so far,
  all callers are handed the entry, a call about one pair touches no other, and what is accepted is
  what is stored.
-/

namespace Sift

namespace World

/-- The specification a call hands out, with the cache and the pair it is of. -/
def hands? (w : World) : Call → Option (Nat × Pair × Handle)
  | .get cache pair => (w.get cache pair).reply.map fun h => (cache, pair, h)
  | .lookup cache pair => (w.lookup cache pair).reply.map fun s => (cache, pair, s.handle)
  | .insertIfAbsent cache s =>
    some (cache, s.handle.pair, (w.insertIfAbsent cache s).reply.handle)
  | .specification factory pair =>
    (w.specification factory pair).reply.toOption.map fun h => ((w.factory factory).cache, pair, h)
  | _ => none

/-- The entry a call claims to have made, with its cache: what was offered for a pair without an
    entry, or registered and accepted. -/
def stores? (w : World) : Call → Option (Nat × Stored)
  | .insertIfAbsent cache s =>
    if (w.cache cache).contains s.handle.pair then none else some (cache, s)
  | .tryInsert cache h => (w.tryInsert cache h).reply.toOption.map fun _ => (cache, ⟨h, .supplied⟩)
  | .register factory h =>
    (w.register factory h).reply.toOption.map fun _ => ((w.factory factory).cache, ⟨h, .supplied⟩)
  | _ => none

/-- The pairs a cache had an entry for at some moment of a run. -/
def storedSoFar (w : World) (calls : List Call) (id : Nat) : Set Pair :=
  {pair | ∃ n, ((w.run (calls.take n)).cache id).contains pair = true}

variable {w : World} {calls : List Call}

/-! ## 1. Steps -/

/-- **An entry stays through every call.** -/
theorem lookup?_after (hw : w.WellFormed) {call : Call} (ha : w.Admits call) {id : Nat}
    {pair : Pair} {s : Stored} (hs : (w.cache id).lookup? pair = some s) :
    ((w.after call).cache id).lookup? pair = some s := by
  cases hcall : call.changesSettings with
  | true =>
    rw [(after_keeps hw hcall).2]
    exact hs
  | false =>
    obtain ⟨_, _, _, hstores⟩ := after_stores hw ha hcall
    exact hstores.lookup?_stays hs

/-- **A call about one pair leaves the entries of all others as they are.** Pairs are told apart by
    their full names, so this includes pairs that are shown alike. -/
theorem lookup?_after_of_ne (hw : w.WellFormed) {call : Call} (ha : w.Admits call) {pair : Pair}
    (hpair : call.pair? = some pair) {other : Pair} (hne : other ≠ pair) (id : Nat) :
    ((w.after call).cache id).lookup? other = (w.cache id).lookup? other := by
  cases hcall : call.changesSettings with
  | true => rw [(after_keeps hw hcall).2]
  | false =>
    obtain ⟨_, about, habout, hstores⟩ := after_stores hw ha hcall
    rw [hpair] at habout
    cases habout
    exact hstores.lookup?_of_ne hne id

/-- Two pairs of different types that are shown alike. -/
example : (Pair.mk ⟨"desk::Ticket"⟩ ⟨"Search"⟩).display =
      (Pair.mk ⟨"shop::Ticket"⟩ ⟨"Search"⟩).display ∧
    Pair.mk ⟨"desk::Ticket"⟩ ⟨"Search"⟩ ≠ Pair.mk ⟨"shop::Ticket"⟩ ⟨"Search"⟩ := by
  decide

/-- **What a call hands out is what is stored afterwards.** -/
theorem hands?_stored {call : Call} {id : Nat} {pair : Pair} {h : Handle}
    (hh : w.hands? call = some (id, pair, h)) :
    ∃ s, ((w.after call).cache id).lookup? pair = some s ∧ s.handle = h := by
  have found : ∀ {cache : Nat} {about : Pair} {s : Stored},
      (w.lookup cache about).reply = some s →
        (((w.lookup cache about).world).cache cache).lookup? about = some s := by
    intro cache about s hs
    rw [lookup_world, ← lookup_reply]
    exact hs
  cases call with
  | get cache about =>
    obtain ⟨h', hreply, heq⟩ := Option.map_eq_some_iff.mp hh
    cases heq
    obtain ⟨s, hs, rfl⟩ := Option.map_eq_some_iff.mp hreply
    exact ⟨s, found hs, rfl⟩
  | lookup cache about =>
    obtain ⟨s, hs, heq⟩ := Option.map_eq_some_iff.mp hh
    cases heq
    exact ⟨s, found hs, rfl⟩
  | insertIfAbsent cache s =>
    cases hh
    exact ⟨_, lookup?_insertIfAbsent_reply w id s, rfl⟩
  | specification factory about =>
    obtain ⟨h', hreply, heq⟩ := Option.map_eq_some_iff.mp hh
    cases heq
    have hok : (w.specification factory pair).reply = .ok h := by
      cases hr : (w.specification factory pair).reply with
      | ok h'' =>
        rw [hr] at hreply
        cases hreply
        rfl
      | error e =>
        rw [hr] at hreply
        cases hreply
    obtain ⟨s, hs, hhandle, _⟩ := specification_hands hok
    exact ⟨s, hs, hhandle⟩
  | newCache => cases hh
  | newFactory => cases hh
  | tryInsert => cases hh
  | register => cases hh
  | overrideField => cases hh

/-- A registration that is accepted is the first entry of its pair. -/
theorem tryInsert_stored {id : Nat} {h : Handle} {u : Unit}
    (hreply : (w.tryInsert id h).reply.toOption = some u) :
    (w.cache id).lookup? h.pair = none ∧
      ((w.tryInsert id h).world.cache id).lookup? h.pair = some ⟨h, .supplied⟩ := by
  rcases tryInsert_cases w id h with ⟨hnone, _, hafter⟩ | ⟨s, _, hrefused, _⟩
  · exact ⟨hnone, hafter⟩
  · rw [hrefused] at hreply
    cases hreply

/-- **What a call claims to have stored is stored**, and is the first entry of its pair. -/
theorem stores?_stored {call : Call} {id : Nat} {s : Stored} (hs : w.stores? call = some (id, s)) :
    (w.cache id).lookup? s.handle.pair = none ∧
      ((w.after call).cache id).lookup? s.handle.pair = some s := by
  cases call with
  | insertIfAbsent cache offered =>
    obtain ⟨hcontains, heq⟩ := Option.ite_none_left_eq_some.mp hs
    cases heq
    have hnone : (w.cache id).lookup? s.handle.pair = none :=
      Option.not_isSome_iff_eq_none.mp hcontains
    have hwinner : (w.cache id).winner s = s := Cache.winner_of_absent hnone
    have hafter := lookup?_insertIfAbsent_reply w id s
    refine ⟨hnone, hafter.trans ?_⟩
    show some ((w.cache id).winner s) = some s
    rw [hwinner]
  | tryInsert cache h =>
    obtain ⟨_, hreply, heq⟩ := Option.map_eq_some_iff.mp hs
    cases heq
    exact tryInsert_stored hreply
  | register factory h =>
    obtain ⟨_, hreply, heq⟩ := Option.map_eq_some_iff.mp hs
    cases heq
    rw [register_reply] at hreply
    show _ ∧ ((w.register factory h).world.cache _).lookup? h.pair = _
    rw [register_world]
    exact tryInsert_stored hreply
  | newCache => cases hs
  | newFactory => cases hs
  | get => cases hs
  | lookup => cases hs
  | overrideField => cases hs
  | specification => cases hs

/-! ## 2. Runs -/

/-- **An entry stays through every run.** -/
theorem lookup?_run (hw : w.WellFormed) (ha : w.Admissible calls) {id : Nat} {pair : Pair}
    {s : Stored} (hs : (w.cache id).lookup? pair = some s) :
    ((w.run calls).cache id).lookup? pair = some s := by
  induction calls generalizing w with
  | nil => exact hs
  | cons call rest ih => exact ih (hw.after ha.1) ha.2 (lookup?_after hw ha.1 hs)

/-- What was stored at some moment of a run is what is stored at its end. -/
theorem storedSoFar_eq (hw : w.WellFormed) (ha : w.Admissible calls) (id : Nat) :
    w.storedSoFar calls id = {pair | ((w.run calls).cache id).contains pair = true} := by
  ext pair
  constructor
  · rintro ⟨n, hn⟩
    obtain ⟨s, hs⟩ := Cache.contains_eq_true_iff.mp hn
    -- the run is its first `n` calls and the rest, and the entry stays through the rest
    have hsplit : w.Admissible (calls.take n ++ calls.drop n) := by
      rw [List.take_append_drop]
      exact ha
    obtain ⟨hbefore, hafter⟩ := admissible_append.mp hsplit
    have hstays := lookup?_run (hw.run hbefore) hafter hs
    rw [← run_append, List.take_append_drop] at hstays
    exact Cache.contains_eq_true_iff.mpr ⟨s, hstays⟩
  · intro hend
    refine ⟨calls.length, ?_⟩
    rw [List.take_length]
    exact hend

/-- A cache has as many entries as there are pairs it has an entry for. -/
theorem WellFormed.size_cache (hw : w.WellFormed) (id : Nat) :
    (w.cache id).size = {pair | (w.cache id).contains pair = true}.ncard := by
  have hkeys : {pair | (w.cache id).contains pair = true} =
      ((w.cache id).stored.keys.toFinset : Set Pair) := by
    ext pair
    rw [Set.mem_ofPred_eq, Finset.mem_coe, List.mem_toFinset]
    exact Table.get?_isSome_iff _ _
  rw [hkeys, Set.ncard_coe_finset, List.toFinset_card_of_nodup (hw.distinct id)]
  exact Table.size_eq_length_keys _

/-- **The first store wins, forever.** After any run: entries never change again, and a cache has
    exactly one for each pair that was stored in it so far; what a call hands out is the entry of
    its pair, then and in every later moment; a call about one pair leaves the entries of all others
    as they are; and what a call offers first or registers with success is the first entry of its
    pair, and stays it. -/
theorem first_store_wins (shapes : List (TypeName × Shape)) {past : List Call}
    (hpast : (World.start shapes).Admissible past) :
    let w := (World.start shapes).run past
    (∀ id pair s, (w.cache id).lookup? pair = some s → ∀ future, w.Admissible future →
      ((w.run future).cache id).lookup? pair = some s) ∧
    (∀ id, (w.cache id).size = ((World.start shapes).storedSoFar past id).ncard) ∧
    (∀ call, w.Admits call → ∀ id pair h, w.hands? call = some (id, pair, h) →
      ∀ future, (w.after call).Admissible future →
        ∃ s, (((w.after call).run future).cache id).lookup? pair = some s ∧ s.handle = h) ∧
    (∀ call, w.Admits call → ∀ pair, call.pair? = some pair → ∀ other, other ≠ pair →
      ∀ id, ((w.after call).cache id).lookup? other = (w.cache id).lookup? other) ∧
    (∀ call, w.Admits call → ∀ id s, w.stores? call = some (id, s) →
      (w.cache id).lookup? s.handle.pair = none ∧
        ∀ future, (w.after call).Admissible future →
          (((w.after call).run future).cache id).lookup? s.handle.pair = some s) := by
  intro w
  have hstart : (World.start shapes).WellFormed := .start shapes
  have hw : w.WellFormed := hstart.run hpast
  refine ⟨?_, ?_, ?_, ?_, ?_⟩
  · intro id pair s hs future hfuture
    exact lookup?_run hw hfuture hs
  · intro id
    rw [storedSoFar_eq hstart hpast, hw.size_cache]
  · intro call ha id pair h hh future hfuture
    obtain ⟨s, hs, hhandle⟩ := hands?_stored hh
    exact ⟨s, lookup?_run (hw.after ha) hfuture hs, hhandle⟩
  · intro call ha pair hpair other hne id
    exact lookup?_after_of_ne hw ha hpair hne id
  · intro call ha id s hs
    obtain ⟨hbefore, hafter⟩ := stores?_stored hs
    exact ⟨hbefore, fun future hfuture => lookup?_run (hw.after ha) hfuture hafter⟩

end World

/-- The first factory loses the race, and what it hands out is handed out for good. Where there was
    no race yet, a specification that is registered with the cache is accepted and stays there. -/
theorem Ticket.first_store_wins_race :
    (World.start shapes).Admissible opening ∧
      ((World.start shapes).run opening).Admits (.specification 0 pair) ∧
      (∃ h, ((World.start shapes).run opening).hands? (.specification 0 pair) = some (0, pair, h) ∧
        ∀ future, (((World.start shapes).run opening).after (.specification 0 pair)).Admissible
            future →
          ∃ s, (((((World.start shapes).run opening).after (.specification 0 pair)).run
            future).cache 0).lookup? pair = some s ∧ s.handle = h) ∧
      ∀ identity spec future,
        (((World.start shapes).run opening).after
          (.tryInsert 0 ⟨identity, pair, spec⟩)).Admissible future →
        (((((World.start shapes).run opening).after (.tryInsert 0 ⟨identity, pair, spec⟩)).run
          future).cache 0).lookup? pair = some ⟨⟨identity, pair, spec⟩, .supplied⟩ := by
  have hopening : (World.start shapes).Admissible opening := by decide
  have hcall : ((World.start shapes).run opening).Admits (.specification 0 pair) := by decide
  have hrace : ∃ h, ((World.start shapes).run opening).hands? (.specification 0 pair) =
      some (0, pair, h) := ⟨_, rfl⟩
  obtain ⟨h, hh⟩ := hrace
  have hcache : ((World.start shapes).run opening).HasCache 0 := by decide
  obtain ⟨_, _, hhands, _, hstores⟩ := World.first_store_wins shapes hopening
  refine ⟨hopening, hcall, ⟨h, hh, hhands _ hcall 0 pair h hh⟩, fun identity spec => ?_⟩
  have haccepted : ((World.start shapes).run opening).stores?
      (.tryInsert 0 ⟨identity, pair, spec⟩) = some (0, ⟨⟨identity, pair, spec⟩, .supplied⟩) := rfl
  exact (hstores (.tryInsert 0 ⟨identity, pair, spec⟩) hcache 0 _ haccepted).2

end Sift
