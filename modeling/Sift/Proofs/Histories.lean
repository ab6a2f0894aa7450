import Sift.Proofs.FirstStore

/-!
# Histories

In a run every record type keeps its shape. Programs do not promise that: the shape of a type is
asked for anew each time it is needed. A HISTORY is a run in which, between two calls, types may
get other shapes. Entries of caches do not care, and neither does the numbering of caches and
factories; what compiles may be different after every step.

* `Move`, `World.move`, `World.play` -- a step of a history, and what a history makes of a world;
* `World.Playable` -- only what was created is called;
* `WellFormed.play`, `lookup?_play` -- the invariant of runs is one of histories, and entries stay;
* `SettingsKept`, `settingsKept_play` -- a factory keeps its options, its provider and its cache.
-/

namespace Sift

/-- A step of a history. -/
inductive Move where
  | call (c : Call)
  | reshape (name : TypeName) (shape : Shape)

namespace World

/-! ## 1. Steps and histories -/

/-- The world after a step. -/
def move (w : World) : Move → World
  | .call c => w.after c
  | .reshape name shape => w.reshape name shape

/-- A call is made on what exists; shapes may change at any time. -/
def Allows (w : World) : Move → Prop
  | .call c => w.Admits c
  | .reshape .. => True

instance (w : World) (m : Move) : Decidable (w.Allows m) :=
  match m with
  | .call c => inferInstanceAs (Decidable (w.Admits c))
  | .reshape .. => inferInstanceAs (Decidable True)

/-- The world after a history. -/
def play (w : World) : List Move → World
  | [] => w
  | m :: rest => (w.move m).play rest

/-- Every call of a history is made on what exists by then. -/
def Playable (w : World) : List Move → Prop
  | [] => True
  | m :: rest => w.Allows m ∧ (w.move m).Playable rest

instance decidablePlayable : (w : World) → (moves : List Move) → Decidable (w.Playable moves)
  | _, [] => inferInstanceAs (Decidable True)
  | w, m :: rest =>
    have := decidablePlayable (w.move m) rest
    inferInstanceAs (Decidable (w.Allows m ∧ (w.move m).Playable rest))

@[simp] theorem play_nil (w : World) : w.play [] = w := rfl

@[simp] theorem play_cons (w : World) (m : Move) (rest : List Move) :
    w.play (m :: rest) = (w.move m).play rest := rfl

variable {w : World}

/-! ## 2. The invariant, and entries -/

/-- The invariant speaks of no shape. -/
theorem WellFormed.reshape (hw : w.WellFormed) (name : TypeName) (shape : Shape) :
    (w.reshape name shape).WellFormed :=
  ⟨hw.caches, hw.factories, hw.cacheOf, hw.distinct, hw.ownPair⟩

theorem WellFormed.move (hw : w.WellFormed) {m : Move} (ha : w.Allows m) :
    (w.move m).WellFormed := by
  cases m with
  | call c => exact hw.after ha
  | reshape name shape => exact hw.reshape name shape

theorem WellFormed.play {moves : List Move} (hw : w.WellFormed) (ha : w.Playable moves) :
    (w.play moves).WellFormed := by
  induction moves generalizing w with
  | nil => exact hw
  | cons m rest ih => exact ih (hw.move ha.1) ha.2

theorem lookup?_move (hw : w.WellFormed) {m : Move} (ha : w.Allows m) {id : Nat} {pair : Pair}
    {s : Stored} (hs : (w.cache id).lookup? pair = some s) :
    ((w.move m).cache id).lookup? pair = some s := by
  cases m with
  | call c => exact lookup?_after hw ha hs
  | reshape name shape => exact hs

/-- **An entry stays through every history.** -/
theorem lookup?_play {moves : List Move} (hw : w.WellFormed) (ha : w.Playable moves) {id : Nat}
    {pair : Pair} {s : Stored} (hs : (w.cache id).lookup? pair = some s) :
    ((w.play moves).cache id).lookup? pair = some s := by
  induction moves generalizing w with
  | nil => exact hs
  | cons m rest ih => exact ih (hw.move ha.1) ha.2 (lookup?_move hw ha.1 hs)

/-! ## 3. Factories -/

/-- From `w` to `w'` a factory kept all but its sets of predicates, and what its provider was
    asked. -/
structure SettingsKept (w : World) (id : Nat) (w' : World) : Prop where
  created : w'.HasFactory id
  options : (w'.factory id).options = (w.factory id).options
  provider : (w'.factory id).provider = (w.factory id).provider
  cache : (w'.factory id).cache = (w.factory id).cache

namespace SettingsKept

theorem refl {id : Nat} (hid : w.HasFactory id) : w.SettingsKept id w := ⟨hid, rfl, rfl, rfl⟩

theorem trans {w' w'' : World} {id : Nat} (h : w.SettingsKept id w')
    (h' : w'.SettingsKept id w'') : w.SettingsKept id w'' :=
  ⟨h'.created, h'.options.trans h.options, h'.provider.trans h.provider, h'.cache.trans h.cache⟩

end SettingsKept

/-- **A call changes the settings of no factory that there is.** -/
theorem settingsKept_after (hw : w.WellFormed) {call : Call} (ha : w.Admits call) {id : Nat}
    (hid : w.HasFactory id) : w.SettingsKept id (w.after call) := by
  cases hcall : call.changesSettings with
  | false =>
    obtain ⟨_, _, _, hstores⟩ := after_stores hw ha hcall
    have hsame := hstores.factory id
    exact ⟨hstores.hasFactory.mpr hid, hsame.options, hsame.provider, hsame.cache⟩
  | true =>
    cases call with
    | newCache => exact ⟨hid, rfl, rfl, rfl⟩
    | newFactory options provider cache =>
      have hne : w.factories.size ≠ id := fun h => hw.not_hasFactory_size (h ▸ hid)
      have hfactory : (w.newFactory options provider cache).2.factory id = w.factory id := by
        rw [newFactory_factory, if_neg hne]
      have hhas := (hw.hasFactory_newFactory options provider cache).mpr (.inl hid)
      exact ⟨hhas, congrArg Factory.options hfactory, congrArg Factory.provider hfactory,
        congrArg Factory.cache hfactory⟩
    | overrideField g about field type p =>
      obtain ⟨sets, hfactory⟩ := overrideField_factory w g about field type p id
      have hhas : id ∈ (w.overrideField g about field type p).world.factories.keys := by
        rw [overrideField_keys ha]
        exact hid
      refine ⟨hhas, ?_, ?_, ?_⟩
      · exact (congrArg Factory.options hfactory :)
      · exact (congrArg Factory.provider hfactory :)
      · exact (congrArg Factory.cache hfactory :)
    | _ => cases hcall

theorem settingsKept_move (hw : w.WellFormed) {m : Move} (ha : w.Allows m) {id : Nat}
    (hid : w.HasFactory id) : w.SettingsKept id (w.move m) := by
  cases m with
  | call c => exact settingsKept_after hw ha hid
  | reshape name shape => exact ⟨hid, rfl, rfl, rfl⟩

/-- **A factory keeps its options, its provider and its cache through every history.** -/
theorem settingsKept_play {moves : List Move} (hw : w.WellFormed) (ha : w.Playable moves) {id : Nat}
    (hid : w.HasFactory id) : w.SettingsKept id (w.play moves) := by
  induction moves generalizing w with
  | nil => exact .refl hid
  | cons m rest ih =>
    have hstep := settingsKept_move hw ha.1 hid
    exact hstep.trans (ih (hw.move ha.1) ha.2 hstep.created)

end World

end Sift
