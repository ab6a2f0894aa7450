import Sift.Declaration.Attribute
import Sift.Proofs.Planning

/-!
# How attributes merge

A field may have any number of attributes, and an attribute any number of entries. Within one
attribute an entry replaces what was said before; several attributes are read one by one and put
after each other. This file says that both come to the same:

* `Attributes.Merges` -- what a sequence of entries says: of the settings the last entry counts,
  flags count wherever they occur;
* `Attributes.says_of_add` -- an entry says the same whatever was said before it;
* `Attributes.Merges.append`, `Attributes.Merges.foldlM` -- sequences that are put after each other
  say what the whole sequence says. Entries make an attribute and attributes a field by this one
  lemma;
* `Attributes.Merges.unique` -- so the result is known by the sequence, wherever it is cut;
* `Attributes.ofList_merges` -- the main statement.
-/

namespace Sift

open Declaration

/-! ## 1. Entries by their keys -/

namespace Declaration

/-- The key of an entry, if its path is a single word. -/
def Tag.key? : Tag → Option String
  | .flag key | .setting key _ | .form key _ => key

/-- Whether an entry has one of the keys. -/
def Tag.hasKey (keys : List String) (t : Tag) : Bool := t.key?.any keys.contains

/-- The text an entry sets. -/
def Tag.text? : Tag → Option String
  | .setting _ (.text s) => some s
  | _ => none

/-- The operator an entry sets. -/
def Tag.operator? (t : Tag) : Option Operator :=
  t.text?.bind fun name => operatorSpellings.lookup name

/-- What an entry says about empty values: a flag that they are kept, a setting whether they are
    ignored. -/
def Tag.ignoresEmpty? : Tag → Option Bool
  | .flag _ => some false
  | .setting _ (.truth b) => some b
  | _ => none

/-- The last of the entries that have one of the keys. -/
def Tag.last? (keys : List String) (entries : List Tag) : Option Tag :=
  (entries.filter (Tag.hasKey keys)).getLast?

/-- The entries of an attribute. -/
def Attribute.entries : Attribute → List Tag
  | .search entries => entries
  | .malformed | .foreign => []

/-- All entries of a field's attributes, from left to right. -/
def Attribute.sequence (attributes : List Attribute) : List Tag := attributes.flatMap entries

end Declaration

/-- What is set is the value of the last entry with one of the keys, which has one. Nothing is set
    where there is no such entry. -/
def TakesLast {β : Type} (keys : List String) (value? : Tag → Option β) (entries : List Tag)
    (set : Option β) : Prop :=
  Option.Rel (fun t y => value? t = some y) (Tag.last? keys entries) set

/-- **What a sequence of entries says.** -/
structure Attributes.Merges (entries : List Tag) (a : Attributes) : Prop where
  rename : TakesLast ["rename"] Tag.text? entries a.rename
  operator : TakesLast ["op"] Tag.operator? entries a.operator
  path : TakesLast ["path"] Tag.text? entries a.path
  /-- One setting in two spellings. -/
  ignoreIfEmpty :
    TakesLast ["keep_empty", "ignore_if_empty"] Tag.ignoresEmpty? entries a.ignoreIfEmpty
  skip : a.skip = entries.any (Tag.hasKey ["skip"])
  negate : a.negate = entries.any (Tag.hasKey ["negate"])
  ignore : a.ignore = entries.any (Tag.hasKey ["ignore"])

/-! ## 2. The last entry -/

section TakesLast

variable {β : Type} {keys : List String} {value? : Tag → Option β} {entries later : List Tag}
  {x y : Option β}

theorem takesLast_nil : TakesLast keys value? [] none := .none

/-- What a later sequence sets stands. -/
theorem TakesLast.append (h : TakesLast keys value? entries x)
    (hlater : TakesLast keys value? later y) :
    TakesLast keys value? (entries ++ later) (y.or x) := by
  have hlast : Tag.last? keys (entries ++ later) =
      (Tag.last? keys later).or (Tag.last? keys entries) := by
    rw [Tag.last?, List.filter_append, List.getLast?_append]
    rfl
  unfold TakesLast at *
  rw [hlast]
  generalize Tag.last? keys later = last at hlater
  cases hlater with
  | some hy => exact .some hy
  | none => exact h

theorem TakesLast.unique (h : TakesLast keys value? entries x)
    (h' : TakesLast keys value? entries y) : x = y := by
  unfold TakesLast at h h'
  generalize Tag.last? keys entries = last at h h'
  cases h with
  | none =>
    cases h'
    rfl
  | some hx =>
    cases h' with
    | some hy => exact hx.symm.trans hy

end TakesLast

namespace Attributes

variable {a b : Attributes} {entries later : List Tag}

/-! ## 3. Sequences of entries -/

@[simp] theorem followedBy_empty (a : Attributes) : a.followedBy empty = a := by
  simp [followedBy, empty]

@[simp] theorem empty_followedBy (a : Attributes) : empty.followedBy a = a := by
  simp [followedBy, empty]

theorem merges_nil : Merges [] empty :=
  ⟨takesLast_nil, takesLast_nil, takesLast_nil, takesLast_nil, rfl, rfl, rfl⟩

/-- **Sequences that are put after each other say what the whole sequence says.** -/
theorem Merges.append (h : Merges entries a) (hlater : Merges later b) :
    Merges (entries ++ later) (a.followedBy b) where
  rename := h.rename.append hlater.rename
  operator := h.operator.append hlater.operator
  path := h.path.append hlater.path
  ignoreIfEmpty := h.ignoreIfEmpty.append hlater.ignoreIfEmpty
  skip := by rw [List.any_append, ← h.skip, ← hlater.skip]; rfl
  negate := by rw [List.any_append, ← h.negate, ← hlater.negate]; rfl
  ignore := by rw [List.any_append, ← h.ignore, ← hlater.ignore]; rfl

/-- A sequence says one thing only. -/
theorem Merges.unique (h : Merges entries a) (h' : Merges entries b) : a = b := by
  obtain ⟨skip, rename, operator, negate, path, ignore, ignoreIfEmpty⟩ := a
  obtain ⟨skip', rename', operator', negate', path', ignore', ignoreIfEmpty'⟩ := b
  obtain rfl := h.rename.unique h'.rename
  obtain rfl := h.operator.unique h'.operator
  obtain rfl := h.path.unique h'.path
  obtain rfl := h.ignoreIfEmpty.unique h'.ignoreIfEmpty
  obtain rfl := h.skip.trans h'.skip.symm
  obtain rfl := h.negate.trans h'.negate.symm
  obtain rfl := h.ignore.trans h'.ignore.symm
  rfl

/-- **A pass puts after each other what its steps say**, each step what its own entries say. -/
theorem Merges.foldlM {α : Type} {part : α → List Tag} {xs : List α} {c : Attributes}
    {step : Attributes → α → Except DeclarationError Attributes}
    (hstep : ∀ a x c, step a x = .ok c → ∃ b, Merges (part x) b ∧ c = a.followedBy b)
    (h : Merges entries a) (hpass : xs.foldlM step a = .ok c) :
    Merges (entries ++ xs.flatMap part) c := by
  induction xs generalizing entries a with
  | nil =>
    cases hpass
    simpa using h
  | cons x xs ih =>
    rw [List.foldlM_cons] at hpass
    obtain ⟨_, hx, hrest⟩ := except_bind_eq_ok_iff.mp hpass
    obtain ⟨b, hb, rfl⟩ := hstep a x _ hx
    rw [List.flatMap_cons, ← List.append_assoc]
    exact ih (h.append hb) hrest

/-! ## 4. Entries -/

/-- **What an entry says by itself**, if it is accepted. -/
inductive Says : Tag → Attributes → Prop
  | skip : Says (.flag (some "skip")) { empty with skip := true }
  | negate : Says (.flag (some "negate")) { empty with negate := true }
  | ignore : Says (.flag (some "ignore")) { empty with ignore := true }
  | keepEmpty : Says (.flag (some "keep_empty")) { empty with ignoreIfEmpty := some false }
  | rename (name : String) :
      Says (.setting (some "rename") (.text name)) { empty with rename := some name }
  | operator {name : String} {op : Operator} (known : operatorSpellings.lookup name = some op) :
      Says (.setting (some "op") (.text name)) { empty with operator := some op }
  | path {path : String} (dotted : isDotted path = true) :
      Says (.setting (some "path") (.text path)) { empty with path := some path }
  | ignoreIfEmpty (b : Bool) :
      Says (.setting (some "ignore_if_empty") (.truth b)) { empty with ignoreIfEmpty := some b }

theorem textOf_eq_ok {key name : String} {given : Given} (h : textOf key given = .ok name) :
    given = .text name := by
  cases given with
  | text s => cases h; rfl
  | _ => cases h

/-- **An accepted entry says the same whatever was said before**, and nothing else is accepted. -/
theorem says_of_add {t : Tag} (h : a.add t = .ok b) :
    ∃ said, Says t said ∧ b = a.followedBy said := by
  cases t with
  | form key arguments => cases h
  | flag key =>
    simp only [add, flag] at h
    split at h <;> cases h
    · exact ⟨_, .skip, by simp [followedBy, empty]⟩
    · exact ⟨_, .negate, by simp [followedBy, empty]⟩
    · exact ⟨_, .ignore, by simp [followedBy, empty]⟩
    · exact ⟨_, .keepEmpty, by simp [followedBy, empty]⟩
  | setting key given =>
    simp only [add, setting] at h
    split at h
    · obtain ⟨name, hname, hsaid⟩ := except_bind_eq_ok_iff.mp h
      cases textOf_eq_ok hname
      cases hsaid
      exact ⟨_, .rename name, by simp [followedBy, empty]⟩
    · obtain ⟨name, hname, hsaid⟩ := except_bind_eq_ok_iff.mp h
      cases textOf_eq_ok hname
      split at hsaid
      · rename_i op hop
        cases hsaid
        exact ⟨_, .operator hop, by simp [followedBy, empty]⟩
      · cases hsaid
    · obtain ⟨path, hpath, hsaid⟩ := except_bind_eq_ok_iff.mp h
      cases textOf_eq_ok hpath
      split at hsaid
      · rename_i hdotted
        cases hsaid
        exact ⟨_, .path hdotted, by simp [followedBy, empty]⟩
      · cases hsaid
    · split at h
      · cases h
        exact ⟨_, .ignoreIfEmpty _, by simp [followedBy, empty]⟩
      · cases h
    · cases h

/-- **An entry is a sequence by itself.** -/
theorem Says.merges {t : Tag} (h : Says t b) : Merges [t] b := by
  cases h with
  | skip | negate | ignore => exact ⟨.none, .none, .none, .none, rfl, rfl, rfl⟩
  | rename _ => exact ⟨.some rfl, .none, .none, .none, rfl, rfl, rfl⟩
  | operator known => exact ⟨.none, .some known, .none, .none, rfl, rfl, rfl⟩
  | path _ => exact ⟨.none, .none, .some rfl, .none, rfl, rfl, rfl⟩
  | keepEmpty | ignoreIfEmpty _ => exact ⟨.none, .none, .none, .some rfl, rfl, rfl, rfl⟩

/-! ## 5. Attributes -/

/-- Entries that are accepted in a row say what the sequence of them says. -/
theorem merges_of_foldlM_add (h : entries.foldlM add empty = .ok a) : Merges entries a := by
  have hmerges : Merges ([] ++ entries.flatMap fun t => [t]) a :=
    merges_nil.foldlM (fun _ _ _ hadd => (says_of_add hadd).imp fun _ h => h.imp_left Says.merges) h
  simpa using hmerges

/-- **What the entries of one attribute say**, if it is accepted. -/
theorem merges_of_ofEntries (h : ofEntries entries = .ok a) : Merges entries a := by
  obtain ⟨said, hsaid, hrest⟩ := except_bind_eq_ok_iff.mp h
  split at hrest
  · cases hrest
  · cases hrest
    exact merges_of_foldlM_add hsaid

theorem merges_of_ofAttribute {x : Attribute} (h : ofAttribute x = .ok a) :
    Merges x.entries a := by
  cases x with
  | search entries => exact merges_of_ofEntries h
  | malformed => cases h
  | foreign =>
    cases h
    exact merges_nil

/-- A single attribute says what its entries say. -/
theorem ofList_search (entries : List Tag) : ofList [.search entries] = ofEntries entries := by
  show (empty.followedBy <$> ofEntries entries) >>= pure = _
  cases ofEntries entries with
  | error e => rfl
  | ok a => exact congrArg Except.ok (empty_followedBy a)

/-- **What the attributes of a field say** is what the sequence of all their entries says. -/
theorem merges_of_ofList {attributes : List Attribute} (h : ofList attributes = .ok a) :
    Merges (Attribute.sequence attributes) a := by
  refine merges_nil.foldlM (fun before x c hx => ?_) h
  obtain ⟨b, hb, rfl⟩ := except_map_eq_ok_iff.mp hx
  exact ⟨b, merges_of_ofAttribute hb, rfl⟩

/-- **The attributes of a field are refused for the first of them that is.** -/
theorem ofList_eq_error_iff {attributes : List Attribute} {e : DeclarationError} :
    ofList attributes = .error e ↔
      FirstOf (fun x e => ofAttribute x = .error e) attributes e := by
  unfold ofList
  generalize empty = a
  induction attributes generalizing a with
  | nil => simp [pure, Except.pure]
  | cons x attributes ih =>
    rw [List.foldlM_cons, firstOf_cons_iff]
    cases hx : ofAttribute x with
    | error e' => simp [Functor.map, Except.map, bind, Except.bind]
    | ok b => simpa [Functor.map, Except.map, bind, Except.bind] using ih (a.followedBy b)

/-- The attribute of a tag is about something else unless the key of the tag says otherwise. -/
theorem ofTag_of_not_hasKey {t : Tag} (h : t.hasKey ["spec"] = false) :
    Attribute.ofTag t = .foreign := by
  unfold Attribute.ofTag
  split
  · cases h
  · cases h
  · cases h
  · rfl

/-- Tags about something else are passed over. -/
theorem ofList_filter (tags : List Tag) :
    ofList (tags.map Attribute.ofTag) =
      ofList ((tags.filter (Tag.hasKey ["spec"])).map Attribute.ofTag) := by
  unfold ofList
  generalize empty = a
  induction tags generalizing a with
  | nil => rfl
  | cons t tags ih =>
    cases hkey : t.hasKey ["spec"] with
    | true =>
      rw [List.filter_cons_of_pos hkey, List.map_cons, List.map_cons, List.foldlM_cons,
        List.foldlM_cons]
      exact congrArg _ (funext ih)
    | false =>
      rw [List.filter_cons_of_neg (by simp [hkey]), List.map_cons, List.foldlM_cons,
        ofTag_of_not_hasKey hkey]
      show (tags.map Attribute.ofTag).foldlM _ (a.followedBy empty) = _
      rw [followedBy_empty]
      exact ih a

/-- **How the attributes of a field merge.** They are refused exactly if one of them is refused by
    itself, and with the error of the first that is. If they are accepted, then of each setting the
    last entry of the whole sequence counts, a setting without an entry is unset, and a flag is set
    exactly if it occurs. So two fields whose attributes have the same entries in the same order say
    the same, wherever an attribute ends and the next one begins. Tags about something else do not
    matter. -/
theorem ofList_merges (attributes : List Attribute) :
    (∀ e, ofList attributes = .error e ↔
      FirstOf (fun x e => ofAttribute x = .error e) attributes e) ∧
    (∀ a, ofList attributes = .ok a → Merges (Attribute.sequence attributes) a) ∧
    (∀ others a b, ofList attributes = .ok a → ofList others = .ok b →
      Attribute.sequence attributes = Attribute.sequence others → a = b) ∧
    ∀ tags : List Tag, ofList (tags.map Attribute.ofTag) =
      ofList ((tags.filter (Tag.hasKey ["spec"])).map Attribute.ofTag) := by
  refine ⟨fun e => ofList_eq_error_iff, fun a => merges_of_ofList,
    fun others a b h h' hsequence => ?_, ofList_filter⟩
  have hmerges := merges_of_ofList h
  rw [hsequence] at hmerges
  exact hmerges.unique (merges_of_ofList h')

end Attributes

namespace Ticket

/-- A field that is seen as a town and kept when empty, and then rather as a city that is not. -/
def cityAttributes : List Attribute :=
  [.search [.setting (some "rename") (.text "town"), .flag (some "keep_empty")], .foreign,
    .search [.setting (some "ignore_if_empty") (.truth true),
      .setting (some "rename") (.text "city"), .flag (some "negate")]]

/-- The later entries count, and would in one attribute. An operator that there is not is refused
    before a flag that there is not. -/
theorem ofList_merges_city :
    (∃ a, Attributes.ofList cityAttributes = .ok a ∧ a.rename = some "city" ∧ a.path = none ∧
      a.ignoreIfEmpty = some true ∧ a.negate = true ∧
      Attributes.Merges (Attribute.sequence cityAttributes) a ∧
      ∀ b, Attributes.ofList [.search (Attribute.sequence cityAttributes)] = .ok b → a = b) ∧
    Attributes.ofList [.search [.setting (some "op") (.text "equals")],
      .search [.flag (some "optional")]] = .error (.unknownOperator "equals") := by
  refine ⟨⟨_, rfl, rfl, rfl, rfl, rfl, ?_, fun b h => ?_⟩, ?_⟩
  · exact (Attributes.ofList_merges cityAttributes).2.1 _ rfl
  · exact (Attributes.ofList_merges cityAttributes).2.2.1 _ _ b rfl h (List.append_nil _).symm
  · exact ((Attributes.ofList_merges _).1 _).mpr ⟨[], _, _, rfl, by simp, rfl⟩

end Ticket

end Sift
