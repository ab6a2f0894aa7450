import Sift.Proofs.Exposure
import Sift.Proofs.Merging

/-!
# Skipped fields and criteria

A field that is skipped takes no part in a search, so an attribute that skips a field and also says
how it is searched is refused. Each attribute is checked by itself, and what the attributes of a
field say is merged afterwards. This file says what that excludes and what it lets through:

* `Tag.Accepted` -- an entry is accepted, whatever stands before it;
* `Attributes.ofEntries_isOk_iff`, `Attributes.ofList_isOk_iff` -- which attributes are accepted;
* `Attributes.Merges.contradictory_iff` -- what is merged is a contradiction exactly if the entries
  are one;
* `Attributes.ofList_together_iff` -- the attributes of a field against one attribute that has all
  their entries;
* `Attributes.skip_excluded_within` -- the main statement. A contradiction is refused in one
  attribute and goes through in two: `Ticket.skipped_apart`.
-/

namespace Sift

open Declaration

/-! ## 1. Contradictions among entries -/

namespace Declaration

/-- One of the entries skips the field. -/
def Tag.Skip (entries : List Tag) : Prop := entries.any (Tag.hasKey ["skip"]) = true

/-- One of the entries says how the field is searched. -/
def Tag.Search (entries : List Tag) : Prop :=
  entries.any (Tag.hasKey ["op", "path", "negate"]) = true

/-- The entry is accepted. -/
def Tag.Accepted (t : Tag) : Prop := ∃ said, Attributes.Says t said

theorem Tag.hasKey_cons (key : String) (keys : List String) (t : Tag) :
    t.hasKey (key :: keys) = (t.hasKey [key] || t.hasKey keys) := by
  unfold hasKey
  cases t.key? <;> simp

theorem Tag.any_hasKey_cons (key : String) (keys : List String) (entries : List Tag) :
    entries.any (hasKey (key :: keys)) =
      (entries.any (hasKey [key]) || entries.any (hasKey keys)) := by
  induction entries with
  | nil => rfl
  | cons t rest ih =>
    rw [List.any_cons, List.any_cons, List.any_cons, ih, hasKey_cons]
    simp only [Bool.or_assoc, Bool.or_left_comm]

/-- An entry with a key stands in one of the attributes of a field. -/
theorem Attribute.any_sequence_iff {p : Tag → Bool} {attributes : List Attribute} :
    (Attribute.sequence attributes).any p = true ↔ ∃ x ∈ attributes, x.entries.any p = true := by
  simp only [Attribute.sequence, List.any_flatMap, List.any_eq_true]

end Declaration

/-- Something is set exactly if there is an entry that sets it. -/
theorem TakesLast.isSome_eq {β : Type} {keys : List String} {value? : Tag → Option β}
    {entries : List Tag} {set : Option β} (h : TakesLast keys value? entries set) :
    set.isSome = entries.any (Tag.hasKey keys) := by
  have hlast : (Tag.last? keys entries).isSome = entries.any (Tag.hasKey keys) := by
    rw [Tag.last?, Bool.eq_iff_iff, List.getLast?_isSome]
    simp
  rw [← hlast]
  unfold TakesLast at h
  generalize Tag.last? keys entries = last at h
  cases h <;> rfl

namespace Attributes

variable {a b : Attributes} {entries : List Tag} {attributes : List Attribute}

/-- **What entries say is a contradiction exactly if they skip the field and search it.** -/
theorem Merges.contradictory_iff (h : Merges entries a) :
    a.contradictory = true ↔ Tag.Skip entries ∧ Tag.Search entries := by
  unfold contradictory Tag.Skip Tag.Search
  rw [h.skip, h.operator.isSome_eq, h.path.isSome_eq, h.negate,
    Tag.any_hasKey_cons "op" ["path", "negate"], Tag.any_hasKey_cons "path" ["negate"],
    Bool.and_eq_true, Bool.or_assoc]

/-! ## 2. What is accepted -/

/-- An accepted entry is added to whatever stands before it. -/
theorem add_of_says {t : Tag} (h : Says t b) (a : Attributes) : a.add t = .ok (a.followedBy b) := by
  cases h with
  | rename _ => simp [add, setting, textOf, followedBy, empty, bind, Except.bind, pure, Except.pure]
  | operator known =>
    simp [add, setting, textOf, known, followedBy, empty, bind, Except.bind, pure, Except.pure]
  | path dotted =>
    simp [add, setting, textOf, dotted, followedBy, empty, bind, Except.bind, pure, Except.pure]
  | _ => simp [add, flag, setting, followedBy, empty]

/-- **Entries are accepted in a row exactly if each of them is.** -/
theorem foldlM_add_isOk_iff :
    (∃ b, entries.foldlM add a = .ok b) ↔ ∀ t ∈ entries, t.Accepted := by
  refine foldlM_isOk_iff fun a t => ?_
  constructor
  · intro h
    obtain ⟨b, hb⟩ := h
    obtain ⟨said, hsaid, _⟩ := says_of_add hb
    exact ⟨said, hsaid⟩
  · intro h
    obtain ⟨said, hsaid⟩ := h
    exact ⟨_, add_of_says hsaid a⟩

/-- The entries of an attribute, once they are read. -/
theorem ofEntries_eq (h : entries.foldlM add empty = .ok a) :
    ofEntries entries = if a.contradictory then .error .skipWithCriterion else .ok a := by
  unfold ofEntries
  rw [h]
  rfl

/-- **The entries of one attribute are accepted** exactly if each of them is and they are no
    contradiction. -/
theorem ofEntries_isOk_iff :
    (∃ a, ofEntries entries = .ok a) ↔
      (∀ t ∈ entries, t.Accepted) ∧ ¬ (Tag.Skip entries ∧ Tag.Search entries) := by
  rw [← foldlM_add_isOk_iff (a := empty)]
  constructor
  · intro h
    obtain ⟨a, ha⟩ := h
    obtain ⟨said, hsaid, _⟩ := except_bind_eq_ok_iff.mp ha
    refine ⟨⟨said, hsaid⟩, fun hcontradiction => ?_⟩
    have hcontradictory := (merges_of_foldlM_add hsaid).contradictory_iff.mpr hcontradiction
    rw [ofEntries_eq hsaid, if_pos hcontradictory] at ha
    cases ha
  · intro h
    obtain ⟨⟨a, ha⟩, hsound⟩ := h
    have hcontradictory := mt (merges_of_foldlM_add ha).contradictory_iff.mp hsound
    exact ⟨a, by rw [ofEntries_eq ha, if_neg hcontradictory]⟩

theorem ofAttribute_isOk_iff {x : Attribute} :
    (∃ a, ofAttribute x = .ok a) ↔ x ≠ .malformed ∧ (∀ t ∈ x.entries, t.Accepted) ∧
      ¬ (Tag.Skip x.entries ∧ Tag.Search x.entries) := by
  cases x with
  | search entries =>
    have h : (∃ a, ofEntries entries = .ok a) ↔ (∀ t ∈ entries, t.Accepted) ∧
        ¬ (Tag.Skip entries ∧ Tag.Search entries) := ofEntries_isOk_iff
    simpa [ofAttribute, Attribute.entries] using h
  | malformed => simp [ofAttribute]
  | foreign => simp [ofAttribute, Attribute.entries, Tag.Skip]

/-- **The attributes of a field are accepted** exactly if each of them is a list of entries that are
    accepted and are no contradiction by themselves. -/
theorem ofList_isOk_iff :
    (∃ a, ofList attributes = .ok a) ↔ Attribute.malformed ∉ attributes ∧
      (∀ t ∈ Attribute.sequence attributes, t.Accepted) ∧
      ∀ x ∈ attributes, ¬ (Tag.Skip x.entries ∧ Tag.Search x.entries) := by
  have heach : (∃ a, ofList attributes = .ok a) ↔
      ∀ x ∈ attributes, ∃ a, ofAttribute x = .ok a := by
    refine foldlM_isOk_iff fun before x => ?_
    cases ofAttribute x <;> simp [Functor.map, Except.map]
  have hentries : (∀ t ∈ Attribute.sequence attributes, t.Accepted) ↔
      ∀ x ∈ attributes, ∀ t ∈ x.entries, t.Accepted := by
    simp only [Attribute.sequence, List.mem_flatMap, forall_exists_index, and_imp]
    exact ⟨fun h x hx t ht => h t x hx ht, fun h t x hx ht => h x hx t ht⟩
  have hlists : Attribute.malformed ∉ attributes ↔ ∀ x ∈ attributes, x ≠ .malformed :=
    ⟨fun h x hx heq => h (heq ▸ hx), fun h hmem => h _ hmem rfl⟩
  rw [heach, hentries, hlists]
  simp only [ofAttribute_isOk_iff, forall_and]

/-! ## 3. Attributes apart and together -/

/-- **One attribute with all entries is accepted exactly if the attributes are and come to no
    contradiction**, and then says the same. -/
theorem ofList_together_iff (hlists : Attribute.malformed ∉ attributes) :
    ofList [.search (Attribute.sequence attributes)] = .ok a ↔
      ofList attributes = .ok a ∧ a.contradictory = false := by
  rw [ofList_search]
  constructor
  · intro h
    have hsequence := merges_of_ofEntries h
    obtain ⟨haccepted, hsound⟩ := ofEntries_isOk_iff.mp ⟨a, h⟩
    have heach : ∀ x ∈ attributes, ¬ (Tag.Skip x.entries ∧ Tag.Search x.entries) := by
      intro x hx hcontradiction
      exact hsound ⟨Attribute.any_sequence_iff.mpr ⟨x, hx, hcontradiction.1⟩,
        Attribute.any_sequence_iff.mpr ⟨x, hx, hcontradiction.2⟩⟩
    obtain ⟨b, hb⟩ := ofList_isOk_iff.mpr ⟨hlists, haccepted, heach⟩
    obtain rfl : a = b := hsequence.unique (merges_of_ofList hb)
    exact ⟨hb, Bool.eq_false_iff.mpr (mt hsequence.contradictory_iff.mp hsound)⟩
  · intro h
    obtain ⟨hapart, hcontradictory⟩ := h
    have hsequence := merges_of_ofList hapart
    have hsound := mt hsequence.contradictory_iff.mpr (Bool.eq_false_iff.mp hcontradictory)
    obtain ⟨_, haccepted, _⟩ := ofList_isOk_iff.mp ⟨a, hapart⟩
    obtain ⟨b, hb⟩ := ofEntries_isOk_iff.mpr ⟨haccepted, hsound⟩
    obtain rfl : a = b := hsequence.unique (merges_of_ofEntries hb)
    exact hb

/-- A contradiction that went through in several attributes is refused in one. -/
theorem ofList_together_refused (h : ofList attributes = .ok a) (hcontradictory : a.contradictory) :
    ofList [.search (Attribute.sequence attributes)] = .error .skipWithCriterion := by
  obtain ⟨_, haccepted, _⟩ := ofList_isOk_iff.mp ⟨a, h⟩
  obtain ⟨b, hb⟩ := (foldlM_add_isOk_iff (a := empty)).mpr haccepted
  obtain rfl : a = b := (merges_of_ofList h).unique (merges_of_foldlM_add hb)
  rw [ofList_search, ofEntries_eq hb, if_pos hcontradictory]

/-- **What skipping excludes.** The attributes of a field are accepted exactly if each of them is a
    list of accepted entries that does not both skip the field and say how it is searched. So what
    they come to is a contradiction exactly if one of them skips the field and another one searches
    it; such a field is passed over with all that is said of it. One attribute with the same entries
    is accepted, and says the same, exactly if they come to no contradiction, and else is refused
    for it. Attributes that do not both skip and search the field may be cut in any other way. -/
theorem skip_excluded_within (attributes : List Attribute) :
    ((∃ a, ofList attributes = .ok a) ↔ Attribute.malformed ∉ attributes ∧
      (∀ t ∈ Attribute.sequence attributes, t.Accepted) ∧
      ∀ x ∈ attributes, ¬ (Tag.Skip x.entries ∧ Tag.Search x.entries)) ∧
    (∀ a, ofList attributes = .ok a →
      (a.contradictory = true ↔ (∃ x ∈ attributes, Tag.Skip x.entries) ∧
        ∃ x ∈ attributes, Tag.Search x.entries) ∧
      (a.contradictory = true →
        ofList [.search (Attribute.sequence attributes)] = .error .skipWithCriterion ∧
        ∀ (before : List (ExposedField String)) name type,
          ExposedField.add before ⟨name, type, a⟩ = .ok before)) ∧
    (Attribute.malformed ∉ attributes →
      (∀ a, ofList [.search (Attribute.sequence attributes)] = .ok a ↔
        ofList attributes = .ok a ∧ a.contradictory = false) ∧
      ∀ others, Attribute.malformed ∉ others →
        Attribute.sequence others = Attribute.sequence attributes →
        ¬ ((∃ x ∈ attributes, Tag.Skip x.entries) ∧ ∃ x ∈ attributes, Tag.Search x.entries) →
        ∀ a, ofList attributes = .ok a ↔ ofList others = .ok a) := by
  have hapart : ∀ {attributes : List Attribute} {a}, ofList attributes = .ok a →
      (a.contradictory = true ↔ (∃ x ∈ attributes, Tag.Skip x.entries) ∧
        ∃ x ∈ attributes, Tag.Search x.entries) := by
    intro attributes a h
    rw [(merges_of_ofList h).contradictory_iff]
    exact and_congr Attribute.any_sequence_iff Attribute.any_sequence_iff
  refine ⟨ofList_isOk_iff, fun a h => ⟨hapart h, fun hcontradictory => ⟨?refused, ?dropped⟩⟩,
    fun hlists => ⟨fun a => ofList_together_iff hlists, ?cut⟩⟩
  case refused => exact ofList_together_refused h hcontradictory
  case dropped =>
    intro before name type
    rw [contradictory, Bool.and_eq_true] at hcontradictory
    exact ExposedField.add_skipped hcontradictory.1
  case cut =>
    intro others hothers hsequence hsound a
    have hsound' : ¬ (Tag.Skip (Attribute.sequence attributes) ∧
        Tag.Search (Attribute.sequence attributes)) := by
      rwa [Tag.Skip, Tag.Search, Attribute.any_sequence_iff, Attribute.any_sequence_iff]
    -- either way the attributes say what one attribute with all the entries says
    have htogether : ∀ {attributes' : List Attribute}, Attribute.malformed ∉ attributes' →
        Attribute.sequence attributes' = Attribute.sequence attributes →
        (ofList attributes' = .ok a ↔
          ofList [.search (Attribute.sequence attributes)] = .ok a) := by
      intro attributes' hlists' hsequence'
      rw [← hsequence', ofList_together_iff hlists']
      refine (and_iff_left_of_imp fun h => ?_).symm
      have hmerges := merges_of_ofList h
      rw [hsequence'] at hmerges
      exact Bool.eq_false_iff.mpr (mt hmerges.contradictory_iff.mp hsound')
    rw [htogether hlists rfl, htogether hothers hsequence]

end Attributes

namespace Ticket

/-- A title that is skipped by one attribute and searched by another one. -/
def skippedTitle : List Tag :=
  [.form (some "spec") [.word "skip"],
    .form (some "spec") [.word "op", .mark '=' false, .text "eq" "\"eq\""]]

/-- Both are said in one attribute. -/
def contradictoryTitle : List Tag :=
  [.form (some "spec") [.word "skip", .mark ',' false, .word "op", .mark '=' false,
    .text "eq" "\"eq\""]]

/-- The two attributes are accepted, and the title is passed over. One attribute that says the same
    is refused. -/
theorem skip_excluded_within_title :
    ∃ a, Attributes.ofList (skippedTitle.map Attribute.ofTag) = .ok a ∧
      a.contradictory = true ∧
      Attributes.ofList [.search (Attribute.sequence (skippedTitle.map Attribute.ofTag))] =
        .error .skipWithCriterion ∧
      ∀ before : List (ExposedField String),
        ExposedField.add before ⟨"title", "String", a⟩ = .ok before := by
  obtain ⟨_, haccepted, _⟩ :=
    Attributes.skip_excluded_within (skippedTitle.map Attribute.ofTag)
  obtain ⟨hcontradictory, hrefused⟩ := haccepted _ rfl
  obtain ⟨htogether, hdropped⟩ := hrefused rfl
  exact ⟨_, rfl, rfl, htogether, fun before => hdropped before _ _⟩

/-- **A field may be skipped and searched by two attributes**, and then is not exposed; one
    attribute that says both is refused. -/
theorem skipped_apart :
    (∃ a, Attributes.ofList (skippedTitle.map Attribute.ofTag) = .ok a ∧ a.skip = true ∧
      a.operator = some .equal) ∧
    Declaration.exposedFields ⟨"TicketFilter", "", .fields [⟨"title", "String", skippedTitle⟩]⟩ =
      .ok [] ∧
    Attributes.ofList (contradictoryTitle.map Attribute.ofTag) = .error .skipWithCriterion ∧
    Declaration.exposedFields
      ⟨"TicketFilter", "", .fields [⟨"title", "String", contradictoryTitle⟩]⟩ =
      .error .skipWithCriterion :=
  ⟨⟨_, rfl, rfl, rfl⟩, rfl, rfl, rfl⟩

end Ticket

end Sift
