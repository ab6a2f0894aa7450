import Sift.Proofs.Constants
import Sift.Proofs.Lowering
import Sift.Shop

/-!
# Libraries of declared types

What is said about searches asks for two things: the names in a shape are distinct, and a record
holds values of the types that its shape declares. Where record types are declared nobody has to
see to either. This file says so for every library that is made from declarations:

* `Text.isIdentifier_constantName` -- the constant of a name in ASCII can be named, which is told
  from the name without the tables of characters;
* `Library.declares_ofDeclarations` -- declarations that are accepted make a library that exposes
  what they say;
* `Library.Declares.searchable` -- the main statement: its shapes have distinct names, and whatever
  is stored in its types is read as a record that conforms to its shape;
* `Shop.library_declares` -- the shop is such a library.
-/

namespace Sift

/-! ## 1. Names in ASCII -/

namespace Text

/-- An ASCII letter or an underscore, by its code point. -/
def beginsAscii (c : Char) : Bool :=
  (97 ≤ c.toNat && c.toNat ≤ 122) || (65 ≤ c.toNat && c.toNat ≤ 90) || c.toNat == 95

/-- A digit may stand after the first character. -/
def continuesAscii (c : Char) : Bool := beginsAscii c || (48 ≤ c.toNat && c.toNat ≤ 57)

/-- A name of ASCII letters, digits and underscores that does not begin with a digit. -/
def isAsciiName (name : String) : Bool :=
  match name.toList with
  | [] => false
  | c :: rest => beginsAscii c && rest.all continuesAscii

theorem beginsAscii_iff {c : Char} : beginsAscii c = true ↔
    ((97 ≤ c.toNat ∧ c.toNat ≤ 122) ∨ (65 ≤ c.toNat ∧ c.toNat ≤ 90)) ∨ c.toNat = 95 := by
  simp [beginsAscii]

theorem continuesAscii_iff {c : Char} : continuesAscii c = true ↔
    beginsAscii c = true ∨ (48 ≤ c.toNat ∧ c.toNat ≤ 57) := by
  simp [continuesAscii]

theorem toNat_constantChar (c : Char) :
    (constantChar c).toNat = if isSeparator c then 95 else c.toUpper.toNat := by
  unfold constantChar
  split <;> rfl

/-- A letter becomes a capital, and an underscore stays one. -/
theorem constantChar_of_beginsAscii {c : Char} (h : beginsAscii c = true) :
    (65 ≤ (constantChar c).toNat ∧ (constantChar c).toNat ≤ 90) ∨ (constantChar c).toNat = 95 := by
  have hc := beginsAscii_iff.mp h
  rw [toNat_constantChar]
  split
  · exact .inr rfl
  · rw [toNat_toUpper]
    split <;> omega

/-- A digit stays what it is. -/
theorem constantChar_of_digit {c : Char} (h : 48 ≤ c.toNat ∧ c.toNat ≤ 57) :
    48 ≤ (constantChar c).toNat ∧ (constantChar c).toNat ≤ 57 := by
  have hseparator : ¬ isSeparator c = true := by
    rw [isSeparator_iff_toNat]
    omega
  rw [toNat_constantChar, if_neg hseparator, toNat_toUpper, if_neg (by omega)]
  exact h

theorem isIdentifierStart_constantChar {c : Char} (h : beginsAscii c = true) :
    isIdentifierStart (constantChar c) = true := by
  have hcapitals : (65, 90) ∈ identifierStartTable := by decide
  unfold isIdentifierStart
  rw [Bool.or_eq_true]
  rcases constantChar_of_beginsAscii h with hcapital | hunderscore
  · exact .inr (CharTable.has_eq_true_iff.mpr ⟨_, hcapitals, hcapital⟩)
  · exact .inl (beq_iff_eq.mpr (Char.toNat_inj.mp hunderscore))

theorem isIdentifierContinue_constantChar {c : Char} (h : continuesAscii c = true) :
    isIdentifierContinue (constantChar c) = true := by
  have hranges : (48, 57) ∈ identifierContinueTable ∧ (65, 90) ∈ identifierContinueTable ∧
      (95, 95) ∈ identifierContinueTable := by decide
  obtain ⟨hdigits, hcapitals, hunderscores⟩ := hranges
  refine CharTable.has_eq_true_iff.mpr ?_
  rcases continuesAscii_iff.mp h with hbegins | hdigit
  · rcases constantChar_of_beginsAscii hbegins with hcapital | hunderscore
    · exact ⟨_, hcapitals, hcapital⟩
    · exact ⟨_, hunderscores, hunderscore.ge, hunderscore.le⟩
  · exact ⟨_, hdigits, constantChar_of_digit hdigit⟩

theorem mem_gap {c : Char} {afterSmall : Bool} {rest : List Char} (h : c ∈ gap afterSmall rest) :
    c = '_' := by
  unfold gap at h
  split at h
  · exact List.mem_singleton.mp h
  · exact absurd h List.not_mem_nil

/-- Words are put apart by underscores only. -/
theorem mem_spaced {c : Char} {cs : List Char} (h : c ∈ spaced cs) : c ∈ cs ∨ c = '_' := by
  induction cs with
  | nil => exact absurd h List.not_mem_nil
  | cons d rest ih =>
    rw [spaced, List.mem_cons, List.mem_append] at h
    rcases h with rfl | hgap | hrest
    · exact .inl List.mem_cons_self
    · exact .inr (mem_gap hgap)
    · exact (ih hrest).imp_left (List.mem_cons_of_mem d)

/-- **The constant of a name in ASCII is an identifier.** -/
theorem isIdentifier_constantName {name : String} (h : isAsciiName name = true) :
    isIdentifier (constantName name) = true := by
  unfold isAsciiName at h
  unfold isIdentifier constantName
  rw [String.toList_ofList, constantFrom_eq, gap_false, List.nil_append]
  cases hname : name.toList with
  | nil =>
    rw [hname] at h
    cases h
  | cons c rest =>
    rw [hname, Bool.and_eq_true, List.all_eq_true] at h
    obtain ⟨hfirst, hrest⟩ := h
    have hall : ∀ d ∈ gap (isSmall c) rest ++ spaced rest, continuesAscii d = true := by
      intro d hd
      rcases List.mem_append.mp hd with hgap | hspaced
      · rw [mem_gap hgap]
        rfl
      · rcases mem_spaced hspaced with hname | rfl
        · exact hrest d hname
        · rfl
    rw [spaced, List.map_cons]
    refine Bool.and_eq_true_iff.mpr ⟨isIdentifierStart_constantChar hfirst, ?_⟩
    rw [List.all_map, List.all_eq_true]
    exact fun d hd => isIdentifierContinue_constantChar (hall d hd)

end Text

/-! ## 2. Declarations -/

/-- What is asked of the fields of a record type: their names differ, those they are seen under
    differ as well, and the constants of the fields that are seen can be named. -/
structure DeclaredField.Accepted (fields : List (DeclaredField Storage)) : Prop where
  names : (fields.map (·.name)).Nodup
  shownNames : ((shown fields).map (·.shownName)).Nodup
  constants : ∀ f ∈ shown fields, f.HasConstant

theorem DeclaredField.Accepted.ofFields {fields : List (DeclaredField Storage)}
    (h : Accepted fields) :
    ExposedField.ofFields (fields.map .ok) = .ok ((shown fields).map (·.exposed)) :=
  ExposedField.ofFields_eq_ok_iff.mpr ⟨rfl, h.shownNames, h.constants⟩

namespace Library

variable {declarations : List (TypeName × List (DeclaredField Storage))}

/-- A name that is listed stands for one of the declarations, any other one for no fields. -/
theorem accepted_of_lookup (h : ∀ d ∈ declarations, DeclaredField.Accepted d.2) (n : TypeName) :
    DeclaredField.Accepted ((declarations.lookup n).getD []) := by
  cases hn : declarations.lookup n with
  | none => exact ⟨List.nodup_nil, List.nodup_nil, List.forall_mem_nil _⟩
  | some fields =>
    obtain ⟨before, after, rfl, _⟩ := List.lookup_eq_some_iff.mp hn
    exact h (n, fields) (List.mem_append_right _ List.mem_cons_self)

/-- What a library of declarations exposes under a name is drawn from the fields it stands for. -/
theorem exposure_ofDeclarations (declarations : List (TypeName × List (DeclaredField Storage)))
    (n : TypeName) :
    (ofDeclarations declarations).exposure n =
      ((ExposedField.ofFields (((declarations.lookup n).getD []).map .ok)).toOption).getD [] := by
  unfold exposure ofDeclarations
  induction declarations with
  | nil => rfl
  | cons d rest ih =>
    obtain ⟨m, fields⟩ := d
    rw [List.map_cons, List.lookup_cons, List.lookup_cons]
    cases n == m with
    | true => rfl
    | false => exact ih

/-- **Declarations that are accepted make a library that exposes what they say.** -/
theorem declares_ofDeclarations (h : ∀ d ∈ declarations, DeclaredField.Accepted d.2) :
    (ofDeclarations declarations).Declares fun n => (declarations.lookup n).getD [] := by
  refine ⟨fun n => ?_, fun n => (accepted_of_lookup h n).names⟩
  rw [exposure_ofDeclarations, (accepted_of_lookup h n).ofFields]
  rfl

/-! ## 3. What can be searched -/

variable {l : Library} {declared : TypeName → List (DeclaredField Storage)}

/-- The names in a shape are those its fields are seen under. -/
theorem Declares.distinctNames (hl : l.Declares declared) (n : TypeName) :
    (Catalog.ofList l.shapes n).DistinctNames := by
  obtain ⟨hexposure, hnames, _⟩ := ExposedField.ofFields_eq_ok_iff.mp (hl.exposed n)
  unfold Shape.DistinctNames
  rw [fields_of_shapes, hexposure, List.map_map, List.map_map]
  exact hnames

/-- What is stored in a record type is lowered to a record, whose fields hold what they show. -/
theorem Declares.toRecord_conforms (hl : l.Declares declared) {n : TypeName} {x : Datum}
    (hx : x.StoredAs declared (.record n)) :
    (x.toRecord l.exposure n).Conforms (Catalog.ofList l.shapes) (Catalog.ofList l.shapes n) := by
  have hvalue := (hx.shows hl).conforms
  cases hx with
  | object identity _ _ =>
    cases hvalue with
    | record hfields => exact hfields

/-- **Declared types can be searched.** The names in the shape of a record type are distinct, and
    what is stored in the type, whatever it is, is read as a record that conforms to the shape. -/
theorem Declares.searchable (hl : l.Declares declared) (n : TypeName) :
    (Catalog.ofList l.shapes n).DistinctNames ∧
    ∀ x : Datum, x.StoredAs declared (.record n) →
      (x.toRecord l.exposure n).Conforms (Catalog.ofList l.shapes) (Catalog.ofList l.shapes n) :=
  ⟨hl.distinctNames n, fun _ => hl.toRecord_conforms⟩

end Library

namespace Shop

/-- The fields of the shop have names in ASCII. -/
theorem declarations_accepted : ∀ d ∈ declarations, DeclaredField.Accepted d.2 := by
  have hnames : ∀ d ∈ declarations, (d.2.map (·.name)).Nodup ∧
      ((DeclaredField.shown d.2).map (·.shownName)).Nodup := by decide
  have hascii : ∀ d ∈ declarations, ∀ f ∈ DeclaredField.shown d.2,
      Text.isAsciiName f.shownName = true := by decide
  intro d hd
  exact ⟨(hnames d hd).1, (hnames d hd).2, fun f hf =>
    Text.isIdentifier_constantName (hascii d hd f hf)⟩

/-- **The library of the shop exposes what its declarations say.** -/
theorem library_declares : library.Declares fieldsOf :=
  Library.declares_ofDeclarations declarations_accepted

/-- Whatever is stored in an order, a filter or any other type of the shop can be searched. -/
theorem library_searchable (n : TypeName) :
    (Catalog.ofList library.shapes n).DistinctNames ∧
    ∀ x : Datum, x.StoredAs fieldsOf (.record n) →
      (x.toRecord library.exposure n).Conforms (Catalog.ofList library.shapes)
        (Catalog.ofList library.shapes n) :=
  library_declares.searchable n

end Shop

end Sift
