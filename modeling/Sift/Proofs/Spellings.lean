import Sift.Proofs.Conformance
import Sift.Proofs.DottedText
import Sift.Proofs.Merging

/-!
# What attributes accept

An attribute names an operator and declares a path by their texts. Operators are looked up in a
table of spellings, and a dotted text is checked character by character. Both texts are read a
second time, elsewhere and in another way: a name by `Operator.ofName?`, a path by `Path.parse?`,
which cuts it at its dots. This file says that what is accepted here is read there, and nothing
else:

* `Declaration.lookup_operatorSpellings` -- the two tables of operators agree on every text;
* `Path.isDotted_iff` -- the two ways of reading a path do;
* `Path.Breaks` -- where a way through shapes ends too early;
* `Attributes.accepted_as_read` -- the main statement. A path that was accepted is never malformed:
  where it leads nowhere, the way breaks.
-/

namespace Sift

open Declaration

/-! ## 1. Names of operators -/

/-- **Both tables of operators agree on every text**, a text that names no operator included. -/
theorem Declaration.lookup_operatorSpellings (s : String) :
    operatorSpellings.lookup s = Operator.ofName? s := by
  by_cases hlisted : s ∈ operatorSpellings.map (·.1)
  · have hagree : ∀ name ∈ operatorSpellings.map (·.1),
        operatorSpellings.lookup name = Operator.ofName? name := by decide
    exact hagree s hlisted
  · have hnames : ∀ op ∈ Operator.all, op.name ∈ operatorSpellings.map (·.1) := by decide
    have hother : ∀ op ∈ Operator.all, ¬ (op.name == s) = true := by
      intro op hop hname
      rw [beq_iff_eq] at hname
      exact hlisted (hname ▸ hnames op hop)
    have hshort : ∀ name ∈ operatorSpellings.map (·.1), s ≠ name := by
      intro name hname heq
      exact hlisted (heq ▸ hname)
    have hread : Operator.ofName? s = none := by
      unfold Operator.ofName?
      rw [if_neg (hshort "equal" (by decide)), if_neg (hshort "not_equal" (by decide))]
      exact List.find?_eq_none.mpr hother
    have hlookup : operatorSpellings.lookup s = none := by
      rw [List.lookup_eq_none_iff]
      intro entry hentry
      exact bne_iff_ne.mpr (hshort entry.1 (List.mem_map_of_mem hentry))
    rw [hread, hlookup]

namespace Path

/-! ## 2. Dotted texts -/

/-- A text is dotted, going on from what was read of a segment, if no piece of it is empty. -/
theorem isDottedFrom_eq (seen cs : List Char) :
    isDottedFrom (!seen.isEmpty) cs = (splitDots seen cs).all (!·.isEmpty) := by
  induction cs generalizing seen with
  | nil => simp [isDottedFrom, splitDots]
  | cons c rest ih =>
    rw [isDottedFrom, splitDots]
    by_cases hc : c = '.'
    · have hrest : isDottedFrom false rest = (splitDots [] rest).all (!·.isEmpty) := ih []
      simp [hc, hrest]
    · have hrest : isDottedFrom true rest = (splitDots (c :: seen) rest).all (!·.isEmpty) :=
        ih (c :: seen)
      simp [hc, hrest]

/-- **A text is accepted as a path exactly if it is read as one.** -/
theorem isDotted_iff {s : String} : isDotted s = true ↔ ∃ p, parse? s = some p := by
  have hpieces : isDotted s = !(segmentsOf s).any String.isEmpty := by
    have hfrom : isDotted s = (splitDots [] s.toList).all (!·.isEmpty) := isDottedFrom_eq [] _
    have hempty : ∀ piece : List Char, (String.ofList piece).isEmpty = piece.isEmpty := by
      intro piece
      cases piece <;> simp
    rw [hfrom, segmentsOf, List.any_map, List.not_any_eq_all_not]
    simp [hempty]
  unfold parse?
  rw [hpieces]
  cases (segmentsOf s).any String.isEmpty <;> simp

/-! ## 3. Where a way ends -/

/-- **The way through segments breaks**: one of them is no field of the shape it is looked up in, or
    it is one that holds no record, and the way goes on. -/
inductive Breaks (catalog : Catalog) : Shape → List String → Prop
  | missing {shape : Shape} {name : String} {rest : List String}
      (undeclared : shape.field? name = none) : Breaks catalog shape (name :: rest)
  | closed {shape : Shape} {name : String} {rest : List String} {d : Field}
      (declared : shape.field? name = some d) (goesOn : rest ≠ [])
      (closed : ∀ n, d.type.unwrapped ≠ .record n) : Breaks catalog shape (name :: rest)
  | further {shape : Shape} {name : String} {rest : List String} {d : Field} {n : TypeName}
      (declared : shape.field? name = some d) (type : d.type.unwrapped = .record n)
      (breaks : Breaks catalog (catalog n) rest) : Breaks catalog shape (name :: rest)

variable {catalog : Catalog} {shape : Shape} {segments : List String}

/-- A way that breaks leads to no field. -/
theorem Breaks.follow? (h : Breaks catalog shape segments) :
    Path.follow? catalog shape segments = none := by
  induction h with
  | @missing shape name rest undeclared =>
    cases rest <;> simp [Path.follow?, undeclared]
  | @closed shape name rest d declared goesOn closed =>
    rw [Option.eq_none_iff_forall_not_mem]
    intro found hfound
    obtain ⟨e, n, _, he, htype, _⟩ := follow?_cons_eq_some goesOn hfound
    obtain rfl : d = e := Option.some.inj (declared.symm.trans he)
    exact closed n htype
  | @further shape name rest d n declared type breaks ih =>
    have hgoesOn : rest ≠ [] := by
      intro hnil
      subst hnil
      cases breaks
    rw [Option.eq_none_iff_forall_not_mem]
    intro found hfound
    obtain ⟨e, m, inner, he, htype, hinner, _⟩ := follow?_cons_eq_some hgoesOn hfound
    obtain rfl : d = e := Option.some.inj (declared.symm.trans he)
    obtain rfl : n = m := FieldType.record.inj (type.symm.trans htype)
    rw [ih] at hinner
    cases hinner

/-- **A way that leads to no field breaks.** -/
theorem breaks_of_follow? (hne : segments ≠ [])
    (h : Path.follow? catalog shape segments = none) : Breaks catalog shape segments := by
  induction segments generalizing shape with
  | nil => exact absurd rfl hne
  | cons name rest ih =>
    cases hd : shape.field? name with
    | none => exact .missing hd
    | some d =>
      cases rest with
      | nil => simp [Path.follow?, hd] at h
      | cons next rest =>
        by_cases hrecord : ∃ n, d.type.unwrapped = .record n
        · obtain ⟨n, htype⟩ := hrecord
          have hinner : Path.follow? catalog (catalog n) (next :: rest) = none := by
            cases hinner : Path.follow? catalog (catalog n) (next :: rest) with
            | none => rfl
            | some found => simp [Path.follow?, hd, htype, hinner] at h
          exact .further hd htype (ih (by simp) hinner)
        · exact .closed hd (by simp) (not_exists.mp hrecord)

/-- **A text that is read as a path resolves to nothing exactly if its way breaks.** -/
theorem resolve?_eq_none_iff {model : Shape} {s : String} {p : Path} (h : parse? s = some p) :
    resolve? catalog model s = none ↔ Breaks catalog model p.segments := by
  have hne := (parse?_eq_some_iff.mp h).1.segments_ne_nil
  have hresolve : resolve? catalog model s = none ↔
      Path.follow? catalog model p.segments = none := by
    cases hfollow : Path.follow? catalog model p.segments <;> simp [resolve?, h, hfollow]
  rw [hresolve]
  exact ⟨breaks_of_follow? hne, Breaks.follow?⟩

end Path

namespace Attributes

/-! ## 4. Entries that name an operator or declare a path -/

/-- **An entry that names an operator** is taken for what the name is read as. -/
theorem add_operator (a : Attributes) (s : String) :
    a.add (.setting (some "op") (.text s)) =
      match Operator.ofName? s with
      | some op => .ok { a with operator := some op }
      | none => .error (.unknownOperator s) := by
  rw [← lookup_operatorSpellings]
  show (match operatorSpellings.lookup s with
    | some op => Except.ok { a with operator := some op }
    | none => Except.error (DeclarationError.unknownOperator s)) = _
  cases operatorSpellings.lookup s <;> rfl

/-- **An entry that declares a path** is taken if the path is read. -/
theorem add_path (a : Attributes) (s : String) :
    a.add (.setting (some "path") (.text s)) =
      match Path.parse? s with
      | some _ => .ok { a with path := some s }
      | none => .error .badPath := by
  show (if isDotted s = true then Except.ok { a with path := some s }
    else Except.error DeclarationError.badPath) = _
  cases hread : Path.parse? s with
  | some p => rw [if_pos (Path.isDotted_iff.mpr ⟨p, hread⟩)]
  | none =>
    rw [if_neg]
    intro hdotted
    obtain ⟨p, hp⟩ := Path.isDotted_iff.mp hdotted
    rw [hread] at hp
    cases hp

/-- **An attribute of one entry** says what the entry adds to a field without attributes, if that is
    no contradiction. -/
theorem ofList_singleton {t : Tag} (h : ∀ a, empty.add t = .ok a → a.contradictory = false) :
    ofList [.search [t]] = empty.add t := by
  rw [ofList_search]
  unfold ofEntries
  rw [List.foldlM_cons]
  cases hadd : empty.add t with
  | error e => rfl
  | ok a => simp [h a hadd, bind, Except.bind, pure, Except.pure]

/-! ## 5. The path of a field -/

/-- The path that is declared, if there is one, is read. -/
def DeclaresPath (a : Attributes) : Prop := ∀ s, a.path = some s → ∃ p, Path.parse? s = some p

variable {a b : Attributes}

theorem declaresPath_empty : empty.DeclaresPath := by
  intro s hs
  cases hs

theorem DeclaresPath.followedBy (ha : a.DeclaresPath) (hb : b.DeclaresPath) :
    (a.followedBy b).DeclaresPath := by
  intro s hs
  rcases Option.or_eq_some_iff.mp hs with hlater | ⟨_, hearlier⟩
  · exact hb s hlater
  · exact ha s hearlier

theorem Says.declaresPath {t : Tag} (h : Says t b) : b.DeclaresPath := by
  intro s hs
  cases h with
  | path dotted =>
    cases hs
    exact Path.isDotted_iff.mp dotted
  | _ => cases hs

theorem declaresPath_of_ofAttribute {x : Attribute} (h : ofAttribute x = .ok a) :
    a.DeclaresPath := by
  cases x with
  | malformed => cases h
  | foreign =>
    cases h
    exact declaresPath_empty
  | search entries =>
    obtain ⟨said, hsaid, hrest⟩ := except_bind_eq_ok_iff.mp h
    have hdeclares : said.DeclaresPath := by
      refine foldlM_keeps (fun before t after hbefore hadd => ?_) declaresPath_empty hsaid
      obtain ⟨b, hb, rfl⟩ := says_of_add hadd
      exact hbefore.followedBy hb.declaresPath
    split at hrest
    · cases hrest
    · cases hrest
      exact hdeclares

/-- **The path of a field whose attributes are accepted is read.** -/
theorem declaresPath_of_ofList {attributes : List Attribute} (h : ofList attributes = .ok a) :
    a.DeclaresPath := by
  refine foldlM_keeps (fun before x after hbefore hx => ?_) declaresPath_empty h
  obtain ⟨b, hb, rfl⟩ := except_map_eq_ok_iff.mp hx
  exact hbefore.followedBy (declaresPath_of_ofAttribute hb)

/-! ## 6. Both readings -/

/-- An attribute that only names an operator. -/
theorem ofList_operator (s : String) :
    ofList [.search [.setting (some "op") (.text s)]] =
      match Operator.ofName? s with
      | some op => .ok { empty with operator := some op }
      | none => .error (.unknownOperator s) := by
  rw [ofList_singleton, add_operator]
  intro a ha
  rw [add_operator] at ha
  split at ha <;> cases ha
  rfl

/-- An attribute that only declares a path. -/
theorem ofList_path (s : String) :
    ofList [.search [.setting (some "path") (.text s)]] =
      match Path.parse? s with
      | some _ => .ok { empty with path := some s }
      | none => .error .badPath := by
  rw [ofList_singleton, add_path]
  intro a ha
  rw [add_path] at ha
  split at ha <;> cases ha
  rfl

/-- **What attributes accept is what is read.** Both tables give a text the same operator, or none.
    An attribute that names an operator is accepted, with this operator, exactly if the name reads
    as it, and one that declares a path exactly if the path is read; otherwise it is refused for the
    name or the path. So the path of a field whose attributes are accepted is well formed, and leads
    to no field of a model exactly if one of its segments is none there or leads on to no record. -/
theorem accepted_as_read (s : String) :
    operatorSpellings.lookup s = Operator.ofName? s ∧
    (∀ op, (∃ a, ofList [.search [.setting (some "op") (.text s)]] = .ok a ∧
      a.operator = some op) ↔ Operator.ofName? s = some op) ∧
    (ofList [.search [.setting (some "op") (.text s)]] = .error (.unknownOperator s) ↔
      Operator.ofName? s = none) ∧
    ((∃ a, ofList [.search [.setting (some "path") (.text s)]] = .ok a) ↔
      ∃ p, Path.parse? s = some p) ∧
    (ofList [.search [.setting (some "path") (.text s)]] = .error .badPath ↔
      Path.parse? s = none) ∧
    ∀ attributes a, ofList attributes = .ok a → a.path = some s →
      ∃ p, Path.parse? s = some p ∧ ∀ catalog model,
        Path.resolve? catalog model s = none ↔ Path.Breaks catalog model p.segments := by
  rw [ofList_operator, ofList_path]
  refine ⟨lookup_operatorSpellings s, fun op => ?named, ?unnamed, ?dotted, ?undotted,
    fun attributes a h hpath => ?resolved⟩
  case named => cases Operator.ofName? s <;> simp
  case unnamed => cases Operator.ofName? s <;> simp
  case dotted => cases Path.parse? s <;> simp
  case undotted => cases Path.parse? s <;> simp
  case resolved =>
    obtain ⟨p, hp⟩ := declaresPath_of_ofList h s hpath
    exact ⟨p, hp, fun catalog model => Path.resolve?_eq_none_iff hp⟩

end Attributes

namespace Ticket

/-- A field that looks for the street of a ticket's owner. -/
def streetAttributes : List Attribute :=
  [.search [.setting (some "path") (.text "owner.street")], .search [.flag (some "negate")]]

/-- The longer spelling of an operator is accepted, a capital is not, and neither is a path that
    ends with a dot. The path to the street is accepted, but owners have no street. -/
theorem accepted_as_read_street :
    operatorSpellings.lookup "not_equal" = some .notEqual ∧
    Attributes.ofList [.search [.setting (some "op") (.text "Eq")]] =
      .error (.unknownOperator "Eq") ∧
    Attributes.ofList [.search [.setting (some "path") (.text "owner.")]] = .error .badPath ∧
    (∃ a, Attributes.ofList streetAttributes = .ok a ∧ a.path = some "owner.street") ∧
    ∃ p, Path.parse? "owner.street" = some p ∧ Path.Breaks catalog model p.segments := by
  obtain ⟨hname, _⟩ := Attributes.accepted_as_read "not_equal"
  obtain ⟨_, _, hunknown, _⟩ := Attributes.accepted_as_read "Eq"
  obtain ⟨_, _, _, _, hbad, _⟩ := Attributes.accepted_as_read "owner."
  obtain ⟨_, _, _, _, _, hpath⟩ := Attributes.accepted_as_read "owner.street"
  obtain ⟨p, hp, hresolve⟩ := hpath streetAttributes _ rfl rfl
  exact ⟨hname.trans (by decide), hunknown.mpr (by decide), hbad.mpr (by decide),
    ⟨_, rfl, rfl⟩, p, hp, (hresolve catalog model).mp (by decide)⟩

end Ticket

end Sift
