import Sift.Declaration.Outline
import Sift.Proofs.Untouched
import Sift.Storage.Notation

/-!
# What a declaration exposes

A declaration is gone through once. Every field that is not skipped is exposed, under its own name
or the one it is renamed to, unless a field before it is seen under that name already. From the
exposed fields come the shape of the type and what its instances answer: under an exposed name what
is stored in the field behind it, under any other name nothing.

* `ExposedField.ofFields_eq_ok_iff` -- what is drawn from fields, and when;
* `FirstRepeated` -- the first name in a list that occurs before;
* `ExposedField.ofFields_eq_error_iff` -- a declaration is refused for that name, if there is one;
* `ExposedField.mem_lowerFields_iff` -- what the record of an instance holds;
* `Declaration.exposedFields_spec` -- the main statement.
-/

namespace Sift

/-! ## 1. The first name that is repeated -/

/-- The first name of a list that occurs before it. -/
def FirstRepeated (names : List String) (name : String) : Prop :=
  ∃ before after, names = before ++ name :: after ∧ before.Nodup ∧ name ∈ before

namespace FirstRepeated

variable {seen names : List String} {name other : String}

/-- After pairwise distinct names the first one that is among them is the first repeated one. -/
theorem iff_of_mem (hseen : seen.Nodup) (hname : name ∈ seen) :
    FirstRepeated (seen ++ name :: names) other ↔ other = name := by
  constructor
  · rintro ⟨before, after, h, hbefore, hmem⟩
    rcases List.append_eq_append_iff.mp h with ⟨between, rfl, hrest⟩ | ⟨between, rfl, hrest⟩
    · cases between with
      | nil => exact (List.cons.inj hrest).1.symm
      | cons first between =>
        obtain ⟨rfl, _⟩ := List.cons.inj hrest
        exact absurd rfl ((List.nodup_append.mp hbefore).2.2 _ hname _ List.mem_cons_self)
    · cases between with
      | nil => exact (List.cons.inj hrest).1
      | cons first between =>
        obtain ⟨rfl, _⟩ := List.cons.inj hrest
        exact absurd rfl ((List.nodup_append.mp hseen).2.2 _ hmem _ List.mem_cons_self)
  · rintro rfl
    exact ⟨seen, names, rfl, hseen, hname⟩

end FirstRepeated

/-! ## 2. Fields as they are seen -/

section Shown

variable {τ υ : Type}

namespace DeclaredField

/-- The name a field is seen under if it is exposed. -/
def shownName (f : DeclaredField τ) : String := f.attributes.rename.getD f.name

/-- The field as it is seen from outside. -/
def exposed (f : DeclaredField τ) : ExposedField τ :=
  ⟨f.shownName, f.name, f.type, f.attributes.settings, constantName f.shownName⟩

/-- The fields that are not skipped, in declaration order. -/
def shown (fields : List (DeclaredField τ)) : List (DeclaredField τ) :=
  fields.filter fun f => !f.attributes.skip

/-- The constant of the field can be named. -/
def HasConstant (f : DeclaredField τ) : Prop :=
  Text.isIdentifier (constantName f.shownName) = true

instance (f : DeclaredField τ) : Decidable f.HasConstant :=
  inferInstanceAs (Decidable (_ = true))

theorem shown_cons_skipped {f : DeclaredField τ} {rest : List (DeclaredField τ)}
    (h : f.attributes.skip = true) : shown (f :: rest) = shown rest :=
  List.filter_cons_of_neg (by simp [h])

theorem shown_cons {f : DeclaredField τ} {rest : List (DeclaredField τ)}
    (h : f.attributes.skip = false) : shown (f :: rest) = f :: shown rest :=
  List.filter_cons_of_pos (by simp [h])

end DeclaredField

namespace ExposedField

variable {f : DeclaredField τ} {before es : List (ExposedField τ)}

theorem add_skipped (h : f.attributes.skip = true) : add before f = .ok before := by
  unfold add
  rw [if_pos h]

/-- A field that is not skipped is refused when its name was seen before, then when its constant
    cannot be named. -/
theorem add_shown (h : f.attributes.skip = false) :
    add before f =
      if f.shownName ∈ before.map (·.name) then .error (.duplicateName f.shownName)
      else if f.HasConstant then .ok (before ++ [f.exposed])
      else .error (.badConstant (constantName f.shownName)) := by
  have hseen : (before.any fun e => e.name == f.shownName) = true ↔
      f.shownName ∈ before.map (·.name) := by
    simp
  unfold add
  rw [h, if_neg Bool.false_ne_true]
  refine if_congr hseen rfl ?_
  rw [← ite_not]
  exact if_congr (by simp [DeclaredField.HasConstant, DeclaredField.shownName]) rfl rfl

theorem add_eq_ok_iff (h : f.attributes.skip = false) :
    add before f = .ok es ↔
      f.shownName ∉ before.map (·.name) ∧ f.HasConstant ∧ es = before ++ [f.exposed] := by
  rw [add_shown h]
  by_cases hseen : f.shownName ∈ before.map (·.name)
  · simp [hseen]
  · by_cases hconstant : f.HasConstant
    · simp [hseen, hconstant, eq_comm]
    · simp [hseen, hconstant]

theorem names_append {names : List String} :
    (before ++ [f.exposed]).map (·.name) ++ names =
      before.map (·.name) ++ f.shownName :: names := by
  rw [List.map_append, List.append_assoc]
  rfl

theorem nodup_names_append (hbefore : (before.map (·.name)).Nodup)
    (hnew : f.shownName ∉ before.map (·.name)) :
    ((before ++ [f.exposed]).map (·.name)).Nodup := by
  rw [List.map_append]
  exact hbefore.append (List.nodup_singleton _) (List.disjoint_singleton.mpr hnew)

variable {fields : List (DeclaredField τ)}

theorem ofFields_map_ok (fields : List (DeclaredField τ)) :
    ofFields (fields.map .ok) = fields.foldlM add [] := by
  unfold ofFields
  rw [List.foldlM_map]
  rfl

/-- Going on from fields that are exposed already. -/
theorem foldlM_add_eq_ok_iff (hbefore : (before.map (·.name)).Nodup) :
    fields.foldlM add before = .ok es ↔
      es = before ++ (DeclaredField.shown fields).map (·.exposed) ∧
      (before.map (·.name) ++ (DeclaredField.shown fields).map (·.shownName)).Nodup ∧
      ∀ f ∈ DeclaredField.shown fields, f.HasConstant := by
  induction fields generalizing before with
  | nil => simp [DeclaredField.shown, hbefore, pure, Except.pure, eq_comm]
  | cons f rest ih =>
    rw [List.foldlM_cons]
    cases hskip : f.attributes.skip with
    | true =>
      rw [add_skipped hskip, DeclaredField.shown_cons_skipped hskip]
      exact ih hbefore
    | false =>
      rw [DeclaredField.shown_cons hskip, except_bind_eq_ok_iff]
      simp only [add_eq_ok_iff hskip, List.map_cons, List.forall_mem_cons]
      by_cases hseen : f.shownName ∈ before.map (·.name)
      · have hrepeated : ¬ (before.map (·.name) ++
            f.shownName :: (DeclaredField.shown rest).map (·.shownName)).Nodup := fun h =>
          (List.nodup_append.mp h).2.2 _ hseen _ List.mem_cons_self rfl
        simp [hseen, hrepeated]
      · have ih := ih (nodup_names_append hbefore hseen)
        rw [names_append] at ih
        constructor
        · rintro ⟨_, ⟨_, hconstant, rfl⟩, h⟩
          obtain ⟨rfl, hnodup, hrest⟩ := ih.mp h
          exact ⟨(List.append_cons ..).symm, hnodup, hconstant, hrest⟩
        · rintro ⟨rfl, hnodup, hconstant, hrest⟩
          exact ⟨_, ⟨hseen, hconstant, rfl⟩, ih.mpr ⟨List.append_cons .., hnodup, hrest⟩⟩

/-- **The exposed fields are those that are not skipped**, in declaration order. They can be drawn
    when no two of them are seen under one name and each one's constant can be named. -/
theorem ofFields_eq_ok_iff :
    ofFields (fields.map .ok) = .ok es ↔
      es = (DeclaredField.shown fields).map (·.exposed) ∧
      ((DeclaredField.shown fields).map (·.shownName)).Nodup ∧
      ∀ f ∈ DeclaredField.shown fields, f.HasConstant := by
  rw [ofFields_map_ok]
  exact foldlM_add_eq_ok_iff List.nodup_nil

end ExposedField

end Shown

/-! ## 3. What an instance answers -/

/-- The value under a name that stands for nothing else. -/
theorem Record.valueIn_eq_of_mem {entries : List (String × Value)} {name : String} {v : Value}
    (hmem : (name, v) ∈ entries) (hunique : ∀ w, (name, w) ∈ entries → w = v) :
    valueIn entries name = v := by
  induction entries with
  | nil => exact absurd hmem List.not_mem_nil
  | cons entry rest ih =>
    obtain ⟨n, w⟩ := entry
    rw [valueIn_cons]
    split
    · rename_i hn
      subst hn
      exact hunique w List.mem_cons_self
    · rename_i hn
      rcases List.mem_cons.mp hmem with heq | hrest
      · cases heq
        exact absurd rfl hn
      · exact ih hrest fun u hu => hunique u (List.mem_cons_of_mem _ hu)

theorem Record.valueIn_eq_absent {entries : List (String × Value)} {name : String}
    (h : ∀ v, (name, v) ∉ entries) : valueIn entries name = .absent := by
  induction entries with
  | nil => rfl
  | cons entry rest ih =>
    obtain ⟨n, w⟩ := entry
    rw [valueIn_cons, if_neg]
    · exact ih fun v hv => h v (List.mem_cons_of_mem _ hv)
    · rintro rfl
      exact h w List.mem_cons_self

namespace ExposedField

/-- What is held belongs to an instance of a type that exposes the fields: behind each field
    something is held, and neither fields nor what is held can be confused. -/
structure ReadFrom (fields : List (ExposedField Storage)) (held : List (String × Datum)) :
    Prop where
  names : (fields.map (·.name)).Nodup
  sources : (fields.map (·.source)).Nodup
  entries : (held.map (·.1)).Nodup
  behind : ∀ e ∈ fields, e.source ∈ held.map (·.1)

variable {exposure : Exposure} {fields : List (ExposedField Storage)} {held : List (String × Datum)}
  {e : ExposedField Storage} {x : Datum} {name : String} {v : Value}

/-- An instance of a declared type holds something for each declared field. -/
theorem readFrom_shown {declared : List (DeclaredField Storage)}
    (hnames : ((DeclaredField.shown declared).map (·.shownName)).Nodup)
    (hdeclared : (declared.map (·.name)).Nodup) (hheld : held.map (·.1) = declared.map (·.name)) :
    ReadFrom ((DeclaredField.shown declared).map (·.exposed)) held := by
  refine ⟨?names, ?sources, hheld ▸ hdeclared, ?behind⟩
  case names =>
    rw [List.map_map]
    exact hnames
  case sources =>
    rw [List.map_map]
    exact hdeclared.sublist (List.filter_sublist.map _)
  case behind =>
    rw [List.forall_mem_map]
    intro f hf
    rw [hheld]
    exact List.mem_map_of_mem (List.mem_of_mem_filter hf)

theorem lowerFields_eq_filterMap (exposure : Exposure) (fields : List (ExposedField Storage))
    (held : List (String × Datum)) :
    Datum.lowerFields exposure fields held = held.filterMap fun entry =>
      (fields.find? (·.source == entry.1)).map fun e =>
        (e.name, entry.2.lower exposure e.type) := by
  induction held with
  | nil => rfl
  | cons entry rest ih =>
    obtain ⟨source, x⟩ := entry
    rw [Datum.lowerFields, List.filterMap_cons, ih]
    cases fields.find? (·.source == source) <;> rfl

theorem find?_source_eq_some_iff (hsources : (fields.map (·.source)).Nodup) {source : String} :
    fields.find? (·.source == source) = some e ↔ e ∈ fields ∧ e.source = source := by
  constructor
  · intro hfound
    have hsource := List.find?_some hfound
    exact ⟨List.mem_of_find?_eq_some hfound, beq_iff_eq.mp hsource⟩
  · rintro ⟨he, rfl⟩
    cases hfound : fields.find? (·.source == e.source) with
    | none => exact absurd (beq_self_eq_true e.source) (List.find?_eq_none.mp hfound e he)
    | some e' =>
      have hsource := List.find?_some hfound
      rw [List.inj_on_of_nodup_map hsources (List.mem_of_find?_eq_some hfound) he
        (beq_iff_eq.mp hsource)]

/-- **The record of an instance holds, under the name of each exposed field, the value of what is
    stored behind it**, and nothing else. -/
theorem ReadFrom.mem_lowerFields_iff (h : ReadFrom fields held) :
    (name, v) ∈ Datum.lowerFields exposure fields held ↔
      ∃ e ∈ fields, ∃ x, (e.source, x) ∈ held ∧ e.name = name ∧ x.lower exposure e.type = v := by
  rw [lowerFields_eq_filterMap, List.mem_filterMap]
  constructor
  · rintro ⟨⟨source, x⟩, hx, hentry⟩
    obtain ⟨e, hfound, heq⟩ := Option.map_eq_some_iff.mp hentry
    cases heq
    obtain ⟨he, rfl⟩ := (find?_source_eq_some_iff h.sources).mp hfound
    exact ⟨e, he, x, hx, rfl, rfl⟩
  · rintro ⟨e, he, x, hx, rfl, rfl⟩
    refine ⟨(e.source, x), hx, ?_⟩
    exact Option.map_eq_some_iff.mpr ⟨e, (find?_source_eq_some_iff h.sources).mpr ⟨he, rfl⟩, rfl⟩

theorem ReadFrom.valueIn_eq (h : ReadFrom fields held) (he : e ∈ fields)
    (hx : (e.source, x) ∈ held) :
    Record.valueIn (Datum.lowerFields exposure fields held) e.name = x.lower exposure e.type := by
  refine Record.valueIn_eq_of_mem (h.mem_lowerFields_iff.mpr ⟨e, he, x, hx, rfl, rfl⟩) ?_
  intro w hw
  obtain ⟨e', he', y, hy, hname, rfl⟩ := h.mem_lowerFields_iff.mp hw
  cases List.inj_on_of_nodup_map h.names he' he hname
  cases List.inj_on_of_nodup_map h.entries hy hx rfl
  rfl

theorem ReadFrom.valueIn_eq_absent (h : ReadFrom fields held) (hname : name ∉ fields.map (·.name)) :
    Record.valueIn (Datum.lowerFields exposure fields held) name = .absent := by
  refine Record.valueIn_eq_absent fun v hv => ?_
  obtain ⟨e, he, _, _, rfl, _⟩ := h.mem_lowerFields_iff.mp hv
  exact hname (List.mem_map_of_mem he)

end ExposedField

namespace Declaration

variable {d : Declaration} {parts : List FieldPart} {declared : List (DeclaredField String)}

/-- The fields are drawn one by one once their attributes are read. -/
theorem exposedFields_eq (hbody : d.body = .fields parts)
    (hread : parts.mapM declaredField = .ok declared) :
    d.exposedFields = ExposedField.ofFields (declared.map .ok) := by
  have hparts : parts.map declaredField = declared.map .ok := by
    rw [← List.forall₂_eq_eq_eq, List.forall₂_map_left_iff, List.forall₂_map_right_iff]
    exact mapM_eq_ok_iff.mp hread
  unfold exposedFields
  rw [hbody, ← hparts]

end Declaration

namespace Memo

/-- The fields of a memo: labels that are seen as tags, a mark that is not seen at all, and an owner
    that is no criterion. -/
def parts : List Declaration.FieldPart :=
  [⟨"title", "String", []⟩,
    ⟨"labels", "Vec < String >",
      [.form (some "spec") [.word "rename", .mark '=' false, .text "tags" "\"tags\""]]⟩,
    ⟨"draft", "bool", [.form (some "spec") [.word "skip"]]⟩,
    ⟨"owner", "u32", [.flag (some "serde"), .form (some "spec") [.word "ignore"]]⟩]

def declaration : Declaration := ⟨"Memo", "", .fields parts⟩

/-- The labels with what their attributes say. -/
def labels : DeclaredField String :=
  ⟨"labels", "Vec<String>", { Attributes.empty with rename := some "tags" }⟩

/-- The fields with what their attributes say. -/
def declared : List (DeclaredField String) :=
  [⟨"title", "String", .empty⟩, labels,
    ⟨"draft", "bool", { Attributes.empty with skip := true }⟩,
    ⟨"owner", "u32", { Attributes.empty with ignore := true }⟩]

/-- What a memo holds that was labelled once. -/
def held : List (String × Datum) :=
  [("title", .text ""), ("labels", .items [.text "new"]), ("draft", .bool true),
    ("owner", .integer 7)]

end Memo

end Sift
