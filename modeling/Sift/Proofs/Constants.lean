import Sift.Proofs.Exposure

/-!
# The constants of exposed fields

Each exposed field has a constant, which is named after it: an underscore is put in front of a
capital that begins a word, every separator becomes an underscore, and small ASCII letters become
capitals. The names of the fields are checked to be distinct, the names of the constants are not.
This file says when they are:

* `Text.spaced`, `Text.Alike` -- a name with its words apart, and the characters that a constant
  does not tell apart;
* `SpelledAlike` -- names that differ in nothing else;
* `constantFrom_eq` -- the pass over a name, taken apart into both steps;
* `constantName_eq_iff` -- names have the same constant exactly if they are spelled alike;
* `ExposedField.Named` -- what one more field keeps, and so a declaration;
* `Declaration.constants_nodup_iff` -- the main statement. Two names may be distinct and spelled
  alike: `Memo.constants_clash`.
-/

namespace Sift

namespace Text

/-! ## 1. Words of a name -/

def isCapital (c : Char) : Bool := uppercaseTable.has c

/-- The character stands between words. -/
def isSeparator (c : Char) : Bool := c == '_' || c == '-' || c == '.'

/-- A capital after the character begins a word. -/
def isSmall (c : Char) : Bool := !isCapital c && !isSeparator c

/-- The underscore between a character and what follows it. -/
def gap (afterSmall : Bool) (rest : List Char) : List Char :=
  if afterSmall && rest.head?.any isCapital then ['_'] else []

/-- A name with an underscore in front of each capital that follows a small character. -/
def spaced : List Char → List Char
  | [] => []
  | c :: rest => c :: (gap (isSmall c) rest ++ spaced rest)

/-- Two characters are one letter up to its ASCII case, or both are separators. -/
def Alike (c d : Char) : Prop :=
  c.toUpper = d.toUpper ∨ (isSeparator c = true ∧ isSeparator d = true)

/-- The character of a constant. -/
def constantChar (c : Char) : Char := if isSeparator c then '_' else c.toUpper

theorem isSeparator_iff {c : Char} : isSeparator c = true ↔ c = '_' ∨ c = '-' ∨ c = '.' := by
  simp [isSeparator, or_assoc]

/-- The separators by their code points. -/
theorem isSeparator_iff_toNat {c : Char} :
    isSeparator c = true ↔ c.toNat = 95 ∨ c.toNat = 45 ∨ c.toNat = 46 := by
  rw [isSeparator_iff, ← Char.toNat_inj, ← Char.toNat_inj, ← Char.toNat_inj]
  rfl

@[simp] theorem gap_false (rest : List Char) : gap false rest = [] := rfl

theorem toNat_toUpper (c : Char) :
    c.toUpper.toNat = if 97 ≤ c.toNat ∧ c.toNat ≤ 122 then c.toNat - 32 else c.toNat := by
  unfold Char.toUpper
  split
  · rename_i hsmall
    have hfirst : 97 ≤ c.val.toNat := UInt32.le_iff_toNat_le.mp hsmall.1
    have hlast : c.val.toNat ≤ 122 := UInt32.le_iff_toNat_le.mp hsmall.2
    have hshift : ('A'.val - 'a'.val).toNat = 4294967264 := by decide
    show (c.val + ('A'.val - 'a'.val)).toNat = if _ then c.val.toNat - 32 else c.val.toNat
    rw [if_pos ⟨hfirst, hlast⟩, UInt32.toNat_add, hshift]
    omega
  · rename_i hother
    rw [if_neg]
    intro h
    exact hother ⟨UInt32.le_iff_toNat_le.mpr h.1, UInt32.le_iff_toNat_le.mpr h.2⟩

/-- The capitals among the ASCII characters are its letters from `A` to `Z`. -/
theorem toNat_of_isCapital {c : Char} (h : isCapital c = true) :
    (65 ≤ c.toNat ∧ c.toNat ≤ 90) ∨ 122 < c.toNat := by
  have hranges : ∀ range ∈ uppercaseTable, (65 ≤ range.1 ∧ range.2 ≤ 90) ∨ 122 < range.1 := by
    decide +kernel
  obtain ⟨range, hrange, hfirst, hlast⟩ := CharTable.has_eq_true_iff.mp h
  have hplace := hranges range hrange
  omega

theorem toUpper_of_isCapital {c : Char} (h : isCapital c = true) : c.toUpper = c := by
  have hplace := toNat_of_isCapital h
  apply Char.toNat_inj.mp
  rw [toNat_toUpper, if_neg (by omega)]

theorem isSeparator_of_isCapital {c : Char} (h : isCapital c = true) : isSeparator c = false := by
  have hplace := toNat_of_isCapital h
  rw [Bool.eq_false_iff, ne_eq, isSeparator_iff_toNat]
  omega

/-- A letter and its capital are no separators, or both are the same one. -/
theorem isSeparator_toUpper (c : Char) : isSeparator c.toUpper = isSeparator c := by
  rw [Bool.eq_iff_iff, isSeparator_iff_toNat, isSeparator_iff_toNat, toNat_toUpper]
  split <;> omega

/-- **Characters become the same in a constant exactly if they are alike.** -/
theorem constantChar_eq_iff {c d : Char} : constantChar c = constantChar d ↔ Alike c d := by
  have hseparators : c.toUpper = d.toUpper → isSeparator c = isSeparator d := by
    intro heq
    rw [← isSeparator_toUpper c, heq, isSeparator_toUpper]
  have hunderscore : ∀ {e : Char}, isSeparator e = false → e.toUpper ≠ '_' := by
    intro e he heq
    rw [← isSeparator_toUpper, heq] at he
    cases he
  unfold constantChar Alike
  cases hc : isSeparator c <;> cases hd : isSeparator d <;> rw [hc, hd] at hseparators
  · simp
  · simp [hunderscore hc, mt hseparators]
  · simp [Ne.symm (hunderscore hd), mt hseparators]
  · simp

end Text

open Text

/-! ## 2. The name of a constant -/

/-- **The name of a constant, in two steps**: the words of a name are put apart, and then each
    character is written as it stands in a constant. -/
theorem constantFrom_eq (afterSmall : Bool) (cs : List Char) :
    constantFrom afterSmall cs = gap afterSmall cs ++ (spaced cs).map constantChar := by
  induction cs generalizing afterSmall with
  | nil => cases afterSmall <;> rfl
  | cons c rest ih =>
    unfold constantFrom spaced
    cases hcapital : isCapital c with
    | true =>
      have hc : constantChar c = c := by
        rw [constantChar, isSeparator_of_isCapital hcapital, if_neg Bool.false_ne_true,
          toUpper_of_isCapital hcapital]
      have hsmall : isSmall c = false := by rw [isSmall, hcapital]; rfl
      have htable : uppercaseTable.has c = true := hcapital
      rw [if_pos htable, ih, hsmall]
      cases afterSmall <;> simp [gap, hcapital, hc]
    | false =>
      have htable : ¬ uppercaseTable.has c = true := by
        rw [Bool.not_eq_true]
        exact hcapital
      have hgap : gap afterSmall (c :: rest) = [] := by simp [gap, hcapital]
      rw [if_neg htable, hgap, ih, ih]
      by_cases hseparator : isSeparator c = true
      · rw [if_pos (isSeparator_iff.mp hseparator)]
        simp [isSmall, constantChar, hseparator]
      · rw [if_neg (mt isSeparator_iff.mpr hseparator)]
        rw [Bool.not_eq_true] at hseparator
        have hunderscore : ∀ cs, (gap true cs).map constantChar = gap true cs := by
          intro cs
          unfold gap
          split <;> rfl
        simp [isSmall, constantChar, hcapital, hseparator, hunderscore]

/-- Two names differ, once their words are apart, in the case of ASCII letters and in the choice of
    separators only. -/
def SpelledAlike (a b : String) : Prop :=
  List.Forall₂ Alike (spaced a.toList) (spaced b.toList)

/-- **Names have the same constant exactly if they are spelled alike.** -/
theorem constantName_eq_iff {a b : String} : constantName a = constantName b ↔ SpelledAlike a b := by
  unfold constantName SpelledAlike
  rw [String.ofList_inj, constantFrom_eq, constantFrom_eq, gap_false, gap_false, List.nil_append,
    List.nil_append, ← List.forall₂_eq_eq_eq, List.forall₂_map_left_iff,
    List.forall₂_map_right_iff]
  simp only [constantChar_eq_iff]

/-! ## 3. Names in snake case -/

/-- A name in snake case has no capital, and no separators but underscores. -/
def IsSnake (name : String) : Prop :=
  ∀ c ∈ name.toList, isCapital c = false ∧ c ≠ '-' ∧ c ≠ '.'

namespace Text

/-- Where there is no capital, the words of a name are apart already. -/
theorem spaced_eq_self {cs : List Char} (h : ∀ c ∈ cs, isCapital c = false) : spaced cs = cs := by
  induction cs with
  | nil => rfl
  | cons c rest ih =>
    have hrest : ∀ d ∈ rest, isCapital d = false := fun d hd => h d (List.mem_cons_of_mem c hd)
    have hgap : gap (isSmall c) rest = [] := by
      unfold gap
      cases rest with
      | nil => simp
      | cons d rest => simp [hrest d List.mem_cons_self]
    rw [spaced, hgap, ih hrest, List.nil_append]

/-- The letters from `A` to `Z` are capitals. -/
theorem isCapital_of_toNat {c : Char} (h : 65 ≤ c.toNat ∧ c.toNat ≤ 90) : isCapital c = true := by
  have hrange : (65, 90) ∈ uppercaseTable := by decide
  exact CharTable.has_eq_true_iff.mpr ⟨(65, 90), hrange, h⟩

/-- Characters that are no capitals have the same capital only if they are the same. -/
theorem toUpper_inj_of_not_isCapital {c d : Char} (hc : isCapital c = false)
    (hd : isCapital d = false) (h : c.toUpper = d.toUpper) : c = d := by
  have hplace : ∀ {e : Char}, isCapital e = false → ¬ (65 ≤ e.toNat ∧ e.toNat ≤ 90) := by
    intro e he hletter
    rw [isCapital_of_toNat hletter] at he
    cases he
  have hcode := congrArg Char.toNat h
  rw [toNat_toUpper, toNat_toUpper] at hcode
  have hc := hplace hc
  have hd := hplace hd
  apply Char.toNat_inj.mp
  split at hcode <;> split at hcode <;> omega

/-- **In snake case only the same characters are alike.** -/
theorem Alike.eq {c d : Char} (h : Alike c d) (hc : isCapital c = false ∧ c ≠ '-' ∧ c ≠ '.')
    (hd : isCapital d = false ∧ d ≠ '-' ∧ d ≠ '.') : c = d := by
  have hunderscore : ∀ {e : Char}, isSeparator e = true → e ≠ '-' ∧ e ≠ '.' → e = '_' := by
    intro e he hne
    exact (isSeparator_iff.mp he).resolve_right fun hother => hother.elim hne.1 hne.2
  rcases h with hupper | ⟨hseparator, hseparator'⟩
  · exact toUpper_inj_of_not_isCapital hc.1 hd.1 hupper
  · rw [hunderscore hseparator hc.2, hunderscore hseparator' hd.2]

end Text

/-- Up to the letter `z`, the capitals that a name in snake case does without are those from `A` to
    `Z`. -/
theorem isSnake_of_le {name : String} (h : ∀ c ∈ name.toList,
    c.toNat ≤ 122 ∧ ¬ (65 ≤ c.toNat ∧ c.toNat ≤ 90) ∧ c ≠ '-' ∧ c ≠ '.') : IsSnake name := by
  intro c hc
  obtain ⟨hlast, hletter, hseparator⟩ := h c hc
  refine ⟨?_, hseparator⟩
  by_contra hcapital
  rw [Bool.not_eq_false] at hcapital
  have hplace := toNat_of_isCapital hcapital
  omega

/-- **Names in snake case are spelled alike only if they are the same.** -/
theorem SpelledAlike.eq {a b : String} (h : SpelledAlike a b) (ha : IsSnake a) (hb : IsSnake b) :
    a = b := by
  have hsame : ∀ {cs ds : List Char}, List.Forall₂ Alike cs ds →
      (∀ c ∈ cs, isCapital c = false ∧ c ≠ '-' ∧ c ≠ '.') →
      (∀ d ∈ ds, isCapital d = false ∧ d ≠ '-' ∧ d ≠ '.') → cs = ds := by
    intro cs ds halike hcs hds
    induction halike with
    | nil => rfl
    | cons hcd _ ih =>
      rw [List.forall_mem_cons] at hcs hds
      rw [hcd.eq hcs.1 hds.1, ih hcs.2 hds.2]
  unfold SpelledAlike at h
  rw [spaced_eq_self fun c hc => (ha c hc).1, spaced_eq_self fun d hd => (hb d hd).1] at h
  exact String.toList_injective (hsame h ha hb)

/-! ## 4. The constants of a declaration -/

namespace ExposedField

variable {τ : Type} {before es : List (ExposedField τ)}

/-- The names of the fields are distinct, and each field has a constant that is named after it. -/
structure Named (es : List (ExposedField τ)) : Prop where
  names : (es.map (·.name)).Nodup
  constants : ∀ e ∈ es, e.constant = constantName e.name ∧ Text.isIdentifier e.constant = true

/-- **One more field keeps the names distinct**, and has its own constant. -/
theorem Named.add {f : DeclaredField τ} (hbefore : Named before)
    (h : ExposedField.add before f = .ok es) : Named es := by
  cases hskip : f.attributes.skip with
  | true =>
    rw [add_skipped hskip] at h
    cases h
    exact hbefore
  | false =>
    obtain ⟨hnew, hconstant, rfl⟩ := (add_eq_ok_iff hskip).mp h
    refine ⟨nodup_names_append hbefore.names hnew, fun e he => ?_⟩
    rcases List.mem_append.mp he with hold | hlast
    · exact hbefore.constants e hold
    · obtain rfl := List.mem_singleton.mp hlast
      exact ⟨rfl, hconstant⟩

theorem named_of_ofFields {fields : List (Except DeclarationError (DeclaredField τ))}
    (h : ofFields fields = .ok es) : Named es := by
  have hnone : Named ([] : List (ExposedField τ)) := ⟨List.nodup_nil, by simp⟩
  refine foldlM_keeps (fun before field after hbefore hadd => ?_) hnone h
  obtain ⟨f, _, hf⟩ := except_bind_eq_ok_iff.mp hadd
  exact hbefore.add hf

end ExposedField

namespace Declaration

variable {d : Declaration} {es : List (ExposedField String)}

/-- Only a type with named fields exposes any. -/
theorem named_of_exposedFields (h : d.exposedFields = .ok es) : ExposedField.Named es := by
  unfold exposedFields at h
  split at h
  · exact ExposedField.named_of_ofFields h
  · cases h
  · cases h
  · cases h

/-- **When constants are distinct.** The fields that an accepted declaration exposes have distinct
    names, and each has a constant that is named after it and can be named. Two of the constants
    have one name exactly if the names of their fields are spelled alike, so all are distinct
    exactly if no two fields are; and they are if every field is named in snake case. -/
theorem constants_nodup_iff (h : d.exposedFields = .ok es) :
    (es.map (·.name)).Nodup ∧
    (∀ e ∈ es, e.constant = constantName e.name ∧ Text.isIdentifier e.constant = true) ∧
    (∀ e ∈ es, ∀ e' ∈ es, e.constant = e'.constant ↔ SpelledAlike e.name e'.name) ∧
    ((es.map (·.constant)).Nodup ↔ es.Pairwise fun e e' => ¬ SpelledAlike e.name e'.name) ∧
    ((∀ e ∈ es, IsSnake e.name) → (es.map (·.constant)).Nodup) := by
  have hnamed := named_of_exposedFields h
  have halike : ∀ e ∈ es, ∀ e' ∈ es, e.constant = e'.constant ↔ SpelledAlike e.name e'.name := by
    intro e he e' he'
    rw [(hnamed.constants e he).1, (hnamed.constants e' he').1, constantName_eq_iff]
  have hnodup : (es.map (·.constant)).Nodup ↔
      es.Pairwise fun e e' => ¬ SpelledAlike e.name e'.name := by
    rw [List.Nodup, List.pairwise_map]
    exact List.Pairwise.iff_of_mem fun he he' => not_congr (halike _ he _ he')
  refine ⟨hnamed.names, hnamed.constants, halike, hnodup, fun hsnake => ?_⟩
  rw [hnodup]
  have hnames := hnamed.names
  rw [List.Nodup, List.pairwise_map] at hnames
  exact hnames.imp_of_mem fun he he' hne hspelled =>
    hne (hspelled.eq (hsnake _ he) (hsnake _ he'))

end Declaration

namespace Memo

/-- The fields of a memo that has the time of its writing under two names. -/
def datedFields : List (DeclaredField String) :=
  [⟨"created_at", "String", .empty⟩, ⟨"createdAt", "u32", .empty⟩]

def dated : Declaration :=
  ⟨"Memo", "", .fields [⟨"created_at", "String", []⟩, ⟨"createdAt", "u32", []⟩]⟩

/-- A memo exposes what is not skipped. -/
theorem exposedFields_declaration :
    declaration.exposedFields = .ok ((DeclaredField.shown declared).map (·.exposed)) := by
  have hread : parts.mapM Declaration.declaredField = .ok declared := rfl
  rw [Declaration.exposedFields_eq rfl hread, ExposedField.ofFields_eq_ok_iff]
  exact ⟨rfl, by decide, by decide +kernel⟩

theorem constantName_created_at : constantName "created_at" = "CREATED_AT" := by decide +kernel

/-- The word of a capital is put apart. -/
theorem constantName_createdAt : constantName "createdAt" = "CREATED_AT" := by decide +kernel

/-- Two times of writing are accepted. -/
theorem exposedFields_dated : dated.exposedFields = .ok (datedFields.map (·.exposed)) := by
  have hread : (datedFields.map fun f => ⟨f.name, f.type, []⟩).mapM Declaration.declaredField =
      .ok datedFields := rfl
  have hidentifier : Text.isIdentifier "CREATED_AT" = true := by decide
  have hconstants : ∀ f ∈ datedFields, f.HasConstant := by
    rw [datedFields, List.forall_mem_cons, List.forall_mem_singleton]
    exact ⟨(congrArg Text.isIdentifier constantName_created_at).trans hidentifier,
      (congrArg Text.isIdentifier constantName_createdAt).trans hidentifier⟩
  rw [Declaration.exposedFields_eq rfl hread, ExposedField.ofFields_eq_ok_iff]
  exact ⟨rfl, by decide, hconstants⟩

/-- The names of a memo's fields are in snake case, so their constants are distinct. A memo with two
    times of writing is accepted as well, and their names are spelled alike. -/
theorem constants_nodup_iff_memo :
    declaration.exposedFields = .ok ((DeclaredField.shown declared).map (·.exposed)) ∧
    (((DeclaredField.shown declared).map (·.exposed)).map (·.constant)).Nodup ∧
    dated.exposedFields = .ok (datedFields.map (·.exposed)) ∧
    SpelledAlike "created_at" "createdAt" := by
  have hnames : ∀ s ∈ ["title", "tags", "owner"], ∀ c ∈ s.toList,
      c.toNat ≤ 122 ∧ ¬ (65 ≤ c.toNat ∧ c.toNat ≤ 90) ∧ c ≠ '-' ∧ c ≠ '.' := by
    simp
  have hsnake : ∀ e ∈ (DeclaredField.shown declared).map (·.exposed), IsSnake e.name := by
    intro e he
    have hname := List.mem_map_of_mem (f := (·.name)) he
    exact isSnake_of_le (hnames e.name hname)
  obtain ⟨_, _, _, _, hnodup⟩ := Declaration.constants_nodup_iff exposedFields_declaration
  obtain ⟨_, _, halike, _⟩ := Declaration.constants_nodup_iff exposedFields_dated
  refine ⟨exposedFields_declaration, hnodup hsnake, exposedFields_dated, ?_⟩
  exact (halike _ List.mem_cons_self _ (List.mem_cons_of_mem _ List.mem_cons_self)).mp
    (constantName_created_at.trans constantName_createdAt.symm)

/-- **Two distinct names may be spelled alike**, and then there are two constants of one name. -/
theorem constants_clash :
    ∃ es, dated.exposedFields = .ok es ∧ es.map (·.name) = ["created_at", "createdAt"] ∧
      es.map (·.constant) = ["CREATED_AT", "CREATED_AT"] := by
  refine ⟨_, exposedFields_dated, rfl, ?_⟩
  show [constantName "created_at", constantName "createdAt"] = ["CREATED_AT", "CREATED_AT"]
  rw [constantName_created_at, constantName_createdAt]

end Memo

end Sift
