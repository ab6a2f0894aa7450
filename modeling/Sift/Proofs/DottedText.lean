import Sift.Path

/-!
# The dotted text of a path

A path is printed with a dot between its segments and read back by cutting a text at its dots. A
path that was made from a field name may hold any text in a segment, and the dots of that text are
not told apart from those between the segments.

* `Path.segmentsOf_display`, `Path.display_segmentsOf` -- cutting and printing undo each other, as
  far as no segment has a dot in it;
* `Path.Plain` -- the paths that a text can stand for;
* `Path.parse?_eq_some_iff` -- a text is read as a path exactly if the path is plain and the text is
  the one it prints;
* `Path.parse?_display_iff` -- so a path is read back from what it prints exactly if it is plain.
-/

namespace Sift

namespace Path

/-! ## 1. Cutting at dots -/

/-- What was read of a segment goes in front of the first piece of the rest. -/
theorem splitDots_eq (seen cs : List Char) :
    splitDots seen cs = (cs.splitOn '.').modifyHead (seen.reverse ++ ·) := by
  induction cs generalizing seen with
  | nil => simp [splitDots]
  | cons c rest ih =>
    rw [splitDots, List.splitOn_cons_eq_if_modifyHead]
    by_cases hc : c = '.'
    · have hpieces : splitDots [] rest = rest.splitOn '.' :=
        (ih []).trans (congrFun List.modifyHead_id _)
      simp [hc, hpieces]
    · simp [hc, ih, Function.comp_def]

/-- The segments of a text are its pieces between the dots. -/
theorem segmentsOf_eq (s : String) :
    segmentsOf s = (s.toList.splitOn '.').map String.ofList := by
  have hpieces : splitDots [] s.toList = s.toList.splitOn '.' :=
    (splitDots_eq [] _).trans (congrFun List.modifyHead_id _)
  rw [segmentsOf, hpieces]

theorem segmentsOf_ne_nil (s : String) : segmentsOf s ≠ [] := by
  simp [segmentsOf_eq, List.splitOn_ne_nil]

/-- No piece has a dot in it. -/
theorem not_mem_of_mem_splitDots {seen cs piece : List Char} (hseen : '.' ∉ seen)
    (h : piece ∈ splitDots seen cs) : '.' ∉ piece := by
  induction cs generalizing seen with
  | nil =>
    rw [splitDots, List.mem_singleton] at h
    simpa [h] using hseen
  | cons c rest ih =>
    rw [splitDots] at h
    split at h
    · rcases List.mem_cons.mp h with rfl | h
      · simpa using hseen
      · exact ih (by simp) h
    · rename_i hc
      exact ih (List.not_mem_cons_of_ne_of_not_mem (Ne.symm hc) hseen) h

theorem not_mem_of_mem_segmentsOf {s segment : String} (h : segment ∈ segmentsOf s) :
    '.' ∉ segment.toList := by
  obtain ⟨piece, hpiece, rfl⟩ := List.mem_map.mp h
  simpa using not_mem_of_mem_splitDots (by simp) hpiece

/-- A text is the one that its segments print. -/
theorem display_segmentsOf (s : String) : display ⟨segmentsOf s⟩ = s := by
  apply String.toList_injective
  simp [display, segmentsOf_eq, String.toList_intercalate, Function.comp_def,
    List.intercalate_splitOn]

/-- Segments without a dot are read back from what they print. -/
theorem segmentsOf_display {p : Path} (hne : p.segments ≠ [])
    (hdots : ∀ segment ∈ p.segments, '.' ∉ segment.toList) :
    segmentsOf p.display = p.segments := by
  have hpieces : (p.segments.map String.toList).map String.ofList = p.segments := by
    simp [Function.comp_def]
  rw [segmentsOf_eq, display, String.toList_intercalate]
  refine (congrArg (List.map String.ofList) ?_).trans hpieces
  refine List.splitOn_intercalate '.' (fun piece hpiece => ?_) (by simpa using hne)
  obtain ⟨segment, hsegment, rfl⟩ := List.mem_map.mp hpiece
  exact hdots segment hsegment

/-! ## 2. Plain paths -/

/-- **A plain path** has segments, and none of them is empty or has a dot in it. -/
structure Plain (p : Path) : Prop where
  segments_ne_nil : p.segments ≠ []
  segment : ∀ segment ∈ p.segments, segment ≠ "" ∧ '.' ∉ segment.toList

/-- **A text is read as the plain path that prints it.** -/
theorem parse?_eq_some_iff {s : String} {p : Path} :
    parse? s = some p ↔ p.Plain ∧ p.display = s := by
  have hread : parse? s = some p ↔
      (∀ segment ∈ segmentsOf s, segment ≠ "") ∧ ⟨segmentsOf s⟩ = p := by
    simp only [parse?, List.any_eq_true, String.isEmpty_iff, Option.ite_none_left_eq_some,
      not_exists, not_and, Option.some.injEq, ne_eq]
  rw [hread]
  constructor
  · rintro ⟨hempty, rfl⟩
    exact ⟨⟨segmentsOf_ne_nil s, fun segment h => ⟨hempty segment h, not_mem_of_mem_segmentsOf h⟩⟩,
      display_segmentsOf s⟩
  · rintro ⟨hplain, rfl⟩
    have hsegments := segmentsOf_display hplain.segments_ne_nil fun segment h =>
      (hplain.segment segment h).2
    rw [hsegments]
    exact ⟨fun segment h => (hplain.segment segment h).1, rfl⟩

/-- **A path is read back from what it prints exactly if it is plain.** -/
theorem parse?_display_iff {p : Path} : parse? p.display = some p ↔ p.Plain := by
  simp [parse?_eq_some_iff]

/-- A field name makes a plain path if it is not empty and has no dot in it. -/
theorem plain_single_iff {name : String} :
    (single name).Plain ↔ name ≠ "" ∧ '.' ∉ name.toList := by
  constructor
  · exact fun h => h.segment name (List.mem_singleton_self name)
  · intro h
    refine ⟨List.cons_ne_nil name [], fun segment hsegment => ?_⟩
    rw [List.mem_singleton.mp hsegment]
    exact h

/-! ## 3. Resolution of what is printed -/

/-- A path that leads to a field is resolved from what it prints exactly if it is plain. -/
theorem resolve?_display_iff {catalog : Catalog} {model : Shape} {p : Path} {t : FieldType}
    {crossed : Bool} (h : follow? catalog model p.segments = some (t, crossed)) :
    resolve? catalog model p.display = some ⟨p, t, crossed⟩ ↔ p.Plain := by
  rw [← parse?_display_iff]
  constructor
  · intro hresolved
    obtain ⟨path, hparse, hrest⟩ := Option.bind_eq_some_iff.mp hresolved
    obtain ⟨_, _, heq⟩ := Option.bind_eq_some_iff.mp hrest
    cases heq
    exact hparse
  · intro hparse
    simp [resolve?, hparse, h]

end Path

end Sift
