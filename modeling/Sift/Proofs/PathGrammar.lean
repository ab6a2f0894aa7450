import Sift.Proofs.DottedText

/-!
# Which texts are paths

A path is written by its segments, one after the other, with a single dot between two of them. Said
as a grammar, this mentions neither how a text is cut nor how a path is printed:

* `Path.Written` -- the segments that a text is written by;
* `Path.parse?_eq_some_iff_written` -- a text is read as the segments it is written by, so there is
  only one way to write it (`Path.Written.unique`);
* `Path.Malformed` -- the texts that are refused, by what can be seen in them: nothing at all, a dot
  at one of the ends, or two dots in a row;
* `Path.parse?_written` -- the main statement. Reading and printing undo each other, on all texts
  that are not malformed and on all plain paths.
-/

namespace Sift

namespace Path

/-! ## 1. The grammar -/

/-- **A text is written by segments**: none of them is empty or has a dot in it, and between two of
    them stands a single dot. -/
inductive Written : List String → String → Prop
  | last {segment : String} (named : segment ≠ "") (undotted : '.' ∉ segment.toList) :
      Written [segment] segment
  | further {segment : String} {segments : List String} {rest : String} (named : segment ≠ "")
      (undotted : '.' ∉ segment.toList) (goesOn : Written segments rest) :
      Written (segment :: segments) (segment ++ "." ++ rest)

variable {segments : List String} {s : String}

/-- What a text is written by makes a plain path. -/
theorem Written.plain (h : Written segments s) : Plain ⟨segments⟩ := by
  induction h with
  | last named undotted => exact plain_single_iff.mpr ⟨named, undotted⟩
  | further named undotted _ ih =>
    refine ⟨List.cons_ne_nil _ _, fun segment hsegment => ?_⟩
    rcases List.mem_cons.mp hsegment with rfl | hlater
    · exact ⟨named, undotted⟩
    · exact ih.segment segment hlater

/-- A text is what the segments it is written by print. -/
theorem Written.display_eq (h : Written segments s) : display ⟨segments⟩ = s := by
  induction h with
  | last _ _ => exact String.intercalate_singleton
  | @further segment segments rest _ _ goesOn ih =>
    have hne : segments ≠ [] := goesOn.plain.segments_ne_nil
    calc display ⟨segment :: segments⟩
        = segment ++ "." ++ display ⟨segments⟩ := String.intercalate_cons_of_ne_nil hne
      _ = segment ++ "." ++ rest := by rw [ih]

/-- The segments of a plain path write what the path prints. -/
theorem Plain.written {p : Path} (h : p.Plain) : Written p.segments p.display := by
  obtain ⟨segments⟩ := p
  induction segments with
  | nil => exact absurd rfl h.segments_ne_nil
  | cons segment rest ih =>
    obtain ⟨named, undotted⟩ := h.segment segment List.mem_cons_self
    cases rest with
    | nil =>
      rw [display, String.intercalate_singleton]
      exact .last named undotted
    | cons next rest =>
      have hrest : Plain ⟨next :: rest⟩ :=
        ⟨List.cons_ne_nil _ _, fun later hlater => h.segment later (List.mem_cons_of_mem _ hlater)⟩
      rw [display, String.intercalate_cons_cons]
      exact .further named undotted (ih hrest)

/-- **A text is read as the segments it is written by.** -/
theorem parse?_eq_some_iff_written {p : Path} : parse? s = some p ↔ Written p.segments s := by
  rw [parse?_eq_some_iff]
  constructor
  · rintro ⟨hplain, rfl⟩
    exact hplain.written
  · exact fun h => ⟨h.plain, h.display_eq⟩

/-- A text is written by one list of segments only. -/
theorem Written.unique {others : List String} (h : Written segments s) (h' : Written others s) :
    segments = others := by
  have hread : parse? s = some ⟨segments⟩ := parse?_eq_some_iff_written.mpr h
  have hread' : parse? s = some ⟨others⟩ := parse?_eq_some_iff_written.mpr h'
  rw [hread] at hread'
  exact congrArg Path.segments (Option.some.inj hread')

/-- **Two plain paths that print alike are the same.** -/
theorem Plain.display_inj {p q : Path} (hp : p.Plain) (hq : q.Plain) :
    p.display = q.display ↔ p = q := by
  constructor
  · intro hdisplay
    have hwritten : Written q.segments p.display := hdisplay ▸ hq.written
    exact congrArg Path.mk (hp.written.unique hwritten)
  · exact congrArg display

/-! ## 2. The texts that are refused -/

/-- **A text is malformed** if it is empty, begins or ends with a dot, or has two dots in a row. -/
def Malformed (s : String) : Prop :=
  s = "" ∨ ['.'] <+: s.toList ∨ ['.'] <:+ s.toList ∨ ['.', '.'] <:+: s.toList

/-- Where a piece between dots is empty. The first one is empty only if nothing was read of it
    before; each later one begins after a dot, and then the text ends or the next dot follows. -/
theorem nil_mem_splitDots_iff {seen cs : List Char} :
    [] ∈ splitDots seen cs ↔
      (seen = [] ∧ (cs = [] ∨ ['.'] <+: cs)) ∨ ['.'] <:+ cs ∨ ['.', '.'] <:+: cs := by
  -- the induction is on the text; what was read of the current piece varies along the way
  induction cs generalizing seen with
  | nil => simp [splitDots]
  | cons c rest ih =>
    rw [splitDots, List.suffix_cons_iff, List.infix_cons_iff]
    by_cases hc : c = '.'
    · subst hc
      -- the next piece is empty if the text ends here, which is a dot at its end, or if another dot
      -- follows, which makes two in a row
      have hends : (['.'] = '.' :: rest) ↔ rest = [] := by simp [eq_comm]
      have hnext : (['.', '.'] <+: '.' :: rest) ↔ ['.'] <+: rest := by simp
      rw [if_pos rfl, List.mem_cons, ih, hends, hnext, or_or_or_comm]
      simp
    · have hends : ¬ (['.'] = c :: rest) := fun h => hc (List.cons.inj h).1.symm
      have hfirst : ¬ (['.'] <+: c :: rest) := fun h => hc (List.cons_prefix_cons.mp h).1.symm
      have hnext : ¬ (['.', '.'] <+: c :: rest) := fun h => hc (List.cons_prefix_cons.mp h).1.symm
      rw [if_neg hc, ih]
      simp [hends, hfirst, hnext]

/-- **A text is refused exactly if it is malformed.** -/
theorem parse?_eq_none_iff : parse? s = none ↔ Malformed s := by
  have hempty : (segmentsOf s).any String.isEmpty = true ↔ [] ∈ splitDots [] s.toList := by
    simp [segmentsOf]
  have hrefused : parse? s = none ↔ (segmentsOf s).any String.isEmpty = true := by
    simp [parse?]
  rw [hrefused, hempty, nil_mem_splitDots_iff, Malformed, String.toList_eq_nil_iff]
  simp [or_assoc]

/-! ## 3. Reading and printing -/

/-- **Reading and printing undo each other.** A text is read exactly as the segments it is written
    by, so it is read at all exactly if there are such segments, and it is refused exactly if it is
    malformed. What was read prints the text again. A path is read back from what it prints exactly
    if it is plain, that is, if it has segments and none of them is empty or has a dot in it. So
    different paths that were read from texts print differently. -/
theorem parse?_written (s : String) (p : Path) :
    (parse? s = some p ↔ Written p.segments s) ∧
    ((∃ q, parse? s = some q) ↔ ∃ segments, Written segments s) ∧
    (parse? s = none ↔ Malformed s) ∧
    (parse? s = some p → p.display = s) ∧
    (parse? p.display = some p ↔ p.Plain) ∧
    ∀ t q, parse? s = some p → parse? t = some q → p ≠ q → p.display ≠ q.display := by
  refine ⟨parse?_eq_some_iff_written, ⟨?segments, ?read⟩, parse?_eq_none_iff, ?printed,
    parse?_display_iff, ?distinct⟩
  case segments =>
    rintro ⟨q, hq⟩
    exact ⟨q.segments, parse?_eq_some_iff_written.mp hq⟩
  case read =>
    rintro ⟨segments, hwritten⟩
    exact ⟨⟨segments⟩, parse?_eq_some_iff_written.mpr hwritten⟩
  case printed =>
    intro hp
    exact (parse?_eq_some_iff_written.mp hp).display_eq
  case distinct =>
    intro t q hp hq hne hdisplay
    have hplain : p.Plain := (parse?_eq_some_iff_written.mp hp).plain
    have hplain' : q.Plain := (parse?_eq_some_iff_written.mp hq).plain
    exact hne ((hplain.display_inj hplain').mp hdisplay)

end Path

namespace Ticket

/-- The way to the city of a ticket's owner. -/
def cityPath : Path := ⟨["owner", "city"]⟩

/-- The way to the city is read from its text and back from what it prints, and it prints another
    text than the way to the title. A dot too many is refused wherever it stands, and so is the
    empty text. -/
theorem parse?_written_city :
    Path.Written ["owner", "city"] "owner.city" ∧
    cityPath.display = "owner.city" ∧
    (cityPath.Plain ∧ Path.parse? cityPath.display = some cityPath) ∧
    cityPath.display ≠ (Path.single "title").display ∧
    Path.parse? "" = none ∧ Path.parse? ".city" = none ∧ Path.parse? "owner." = none ∧
    Path.parse? "owner..city" = none := by
  have hcity : Path.parse? "owner.city" = some cityPath := by decide
  have htitle : Path.parse? "title" = some (Path.single "title") := by decide
  obtain ⟨hread, _, _, hprinted, hback, hdistinct⟩ := Path.parse?_written "owner.city" cityPath
  have hdisplay : cityPath.display = "owner.city" := hprinted hcity
  have hagain : Path.parse? cityPath.display = some cityPath := by rw [hdisplay, hcity]
  have hother : cityPath.display ≠ (Path.single "title").display :=
    hdistinct "title" _ hcity htitle (by decide)
  have hrefused : ∀ text, Path.Malformed text → Path.parse? text = none := fun text h =>
    (Path.parse?_written text cityPath).2.2.1.mpr h
  have hempty : Path.Malformed "" := .inl rfl
  have hleading : Path.Malformed ".city" := .inr (.inl ⟨"city".toList, rfl⟩)
  have htrailing : Path.Malformed "owner." := .inr (.inr (.inl ⟨"owner".toList, rfl⟩))
  have hdoubled : Path.Malformed "owner..city" :=
    .inr (.inr (.inr ⟨"owner".toList, "city".toList, rfl⟩))
  exact ⟨hread.mp hcity, hdisplay, ⟨hback.mp hagain, hagain⟩, hother, hrefused _ hempty,
    hrefused _ hleading, hrefused _ htrailing, hrefused _ hdoubled⟩

end Ticket

end Sift
