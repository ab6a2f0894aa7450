import Sift.Overrides

/-!
# What a list of registrations leaves

Predicates are registered one after the other. This file reads a set of overrides as the history
that made it:

* `Overrides.registerAll` -- carries a list of registrations out, refused ones changing nothing;
* `Overrides.get?_registerAll` -- the predicate of a field is then the LAST accepted one;
* `Registration.RefusedWith` -- what a filter says to a registration that it refuses;
* `Overrides.Recalls` -- everything a set shows, read off the registrations behind it;
* `Overrides.last_accepted_counts` -- the set that any registrations leave recalls them.
-/

namespace Sift

/-- A predicate as it is offered for a filter field, written for values of a type. -/
structure Registration where
  field : String
  type : FieldType
  predicate : Predicate

/-- The filter takes it: the field is declared, not ignored, and of the type it is written for. -/
def Registration.accepted (filter : Shape) (reg : Registration) : Bool :=
  (filter.field? reg.field).any fun d => !d.settings.ignore && d.type == reg.type

/-- What a filter says to a registration that it refuses. The checks are made in this order, so each
    one comes to its turn only where those before it found nothing. -/
inductive Registration.RefusedWith (filter : Shape) (reg : Registration) : Error → Prop
  /-- The filter declares no field of the name. -/
  | unknown (undeclared : filter.field? reg.field = none) :
      reg.RefusedWith filter (.unknownField filter.name reg.field)
  /-- The field is no criterion. -/
  | ignored {d : Field} (declared : filter.field? reg.field = some d)
      (ignored : d.settings.ignore = true) :
      reg.RefusedWith filter (.ignoredField filter.name reg.field)
  /-- The predicate is written for values of another type. -/
  | mistyped {d : Field} (declared : filter.field? reg.field = some d)
      (searched : d.settings.ignore = false) (mistyped : d.type ≠ reg.type) :
      reg.RefusedWith filter (.incompatibleOverride filter.name reg.field d.type reg.type)

/-- A registration is taken if the field of its name is not ignored and has its type. -/
theorem Registration.accepted_iff {filter : Shape} {reg : Registration} :
    reg.accepted filter = true ↔
      ∃ d, filter.field? reg.field = some d ∧ d.settings.ignore = false ∧ d.type = reg.type := by
  simp [accepted, Option.any_eq_true]

namespace Overrides

/-! ## 1. Carrying registrations out -/

/-- A set after a registration, accepted or refused. -/
def register (filter : Shape) (o : Overrides) (reg : Registration) : Overrides :=
  match o.insert filter reg.field reg.type reg.predicate with
  | .ok o' => o'
  | .error _ => o

def registerAll (filter : Shape) (o : Overrides) (regs : List Registration) : Overrides :=
  regs.foldl (register filter) o

/-- The predicate of a field after registrations: the last accepted one, else the one there was. -/
def last? (filter : Shape) (o : Overrides) (regs : List Registration) (field : String) :
    Option Predicate :=
  ((regs.filter fun reg => reg.accepted filter && reg.field == field).getLast?.map
    (·.predicate)).or (o.get? field)

variable {filter : Shape}

/-- A registration is carried out exactly when it is accepted, and puts the predicate under the
    name of the field. -/
theorem insert_eq_ok_iff {o o' : Overrides} {reg : Registration} :
    o.insert filter reg.field reg.type reg.predicate = .ok o' ↔
      reg.accepted filter = true ∧ o' = ⟨o.predicates.put reg.field reg.predicate⟩ := by
  unfold insert Registration.accepted
  cases hd : filter.field? reg.field with
  | none => simp
  | some d =>
    have hname : d.name = reg.field := Shape.field?_name hd
    by_cases hi : d.settings.ignore = true
    · simp [hi]
    · by_cases ht : d.type = reg.type
      · simp [hi, ht, hname, eq_comm]
      · simp [hi, ht]

/-- **A registration is refused for the first check that finds something.** -/
theorem insert_eq_error_iff {o : Overrides} {reg : Registration} {e : Error} :
    o.insert filter reg.field reg.type reg.predicate = .error e ↔ reg.RefusedWith filter e := by
  constructor
  · intro h
    unfold insert at h
    split at h
    · rename_i hundeclared
      cases h
      exact .unknown hundeclared
    · rename_i d hd
      have hname : d.name = reg.field := Shape.field?_name hd
      rw [hname] at h
      split at h
      · rename_i hignore
        cases h
        exact .ignored hd hignore
      · rename_i hignore
        split at h
        · rename_i htype
          cases h
          exact .mistyped hd (Bool.eq_false_iff.mpr hignore) htype
        · cases h
  · intro h
    cases h with
    | unknown hundeclared => simp [insert, hundeclared]
    | ignored hd hignore => simp [insert, hd, hignore, Shape.field?_name hd]
    | mistyped hd hsearched htype => simp [insert, hd, hsearched, htype, Shape.field?_name hd]

/-- **One registration**: the predicate is put under the name of the field, or nothing is done. -/
theorem register_eq (o : Overrides) (reg : Registration) :
    o.register filter reg =
      if reg.accepted filter then ⟨o.predicates.put reg.field reg.predicate⟩ else o := by
  unfold register
  cases h : o.insert filter reg.field reg.type reg.predicate with
  | ok o' =>
    obtain ⟨hacc, rfl⟩ := insert_eq_ok_iff.mp h
    exact (if_pos hacc).symm
  | error e =>
    have hacc : ¬ reg.accepted filter = true := by
      intro hacc
      rw [insert_eq_ok_iff.mpr ⟨hacc, rfl⟩] at h
      cases h
    exact (if_neg hacc).symm

/-- **A registration counts for its own field if it is accepted, and for no other.** -/
theorem get?_register (o : Overrides) (reg : Registration) (field : String) :
    (o.register filter reg).get? field =
      if reg.accepted filter && reg.field == field then some reg.predicate else o.get? field := by
  rw [register_eq]
  by_cases hacc : reg.accepted filter = true
  · simp only [hacc, if_true, get?, Table.get?_put, Bool.true_and, beq_iff_eq]
  · simp [hacc]

/-- The names of a set stay pairwise distinct. -/
theorem nodup_fields_register {o : Overrides} (h : o.fields.Nodup) (reg : Registration) :
    (o.register filter reg).fields.Nodup := by
  rw [register_eq]
  split
  · exact Table.nodup_keys_put h reg.field reg.predicate
  · exact h

theorem nodup_fields_registerAll {o : Overrides} (h : o.fields.Nodup) (regs : List Registration) :
    (o.registerAll filter regs).fields.Nodup := by
  induction regs generalizing o with
  | nil => exact h
  | cons reg regs ih => exact ih (nodup_fields_register h reg)

/-- **Refused registrations leave no trace**: without them the set is the same. -/
theorem registerAll_filter_accepted (o : Overrides) (regs : List Registration) :
    o.registerAll filter (regs.filter (·.accepted filter)) = o.registerAll filter regs := by
  unfold registerAll
  rw [List.foldl_filter]
  congr 1
  funext o reg
  rw [register_eq]
  split <;> rfl

/-- **After a list of registrations the last accepted one counts.** -/
theorem get?_registerAll (o : Overrides) (regs : List Registration) (field : String) :
    (o.registerAll filter regs).get? field = last? filter o regs field := by
  induction regs generalizing o with
  | nil => simp [registerAll, last?]
  | cons reg regs ih =>
    have hstep : o.registerAll filter (reg :: regs) =
        (o.register filter reg).registerAll filter regs := rfl
    rw [hstep, ih]
    unfold last?
    rw [get?_register, List.filter_cons]
    split
    · rw [List.getLast?_cons]
      cases (regs.filter fun reg => reg.accepted filter && reg.field == field).getLast? <;> rfl
    · rfl

/-! ## 2. The registrations behind a set -/

/-- The set that registrations leave, from the empty one. -/
def ofRegistrations (filter : Shape) (regs : List Registration) : Overrides :=
  empty.registerAll filter regs

/-- **A set recalls registrations for a filter**: what it shows is what the accepted ones say, the
    last one for each field. -/
structure Recalls (filter : Shape) (regs : List Registration) (o : Overrides) : Prop where
  /-- A field has the predicate of the last accepted registration for it. -/
  get?_iff : ∀ field p, o.get? field = some p ↔ ∃ before reg after,
    regs = before ++ reg :: after ∧ reg.accepted filter = true ∧ reg.field = field ∧
      reg.predicate = p ∧ ∀ later ∈ after, later.accepted filter = true → later.field ≠ field
  /-- A field has none if no registration for it was accepted. -/
  absent_iff : ∀ field, o.get? field = none ↔
    ∀ reg ∈ regs, reg.accepted filter = true → reg.field ≠ field
  fields_iff : ∀ field, field ∈ o.fields ↔
    ∃ reg ∈ regs, reg.accepted filter = true ∧ reg.field = field
  distinct : o.fields.Nodup
  size : o.size = o.fields.length
  /-- Every name is that of a field the filter declares and does not ignore. -/
  declared : ∀ field ∈ o.fields, ∃ d, filter.field? field = some d ∧ d.settings.ignore = false

/-- What registrations from the empty set leave for a field, seen from the last one. -/
theorem get?_ofRegistrations (filter : Shape) (regs : List Registration) (field : String) :
    (ofRegistrations filter regs).get? field =
      (regs.reverse.find? fun reg => reg.accepted filter && reg.field == field).map
        (·.predicate) := by
  unfold ofRegistrations
  rw [get?_registerAll, last?, List.getLast?_filter]
  exact Option.or_none

theorem get?_ofRegistrations_eq_some_iff {regs : List Registration} {field : String}
    {p : Predicate} : (ofRegistrations filter regs).get? field = some p ↔ ∃ before reg after,
      regs = before ++ reg :: after ∧ reg.accepted filter = true ∧ reg.field = field ∧
        reg.predicate = p ∧
        ∀ later ∈ after, later.accepted filter = true → later.field ≠ field := by
  rw [get?_ofRegistrations, Option.map_eq_some_iff]
  constructor
  · rintro ⟨reg, hfound, rfl⟩
    obtain ⟨htaken, after, before, hregs, hlater⟩ := List.find?_eq_some_iff_append.mp hfound
    rw [Bool.and_eq_true, beq_iff_eq] at htaken
    refine ⟨before.reverse, reg, after.reverse, ?_, htaken.1, htaken.2, rfl, ?_⟩
    · have hreversed := congrArg List.reverse hregs
      simpa using hreversed
    · intro later hmem hacc hfield
      have hrefused := hlater later (List.mem_reverse.mp hmem)
      simp [hacc, hfield] at hrefused
  · rintro ⟨before, reg, after, rfl, hacc, hfield, rfl, hlater⟩
    refine ⟨reg, List.find?_eq_some_iff_append.mpr ⟨?_, after.reverse, before.reverse, ?_, ?_⟩, rfl⟩
    · rw [hacc, hfield, beq_self_eq_true, Bool.and_self]
    · simp
    · intro later hmem
      have hother := hlater later (List.mem_reverse.mp hmem)
      by_cases hacc : later.accepted filter = true
      · simp [hother hacc]
      · simp [hacc]

theorem get?_ofRegistrations_eq_none_iff {regs : List Registration} {field : String} :
    (ofRegistrations filter regs).get? field = none ↔
      ∀ reg ∈ regs, reg.accepted filter = true → reg.field ≠ field := by
  rw [get?_ofRegistrations, Option.map_eq_none_iff, List.find?_eq_none]
  simp

/-- **The set that registrations leave recalls them.** -/
theorem recalls_ofRegistrations (filter : Shape) (regs : List Registration) :
    (ofRegistrations filter regs).Recalls filter regs := by
  have hempty : empty.fields.Nodup := List.nodup_nil
  have hfields : ∀ field, field ∈ (ofRegistrations filter regs).fields ↔
      ∃ reg ∈ regs, reg.accepted filter = true ∧ reg.field = field := by
    intro field
    rw [mem_fields_iff, Option.isSome_iff_ne_none, Ne, get?_ofRegistrations_eq_none_iff]
    simp
  refine ⟨fun _ _ => get?_ofRegistrations_eq_some_iff, fun _ => get?_ofRegistrations_eq_none_iff,
    hfields, nodup_fields_registerAll hempty regs, Table.size_eq_length_keys _, ?_⟩
  intro field hfield
  obtain ⟨reg, _, hacc, rfl⟩ := (hfields field).mp hfield
  obtain ⟨d, hd, hsearched, _⟩ := Registration.accepted_iff.mp hacc
  exact ⟨d, hd, hsearched⟩

/-- **The last accepted registration counts.** Whatever registrations were tried before, a further
    one is accepted exactly if the field of its name is not ignored and has the type the predicate
    is written for; it is refused for the first of the three checks that finds something, and then
    changes nothing. The set recalls all that was accepted, and is the one that there would be if
    what was refused had never been tried. -/
theorem last_accepted_counts (filter : Shape) (regs : List Registration) :
    (∀ reg : Registration,
      ((∃ o, (ofRegistrations filter regs).insert filter reg.field reg.type reg.predicate = .ok o) ↔
        ∃ d, filter.field? reg.field = some d ∧ d.settings.ignore = false ∧ d.type = reg.type) ∧
      ∀ e, (ofRegistrations filter regs).insert filter reg.field reg.type reg.predicate =
          .error e ↔
        reg.RefusedWith filter e) ∧
    (∀ reg e, (ofRegistrations filter regs).insert filter reg.field reg.type reg.predicate =
        .error e →
      ofRegistrations filter (regs ++ [reg]) = ofRegistrations filter regs) ∧
    ofRegistrations filter (regs.filter (·.accepted filter)) = ofRegistrations filter regs ∧
    (ofRegistrations filter regs).Recalls filter regs := by
  refine ⟨fun reg => ⟨?accepted, fun e => insert_eq_error_iff⟩, ?refused,
    registerAll_filter_accepted empty regs, recalls_ofRegistrations filter regs⟩
  case accepted =>
    rw [← Registration.accepted_iff]
    constructor
    · rintro ⟨o, ho⟩
      exact (insert_eq_ok_iff.mp ho).1
    · intro hacc
      exact ⟨_, insert_eq_ok_iff.mpr ⟨hacc, rfl⟩⟩
  case refused =>
    intro reg e he
    have hlast : ofRegistrations filter (regs ++ [reg]) =
        (ofRegistrations filter regs).register filter reg := List.foldl_append
    rw [hlast, register, he]

end Overrides

namespace Ticket

/-- A text to find and a page, which is no criterion. -/
def desk : Shape :=
  ⟨"DeskFilter",
    [⟨"query", .text, .default⟩, ⟨"page", .number .u32, ⟨.auto, false, none, true, none⟩⟩]⟩

/-- Two predicates for the text, and between them one for the page and one that is written for
    numbers. -/
def attempts : List Registration :=
  [⟨"query", .text, fun _ _ => true⟩, ⟨"page", .number .u32, fun _ _ => true⟩,
    ⟨"query", .number .u32, fun _ _ => true⟩, ⟨"query", .text, fun _ _ => false⟩]

/-- The second predicate for the text is the one that counts, the page has none, and another attempt
    at the page is refused and changes nothing. -/
theorem last_accepted_counts_desk :
    (Overrides.ofRegistrations desk attempts).get? "query" = some (fun _ _ => false) ∧
    (Overrides.ofRegistrations desk attempts).get? "page" = none ∧
    (Overrides.ofRegistrations desk attempts).insert desk "page" (.number .u32)
        (fun _ _ => true) = .error (.ignoredField "DeskFilter" "page") ∧
    Overrides.ofRegistrations desk (attempts ++ [⟨"page", .number .u32, fun _ _ => true⟩]) =
      Overrides.ofRegistrations desk attempts := by
  obtain ⟨hanswer, hrefused, -, hrecalls⟩ := Overrides.last_accepted_counts desk attempts
  have hpage := ((hanswer ⟨"page", .number .u32, fun _ _ => true⟩).2 _).mpr (.ignored rfl rfl)
  refine ⟨?query, ?page, hpage, hrefused _ _ hpage⟩
  case query =>
    rw [hrecalls.get?_iff]
    exact ⟨attempts.take 3, _, [], rfl, rfl, rfl, rfl, by simp⟩
  case page =>
    rw [hrecalls.absent_iff]
    intro reg hreg hacc
    obtain ⟨d, hd, hsearched, -⟩ := Registration.accepted_iff.mp hacc
    intro hfield
    rw [hfield] at hd
    cases hd
    cases hsearched

end Ticket

end Sift
