import Sift.Proofs.Composition
import Sift.Proofs.Meaning
import Sift.Proofs.Representations
import Sift.Proofs.TextOrder

/-!
# The order of scalars

Equality of values and their order are two functions, and the scalar comparisons ask now the one,
now the other. On texts, times and whole numbers they speak of one linear order:

* `Value.RankedBy` -- values that are compared as their ranks in a linear order are;
* `FieldType.exists_rankedBy` -- texts are, and times and whole numbers by the integers they stand
  for;
* `Comparison.Coherent` -- what a reader of the scalar comparisons relies on;
* `Shape.Pinches` -- a filter with a lower and an upper bound beside one with a single value;
* `Value.Precedes` -- what to come before means, by the texts, times and integers themselves;
* `Comparison.coherent` -- the comparisons are coherent, to be less is to come before, texts are in
  the order of their bytes, and two bounds that are one value select what the value selects.
-/

namespace Sift

/-! ## 1. Ranks -/

/-- The values among some are compared as their ranks are, and are the same when these are. -/
structure Value.RankedBy {α : Type} [LinearOrder α] (rank : Value → α) (among : Value → Prop) :
    Prop where
  compare : ∀ {m v}, among m → among v → m.compare? v = some (cmp (rank m) (rank v))
  same : ∀ {m v}, among m → among v → (m.sameAs v = true ↔ rank m = rank v)

/-- The declared types that have an order: texts, times and whole numbers. -/
def FieldType.IsRanked : FieldType → Prop
  | .text => True
  | .timestamp => True
  | .number k => k.numberClass ≠ .float
  | _ => False

/-- A scalar comes before another one: a text by its code points, a time by its milliseconds, a
    whole number by the integer it stands for. -/
def Value.Precedes : Value → Value → Prop
  | .text s, .text u => Text.codePoints s < Text.codePoints u
  | .timestamp a, .timestamp b => a.millis.toInt < b.millis.toInt
  | .number x, .number y => ∃ m n, x.integer? = some m ∧ y.integer? = some n ∧ m < n
  | _, _ => False

variable {catalog : Catalog} {t : FieldType}

/-- Numbers of one kind of whole numbers are integers in one representation. -/
theorem Value.Conforms.integer {k : NumberKind} {v : Value} (hk : k.numberClass ≠ .float)
    (h : Value.Conforms catalog (.number k) v) :
    ∃ x n, v = .number x ∧ x.integer? = some n ∧ x.numberClass = k.numberClass := by
  cases h with
  | @number _ x hclass =>
    cases x with
    | signed n => exact ⟨_, _, rfl, rfl, hclass⟩
    | unsigned n => exact ⟨_, _, rfl, rfl, hclass⟩
    | float x => exact absurd hclass.symm hk

/-- A value that has an order to the values of its class finds those equal that are the same. -/
theorem Value.compare?_eq_iff_sameAs {m v : Value} (ht : t.IsRanked)
    (hv : Value.Conforms catalog t v) : m.compare? v = some .eq ↔ m.sameAs v = true := by
  cases hv with
  | text u => cases m <;> simp [Value.compare?, Value.sameAs]
  | number h => cases m <;> simp [Value.compare?, Value.sameAs]
  | timestamp u =>
    cases m with
    | timestamp s =>
      obtain ⟨s⟩ := s
      obtain ⟨u⟩ := u
      simp [Value.compare?, Value.sameAs, Timestamp.compare, Int64.toInt_inj]
    | _ => simp [Value.compare?, Value.sameAs]
  | _ => cases ht

/-- The order of values of an ordered type settles which of them are the same. -/
theorem Value.rankedBy_of_compare {α : Type} [LinearOrder α] {rank : Value → α} (ht : t.IsRanked)
    (h : ∀ {m v}, Value.Conforms catalog t m → Value.Conforms catalog t v →
      m.compare? v = some (cmp (rank m) (rank v))) :
    Value.RankedBy rank (Value.Conforms catalog t) where
  compare := h
  same hm hv := by
    rw [← Value.compare?_eq_iff_sameAs ht hv, h hm hv, Option.some.injEq, cmp_eq_eq_iff]

/-- Times are ranked by their milliseconds. -/
theorem Value.rankedBy_timestamp (catalog : Catalog) :
    Value.RankedBy (fun v => (v.timestamp?.map (·.millis.toInt)).getD 0)
      (Value.Conforms catalog .timestamp) := by
  refine Value.rankedBy_of_compare trivial fun hm hv => ?_
  cases hm with
  | timestamp a =>
    cases hv with
    | timestamp b => exact congrArg some (cmp_eq_compare a.millis.toInt b.millis.toInt).symm

/-- **The values of an ordered type have ranks.** -/
theorem FieldType.exists_rankedBy (catalog : Catalog) (ht : t.IsRanked) :
    ∃ (α : Type) (_ : LinearOrder α) (rank : Value → α),
      Value.RankedBy rank (Value.Conforms catalog t) := by
  cases t with
  | text =>
    refine ⟨String, inferInstance, fun v => v.text?.getD "",
      Value.rankedBy_of_compare ht fun hm hv => ?_⟩
    cases hm with
    | text s =>
      cases hv with
      | text u => exact congrArg some (cmp_eq_compare s u).symm
  | timestamp => exact ⟨ℤ, inferInstance, _, Value.rankedBy_timestamp catalog⟩
  | number k =>
    refine ⟨ℤ, inferInstance, fun v => (v.number?.bind Number.integer?).getD 0,
      Value.rankedBy_of_compare ht fun hm hv => ?_⟩
    obtain ⟨x, a, rfl, hx, hclass⟩ := hm.integer ht
    obtain ⟨y, b, rfl, hy, hclass'⟩ := hv.integer ht
    show x.compare? y = _
    rw [Number.compare?_of_class_eq hx hy (hclass.trans hclass'.symm), cmp_eq_compare]
    simp [Value.number?, hx, hy]
  | _ => cases ht

/-! ## 2. Comparisons of ranked values -/

namespace Comparison

/-- The comparisons of scalars, by equality or by order. -/
def scalar : List Comparison := [.equal, .greater, .greaterOrEqual, .less, .lessOrEqual]

/-- What a comparison of scalars asks of their ranks. -/
def OfRanks {α : Type} [LinearOrder α] (a b : α) : Comparison → Prop
  | .equal => a = b
  | .greater => b < a
  | .greaterOrEqual => b ≤ a
  | .less => a < b
  | .lessOrEqual => a ≤ b
  | _ => False

/-- **Ranked values are compared by their ranks.** -/
theorem eval_iff_ofRanks {α : Type} [LinearOrder α] {rank : Value → α} {among : Value → Prop}
    {m v : Value} {c : Comparison} (h : Value.RankedBy rank among) (hm : among m) (hv : among v)
    (hc : c ∈ scalar) : c.eval m v = true ↔ c.OfRanks (rank m) (rank v) := by
  have hcompare := h.compare hm hv
  cases c with
  | equal => exact h.same hm hv
  | greater =>
    show (m.compare? v == some .gt) = true ↔ rank v < rank m
    rw [hcompare, beq_iff_eq, Option.some.injEq, cmp_eq_gt_iff]
  | less =>
    show (m.compare? v == some .lt) = true ↔ rank m < rank v
    rw [hcompare, beq_iff_eq, Option.some.injEq, cmp_eq_lt_iff]
  | greaterOrEqual =>
    show (m.compare? v).any Ordering.isGE = true ↔ rank v ≤ rank m
    rw [hcompare, Option.any_some, ← not_lt, ← cmp_eq_lt_iff]
    cases cmp (rank m) (rank v) <;> simp
  | lessOrEqual =>
    show (m.compare? v).any Ordering.isLE = true ↔ rank m ≤ rank v
    rw [hcompare, Option.any_some, ← not_lt, ← cmp_eq_gt_iff]
    cases cmp (rank m) (rank v) <;> simp
  | _ => simp [scalar] at hc

/-- Times are compared by their milliseconds. -/
theorem eval_timestamps_iff {s t : Timestamp} {c : Comparison} (hc : c ∈ scalar) :
    c.eval (.timestamp s) (.timestamp t) = true ↔ c.OfRanks s.millis.toInt t.millis.toInt :=
  eval_iff_ofRanks (Value.rankedBy_timestamp (Catalog.ofList [])) (.timestamp s) (.timestamp t) hc

/-- The comparisons of scalars speak of one order of the values among some. -/
structure Coherent (among : Value → Prop) : Prop where
  /-- Exactly one of three comparisons holds. -/
  one : ∀ {m v}, among m → among v →
    [Comparison.less, .equal, .greater].countP (fun c => c.eval m v) = 1
  greaterOrEqual : ∀ {m v}, among m → among v →
    Comparison.greaterOrEqual.eval m v = (Comparison.greater.eval m v || Comparison.equal.eval m v)
  lessOrEqual : ∀ {m v}, among m → among v →
    Comparison.lessOrEqual.eval m v = (Comparison.less.eval m v || Comparison.equal.eval m v)
  mirrored : ∀ {m v}, among m → among v →
    Comparison.greater.eval m v = Comparison.less.eval v m
  trans : ∀ {m v w}, among m → among v → among w →
    Comparison.lessOrEqual.eval m v = true → Comparison.lessOrEqual.eval v w = true →
      Comparison.lessOrEqual.eval m w = true

/-- **Ranks make the comparisons coherent.** -/
theorem coherent_of_rankedBy {α : Type} [LinearOrder α] {rank : Value → α} {among : Value → Prop}
    (h : Value.RankedBy rank among) : Coherent among := by
  have hless : ∀ {m v}, among m → among v → (less.eval m v = true ↔ rank m < rank v) :=
    fun hm hv => eval_iff_ofRanks h hm hv (by decide)
  have hequal : ∀ {m v}, among m → among v → (equal.eval m v = true ↔ rank m = rank v) :=
    fun hm hv => eval_iff_ofRanks h hm hv (by decide)
  have hgreater : ∀ {m v}, among m → among v → (greater.eval m v = true ↔ rank v < rank m) :=
    fun hm hv => eval_iff_ofRanks h hm hv (by decide)
  have hleast : ∀ {m v}, among m → among v → (lessOrEqual.eval m v = true ↔ rank m ≤ rank v) :=
    fun hm hv => eval_iff_ofRanks h hm hv (by decide)
  have hmost : ∀ {m v}, among m → among v → (greaterOrEqual.eval m v = true ↔ rank v ≤ rank m) :=
    fun hm hv => eval_iff_ofRanks h hm hv (by decide)
  refine ⟨fun {m v} hm hv => ?one, fun hm hv => ?greaterOrEqual, fun hm hv => ?lessOrEqual,
    fun hm hv => ?mirrored, fun hm hv hw hmv hvw => ?trans⟩
  case one =>
    have hl := hless hm hv
    have he := hequal hm hv
    have hg := hgreater hm hv
    rcases lt_trichotomy (rank m) (rank v) with hlt | heq | hgt
    · simp [hl, he, hg, hlt, hlt.ne, hlt.not_gt]
    · simp [hl, he, hg, heq]
    · simp [hl, he, hg, hgt, hgt.ne', hgt.not_gt]
  case greaterOrEqual =>
    rw [Bool.eq_iff_iff, Bool.or_eq_true, hmost hm hv, hgreater hm hv, hequal hm hv, eq_comm]
    exact le_iff_lt_or_eq
  case lessOrEqual =>
    rw [Bool.eq_iff_iff, Bool.or_eq_true, hleast hm hv, hless hm hv, hequal hm hv]
    exact le_iff_lt_or_eq
  case mirrored =>
    rw [Bool.eq_iff_iff, hgreater hm hv, hless hv hm]
  case trans =>
    exact (hleast hm hw).mpr (((hleast hm hv).mp hmv).trans ((hleast hv hw).mp hvw))

/-- **What it means to be less**, by the texts, times and integers themselves. -/
theorem less_iff_precedes {m v : Value} (ht : t.IsRanked) (hm : Value.Conforms catalog t m)
    (hv : Value.Conforms catalog t v) : less.eval m v = true ↔ m.Precedes v := by
  show (m.compare? v == some .lt) = true ↔ m.Precedes v
  rw [beq_iff_eq]
  cases t with
  | text =>
    cases hm with
    | text s =>
      cases hv with
      | text u =>
        show some (compare s u) = some .lt ↔ Text.codePoints s < Text.codePoints u
        rw [Option.some.injEq, compare_lt_iff_lt, Text.lt_iff_codePoints_lt]
  | timestamp =>
    cases hm with
    | timestamp a =>
      cases hv with
      | timestamp b =>
        show some (compare a.millis.toInt b.millis.toInt) = some .lt ↔
          a.millis.toInt < b.millis.toInt
        rw [Option.some.injEq, compare_lt_iff_lt]
  | number k =>
    obtain ⟨x, a, rfl, hx, hclass⟩ := hm.integer ht
    obtain ⟨y, b, rfl, hy, hclass'⟩ := hv.integer ht
    have hcompare := Number.compare?_of_class_eq hx hy (hclass.trans hclass'.symm)
    show x.compare? y = some .lt ↔ _
    rw [hcompare, Option.some.injEq, compare_lt_iff_lt]
    constructor
    · exact fun hlt => ⟨a, b, hx, hy, hlt⟩
    · rintro ⟨a', b', hx', hy', hlt⟩
      cases hx.symm.trans hx'
      cases hy.symm.trans hy'
      exact hlt
  | _ => cases ht

end Comparison

/-! ## 3. Two bounds that are one value -/

/-- A field asks with an operator for what another field reads, for values of its type and under its
    emptiness policy, neither negated nor by a predicate of its own. -/
structure Field.Asks (op : Operator) (o : Overrides) (d exact : Field) : Prop where
  operator : d.settings.operator = op
  negate : d.settings.negate = false
  own : d.name ∉ o.fields
  type : d.type = exact.type
  path : d.modelPath? = exact.modelPath?
  ignoreIfEmpty : d.settings.ignoreIfEmpty = exact.settings.ignoreIfEmpty

/-- One filter has a lower and an upper bound where the other one has a single value, and they have
    the rest of their fields in common. -/
structure Shape.Pinches (range : Shape) (o : Overrides) (point : Shape) (o' : Overrides)
    (low high exact : Field) (rest : List Field) : Prop where
  rangeNames : range.DistinctNames
  pointNames : point.DistinctNames
  range : range.searched.Perm (low :: high :: rest)
  point : point.searched.Perm (exact :: rest)
  low : low.Asks .greaterOrEqual o exact
  high : high.Asks .lessOrEqual o exact
  exact : exact.Asks .equal o' exact

section Fields

variable {model filter : Shape} {options : Options} {o : Overrides} {r f : Record} {d : Field}

/-- What a field asks of a record, read from its declaration. -/
theorem Field.passes_iff_holds {s : Specification} (hn : filter.DistinctNames)
    (hs : Specification.compile catalog model filter o options = .ok s) (hd : d ∈ filter.searched) :
    d.Passes catalog model options o r f ↔
      (d.settings.ignoreIfEmpty.getD options.ignoreIfEmpty = true ∧
        (Guard.ofType d.type).admits (f.get d.name) = false) ∨
      Xor (d.settings.negate = true) (d.Holds catalog model options (o.get? d.name) r f) := by
  have hmem := (Shape.mem_searched.mp hd).1
  obtain ⟨step, hstep⟩ := Specification.compile_isOk_iff_fieldStep.mp ⟨s, hs⟩ d hd
  have hyields := (fieldStep_eq_ok_iff_yields hn hd).mp hstep
  rw [hyields.passes_iff, ← admits_of_fieldStep hn hmem hstep, ← eval_of_fieldStep hn hmem hstep]
  cases step.admits f <;> simp

/-- What a field asks with an operator that looks at nothing but the two values. -/
theorem Field.holds_iff_of_relates {op : Operator} {P : Value → Value → Prop} (hauto : op ≠ .auto)
    (hop : d.settings.operator = op)
    (hP : ∀ like a b m v, op.Relates like a b m v ↔ P m v) :
    d.Holds catalog model options none r f ↔ ∃ path, d.modelPath? = some path ∧
      (Path.follow? catalog model path.segments).isSome = true ∧
      P (path.access r) (f.get d.name) := by
  have hagainst : ∀ type, d.operatorAgainst type = op := by
    intro type
    unfold operatorAgainst
    rw [hop]
    cases op with
    | auto => exact absurd rfl hauto
    | _ => rfl
  constructor
  · rintro ⟨path, type, crossed, hpath, hfollow, h⟩
    rw [hagainst, hP] at h
    exact ⟨path, hpath, by rw [hfollow]; rfl, h⟩
  · rintro ⟨path, hpath, hfollow, h⟩
    obtain ⟨⟨type, crossed⟩, hfollow⟩ := Option.isSome_iff_exists.mp hfollow
    exact ⟨path, type, crossed, hpath, hfollow, by rwa [hagainst, hP]⟩

/-- What a plain field asks of a record: nothing if its value is empty, under the emptiness policy,
    and otherwise what its operator asks of the value that the other field reads. -/
theorem Field.Asks.passes_iff {s : Specification} {op : Operator} {exact : Field}
    {P : Value → Value → Prop} (h : d.Asks op o exact) (hauto : op ≠ .auto)
    (hP : ∀ like a b m v, op.Relates like a b m v ↔ P m v) (hn : filter.DistinctNames)
    (hs : Specification.compile catalog model filter o options = .ok s) (hd : d ∈ filter.searched) :
    d.Passes catalog model options o r f ↔
      (exact.settings.ignoreIfEmpty.getD options.ignoreIfEmpty = true ∧
        (Guard.ofType exact.type).admits (f.get d.name) = false) ∨
      ∃ path, exact.modelPath? = some path ∧
        (Path.follow? catalog model path.segments).isSome = true ∧
        P (path.access r) (f.get d.name) := by
  have hnone : o.get? d.name = none := by
    rw [← Option.not_isSome_iff_eq_none, ← Overrides.mem_fields_iff]
    exact h.own
  rw [passes_iff_holds hn hs hd, hnone, holds_iff_of_relates hauto h.operator hP, h.type, h.path,
    h.ignoreIfEmpty, h.negate]
  simp [Xor]

end Fields

section Pinch

variable {model range point : Shape} {low high exact : Field} {rest : List Field}
  {options : Options} {o o' : Overrides} {s s' : Specification} {r f f' : Record} {v : Value}

/-- **A record passes two bounds that are one value when it passes the value.** -/
theorem Shape.Pinches.passes_iff (h : range.Pinches o point o' low high exact rest)
    (hs : Specification.compile catalog model range o options = .ok s)
    (hs' : Specification.compile catalog model point o' options = .ok s') (ht : t.IsRanked)
    (hv : Value.Conforms catalog t v) (hlow : f.get low.name = v) (hhigh : f.get high.name = v)
    (hexact : f'.get exact.name = v) :
    (low.Passes catalog model options o r f ∧ high.Passes catalog model options o r f) ↔
      exact.Passes catalog model options o' r f' := by
  have hmem : low ∈ range.searched ∧ high ∈ range.searched := by
    simp [h.range.mem_iff]
  have hmem' : exact ∈ point.searched := by
    simp [h.point.mem_iff]
  rw [h.low.passes_iff (by decide) (fun _ _ _ _ _ => Iff.rfl) h.rangeNames hs hmem.1,
    h.high.passes_iff (by decide) (fun _ _ _ _ _ => Iff.rfl) h.rangeNames hs hmem.2,
    h.exact.passes_iff (by decide) (fun _ _ _ _ _ => Iff.rfl) h.pointNames hs' hmem',
    hlow, hhigh, hexact, ← or_and_left]
  refine or_congr_right ?_
  -- both bounds read the model at one path
  constructor
  · rintro ⟨⟨path, hpath, hfollow, hleast⟩, path', hpath', _, hmost⟩
    cases hpath.symm.trans hpath'
    refine ⟨path, hpath, hfollow, (Value.compare?_eq_iff_sameAs ht hv).mp ?_⟩
    rcases hleast with hgt | heq
    · rw [hgt] at hmost
      simp at hmost
    · exact heq
  · rintro ⟨path, hpath, hfollow, hsame⟩
    have heq := (Value.compare?_eq_iff_sameAs ht hv).mpr hsame
    exact ⟨⟨path, hpath, hfollow, .inr heq⟩, path, hpath, hfollow, .inr heq⟩

/-- **Two bounds that are one value select what the value selects.** -/
theorem Shape.Pinches.filter_eq (h : range.Pinches o point o' low high exact rest)
    (hs : Specification.compile catalog model range o options = .ok s)
    (hs' : Specification.compile catalog model point o' options = .ok s') (ht : t.IsRanked)
    (hv : Value.Conforms catalog t v) (hlow : f.get low.name = v) (hhigh : f.get high.name = v)
    (hexact : f'.get exact.name = v) (hrest : ∀ d ∈ rest, d.SearchedAlike o f o' f')
    (records : List Record) : s.filter records f = s'.filter records f' := by
  rw [s.filter_eq, s'.filter_eq]
  refine List.filter_congr fun r _ => ?_
  rw [Bool.eq_iff_iff, Specification.holds_iff_passes h.rangeNames hs,
    Specification.holds_iff_passes h.pointNames hs']
  simp only [h.range.mem_iff, h.point.mem_iff, List.forall_mem_cons]
  rw [← and_assoc, h.passes_iff hs hs' ht hv hlow hhigh hexact]
  exact and_congr_right fun _ => forall₂_congr fun d hd => (hrest d hd).passes_iff

end Pinch

/-- **The scalar comparisons form one coherent order** of the texts, the times or the whole numbers
    of a declared type: of less, equal and greater exactly one holds, the other two comparisons join
    equality to them, greater is less the other way round, and less or equal is transitive. To be
    less is to come before, and texts are in the order of their bytes in UTF-8, which is that of
    their code points. And a filter with a lower and an upper bound that are one value selects from
    any records what a filter with that value selects. -/
theorem Comparison.coherent (catalog : Catalog) (ht : t.IsRanked) :
    Coherent (Value.Conforms catalog t) ∧
    (∀ {m v : Value}, Value.Conforms catalog t m → Value.Conforms catalog t v →
      (less.eval m v = true ↔ m.Precedes v)) ∧
    (∀ s u : String,
      (less.eval (.text s) (.text u) = true ↔ Text.utf8 s < Text.utf8 u) ∧
      (less.eval (.text s) (.text u) = true ↔ Text.codePoints s < Text.codePoints u)) ∧
    ∀ {model range point : Shape} {low high exact : Field} {rest : List Field} {options : Options}
      {o o' : Overrides} {s s' : Specification}, range.Pinches o point o' low high exact rest →
      Specification.compile catalog model range o options = .ok s →
      Specification.compile catalog model point o' options = .ok s' →
      ∀ {f f' : Record} {bound : Value}, Value.Conforms catalog t bound →
      f.get low.name = bound → f.get high.name = bound → f'.get exact.name = bound →
      (∀ d ∈ rest, d.SearchedAlike o f o' f') →
      ∀ records : List Record, s.filter records f = s'.filter records f' := by
  refine ⟨?coherent, less_iff_precedes ht, fun s u => ?texts,
    fun h hs hs' f f' bound => h.filter_eq hs hs' ht⟩
  case coherent =>
    obtain ⟨α, _, rank, hrank⟩ := FieldType.exists_rankedBy catalog ht
    exact coherent_of_rankedBy hrank
  case texts =>
    have hless : less.eval (.text s) (.text u) = true ↔ Text.codePoints s < Text.codePoints u :=
      @less_iff_precedes catalog .text _ _ trivial (.text s) (.text u)
    exact ⟨by rw [hless, ← Text.lt_iff_codePoints_lt, Text.lt_iff_utf8_lt], hless⟩

namespace Ticket

/-- A least and a most number of votes, and a title. -/
def votesBetween : Shape :=
  ⟨"VotesBetween",
    [⟨"least", .number .u32, ⟨.greaterOrEqual, false, some "votes", false, none⟩⟩,
      ⟨"most", .number .u32, ⟨.lessOrEqual, false, some "votes", false, none⟩⟩,
      ⟨"title", .text, .default⟩]⟩

/-- A number of votes, and a title. -/
def votesExactly : Shape :=
  ⟨"VotesExactly",
    [⟨"votes", .number .u32, ⟨.equal, false, none, false, none⟩⟩, ⟨"title", .text, .default⟩]⟩

/-- Between a number of votes and the same number are the tickets with as many votes. A character
    of the first plane of code points comes before one of the next, however they are written in
    words of 16 bits. -/
theorem coherent_votes :
    (FieldType.number .u32).IsRanked ∧
    Comparison.less.eval (.text "ﬀ") (.text "😀") = true ∧
    (let few := Value.number (.unsigned 3)
     let many := Value.number (.unsigned 4294967295)
     Comparison.less.eval few many = true ∧
       Comparison.greater.eval few many = Comparison.less.eval many few) ∧
    ∃ s s', Specification.compile Ticket.catalog model votesBetween .empty .default = .ok s ∧
      Specification.compile Ticket.catalog model votesExactly .empty .default = .ok s' ∧
      ∀ (votes : UInt64) (title : String) (records : List Record),
        s.filter records ⟨0, true, [("least", .number (.unsigned votes)),
            ("most", .number (.unsigned votes)), ("title", .text title)]⟩ =
          s'.filter records ⟨1, true, [("votes", .number (.unsigned votes)),
            ("title", .text title)]⟩ := by
  have ht : (FieldType.number .u32).IsRanked := nofun
  obtain ⟨hcoherent, hless, htexts, hpinched⟩ := Comparison.coherent Ticket.catalog ht
  have hpinches : votesBetween.Pinches .empty votesExactly .empty
      ⟨"least", .number .u32, ⟨.greaterOrEqual, false, some "votes", false, none⟩⟩
      ⟨"most", .number .u32, ⟨.lessOrEqual, false, some "votes", false, none⟩⟩
      ⟨"votes", .number .u32, ⟨.equal, false, none, false, none⟩⟩
      [⟨"title", .text, .default⟩] :=
    ⟨by decide, by decide, .refl _, .refl _, ⟨rfl, rfl, nofun, rfl, by decide, rfl⟩,
      ⟨rfl, rfl, nofun, rfl, by decide, rfl⟩, ⟨rfl, rfl, nofun, rfl, rfl, rfl⟩⟩
  have hc : ∃ s, Specification.compile Ticket.catalog model votesBetween .empty .default = .ok s :=
    ⟨_, rfl⟩
  have hc' : ∃ s, Specification.compile Ticket.catalog model votesExactly .empty .default = .ok s :=
    ⟨_, rfl⟩
  obtain ⟨s, hs⟩ := hc
  obtain ⟨s', hs'⟩ := hc'
  refine ⟨ht, (htexts _ _).2.mpr (by decide),
    ⟨(hless (.number rfl) (.number rfl)).mpr ⟨3, 4294967295, rfl, rfl, by decide⟩,
      hcoherent.mirrored (.number rfl) (.number rfl)⟩,
    s, s', hs, hs', fun votes title records => ?_⟩
  refine hpinched hpinches hs hs' (.number rfl) rfl rfl rfl ?_ records
  exact List.forall_mem_singleton.mpr ⟨rfl, fun _ => rfl⟩

end Ticket

end Sift
