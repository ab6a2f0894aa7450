import Mathlib.Data.List.Induction
import Sift.Proofs.Amounts
import Sift.Proofs.Conformance
import Sift.Proofs.Exposure

/-!
# Declared types and run-time values

The type a field is declared with and the value it has at run time are made by two separate
functions of how the field is stored. Nothing that is checked before a search is worth anything
unless the two agree. This file says that they do, for every storage, however deep it is nested.

* `Datum.StoredAs` -- something can be stored in a field of some storage;
* `Value.Shows` -- a value shows what is stored: the class is the same, numbers keep their amount,
  an absent value stands only where there is an option, and a record shows what stands in each
  exposed field;
* `Value.Shows.conforms` -- a value that shows what is stored is one of the declared type;
* `Datum.lower_conforms` -- the main statement.
-/

namespace Sift

/-! ## 1. What can be stored -/

/-- The bits an integer of a kind takes. Sizes take as many as an address. -/
def NumberKind.width : NumberKind → Nat
  | .i8 | .u8 => 8
  | .i16 | .u16 => 16
  | .i32 | .u32 | .f32 => 32
  | .i64 | .u64 | .isize | .usize | .f64 => 64

/-- The integers of a kind. -/
def NumberKind.Holds (k : NumberKind) (n : Int) : Prop :=
  match k.numberClass with
  | .signed => -2 ^ (k.width - 1) ≤ n ∧ n < 2 ^ (k.width - 1)
  | .unsigned => 0 ≤ n ∧ n < 2 ^ k.width
  | .float => False

/-- A moment in a year in which dates can be written. -/
def Moment.CanBeWritten (m : Moment) : Prop :=
  m.IsValid ∧ Calendar.dayNumber Calendar.firstYear 1 1 ≤ m.day ∧
    m.day ≤ Calendar.dayNumber Calendar.lastYear 12 31

/-- Something can be stored in a field of some storage, where `declared` are the fields of each
    record type. A set is given by its elements, however often and in whatever order. -/
inductive Datum.StoredAs (declared : TypeName → List (DeclaredField Storage)) :
    Storage → Datum → Prop where
  | text (t : String) : StoredAs declared .text (.text t)
  | bool (b : Bool) : StoredAs declared .bool (.bool b)
  | integer {k : NumberKind} {n : Int} (h : k.Holds n) : StoredAs declared (.number k) (.integer n)
  | float32 (bits : UInt32) : StoredAs declared (.number .f32) (.float32 bits)
  | float64 (x : Binary64) : StoredAs declared (.number .f64) (.float64 x)
  | timestamp (t : Timestamp) : StoredAs declared .timestamp (.timestamp t)
  | dateTime {m : Moment} (h : m.CanBeWritten) : StoredAs declared .dateTime (.moment m)
  | date {m : Moment} (h : m.CanBeWritten) (hmidnight : m.second = 0 ∧ m.nanos = 0) :
      StoredAs declared .date (.moment m)
  | variant (name : TypeName) {index : Nat} (h : index < UInt32.size) :
      StoredAs declared (.enum name) (.variant index)
  | unset (s : Storage) : StoredAs declared (.option s) .missing
  | some {s : Storage} {x : Datum} (h : StoredAs declared s x) : StoredAs declared (.option s) x
  | box {s : Storage} {x : Datum} (h : StoredAs declared s x) : StoredAs declared (.box s) x
  | list {s : Storage} {elements : List Datum} (h : ∀ x ∈ elements, StoredAs declared s x) :
      StoredAs declared (.list s) (.items elements)
  | set {s : Storage} {elements : List Datum} (h : ∀ x ∈ elements, StoredAs declared s x) :
      StoredAs declared (.set s) (.items elements)
  | object {n : TypeName} {held : List (String × Datum)} (identity : Nat)
      (hheld : held.map (·.1) = (declared n).map (·.name))
      (h : ∀ f ∈ DeclaredField.shown (declared n), ∀ x, (f.name, x) ∈ held →
        StoredAs declared f.type x) :
      StoredAs declared (.record n) (.object identity held)

/-! ## 2. What a value shows -/

/-- A value shows what is stored in a field of some storage. A list shows its elements one by one, a
    set each of its elements once, in some order. -/
inductive Value.Shows (exposure : Exposure) : Storage → Datum → Value → Prop where
  | text (t : String) : Shows exposure .text (.text t) (.text t)
  | bool (b : Bool) : Shows exposure .bool (.bool b) (.bool b)
  | integer {k : NumberKind} {z : Int} {n : Number} (hclass : n.numberClass = k.numberClass)
      (hamount : n.amount = .finite z) : Shows exposure (.number k) (.integer z) (.number n)
  | float32 {bits : UInt32} {x : Binary64} (hamount : x.amount = .ofBinary32 bits) :
      Shows exposure (.number .f32) (.float32 bits) (.number (.float x))
  | float64 (x : Binary64) : Shows exposure (.number .f64) (.float64 x) (.number (.float x))
  | timestamp (t : Timestamp) : Shows exposure .timestamp (.timestamp t) (.timestamp t)
  | dateTime {m : Moment} {t : Timestamp} (h : t.millis.toInt = m.millis) :
      Shows exposure .dateTime (.moment m) (.timestamp t)
  | date {m : Moment} {t : Timestamp} (h : t.millis.toInt = m.millis) :
      Shows exposure .date (.moment m) (.timestamp t)
  | variant (name : TypeName) {index : Nat} {i : UInt32} (h : i.toNat = index) :
      Shows exposure (.enum name) (.variant index) (.enum i)
  | unset (s : Storage) : Shows exposure (.option s) .missing .absent
  | some {s : Storage} {x : Datum} {v : Value} (h : Shows exposure s x v) :
      Shows exposure (.option s) x v
  | box {s : Storage} {x : Datum} {v : Value} (h : Shows exposure s x v) :
      Shows exposure (.box s) x v
  | list {s : Storage} {shown : List (Datum × Value)}
      (h : ∀ p ∈ shown, Shows exposure s p.1 p.2) :
      Shows exposure (.list s) (.items (shown.map (·.1))) (.list (shown.map (·.2)))
  | set {s : Storage} {elements : List Datum} {shown : List (Datum × Value)}
      (h : ∀ p ∈ shown, Shows exposure s p.1 p.2) (honce : (shown.map (·.1)).Nodup)
      (hall : ∀ x, x ∈ shown.map (·.1) ↔ x ∈ elements) :
      Shows exposure (.set s) (.items elements) (.list (shown.map (·.2)))
  | object {n : TypeName} {identity : Nat} {held : List (String × Datum)} {r : Record}
      (hidentity : r.identity = identity)
      (hbehind : ∀ e ∈ exposure n, e.source ∈ held.map (·.1))
      (h : ∀ e ∈ exposure n, ∀ x, (e.source, x) ∈ held → Shows exposure e.type x (r.get e.name))
      (hothers : ∀ name, name ∉ (exposure n).map (·.name) → r.get name = .absent) :
      Shows exposure (.record n) (.object identity held) (.record r)

namespace Library

/-- The library exposes what the declarations of its record types say. -/
structure Declares (l : Library) (declared : TypeName → List (DeclaredField Storage)) : Prop where
  exposed : ∀ n, ExposedField.ofFields ((declared n).map .ok) = .ok (l.exposure n)
  names : ∀ n, ((declared n).map (·.name)).Nodup

/-- The shape of a record type lists its exposed fields with the types they are declared with. -/
theorem fields_of_shapes (l : Library) (n : TypeName) :
    (Catalog.ofList l.shapes n).fields =
      (l.exposure n).map fun e => ⟨e.name, e.type.fieldType, e.settings⟩ := by
  unfold Catalog.ofList exposure shapes
  induction l with
  | nil => rfl
  | cons entry rest ih =>
    obtain ⟨m, fields⟩ := entry
    rw [List.map_cons, List.lookup_cons, List.lookup_cons]
    cases n == m with
    | true =>
      show (Shape.ofExposed _ _).fields = _
      unfold Shape.ofExposed
      rw [List.map_map]
      rfl
    | false => exact ih

end Library

/-- **A value that shows what is stored is one of the type the field is declared with.** -/
theorem Value.Shows.conforms {l : Library} {s : Storage} {x : Datum} {v : Value}
    (h : v.Shows l.exposure s x) : v.Conforms (Catalog.ofList l.shapes) s.fieldType := by
  induction h with
  | text t => exact .text t
  | bool b => exact .bool b
  | integer hclass _ => exact .number hclass
  | float32 _ => exact .number rfl
  | float64 _ => exact .number rfl
  | timestamp t => exact .timestamp t
  | dateTime _ => exact .timestamp _
  | date _ => exact .timestamp _
  | variant name _ => exact .enum name _
  | unset s => exact .unset _
  | some _ ih => exact .set ih
  | box _ ih => exact ih
  | list _ ih => exact .list (List.forall_mem_map.mpr ih)
  | set _ _ _ ih => exact .list (List.forall_mem_map.mpr ih)
  | object _ hbehind _ _ ih =>
    refine .record ?_
    rw [Library.fields_of_shapes, List.forall_mem_map]
    intro e he
    obtain ⟨⟨_, x⟩, hx, rfl⟩ := List.mem_map.mp (hbehind e he)
    exact ih e he x hx

/-! ## 3. Numbers and times -/

theorem NumberKind.width_le (k : NumberKind) : k.width ≤ 64 := by
  cases k <;> decide

/-- **An integer keeps its amount**, in the representation its kind takes. -/
theorem Value.ofInteger_eq {k : NumberKind} {z : Int} (h : k.Holds z) :
    ∃ n : Number, Value.ofInteger k z = .number n ∧ n.numberClass = k.numberClass ∧
      n.amount = .finite z := by
  have hwidth := k.width_le
  unfold NumberKind.Holds at h
  unfold Value.ofInteger
  cases hclass : k.numberClass with
  | signed =>
    rw [hclass] at h
    have hpower : (2 : Int) ^ (k.width - 1) ≤ 2 ^ 63 :=
      pow_le_pow_right₀ (by decide) (by omega)
    have hleast : -2 ^ 63 ≤ z := (neg_le_neg hpower).trans h.1
    refine ⟨.signed (Int64.ofInt z), rfl, rfl, ?_⟩
    show Amount.finite ((Int64.ofInt z).toInt : ℚ) = _
    rw [Int64.toInt_ofInt_of_le hleast (h.2.trans_le hpower)]
  | unsigned =>
    rw [hclass] at h
    have hpower : (2 : Int) ^ k.width ≤ 2 ^ 64 := pow_le_pow_right₀ (by decide) hwidth
    have hgreatest : z < 18446744073709551616 := h.2.trans_le hpower
    have hsize : z.toNat < UInt64.size := by
      show z.toNat < 18446744073709551616
      omega
    have hnat : (UInt64.ofNat z.toNat).toNat = z.toNat := UInt64.toNat_ofNat_of_lt hsize
    refine ⟨.unsigned (UInt64.ofNat z.toNat), rfl, rfl, ?_⟩
    show Amount.finite ((UInt64.ofNat z.toNat).toNat : ℚ) = _
    rw [hnat, ← Int.cast_natCast, Int.toNat_of_nonneg h.1]
  | float =>
    rw [hclass] at h
    exact h.elim

/-- A moment whose date can be written is counted in milliseconds without loss. -/
theorem Moment.toInt_millis {m : Moment} (h : m.CanBeWritten) :
    (Int64.ofInt m.millis).toInt = m.millis := by
  obtain ⟨⟨hsecond, hnanos⟩, hfirst, hlast⟩ := h
  have hfirst : -96465292 ≤ m.day := hfirst
  have hlast : m.day ≤ 95026236 := hlast
  have hfraction : m.nanos / 1000000 < 2000 := by omega
  have hleast : -9223372036854775808 ≤ m.millis := by
    unfold millis
    omega
  have hgreatest : m.millis < 9223372036854775808 := by
    unfold millis
    omega
  exact Int64.toInt_ofInt_of_le hleast hgreatest

/-! ## 4. Sets -/

namespace Datum

mutual

/-- The comparison of data is equality. -/
theorem same_iff (a b : Datum) : a.same b = true ↔ a = b := by
  cases a with
  | items as =>
    cases b with
    | items bs => simp [same, allSame_iff as bs]
    | _ => simp [same]
  | object i as =>
    cases b with
    | object j bs => simp [same, fieldsSame_iff as bs]
    | _ => simp [same]
  | _ => cases b <;> simp [same]

theorem allSame_iff (as bs : List Datum) : allSame as bs = true ↔ as = bs := by
  cases as with
  | nil => cases bs <;> simp [allSame]
  | cons a as =>
    cases bs with
    | nil => simp [allSame]
    | cons b bs => simp [allSame, same_iff a b, allSame_iff as bs]

theorem fieldsSame_iff (as bs : List (String × Datum)) : fieldsSame as bs = true ↔ as = bs := by
  cases as with
  | nil => cases bs <;> simp [fieldsSame]
  | cons a as =>
    obtain ⟨m, a⟩ := a
    cases bs with
    | nil => simp [fieldsSame]
    | cons b bs =>
      obtain ⟨n, b⟩ := b
      simp [fieldsSame, same_iff a b, fieldsSame_iff as bs]

end

theorem perm_insertOrdered (x : Datum × Value) (ys : List (Datum × Value)) :
    (insertOrdered x ys).Perm (x :: ys) := by
  induction ys with
  | nil => exact .refl _
  | cons y rest ih =>
    unfold insertOrdered
    split
    · exact .refl _
    · exact (ih.cons y).trans (.swap x y rest)

/-- **Each element of a set is kept once, with its value**, and nothing else is. -/
theorem collected_spec (pairs : List (Datum × Value)) :
    (∀ p ∈ collected pairs, p ∈ pairs) ∧ ((collected pairs).map (·.1)).Nodup ∧
      ∀ x, x ∈ (collected pairs).map (·.1) ↔ x ∈ pairs.map (·.1) := by
  induction pairs using List.reverseRecOn with
  | nil => exact ⟨fun p hp => hp, List.nodup_nil, fun x => Iff.rfl⟩
  | append_singleton pairs p ih =>
    obtain ⟨hmem, honce, hall⟩ := ih
    have hcollected : collected (pairs ++ [p]) =
        if (collected pairs).any (·.1.same p.1) then collected pairs
        else insertOrdered p (collected pairs) := List.foldl_concat ..
    have hseen : (collected pairs).any (·.1.same p.1) = true ↔
        p.1 ∈ (collected pairs).map (·.1) := by
      simp only [List.any_eq_true, same_iff, List.mem_map]
    rw [hcollected]
    by_cases hp : p.1 ∈ (collected pairs).map (·.1)
    · rw [if_pos (hseen.mpr hp)]
      refine ⟨fun q hq => List.mem_append_left _ (hmem q hq), honce, fun x => ?_⟩
      rw [List.map_append, List.mem_append, ← hall x, List.map_singleton, List.mem_singleton]
      exact ⟨.inl, fun h => h.elim id fun hx => hx ▸ hp⟩
    · rw [if_neg (mt hseen.mp hp)]
      have hperm := perm_insertOrdered p (collected pairs)
      refine ⟨fun q hq => ?_, ?_, fun x => ?_⟩
      · rcases List.mem_cons.mp (hperm.mem_iff.mp hq) with rfl | hq
        · exact List.mem_append_right _ (List.mem_singleton_self q)
        · exact List.mem_append_left _ (hmem q hq)
      · rw [(hperm.map _).nodup_iff, List.map_cons]
        exact List.nodup_cons.mpr ⟨hp, honce⟩
      · rw [(hperm.map _).mem_iff, List.map_cons, List.mem_cons, hall x, List.map_append,
          List.mem_append, List.map_singleton, List.mem_singleton]
        exact or_comm

end Datum

/-! ## 5. Lowering -/

namespace Datum

variable {exposure : Exposure} {s : Storage} {x : Datum}

/-- An option does not show in the value. -/
theorem lower_option (exposure : Exposure) (s : Storage) (x : Datum) :
    x.lower exposure (.option s) = x.lower exposure s := by
  cases x <;> rfl

/-- A box does not show in the value. -/
theorem lower_box (exposure : Exposure) (s : Storage) (x : Datum) :
    x.lower exposure (.box s) = x.lower exposure s := by
  cases x <;> rfl

theorem lowerAll_eq_map (exposure : Exposure) (s : Storage) (elements : List Datum) :
    lowerAll exposure s elements = elements.map (·.lower exposure s) := by
  induction elements with
  | nil => rfl
  | cons x rest ih => rw [lowerAll, ih, List.map_cons]

/-- Elements and their values, side by side. -/
theorem exists_shown {elements : List Datum}
    (h : ∀ x ∈ elements, (x.lower exposure s).Shows exposure s x) :
    ∃ shown : List (Datum × Value), (∀ p ∈ shown, p.2.Shows exposure s p.1) ∧
      shown.map (·.1) = elements ∧ shown.map (·.2) = lowerAll exposure s elements := by
  refine ⟨elements.map fun x => (x, x.lower exposure s), List.forall_mem_map.mpr h, ?_, ?_⟩
  · rw [List.map_map]
    exact List.map_id elements
  · rw [List.map_map, lowerAll_eq_map]
    rfl

/-- **Lowering shows what is stored.** -/
theorem StoredAs.shows {l : Library} {declared : TypeName → List (DeclaredField Storage)}
    (hl : l.Declares declared) (hx : x.StoredAs declared s) :
    (x.lower l.exposure s).Shows l.exposure s x := by
  induction hx with
  | text t => exact .text t
  | bool b => exact .bool b
  | integer h =>
    obtain ⟨n, hn, hclass, hamount⟩ := Value.ofInteger_eq h
    show (Value.ofInteger _ _).Shows _ _ _
    rw [hn]
    exact .integer hclass hamount
  | float32 bits => exact .float32 (Binary64.amount_ofBinary32 bits)
  | float64 x => exact .float64 x
  | timestamp t => exact .timestamp t
  | dateTime h => exact .dateTime (Moment.toInt_millis h)
  | date h _ => exact .date (Moment.toInt_millis h)
  | variant name h => exact .variant name (UInt32.toNat_ofNat_of_lt h)
  | unset s => exact .unset s
  | some _ ih =>
    rw [lower_option]
    exact .some ih
  | box _ ih =>
    rw [lower_box]
    exact .box ih
  | list _ ih =>
    obtain ⟨shown, hshown, rfl, hvalues⟩ := exists_shown ih
    show (Value.list (lowerAll _ _ _)).Shows _ _ _
    rw [← hvalues]
    exact .list hshown
  | set _ ih =>
    obtain ⟨pairs, hpairs, rfl, hvalues⟩ := exists_shown ih
    have hzip : (pairs.map (·.1)).zip (pairs.map (·.2)) = pairs :=
      (List.zip_of_prod rfl rfl).symm
    show (Value.list ((collected (List.zip _ (lowerAll _ _ _))).map (·.2))).Shows _ _ _
    rw [← hvalues, hzip]
    obtain ⟨hmem, honce, hall⟩ := collected_spec pairs
    exact .set (fun p hp => hpairs p (hmem p hp)) honce hall
  | @object n held identity hheld _ ih =>
    obtain ⟨hexposure, hnames, _⟩ := ExposedField.ofFields_eq_ok_iff.mp (hl.exposed n)
    have hfrom : ExposedField.ReadFrom (l.exposure n) held := by
      rw [hexposure]
      exact ExposedField.readFrom_shown hnames (hl.names n) hheld
    have hfields : ∀ e ∈ l.exposure n, ∀ y, (e.source, y) ∈ held →
        (y.lower l.exposure e.type).Shows l.exposure e.type y := by
      rw [hexposure]
      exact List.forall_mem_map.mpr ih
    show (Value.record ⟨identity, true, lowerFields l.exposure (l.exposure n) held⟩).Shows _ _ _
    refine .object rfl hfrom.behind (fun e he y hy => ?_) fun name hname => ?_
    · show (Record.valueIn _ e.name).Shows _ _ _
      rw [hfrom.valueIn_eq he hy]
      exact hfields e he y hy
    · exact hfrom.valueIn_eq_absent hname

/-- **Declared type and run-time value agree.** What a field has at run time shows what is stored in
    it and is a value of the type it is declared with, for every storage and everything that can be
    stored, where the library exposes what the declarations of the record types say. -/
theorem lower_conforms {l : Library} {declared : TypeName → List (DeclaredField Storage)}
    (hl : l.Declares declared) (hx : x.StoredAs declared s) :
    (x.lower l.exposure s).Conforms (Catalog.ofList l.shapes) s.fieldType ∧
      (x.lower l.exposure s).Shows l.exposure s x :=
  ⟨(hx.shows hl).conforms, hx.shows hl⟩

end Datum

namespace Note

/-- The fields of a note: it may be due on a day, and it may belong to another note. -/
def fields : List (DeclaredField Storage) :=
  [⟨"title", .text, .empty⟩,
    ⟨"marks", .set (.number .i8), { Attributes.empty with rename := some "scores" }⟩,
    ⟨"weight", .number .f32, .empty⟩,
    ⟨"due", .option .date, .empty⟩,
    ⟨"draft", .bool, { Attributes.empty with skip := true }⟩,
    ⟨"parent", .option (.box (.record ⟨"Note"⟩)), .empty⟩]

def fieldsOf (n : TypeName) : List (DeclaredField Storage) :=
  if n = ⟨"Note"⟩ then fields else []

def library : Library := [(⟨"Note"⟩, (DeclaredField.shown fields).map (·.exposed))]

/-- A note of weight one and a half that is due on the second day. -/
def held : List (String × Datum) :=
  [("title", .text "call back"), ("marks", .items [.integer 5, .integer (-3), .integer 5]),
    ("weight", .float32 1069547520), ("due", .moment ⟨1, 0, 0⟩), ("draft", .bool true),
    ("parent", .missing)]

theorem library_declares : library.Declares fieldsOf := by
  constructor
  · intro n
    rw [ExposedField.ofFields_eq_ok_iff]
    by_cases hn : n = ⟨"Note"⟩
    · subst hn
      exact ⟨rfl, by decide, by decide +kernel⟩
    · have hother : (n == (⟨"Note"⟩ : TypeName)) = false := beq_eq_false_iff_ne.mpr hn
      have hnone : library.exposure n = [] := by
        simp [Library.exposure, library, List.lookup_cons, hother]
      simp [hnone, fieldsOf, hn, DeclaredField.shown]
  · intro n
    unfold fieldsOf
    split
    · decide
    · exact List.nodup_nil

/-- What is held can be stored in the fields of a note. -/
theorem object_storedAs :
    (Datum.object 0 held).StoredAs fieldsOf (.record ⟨"Note"⟩) := by
  refine .object 0 rfl ?_
  refine List.forall_mem_cons.mpr ⟨?title, List.forall_mem_cons.mpr ⟨?marks,
    List.forall_mem_cons.mpr ⟨?weight, List.forall_mem_cons.mpr ⟨?due,
      List.forall_mem_singleton.mpr ?parent⟩⟩⟩⟩
  case title =>
    intro x hx
    obtain rfl : x = .text "call back" := by simpa [held] using hx
    exact .text "call back"
  case marks =>
    intro x hx
    obtain rfl : x = .items [.integer 5, .integer (-3), .integer 5] := by simpa [held] using hx
    have hall : ∀ y ∈ [Datum.integer 5, .integer (-3), .integer 5],
        y.StoredAs fieldsOf (.number .i8) := by
      refine List.forall_mem_cons.mpr ⟨?five, List.forall_mem_cons.mpr
        ⟨?three, List.forall_mem_singleton.mpr ?five⟩⟩
      case five => exact .integer (And.intro (by decide) (by decide))
      case three => exact .integer (And.intro (by decide) (by decide))
    exact .set hall
  case weight =>
    intro x hx
    obtain rfl : x = .float32 1069547520 := by simpa [held] using hx
    exact .float32 _
  case due =>
    intro x hx
    obtain rfl : x = .moment ⟨1, 0, 0⟩ := by simpa [held] using hx
    exact .some (.date (And.intro (by decide) (by decide)) ⟨rfl, rfl⟩)
  case parent =>
    intro x hx
    obtain rfl : x = .missing := by simpa [held] using hx
    exact .unset _

/-- The value of the note is a record of its type, which holds its marks once each, in order, under
    the name of scores, and the weight as the wide number it is. -/
theorem lower_conforms_note :
    library.Declares fieldsOf ∧ (Datum.object 0 held).StoredAs fieldsOf (.record ⟨"Note"⟩) ∧
    ∃ r : Record, (Datum.object 0 held).lower library.exposure (.record ⟨"Note"⟩) = .record r ∧
      r.get "scores" = .list [.number (.signed (-3)), .number (.signed 5)] ∧
      r.get "weight" = .number (.float ⟨0x3FF8000000000000⟩) ∧
      (Value.record r).Conforms (Catalog.ofList library.shapes) (.record ⟨"Note"⟩) ∧
      (Value.record r).Shows library.exposure (.record ⟨"Note"⟩) (.object 0 held) := by
  refine ⟨library_declares, object_storedAs, _, rfl, rfl, rfl, ?_⟩
  exact Datum.lower_conforms library_declares object_storedAs

end Note

end Sift
