import Mathlib.Data.List.Lex
import Mathlib.Data.String.Basic
import Mathlib.Order.Compare
import Sift.Comparison

/-!
# The order of texts

Texts are compared character by character, and characters by their code points. The bytes of the
UTF-8 encoding are in the same order:

* `Text.encode_append_lt` -- the bytes of a character come before those of any greater one, whatever
  follows them;
* `Text.lt_iff_utf8_lt`, `Text.lt_iff_codePoints_lt` -- the order of texts is that of their bytes
  and that of their code points.
-/

namespace Sift

namespace Text

open String

/-- The bytes of a text in UTF-8. -/
def utf8 (s : String) : List UInt8 := s.toUTF8.data.toList

/-- The code points of the characters of a text. -/
def codePoints (s : String) : List Nat := s.toList.map Char.toNat

theorem utf8_eq_flatMap (s : String) : utf8 s = s.toList.flatMap utf8EncodeChar := by
  rw [utf8, toUTF8_eq_toByteArray, ← ofList_toList (s := s), toByteArray_ofList, toList_ofList]
  exact List.toList_data_toByteArray

/-- Bytes that are cut to their range are compared as numbers. -/
theorem cons_lt_cons_iff {a b : Nat} {xs ys : List UInt8} (ha : a < 256) (hb : b < 256) :
    UInt8.ofNat a :: xs < UInt8.ofNat b :: ys ↔ a < b ∨ a = b ∧ xs < ys := by
  rw [List.cons_lt_cons_iff, UInt8.lt_iff_toNat_lt, ← UInt8.toNat_inj, UInt8.toNat_ofNat',
    UInt8.toNat_ofNat', Nat.mod_eq_of_lt ha, Nat.mod_eq_of_lt hb]

/-- Of two numbers the digits to the base 64 are compared first to last, up to the fourth. -/
theorem digits_lt {v w : Nat} (h : v < w) :
    v / 262144 < w / 262144 ∨ v / 262144 = w / 262144 ∧
      (v / 4096 % 64 < w / 4096 % 64 ∨ v / 4096 % 64 = w / 4096 % 64 ∧
        (v / 64 % 64 < w / 64 % 64 ∨ v / 64 % 64 = w / 64 % 64 ∧ v % 64 < w % 64)) := by
  have hlast : v / 64 < w / 64 ∨ v / 64 = w / 64 ∧ v % 64 < w % 64 := by omega
  have hthird : v / 64 < w / 64 → v / 4096 < w / 4096 ∨
      v / 4096 = w / 4096 ∧ v / 64 % 64 < w / 64 % 64 := by omega
  have hsecond : v / 4096 < w / 4096 → v / 262144 < w / 262144 ∨
      v / 262144 = w / 262144 ∧ v / 4096 % 64 < w / 4096 % 64 := by omega
  omega

/-- **The bytes of a character come before those of a greater one**, whatever follows. -/
theorem encode_append_lt {c d : Char} (h : c < d) (xs ys : List UInt8) :
    utf8EncodeChar c ++ xs < utf8EncodeChar d ++ ys := by
  have hlt : c.val.toNat < d.val.toNat := UInt32.lt_iff_toNat_lt.mp h
  have hmax : d.val.toNat < 1114112 := by
    rcases d.valid with hlow | ⟨_, hhigh⟩ <;> omega
  unfold utf8EncodeChar
  generalize c.val.toNat = v at *
  generalize d.val.toNat = w at *
  have hdigits := digits_lt hlt
  have htop : v / 262144 % 8 = v / 262144 := Nat.mod_eq_of_lt (by omega)
  have htop' : w / 262144 % 8 = w / 262144 := Nat.mod_eq_of_lt (by omega)
  -- the leading byte tells the length, and of one length the digits to the base 64 decide
  dsimp only
  split_ifs <;> simp only [List.cons_append, List.nil_append] <;>
    simp (disch := omega) only [cons_lt_cons_iff] <;> omega

/-- The bytes of texts are in the order of their characters. -/
theorem flatMap_encode_lt {cs ds : List Char} (h : cs < ds) :
    cs.flatMap utf8EncodeChar < ds.flatMap utf8EncodeChar := by
  induction cs generalizing ds with
  | nil =>
    cases ds with
    | nil => exact absurd h (lt_irrefl _)
    | cons d ds =>
      rw [List.flatMap_nil, List.flatMap_cons]
      obtain ⟨x, xs, hx⟩ := List.exists_cons_of_ne_nil (utf8EncodeChar_ne_nil (c := d))
      rw [hx]
      exact List.nil_lt_cons _ _
  | cons c cs ih =>
    cases ds with
    | nil => exact absurd h (List.not_lt_nil _)
    | cons d ds =>
      rw [List.flatMap_cons, List.flatMap_cons]
      rcases List.cons_lt_cons_iff.mp h with hlt | ⟨rfl, htail⟩
      · exact encode_append_lt hlt _ _
      · exact List.append_left_lt (ih htail)

/-- **Texts are in the order of their bytes.** -/
theorem lt_iff_utf8_lt {s u : String} : s < u ↔ utf8 s < utf8 u := by
  rw [utf8_eq_flatMap, utf8_eq_flatMap, String.lt_iff_toList_lt]
  refine ⟨flatMap_encode_lt, fun h => ?_⟩
  rcases lt_trichotomy s.toList u.toList with hlt | heq | hgt
  · exact hlt
  · rw [heq] at h
    exact absurd h (List.lt_irrefl _)
  · exact absurd (flatMap_encode_lt hgt) (List.lt_asymm h)

theorem codePoints_strictMono : StrictMono codePoints := fun _ _ h =>
  List.map_lt (fun _ _ h => UInt32.lt_iff_toNat_lt.mp h) (String.lt_iff_toList_lt.mp h)

/-- **Texts are in the order of their code points.** -/
theorem lt_iff_codePoints_lt {s u : String} : s < u ↔ codePoints s < codePoints u :=
  codePoints_strictMono.lt_iff_lt.symm

end Text

end Sift
