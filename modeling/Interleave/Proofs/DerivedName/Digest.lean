import Interleave.Proofs.DerivedName
import Interleave.Proofs.Numeral

/-!
# How a digest is written

A digest has 128 bits. In base 35 it is a short word of decimal digits and small letters, which
tells all of them.

* `Md5.digest_lt`: a digest has no more than 128 bits.
* `IsBase35Digit`, `IsNumeral`: a digit, and a text of digits with no superfluous zero in front.
* `eq_base35_iff`: **each number is written as the one numeral that reads back as it.**
* `length_base35_le_iff`: how long the numeral is.
* `digest_written`: **how a digest is written.** Different digests make different names.
-/

namespace Interleave

namespace Md5

theorem length_bytes (s : State) : (bytes s).length = 16 := by
  simp [bytes, littleEndian]

/-- The bytes of a digest are sixteen digits in base 256. -/
theorem digest_lt (message : List UInt8) : digest message < 2 ^ 128 := by
  have hbytes : ∀ s, (bytes s).foldl (fun n b => n * 256 + b.toNat) 0 < 256 ^ 16 := fun s => by
    have hlt : Numeral.value 256 ((bytes s).map UInt8.toNat) <
        256 ^ ((bytes s).map UInt8.toNat).length := by
      refine Numeral.value_lt (by decide) fun d hd => ?_
      obtain ⟨b, -, rfl⟩ := List.mem_map.1 hd
      exact b.toNat_lt
    rwa [List.length_map, length_bytes, Numeral.value, List.foldl_map] at hlt
  rw [show 2 ^ 128 = 256 ^ 16 by decide, digest]
  exact hbytes _

end Md5

namespace DerivedName

variable {n k : ℕ} {c : Char} {text : String}

/-- The digits 0–9 and a–y. -/
def IsBase35Digit (c : Char) : Prop :=
  ('0' ≤ c ∧ c ≤ '9') ∨ ('a' ≤ c ∧ c ≤ 'y')

instance (c : Char) : Decidable (IsBase35Digit c) :=
  inferInstanceAs (Decidable (_ ∨ _))

theorem isBase35Digit_base35Digit : ∀ d < 35, IsBase35Digit (base35Digit d) := by
  decide

/-- No other character is a digit. -/
theorem exists_base35Digit (hc : IsBase35Digit c) : ∃ d < 35, base35Digit d = c := by
  rcases hc with ⟨hlow, hhigh⟩ | ⟨hlow, hhigh⟩
  · have hfirst : 48 ≤ c.toNat := hlow
    have hlast : c.toNat ≤ 57 := hhigh
    refine ⟨c.toNat - 48, by omega, ?_⟩
    rw [base35Digit, if_pos (by omega), show '0'.toNat = 48 from rfl, Nat.add_sub_cancel' hfirst,
      Char.ofNat_toNat]
  · have hfirst : 97 ≤ c.toNat := hlow
    have hlast : c.toNat ≤ 121 := hhigh
    refine ⟨c.toNat - 97 + 10, by omega, ?_⟩
    rw [base35Digit, if_neg (by omega), Nat.add_sub_cancel, show 'a'.toNat = 97 from rfl,
      Nat.add_sub_cancel' hfirst, Char.ofNat_toNat]

theorem base35DigitValue_lt (hc : IsBase35Digit c) : base35DigitValue c < 35 := by
  obtain ⟨d, hd, rfl⟩ := exists_base35Digit hc
  rwa [base35DigitValue_base35Digit d hd]

theorem base35Digit_base35DigitValue (hc : IsBase35Digit c) :
    base35Digit (base35DigitValue c) = c := by
  obtain ⟨d, hd, rfl⟩ := exists_base35Digit hc
  rw [base35DigitValue_base35Digit d hd]

/-- A text of digits, the first of which is not zero unless it is the only one. -/
structure IsNumeral (text : String) : Prop where
  digits : ∀ c ∈ text.toList, IsBase35Digit c
  nonempty : text ≠ ""
  leading : text.toList.head? = some '0' → text = "0"

theorem base35_zero : base35 0 = "0" := by
  rw [base35, Numeral.digits_zero]
  rfl

/-- Only zero is written with a zero in front. -/
theorem head?_base35_eq_zero_iff : (base35 n).toList.head? = some '0' ↔ n = 0 := by
  constructor
  · intro h
    have hdigit : ∀ d < 35, base35Digit d = '0' → d = 0 := by decide
    rw [base35, String.toList_ofList, List.head?_map, Option.map_eq_some_iff] at h
    obtain ⟨d, hd, hzero⟩ := h
    have hlt : d < 35 := Numeral.digits_lt (by decide) d (List.mem_of_mem_head? hd)
    exact Numeral.eq_zero_of_head?_digits (by decide) (hdigit d hlt hzero ▸ hd)
  · rintro rfl
    rw [base35_zero]
    rfl

theorem isNumeral_base35 (n : ℕ) : IsNumeral (base35 n) where
  digits c hc := by
    rw [base35, String.toList_ofList] at hc
    obtain ⟨d, hd, rfl⟩ := List.mem_map.1 hc
    exact isBase35Digit_base35Digit d (Numeral.digits_lt (by decide) d hd)
  nonempty h := by
    have hlist := congrArg String.toList h
    rw [base35, String.toList_ofList] at hlist
    exact Numeral.digits_ne_nil 35 n (List.map_eq_nil_iff.1 hlist)
  leading h := by
    rw [head?_base35_eq_zero_iff.1 h, base35_zero]

/-- A numeral is what its number is written as. -/
theorem base35_base35Value (h : IsNumeral text) : base35 (base35Value text) = text := by
  have hnonempty : text.toList.map base35DigitValue ≠ [] := fun hnil =>
    h.nonempty (String.toList_eq_nil_iff.1 (List.map_eq_nil_iff.1 hnil))
  have hleading : (text.toList.map base35DigitValue).head? = some 0 →
      text.toList.map base35DigitValue = [0] := by
    intro hhead
    rw [List.head?_map, Option.map_eq_some_iff] at hhead
    obtain ⟨c, hc, hzero⟩ := hhead
    -- only the character 0 is worth 0
    have hdigit : base35Digit 0 = c :=
      hzero ▸ base35Digit_base35DigitValue (h.digits c (List.mem_of_mem_head? hc))
    have hfirst : base35Digit 0 = '0' := by decide
    rw [← hdigit, hfirst] at hc
    rw [h.leading hc]
    rfl
  have hdigits : Numeral.digits 35 (base35Value text) = text.toList.map base35DigitValue := by
    refine Numeral.digits_value (by decide) (fun d hd => ?_) hnonempty hleading
    obtain ⟨c, hc, rfl⟩ := List.mem_map.1 hd
    exact base35DigitValue_lt (h.digits c hc)
  have hback : (text.toList.map base35DigitValue).map base35Digit = text.toList := by
    rw [List.map_map]
    refine (List.map_congr_left fun c hc => ?_).trans (List.map_id _)
    exact base35Digit_base35DigitValue (h.digits c hc)
  rw [base35, hdigits, hback, String.ofList_toList]

/-- **Each number is written as the one numeral that reads back as it.** -/
theorem eq_base35_iff : text = base35 n ↔ IsNumeral text ∧ base35Value text = n := by
  constructor
  · rintro rfl
    exact ⟨isNumeral_base35 n, base35Value_base35 n⟩
  · rintro ⟨h, rfl⟩
    exact (base35_base35Value h).symm

theorem length_base35_le_iff (hk : 0 < k) : (base35 n).length ≤ k ↔ n < 35 ^ k := by
  rw [base35, String.length_ofList, List.length_map, Numeral.length_digits_le_iff (by decide) hk]

/-- **How a digest is written.** In digits, 25 at most, with no zero in front unless it is zero
itself. It can be read back, so different digests make different names. -/
theorem digest_written (v : BitVec 128) :
    (∀ c ∈ (base35 v.toNat).toList, IsBase35Digit c) ∧
    (1 ≤ (base35 v.toNat).length ∧ (base35 v.toNat).length ≤ 25) ∧
    ((base35 v.toNat).toList.head? = some '0' ↔ v = 0) ∧
    base35Value (base35 v.toNat) = v.toNat ∧
    (∀ w : BitVec 128, base35 v.toNat = base35 w.toNat ↔ v = w) ∧
    (∀ identity, digest identity < 2 ^ 128) ∧
    ∀ identity identity', ofIdentity identity = ofIdentity identity' ↔
      digest identity = digest identity' := by
  obtain ⟨hnumeral, hvalue⟩ : IsNumeral (base35 v.toNat) ∧ base35Value (base35 v.toNat) = v.toNat :=
    eq_base35_iff.1 rfl
  have hlength : (base35 v.toNat).length ≤ 25 := (length_base35_le_iff (by decide)).2 <| calc
    v.toNat < 2 ^ 128 := v.isLt
    _ < 35 ^ 25 := by decide
  have hzero : v.toNat = (0 : BitVec 128).toNat ↔ v = 0 := BitVec.toNat_inj
  refine ⟨hnumeral.digits, ⟨?_, hlength⟩, head?_base35_eq_zero_iff.trans hzero, hvalue, fun w => ?_,
    fun identity => Md5.digest_lt _, fun identity identity' => ofIdentity_eq_iff_digest⟩
  · rw [← String.length_toList]
    exact List.length_pos_iff.2 fun hnil => hnumeral.nonempty (String.toList_eq_nil_iff.1 hnil)
  · rw [base35_inj, BitVec.toNat_inj]

/-- The largest digest takes up all 25 digits. -/
example : base35 (2 ^ 128 - 1) = "try5wbbiprfp7r727m0oyq2wa" := by cbv

end DerivedName

end Interleave
