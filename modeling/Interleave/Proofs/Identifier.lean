import Interleave.Schema
import Mathlib.Algebra.Group.Int.Defs
import Mathlib.Data.Set.Function
import Mathlib.Tactic.Common

/-!
# Identifiers from counters

Reversal spreads neighbouring counters over the key space. It may not lose any, as rows would
overwrite each other.

* `Strategy.bit`: a bit of a counter or an identifier, the lowest being bit 0. Bit 63 is the sign.
* `Strategy.bit_identifier`: **every bit of an identifier**, from the counter's.
* `Strategy.leftInvOn_identifier`: reversal undoes itself on counters that are not negative.
* `Strategy.identifier_bijOn`: **on these, it neither loses nor repeats an identifier.**
-/

namespace Interleave.Strategy

variable {c d : Int64} {i : Nat}

def bit (i : Nat) (c : Int64) : Bool :=
  c.toBitVec.getLsbD i

theorem ext_bit (h : ∀ i < 64, bit i c = bit i d) : c = d :=
  Int64.toBitVec_inj.1 (BitVec.eq_of_getLsbD_eq h)

theorem nonneg_iff_bit : 0 ≤ c ↔ bit 63 c = false := by
  have hsign : bit 63 c = decide (c.toInt < 0) := by
    rw [bit, ← Int64.toInt_toBitVec, ← BitVec.msb_eq_toInt, BitVec.msb_eq_getLsbD_last]
  rw [hsign, decide_eq_false_iff_not, not_lt, Int64.le_iff_toInt_le, Int64.toInt_zero]

/-- The mask keeps every bit but the sign. -/
theorem bit_maxValue (hi : i < 64) : bit i Int64.maxValue = decide (i < 63) := by
  decide +revert

/-- **Every bit of an identifier.** The low 63 bits are turned around, and the sign is clear. -/
theorem bit_identifier (i : Nat) (c : Int64) :
    bit i (identifier .bitReversed c) = (decide (i < 63) && bit (62 - i) c) := by
  have hmask : Int64.maxValue.toBitVec.getLsbD (62 - i) = decide (62 - i < 63) :=
    bit_maxValue (by omega)
  unfold bit identifier
  rw [Int64.toBitVec_ofBitVec, BitVec.getLsbD_ushiftRight, BitVec.getLsbD_reverse,
    BitVec.getMsbD_eq_getLsbD, BitVec.getLsbD_and]
  by_cases hi : i < 63
  · have hplace : 64 - 1 - (1 + i) = 62 - i := by omega
    rw [hplace, hmask]
    simp only [hi, show 1 + i < 64 by omega, show 62 - i < 63 by omega, decide_true, Bool.true_and,
      Bool.and_true]
  · simp only [hi, show ¬ 1 + i < 64 by omega, decide_false, Bool.false_and]

theorem bit_identifier_of_lt (hi : i < 63) :
    bit i (identifier .bitReversed c) = bit (62 - i) c := by
  rw [bit_identifier, decide_eq_true hi, Bool.true_and]

theorem identifier_nonneg (c : Int64) : 0 ≤ identifier .bitReversed c :=
  nonneg_iff_bit.2 (bit_identifier 63 c)

/-- The sign does not count. -/
theorem identifier_congr (h : ∀ i < 63, bit i c = bit i d) :
    identifier .bitReversed c = identifier .bitReversed d := by
  refine ext_bit fun i _ => ?_
  rw [bit_identifier, bit_identifier, h (62 - i) (by omega)]

/-- Reversal undoes itself. -/
theorem leftInvOn_identifier :
    Set.LeftInvOn (identifier .bitReversed) (identifier .bitReversed) {c | 0 ≤ c} := by
  intro c hc
  refine ext_bit fun i hi => ?_
  by_cases hlow : i < 63
  · rw [bit_identifier_of_lt hlow, bit_identifier_of_lt (by omega), show 62 - (62 - i) = i by omega]
  · obtain rfl : i = 63 := by omega
    rw [bit_identifier, nonneg_iff_bit.1 hc]
    rfl

/-- **No identifier is lost or given twice**, among counters that are not negative. -/
theorem identifier_bijOn : Set.BijOn (identifier .bitReversed) {c | 0 ≤ c} {c | 0 ≤ c} := by
  have hmaps : Set.MapsTo (identifier .bitReversed) {c | 0 ≤ c} {c | 0 ≤ c} :=
    fun c _ => identifier_nonneg c
  exact Set.InvOn.bijOn ⟨leftInvOn_identifier, leftInvOn_identifier⟩ hmaps hmaps

theorem identifier_pos (hc : 0 < c) : 0 < identifier .bitReversed c := by
  have hzero : identifier .bitReversed 0 = 0 := by decide +kernel
  refine Int64.lt_of_le_of_ne (identifier_nonneg c) fun h => ?_
  have hback := leftInvOn_identifier (Int64.le_of_lt hc)
  rw [← h, hzero] at hback
  exact Int64.ne_of_lt hc hback

/-- **What reversal makes of a counter.** The identifier is not negative, its low 63 bits are the
counter's turned around, and the counter's sign does not count. On what is not negative, reversal is
its own inverse, and each identifier belongs to exactly one counter. A positive counter gets a
positive identifier. -/
theorem bitReversed_mirrors (c : Int64) :
    (0 ≤ (identifier .bitReversed c).toInt ∧ (identifier .bitReversed c).toInt < 2 ^ 63) ∧
    (∀ i ≤ 62, bit i (identifier .bitReversed c) = bit (62 - i) c) ∧
    (∀ d, (∀ i < 63, bit i c = bit i d) → identifier .bitReversed c = identifier .bitReversed d) ∧
    Set.LeftInvOn (identifier .bitReversed) (identifier .bitReversed) {c | 0 ≤ c} ∧
    Set.BijOn (identifier .bitReversed) {c | 0 ≤ c} {c | 0 ≤ c} ∧
    Set.MapsTo (identifier .bitReversed) {c | 0 < c} {c | 0 < c} := by
  have hnonneg : 0 ≤ (identifier .bitReversed c).toInt :=
    Int64.le_iff_toInt_le.1 (identifier_nonneg c)
  exact ⟨⟨hnonneg, Int64.toInt_lt _⟩, fun i hi => bit_identifier_of_lt (by omega),
    fun d h => identifier_congr h, leftInvOn_identifier, identifier_bijOn,
    fun c hc => identifier_pos hc⟩

end Interleave.Strategy
