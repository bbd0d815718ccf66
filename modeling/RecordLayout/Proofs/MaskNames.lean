import Mathlib
import RecordLayout.Render.Flags

/-!
# Naming the set bits of a mask

`mask` walks the bit positions of a 64-bit mask from the lowest, names each set bit and clears
it, and stops as soon as the mask is clear.  Stated on its own, the rule is simpler: the names
of the set bits among positions `0 … 63`, in increasing order, joined by ` | `, where bit `i`
is named by `maskLabel`.

* `getLsbD_bit`, `getLsbD_and_bit`, `getLsbD_and_not_bit` and `and_bit_eq_zero_iff`: what
  testing and clearing one bit of a `UInt64` does to each bit.
* `maskLoop_eq_filter` is the loop invariant: from position `i` on, the walk names the set bits
  of what is left of the mask.  Stopping early loses nothing, since a clear mask has no set bit
  left, and clearing a named bit does not change the bits above it.
* **`mask_names_set_bits`**: the whole rule, for every number (bits above 63 are never read).
-/

namespace RecordLayout

/-- **The text of bit `i`** under the mask rule: the `i`-th name when there is one and it is not
empty, else `0x` and the lower-case hexadecimal digits of `2 ^ i`. -/
def maskLabel (names : List String) (i : Nat) : String :=
  if names.getD i "" ≠ "" then names.getD i ""
  else "0x" ++ String.ofList (Nat.toDigits 16 (2 ^ i))

lemma bitName_eq_maskLabel (names : List String) (i : Nat) :
    bitName names i = maskLabel names i := by
  cases h : names[i]? with
  | none => simp [bitName, maskLabel, h, List.getD_eq_getElem?_getD, Text.hex]
  | some n =>
    by_cases hn : n = ""
    · simp [bitName, maskLabel, h, hn, List.getD_eq_getElem?_getD, Text.hex]
    · simp [bitName, maskLabel, h, hn, List.getD_eq_getElem?_getD]

section Bits

variable (m : UInt64) {i : Nat} (hi : i < 64)
include hi

/-- The loop's shift amount, taken modulo 64 by the shift, is the position itself. -/
lemma shiftAmount_toNat : (i.toUInt64.toBitVec % 64).toNat = i := by
  have hnat : i.toUInt64.toNat = i := UInt64.toNat_ofNat_of_lt' (by simp only [UInt64.size]; omega)
  simp only [BitVec.toNat_umod, UInt64.toNat_toBitVec, hnat,
    show (64 : BitVec 64).toNat = 64 from rfl]
  omega

/-- The loop's one-bit mask `1 <<< i` has bit `i` alone. -/
lemma getLsbD_bit (j : Nat) : (1 <<< i.toUInt64 : UInt64).toBitVec.getLsbD j = decide (j = i) := by
  simp only [UInt64.toBitVec_shiftLeft, BitVec.shiftLeft_eq', shiftAmount_toNat hi,
    BitVec.getLsbD_shiftLeft, UInt64.toBitVec_one, BitVec.getLsbD_one]
  by_cases hji : j = i
  · subst hji
    simp [hi]
  · simp only [hji, decide_false]
    by_cases hlt : j < i
    · simp [hlt]
    · simp only [hlt, decide_false, Bool.not_false, Bool.and_true, Bool.and_eq_false_iff,
        decide_eq_false_iff_not]
      omega

/-- Bit `j` of the mask under bit `i` alone. -/
lemma getLsbD_and_bit (j : Nat) :
    (m &&& 1 <<< i.toUInt64).toBitVec.getLsbD j = (m.toBitVec.getLsbD j && decide (j = i)) := by
  rw [UInt64.toBitVec_and, BitVec.getLsbD_and, getLsbD_bit hi]

/-- Bit `j` of the mask with bit `i` cleared. -/
lemma getLsbD_and_not_bit (j : Nat) :
    (m &&& ~~~(1 <<< i.toUInt64)).toBitVec.getLsbD j =
      (m.toBitVec.getLsbD j && decide (j ≠ i)) := by
  rw [UInt64.toBitVec_and, UInt64.toBitVec_not, BitVec.getLsbD_and, BitVec.getLsbD_not,
    getLsbD_bit hi]
  by_cases hj : j < 64
  · simp [hj]
  · simp [BitVec.getLsbD_of_ge m.toBitVec j (by omega)]

/-- The loop's test of bit `i`. -/
lemma and_bit_eq_zero_iff : m &&& 1 <<< i.toUInt64 = 0 ↔ m.toBitVec.getLsbD i = false := by
  constructor
  · intro h
    have hbit := getLsbD_and_bit m hi i
    rw [h] at hbit
    simpa using hbit.symm
  · intro h
    refine UInt64.toBitVec_inj.1 (BitVec.eq_of_getLsbD_eq fun j _ => ?_)
    rw [getLsbD_and_bit m hi]
    by_cases hji : j = i
    · simp [hji, h]
    · simp [hji]

end Bits

/-- **Loop invariant**: from position `i`, with `k` positions left and within the 64 bits, the
walk names the set bits of the mask among those positions, lowest first. -/
lemma maskLoop_eq_filter (names : List String) (k : Nat) :
    ∀ (i : Nat) (m : UInt64), i + k ≤ 64 →
      maskLoop names k i m =
        ((List.range' i k).filter fun j => m.toBitVec.getLsbD j).map (bitName names) := by
  induction k with
  | zero => intro i m _; simp [maskLoop]
  | succ k ih =>
    intro i m hik
    have hi : i < 64 := by omega
    rw [maskLoop, List.range'_succ]
    by_cases hm : m = 0
    · -- a clear mask has no set bit left: stopping early loses nothing
      simp [hm]
    · simp only [hm, if_false]
      by_cases hb : m.toBitVec.getLsbD i = true
      · -- bit `i` is named and cleared; the bits above it are unchanged
        have hne : ¬(m &&& 1 <<< i.toUInt64 = 0) := by
          simp [and_bit_eq_zero_iff m hi, hb]
        have habove : ∀ j ∈ List.range' (i + 1) k,
            (m &&& ~~~(1 <<< i.toUInt64)).toBitVec.getLsbD j = m.toBitVec.getLsbD j := by
          intro j hj
          have hji : j ≠ i := by
            rw [List.mem_range'_1] at hj
            omega
          rw [getLsbD_and_not_bit m hi j]
          simp [hji]
        rw [if_neg hne, ih (i + 1) _ (by omega), List.filter_cons_of_pos hb, List.map_cons,
          List.filter_congr habove]
      · have hz : m &&& 1 <<< i.toUInt64 = 0 := by
          rw [and_bit_eq_zero_iff m hi]
          simpa using hb
        rw [if_pos hz, ih (i + 1) m (by omega), List.filter_cons_of_neg hb]

/-- **The names of a mask's set bits**: among the positions `0 … 63`, those set in the mask, in
increasing order, each named by `maskLabel`, joined by ` | `. -/
theorem mask_names_set_bits (bits : Nat) (names : List String) :
    mask bits names = " | ".intercalate
      (((List.range 64).filter fun i => bits.testBit i).map (maskLabel names)) := by
  have hbits : ∀ j ∈ List.range' 0 64,
      (bits.toUInt64).toBitVec.getLsbD j = bits.testBit j := by
    intro j hj
    rw [List.mem_range'_1] at hj
    rw [Nat.toUInt64_eq, UInt64.toBitVec_ofNat', BitVec.getLsbD_ofNat]
    simp [show j < 64 by omega]
  rw [mask, maskLoop_eq_filter names 64 0 _ le_rfl, List.range_eq_range', List.filter_congr hbits,
    List.map_congr_left fun i _ => bitName_eq_maskLabel names i]

/-- Unnamed bits and bits past the names are shown in hexadecimal. -/
example : mask 0b1010 ["READ", "", "EXEC"] = "0x2 | 0x8" := by decide

end RecordLayout
