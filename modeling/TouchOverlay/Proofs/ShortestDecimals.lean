import TouchOverlay.Numeric.Style
import TouchOverlay.Proofs.Rounding

/-!
# Shortest decimals read back

The magnitude of a decimal is its value, rounded once (`Decimal.doubleMagnitude_eq`): what the
cutoffs leave out rounds to zero or to infinity anyway. So decimals of one value have one magnitude,
and the decimal that is written for a magnitude reads back as it (`doubleMagnitude_shortest`), be it
one of a grid without its last zeros or all digits of the number.
-/

namespace TouchOverlay.Numeric

namespace Decimal
variable {d d' : Decimal}

/-- The number without its sign. -/
def absValue (d : Decimal) : ℚ := d.digits * 10 ^ d.exponent

theorem digits_lt (n : Nat) : n < 10 ^ (n.log2 / 3 + 1) :=
  calc n < 2 ^ (n.log2 + 1) := Nat.lt_log2_self
    _ ≤ 2 ^ (3 * (n.log2 / 3 + 1)) := Nat.pow_le_pow_right two_pos (by omega)
    _ = 8 ^ (n.log2 / 3 + 1) := Nat.pow_mul 2 3 _
    _ ≤ 10 ^ (n.log2 / 3 + 1) := Nat.pow_le_pow_left (by omega) _

/-- A power of ten beyond the cutoff is far beyond the range of the format. -/
theorem two_zpow_le_ten_zpow : (2 : ℚ) ^ (1200 : Int) ≤ 10 ^ cutoff := by
  have h : (2 : ℚ) ^ 1200 = 8 ^ 400 := by
    rw [show 1200 = 3 * 400 from rfl, pow_mul]
    norm_num
  show (2 : ℚ) ^ ((1200 : Nat) : Int) ≤ 10 ^ ((400 : Nat) : Int)
  rw [zpow_natCast, zpow_natCast, h]
  gcongr
  norm_num

theorem div_eq_absValue (d : Decimal) :
    ((d.digits * Nat.pow 10 d.exponent.toNat : Nat) : ℚ) / (Nat.pow 10 (-d.exponent).toNat : Nat) =
      d.absValue := by
  have h10 : (10 : ℚ) ≠ 0 := by norm_num
  rw [absValue, zpow_eq_div h10]
  simp only [Nat.pow_eq]
  push_cast
  ring

theorem magnitude_of_large (hd : d.digits ≠ 0) (h : cutoff < d.exponent) :
    binary64.roundBits (d.digits * Nat.pow 10 d.exponent.toNat) (Nat.pow 10 (-d.exponent).toNat) =
      binary64.infinityBits := by
  refine Format.roundBits_of_large (Nat.pow_pos (by norm_num)) (by decide) ?_
  rw [div_eq_absValue, absValue]
  have hone : (1 : ℚ) ≤ d.digits := by exact_mod_cast Nat.one_le_iff_ne_zero.2 hd
  calc (2 : ℚ) ^ (binary64.maxExponent + binary64.precision + 1) ≤ 2 ^ (1200 : Int) :=
        zpow_le_zpow_right₀ one_le_two (by decide)
    _ ≤ 10 ^ cutoff := two_zpow_le_ten_zpow
    _ ≤ 10 ^ d.exponent := zpow_le_zpow_right₀ (by norm_num) h.le
    _ ≤ d.digits * 10 ^ d.exponent := le_mul_of_one_le_left (by positivity) hone

theorem magnitude_of_small (h : d.exponent + (d.digits.log2 / 3 : Nat) < -cutoff) :
    binary64.roundBits (d.digits * Nat.pow 10 d.exponent.toNat) (Nat.pow 10 (-d.exponent).toNat) =
      0 := by
  refine Format.roundBits_of_small (by decide) (Nat.pow_pos (by norm_num)) ?_
  rw [div_eq_absValue, absValue]
  have hlt : (d.digits : ℚ) < 10 ^ (d.digits.log2 / 3 + 1) := by exact_mod_cast digits_lt d.digits
  calc (d.digits : ℚ) * 10 ^ d.exponent
      < 10 ^ (d.digits.log2 / 3 + 1) * 10 ^ d.exponent := by gcongr
    _ = 10 ^ ((d.digits.log2 / 3 : Nat) + 1 + d.exponent : Int) := by
      rw [← zpow_natCast, ← zpow_add₀ (by norm_num)]
      push_cast
      rfl
    _ ≤ 10 ^ (-cutoff) := zpow_le_zpow_right₀ (by norm_num) (by omega)
    _ ≤ 2 ^ (-1200 : Int) := by
      rw [zpow_neg, zpow_neg]
      exact inv_anti₀ (by positivity) two_zpow_le_ten_zpow
    _ ≤ 2 ^ (binary64.minExponent - 1) := zpow_le_zpow_right₀ one_le_two (by decide)

/-- The magnitude is the value, rounded once. -/
theorem doubleMagnitude_eq (d : Decimal) :
    d.doubleMagnitude = binary64.roundBits (d.digits * Nat.pow 10 d.exponent.toNat)
      (Nat.pow 10 (-d.exponent).toNat) := by
  unfold doubleMagnitude magnitude
  by_cases hd : d.digits = 0
  · simp [hd, Format.roundBits]
  rw [if_neg hd]
  simp only
  split
  · rw [magnitude_of_large hd (by assumption)]
  · split
    · rw [magnitude_of_small (by assumption)]
    · rfl

theorem doubleMagnitude_congr (h : d.absValue = d'.absValue) :
    d.doubleMagnitude = d'.doubleMagnitude := by
  rw [doubleMagnitude_eq, doubleMagnitude_eq]
  refine Format.roundBits_congr _ (Nat.pow_pos (by norm_num)) (Nat.pow_pos (by norm_num)) ?_
  rw [div_eq_absValue, div_eq_absValue, h]

/-- A decimal with the value of a magnitude reads as the magnitude. -/
theorem doubleMagnitude_of_value {bits : Nat} (hb : bits ≤ binary64.infinityBits)
    (h : d.absValue = binary64.value bits) : d.doubleMagnitude = bits := by
  rw [doubleMagnitude_eq]
  refine Format.roundBits_of_value (by decide) hb (Nat.pow_pos (by norm_num)) ?_
  rw [div_eq_absValue, h]

end Decimal

/-! ## The decimal that is written -/

theorem absValue_stripZeros (n : Nat) (d : Decimal) : (stripZeros n d).absValue = d.absValue := by
  induction n generalizing d with
  | zero => rfl
  | succ n ih =>
    rw [stripZeros]
    split
    · rename_i h
      rw [ih]
      obtain ⟨q, hq⟩ := Nat.dvd_of_mod_eq_zero h.2
      rw [Decimal.absValue, Decimal.absValue, hq, Nat.mul_div_cancel_left q (by norm_num),
        zpow_add_one₀ (by norm_num)]
      push_cast
      ring
    · rfl

theorem absValue_exactDecimal (m : Nat) (e : Int) : (exactDecimal m e).absValue = m * 2 ^ e := by
  unfold exactDecimal Decimal.absValue
  split
  · rename_i h
    rw [Nat.shiftLeft_eq, zpow_zero, mul_one]
    push_cast
    rw [← zpow_natCast, Int.toNat_of_nonneg h]
  · have h10 : (10 : ℚ) = 5 * 2 := by norm_num
    have h5 : (5 : ℚ) ^ (-e).toNat * 5 ^ e = 1 := by
      rw [← zpow_natCast, ← zpow_add₀ (by norm_num)]
      have hzero : ((-e).toNat : Int) + e = 0 := by omega
      rw [hzero, zpow_zero]
    simp only [Nat.pow_eq]
    push_cast
    rw [h10, mul_zpow, mul_assoc, ← mul_assoc _ _ ((2 : ℚ) ^ e), h5, one_mul]

/-- What is written for a finite magnitude reads back as it. -/
theorem doubleMagnitude_shortest {bits : Nat} (hb : bits < binary64.infinityBits) (tie : Tie) :
    (shortest binary64 tie bits).doubleMagnitude = bits := by
  unfold shortest
  by_cases h0 : bits = 0
  · rw [if_pos h0, h0]
    rfl
  rw [if_neg h0]
  simp only
  split
  · rename_i d hd
    have hreads := of_decide_eq_true (firstOnGrids_accepts hd)
    rw [Decimal.doubleMagnitude_congr (absValue_stripZeros 400 d)]
    exact hreads.2
  · exact Decimal.doubleMagnitude_of_value hb.le (absValue_exactDecimal _ _)

end TouchOverlay.Numeric
