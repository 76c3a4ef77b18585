import Mathlib
import TouchOverlay.Numeric.Format

/-!
# The bits of single precision numbers

What `Float32.isNaN` and `Float32.isInf` say shows in the magnitude (`isInf_cases`), and the sign
and the magnitude together give the number back (`single_signBit_magnitude`). The lemmas on valid bit
patterns that these go back to are in Batteries, which only the whole of Mathlib brings in.
-/

namespace Float32
open Float.Model Float.Model.UnpackedFloat TouchOverlay.Numeric

variable {x : Float32} {b : BitVec Float.Model.Format.binary32.numBits}

theorem toNat_unpackMantissa (b : BitVec Float.Model.Format.binary32.numBits) :
    (unpackMantissa b).toNat = b.toNat % 0x800000 := by
  simp [unpackMantissa]

theorem toNat_unpackExponent (b : BitVec Float.Model.Format.binary32.numBits) :
    (unpackExponent b).toNat = b.toNat / 0x800000 % 0x100 := by
  simp [unpackExponent, Nat.shiftRight_eq_div_pow]

theorem unpackExponent_eq_iff : unpackExponent b = -1#8 ↔ b.toNat / 0x800000 % 0x100 = 0xff := by
  rw [← BitVec.toNat_inj, toNat_unpackExponent]
  rfl

theorem unpackMantissa_eq_iff : unpackMantissa b = 0#23 ↔ b.toNat % 0x800000 = 0 := by
  rw [← BitVec.toNat_inj, toNat_unpackMantissa]
  rfl

theorem eq_of_isNaN (h : x.isNaN = true) : x = ofBits 0x7fc00000 := by
  rw [isNaN_eq_decide_eq_nan, decide_eq_true_eq] at h
  exact h.trans (by decide)

/-- Bits of a number that is infinite, or has a smaller magnitude. -/
theorem isInf_unpack_cases (h : (UnpackedFloat.unpack .binary32 b).isNaN = false) :
    (UnpackedFloat.unpack .binary32 b).isInf = true ∧ b.toNat % 0x80000000 = 0x7f800000 ∨
      (UnpackedFloat.unpack .binary32 b).isInf = false ∧ b.toNat % 0x80000000 < 0x7f800000 := by
  unfold UnpackedFloat.unpack at h ⊢
  by_cases hexp : unpackExponent b = -1#8
  · have hexp' := unpackExponent_eq_iff.1 hexp
    by_cases hm : unpackMantissa b = 0#23
    · have hm' := unpackMantissa_eq_iff.1 hm
      simp only [hexp, hm, if_true]
      exact .inl ⟨rfl, by omega⟩
    · simp only [hexp, hm, if_true, if_false] at h
      cases h
  · have hexp' := mt unpackExponent_eq_iff.2 hexp
    simp only [hexp, if_false]
    right
    refine ⟨?_, by omega⟩
    split
    · split <;> rfl
    · rfl

theorem isInf_cases (h : x.isNaN = false) :
    x.isInf = true ∧ x.magnitude = binary32.infinityBits ∨
      x.isInf = false ∧ x.magnitude < binary32.infinityBits :=
  isInf_unpack_cases h

theorem single_signBit_magnitude (x : Float32) : single x.signBit x.magnitude = x := by
  have hbits : x.magnitude + (if x.signBit then 0x80000000 else 0) = x.toBits.toNat := by
    have := x.toBits.toNat_lt
    simp only [magnitude, signBit, decide_eq_true_eq]
    split <;> omega
  rw [single, hbits, UInt32.ofNat_toNat, ofBits_toBits]

end Float32
