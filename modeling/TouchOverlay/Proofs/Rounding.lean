import Mathlib.Algebra.Order.Field.Power
import Mathlib.Data.Int.Log
import Mathlib.Data.Rat.Floor
import Mathlib.Tactic.FieldSimp
import TouchOverlay.Numeric.Shortest

/-!
# Rounding to a binary format

`Format.roundBits` takes a quotient of two natural numbers, but only its value counts
(`roundBits_congr`): the last bit of the mantissa stands where the logarithm of the value says
(`Format.lastBit`), and the mantissa is the value over the power of two there, rounded. So each
finite magnitude is what its own value is rounded to (`roundBits_of_value`), and nothing is lost on
the way to a wider format and back (`ofFormat_ofFormat`).
-/

namespace TouchOverlay.Numeric

variable {num den num' den' a b k m : Nat} {e : Int} {v : ℚ}

/-! ## Powers of two -/

theorem zpow_eq_div {x : ℚ} (hx : x ≠ 0) (e : Int) : x ^ e = x ^ e.toNat / x ^ (-e).toNat := by
  rw [← zpow_natCast, ← zpow_natCast, ← zpow_sub₀ hx]
  congr 1
  omega

theorem lt_two_zpow_iff (hv : 0 < v) : v < 2 ^ e ↔ Int.log 2 v < e := by
  exact_mod_cast Int.lt_zpow_iff_log_lt one_lt_two hv

theorem two_zpow_le_iff (hv : 0 < v) : 2 ^ e ≤ v ↔ e ≤ Int.log 2 v := by
  exact_mod_cast Int.zpow_le_iff_le_log one_lt_two hv

theorem two_pow_mul_zpow (p : Nat) (e : Int) : (2 : ℚ) ^ p * 2 ^ e = 2 ^ (p + e) := by
  rw [← zpow_natCast, ← zpow_add₀ two_ne_zero]

theorem two_pow_mul_zpow_le_iff (hv : 0 < v) {p : Nat} :
    2 ^ p * 2 ^ e ≤ v ↔ p + e ≤ Int.log 2 v := by
  rw [two_pow_mul_zpow, two_zpow_le_iff hv]

theorem lt_two_pow_mul_zpow_iff (hv : 0 < v) {p : Nat} :
    v < 2 ^ p * 2 ^ e ↔ Int.log 2 v < p + e := by
  rw [two_pow_mul_zpow, lt_two_zpow_iff hv]

theorem two_pow_pred {p : Nat} (hp : 0 < p) : 2 ^ p = 2 ^ (p - 1) * 2 := by
  rw [← Nat.pow_succ]
  congr 1
  omega

/-! ## Quotients -/

theorem scaleDown_pos (num : Nat) (hden : 0 < den) (e : Int) : 0 < (scaleDown num den e).2 := by
  simp only [scaleDown, Nat.shiftLeft_eq]
  exact Nat.mul_pos hden (Nat.two_pow_pos _)

theorem scaleDown_div (num den : Nat) (e : Int) :
    ((scaleDown num den e).1 : ℚ) / (scaleDown num den e).2 = num / den / 2 ^ e := by
  rw [zpow_eq_div two_ne_zero]
  simp only [scaleDown, Nat.shiftLeft_eq]
  push_cast
  field_simp

theorem scaled_pos (e : Int) : 0 < 1 <<< (-e).toNat := by
  rw [Nat.shiftLeft_eq, one_mul]
  exact Nat.two_pow_pos _

theorem scaled_div (m : Nat) (e : Int) :
    ((m <<< e.toNat : Nat) : ℚ) / (1 <<< (-e).toNat : Nat) = m * 2 ^ e := by
  rw [zpow_eq_div two_ne_zero, Nat.shiftLeft_eq, Nat.shiftLeft_eq]
  push_cast
  ring

theorem divNearestEven_mul_left (hk : 0 < k) (a b : Nat) :
    divNearestEven (k * a) (k * b) = divNearestEven a b := by
  have hlt (x y : Nat) : 2 * (k * x) < k * y ↔ 2 * x < y := by
    rw [Nat.mul_left_comm, Nat.mul_lt_mul_left hk]
  have hlt' (x y : Nat) : k * y < 2 * (k * x) ↔ y < 2 * x := by
    rw [Nat.mul_left_comm, Nat.mul_lt_mul_left hk]
  simp only [divNearestEven, Nat.mul_div_mul_left _ _ hk, Nat.mul_mod_mul_left, hlt, hlt']

/-- Only the quotient matters. -/
theorem divNearestEven_congr (hb : 0 < b) (hden : 0 < den) (h : (a / b : ℚ) = num / den) :
    divNearestEven a b = divNearestEven num den := by
  have h : a * den = num * b := by
    rw [div_eq_div_iff (by positivity) (by positivity)] at h
    exact_mod_cast h
  rw [← divNearestEven_mul_left hden a b, ← divNearestEven_mul_left hb num den,
    Nat.mul_comm den a, Nat.mul_comm den b, Nat.mul_comm b num, h]

theorem divNearestEven_one (m : Nat) : divNearestEven m 1 = m := by
  simp [divNearestEven, Nat.mod_one]

theorem divNearestEven_of_lt (h : 2 * a < b) : divNearestEven a b = 0 := by
  have ha : a < b := by omega
  simp [divNearestEven, Nat.div_eq_of_lt ha, Nat.mod_eq_of_lt ha, h]

namespace Format
variable {f : Format}

/-! ## The last bit -/

/-- The exponent of the last mantissa bit of a number. -/
def lastBit (f : Format) (v : ℚ) : Int := max f.minExponent (Int.log 2 v + 1 - f.precision)

theorem log_div_bounds (hnum : 0 < num) (hden : 0 < den) :
    (num.log2 : Int) - den.log2 - 1 ≤ Int.log 2 (num / den : ℚ) ∧
      Int.log 2 (num / den : ℚ) < (num.log2 : Int) - den.log2 + 1 := by
  have hn : (2 : ℚ) ^ num.log2 ≤ num := by exact_mod_cast Nat.log2_self_le hnum.ne'
  have hn' : (num : ℚ) < 2 ^ (num.log2 + 1) := by exact_mod_cast Nat.lt_log2_self
  have hd : (2 : ℚ) ^ den.log2 ≤ den := by exact_mod_cast Nat.log2_self_le hden.ne'
  have hd' : (den : ℚ) < 2 ^ (den.log2 + 1) := by exact_mod_cast Nat.lt_log2_self
  have hpos : (0 : ℚ) < den := by exact_mod_cast hden
  have hv : (0 : ℚ) < num / den := by positivity
  rw [← two_zpow_le_iff hv, ← lt_two_zpow_iff hv, le_div_iff₀ hpos, div_lt_iff₀ hpos]
  constructor
  · calc (2 : ℚ) ^ ((num.log2 : Int) - den.log2 - 1) * den
        ≤ 2 ^ ((num.log2 : Int) - den.log2 - 1) * 2 ^ (den.log2 + 1) := by gcongr
      _ = 2 ^ num.log2 := by
        rw [mul_comm, two_pow_mul_zpow, ← zpow_natCast]
        congr 1
        omega
      _ ≤ num := hn
  · calc (num : ℚ) < 2 ^ (num.log2 + 1) := hn'
      _ = 2 ^ ((num.log2 : Int) - den.log2 + 1) * 2 ^ den.log2 := by
        rw [mul_comm, two_pow_mul_zpow, ← zpow_natCast]
        congr 1
        omega
      _ ≤ 2 ^ ((num.log2 : Int) - den.log2 + 1) * den := by gcongr

theorem lastExponent_eq (f : Format) (hnum : 0 < num) (hden : 0 < den) :
    f.lastExponent num den = f.lastBit (num / den) := by
  have hlog := log_div_bounds hnum hden
  have hv : (0 : ℚ) < num / den := by positivity
  have hpos := scaleDown_pos num hden ((num.log2 : Int) - den.log2 - f.precision)
  have hdiv := scaleDown_div num den ((num.log2 : Int) - den.log2 - f.precision)
  unfold lastExponent
  simp only
  generalize scaleDown num den ((num.log2 : Int) - den.log2 - f.precision) = s at hpos hdiv ⊢
  have hposq : (0 : ℚ) < s.2 := by exact_mod_cast hpos
  -- the mantissa has one bit too many just if the number is at least `2 ^ (log2 num - log2 den)`
  have hiff : 1 <<< f.precision ≤ s.1 / s.2 ↔
      (num.log2 : Int) - den.log2 ≤ Int.log 2 (num / den : ℚ) := by
    rw [Nat.shiftLeft_eq, one_mul, Nat.le_div_iff_mul_le hpos]
    have hcast : 2 ^ f.precision * s.2 ≤ s.1 ↔ (2 : ℚ) ^ f.precision ≤ s.1 / s.2 := by
      rw [le_div_iff₀ hposq]
      exact_mod_cast Iff.rfl
    rw [hcast, hdiv, le_div_iff₀ (by positivity), two_pow_mul_zpow_le_iff hv]
    simp
  simp only [hiff, lastBit]
  split <;> omega

/-! ## Rounding a value -/

theorem pos_of_div_pos (h : (0 : ℚ) < num / den) : 0 < num := by
  rcases Nat.eq_zero_or_pos num with rfl | hnum
  · simp at h
  · exact hnum

theorem roundBits_eq (f : Format) (hnum : 0 < num) (hden : 0 < den) :
    f.roundBits num den =
      f.encode (divNearestEven (scaleDown num den (f.lastBit (num / den))).1
        (scaleDown num den (f.lastBit (num / den))).2) (f.lastBit (num / den)) := by
  rw [roundBits, if_neg hnum.ne', lastExponent_eq f hnum hden]

/-- Rounding depends on the number alone. -/
theorem roundBits_congr (f : Format) (hden : 0 < den) (hden' : 0 < den')
    (h : (num / den : ℚ) = num' / den') : f.roundBits num den = f.roundBits num' den' := by
  rcases Nat.eq_zero_or_pos num with rfl | hnum
  · have hnum' : num' = 0 := by
      rw [Nat.cast_zero, zero_div, eq_comm, div_eq_zero_iff] at h
      exact_mod_cast h.resolve_right (by positivity)
    simp [roundBits, hnum']
  · have hv : (0 : ℚ) < num / den := by positivity
    have hnum' : 0 < num' := pos_of_div_pos (h ▸ hv)
    rw [roundBits_eq f hnum hden, roundBits_eq f hnum' hden', h]
    congr 1
    refine divNearestEven_congr (scaleDown_pos _ hden _) (scaleDown_pos _ hden' _) ?_
    rw [scaleDown_div, scaleDown_div, h]

/-- A number whose mantissa at its last bit is whole needs no rounding. -/
theorem roundBits_of_eq (hden : 0 < den) (hm : 0 < m)
    (h : (num / den : ℚ) = m * 2 ^ f.lastBit (num / den)) :
    f.roundBits num den = f.encode m (f.lastBit (num / den)) := by
  have hv : (0 : ℚ) < num / den := by
    rw [h]
    positivity
  have hnum : 0 < num := pos_of_div_pos hv
  rw [roundBits_eq f hnum hden]
  congr 1
  refine (divNearestEven_congr (scaleDown_pos _ hden _) one_pos ?_).trans (divNearestEven_one m)
  rw [scaleDown_div, Nat.cast_one, div_one, div_eq_iff (by positivity), ← h]

/-! ## The magnitudes of a format -/

/-- The mantissa and exponent of a magnitude: the mantissa is as long as it can be, or the exponent
as small as it can be. -/
structure Fits (f : Format) (m : Nat) (e : Int) : Prop where
  pos : 0 < m
  lt : m < 2 ^ f.precision
  le : f.minExponent ≤ e
  normal : 2 ^ (f.precision - 1) ≤ m ∨ e = f.minExponent

theorem log_lt (hm : 0 < m) {p : Nat} (hlt : m < 2 ^ p) (e : Int) :
    Int.log 2 (m * 2 ^ e : ℚ) < p + e := by
  have hlt : (m : ℚ) < 2 ^ p := by exact_mod_cast hlt
  rw [← lt_two_pow_mul_zpow_iff (by positivity)]
  gcongr

theorem Fits.lastBit (h : f.Fits m e) (hp : 0 < f.precision) : f.lastBit (m * 2 ^ e) = e := by
  have hlt := log_lt h.pos h.lt e
  have hle := h.le
  have hge : e = f.minExponent ∨ f.precision - 1 + e ≤ Int.log 2 (m * 2 ^ e : ℚ) := by
    refine h.normal.symm.imp_right fun hn => ?_
    have hpos := h.pos
    have hn : (2 : ℚ) ^ (f.precision - 1) ≤ m := by exact_mod_cast hn
    have hlog : ((f.precision - 1 : Nat) : Int) + e ≤ Int.log 2 (m * 2 ^ e : ℚ) := by
      rw [← two_pow_mul_zpow_le_iff (by positivity)]
      gcongr
    omega
  unfold Format.lastBit
  omega

theorem fits_lastBit (hp : 0 < f.precision) (hm : 0 < m) (hv : v = m * 2 ^ f.lastBit v) :
    f.Fits m (f.lastBit v) := by
  have hpos : 0 < v := by
    rw [hv]
    positivity
  have hbound : f.minExponent ≤ f.lastBit v ∧ Int.log 2 v < f.precision + f.lastBit v := by
    unfold lastBit
    omega
  refine ⟨hm, ?_, hbound.1, ?_⟩
  · have hlt := (lt_two_pow_mul_zpow_iff hpos).2 hbound.2
    nth_rewrite 1 [hv] at hlt
    exact_mod_cast lt_of_mul_lt_mul_right hlt (by positivity)
  · by_cases hmin : f.lastBit v = f.minExponent
    · exact .inr hmin
    · have hlog : ((f.precision - 1 : Nat) : Int) + f.lastBit v ≤ Int.log 2 v := by
        unfold lastBit at hmin ⊢
        omega
      have hle := (two_pow_mul_zpow_le_iff hpos).2 hlog
      nth_rewrite 2 [hv] at hle
      exact .inl (by exact_mod_cast le_of_mul_le_mul_right hle (by positivity))

theorem fits_decode (hp : 0 < f.precision) {bits : Nat} (hb : 0 < bits) :
    f.Fits (f.decode bits).1 (f.decode bits).2 := by
  have hhalf : 0 < 2 ^ (f.precision - 1) := Nat.two_pow_pos _
  have hdouble := two_pow_pred hp
  unfold decode
  simp only [Nat.shiftLeft_eq, one_mul]
  split
  · exact ⟨hb, by omega, le_rfl, .inr rfl⟩
  · have hmod := Nat.mod_lt bits hhalf
    have hdiv : 0 < bits / 2 ^ (f.precision - 1) := Nat.div_pos (by omega) hhalf
    refine ⟨?_, ?_, ?_, ?_⟩ <;> dsimp only <;> omega

theorem encode_decode {bits : Nat} (hb : bits ≤ f.infinityBits) :
    f.encode (f.decode bits).1 (f.decode bits).2 = bits := by
  have hhalf : 0 < 2 ^ (f.precision - 1) := Nat.two_pow_pos _
  unfold decode encode
  simp only [Nat.shiftLeft_eq, one_mul]
  split
  · simp [hb]
  · have hdiv : 0 < bits / 2 ^ (f.precision - 1) := Nat.div_pos (by omega) hhalf
    have hexp : (f.minExponent + (bits / 2 ^ (f.precision - 1) : Nat) - 1 - f.minExponent).toNat =
        bits / 2 ^ (f.precision - 1) - 1 := by omega
    have hsplit := Nat.div_add_mod' bits (2 ^ (f.precision - 1))
    have hle : 2 ^ (f.precision - 1) ≤ bits / 2 ^ (f.precision - 1) * 2 ^ (f.precision - 1) :=
      Nat.le_mul_of_pos_left _ hdiv
    rw [hexp, Nat.sub_mul, one_mul]
    omega

theorem decode_encode (h : f.Fits m e) (hp : 0 < f.precision)
    (hm : f.encode m e < f.infinityBits) : f.decode (f.encode m e) = (m, e) := by
  have hhalf : 0 < 2 ^ (f.precision - 1) := Nat.two_pow_pos _
  have hdouble := two_pow_pred hp
  have hlt := h.lt
  have hle := h.le
  have hbits : f.encode m e = (e - f.minExponent).toNat * 2 ^ (f.precision - 1) + m := by
    unfold encode at hm ⊢
    rw [Nat.shiftLeft_eq] at hm ⊢
    omega
  rw [hbits]
  by_cases hs : m < 2 ^ (f.precision - 1)
  · have he : e = f.minExponent := h.normal.resolve_left (by omega)
    simp [decode, Nat.shiftLeft_eq, he, hs]
  · -- the leading bit of the mantissa counts as one more exponent
    obtain ⟨r, rfl⟩ := Nat.exists_eq_add_of_le (Nat.le_of_not_lt hs)
    have hr : r < 2 ^ (f.precision - 1) := by omega
    have hsum : (e - f.minExponent).toNat * 2 ^ (f.precision - 1) + (2 ^ (f.precision - 1) + r) =
        r + ((e - f.minExponent).toNat + 1) * 2 ^ (f.precision - 1) := by ring
    have hge : 1 * 2 ^ (f.precision - 1) ≤
        ((e - f.minExponent).toNat + 1) * 2 ^ (f.precision - 1) :=
      Nat.mul_le_mul_right _ (by omega)
    rw [hsum]
    simp only [decode, Nat.shiftLeft_eq, one_mul, Nat.add_mul_mod_self_right, Nat.mod_eq_of_lt hr,
      Nat.add_mul_div_right _ _ hhalf, Nat.div_eq_of_lt hr]
    rw [if_neg (by omega)]
    refine Prod.ext ?_ ?_ <;> dsimp only <;> omega

theorem Fits.encode_lt (h : f.Fits m e) (hp : 0 < f.precision) (he : e ≤ f.maxExponent) :
    f.encode m e < f.infinityBits := by
  have hdouble := two_pow_pred hp
  have hlt := h.lt
  have hle := h.le
  have hexp : (f.maxExponent - f.minExponent + 2).toNat =
      (f.maxExponent - e).toNat + ((e - f.minExponent).toNat + 2) := by omega
  unfold encode infinityBits
  rw [Nat.shiftLeft_eq, Nat.shiftLeft_eq, hexp, Nat.add_mul _ (_ + 2), Nat.add_mul _ 2]
  omega

/-- A number with a magnitude is rounded to it. -/
theorem roundBits_of_fits (h : f.Fits m e) (hp : 0 < f.precision) (hden : 0 < den)
    (hv : (num / den : ℚ) = m * 2 ^ e) : f.roundBits num den = f.encode m e := by
  have hlast : f.lastBit (num / den) = e := by rw [hv, h.lastBit hp]
  rw [roundBits_of_eq hden h.pos (by rw [hlast, hv]), hlast]

/-- The value of a finite magnitude. -/
def value (f : Format) (bits : Nat) : ℚ := (f.decode bits).1 * 2 ^ (f.decode bits).2

theorem value_zero (f : Format) : f.value 0 = 0 := by
  simp [value, decode, Nat.shiftLeft_eq]

/-- Every magnitude is what its value is rounded to. -/
theorem roundBits_of_value {bits : Nat} (hp : 0 < f.precision) (hb : bits ≤ f.infinityBits)
    (hden : 0 < den) (hv : (num / den : ℚ) = f.value bits) : f.roundBits num den = bits := by
  rcases Nat.eq_zero_or_pos bits with rfl | hpos
  · rw [value_zero, div_eq_zero_iff, Nat.cast_eq_zero, Nat.cast_eq_zero] at hv
    rw [roundBits, if_pos (hv.resolve_right hden.ne')]
  · rw [roundBits_of_fits (fits_decode hp hpos) hp hden hv, encode_decode hb]

/-! ## From one format to another -/

/-- A short mantissa has a magnitude, in which it may stand with a lower exponent. -/
theorem exists_fits (hp : 0 < f.precision) (hm : 0 < m) (hlt : m < 2 ^ f.precision)
    (he : f.minExponent ≤ e) :
    ∃ M k, f.Fits M k ∧ k ≤ e ∧ (m * 2 ^ e : ℚ) = M * 2 ^ k := by
  have hlog := log_lt hm hlt e
  have hk : f.lastBit (m * 2 ^ e) ≤ e := by
    unfold lastBit
    omega
  have hv : (m * 2 ^ e : ℚ) =
      (m * 2 ^ (e - f.lastBit (m * 2 ^ e)).toNat : Nat) * 2 ^ f.lastBit (m * 2 ^ e) := by
    push_cast
    rw [mul_assoc, two_pow_mul_zpow]
    congr 2
    omega
  exact ⟨_, _, fits_lastBit hp (Nat.mul_pos hm (Nat.two_pow_pos _)) hv, hk, hv⟩

theorem decode_le {bits : Nat} (hrange : f.minExponent ≤ f.maxExponent)
    (hb : bits < f.infinityBits) : (f.decode bits).2 ≤ f.maxExponent := by
  unfold infinityBits at hb
  rw [Nat.shiftLeft_eq, ← Nat.div_lt_iff_lt_mul (Nat.two_pow_pos _)] at hb
  unfold decode
  simp only [Nat.shiftLeft_eq, one_mul]
  split
  · exact hrange
  · dsimp only
    omega

variable {src : Format} {bits : Nat}

theorem ofFormat_of_lt (hb : bits < src.infinityBits) :
    f.ofFormat src bits = f.roundScaled (src.decode bits).1 (src.decode bits).2 := by
  rw [ofFormat, if_neg (Nat.not_le.2 hb)]

theorem infinityBits_pos (hrange : f.minExponent ≤ f.maxExponent) : 0 < f.infinityBits := by
  rw [infinityBits, Nat.shiftLeft_eq]
  exact Nat.mul_pos (by omega) (Nat.two_pow_pos _)

/-- A format has every magnitude of another with less precision and a smaller range. -/
structure Wider (f src : Format) : Prop where
  precision_pos : 0 < src.precision
  precision_le : src.precision ≤ f.precision
  min_le : f.minExponent ≤ src.minExponent
  le_max : src.maxExponent ≤ f.maxExponent
  range : src.minExponent ≤ src.maxExponent

theorem Wider.value_ofFormat (h : f.Wider src) (hb : bits < src.infinityBits) :
    f.ofFormat src bits < f.infinityBits ∧ f.value (f.ofFormat src bits) = src.value bits := by
  obtain ⟨hs, hp, hmin, hmax, hrange⟩ := h
  have hf : 0 < f.precision := by omega
  rw [ofFormat_of_lt hb]
  rcases Nat.eq_zero_or_pos bits with rfl | hpos
  · have hzero : f.roundScaled (src.decode 0).1 (src.decode 0).2 = 0 := by
      simp [roundScaled, roundBits, decode, Nat.shiftLeft_eq]
    rw [hzero, value_zero, value_zero]
    exact ⟨infinityBits_pos (by omega), rfl⟩
  · have hfits := fits_decode hs hpos
    obtain ⟨M, k, hM, hk, hv⟩ := exists_fits hf hfits.pos
      (hfits.lt.trans_le (Nat.pow_le_pow_right two_pos hp)) (hmin.trans hfits.le)
    have hround : f.roundScaled (src.decode bits).1 (src.decode bits).2 = f.encode M k :=
      roundBits_of_fits hM hf (scaled_pos _) ((scaled_div _ _).trans hv)
    have hlt := hM.encode_lt hf (hk.trans ((decode_le hrange hb).trans hmax))
    rw [hround]
    refine ⟨hlt, ?_⟩
    rw [value, decode_encode hM hf hlt]
    exact hv.symm

/-- Nothing is lost on the way to a wider format and back. -/
theorem Wider.ofFormat_ofFormat (h : f.Wider src) (hb : bits < src.infinityBits) :
    src.ofFormat f (f.ofFormat src bits) = bits := by
  obtain ⟨hlt, hv⟩ := h.value_ofFormat hb
  rw [ofFormat_of_lt hlt]
  exact roundBits_of_value h.precision_pos hb.le (scaled_pos _) ((scaled_div _ _).trans hv)

theorem wider_binary64 : binary64.Wider binary32 := by
  constructor <;> decide

/-! ## Beyond the range -/

theorem roundBits_of_large (hden : 0 < den) (hrange : f.minExponent ≤ f.maxExponent)
    (h : 2 ^ (f.maxExponent + f.precision + 1) ≤ (num / den : ℚ)) :
    f.roundBits num den = f.infinityBits := by
  have hv : (0 : ℚ) < num / den := lt_of_lt_of_le (by positivity) h
  rw [two_zpow_le_iff hv] at h
  have hlast : f.maxExponent + 2 ≤ f.lastBit (num / den) := by
    unfold lastBit
    omega
  rw [roundBits_eq f (pos_of_div_pos hv) hden, encode]
  refine Nat.min_eq_right (Nat.le_add_right_of_le ?_)
  rw [infinityBits, Nat.shiftLeft_eq, Nat.shiftLeft_eq]
  exact Nat.mul_le_mul_right _ (by omega)

theorem roundBits_of_small (hp : 0 < f.precision) (hden : 0 < den)
    (h : (num / den : ℚ) < 2 ^ (f.minExponent - 1)) : f.roundBits num den = 0 := by
  rcases Nat.eq_zero_or_pos num with rfl | hnum
  · simp [roundBits]
  have hlog := (lt_two_zpow_iff (by positivity)).1 h
  have hlast : f.lastBit (num / den) = f.minExponent := by
    unfold lastBit
    omega
  have hposq : (0 : ℚ) < (scaleDown num den f.minExponent).2 := by
    exact_mod_cast scaleDown_pos _ hden _
  have hhalf : ((scaleDown num den f.minExponent).1 : ℚ) / (scaleDown num den f.minExponent).2 <
      1 / 2 := by
    rw [scaleDown_div, div_lt_iff₀ (by positivity)]
    calc (num / den : ℚ) < 2 ^ (f.minExponent - 1) := h
      _ = 1 / 2 * 2 ^ f.minExponent := by
        rw [zpow_sub₀ two_ne_zero]
        ring
  have hround : divNearestEven (scaleDown num den f.minExponent).1
      (scaleDown num den f.minExponent).2 = 0 := by
    rw [div_lt_div_iff₀ hposq two_pos, one_mul] at hhalf
    refine divNearestEven_of_lt ?_
    rw [Nat.mul_comm]
    exact_mod_cast hhalf
  rw [roundBits_eq f hnum hden, hlast, hround]
  simp [encode]

end Format
end TouchOverlay.Numeric
