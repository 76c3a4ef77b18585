import TouchOverlay.Proofs.ShortestDecimals
import TouchOverlay.Toml.Reader
import TouchOverlay.Toml.Writer

/-!
# Numbers read back

An integer that is written is read back (`readNumber_intDigits`). A decimal is read back as its
plain form, which has a point and so keeps its value but not always its exponent
(`readNumber_decimal`, `Decimal.absValue_plain`). Each number stands before the end of its line, and
none of them is taken for a date, for a float without a fraction, or for a number of another base.
-/

namespace TouchOverlay

namespace Numeric.Decimal

/-- A decimal with at least one digit after the point. -/
def plain (d : Decimal) : Decimal :=
  if d.digits ≠ 0 ∧ d.exponent < 0 then d
  else { d with digits := d.digits * 10 ^ (d.exponent.toNat + 1), exponent := -1 }

theorem negative_plain (d : Decimal) : d.plain.negative = d.negative := by
  unfold plain
  split <;> rfl

theorem absValue_plain (d : Decimal) : d.plain.absValue = d.absValue := by
  unfold plain
  split
  · rfl
  · rename_i h
    by_cases h0 : d.digits = 0
    · simp [absValue, h0]
    · have he : 0 ≤ d.exponent := by
        by_contra he
        exact h ⟨h0, by omega⟩
      have hpow : (10 : ℚ) ^ d.exponent.toNat = 10 ^ d.exponent := by
        rw [← zpow_natCast, Int.toNat_of_nonneg he]
      simp only [absValue]
      push_cast
      rw [pow_succ, hpow, zpow_neg_one]
      ring

end Numeric.Decimal

namespace Toml
open Numeric.Decimal (plain)
open Text (natDigits hexValue? natDigits_ne_nil isDigit_of_mem_natDigits natDigits_eq_cons
  natDigits_eq_digit_cons)

variable {c x : Char} {cs ds whole fraction rest : List Char} {negative : Bool}
  {n k least greatest : Nat} {d : Numeric.Decimal}

/-! ## Digits -/

/-- No digits go on with these characters. -/
def EndsDigits (rest : List Char) : Prop := ∀ c ∈ rest.head?, c.isDigit = false ∧ c ≠ '_'

theorem endsDigits_newline : EndsDigits ('\n' :: rest) := by
  rintro c ⟨⟩
  decide

theorem endsDigits_point : EndsDigits ('.' :: rest) := by
  rintro c ⟨⟩
  decide

theorem readDigits_more_append (hd : ∀ c ∈ ds, c.isDigit = true) (hr : EndsDigits rest)
    (acc : List Char) : readDigits.more Char.isDigit acc (ds ++ rest) = (acc ++ ds, rest) := by
  induction ds generalizing acc with
  | nil =>
    cases rest with
    | nil => simp [readDigits.more]
    | cons c rest =>
      obtain ⟨hc, hu⟩ := hr c rfl
      simp [readDigits.more, hc, hu]
  | cons c ds ih =>
    have hc := hd c List.mem_cons_self
    have hu : c ≠ '_' := by rintro rfl; cases hc
    have ih := ih (fun d h => hd d (List.mem_cons_of_mem c h)) (acc ++ [c])
    simp [readDigits.more, hc, hu, ih]

theorem readDigits_append (hd : ∀ c ∈ ds, c.isDigit = true) (hne : ds ≠ []) (hr : EndsDigits rest) :
    readDigits Char.isDigit (ds ++ rest) = some (ds, rest) := by
  cases ds with
  | nil => exact absurd rfl hne
  | cons c ds =>
    have hmore := readDigits_more_append (fun d h => hd d (List.mem_cons_of_mem c h)) hr [c]
    simp [readDigits, hd c List.mem_cons_self, hmore]

theorem hexValue?_of_isDigit (h : c.isDigit = true) : hexValue? c = some (c.toNat - '0'.toNat) := by
  have hbounds : '0' ≤ c ∧ c ≤ '9' := by
    simpa [Char.isDigit, Char.le_def] using h
  simp [hexValue?, hbounds]

theorem ofDigits_eq (hd : ∀ c ∈ ds, c.isDigit = true) :
    ofDigits 10 ds = Nat.ofDigitChars 10 ds 0 := by
  have hvalues : ds.filterMap hexValue? = ds.map fun c => c.toNat - '0'.toNat := by
    rw [← List.filterMap_eq_map]
    exact List.filterMap_congr fun c hc => hexValue?_of_isDigit (hd c hc)
  rw [ofDigits, hvalues, List.foldl_map, Nat.ofDigitChars_eq_foldl]

/-! ## Signs and whole parts -/

def signOf (negative : Bool) : List Char := if negative then ['-'] else []

/-- Digits of a whole number: only zero begins with a zero. -/
def IsWhole (ds : List Char) : Prop :=
  (∀ c ∈ ds, c.isDigit = true) ∧ ∃ c cs, ds = c :: cs ∧ (c = '0' → cs = [])

theorem isWhole_natDigits (n : Nat) : IsWhole (natDigits n) := by
  refine ⟨isDigit_of_mem_natDigits, ?_⟩
  rcases Nat.eq_zero_or_pos n with rfl | hn
  · exact ⟨'0', [], rfl, fun _ => rfl⟩
  · obtain ⟨c, cs, h, hc⟩ := natDigits_eq_cons hn
    exact ⟨c, cs, h, fun h0 => absurd h0 hc⟩

theorem readSign_signOf (hd : c.isDigit = true) :
    readSign (signOf negative ++ c :: cs) = (negative, c :: cs) := by
  cases negative with
  | true => rfl
  | false =>
    have hminus : c ≠ '-' := by rintro rfl; cases hd
    have hplus : c ≠ '+' := by rintro rfl; cases hd
    simp [signOf, readSign, hminus, hplus]

theorem readDecimal_append (h : IsWhole ds) (hr : EndsDigits rest) :
    readDecimal (signOf negative ++ (ds ++ rest)) = some (negative, ds, rest) := by
  obtain ⟨hd, c, cs, rfl, hzero⟩ := h
  have hread := readDigits_append hd (List.cons_ne_nil c cs) hr
  rw [List.cons_append] at hread
  rw [readDecimal, List.cons_append, readSign_signOf (hd c List.mem_cons_self)]
  by_cases hc : c = '0'
  · subst c
    rw [hzero rfl]
    rfl
  · simp [hc, hread]

/-- A number that is written begins with a digit or a minus. -/
theorem signOf_append_eq_cons (h : IsWhole ds) (negative : Bool) (rest : List Char) :
    ∃ c cs, signOf negative ++ (ds ++ rest) = c :: cs ∧ (c.isDigit = true ∨ c = '-') := by
  obtain ⟨hd, c, cs, rfl, -⟩ := h
  cases negative with
  | true => exact ⟨'-', _, rfl, .inr rfl⟩
  | false => exact ⟨c, _, rfl, .inl (hd c List.mem_cons_self)⟩

/-! ## What is no date -/

/-- A field of a date or a time is in the digits at the front. -/
theorem readField_eq_some {v : Nat} {cs : List Char} (hc : c.isDigit = false)
    (h : readField k least greatest (ds ++ c :: rest) = some (v, cs)) :
    k ≤ ds.length ∧ cs = ds.drop k ++ c :: rest := by
  have hall : ((ds ++ c :: rest).take k).all Char.isDigit = true ∧
      cs = (ds ++ c :: rest).drop k := by
    rw [readField] at h
    simp only at h
    split_ifs at h with hds
    exact ⟨hds.2, (Prod.mk.inj (Option.some.inj h)).2.symm⟩
  have hk : k ≤ ds.length := by
    by_contra hk
    have hmem : c ∈ (ds ++ c :: rest).take k :=
      List.mem_take_iff_getElem.2 ⟨ds.length, by simp; omega, by simp⟩
    have hdigit := List.all_eq_true.1 hall.1 c hmem
    rw [hc] at hdigit
    cases hdigit
  exact ⟨hk, by rw [hall.2, List.drop_append_of_le_length hk]⟩

/-- What stands after a field is a digit, or ends the digits. -/
theorem expect?_drop (hd : ∀ c ∈ ds, c.isDigit = true) (hx : x.isDigit = false) (hc : c ≠ x)
    (k : Nat) : expect? x (ds.drop k ++ c :: rest) = none := by
  cases hds : ds.drop k with
  | nil => simp [expect?, hc]
  | cons d ds' =>
    have hdigit := hd d (List.mem_of_mem_drop (hds ▸ List.mem_cons_self))
    have hne : d ≠ x := by
      rintro rfl
      rw [hx] at hdigit
      cases hdigit
    simp [expect?, hne]

theorem readDateTime_eq_none (hd : ∀ c ∈ ds, c.isDigit = true) (hc : c.isDigit = false)
    (hdate : c ≠ '-') (htime : c ≠ ':') : readDateTime (ds ++ c :: rest) = none := by
  -- after the digits of a year a date has a minus, and after those of an hour a time has a colon
  have hnodate : date? (ds ++ c :: rest) = none := by
    cases hyear : readField 4 0 9999 (ds ++ c :: rest) with
    | none => simp [date?, hyear]
    | some p =>
      obtain ⟨-, hp⟩ := readField_eq_some hc hyear
      simp [date?, hyear, hp, expect?_drop hd (by decide) hdate]
  have hnotime : time? (ds ++ c :: rest) = none := by
    cases hhour : readField 2 0 23 (ds ++ c :: rest) with
    | none => simp [time?, hhour]
    | some p =>
      obtain ⟨-, hp⟩ := readField_eq_some hc hhour
      simp [time?, hhour, hp, expect?_drop hd (by decide) htime]
  simp [readDateTime, hnodate, hnotime]

theorem readField_minus (hk : 0 < k) : readField k least greatest ('-' :: rest) = none := by
  cases h : readField k least greatest ('-' :: rest) with
  | none => rfl
  | some p =>
    have hempty : readField k least greatest ([] ++ '-' :: rest) = some p := h
    have hle := (readField_eq_some (by decide) hempty).1
    exact absurd hk (by simpa using hle)

theorem readDateTime_minus : readDateTime ('-' :: rest) = none := by
  simp [readDateTime, date?, time?, readField_minus]

/-! ## Integers -/

theorem readFinite_whole (h : IsWhole ds) :
    readFinite (signOf negative ++ (ds ++ '\n' :: rest)) = none := by
  rw [readFinite, readDecimal_append h endsDigits_newline]
  rfl

theorem readSpecial_digits (hd : c.isDigit = true) :
    readSpecial (signOf negative ++ c :: cs) = none := by
  rw [readSpecial, readSign_signOf hd]
  split
  · rename_i heq
    cases heq
    cases hd
  · rename_i heq
    cases heq
    cases hd
  · rfl

/-- A whole number is no number of another base. -/
theorem signOf_append_ne (h : IsWhole ds) (hx : x ≠ '\n') :
    signOf negative ++ (ds ++ '\n' :: rest) ≠ '0' :: x :: cs := by
  obtain ⟨-, c, ds, rfl, hzero⟩ := h
  intro heq
  cases negative with
  | true => cases heq
  | false =>
    obtain ⟨hc, heq⟩ := List.cons.inj heq
    rw [hzero hc] at heq
    exact hx (List.cons.inj heq).1.symm

theorem readInteger_whole (h : IsWhole ds) :
    readInteger (signOf negative ++ (ds ++ '\n' :: rest)) =
      (bounded (if negative then -(ofDigits 10 ds) else ofDigits 10 ds)).map
        (·, '\n' :: rest) := by
  unfold readInteger
  simp only
  split
  · exact absurd (by assumption) (signOf_append_ne h (by decide))
  · exact absurd (by assumption) (signOf_append_ne h (by decide))
  · exact absurd (by assumption) (signOf_append_ne h (by decide))
  · rw [readDecimal_append h endsDigits_newline]
    rfl

theorem readDateTime_signOf (hd : ∀ c ∈ ds, c.isDigit = true) (hc : c.isDigit = false)
    (hdate : c ≠ '-') (htime : c ≠ ':') :
    readDateTime (signOf negative ++ (ds ++ c :: rest)) = none := by
  cases negative with
  | true => exact readDateTime_minus
  | false => exact readDateTime_eq_none hd hc hdate htime

theorem readNumber_whole (h : IsWhole ds) :
    readNumber (signOf negative ++ (ds ++ '\n' :: rest)) =
      (bounded (if negative then -(ofDigits 10 ds) else ofDigits 10 ds)).map
        (·, '\n' :: rest) := by
  have hspecial : readSpecial (signOf negative ++ (ds ++ '\n' :: rest)) = none := by
    obtain ⟨hd, c, cs, rfl, -⟩ := h
    exact readSpecial_digits (hd c List.mem_cons_self)
  rw [readNumber, readDateTime_signOf h.1 (by decide) (by decide) (by decide), readFinite_whole h,
    hspecial, readInteger_whole h]
  rfl

theorem intDigits_eq_cons (i : Int) :
    ∃ c cs, Text.intDigits i = c :: cs ∧ (c.isDigit = true ∨ c = '-') := by
  cases i with
  | ofNat n =>
    obtain ⟨c, cs, h, hc⟩ := natDigits_eq_digit_cons n
    exact ⟨c, cs, h, .inl hc⟩
  | negSucc n => exact ⟨'-', _, rfl, .inr rfl⟩

/-- An integer of 64 bits is read back. -/
theorem readNumber_intDigits {i : Int} (hi : -0x8000000000000000 ≤ i ∧ i < 0x8000000000000000)
    (rest : List Char) :
    readNumber (Text.intDigits i ++ '\n' :: rest) = some (integer i, '\n' :: rest) := by
  have hvalue (n : Nat) : ofDigits 10 (natDigits n) = n := by
    rw [ofDigits_eq isDigit_of_mem_natDigits, natDigits, Nat.ofDigitChars_ten_toDigits]
  have hread (negative : Bool) (n : Nat) (h : (if negative then -(n : Int) else n) = i) :
      readNumber (signOf negative ++ (natDigits n ++ '\n' :: rest)) =
        some (integer i, '\n' :: rest) := by
    rw [readNumber_whole (isWhole_natDigits n), hvalue, h, bounded, if_pos hi]
    rfl
  cases i with
  | ofNat n => exact hread false n rfl
  | negSucc n => exact hread true (n + 1) rfl

/-! ## Decimals -/

/-- The digits of a decimal on both sides of its point. -/
structure PlainText (d : Numeric.Decimal) (whole fraction : List Char) : Prop where
  isWhole : IsWhole whole
  isDigit : ∀ c ∈ fraction, c.isDigit = true
  ne_nil : fraction ≠ []
  digits_eq : Nat.ofDigitChars 10 (whole ++ fraction) 0 = d.digits
  exponent_eq : d.exponent = -fraction.length

theorem readFinite_plainText (h : PlainText d whole fraction) (hfits : d.fitsDouble = true)
    (rest : List Char) :
    readFinite (signOf d.negative ++ (whole ++ '.' :: (fraction ++ '\n' :: rest))) =
      some (float (.decimal d), '\n' :: rest) := by
  have htail : readTail ('.' :: (fraction ++ '\n' :: rest)) = some (fraction, 0, '\n' :: rest) := by
    simp [readTail, readDigits_append h.isDigit h.ne_nil endsDigits_newline]
  have hdigits : ∀ c ∈ whole ++ fraction, c.isDigit = true := fun c hc =>
    (List.mem_append.1 hc).elim (h.isWhole.1 c) (h.isDigit c)
  have hd : (⟨d.negative, (ofDigits 10 (whole ++ fraction)).toNat, 0 - fraction.length⟩ :
      Numeric.Decimal) = d := by
    rw [ofDigits_eq hdigits, h.digits_eq, Int.toNat_natCast, Int.zero_sub, ← h.exponent_eq]
  rw [readFinite, readDecimal_append h.isWhole endsDigits_point, Option.bind_some]
  simp only [htail, Option.bind_some, hd, hfits, Bool.or_true, if_true]

theorem length_natDigits_pos (n : Nat) : 0 < (natDigits n).length :=
  List.length_pos_of_ne_nil (natDigits_ne_nil n)

theorem isDigit_of_mem_zeros : ∀ c ∈ List.replicate k '0', c.isDigit = true := fun c hc => by
  rw [List.eq_of_mem_replicate hc]
  rfl

/-- Below one tenth, zeros stand between the point and the digits. -/
theorem plainText_small (h0 : d.digits ≠ 0) (h : (natDigits d.digits).length + d.exponent ≤ 0) :
    PlainText (plain d) ['0']
      (List.replicate (-((natDigits d.digits).length + d.exponent)).toNat '0' ++
        natDigits d.digits) := by
  have hlen := length_natDigits_pos d.digits
  have hplain : plain d = d := if_pos ⟨h0, by omega⟩
  rw [hplain]
  constructor
  · exact ⟨isDigit_of_mem_zeros (k := 1), '0', [], rfl, fun _ => rfl⟩
  · exact fun c hc => (List.mem_append.1 hc).elim (isDigit_of_mem_zeros c)
      (isDigit_of_mem_natDigits c)
  · simp [natDigits_ne_nil]
  · rw [Nat.ofDigitChars_append, Nat.ofDigitChars_append, Nat.ofDigitChars_replicate_zero]
    exact Nat.ofDigitChars_ten_toDigits
  · simp only [List.length_append, List.length_replicate]
    omega

/-- An integer gets its zeros, and one more after the point. -/
theorem plainText_long (h0 : d.digits ≠ 0) (h : 0 ≤ d.exponent) :
    PlainText (plain d) (natDigits d.digits ++ List.replicate d.exponent.toNat '0') ['0'] := by
  have hplain : plain d =
      { d with digits := d.digits * 10 ^ (d.exponent.toNat + 1), exponent := -1 } :=
    if_neg fun hneg => by omega
  rw [hplain]
  constructor
  · refine ⟨fun c hc => (List.mem_append.1 hc).elim (isDigit_of_mem_natDigits c)
      (isDigit_of_mem_zeros c), ?_⟩
    obtain ⟨c, cs, heq, hc⟩ := natDigits_eq_cons (Nat.pos_of_ne_zero h0)
    exact ⟨c, _, by rw [heq]; rfl, fun h => absurd h hc⟩
  · exact isDigit_of_mem_zeros (k := 1)
  · exact List.cons_ne_nil _ _
  · rw [List.append_assoc, Nat.ofDigitChars_append, natDigits, Nat.ofDigitChars_ten_toDigits,
      ← List.replicate_succ', Nat.ofDigitChars_replicate_zero, Nat.mul_comm]
  · rfl

/-- Otherwise the point divides the digits. -/
theorem plainText_between (h0 : d.digits ≠ 0) (hneg : d.exponent < 0)
    (h : 0 < (natDigits d.digits).length + d.exponent) :
    PlainText (plain d) ((natDigits d.digits).take ((natDigits d.digits).length + d.exponent).toNat)
      ((natDigits d.digits).drop ((natDigits d.digits).length + d.exponent).toNat) := by
  have hplain : plain d = d := if_pos ⟨h0, hneg⟩
  rw [hplain]
  constructor
  · refine ⟨fun c hc => isDigit_of_mem_natDigits c (List.mem_of_mem_take hc), ?_⟩
    obtain ⟨c, cs, heq, hc⟩ := natDigits_eq_cons (Nat.pos_of_ne_zero h0)
    obtain ⟨k, hk⟩ : ∃ k, ((natDigits d.digits).length + d.exponent).toNat = k + 1 :=
      Nat.exists_eq_add_one_of_ne_zero (by omega)
    exact ⟨c, cs.take k, by rw [hk, heq]; rfl, fun h => absurd h hc⟩
  · exact fun c hc => isDigit_of_mem_natDigits c (List.mem_of_mem_drop hc)
  · exact List.ne_nil_of_length_pos (by rw [List.length_drop]; omega)
  · rw [List.take_append_drop]
    exact Nat.ofDigitChars_ten_toDigits
  · rw [List.length_drop]
    omega

theorem plainText_plainDigits (h0 : d.digits ≠ 0) :
    ∃ whole fraction, Numeric.plainDigits (natDigits d.digits)
        ((natDigits d.digits).length + d.exponent) = whole ++ '.' :: fraction ∧
      PlainText (plain d) whole fraction := by
  unfold Numeric.plainDigits
  split
  · rename_i hsmall
    exact ⟨_, _, rfl, plainText_small h0 hsmall⟩
  · rename_i hpos
    simp only
    split
    · rename_i hlong
      have he : 0 ≤ d.exponent := by omega
      have hzeros : ((natDigits d.digits).length + d.exponent).toNat - (natDigits d.digits).length =
          d.exponent.toNat := by omega
      rw [hzeros]
      exact ⟨_, _, rfl, plainText_long h0 he⟩
    · rename_i hshort
      exact ⟨_, _, rfl, plainText_between h0 (by omega) (by omega)⟩

/-- A decimal is written as its sign and the digits of its plain form. -/
theorem text_eq_plainText (d : Numeric.Decimal) :
    ∃ whole fraction, d.text Numeric.NumberStyle.settings =
        signOf d.negative ++ (whole ++ '.' :: fraction) ∧
      PlainText (plain d) whole fraction := by
  unfold Numeric.Decimal.text
  simp only
  split
  · rename_i h0
    refine ⟨['0'], ['0'], rfl, ?_⟩
    have hplain : plain d = { d with digits := 0, exponent := -1 } := by simp [plain, h0]
    have hzero : ∀ c ∈ ['0'], c.isDigit = true := isDigit_of_mem_zeros (k := 1)
    rw [hplain]
    exact ⟨⟨hzero, '0', [], rfl, fun _ => rfl⟩, hzero, List.cons_ne_nil _ _, rfl, rfl⟩
  · rename_i h0
    obtain ⟨whole, fraction, heq, h⟩ := plainText_plainDigits h0
    refine ⟨whole, fraction, ?_, h⟩
    rw [← heq]
    rfl

theorem text_eq_cons (d : Numeric.Decimal) :
    ∃ c cs, d.text Numeric.NumberStyle.settings = c :: cs ∧ (c.isDigit = true ∨ c = '-') := by
  obtain ⟨whole, fraction, heq, h⟩ := text_eq_plainText d
  rw [heq]
  exact signOf_append_eq_cons h.isWhole d.negative _

/-- A decimal in the range of double precision is read back in its plain form. -/
theorem readNumber_decimal (hfits : d.fitsDouble = true) (rest : List Char) :
    readNumber (d.text Numeric.NumberStyle.settings ++ '\n' :: rest) =
      some (float (.decimal (plain d)), '\n' :: rest) := by
  obtain ⟨whole, fraction, heq, h⟩ := text_eq_plainText d
  have hfits' : (plain d).fitsDouble = true := by
    rwa [Numeric.Decimal.fitsDouble,
      Numeric.Decimal.doubleMagnitude_congr (Numeric.Decimal.absValue_plain d)]
  have hread := readFinite_plainText h hfits' rest
  have hdate : readDateTime
      (signOf d.negative ++ (whole ++ '.' :: (fraction ++ '\n' :: rest))) = none :=
    readDateTime_signOf h.isWhole.1 (by decide) (by decide) (by decide)
  rw [Numeric.Decimal.negative_plain] at hread
  rw [heq, List.append_assoc, List.append_assoc, List.cons_append, readNumber, hdate, hread]
  rfl

end Toml

end TouchOverlay
