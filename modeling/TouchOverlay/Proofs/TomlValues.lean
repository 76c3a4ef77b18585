import TouchOverlay.Proofs.SinglePrecision
import TouchOverlay.Proofs.TomlNumbers
import TouchOverlay.Proofs.TomlStrings

/-!
# Plain values read back

A value that stands behind a key on its line is read back with the rest of the text
(`readValue_renderScalar`). It is the same value, except that a decimal comes back in its plain form.
That is the same number in single precision (`TomlFloat.toSingle_reread`), and every single precision
number is written so that it reads as itself (`TomlFloat.toSingle_ofSingle`).
-/

namespace TouchOverlay

namespace TomlFloat

/-- A float as it is read after it was written. -/
def reread : TomlFloat → TomlFloat
  | decimal d => decimal d.plain
  | x => x

theorem toSingle_reread (x : TomlFloat) : x.reread.toSingle = x.toSingle := by
  cases x with
  | decimal d =>
    simp only [reread, toSingle, Numeric.Decimal.toSingle, Numeric.Decimal.negative_plain,
      Numeric.Decimal.doubleMagnitude_congr (Numeric.Decimal.absValue_plain d)]
  | infinite negative => rfl
  | nan => rfl

theorem doubleMagnitude_lt {x : Float32} (h : x.magnitude < Numeric.binary32.infinityBits) :
    x.doubleMagnitude < Numeric.binary64.infinityBits :=
  (Numeric.Format.wider_binary64.value_ofFormat h).1

theorem doubleMagnitude_wideDecimal {x : Float32}
    (h : x.magnitude < Numeric.binary32.infinityBits) (tie : Numeric.Tie) :
    (Numeric.wideDecimal tie x).doubleMagnitude = x.doubleMagnitude :=
  Numeric.doubleMagnitude_shortest (doubleMagnitude_lt h) tie

/-- Every single precision number is written so that it reads as itself. -/
theorem toSingle_ofSingle (x : Float32) : (ofSingle x).toSingle = x := by
  unfold ofSingle
  split
  · rename_i hnan
    exact (Float32.eq_of_isNaN hnan).symm
  · rename_i hnan
    rcases Float32.isInf_cases (by simpa using hnan) with ⟨hinf, hmag⟩ | ⟨hinf, hmag⟩
    · rw [if_pos hinf, toSingle, ← hmag, Float32.single_signBit_magnitude]
    · rw [if_neg (by simp [hinf]), toSingle, Numeric.Decimal.toSingle,
        doubleMagnitude_wideDecimal hmag, Float32.doubleMagnitude,
        Numeric.Format.wider_binary64.ofFormat_ofFormat hmag]
      exact Float32.single_signBit_magnitude x

end TomlFloat

namespace Toml
variable {c : Char} {cs rest : List Char} {n depth : Nat} {v : Toml}

/-! ## Values -/

/-- Values that stand behind a key on its line, and are in the range of their kind. -/
def IsScalar : Toml → Prop
  | string _ | boolean _ => True
  | integer i => -0x8000000000000000 ≤ i ∧ i < 0x8000000000000000
  | float (.decimal d) => d.fitsDouble = true
  | float _ => True
  | _ => False

theorem isScalar_ofSingle (x : Float32) : (float (.ofSingle x)).IsScalar := by
  unfold TomlFloat.ofSingle
  split
  · trivial
  · rename_i hnan
    rcases Float32.isInf_cases (by simpa using hnan) with ⟨hinf, -⟩ | ⟨hinf, hmag⟩
    · rw [if_pos hinf]
      trivial
    · rw [if_neg (by simp [hinf])]
      refine decide_eq_true ?_
      rw [TomlFloat.doubleMagnitude_wideDecimal hmag]
      exact TomlFloat.doubleMagnitude_lt hmag

/-- A value as it is read after it was written. -/
def reread : Toml → Toml
  | float x => float x.reread
  | v => v

theorem renderString_eq_cons (s : String) :
    ∃ c cs, renderString s = c :: cs ∧ (c = '"' ∨ c = '\'') := by
  unfold renderString
  simp only
  split_ifs
  all_goals first | exact ⟨'"', _, rfl, .inl rfl⟩ | exact ⟨'\'', _, rfl, .inr rfl⟩

theorem readValue_number (hc : c.isDigit = true ∨ c = '-') :
    readValue (n + 1) depth (c :: cs) = readNumber (c :: cs) := by
  rw [readValue]
  all_goals
    intro tail heq
    obtain ⟨rfl, -⟩ := List.cons.inj heq
    revert hc
    decide

theorem readValue_renderString (s : String) :
    readValue (n + 1) depth (renderString s ++ '\n' :: rest) =
      some (string s, '\n' :: rest) := by
  have hread : readString (renderString s ++ '\n' :: rest) = some (s, '\n' :: rest) :=
    readString_renderString s (by simp) (by simp)
  obtain ⟨c, cs, heq, rfl | rfl⟩ := renderString_eq_cons s <;>
  · rw [heq, List.cons_append] at hread ⊢
    rw [readValue, hread]
    rfl

theorem readValue_renderFloat (x : TomlFloat) (hx : (float x).IsScalar) :
    readValue (n + 1) depth (renderFloat x ++ '\n' :: rest) =
      some (float x.reread, '\n' :: rest) := by
  cases x with
  | decimal d =>
    have hread := readNumber_decimal hx rest
    obtain ⟨c, cs, heq, hc⟩ := text_eq_cons d
    rw [heq, List.cons_append] at hread
    rw [renderFloat, heq, List.cons_append, readValue_number hc, hread]
    rfl
  | infinite negative => cases negative <;> rfl
  | nan => rfl

/-- What is written for a value is read up to the end of its line. -/
theorem readValue_renderScalar (hv : v.IsScalar) :
    readValue (n + 1) depth (renderScalar v ++ '\n' :: rest) = some (v.reread, '\n' :: rest) := by
  cases v with
  | string s => exact readValue_renderString s
  | boolean b => cases b <;> rfl
  | integer i =>
    have hread := readNumber_intDigits hv rest
    obtain ⟨c, cs, heq, hc⟩ := intDigits_eq_cons i
    rw [heq, List.cons_append] at hread
    rw [renderScalar, heq, List.cons_append, readValue_number hc, hread]
    rfl
  | float x => exact readValue_renderFloat x hv
  | _ => cases hv

theorem not_isSpace_of_begins_number (hc : c.isDigit = true ∨ c = '-') : isSpace c = false := by
  by_contra hspace
  simp only [isSpace, Bool.not_eq_false, Bool.or_eq_true, decide_eq_true_eq] at hspace
  rcases hspace with rfl | rfl <;> revert hc <;> decide

theorem renderScalar_eq_cons (hv : v.IsScalar) :
    ∃ c cs, renderScalar v = c :: cs ∧ isSpace c = false := by
  cases v with
  | string s =>
    obtain ⟨c, cs, heq, rfl | rfl⟩ := renderString_eq_cons s <;> exact ⟨_, cs, heq, by decide⟩
  | boolean b => cases b <;> exact ⟨_, _, rfl, by decide⟩
  | integer i =>
    obtain ⟨c, cs, heq, hc⟩ := intDigits_eq_cons i
    exact ⟨c, cs, heq, not_isSpace_of_begins_number hc⟩
  | float x =>
    cases x with
    | decimal d =>
      obtain ⟨c, cs, heq, hc⟩ := text_eq_cons d
      exact ⟨c, cs, heq, not_isSpace_of_begins_number hc⟩
    | infinite negative => cases negative <;> exact ⟨_, _, rfl, by decide⟩
    | nan => exact ⟨_, _, rfl, by decide⟩
  | _ => cases hv

end Toml

end TouchOverlay
