import TouchOverlay.Numeric.Decimal

/-!
# Shortest decimals

The shortest decimal of a binary number is the one with the fewest digits that reads back as the
same number, and of those the nearest. On each grid of decimals the two neighbours of the number
are tried; the first grid with one that reads back is the answer (`firstOnGrids_accepts`).
-/

namespace TouchOverlay.Numeric

/-- Which of two decimals at the same distance is chosen. -/
inductive Tie
  | toEven
  | up
deriving DecidableEq, Repr

/-- The number of decimal digits of `n`, at least one. -/
def digitCount (n : Nat) : Nat := (Nat.toDigits 10 n).length

/-- A position at or above the first decimal digit of `num / den`: the number is below `10 ^ p`. -/
def leadingPosition (num den : Nat) : Int :=
  let (n, d) := (digitCount num, digitCount den)
  (n : Int) - d + 1

/-- Numerator and denominator of `num / den / 10 ^ e`. -/
def scaleDownTen (num den : Nat) (e : Int) : Nat × Nat :=
  (num * Nat.pow 10 (-e).toNat, den * Nat.pow 10 e.toNat)

/-- Of the neighbours of `num / den` on the grid of multiples of `10 ^ e`, the nearest one that
`reads` accepts. -/
def nearestOnGrid (reads : Decimal → Bool) (tie : Tie) (num den : Nat) (e : Int) :
    Option Decimal :=
  let (a, b) := scaleDownTen num den e
  let q := a / b
  let r := a % b
  let below : Decimal := { digits := q, exponent := e }
  let above : Decimal := { digits := q + 1, exponent := e }
  let upFirst := b < 2 * r || (2 * r == b && (tie == .up || q % 2 == 1))
  let (first, second) := if upFirst then (above, below) else (below, above)
  if reads first then some first else if reads second then some second else none

/-- The first accepted decimal on the grids `10 ^ e`, `10 ^ (e - 1)`, …, at most `count` of them. -/
def firstOnGrids (reads : Decimal → Bool) (tie : Tie) (num den : Nat) : Nat → Int → Option Decimal
  | 0, _ => none
  | count + 1, e => (nearestOnGrid reads tie num den e).or
      (firstOnGrids reads tie num den count (e - 1))

/-- The decimal without zeros at the end of its digits, down to the given number of steps. -/
def stripZeros : Nat → Decimal → Decimal
  | 0, d => d
  | n + 1, d => if d.digits ≠ 0 ∧ d.digits % 10 = 0
      then stripZeros n { d with digits := d.digits / 10, exponent := d.exponent + 1 } else d

/-- Every digit of `m * 2 ^ e`, which a finite decimal can write. -/
def exactDecimal (m : Nat) (e : Int) : Decimal :=
  if 0 ≤ e then ⟨false, m <<< e.toNat, 0⟩ else ⟨false, m * Nat.pow 5 (-e).toNat, e⟩

/-- The grids that can matter: a double needs at most 17 digits, and the position of the first
digit is known up to two places. -/
def gridCount : Nat := 21

/-- The shortest decimal that reads back as a finite magnitude of the format. -/
def shortest (f : Format) (tie : Tie) (bits : Nat) : Decimal :=
  if bits = 0 then ⟨false, 0, 0⟩
  else
    let (m, e) := f.decode bits
    let (num, den) := (m <<< e.toNat, 1 <<< (-e).toNat)
    let reads := fun d : Decimal => d.digits ≠ 0 ∧ d.magnitude f = bits
    match firstOnGrids (reads ·) tie num den gridCount (leadingPosition num den) with
    | some d => stripZeros 400 d
    | none => exactDecimal m e

/-! ## What is chosen is accepted -/

theorem nearestOnGrid_accepts {reads : Decimal → Bool} {tie : Tie} {num den : Nat} {e : Int}
    {d : Decimal} (h : nearestOnGrid reads tie num den e = some d) : reads d = true := by
  unfold nearestOnGrid at h
  grind

theorem firstOnGrids_accepts {reads : Decimal → Bool} {tie : Tie} {num den : Nat} :
    ∀ {count : Nat} {e : Int} {d : Decimal},
      firstOnGrids reads tie num den count e = some d → reads d = true
  | 0, _, _, h => by simp [firstOnGrids] at h
  | count + 1, e, d, h => by
    rw [firstOnGrids, Option.or_eq_some_iff] at h
    rcases h with h | ⟨_, h⟩
    · exact nearestOnGrid_accepts h
    · exact firstOnGrids_accepts h

end TouchOverlay.Numeric
