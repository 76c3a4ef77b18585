/-!
# Integers as text

Decimal and hexadecimal integers. `readNat?` reads what `natDigits` writes, and `readInt?` adds an
optional sign; `readNat?_natDigits` and `readInt?_intDigits` are the round trips. Only zero is
written with a zero in front (`natDigits_eq_cons`).
-/

namespace TouchOverlay.Text

/-- The natural number that one or more decimal digits write. -/
def readNat? (cs : List Char) : Option Nat :=
  if cs ≠ [] ∧ cs.all Char.isDigit then some (Nat.ofDigitChars 10 cs 0) else none

/-- An integer: digits after an optional sign. -/
def readInt? : List Char → Option Int
  | '-' :: cs => (readNat? cs).map fun n => -(n : Int)
  | '+' :: cs => (readNat? cs).map Int.ofNat
  | cs => (readNat? cs).map Int.ofNat

def natDigits (n : Nat) : List Char := Nat.toDigits 10 n

/-- An integer as digits, after a minus sign if it is negative. -/
def intDigits : Int → List Char
  | .ofNat n => natDigits n
  | .negSucc n => '-' :: natDigits (n + 1)

theorem natDigits_ne_nil (n : Nat) : natDigits n ≠ [] := Nat.toDigits_ne_nil

theorem isDigit_of_mem_natDigits {n : Nat} : ∀ c ∈ natDigits n, c.isDigit = true :=
  fun _ hc => Nat.isDigit_of_mem_toDigits (by decide) (by decide) hc

theorem natDigits_eq_digit_cons (n : Nat) : ∃ c cs, natDigits n = c :: cs ∧ c.isDigit = true := by
  obtain ⟨c, cs, h⟩ := List.exists_cons_of_ne_nil (natDigits_ne_nil n)
  exact ⟨c, cs, h, isDigit_of_mem_natDigits c (h ▸ List.mem_cons_self)⟩

/-- Only zero is written with a zero in front. -/
theorem natDigits_eq_cons {n : Nat} (h : 0 < n) : ∃ c cs, natDigits n = c :: cs ∧ c ≠ '0' := by
  induction n using Nat.strongRecOn with
  | ind n ih =>
    by_cases hn : n < 10
    · have hdigit : ∀ d < 10, 0 < d → Nat.digitChar d ≠ '0' := by decide
      exact ⟨n.digitChar, [], Nat.toDigits_of_lt_base hn, hdigit n hn h⟩
    · obtain ⟨c, cs, he, hc⟩ := ih (n / 10) (by omega) (by omega)
      refine ⟨c, cs ++ [(n % 10).digitChar], ?_, hc⟩
      rw [natDigits, Nat.toDigits_of_base_le (by decide) (by omega), ← List.cons_append, ← he,
        natDigits]

theorem readNat?_natDigits (n : Nat) : readNat? (natDigits n) = some n := by
  have hall : (natDigits n).all Char.isDigit = true := List.all_eq_true.2 isDigit_of_mem_natDigits
  rw [readNat?, if_pos ⟨natDigits_ne_nil n, hall⟩, natDigits, Nat.ofDigitChars_ten_toDigits]

theorem readNat?_cons_of_not_digit {c : Char} {cs : List Char} (h : c.isDigit = false) :
    readNat? (c :: cs) = none := by
  simp [readNat?, h]

theorem readInt?_intDigits (i : Int) : readInt? (intDigits i) = some i := by
  cases i with
  | ofNat n =>
    have h := readNat?_natDigits n
    rw [intDigits]
    unfold readInt?
    split
    · rename_i cs hcs
      rw [hcs, readNat?_cons_of_not_digit (by decide)] at h
      simp at h
    · rename_i cs hcs
      rw [hcs, readNat?_cons_of_not_digit (by decide)] at h
      simp at h
    · simp [h]
  | negSucc n => simp [intDigits, readInt?, readNat?_natDigits]; omega

/-! ## Hexadecimal digits -/

def hexValue? (c : Char) : Option Nat :=
  if '0' ≤ c ∧ c ≤ '9' then some (c.toNat - '0'.toNat)
  else if 'a' ≤ c ∧ c ≤ 'f' then some (c.toNat - 'a'.toNat + 10)
  else if 'A' ≤ c ∧ c ≤ 'F' then some (c.toNat - 'A'.toNat + 10)
  else none

/-- The number that hexadecimal digits write. -/
def readHex? (cs : List Char) : Option Nat :=
  cs.foldlM (fun n c => (hexValue? c).map (16 * n + ·)) 0

/-- The last `width` hexadecimal digits of a number. -/
def fixedHex : Nat → Nat → List Char
  | 0, _ => []
  | width + 1, n => fixedHex width (n / 16) ++ [Nat.digitChar (n % 16)]

end TouchOverlay.Text
