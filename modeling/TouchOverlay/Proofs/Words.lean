import Mathlib.Data.List.Forall2
import Mathlib.Data.List.TakeWhile
import TouchOverlay.Text.Quoted

/-!
# Words between blanks, letters in two cases, integer literals

What a reader of names can rely on. Comparing without regard to case is `SameWord`, which tells
apart all characters but the two cases of an ASCII letter. Blanks around a text do not change what
`trim` leaves of it (`trimBlanks_append`). `readInt?` accepts exactly the texts that are an
`IsLiteral`; a literal has no letters, so it is the same word as no other text.
-/

namespace TouchOverlay.Text
variable {c d : Char} {l r u v w cs : List Char} {s t : String} {i : Int} {n : Nat}

/-! ## Letters in two cases -/

/-- The same character, or one ASCII letter in its two cases. -/
def SameLetter (c d : Char) : Prop :=
  c = d ∨ (c.isUpper = true ∧ d.toNat = c.toNat + 32) ∨ (d.isUpper = true ∧ c.toNat = d.toNat + 32)

/-- Equal up to the case of ASCII letters. -/
def SameWord (s t : String) : Prop := List.Forall₂ SameLetter s.toList t.toList

theorem isUpper_iff : c.isUpper = true ↔ 65 ≤ c.toNat ∧ c.toNat ≤ 90 :=
  decide_eq_true_iff.trans (and_congr UInt32.le_iff_toNat_le UInt32.le_iff_toNat_le)

theorem isLower_iff : c.isLower = true ↔ 97 ≤ c.toNat ∧ c.toNat ≤ 122 :=
  Bool.and_eq_true_iff.trans (and_congr (decide_eq_true_iff.trans UInt32.le_iff_toNat_le)
    (decide_eq_true_iff.trans UInt32.le_iff_toNat_le))

theorem not_isAlpha_iff : c.isAlpha = false ↔ ¬ c.isUpper = true ∧ ¬ c.isLower = true := by
  rw [Bool.not_eq_true, Bool.not_eq_true]
  exact Bool.or_eq_false_iff

theorem isDigit_iff : c.isDigit = true ↔ 48 ≤ c.toNat ∧ c.toNat ≤ 57 := by
  simp [Char.isDigit, UInt32.le_iff_toNat_le]

theorem toNat_toLower (c : Char) :
    c.toLower.toNat = if c.isUpper = true then c.toNat + 32 else c.toNat := by
  by_cases h : c.isUpper = true
  · obtain ⟨h₁, h₂⟩ := isUpper_iff.1 h
    have hc : c.val ≥ 'A'.val ∧ c.val ≤ 'Z'.val := of_decide_eq_true h
    have hlow : c.toLower.toNat = (c.val + ('a'.val - 'A'.val)).toNat :=
      congrArg Char.toNat (dif_pos hc)
    rw [if_pos h, hlow, UInt32.toNat_add]
    show (c.toNat + 32) % 4294967296 = c.toNat + 32
    omega
  · have hc : ¬ (c.val ≥ 'A'.val ∧ c.val ≤ 'Z'.val) := fun hc => h (decide_eq_true hc)
    rw [if_neg h]
    exact congrArg Char.toNat (dif_neg hc)

theorem sameLetter_toLower (c : Char) : SameLetter c.toLower c := by
  have h := toNat_toLower c
  by_cases hu : c.isUpper = true
  · rw [if_pos hu] at h
    exact .inr (.inr ⟨hu, h⟩)
  · rw [if_neg hu] at h
    exact .inl (Char.toNat_inj.1 h)

theorem toLower_eq_toLower_iff : c.toLower = d.toLower ↔ SameLetter c d := by
  rw [← Char.toNat_inj, toNat_toLower, toNat_toLower, SameLetter, ← Char.toNat_inj]
  simp only [isUpper_iff]
  split <;> split <;> omega

theorem sameIgnoringCase_iff : sameIgnoringCase s t = true ↔ SameWord s t := by
  rw [sameIgnoringCase, decide_eq_true_iff, ← List.forall₂_eq_eq_eq, List.forall₂_map_left_iff,
    List.forall₂_map_right_iff]
  simp only [toLower_eq_toLower_iff]
  rfl

/-- What is no letter has one case only. -/
theorem SameLetter.eq_of_not_isAlpha (h : SameLetter c d) (hc : c.isAlpha = false) : c = d := by
  obtain ⟨hup, hlow⟩ := not_isAlpha_iff.1 hc
  rw [isUpper_iff] at hup
  rw [isLower_iff] at hlow
  rw [SameLetter, isUpper_iff, isUpper_iff] at h
  rcases h with h | h | h
  · exact h
  · exact absurd h.1 hup
  · omega

theorem eq_of_forall₂_sameLetter (h : List.Forall₂ SameLetter v w)
    (hv : ∀ c ∈ v, c.isAlpha = false) : v = w := by
  induction h with
  | nil => rfl
  | cons hcd _ ih =>
    obtain ⟨hc, hv⟩ := List.forall_mem_cons.1 hv
    rw [hcd.eq_of_not_isAlpha hc, ih hv]

namespace SameWord

theorem refl (s : String) : SameWord s s := sameIgnoringCase_iff.1 (sameIgnoringCase_self s)

theorem symm (h : SameWord s t) : SameWord t s := by
  rw [← sameIgnoringCase_iff, sameIgnoringCase_comm]
  exact sameIgnoringCase_iff.2 h

theorem trans {x : String} (h : SameWord s t) (h' : SameWord t x) : SameWord s x := by
  rw [← sameIgnoringCase_iff, sameIgnoringCase, decide_eq_true_iff] at *
  exact h.trans h'

theorem toLower (s : String) : SameWord s.toLower s := by
  have h : s.toLower.toList = s.toList.map Char.toLower := String.toList_map
  rw [SameWord, h, List.forall₂_map_left_iff]
  exact List.forall₂_same.2 fun c _ => sameLetter_toLower c

/-- In lower case a word is spelt in one way. -/
theorem toLower_eq (h : SameWord s t) : s.toLower = t.toLower := by
  rw [← sameIgnoringCase_iff, sameIgnoringCase, decide_eq_true_iff] at h
  exact String.toList_inj.1 (String.toList_map.trans (h.trans String.toList_map.symm))

end SameWord

/-! ## Blanks around a word -/

theorem isBlank_of_graphic (h₁ : 33 ≤ c.toNat) (h₂ : c.toNat ≤ 126) : isBlank c = false := by
  simp only [isBlank, Bool.or_eq_false_iff, Bool.and_eq_false_iff, decide_eq_false_iff_not]
  omega

theorem isBlank_toLower (c : Char) : isBlank c.toLower = isBlank c := by
  have h := toNat_toLower c
  by_cases hu : c.isUpper = true
  · rw [if_pos hu] at h
    rw [isUpper_iff] at hu
    rw [isBlank_of_graphic (c := c) (by omega) (by omega), isBlank_of_graphic (by omega) (by omega)]
  · rw [if_neg hu] at h
    rw [Char.toNat_inj.1 h]

theorem trimBlanks_map_toLower (u : List Char) :
    trimBlanks (u.map Char.toLower) = (trimBlanks u).map Char.toLower := by
  have hblank : isBlank ∘ Char.toLower = isBlank := funext isBlank_toLower
  simp only [trimBlanks, List.dropWhile_map, ← List.map_reverse, hblank]

theorem trimBlanks_append (hl : ∀ c ∈ l, isBlank c = true) (hr : ∀ c ∈ r, isBlank c = true) :
    trimBlanks (l ++ u ++ r) = trimBlanks u := by
  have hr' : ∀ c ∈ r.reverse, isBlank c = true := fun c hc => hr c (List.mem_reverse.1 hc)
  rw [trimBlanks, List.append_assoc, List.dropWhile_append_of_pos hl, List.dropWhile_append]
  split
  · rename_i hnil
    rw [trimBlanks, List.isEmpty_iff.1 hnil, List.dropWhile_eq_nil_iff.2 hr]
  · rw [List.reverse_append, List.dropWhile_append_of_pos hr', trimBlanks]

theorem dropWhile_isBlank_of_forall (h : ∀ c ∈ u, isBlank c = false) : u.dropWhile isBlank = u := by
  cases u with
  | nil => rfl
  | cons c u => rw [List.dropWhile_cons_of_neg (by simp [h c List.mem_cons_self])]

theorem trimBlanks_of_forall (h : ∀ c ∈ u, isBlank c = false) : trimBlanks u = u := by
  have hrev : ∀ c ∈ u.reverse, isBlank c = false := fun c hc => h c (List.mem_reverse.1 hc)
  rw [trimBlanks, dropWhile_isBlank_of_forall h, dropWhile_isBlank_of_forall hrev,
    List.reverse_reverse]

theorem trim_of_forall (h : ∀ c ∈ s.toList, isBlank c = false) : trim s = s := by
  rw [trim, trimBlanks_of_forall h, String.ofList_toList]

/-- The same word, with blanks around it. -/
def SamePadded (s t : String) : Prop :=
  ∃ l v r l' w r', s.toList = l ++ v ++ r ∧ t.toList = l' ++ w ++ r' ∧
    (∀ c ∈ l ++ r ++ (l' ++ r'), isBlank c = true) ∧ List.Forall₂ SameLetter v w

theorem SamePadded.sameWord_trim (h : SamePadded s t) : SameWord (trim s) (trim t) := by
  obtain ⟨l, v, r, l', w, r', hs, ht, hb, hvw⟩ := h
  simp only [List.forall_mem_append] at hb
  obtain ⟨⟨hl, hr⟩, hl', hr'⟩ := hb
  have hv : trimBlanks s.toList = trimBlanks v := by rw [hs, trimBlanks_append hl hr]
  have hw : trimBlanks t.toList = trimBlanks w := by rw [ht, trimBlanks_append hl' hr']
  -- both ends are trimmed alike, since the case of a letter does not make it a blank
  have hmap : v.map Char.toLower = w.map Char.toLower := by
    rwa [← List.forall₂_eq_eq_eq, List.forall₂_map_left_iff, List.forall₂_map_right_iff,
      funext₂ fun c d => propext toLower_eq_toLower_iff]
  rw [← sameIgnoringCase_iff, sameIgnoringCase, decide_eq_true_iff, trim, trim,
    String.toList_ofList, String.toList_ofList, hv, hw, ← trimBlanks_map_toLower,
    ← trimBlanks_map_toLower, hmap]

/-! ## Integer literals -/

/-- An optional sign and one or more decimal digits, and the integer that they write. -/
inductive IsLiteral : List Char → Int → Prop
  | unsigned {cs : List Char} (hne : cs ≠ []) (hd : ∀ c ∈ cs, c.isDigit = true) :
    IsLiteral cs (Nat.ofDigitChars 10 cs 0)
  | plus {cs : List Char} (hne : cs ≠ []) (hd : ∀ c ∈ cs, c.isDigit = true) :
    IsLiteral ('+' :: cs) (Nat.ofDigitChars 10 cs 0)
  | minus {cs : List Char} (hne : cs ≠ []) (hd : ∀ c ∈ cs, c.isDigit = true) :
    IsLiteral ('-' :: cs) (-Nat.ofDigitChars 10 cs 0)

theorem readNat?_eq_some_iff : readNat? cs = some n ↔
    (cs ≠ [] ∧ ∀ c ∈ cs, c.isDigit = true) ∧ Nat.ofDigitChars 10 cs 0 = n := by
  simp [readNat?, List.all_eq_true]

theorem readInt?_of_readNat? (h : readNat? cs = some n) : readInt? cs = some (n : Int) := by
  obtain ⟨⟨-, hd⟩, -⟩ := readNat?_eq_some_iff.1 h
  unfold readInt?
  split
  · exact absurd (hd '-' List.mem_cons_self) (by decide)
  · exact absurd (hd '+' List.mem_cons_self) (by decide)
  · rw [h]
    rfl

/-- What follows the sign, if there is one, is read as a number without one. -/
theorem readInt?_cases (h : readInt? cs = some i) : ∃ n : Nat,
    (∃ ds, cs = '-' :: ds ∧ readNat? ds = some n ∧ i = -n) ∨
    (∃ ds, cs = '+' :: ds ∧ readNat? ds = some n ∧ i = n) ∨ readNat? cs = some n ∧ i = n := by
  unfold readInt? at h
  split at h
  · rename_i ds
    cases hn : readNat? ds with
    | none => simp [hn] at h
    | some n => exact ⟨n, .inl ⟨ds, rfl, hn, by simpa [hn, eq_comm] using h⟩⟩
  · rename_i ds
    obtain ⟨n, hn, rfl⟩ := Option.map_eq_some_iff.1 h
    exact ⟨n, .inr (.inl ⟨ds, rfl, hn, rfl⟩)⟩
  · obtain ⟨n, hn, rfl⟩ := Option.map_eq_some_iff.1 h
    exact ⟨n, .inr (.inr ⟨hn, rfl⟩)⟩

theorem readInt?_eq_some_iff : readInt? cs = some i ↔ IsLiteral cs i := by
  constructor
  · intro h
    obtain ⟨n, ⟨ds, rfl, hn, rfl⟩ | ⟨ds, rfl, hn, rfl⟩ | ⟨hn, rfl⟩⟩ := readInt?_cases h <;>
      obtain ⟨⟨hne, hd⟩, rfl⟩ := readNat?_eq_some_iff.1 hn
    · exact .minus hne hd
    · exact .plus hne hd
    · exact .unsigned hne hd
  · intro h
    cases h with
    | unsigned hne hd => exact readInt?_of_readNat? (readNat?_eq_some_iff.2 ⟨⟨hne, hd⟩, rfl⟩)
    | plus hne hd => rw [readInt?, readNat?_eq_some_iff.2 ⟨⟨hne, hd⟩, rfl⟩]; rfl
    | minus hne hd => rw [readInt?, readNat?_eq_some_iff.2 ⟨⟨hne, hd⟩, rfl⟩]; rfl

/-- Digits and signs. -/
theorem IsLiteral.isDigit_or (h : IsLiteral cs i) : ∀ c ∈ cs, c.isDigit = true ∨ c = '+' ∨ c = '-' := by
  cases h with
  | unsigned _ hd => exact fun c hc => .inl (hd c hc)
  | plus _ hd => exact List.forall_mem_cons.2 ⟨.inr (.inl rfl), fun c hc => .inl (hd c hc)⟩
  | minus _ hd => exact List.forall_mem_cons.2 ⟨.inr (.inr rfl), fun c hc => .inl (hd c hc)⟩

theorem IsLiteral.not_isAlpha (h : IsLiteral cs i) : ∀ c ∈ cs, c.isAlpha = false := by
  intro c hc
  rcases h.isDigit_or c hc with hd | rfl | rfl
  · rw [isDigit_iff] at hd
    rw [not_isAlpha_iff, isUpper_iff, isLower_iff]
    omega
  · rfl
  · rfl

theorem IsLiteral.not_isBlank (h : IsLiteral cs i) : ∀ c ∈ cs, isBlank c = false := by
  intro c hc
  rcases h.isDigit_or c hc with hd | rfl | rfl
  · rw [isDigit_iff] at hd
    exact isBlank_of_graphic (by omega) (by omega)
  · rfl
  · rfl

theorem isLiteral_intDigits (i : Int) : IsLiteral (intDigits i) i :=
  readInt?_eq_some_iff.1 (readInt?_intDigits i)

/-- A literal is spelt in one way only, as far as case goes. -/
theorem SameWord.eq_of_isLiteral (h : SameWord s t) (hs : IsLiteral s.toList i) : s = t :=
  String.toList_inj.1 (eq_of_forall₂_sameLetter h hs.not_isAlpha)

end TouchOverlay.Text
