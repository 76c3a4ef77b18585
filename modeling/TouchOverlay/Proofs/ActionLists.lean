import Mathlib.Data.List.TakeDrop
import TouchOverlay.Layout.Json
import TouchOverlay.Proofs.ActionCodes

/-!
# Lists of actions as JSON

An array of integers is written without blanks, and the reader gives it back (`read_write_ints`):
digits are read up to the comma or bracket after them, and no written integer begins with a zero
that it does not consist of. A list of actions is written as the integers of its actions. Whatever
is read is proper, so its integer decodes to it.
-/

namespace TouchOverlay

namespace Json
open Text (natDigits isDigit_of_mem_natDigits natDigits_eq_cons natDigits_eq_digit_cons)
variable {c : Char} {cs ds rest : List Char} {i : Int} {is : List Int} {n k : Nat} {negative : Bool}

/-! ## Digits -/

/-- No number goes on with these characters. -/
def EndsNumber (rest : List Char) : Prop :=
  ∀ c ∈ rest.head?, c.isDigit = false ∧ c ≠ '.' ∧ c ≠ 'e' ∧ c ≠ 'E'

theorem spanDigits_append (hd : ∀ c ∈ ds, c.isDigit = true) (hr : EndsNumber rest) :
    spanDigits (ds ++ rest) = (ds, rest) := by
  have htake : rest.takeWhile Char.isDigit = [] := by
    cases rest with
    | nil => rfl
    | cons c rest => rw [List.takeWhile_cons_of_neg (by simp [(hr c rfl).1])]
  have hdrop : rest.dropWhile Char.isDigit = rest := by
    cases rest with
    | nil => rfl
    | cons c rest => rw [List.dropWhile_cons_of_neg (by simp [(hr c rfl).1])]
  rw [spanDigits, List.span_eq_takeWhile_dropWhile, List.takeWhile_append_of_pos hd,
    List.dropWhile_append_of_pos hd, htake, hdrop, List.append_nil]

theorem readWhole_natDigits (hr : EndsNumber rest) :
    readWhole (natDigits n ++ rest) = some (natDigits n, rest) := by
  rw [readWhole, spanDigits_append isDigit_of_mem_natDigits hr]
  rcases Nat.eq_zero_or_pos n with rfl | hn
  · rfl
  · obtain ⟨c, cs, he, hc⟩ := natDigits_eq_cons hn
    rw [he]
    split
    · rename_i heq
      cases heq
    · rename_i heq
      cases heq
      exact absurd rfl hc
    · rename_i heq
      cases heq
      exact absurd rfl hc
    · rename_i heq
      cases heq
      rfl

theorem readFraction_of_ends (hr : EndsNumber rest) : readFraction rest = some ([], rest) := by
  unfold readFraction
  split
  · exact absurd rfl (hr '.' rfl).2.1
  · rfl

theorem readExponent_of_ends (hr : EndsNumber rest) : readExponent rest = some (none, rest) := by
  unfold readExponent
  split
  · exact absurd rfl (hr 'e' rfl).2.2.1
  · exact absurd rfl (hr 'E' rfl).2.2.2
  · rfl

theorem le_ofDigitChars (k : Nat) (ds : List Char) : k ≤ Nat.ofDigitChars 10 ds k := by
  induction ds generalizing k with
  | nil => exact Nat.le_refl k
  | cons c ds ih =>
    rw [Nat.ofDigitChars_cons]
    exact Nat.le_trans (by omega) (ih _)

/-- Digits that fit are all kept. -/
theorem keepDigits_of_lt (h : Nat.ofDigitChars 10 ds k < 0x10000000000000000) :
    keepDigits k ds = (Nat.ofDigitChars 10 ds k, []) := by
  induction ds generalizing k with
  | nil => rfl
  | cons c ds ih =>
    have hcons : Nat.ofDigitChars 10 (c :: ds) k =
        Nat.ofDigitChars 10 ds (Nat.ofDigitChars 10 [c] k) := Nat.ofDigitChars_append (l := [c]) k
    rw [hcons] at h ⊢
    have hc := Nat.lt_of_le_of_lt (le_ofDigitChars _ ds) h
    rw [keepDigits, if_pos hc, ih h]

/-! ## Integers -/

theorem readUnsigned_natDigits (hn : n < 0x10000000000000000) (hr : EndsNumber rest) :
    readUnsigned negative (natDigits n ++ rest) =
      some ({ decimal := ⟨negative, n, 0⟩, integral := true }, rest) := by
  have hvalue : Nat.ofDigitChars 10 (natDigits n) 0 = n :=
    Nat.ofDigitChars_ten_toDigits
  have hkept : keptDecimal negative (natDigits n) [] 0 = ⟨negative, n, 0⟩ := by
    rw [keptDecimal, keepDigits_of_lt (by rwa [hvalue]), hvalue]
    rfl
  simp [readUnsigned, readWhole_natDigits hr, readFraction_of_ends hr, readExponent_of_ends hr,
    hvalue, hkept]

theorem renderNumber_ofInt (i : Int) :
    renderNumber (.ofInt i) = (if i < 0 then ['-'] else []) ++ natDigits i.natAbs := by
  simp [renderNumber, Numeral.ofInt, Numeric.Decimal.ofInt]

theorem render_int (i : Int) : render (int i) = renderNumber (.ofInt i) := rfl

/-- An integer begins with its sign or a digit. -/
theorem render_int_eq_cons (i : Int) :
    ∃ c cs, render (int i) = c :: cs ∧ (c.isDigit = true ∨ c = '-') := by
  obtain ⟨c, cs, h, hc⟩ := natDigits_eq_digit_cons i.natAbs
  rw [render_int, renderNumber_ofInt, h]
  split
  · exact ⟨'-', c :: cs, rfl, .inr rfl⟩
  · exact ⟨c, cs, rfl, .inl hc⟩

theorem readNumber_renderNumber (hi : i.natAbs < 0x10000000000000000) (hr : EndsNumber rest) :
    readNumber (renderNumber (.ofInt i) ++ rest) = some (.ofInt i, rest) := by
  have hread (negative : Bool) : readUnsigned negative (natDigits i.natAbs ++ rest) =
      some ({ decimal := ⟨negative, i.natAbs, 0⟩, integral := true }, rest) :=
    readUnsigned_natDigits hi hr
  by_cases hneg : i < 0
  · rw [renderNumber_ofInt, if_pos hneg, List.append_assoc, List.singleton_append, readNumber,
      hread]
    simp [Numeral.ofInt, Numeric.Decimal.ofInt, hneg]
  · rw [renderNumber_ofInt, if_neg hneg, List.nil_append]
    unfold readNumber
    split
    · -- no digit is a sign
      rename_i cs heq
      obtain ⟨c, ds, h, hc⟩ := natDigits_eq_digit_cons i.natAbs
      rw [h, List.cons_append] at heq
      obtain ⟨rfl, -⟩ := List.cons.inj heq
      exact absurd hc (by decide)
    · rw [hread]
      simp [Numeral.ofInt, Numeric.Decimal.ofInt, hneg]

theorem skip_cons_of_not_space (h : isSpace c = false) : skip (c :: cs) = c :: cs := by
  rw [skip, List.dropWhile_cons_of_neg (by simp [h])]

/-- A digit or a sign is no blank, and begins no value but a number. -/
theorem ne_of_begins_number (h : c.isDigit = true ∨ c = '-') : isSpace c = false ∧
    c ≠ 'n' ∧ c ≠ 't' ∧ c ≠ 'f' ∧ c ≠ '"' ∧ c ≠ '[' ∧ c ≠ '{' ∧ c ≠ ']' := by
  refine ⟨?_, ?_, ?_, ?_, ?_, ?_, ?_, ?_⟩
  · by_contra hspace
    simp only [isSpace, Bool.not_eq_false, Bool.or_eq_true, decide_eq_true_iff] at hspace
    rcases hspace with ((rfl | rfl) | rfl) | rfl <;> revert h <;> decide
  all_goals rintro rfl; revert h; decide

theorem readValue_int (hi : i.natAbs < 0x10000000000000000) (hr : EndsNumber rest) :
    readValue (n + 1) (render (int i) ++ rest) = (int i, rest) := by
  have hread := readNumber_renderNumber hi hr
  obtain ⟨c, cs, h, hc⟩ := render_int_eq_cons i
  obtain ⟨hspace, hn, ht, hf, hq, hb, ho, -⟩ := ne_of_begins_number hc
  rw [← render_int, h, List.cons_append] at hread
  rw [h, List.cons_append, readValue, skip_cons_of_not_space hspace]
  split
  case h_7 => rw [hread]; rfl
  all_goals
    rename_i heq
    obtain ⟨rfl, -⟩ := List.cons.inj heq
    contradiction

/-! ## Arrays of integers -/

theorem endsNumber_comma : EndsNumber (',' :: rest) := by
  rintro c ⟨⟩
  decide

theorem endsNumber_bracket : EndsNumber (']' :: rest) := by
  rintro c ⟨⟩
  decide

theorem renderItems_cons_cons (v w : Json) (vs : List Json) :
    renderItems (v :: w :: vs) = render v ++ ',' :: renderItems (w :: vs) := rfl

theorem readItems_of_last {v : Json} (hv : readValue n cs = (v, ']' :: rest)) :
    readItems (n + 1) cs = ([v], rest) := by
  have hskip : skip (']' :: rest) = ']' :: rest := skip_cons_of_not_space (by decide)
  simp only [readItems, hv, hskip]

theorem readItems_of_comma {v : Json} {vs : List Json} (hv : readValue n cs = (v, ',' :: ds))
    (hvs : readItems n ds = (vs, rest)) : readItems (n + 1) cs = (v :: vs, rest) := by
  have hskip : skip (',' :: ds) = ',' :: ds := skip_cons_of_not_space (by decide)
  simp only [readItems, hv, hskip, hvs]

theorem readItems_ints (i : Int) (hi : ∀ j ∈ i :: is, j.natAbs < 0x10000000000000000)
    (hn : is.length + 2 ≤ n) :
    readItems n (renderItems ((i :: is).map int) ++ ']' :: rest) = ((i :: is).map int, rest) := by
  induction is generalizing i n with
  | nil =>
    obtain ⟨m, rfl⟩ : ∃ m, n = m + 2 := ⟨n - 2, by simp only [List.length_nil] at hn; omega⟩
    exact readItems_of_last (readValue_int (hi i List.mem_cons_self) endsNumber_bracket)
  | cons j is ih =>
    simp only [List.length_cons] at hn
    obtain ⟨m, rfl⟩ : ∃ m, n = m + 2 := ⟨n - 2, by omega⟩
    obtain ⟨hhead, htail⟩ := List.forall_mem_cons.1 hi
    rw [List.map_cons, List.map_cons, renderItems_cons_cons, List.append_assoc, List.cons_append]
    exact readItems_of_comma (readValue_int hhead endsNumber_comma)
      (ih j htail (by omega))

theorem length_le_renderItems (is : List Int) : is.length ≤ (renderItems (is.map int)).length := by
  induction is with
  | nil => exact Nat.zero_le _
  | cons i is ih =>
    have hpos : 0 < (render (int i)).length := by
      obtain ⟨c, cs, h, -⟩ := render_int_eq_cons i
      rw [h]
      exact Nat.succ_pos _
    cases is with
    | nil => exact hpos
    | cons j is =>
      rw [List.map_cons, List.map_cons, renderItems_cons_cons, List.length_append]
      simp only [List.length_cons, List.map_cons] at ih ⊢
      omega

theorem readValue_of_items {items : List Json} (hspace : isSpace c = false) (hc : c ≠ ']')
    (h : readItems n (c :: cs) = (items, rest)) :
    readValue (n + 1) ('[' :: c :: cs) = (array items, rest) := by
  have hskip : skip ('[' :: c :: cs) = '[' :: c :: cs := skip_cons_of_not_space (by decide)
  have hskip' : skip (c :: cs) = c :: cs := skip_cons_of_not_space hspace
  rw [readValue, hskip]
  simp only [hskip']
  split
  · rename_i heq
    obtain ⟨rfl, -⟩ := List.cons.inj heq
    exact absurd rfl hc
  · simp only [h]

theorem read_ofList {v : Json} (h : readValue (2 * cs.length + 2) cs = (v, [])) :
    read (String.ofList cs) = (v, true) := by
  simp only [read, String.toList_ofList, h]
  rfl

theorem renderItems_eq_cons (i : Int) (is : List Int) :
    ∃ c cs, renderItems ((i :: is).map int) = c :: cs ∧ (c.isDigit = true ∨ c = '-') := by
  obtain ⟨c, cs, h, hc⟩ := render_int_eq_cons i
  cases is with
  | nil => exact ⟨c, cs, h, hc⟩
  | cons j is =>
    refine ⟨c, cs ++ ',' :: renderItems ((j :: is).map int), ?_, hc⟩
    rw [List.map_cons, List.map_cons, renderItems_cons_cons, h, List.cons_append]

/-- An array of integers that fit 64 bits is read back. -/
theorem read_write_ints (hi : ∀ i ∈ is, i.natAbs < 0x10000000000000000) :
    read (write (array (is.map int))) = (array (is.map int), true) := by
  apply read_ofList
  cases is with
  | nil => rfl
  | cons i is =>
    obtain ⟨c, cs, hrender, hc⟩ := renderItems_eq_cons i is
    obtain ⟨hspace, -, -, -, -, -, -, hbracket⟩ := ne_of_begins_number hc
    have hlen := length_le_renderItems (i :: is)
    rw [hrender, List.length_cons, List.length_cons] at hlen
    have hitems : readItems (2 * (cs.length + 3) + 1)
        (renderItems ((i :: is).map int) ++ [']']) = ((i :: is).map int, []) :=
      readItems_ints i hi (by omega)
    rw [hrender, List.cons_append] at hitems
    have htext : render (array ((i :: is).map int)) = '[' :: c :: (cs ++ [']']) := by
      rw [render, hrender]
      rfl
    have hlength : ('[' :: c :: (cs ++ [']'])).length = cs.length + 3 := by simp
    rw [htext, hlength]
    exact readValue_of_items hspace hbracket hitems

theorem int?_ofInt (h : i.natAbs ≤ 0x8000000000000000) : (Numeral.ofInt i).int? = some i := by
  show (if decide (i < 0) = true then
      if i.natAbs ≠ 0 ∧ i.natAbs ≤ 0x8000000000000000 then some (-(i.natAbs : Int)) else none
    else if i.natAbs < 0x10000000000000000 then some (i.natAbs : Int) else none) = some i
  by_cases hneg : i < 0
  · have habs : -(i.natAbs : Int) = i := by omega
    rw [if_pos (decide_eq_true hneg), if_pos ⟨by omega, h⟩, habs]
  · have habs : (i.natAbs : Int) = i := by omega
    rw [if_neg (by rwa [decide_eq_true_iff]), if_pos (by omega), habs]

end Json

namespace ActionCode
variable {a : ActionCode} {as : List ActionCode} {j : Json} {s : String}

/-! ## Actions -/

theorem natAbs_toInt_le (code : Int32) : code.toInt.natAbs ≤ 0x80000000 := by
  have hmin := code.minValue_le_toInt
  have hmax := code.toInt_le
  have hmin' : Int32.minValue.toInt = -2147483648 := by decide
  have hmax' : Int32.maxValue.toInt = 2147483647 := by decide
  omega

theorem int?_toJson (a : ActionCode) :
    a.toJson.int? Int32.minValue.toInt Int32.maxValue.toInt = some a.raw.toInt := by
  have hint : (Numeral.ofInt a.raw.toInt).int? = some a.raw.toInt :=
    Json.int?_ofInt (Nat.le_trans (natAbs_toInt_le _) (by decide))
  show (Numeral.ofInt a.raw.toInt).int?.filter _ = _
  rw [hint, Option.filter_some_pos]
  rw [Bool.and_eq_true, decide_eq_true_iff, decide_eq_true_iff]
  exact ⟨a.raw.minValue_le_toInt, a.raw.toInt_le⟩

theorem ofJson_toJson (h : a.IsProper) : ofJson a.toJson = .ok a := by
  have hread := int?_toJson a
  rw [toJson, Json.int] at hread ⊢
  simp only [ofJson, hread, Int32.ofInt_toInt, ofRaw_raw h]

theorem isProper_of_ofJson (h : ofJson j = .ok a) : a.IsProper := by
  unfold ofJson at h
  split at h
  · rename_i name
    cases hp : parse name with
    | ok b =>
      rw [hp] at h
      obtain rfl : b = a := Except.ok.inj h
      exact (toOption_parse_eq_some_iff.1 (congrArg Except.toOption hp)).isProper
    | error e =>
      rw [hp] at h
      cases h
  · split at h
    · obtain rfl := Except.ok.inj h
      exact (ofRaw_spec _).1
    · cases h

theorem exists_of_bind_eq_ok {ε α β : Type} {x : Except ε α} {f : α → Except ε β} {b : β}
    (h : x >>= f = .ok b) : ∃ a, x = .ok a ∧ f a = .ok b := by
  cases x with
  | error e => cases h
  | ok a => exact ⟨a, rfl, h⟩

theorem mapM_ofJson_toJson (h : ∀ a ∈ as, a.IsProper) :
    (as.map toJson).mapM ofJson = .ok as := by
  induction as with
  | nil => rfl
  | cons a as ih =>
    obtain ⟨ha, has⟩ := List.forall_mem_cons.1 h
    rw [List.map_cons, List.mapM_cons, ofJson_toJson ha, ih has]
    rfl

theorem isProper_of_mapM_ofJson {items : List Json} (h : items.mapM ofJson = .ok as) :
    ∀ a ∈ as, a.IsProper := by
  induction items generalizing as with
  | nil =>
    obtain rfl : [] = as := Except.ok.inj h
    exact nofun
  | cons j items ih =>
    rw [List.mapM_cons] at h
    obtain ⟨b, hb, h⟩ := exists_of_bind_eq_ok h
    obtain ⟨bs, hbs, h⟩ := exists_of_bind_eq_ok h
    obtain rfl : b :: bs = as := Except.ok.inj h
    exact List.forall_mem_cons.2 ⟨isProper_of_ofJson hb, ih hbs⟩

theorem listOfText_listToText (h : ∀ a ∈ as, a.IsProper) :
    listOfText (listToText as) = .ok as := by
  have hints : as.map toJson = (as.map fun a => a.raw.toInt).map Json.int := by
    rw [List.map_map]
    rfl
  have hread : Json.read (listToText as) = (.array (as.map toJson), true) := by
    rw [listToText, hints]
    refine Json.read_write_ints fun i hi => ?_
    obtain ⟨a, -, rfl⟩ := List.mem_map.1 hi
    exact Nat.lt_of_le_of_lt (natAbs_toInt_le _) (by decide)
  simp only [listOfText, Json.decode, hread, Json.arrayM, mapM_ofJson_toJson h, if_true]

theorem isProper_of_listOfText (h : listOfText s = .ok as) : ∀ a ∈ as, a.IsProper := by
  simp only [listOfText, Json.decode] at h
  split at h
  · rename_i bs hbs
    split at h
    · obtain rfl := Except.ok.inj h
      unfold Json.arrayM at hbs
      split at hbs
      · exact isProper_of_mapM_ofJson hbs
      · cases hbs
    · cases h
  · cases h

/-- **One round trip through JSON normalises a list of actions.** Whatever text a list is read
from, with numbers and names and blanks between them, the text that it is written as is read as the
same list, which is written as the same text. Every list of integers survives as the actions that
they decode to. -/
theorem one_round_trip_normalises :
    (∀ s as, listOfText s = .ok as →
      listOfText (listToText as) = .ok as ∧
        (listOfText (listToText as)).map listToText = .ok (listToText as)) ∧
    ∀ codes : List Int32,
      listOfText (listToText (codes.map ofRaw)) = .ok (codes.map ofRaw) := by
  refine ⟨fun s as h => ?_, fun codes => listOfText_listToText fun a ha => ?_⟩
  · have hagain := listOfText_listToText (isProper_of_listOfText h)
    exact ⟨hagain, by rw [hagain]; rfl⟩
  · obtain ⟨code, -, rfl⟩ := List.mem_map.1 ha
    exact (ofRaw_spec code).1

/-- Names and numbers with blanks between them, and the least and greatest integers. -/
theorem one_round_trip_normalises_of_mixed :
    let s := " [\"keyw\" ,30,\n\"-1\", \" +7\",-2147483648 , 2147483647]\t"
    let as := [key 26, key 30, mouse .left, key 7, unmapped (-2147483648), key 2147483647]
    listOfText s = .ok as ∧ listOfText (listToText as) = .ok as ∧
      listToText as = "[26,30,-1,7,-2147483648,2147483647]" := by
  intro s as
  have h : listOfText s = .ok as := by decide +kernel
  exact ⟨h, (one_round_trip_normalises.1 s as h).1, by decide +kernel⟩

end ActionCode
end TouchOverlay
