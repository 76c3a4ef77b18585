import Mathlib.Data.List.Nodup
import TouchOverlay.Action
import TouchOverlay.Proofs.Words

/-!
# The names of actions

`ActionCode.names` lists every name of an action. No two of them are the same word
(`nodup_lowerNames`) and none of them is an integer (`readInt?_of_mem_names`), so a text means at
most one action (`Means.eq`) and it does not matter in which order a reader looks for a number and
for the names. The tables of the reader find a name just if it is one of these
(`ofName?_eq_some_iff`). `parse` finds what a text means (`toOption_parse_eq_some_iff`), and else
reports the text.
-/

namespace TouchOverlay.ActionCode
open Text (IsLiteral SameWord SamePadded)
variable {a b : ActionCode} {s t u : String} {code : Int32}

/-- The names of the actions that have one. -/
def names : List (String × ActionCode) :=
  [("keyboard", textInput), ("TextInput", textInput), ("MouseLeft", mouse .left),
    ("MouseRight", mouse .right), ("MouseMiddle", mouse .middle), ("WheelUp", wheel .up),
    ("WheelDown", wheel .down), ("TriggerLeft", trigger .left), ("TriggerRight", trigger .right),
    ("GamepadA", gamepad .a), ("GamepadB", gamepad .b), ("GamepadX", gamepad .x),
    ("GamepadY", gamepad .y), ("GamepadBack", gamepad .back), ("GamepadGuide", gamepad .guide),
    ("GamepadStart", gamepad .start), ("GamepadLeftStick", gamepad .leftStick),
    ("GamepadRightStick", gamepad .rightStick), ("GamepadLeftShoulder", gamepad .leftShoulder),
    ("GamepadRightShoulder", gamepad .rightShoulder), ("GamepadDpadUp", gamepad .dpadUp),
    ("GamepadDpadDown", gamepad .dpadDown), ("GamepadDpadLeft", gamepad .dpadLeft),
    ("GamepadDpadRight", gamepad .dpadRight)] ++ Scancode.all.map fun k => (k.name, key k.code)

/-- The text is a name of the action, in any ASCII case. -/
def IsCalled (a : ActionCode) (u : String) : Prop := ∃ name, (name, a) ∈ names ∧ SameWord name u

/-- The text is the decimal integer of the action, or a name of it. -/
def Means (u : String) (a : ActionCode) : Prop :=
  (∃ code : Int32, IsLiteral u.toList code.toInt ∧ a = ofRaw code) ∨ a.IsCalled u

/-- The first action of a table with a name. -/
def firstNamed? (table : List (String × ActionCode)) (u : String) : Option ActionCode :=
  (table.find? fun p => Text.sameIgnoringCase p.1 u).map (·.2)

/-! ## The names -/

theorem nodup_lowerNames : (names.map fun p => p.1.toList.map (·.toLower.toNat)).Nodup := by
  decide +kernel

theorem readInt?_of_mem_names : ∀ p ∈ names, Text.readInt? p.1.toList = none := by
  decide +kernel

theorem not_isBlank_of_mem_names : ∀ p ∈ names, ∀ c ∈ p.1.toList, Text.isBlank c = false := by
  have h : (names.all fun p => p.1.toList.all fun c => !Text.isBlank c) = true := by decide +kernel
  simpa only [List.all_eq_true, Bool.not_eq_true'] using h

theorem IsCalled.of_mem (h : (u, a) ∈ names) : a.IsCalled u := ⟨u, h, .refl u⟩

theorem IsCalled.eq (ha : a.IsCalled u) (hb : b.IsCalled u) : a = b := by
  obtain ⟨n, hn, hnu⟩ := ha
  obtain ⟨m, hm, hmu⟩ := hb
  have hlow : n.toList.map Char.toLower = m.toList.map Char.toLower :=
    of_decide_eq_true (Text.sameIgnoringCase_iff.2 (hnu.trans hmu.symm))
  have hcodes : n.toList.map (·.toLower.toNat) = m.toList.map (·.toLower.toNat) := by
    simpa [Function.comp_def] using congrArg (List.map Char.toNat) hlow
  exact congrArg Prod.snd (List.inj_on_of_nodup_map nodup_lowerNames hn hm hcodes)

theorem IsCalled.not_isLiteral (ha : a.IsCalled u) (i : Int) : ¬ IsLiteral u.toList i := by
  intro hi
  obtain ⟨n, hn, hnu⟩ := ha
  obtain rfl := hnu.symm.eq_of_isLiteral hi
  have hnone := readInt?_of_mem_names _ hn
  rw [Text.readInt?_eq_some_iff.2 hi] at hnone
  cases hnone

theorem firstNamed?_eq_some_iff {table : List (String × ActionCode)} (ht : table.Perm names) :
    firstNamed? table u = some a ↔ a.IsCalled u := by
  have hsome {b : ActionCode} (h : firstNamed? table u = some b) : b.IsCalled u := by
    obtain ⟨⟨name, _⟩, hp, rfl⟩ := Option.map_eq_some_iff.1 h
    obtain ⟨hsame, -⟩ := List.find?_eq_some_iff_append.1 hp
    exact ⟨name, ht.mem_iff.1 (List.mem_of_find?_eq_some hp), Text.sameIgnoringCase_iff.1 hsame⟩
  refine ⟨hsome, fun h => ?_⟩
  -- a name is found, and a text is a name of one action
  cases hu : firstNamed? table u with
  | some b => rw [h.eq (hsome hu)]
  | none =>
    obtain ⟨name, hm, hn⟩ := h
    rw [firstNamed?, Option.map_eq_none_iff, List.find?_eq_none] at hu
    exact absurd (Text.sameIgnoringCase_iff.2 hn) (hu _ (ht.mem_iff.2 hm))

/-! ## The reader's tables -/

theorem isCalled_of_ofLowerName? (h : ofLowerName? u = some a) : a.IsCalled u := by
  unfold ofLowerName? at h
  split at h
  case h_10 => cases h
  all_goals
    obtain rfl := Option.some.inj h
    exact (firstNamed?_eq_some_iff (.refl names)).1 (by decide +kernel)

theorem mem_names_of_gamepad (button : GamepadButton) :
    (button.actionName, gamepad button) ∈ names := by
  cases button <;> decide +kernel

theorem mem_names_of_key {k : Scancode} (h : k ∈ Scancode.all) : (k.name, key k.code) ∈ names :=
  List.mem_append_right _ (List.mem_map.2 ⟨k, h, rfl⟩)

theorem isCalled_of_ofName? (h : ofName? u = some a) : a.IsCalled u := by
  rw [ofName?, Option.or_eq_some_iff, Option.or_eq_some_iff] at h
  rcases h with h | ⟨-, h | ⟨-, h⟩⟩
  · obtain ⟨name, hm, hn⟩ := isCalled_of_ofLowerName? h
    exact ⟨name, hm, hn.trans (.toLower u)⟩
  · obtain ⟨button, hb, rfl⟩ := Option.map_eq_some_iff.1 h
    obtain ⟨hname, -⟩ := List.find?_eq_some_iff_append.1 hb
    exact ⟨_, mem_names_of_gamepad button, Text.sameIgnoringCase_iff.1 hname⟩
  · obtain ⟨k, hk, rfl⟩ := Option.map_eq_some_iff.1 h
    obtain ⟨hname, -⟩ := List.find?_eq_some_iff_append.1 hk
    exact ⟨_, mem_names_of_key (List.mem_of_find?_eq_some hk), Text.sameIgnoringCase_iff.1 hname⟩

/-- Every name is in one of the three tables. -/
theorem isSome_ofName?_of_mem_names (h : (u, a) ∈ names) : (ofName? u).isSome = true := by
  have hown : ∀ p ∈ names.take 24,
      (ofLowerName? p.1.toLower).isSome ∨ (GamepadButton.ofName? p.1).isSome := by decide +kernel
  rw [ofName?, Option.isSome_or, Option.isSome_or, Option.isSome_map, Option.isSome_map]
  rcases List.mem_append.1 h with h | h
  · rcases hown _ h with h | h <;> simp [h]
  · obtain ⟨k, hk, he⟩ := List.mem_map.1 h
    obtain ⟨rfl, -⟩ := Prod.mk.inj he
    have hkey : (Scancode.ofName? k.name).isSome = true :=
      List.find?_isSome.2 ⟨k, hk, Text.sameIgnoringCase_self k.name⟩
    simp [hkey]

/-- The case of letters does not matter to any of the tables. -/
theorem ofName?_eq_of_sameWord (h : SameWord s t) : ofName? s = ofName? t := by
  have hlist : s.toList.map Char.toLower = t.toList.map Char.toLower :=
    of_decide_eq_true (Text.sameIgnoringCase_iff.2 h)
  have hsame (name : String) : Text.sameIgnoringCase name s = Text.sameIgnoringCase name t := by
    rw [Text.sameIgnoringCase, Text.sameIgnoringCase, hlist]
  simp only [ofName?, GamepadButton.ofName?, Scancode.ofName?, h.toLower_eq, hsame]

theorem ofName?_eq_some_iff : ofName? u = some a ↔ a.IsCalled u := by
  refine ⟨isCalled_of_ofName?, fun h => ?_⟩
  -- a name is found, and a text is a name of one action
  obtain ⟨name, hm, hn⟩ := h
  obtain ⟨b, hb⟩ := Option.isSome_iff_exists.1 (isSome_ofName?_of_mem_names hm)
  rw [ofName?_eq_of_sameWord hn] at hb
  rw [hb, (isCalled_of_ofName? hb).eq ⟨name, hm, hn⟩]

theorem ofName?_eq_firstNamed? (u : String) : ofName? u = firstNamed? names u :=
  Option.ext fun _ => ofName?_eq_some_iff.trans (firstNamed?_eq_some_iff (.refl names)).symm

/-! ## What a text means -/

theorem readRaw?_eq_some_iff : readRaw? u = some code ↔ IsLiteral u.toList code.toInt := by
  rw [readRaw?, Option.bind_eq_some_iff]
  constructor
  · rintro ⟨i, hi, h⟩
    split at h
    · rename_i hr
      obtain rfl := Option.some.inj h
      rw [Int32.toInt_ofInt_of_le hr.1 (Int.lt_add_one_iff.2 hr.2)]
      exact Text.readInt?_eq_some_iff.1 hi
    · cases h
  · intro h
    refine ⟨_, Text.readInt?_eq_some_iff.2 h, ?_⟩
    rw [if_pos ⟨code.minValue_le_toInt, code.toInt_le⟩, Int32.ofInt_toInt]

theorem Means.eq (ha : Means u a) (hb : Means u b) : a = b := by
  rcases ha with ⟨n, hn, rfl⟩ | ha <;> rcases hb with ⟨m, hm, rfl⟩ | hb
  · have h := (readRaw?_eq_some_iff.2 hn).symm.trans (readRaw?_eq_some_iff.2 hm)
    rw [Option.some.inj h]
  · exact absurd hn (hb.not_isLiteral _)
  · exact absurd hm (ha.not_isLiteral _)
  · exact ha.eq hb

theorem Means.of_sameWord (h : SameWord s t) (ha : Means s a) : Means t a := by
  rcases ha with ⟨n, hn, rfl⟩ | ⟨name, hm, hn⟩
  · rw [← h.eq_of_isLiteral hn]
    exact .inl ⟨n, hn, rfl⟩
  · exact .inr ⟨name, hm, hn.trans h⟩

theorem means_iff {table : List (String × ActionCode)} (ht : table.Perm names) :
    Means u a ↔ (readRaw? u).map ofRaw = some a ∨ firstNamed? table u = some a := by
  rw [Means, firstNamed?_eq_some_iff ht, Option.map_eq_some_iff]
  simp only [readRaw?_eq_some_iff, eq_comm (a := a)]

/-- The names come in any order, and before the number or after it. -/
theorem lookups_eq_some_iff {table : List (String × ActionCode)} (ht : table.Perm names) :
    (((readRaw? u).map ofRaw).or (firstNamed? table u) = some a ↔ Means u a) ∧
      ((firstNamed? table u).or ((readRaw? u).map ofRaw) = some a ↔ Means u a) := by
  have hcode {b : ActionCode} (h : (readRaw? u).map ofRaw = some b) : Means u b :=
    (means_iff ht).2 (.inl h)
  have hname {b : ActionCode} (h : firstNamed? table u = some b) : Means u b :=
    (means_iff ht).2 (.inr h)
  rw [means_iff ht]
  cases hc : (readRaw? u).map ofRaw <;> cases hn : firstNamed? table u
  case some.some b c =>
    obtain rfl := (hcode hc).eq (hname hn)
    simp
  all_goals simp

/-! ## Reading -/

theorem parse_eq (s : String) :
    parse s = ((((readRaw? (Text.trim s)).map ofRaw).or (firstNamed? names (Text.trim s))).map
      Except.ok).getD (.error ⟨Text.trim s⟩) := by
  rw [← ofName?_eq_firstNamed?]
  simp only [parse]
  cases readRaw? (Text.trim s) with
  | some code => rfl
  | none => rw [Option.map_none, Option.none_or]

theorem parse_of_means (h : Means (Text.trim s) a) : parse s = .ok a := by
  rw [parse_eq, (lookups_eq_some_iff (.refl names)).1.2 h]
  rfl

theorem parse_of_not_means (h : ∀ a, ¬ Means (Text.trim s) a) :
    parse s = .error ⟨Text.trim s⟩ := by
  have hnone := Option.eq_none_iff_forall_ne_some.2 fun a ha =>
    h a ((lookups_eq_some_iff (.refl names)).1.1 ha)
  rw [parse_eq, hnone]
  rfl

theorem toOption_parse_eq_some_iff : (parse s).toOption = some a ↔ Means (Text.trim s) a := by
  by_cases hex : ∃ b, Means (Text.trim s) b
  · obtain ⟨b, hb⟩ := hex
    rw [parse_of_means hb]
    exact ⟨fun h => Option.some.inj h ▸ hb, fun h => congrArg some (hb.eq h)⟩
  · rw [not_exists] at hex
    rw [parse_of_not_means hex]
    exact ⟨nofun, fun h => absurd h (hex a)⟩

theorem toOption_parse_eq_of_samePadded (h : SamePadded s t) :
    (parse s).toOption = (parse t).toOption := by
  refine Option.ext fun a => ?_
  rw [toOption_parse_eq_some_iff, toOption_parse_eq_some_iff]
  exact ⟨.of_sameWord h.sameWord_trim, .of_sameWord h.sameWord_trim.symm⟩

/-- **An action is read from its integer or a name of it, and from nothing else**, with blanks
around it and in any ASCII case. No text is an integer and a name or a name of two actions, so the
names may be searched in any order, and before the integers. What is neither is reported without
the blanks around it. -/
theorem parse_reads_integers_and_names (s : String) :
    (∀ code : Int32, IsLiteral (Text.trim s).toList code.toInt → parse s = .ok (ofRaw code)) ∧
    (∀ a, a.IsCalled (Text.trim s) → parse s = .ok a ∧
      (∀ b, b.IsCalled (Text.trim s) → b = a) ∧ ∀ i, ¬ IsLiteral (Text.trim s).toList i) ∧
    (∀ table, table.Perm names →
      (firstNamed? table (Text.trim s)).or ((readRaw? (Text.trim s)).map ofRaw) =
        (parse s).toOption) ∧
    ((∀ code : Int32, ¬ IsLiteral (Text.trim s).toList code.toInt) →
      (∀ a, ¬ IsCalled a (Text.trim s)) → parse s = .error ⟨Text.trim s⟩) ∧
    ∀ t, SamePadded s t → (parse s).toOption = (parse t).toOption := by
  refine ⟨fun code h => parse_of_means (.inl ⟨code, h, rfl⟩),
    fun a ha => ⟨parse_of_means (.inr ha), fun b hb => hb.eq ha, ha.not_isLiteral⟩, ?_, ?_,
    fun t h => toOption_parse_eq_of_samePadded h⟩
  · intro table ht
    refine Option.ext fun a => ?_
    rw [(lookups_eq_some_iff ht).2, toOption_parse_eq_some_iff]
  · rintro hcode hname
    refine parse_of_not_means fun a ha => ?_
    rcases ha with ⟨code, hc, -⟩ | ha
    · exact hcode code hc
    · exact hname a ha

/-- Zeros and a plus sign before an integer. A button between blanks, also with the names searched
from the end. A key whose first letter is the kelvin sign, which is no ASCII letter. -/
theorem parse_reads_integers_and_names_of_spellings :
    (IsLiteral (Text.trim " +007").toList (7 : Int32).toInt ∧ parse " +007" = .ok (key 7)) ∧
    ((mouse .left).IsCalled (Text.trim "\u2003mOUSElEFT\n") ∧
      parse "\u2003mOUSElEFT\n" = .ok (mouse .left)) ∧
    (names.reverse.Perm names ∧
      (firstNamed? names.reverse (Text.trim "\u2003mOUSElEFT\n")).or
        ((readRaw? (Text.trim "\u2003mOUSElEFT\n")).map ofRaw) =
          (parse "\u2003mOUSElEFT\n").toOption) ∧
    ((∀ code : Int32, ¬ IsLiteral (Text.trim "\u212aeyW ").toList code.toInt) ∧
      (∀ a, ¬ IsCalled a (Text.trim "\u212aeyW ")) ∧
      parse "\u212aeyW " = .error ⟨"\u212aeyW"⟩) ∧
    SamePadded " +007" "+007\t" ∧ (parse " +007").toOption = (parse "+007\t").toOption := by
  have hseven : IsLiteral (Text.trim " +007").toList (7 : Int32).toInt :=
    readRaw?_eq_some_iff.1 (by decide +kernel)
  have hleft : (mouse .left).IsCalled (Text.trim "\u2003mOUSElEFT\n") :=
    (firstNamed?_eq_some_iff (.refl names)).1 (by decide +kernel)
  have hcode : readRaw? (Text.trim "\u212aeyW ") = none := by decide +kernel
  have hname : firstNamed? names (Text.trim "\u212aeyW ") = none := by decide +kernel
  have hno : ∀ code : Int32, ¬ IsLiteral (Text.trim "\u212aeyW ").toList code.toInt :=
    fun code h => by simp [readRaw?_eq_some_iff.2 h] at hcode
  have hnone : ∀ a, ¬ IsCalled a (Text.trim "\u212aeyW ") :=
    fun a h => by simp [(firstNamed?_eq_some_iff (.refl names)).2 h] at hname
  have hpad : SamePadded " +007" "+007\t" :=
    ⟨[' '], ['+', '0', '0', '7'], [], [], ['+', '0', '0', '7'], ['\t'], by decide +kernel,
      by decide +kernel, List.all_eq_true.1 (by decide), List.forall₂_same.2 fun _ _ => .inl rfl⟩
  obtain ⟨hlit, -, -, -, hsame⟩ := parse_reads_integers_and_names " +007"
  obtain ⟨-, hcalled, horder, -⟩ := parse_reads_integers_and_names "\u2003mOUSElEFT\n"
  obtain ⟨-, -, -, herror, -⟩ := parse_reads_integers_and_names "\u212aeyW "
  exact ⟨⟨hseven, hlit 7 hseven⟩, ⟨hleft, (hcalled _ hleft).1⟩,
    ⟨names.reverse_perm, horder _ names.reverse_perm⟩,
    ⟨hno, hnone, (herror hno hnone).trans (by decide +kernel)⟩, hpad, hsame _ hpad⟩

end TouchOverlay.ActionCode
