import TouchOverlay.Proofs.ActionNames

/-!
# Action codes as integers and as text

Two kinds of actions have no integer that stands for them: keys beyond the signed range, and codes
kept as unmapped that mean something (`IsMapped`). All others are `IsProper`. Between them and the
integers `ofRaw` and `raw` are inverse to each other (`ofRaw_eq_iff`), although each has a table of
its own: the encoder counts the gamepad buttons as they are declared, and the decoder counts along a
list of them. `parse` reads back what `display` writes of a proper action. Whatever is decoded or
read is proper.
-/

namespace TouchOverlay

namespace GamepadButton
variable {button : GamepadButton} {code : Int32}

/-- The list of buttons has them in the order of their declaration. -/
theorem ctorIdx_of_getElem?_all {n : Nat} (h : all[n]? = some button) : button.ctorIdx = n := by
  have hall : ∀ i : Fin all.length, all[i].ctorIdx = i := by decide
  obtain ⟨hn, rfl⟩ := List.getElem?_eq_some_iff.1 h
  exact hall ⟨n, hn⟩

theorem code_of_ofCode? (h : ofCode? code = some button) : button.code = code := by
  unfold ofCode? at h
  split at h
  · rename_i hrange
    have hle : 0 ≤ firstCode - code := by
      simp only [lastCode, firstCode] at hrange ⊢
      grind
    rw [GamepadButton.code, ctorIdx_of_getElem?_all h, Int32.ofNat_toNatClampNeg _ hle]
    grind
  · cases h

/-- The list of buttons reaches as far as the codes do. -/
theorem not_range_of_ofCode? (h : ofCode? code = none) : ¬ (lastCode ≤ code ∧ code ≤ firstCode) := by
  intro hrange
  have hlt : (firstCode - code).toInt < 15 := by
    rw [Int32.le_iff_toInt_le, Int32.le_iff_toInt_le] at hrange
    have hlast : lastCode.toInt = -214 := by decide
    have hfirst : firstCode.toInt = -200 := by decide
    rw [Int32.toInt_sub, Int.bmod_eq_of_le] <;> omega
  have hlength : all.length = 15 := rfl
  rw [ofCode?, if_pos hrange, List.getElem?_eq_none_iff, Int32.toNatClampNeg] at h
  omega

end GamepadButton

namespace ActionCode
open Text (IsLiteral)
variable {a : ActionCode} {s : String} {code : Int32} {n : UInt32}

/-- The integers with a meaning: keys, mouse buttons and wheel, text input, gamepad buttons,
triggers. -/
def IsMapped (code : Int32) : Prop :=
  0 ≤ code ∨ (-5 ≤ code ∧ code ≤ -1) ∨ code = -100 ∨ (-214 ≤ code ∧ code ≤ -200) ∨
    (-221 ≤ code ∧ code ≤ -220)

instance (code : Int32) : Decidable (IsMapped code) := inferInstanceAs (Decidable (_ ∨ _))

/-- The action has an integer of its own. -/
def IsProper : ActionCode → Prop
  | key scancode => scancode ≤ 0x7fffffff
  | unmapped code => ¬ IsMapped code
  | _ => True

/-! ## Integers -/

theorem toInt_toInt32_of_le (h : n ≤ 0x7fffffff) : n.toInt32.toInt = n.toNat := by
  have hlt : n.toBitVec.toNat < 2 ^ 31 := Nat.lt_succ_of_le (UInt32.le_iff_toNat_le.1 h)
  exact BitVec.toInt_eq_toNat_of_lt (x := n.toBitVec) (by omega)

theorem toInt32_nonneg (h : n ≤ 0x7fffffff) : 0 ≤ n.toInt32 := by
  rw [Int32.le_iff_toInt_le, toInt_toInt32_of_le h]
  exact Int.natCast_nonneg _

theorem raw_key_of_le (h : n ≤ 0x7fffffff) : (key n).raw = n.toInt32 := if_pos h

theorem toUInt32_le (h : 0 ≤ code) : code.toUInt32 ≤ 0x7fffffff :=
  Int32.toUInt32_le h (Int32.le_maxValue code)

/-- What the decoder finds has the integer that it was given. -/
theorem ofRaw_spec (code : Int32) : (ofRaw code).IsProper ∧ (ofRaw code).raw = code := by
  unfold ofRaw
  split
  · rename_i h
    exact ⟨toUInt32_le h, by rw [raw_key_of_le (toUInt32_le h), Int32.toInt32_toUInt32]⟩
  iterate 8
    split
    · exact ⟨trivial, Eq.symm ‹_›⟩
  split
  · rename_i hbutton
    exact ⟨trivial, GamepadButton.code_of_ofCode? hbutton⟩
  · rename_i hbutton
    have hrange := GamepadButton.not_range_of_ofCode? hbutton
    refine ⟨fun hmapped => ?_, rfl⟩
    simp only [textInputCode, MouseButton.leftCode, MouseButton.rightCode, MouseButton.middleCode,
      WheelDirection.upCode, WheelDirection.downCode, Trigger.leftCode, Trigger.rightCode,
      GamepadButton.firstCode, GamepadButton.lastCode] at *
    unfold IsMapped at hmapped
    grind

/-- An action has an integer with a meaning, or it is the integer that it keeps. -/
theorem isMapped_raw_or (a : ActionCode) : IsMapped a.raw ∨ a = unmapped a.raw := by
  cases a with
  | unmapped code => exact .inr rfl
  | key n =>
    by_cases h : n ≤ 0x7fffffff
    · rw [raw_key_of_le h]
      exact .inl (.inl (toInt32_nonneg h))
    · rw [raw, if_neg h]
      exact .inl (by decide)
  | textInput => exact .inl (by decide)
  | mouse button => cases button <;> exact .inl (by decide)
  | wheel direction => cases direction <;> exact .inl (by decide)
  | gamepad button => cases button <;> exact .inl (by decide)
  | trigger t => cases t <;> exact .inl (by decide)

theorem ofRaw_raw (h : a.IsProper) : ofRaw a.raw = a := by
  cases a with
  | unmapped code =>
    have hraw := (ofRaw_spec code).2
    have he := (isMapped_raw_or (ofRaw code)).resolve_left (hraw.symm ▸ h)
    rwa [hraw] at he
  | key n => rw [raw_key_of_le h, ofRaw, if_pos (toInt32_nonneg h), UInt32.toUInt32_toInt32]
  | textInput => decide
  | mouse button => cases button <;> decide
  | wheel direction => cases direction <;> decide
  | gamepad button => cases button <;> decide
  | trigger t => cases t <;> decide

/-- The proper actions are those that integers decode to. -/
theorem ofRaw_eq_iff : ofRaw code = a ↔ a.IsProper ∧ a.raw = code := by
  constructor
  · rintro rfl
    exact ofRaw_spec code
  · rintro ⟨h, rfl⟩
    exact ofRaw_raw h

/-! ## Text -/

theorem exists_of_key_mem_names {name : String} (h : (name, key n) ∈ names) :
    ∃ k ∈ Scancode.all, k.code = n := by
  obtain ⟨k, hk, -, hcode⟩ : ∃ k ∈ Scancode.all, k.name = name ∧ k.code = n := by
    simpa [names] using h
  exact ⟨k, hk, hcode⟩

/-- An action is written as a name of it, or it has none and is written as its integer. -/
theorem display_cases (a : ActionCode) : (a.display, a) ∈ names ∨
    (∀ name, (name, a) ∉ names) ∧ (a.IsProper → IsLiteral a.display.toList a.raw.toInt) := by
  cases a with
  | key n =>
    cases hk : Scancode.ofCode? n with
    | some k =>
      obtain ⟨hn, -⟩ := List.find?_eq_some_iff_append.1 hk
      obtain rfl := of_decide_eq_true hn
      rw [display, hk]
      exact .inl (mem_names_of_key (List.mem_of_find?_eq_some hk))
    | none =>
      refine .inr ⟨fun name h => ?_, fun h => ?_⟩
      · obtain ⟨k, hall, hcode⟩ := exists_of_key_mem_names h
        exact List.find?_eq_none.1 hk k hall (decide_eq_true hcode)
      · rw [display, hk, raw_key_of_le h, toInt_toInt32_of_le h, Option.map_none, Option.getD_none,
          String.toList_ofList]
        exact Text.isLiteral_intDigits n.toNat
  | unmapped code =>
    refine .inr ⟨by simp [names], fun _ => ?_⟩
    rw [display, String.toList_ofList]
    exact Text.isLiteral_intDigits code.toInt
  | gamepad button => exact .inl (mem_names_of_gamepad button)
  | textInput => exact .inl (by decide +kernel)
  | mouse button => cases button <;> exact .inl (by decide +kernel)
  | wheel direction => cases direction <;> exact .inl (by decide +kernel)
  | trigger t => cases t <;> exact .inl (by decide +kernel)

theorem display_mem_names {name : String} (h : (name, a) ∈ names) : (a.display, a) ∈ names :=
  (display_cases a).resolve_right fun hnone => hnone.1 name h

theorem parse_display (h : a.IsProper) : parse a.display = .ok a := by
  apply parse_of_means
  rcases display_cases a with hm | ⟨-, hl⟩
  · rw [Text.trim_of_forall (not_isBlank_of_mem_names _ hm)]
    exact .inr (.of_mem hm)
  · rw [Text.trim_of_forall (hl h).not_isBlank]
    exact .inl ⟨a.raw, hl h, (ofRaw_raw h).symm⟩

theorem ofRaw_raw_of_mem_names : ∀ p ∈ names, ofRaw p.2.raw = p.2 := by decide +kernel

theorem Means.isProper (h : Means s a) : a.IsProper := by
  rcases h with ⟨code, -, rfl⟩ | ⟨name, hm, -⟩
  · exact (ofRaw_spec code).1
  · exact (ofRaw_eq_iff.1 (ofRaw_raw_of_mem_names _ hm)).1

/-- **Action codes survive every encoding.** Every integer is the integer of the action that it
decodes to, and that action is read back from its written form, which is a name if the action has
one. No other proper action has the integer. -/
theorem codes_survive_encodings (code : Int32) :
    (ofRaw code).raw = code ∧ parse (ofRaw code).display = .ok (ofRaw code) ∧
      (∀ name, (name, ofRaw code) ∈ names → ((ofRaw code).display, ofRaw code) ∈ names) ∧
      ∀ a : ActionCode, a.IsProper ∧ a.raw = code ↔ a = ofRaw code :=
  ⟨(ofRaw_spec code).2, parse_display (ofRaw_spec code).1, fun _ => display_mem_names,
    fun _ => ofRaw_eq_iff.symm.trans eq_comm⟩

end ActionCode
end TouchOverlay
