import TouchOverlay.Proofs.TomlDocuments
import TouchOverlay.Settings

/-!
# Settings that are stored

Settings are written as a document with one table for each group (`isDocument_entries`), and every
value comes back: times as integers of their range, and single precision numbers bit by bit. So
settings that were written are read as they were, valid or not (`read_toText`), and loading them
validates them and does nothing else (`load_toText`).
-/

namespace TouchOverlay

namespace Toml
variable {α : Type} {fs : Entries} {k : String} {v : Toml} {n greatest : Nat}

theorem optional_eq_some {default a : α} {read : Toml → Option α} (h : fs.lookup k = some v)
    (hread : read v = some a) : Toml.optional fs k default read = some a := by
  rw [Toml.optional, h]
  exact hread

theorem nat?_natCast (h : n ≤ greatest) : (integer n).nat? greatest = some n := by
  simp [nat?, h]

theorem single?_ofSingle (x : Float32) : (float (.ofSingle x)).reread.single? = some x := by
  rw [reread, single?, TomlFloat.toSingle_reread, TomlFloat.toSingle_ofSingle]

theorem isScalar_natCast (h : n < 0x8000000000000000) : (integer n).IsScalar := by
  constructor <;> omega

end Toml

namespace Settings
open Toml

variable {s : Settings} {text : String}

/-! ## The document -/

def plainEntries (s : Settings) : Entries := [("log_level", .string s.logLevel)]

def gestureEntries (g : GestureSettings) : Entries :=
  [("idle_timeout_ms", .integer g.idleTimeout.toNat),
    ("click_timeout_ms", .integer g.clickTimeout.toNat),
    ("move_threshold_dp", .float (.ofSingle g.moveThreshold)),
    ("move_ratio", .float (.ofSingle g.moveRatio))]

def displayEntries (d : DisplaySettings) : Entries := [("density", .float (.ofSingle d.density))]

def hapticEntries (h : HapticSettings) : Entries :=
  [("enabled", .boolean h.enabled), ("duration_ms", .integer h.milliseconds.toNat),
    ("amplitude", .integer h.amplitude.toNat)]

def groups (s : Settings) : List (String × Entries) :=
  [("gesture", gestureEntries s.gesture), ("display", displayEntries s.display),
    ("haptics", hapticEntries s.haptics)]

theorem toEntries_eq (s : Settings) : s.toEntries = s.plainEntries ++ s.groups.map headed := rfl

theorem isPlain_gestureEntries {g : GestureSettings} (hidle : isWritable g.idleTimeout = true)
    (hclick : isWritable g.clickTimeout = true) : IsPlain (gestureEntries g) where
  bare := by simp [gestureEntries, IsBareKey, isBare]
  scalar := by
    simp [gestureEntries, isScalar_ofSingle, isScalar_natCast (of_decide_eq_true hidle),
      isScalar_natCast (of_decide_eq_true hclick)]
  nodup := by simp [gestureEntries]

theorem isPlain_displayEntries (d : DisplaySettings) : IsPlain (displayEntries d) where
  bare := by simp [displayEntries, IsBareKey, isBare]
  scalar := by simp [displayEntries, isScalar_ofSingle]
  nodup := by simp [displayEntries]

theorem isPlain_hapticEntries (h : HapticSettings) : IsPlain (hapticEntries h) where
  bare := by simp [hapticEntries, IsBareKey, isBare]
  scalar := by
    have hduration : h.milliseconds.toNat < 0x8000000000000000 :=
      Nat.lt_trans h.milliseconds.toNat_lt (by decide)
    have hamplitude : h.amplitude.toNat < 0x8000000000000000 :=
      Nat.lt_trans h.amplitude.toNat_lt (by decide)
    simp [hapticEntries, IsScalar, hduration, hamplitude]
  nodup := by simp [hapticEntries]

/-- The settings are a document if their times can be written. -/
theorem isDocument_entries (hidle : isWritable s.gesture.idleTimeout = true)
    (hclick : isWritable s.gesture.clickTimeout = true) : IsDocument s.plainEntries s.groups where
  entries :=
    { bare := by simp [plainEntries, IsBareKey, isBare]
      scalar := by simp [plainEntries, IsScalar]
      nodup := by simp [plainEntries] }
  tables := by
    have hkeys : IsBareKey "gesture" ∧ IsBareKey "display" ∧ IsBareKey "haptics" := by
      simp [IsBareKey, isBare]
    simp [groups, hkeys, isPlain_gestureEntries hidle hclick, isPlain_displayEntries,
      isPlain_hapticEntries]
  nodup := by simp [plainEntries, groups]

/-! ## Reading it back -/

theorem millis?_toNat (t : Millis) : millis? (.integer t.toNat) = some t := by
  rw [millis?, nat?_natCast (Nat.le_of_lt_succ t.toNat_lt)]
  exact congrArg some t.ofNat_toNat

theorem gestureOfToml?_reread (g : GestureSettings) :
    gestureOfToml? (.table .header (rereadEntries (gestureEntries g))) = some g := by
  have hidle : Toml.optional (rereadEntries (gestureEntries g)) "idle_timeout_ms" 200 millis? =
      some g.idleTimeout := optional_eq_some rfl (millis?_toNat _)
  have hclick : Toml.optional (rereadEntries (gestureEntries g)) "click_timeout_ms" 50 millis? =
      some g.clickTimeout := optional_eq_some rfl (millis?_toNat _)
  have hthreshold : Toml.optional (rereadEntries (gestureEntries g)) "move_threshold_dp" 5
      single? = some g.moveThreshold := optional_eq_some rfl (single?_ofSingle _)
  have hratio : Toml.optional (rereadEntries (gestureEntries g)) "move_ratio" 2 single? =
      some g.moveRatio := optional_eq_some rfl (single?_ofSingle _)
  simp only [gestureOfToml?, fields?, Option.bind_eq_bind, Option.bind_some, hidle, hclick,
    hthreshold, hratio]

theorem displayOfToml?_reread (d : DisplaySettings) :
    displayOfToml? (.table .header (rereadEntries (displayEntries d))) = some d := by
  have hdensity : Toml.optional (rereadEntries (displayEntries d)) "density" 1 single? =
      some d.density := optional_eq_some rfl (single?_ofSingle _)
  simp only [displayOfToml?, fields?, Option.bind_eq_bind, Option.bind_some, hdensity]

theorem hapticsOfToml?_reread (h : HapticSettings) :
    hapticsOfToml? (.table .header (rereadEntries (hapticEntries h))) = some h := by
  have henabled : Toml.optional (rereadEntries (hapticEntries h)) "enabled" true boolean? =
      some h.enabled := rfl
  have hduration : Toml.optional (rereadEntries (hapticEntries h)) "duration_ms" 50
      (fun v => (v.nat? 0xffffffff).map UInt32.ofNat) = some h.milliseconds := by
    refine optional_eq_some (v := .integer h.milliseconds.toNat) rfl ?_
    rw [nat?_natCast (Nat.le_of_lt_succ h.milliseconds.toNat_lt)]
    exact congrArg some h.milliseconds.ofNat_toNat
  have hamplitude : Toml.optional (rereadEntries (hapticEntries h)) "amplitude" 30
      (fun v => (v.nat? 255).map UInt8.ofNat) = some h.amplitude := by
    refine optional_eq_some (v := .integer h.amplitude.toNat) rfl ?_
    rw [nat?_natCast (Nat.le_of_lt_succ h.amplitude.toNat_lt)]
    exact congrArg some h.amplitude.ofNat_toNat
  simp only [hapticsOfToml?, fields?, Option.bind_eq_bind, Option.bind_some, henabled, hduration,
    hamplitude]

theorem ofToml?_reread (s : Settings) :
    ofToml? (.table .header (rereadEntries s.plainEntries ++
      s.groups.map fun t => headed (t.1, rereadEntries t.2))) = some s := by
  generalize hfields : (rereadEntries s.plainEntries ++
    s.groups.map fun t => headed (t.1, rereadEntries t.2)) = fields
  have hlevel : Toml.optional fields "log_level" "info" string? = some s.logLevel :=
    hfields ▸ rfl
  have hgesture : Toml.optional fields "gesture" {} gestureOfToml? = some s.gesture :=
    optional_eq_some (hfields ▸ rfl) (gestureOfToml?_reread s.gesture)
  have hdisplay : Toml.optional fields "display" {} displayOfToml? = some s.display :=
    optional_eq_some (hfields ▸ rfl) (displayOfToml?_reread s.display)
  have hhaptics : Toml.optional fields "haptics" {} hapticsOfToml? = some s.haptics :=
    optional_eq_some (hfields ▸ rfl) (hapticsOfToml?_reread s.haptics)
  simp only [ofToml?, fields?, Option.bind_eq_bind, Option.bind_some, hlevel, hgesture, hdisplay,
    hhaptics]

/-- Settings that were written are read as they were. -/
theorem read_toText (h : s.toText = .ok text) : (Toml.read text).bind ofToml? = some s := by
  unfold toText at h
  split at h
  · rename_i hwritable
    rw [Bool.and_eq_true] at hwritable
    cases h
    rw [toEntries_eq, read_renderDocument (isDocument_entries hwritable.1 hwritable.2)]
    exact ofToml?_reread s
  · cases h

/-- Loading what was written validates it, and does nothing else. -/
theorem load_toText (h : s.toText = .ok text) : load (.bytes text.toUTF8) = s.validate := by
  have htext : FileContent.text? (.bytes text.toUTF8) = some text := by
    have hvalid : text.toUTF8.IsValidUTF8 := text.isValidUTF8
    rw [FileContent.text?, String.fromUTF8?, dif_pos hvalid]
    rfl
  rw [load]
  · simp only [htext, ofText, read_toText h]
  · simp

theorem exists_toText (hidle : s.gesture.idleTimeout.toNat < 0x8000000000000000)
    (hclick : s.gesture.clickTimeout.toNat < 0x8000000000000000) :
    ∃ text, s.toText = .ok text := by
  refine ⟨_, if_pos ?_⟩
  simp [isWritable, hidle, hclick]

/-- Settings in range whose times are integers of TOML can be written and load back, the same in
every field. Written settings that are out of range do not load, and the first such setting is named
as `validate` names it. -/
theorem saved_settings_load_back (s : Settings) :
    (s.validate = .ok s →
      s.gesture.idleTimeout.toNat < 0x8000000000000000 →
      s.gesture.clickTimeout.toNat < 0x8000000000000000 →
        ∃ text, s.toText = .ok text ∧ load (.bytes text.toUTF8) = .ok s) ∧
    ∀ text e, s.toText = .ok text → s.validate = .error e →
      ∃ i, e = .invalid i ∧ load (.bytes text.toUTF8) = .error (.invalid i) := by
  constructor
  · intro hvalid hidle hclick
    obtain ⟨text, htext⟩ := exists_toText hidle hclick
    exact ⟨text, htext, (load_toText htext).trans hvalid⟩
  · intro text e htext hinvalid
    have hload := (load_toText htext).trans hinvalid
    unfold validate at hinvalid
    split at hinvalid
    · rename_i i hi
      cases hinvalid
      exact ⟨i, rfl, hload⟩
    · cases hinvalid

/-- A level of several lines with both kinds of quotes and a control, and a threshold of a tenth,
load back; a density of zero is named. -/
theorem saved_settings_load_back_of_quotes :
    (∃ text,
      ({ logLevel := "a\"\"\"'''\n\t\\\x07",
         gesture := { moveThreshold := .ofBits 0x3dcccccd } } : Settings).toText = .ok text ∧
      load (.bytes text.toUTF8) =
        .ok { logLevel := "a\"\"\"'''\n\t\\\x07",
              gesture := { moveThreshold := .ofBits 0x3dcccccd } }) ∧
    ∃ text, ({ display := { density := 0 } } : Settings).toText = .ok text ∧
      load (.bytes text.toUTF8) = .error (.invalid .density) := by
  constructor
  · exact (saved_settings_load_back _).1 (by rfl) (by decide) (by decide)
  · obtain ⟨text, htext⟩ : ∃ text, ({ display := { density := 0 } } : Settings).toText = .ok text :=
      exists_toText (by decide) (by decide)
    obtain ⟨i, hi, hload⟩ := (saved_settings_load_back _).2 text (.invalid .density) htext (by rfl)
    cases hi
    exact ⟨text, htext, hload⟩

end Settings

end TouchOverlay
