import Mathlib.Data.List.Basic
import Mathlib.Data.List.TakeWhile
import Mathlib.Tactic.SplitIfs
import TouchOverlay.Toml.Reader
import TouchOverlay.Toml.Writer

/-!
# Strings read back

A string that is written is read back with the text that follows it, in whichever of the four forms
it is written (`readString_renderString`). On one line every quote of the kind that encloses the
string is escaped or not there. On several lines up to two quotes in a row stand for themselves:
`Interior` says so of what is written, and it is why three quotes end the string, and why one or two
quotes before them belong to it.
-/

namespace TouchOverlay.Toml
open Text

variable {c q : Char} {cs body rest : List Char} {several : Bool} {n j best run : Nat}

/-! ## Characters -/

theorem isPlain_of_not_needsCode (h : needsCode c = false) (hn : c ≠ '\n') : isPlain c = true := by
  by_cases ht : c = '\t'
  · simp [isPlain, ht]
  · simp only [needsCode, Bool.or_eq_false_iff, Bool.and_eq_false_iff, bne_eq_false_iff_eq,
      decide_eq_false_iff_not, ht, hn, or_false] at h
    simp only [isPlain, ht, decide_false, Bool.false_or, Bool.and_eq_true, decide_eq_true_eq,
      bne_iff_ne]
    omega

theorem newline?_eq_none_of_isPlain (h : isPlain c = true) (cs : List Char) :
    newline? (c :: cs) = none := by
  have hn : c ≠ '\n' := by rintro rfl; cases h
  have hr : c ≠ '\r' := by rintro rfl; cases h
  unfold newline?
  split
  · rename_i heq
    exact absurd (List.cons.inj heq).1 hn
  · rename_i heq
    exact absurd (List.cons.inj heq).1 hr
  · rfl

theorem readEscape_hex (hn : n < 128) (rest : List Char) :
    readEscape ('u' :: (fixedHex 4 n).map Char.toUpper ++ rest) = some (Char.ofNat n, rest) := by
  have hcode : ∀ n < 128, (readHex? ((fixedHex 4 n).map Char.toUpper)).bind scalar? =
      some (Char.ofNat n) := by decide
  have hlen : ((fixedHex 4 n).map Char.toUpper).length = 4 := by simp [fixedHex]
  simp only [List.cons_append, readEscape, readEscape.hex, List.take_left' hlen,
    List.drop_left' hlen, hlen, hcode n hn]
  rfl

/-- An escaped character is read back, and its escape does not fold lines. The others stand for
themselves. -/
theorem escapeChar_cases (several : Bool) (c : Char) :
    (∃ e : List Char, escapeChar several c = '\\' :: e ∧
      ∀ rest, readEscape (e ++ rest) = some (c, rest) ∧ foldLine? (e ++ rest) = none) ∨
    (escapeChar several c = [c] ∧ c ≠ '\\' ∧ isPlain c = true) ∨
    (escapeChar several c = [c] ∧ c = '\n' ∧ several = true) := by
  unfold escapeChar
  split_ifs with hback htab hline hs hfeed hreturn hslash hcode
  · exact .inl ⟨['b'], rfl, fun rest => hback ▸ ⟨rfl, rfl⟩⟩
  · exact .inl ⟨['t'], rfl, fun rest => htab ▸ ⟨rfl, rfl⟩⟩
  · exact .inr (.inr ⟨hline ▸ rfl, hline, hs⟩)
  · exact .inl ⟨['n'], rfl, fun rest => hline ▸ ⟨rfl, rfl⟩⟩
  · exact .inl ⟨['f'], rfl, fun rest => hfeed ▸ ⟨rfl, rfl⟩⟩
  · exact .inl ⟨['r'], rfl, fun rest => hreturn ▸ ⟨rfl, rfl⟩⟩
  · subst hslash
    exact .inl ⟨['\\'], rfl, fun rest => ⟨rfl, rfl⟩⟩
  · have hlt : c.toNat < 128 := by
      simp only [Bool.or_eq_true, decide_eq_true_eq] at hcode
      omega
    refine .inl ⟨'u' :: (fixedHex 4 c.toNat).map Char.toUpper, rfl, fun rest => ⟨?_, rfl⟩⟩
    rw [readEscape_hex hlt, Char.ofNat_toNat]
  · simp only [Bool.or_eq_true, decide_eq_true_eq, not_or] at hcode
    refine .inr (.inl ⟨rfl, hslash, isPlain_of_not_needsCode ?_ hline⟩)
    simp [needsCode, hcode]

/-- What stands for a character other than a quote does not begin with one. -/
theorem escapeChar_append_eq_cons (hc : c ≠ '"') (several : Bool) (rest : List Char) :
    ∃ d t, escapeChar several c ++ rest = d :: t ∧ d ≠ '"' := by
  rcases escapeChar_cases several c with ⟨e, he, -⟩ | ⟨he, -⟩ | ⟨he, -⟩ <;> rw [he]
  · exact ⟨'\\', _, rfl, by decide⟩
  · exact ⟨c, _, rfl, hc⟩
  · exact ⟨c, _, rfl, hc⟩

/-- What stands for a text and the quote after it begin with an end of line only if the text may. -/
theorem escape_append_eq_plain_cons (several : Bool) (room run : Nat) (hcs : '\n' ∉ cs)
    (rest : List Char) :
    ∃ c t, escape several room run cs ++ '"' :: rest = c :: t ∧ isPlain c = true := by
  cases cs with
  | nil => exact ⟨'"', rest, rfl, rfl⟩
  | cons c cs =>
    by_cases hc : c = '"'
    · simp only [escape, if_pos hc]
      split
      · exact ⟨'\\', _, rfl, rfl⟩
      · exact ⟨'"', _, rfl, rfl⟩
    · simp only [escape, if_neg hc, List.append_assoc]
      rcases escapeChar_cases several c with ⟨e, he, -⟩ | ⟨he, -, hplain⟩ | ⟨-, hn, -⟩
      · exact ⟨'\\', _, by rw [he]; rfl, rfl⟩
      · exact ⟨c, _, by rw [he]; rfl, hplain⟩
      · exact absurd (hn ▸ List.mem_cons_self) hcs

theorem escape_append_eq_cons (several : Bool) (run : Nat) (hcs : cs ≠ []) (rest : List Char) :
    ∃ c t, escape several 0 run cs ++ rest = c :: t ∧ c ≠ '"' := by
  cases cs with
  | nil => exact absurd rfl hcs
  | cons c cs =>
    by_cases hc : c = '"'
    · simp only [escape, if_pos hc, Nat.zero_le, if_true, List.cons_append]
      exact ⟨'\\', _, rfl, by decide⟩
    · simp only [escape, if_neg hc, List.append_assoc]
      exact escapeChar_append_eq_cons hc several _

theorem length_le_escape (several : Bool) (room run : Nat) (cs : List Char) :
    cs.length ≤ (escape several room run cs).length := by
  induction cs generalizing run with
  | nil => simp
  | cons c cs ih =>
    have hpos : 0 < (escapeChar several c).length := by
      rcases escapeChar_cases several c with ⟨e, he, -⟩ | ⟨he, -⟩ | ⟨he, -⟩ <;> simp [he]
    have h0 := ih 0
    have hrun := ih (run + 1)
    simp only [escape]
    split_ifs <;> simp only [List.length_append, List.length_cons] <;> omega

/-! ## Runs of quotes -/

theorem le_longestRun_go (q : Char) (best run : Nat) (cs : List Char) :
    max best run ≤ longestRun.go q best run cs := by
  induction cs generalizing best run with
  | nil => exact le_rfl
  | cons c cs ih =>
    have hlonger := ih best (run + 1)
    have hother := ih (max best run) 0
    rw [longestRun.go]
    split <;> omega

theorem notMem_of_longestRun_go (h : longestRun.go q best run cs = 0) : q ∉ cs := by
  induction cs generalizing best run with
  | nil => exact List.not_mem_nil
  | cons c cs ih =>
    rw [longestRun.go] at h
    split at h
    · have hle := le_longestRun_go q best (run + 1) cs
      omega
    · rename_i hc
      exact List.not_mem_cons_of_ne_of_not_mem (Ne.symm hc) (ih h)

/-- A text that stands after `run` quotes: up to its first other character, or up to its end, it
makes them no more than two. -/
inductive Interior (q : Char) (run : Nat) : List Char → Prop
  | quotes (j : Nat) (h : j + run ≤ 2) : Interior q run (List.replicate j q)
  | other (j : Nat) (c : Char) (cs : List Char) (h : j + run ≤ 2) (hc : c ≠ q) :
      Interior q run (List.replicate j q ++ c :: cs)

namespace Interior

theorem nil (h : run ≤ 2) : Interior q run [] := quotes 0 (by omega)

theorem cons_other (h : run ≤ 2) (hc : c ≠ q) (cs : List Char) : Interior q run (c :: cs) :=
  other 0 c cs (by omega) hc

theorem cons_quote (h : Interior q (run + 1) cs) : Interior q run (q :: cs) := by
  cases h with
  | quotes j h => exact quotes (j + 1) (by omega)
  | other j c cs h hc => exact other (j + 1) c cs (by omega) hc

/-- Three quotes after the text end it: either they are not reached yet, or nothing but quotes of
the text is left before them. -/
theorem closing?_cases (h : Interior q run cs) (hr : rest.head? ≠ some q) :
    cs ≠ [] ∧ closing? q (cs ++ q :: q :: q :: rest) = none ∨
      cs = List.replicate cs.length q ∧
        closing? q (cs ++ q :: q :: q :: rest) = some (cs, rest) := by
  cases h with
  | quotes j h =>
    have hrest : rest.takeWhile (· = q) = [] := by
      cases rest with
      | nil => rfl
      | cons c rest => simpa using hr
    have hquotes : List.replicate j q ++ q :: q :: q :: rest =
        List.replicate (3 + j) q ++ rest := by
      rw [Nat.add_comm, List.replicate_add, List.append_assoc]
      rfl
    have htake : (List.replicate (3 + j) q ++ rest).takeWhile (· = q) =
        List.replicate (3 + j) q := by
      rw [List.takeWhile_append_of_pos (by simp), hrest, List.append_nil]
    have hmin : min j 2 = j := by omega
    have hdrop : (List.replicate (3 + j) q ++ rest).drop (3 + j) = rest :=
      List.drop_left' List.length_replicate
    right
    simp [hquotes, closing?, htake, hmin, hdrop]
  | other j c cs h hc =>
    have htake : (List.replicate j q ++ c :: (cs ++ q :: q :: q :: rest)).takeWhile (· = q) =
        List.replicate j q := by
      rw [List.takeWhile_append_of_pos (by simp), List.takeWhile_cons_of_neg (by simpa using hc),
        List.append_nil]
    have hj : ¬ 3 ≤ j := by omega
    left
    simp [closing?, htake, hj]

end Interior

theorem interior_of_longestRun_go (h : longestRun.go q best run cs ≤ 2) : Interior q run cs := by
  induction cs generalizing best run with
  | nil =>
    rw [longestRun.go] at h
    exact .nil (by omega)
  | cons c cs ih =>
    rw [longestRun.go] at h
    split at h
    · subst c
      exact (ih h).cons_quote
    · have hle := le_longestRun_go q (max best run) 0 cs
      exact .cons_other (by omega) (by assumption) cs

theorem interior_escape (hrun : run ≤ 2) (several : Bool) (cs : List Char) :
    Interior '"' run (escape several 2 run cs) := by
  induction cs generalizing run with
  | nil => exact .nil hrun
  | cons c cs ih =>
    by_cases hc : c = '"'
    · simp only [escape, if_pos hc]
      split
      · exact .cons_other hrun (by decide) _
      · exact (ih (by omega)).cons_quote
    · simp only [escape, if_neg hc]
      obtain ⟨d, t, heq, hd⟩ := escapeChar_append_eq_cons hc several (escape several 2 0 cs)
      rw [heq]
      exact .cons_other hrun hd t

/-- Quotes that are written stand for themselves. -/
theorem eq_replicate_of_escape {room : Nat}
    (h : escape several room run cs = List.replicate j '"') : cs = List.replicate j '"' := by
  induction cs generalizing run j with
  | nil => exact h
  | cons c cs ih =>
    cases j with
    | zero =>
      have hlen := length_le_escape several room run (c :: cs)
      simp [h] at hlen
    | succ j =>
      rw [List.replicate_succ] at h ⊢
      by_cases hc : c = '"'
      · simp only [escape, if_pos hc] at h
        split at h
        · exact absurd (List.cons.inj h).1 (by decide)
        · rw [hc, ih (List.cons.inj h).2]
      · simp only [escape, if_neg hc] at h
        obtain ⟨d, t, heq, hd⟩ := escapeChar_append_eq_cons hc several (escape several room 0 cs)
        exact absurd (List.cons.inj (heq.symm.trans h)).1 hd

/-! ## One line -/

theorem readBasic_escaped (h : readEscape rest = some (c, body)) :
    readBasic (n + 1) ('\\' :: rest) = (readBasic n body).map fun (s, rest) => (c :: s, rest) := by
  simp [readBasic, h]

theorem readBasic_escapeChar (hc : c ≠ '"') (rest : List Char) :
    readBasic (n + 1) (escapeChar false c ++ rest) =
      (readBasic n rest).map fun (s, rest) => (c :: s, rest) := by
  rcases escapeChar_cases false c with ⟨e, he, hread⟩ | ⟨he, hb, hplain⟩ | ⟨-, -, hs⟩
  · rw [he, List.cons_append, readBasic_escaped (hread rest).1]
  · rw [he]
    simp [readBasic, hplain]
  · cases hs

theorem readBasic_escape (hlen : cs.length < n) :
    readBasic n (escape false 0 run cs ++ '"' :: rest) = some (cs, rest) := by
  induction cs generalizing n run with
  | nil =>
    obtain ⟨n, rfl⟩ := Nat.exists_eq_add_of_lt hlen
    simp [escape, readBasic]
  | cons c cs ih =>
    obtain ⟨n, rfl⟩ := Nat.exists_eq_add_one_of_ne_zero (Nat.ne_zero_of_lt hlen)
    have hread := @ih n 0 (by simpa using hlen)
    by_cases hc : c = '"'
    · simp only [escape, if_pos hc, Nat.zero_le, if_true, List.cons_append]
      rw [readBasic_escaped rfl, hread, hc]
      rfl
    · simp only [escape, if_neg hc, List.append_assoc]
      rw [readBasic_escapeChar hc, hread]
      rfl

theorem readLiteral_append (hq : '\'' ∉ cs) (hplain : ∀ c ∈ cs, isPlain c = true) :
    readLiteral (cs ++ '\'' :: rest) = some (cs, rest) := by
  induction cs with
  | nil => simp [readLiteral]
  | cons c cs ih =>
    have hc : c ≠ '\'' := fun h => hq (h ▸ List.mem_cons_self)
    have ih := ih (fun h => hq (List.mem_cons_of_mem c h))
      fun d hd => hplain d (List.mem_cons_of_mem c hd)
    simp [readLiteral, hplain c List.mem_cons_self, ih]

/-! ## Several lines -/

theorem closing?_of_ne (hc : c ≠ q) (cs : List Char) : closing? q (c :: cs) = none := by
  simp [closing?, hc]

theorem readMultiBasic_escaped (h : readEscape rest = some (c, body))
    (hfold : foldLine? rest = none) :
    readMultiBasic (n + 1) ('\\' :: rest) =
      (readMultiBasic n body).map fun (s, rest) => (c :: s, rest) := by
  simp [readMultiBasic, closing?_of_ne, h, hfold]

theorem readMultiBasic_plain (hclosing : closing? '"' (c :: rest) = none) (hb : c ≠ '\\')
    (hplain : isPlain c = true) :
    readMultiBasic (n + 1) (c :: rest) =
      (readMultiBasic n rest).map fun (s, rest) => (c :: s, rest) := by
  simp [readMultiBasic, hclosing, newline?_eq_none_of_isPlain hplain, hplain]

theorem readMultiBasic_escapeChar (hc : c ≠ '"') (rest : List Char) :
    readMultiBasic (n + 1) (escapeChar true c ++ rest) =
      (readMultiBasic n rest).map fun (s, rest) => (c :: s, rest) := by
  rcases escapeChar_cases true c with ⟨e, he, hread⟩ | ⟨he, hb, hplain⟩ | ⟨he, hnl, -⟩
  · rw [he, List.cons_append, readMultiBasic_escaped (hread rest).1 (hread rest).2]
  · rw [he, List.singleton_append, readMultiBasic_plain (closing?_of_ne hc rest) hb hplain]
  · rw [he, hnl]
    simp [readMultiBasic, closing?_of_ne, newline?]

theorem readMultiBasic_escape (hlen : cs.length < n) (hrun : run ≤ 2) (hr : rest.head? ≠ some '"') :
    readMultiBasic n (escape true 2 run cs ++ '"' :: '"' :: '"' :: rest) = some (cs, rest) := by
  induction cs generalizing n run with
  | nil =>
    obtain ⟨n, rfl⟩ := Nat.exists_eq_add_of_lt hlen
    rcases (Interior.nil hrun).closing?_cases hr with ⟨hne, -⟩ | ⟨-, hclosing⟩
    · exact absurd rfl hne
    · simp only [escape, readMultiBasic, hclosing]
  | cons c cs ih =>
    obtain ⟨n, rfl⟩ := Nat.exists_eq_add_one_of_ne_zero (Nat.ne_zero_of_lt hlen)
    have hlen : cs.length < n := by simpa using hlen
    by_cases hc : c = '"'
    · -- the closing quotes are reached early where nothing but quotes is left of the string
      rcases (interior_escape hrun true (c :: cs)).closing?_cases hr with
        ⟨-, hclosing⟩ | ⟨hquotes, hclosing⟩
      · simp only [escape, if_pos hc] at hclosing ⊢
        split
        · simp only [List.cons_append]
          rw [readMultiBasic_escaped rfl rfl, ih hlen (by omega), hc]
          rfl
        · simp only [if_neg (by assumption : ¬ 2 ≤ run), List.cons_append] at hclosing ⊢
          rw [readMultiBasic_plain hclosing (by decide) rfl, ih hlen (by omega), hc]
          rfl
      · have hsame := (eq_replicate_of_escape hquotes).trans hquotes.symm
        simp only [readMultiBasic, hclosing]
        rw [← hsame]
    · simp only [escape, if_neg hc, List.append_assoc]
      rw [readMultiBasic_escapeChar hc, ih hlen (by omega)]
      rfl

theorem readMultiLiteral_newline :
    readMultiLiteral (n + 1) ('\n' :: rest) =
      (readMultiLiteral n rest).map fun (s, rest) => ('\n' :: s, rest) := by
  simp [readMultiLiteral, closing?_of_ne, newline?]

theorem readMultiLiteral_plain (hclosing : closing? '\'' (c :: rest) = none)
    (hplain : isPlain c = true) :
    readMultiLiteral (n + 1) (c :: rest) =
      (readMultiLiteral n rest).map fun (s, rest) => (c :: s, rest) := by
  simp [readMultiLiteral, hclosing, newline?_eq_none_of_isPlain hplain, hplain]

theorem readMultiLiteral_append (hlen : cs.length < n)
    (hq : longestRun.go '\'' best run cs ≤ 2) (hplain : ∀ c ∈ cs, c = '\n' ∨ isPlain c = true)
    (hr : rest.head? ≠ some '\'') :
    readMultiLiteral n (cs ++ '\'' :: '\'' :: '\'' :: rest) = some (cs, rest) := by
  induction cs generalizing n best run with
  | nil =>
    obtain ⟨n, rfl⟩ := Nat.exists_eq_add_of_lt hlen
    rcases (interior_of_longestRun_go hq).closing?_cases hr with ⟨hne, -⟩ | ⟨-, hclosing⟩
    · exact absurd rfl hne
    · simp only [readMultiLiteral, hclosing]
  | cons c cs ih =>
    obtain ⟨n, rfl⟩ := Nat.exists_eq_add_one_of_ne_zero (Nat.ne_zero_of_lt hlen)
    have hlen : cs.length < n := by simpa using hlen
    rcases (interior_of_longestRun_go hq).closing?_cases hr with ⟨-, hclosing⟩ | ⟨-, hclosing⟩
    · have hread : readMultiLiteral n (cs ++ '\'' :: '\'' :: '\'' :: rest) = some (cs, rest) := by
        have hplain := fun d hd => hplain d (List.mem_cons_of_mem c hd)
        rw [longestRun.go] at hq
        split at hq <;> exact ih hlen hq hplain
      rcases hplain c List.mem_cons_self with rfl | hc
      · rw [List.cons_append, readMultiLiteral_newline, hread]
        rfl
      · rw [List.cons_append] at hclosing ⊢
        rw [readMultiLiteral_plain hclosing hc, hread]
        rfl
    · simp only [readMultiLiteral, hclosing]

/-! ## The four forms -/

/-- The end of line that starts a string of several lines is not part of it. -/
theorem dropNewline_start (h : several = false → newline? cs = none) :
    dropNewline ((if several then ['\n'] else []) ++ cs) = cs := by
  cases several with
  | true => rfl
  | false => simp [dropNewline, h rfl]

theorem readString_basic (hcs : ∀ t, cs ≠ '"' :: '"' :: t) :
    readString ('"' :: cs) =
      (readBasic (cs.length + 1) cs).map fun (s, rest) => (String.ofList s, rest) := by
  unfold readString
  split
  · rename_i t heq
    exact absurd (List.cons.inj heq).2 (hcs t)
  · rename_i heq
    cases heq
  · rename_i heq
    cases heq
    rfl
  · rename_i heq
    cases heq
  · rename_i hbasic _
    exact absurd rfl (hbasic cs)

theorem readString_literal (hcs : ∀ t, cs ≠ '\'' :: '\'' :: t) :
    readString ('\'' :: cs) = (readLiteral cs).map fun (s, rest) => (String.ofList s, rest) := by
  unfold readString
  split
  · rename_i heq
    cases heq
  · rename_i t heq
    exact absurd (List.cons.inj heq).2 (hcs t)
  · rename_i heq
    cases heq
  · rename_i heq
    cases heq
    rfl
  · rename_i hliteral
    exact absurd rfl (hliteral cs)

theorem readString_escape (s : String) (hr : rest.head? ≠ some '"') :
    readString ('"' :: (escape false 0 0 s.toList ++ '"' :: rest)) = some (s, rest) := by
  rw [readString_basic, readBasic_escape]
  · simp
  · have hle := length_le_escape false 0 0 s.toList
    simp only [List.length_append, List.length_cons]
    omega
  · intro t heq
    by_cases hs : s.toList = []
    · rw [hs] at heq
      simp only [escape, List.nil_append, List.cons.injEq, true_and] at heq
      exact hr (by rw [heq]; rfl)
    · obtain ⟨d, t', heq', hd⟩ := escape_append_eq_cons false 0 hs
        ('"' :: rest)
      exact hd (List.cons.inj (heq'.symm.trans heq)).1

theorem readString_multiEscape (s : String) (hr : rest.head? ≠ some '"')
    (hseveral : several = false → '\n' ∉ s.toList) :
    readString ('"' :: '"' :: '"' :: ((if several then ['\n'] else []) ++
      (escape true 2 0 s.toList ++ '"' :: '"' :: '"' :: rest))) = some (s, rest) := by
  have hdrop : dropNewline ((if several then ['\n'] else []) ++
      (escape true 2 0 s.toList ++ '"' :: '"' :: '"' :: rest)) =
        escape true 2 0 s.toList ++ '"' :: '"' :: '"' :: rest := by
    refine dropNewline_start fun hone => ?_
    obtain ⟨c, t, heq, hplain⟩ := escape_append_eq_plain_cons true 2 0
      (hseveral hone) ('"' :: '"' :: rest)
    rw [heq, newline?_eq_none_of_isPlain hplain]
  have hle := length_le_escape true 2 0 s.toList
  simp only [readString, hdrop]
  rw [readMultiBasic_escape _ (by decide) hr]
  · simp
  · simp only [List.length_append, List.length_cons]
    omega

theorem readString_multiLiteral (s : String) (hr : rest.head? ≠ some '\'')
    (hseveral : several = false → '\n' ∉ s.toList)
    (hplain : ∀ c ∈ s.toList, c = '\n' ∨ isPlain c = true)
    (hq : longestRun '\'' s.toList ≤ 2) :
    readString ('\'' :: '\'' :: '\'' :: ((if several then ['\n'] else []) ++
      (s.toList ++ '\'' :: '\'' :: '\'' :: rest))) = some (s, rest) := by
  have hdrop : dropNewline ((if several then ['\n'] else []) ++
      (s.toList ++ '\'' :: '\'' :: '\'' :: rest)) = s.toList ++ '\'' :: '\'' :: '\'' :: rest := by
    refine dropNewline_start fun hone => ?_
    cases hs : s.toList with
    | nil => rfl
    | cons c cs =>
      rw [hs] at hseveral hplain
      rcases hplain c List.mem_cons_self with rfl | hc
      · exact absurd List.mem_cons_self (hseveral hone)
      · exact newline?_eq_none_of_isPlain hc _
  simp only [readString, hdrop]
  rw [readMultiLiteral_append _ hq hplain hr]
  · simp
  · simp only [List.length_append, List.length_cons]
    omega

theorem readString_singleQuotes (s : String) (hne : s.toList ≠ []) (hq : '\'' ∉ s.toList)
    (hplain : ∀ c ∈ s.toList, isPlain c = true) :
    readString ('\'' :: (s.toList ++ '\'' :: rest)) = some (s, rest) := by
  rw [readString_literal, readLiteral_append hq hplain]
  · simp
  · intro t heq
    cases hs : s.toList with
    | nil => exact hne hs
    | cons c cs =>
      rw [hs] at heq hq
      exact hq ((List.cons.inj heq).1 ▸ List.mem_cons_self)

theorem plain_of_any_needsCode (h : cs.any needsCode = false) (hc : c ∈ cs) :
    c = '\n' ∨ isPlain c = true := by
  by_cases hn : c = '\n'
  · exact .inl hn
  · exact .inr (isPlain_of_not_needsCode (by simpa using List.any_eq_false.1 h c hc) hn)

/-- A string is read back with the text that follows it, which may not go on with a quote. -/
theorem readString_renderString (s : String) (hd : rest.head? ≠ some '"')
    (hs : rest.head? ≠ some '\'') : readString (renderString s ++ rest) = some (s, rest) := by
  have hmem : s.toList.any (· = '\n') = false → '\n' ∉ s.toList := fun h hn => by
    simpa using List.any_eq_false.1 h _ hn
  unfold renderString
  simp only
  generalize s.toList.any (· = '\n') = several at hmem ⊢
  generalize hstart : (if several then ['\n'] else []) = start
  split_ifs with h1 h2 h3 h4 h5
  · simpa using readString_escape s hd
  · simp only [Bool.and_eq_true, Bool.not_eq_true', decide_eq_true_eq] at h2
    obtain ⟨⟨hcoded, hsingle⟩, rfl⟩ := h2
    have hne : s.toList ≠ [] := fun hnil => h1 (by rw [hnil]; rfl)
    have hplain (c : Char) (hc : c ∈ s.toList) : isPlain c = true :=
      (plain_of_any_needsCode hcoded hc).resolve_left fun h => hmem rfl (h ▸ hc)
    simpa using readString_singleQuotes s hne (notMem_of_longestRun_go hsingle) hplain
  · simpa [hstart] using readString_multiEscape s hd hmem
  · simp only [Bool.and_eq_true, Bool.not_eq_true', decide_eq_true_eq] at h4
    have hplain (c : Char) (hc : c ∈ s.toList) := plain_of_any_needsCode h4.1 hc
    simpa [hstart] using readString_multiLiteral s hs hmem hplain h4.2
  · simpa [hstart] using readString_multiEscape s hd hmem
  · simpa using readString_escape s hd

end TouchOverlay.Toml
