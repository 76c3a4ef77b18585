import TouchOverlay.Proofs.TomlValues

/-!
# Documents read back

A document of plain entries and of tables of plain entries, with keys that need no quotes and no key
twice in one place, is read back with the same keys in the same order (`read_renderDocument`). Its
values are what `Toml.reread` says of each: each statement has a line of its own, and each adds to
the end of the table that is built from them.
-/

namespace TouchOverlay

namespace Toml
variable {c x : Char} {cs rest : List Char} {n : Nat} {k : String}

/-! ## Keys -/

/-- Keys that are written without quotes. -/
def IsBareKey (k : String) : Prop := k.toList ≠ [] ∧ ∀ c ∈ k.toList, isBare c = true

theorem IsBareKey.eq_cons (hk : IsBareKey k) :
    ∃ c cs, k.toList = c :: cs ∧ isBare c = true := by
  obtain ⟨c, cs, heq⟩ := List.exists_cons_of_ne_nil hk.1
  exact ⟨c, cs, heq, hk.2 c (heq ▸ List.mem_cons_self)⟩

/-- A bare key begins no comment, header or quoted key, and ends no line. -/
theorem ne_of_isBare (hc : isBare c = true) (hx : isBare x = false) : c ≠ x := by
  rintro rfl
  rw [hc] at hx
  cases hx

theorem isSpace_of_isBare (hc : isBare c = true) : isSpace c = false := by
  have hspace : c ≠ ' ' := ne_of_isBare hc (by decide)
  have htab : c ≠ '\t' := ne_of_isBare hc (by decide)
  simp [isSpace, hspace, htab]

theorem skip_cons (h : isSpace c = false) : skip (c :: cs) = c :: cs := by
  rw [skip, List.dropWhile_cons_of_neg (by simp [h])]

theorem span_isBare (hcs : ∀ c ∈ cs, isBare c = true) (hx : isBare x = false)
    (rest : List Char) :
    (cs ++ x :: rest).span isBare = (cs, x :: rest) := by
  rw [List.span_eq_takeWhile_dropWhile, List.takeWhile_append_of_pos hcs,
    List.dropWhile_append_of_pos hcs, List.takeWhile_cons_of_neg (by simp [hx]),
    List.dropWhile_cons_of_neg (by simp [hx]), List.append_nil]

theorem readKey_bare (hk : IsBareKey k) (hx : isBare x = false)
    (hskip : skip (x :: rest) = c :: cs) (hc : c ≠ '.') :
    readKey (n + 1) (k.toList ++ x :: rest) = some ([k], c :: cs) := by
  obtain ⟨d, ds, heq, hd⟩ := hk.eq_cons
  have hspan := span_isBare hk.2 hx rest
  have hsimple : readSimpleKey (k.toList ++ x :: rest) = some (k, x :: rest) := by
    rw [heq, List.cons_append] at hspan ⊢
    unfold readSimpleKey
    split
    · exact absurd (List.cons.inj (by assumption)).1 (ne_of_isBare hd (by decide))
    · exact absurd (List.cons.inj (by assumption)).1 (ne_of_isBare hd (by decide))
    · rw [hspan]
      change some (String.ofList (d :: ds), x :: rest) = _
      rw [← heq, String.ofList_toList]
  have hfront : skip (k.toList ++ x :: rest) = k.toList ++ x :: rest := by
    rw [heq, List.cons_append, skip_cons (isSpace_of_isBare hd)]
  simp only [readKey, hfront, hsimple, Option.bind_some, hskip]
  split
  · exact absurd (List.cons.inj (by assumption)).1 hc
  · rfl

/-! ## Statements -/

theorem skip_space (cs : List Char) : skip (' ' :: cs) = skip cs := rfl

theorem readStatement_renderEntry {e : String × Toml} (hk : IsBareKey e.1) (hv : e.2.IsScalar)
    (rest : List Char) :
    readStatement (renderEntry e ++ rest) = some (.entry [e.1] e.2.reread, rest) := by
  obtain ⟨d, ds, hkey, hd⟩ := hk.eq_cons
  have hbracket : d ≠ '[' := ne_of_isBare hd (by decide)
  obtain ⟨c, cs, hscalar, hspace⟩ := renderScalar_eq_cons hv
  have htext : renderEntry e ++ rest =
      e.1.toList ++ ' ' :: '=' :: ' ' :: (renderScalar e.2 ++ '\n' :: rest) := by
    simp [renderEntry]
  have hskip : skip (' ' :: (renderScalar e.2 ++ '\n' :: rest)) =
      renderScalar e.2 ++ '\n' :: rest := by
    rw [hscalar, List.cons_append, skip_space, skip_cons hspace]
  have hread : readKey nesting (renderEntry e ++ rest) =
      some ([e.1], '=' :: ' ' :: (renderScalar e.2 ++ '\n' :: rest)) := by
    rw [htext]
    exact readKey_bare hk (by decide) rfl (by decide)
  unfold readStatement
  split
  · rename_i heq
    rw [htext, hkey] at heq
    exact absurd (List.cons.inj heq).1 hbracket
  · rename_i heq
    rw [htext, hkey] at heq
    exact absurd (List.cons.inj heq).1 hbracket
  · simp only [hread, Option.bind_some, hskip, readValue_renderScalar hv]
    rfl

theorem readStatement_header (hk : IsBareKey k) (rest : List Char) :
    readStatement ('[' :: (k.toList ++ ']' :: '\n' :: rest)) = some (.table [k], rest) := by
  obtain ⟨d, ds, hkey, hd⟩ := hk.eq_cons
  have hbracket : d ≠ '[' := ne_of_isBare hd (by decide)
  have hread : readKey nesting (k.toList ++ ']' :: '\n' :: rest) =
      some ([k], ']' :: '\n' :: rest) :=
    readKey_bare hk (by decide) rfl (by decide)
  unfold readStatement
  split
  · rename_i heq
    rw [hkey] at heq
    exact absurd (List.cons.inj (List.cons.inj heq).2).1 hbracket
  · rename_i heq
    obtain rfl := (List.cons.inj heq).2
    rw [hread]
    rfl
  · rename_i hother
    exact absurd rfl (hother _)

/-- Nothing is skipped where a statement begins. -/
theorem skip_statement (hc : isBare c = true ∨ c = '[') (n : Nat) (cs : List Char) :
    skipComment (skipLines n (c :: cs)) = c :: cs := by
  have hne {x : Char} (hx : isBare x = false) (hb : '[' ≠ x) : c ≠ x :=
    hc.elim (ne_of_isBare · hx) (· ▸ hb)
  have hskip : skip (c :: cs) = c :: cs := skip_cons (hc.elim isSpace_of_isBare (· ▸ rfl))
  have hkeep : skipComment (c :: cs) = c :: cs := by
    unfold skipComment
    split
    · exact absurd (List.cons.inj (by assumption)).1 (hne (by decide) (by decide))
    · rfl
  have hline : newline? (c :: cs) = none := by
    unfold newline?
    split
    · exact absurd (List.cons.inj (by assumption)).1 (hne (by decide) (by decide))
    · exact absurd (List.cons.inj (by assumption)).1 (hne (by decide) (by decide))
    · rfl
  have hlines : skipLines n (c :: cs) = c :: cs := by
    cases n with
    | zero => exact hskip
    | succ n => simp only [skipLines, hskip, hkeep, hline]
  rw [hlines, hkeep]

theorem readStatements_cons {s : Statement} {text : List Char}
    (hskip : skipComment (skipLines text.length text) = c :: cs)
    (hread : readStatement (c :: cs) = some (s, rest)) :
    readStatements (n + 1) text = (readStatements n rest).map (s :: ·) := by
  simp only [readStatements, hskip, hread, Option.bind_some]

theorem readStatements_renderEntry {e : String × Toml} (hk : IsBareKey e.1) (hv : e.2.IsScalar)
    (rest : List Char) :
    readStatements (n + 1) (renderEntry e ++ rest) =
      (readStatements n rest).map (.entry [e.1] e.2.reread :: ·) := by
  have hread := readStatement_renderEntry hk hv rest
  obtain ⟨c, cs, hkey, hc⟩ := hk.eq_cons
  have htext : renderEntry e ++ rest =
      c :: (cs ++ [' ', '=', ' '] ++ renderScalar e.2 ++ ['\n'] ++ rest) := by
    simp [renderEntry, hkey]
  rw [htext] at hread ⊢
  exact readStatements_cons (skip_statement (.inl hc) _ _) hread

/-- The values of entries as they are read after they were written. -/
def rereadEntries (es : Entries) : Entries := es.map fun e => (e.1, e.2.reread)

/-- The lines of plain entries. -/
def entryStatements (es : Entries) : List Statement := es.map fun e => .entry [e.1] e.2

/-- The lines of a table of plain entries. -/
def tableStatements (t : String × Entries) : List Statement := .table [t.1] :: entryStatements t.2

/-- A table of plain entries under its own header. -/
def headed (t : String × Entries) : String × Toml := (t.1, .table .header t.2)

/-- Keys that need no quotes and are all different, with values that stand on their line. -/
structure IsPlain (es : Entries) : Prop where
  bare : ∀ e ∈ es, IsBareKey e.1
  scalar : ∀ e ∈ es, e.2.IsScalar
  nodup : (es.map Prod.fst).Nodup

theorem readStatements_entries {es : Entries} (hbare : ∀ e ∈ es, IsBareKey e.1)
    (hscalar : ∀ e ∈ es, e.2.IsScalar) (n : Nat) (rest : List Char) :
    readStatements (n + es.length) (es.flatMap renderEntry ++ rest) =
      (readStatements n rest).map (entryStatements (rereadEntries es) ++ ·) := by
  induction es with
  | nil => simp [entryStatements, rereadEntries]
  | cons e es ih =>
    have ih := ih (fun d hd => hbare d (List.mem_cons_of_mem e hd))
      fun d hd => hscalar d (List.mem_cons_of_mem e hd)
    -- one step of the reader for the first entry, and the rest of the text for the others
    rw [List.length_cons, ← Nat.add_assoc, List.flatMap_cons, List.append_assoc,
      readStatements_renderEntry (hbare e List.mem_cons_self) (hscalar e List.mem_cons_self), ih,
      Option.map_map]
    rfl

theorem readStatements_renderTable {t : String × Entries} (hk : IsBareKey t.1) (ht : IsPlain t.2)
    (n : Nat) (rest : List Char) :
    readStatements (n + (t.2.length + 1)) (renderTable t.1 t.2 ++ rest) =
      (readStatements n rest).map (tableStatements (t.1, rereadEntries t.2) ++ ·) := by
  have htext : renderTable t.1 t.2 ++ rest =
      '\n' :: '[' :: (t.1.toList ++ ']' :: '\n' :: (t.2.flatMap renderEntry ++ rest)) := by
    simp [renderTable]
  have hread := readStatement_header hk (t.2.flatMap renderEntry ++ rest)
  have hskip (text : List Char) :
      skipComment (skipLines ('\n' :: '[' :: text).length ('\n' :: '[' :: text)) = '[' :: text :=
    skip_statement (.inr rfl) (text.length + 1) text
  rw [htext, ← Nat.add_assoc, readStatements_cons (hskip _) hread,
    readStatements_entries ht.bare ht.scalar, Option.map_map]
  rfl

theorem readStatements_tables {ts : List (String × Entries)}
    (hts : ∀ t ∈ ts, IsBareKey t.1 ∧ IsPlain t.2) (n : Nat) (rest : List Char) :
    readStatements (n + (ts.map fun t => t.2.length + 1).sum)
        (ts.flatMap (fun t => renderTable t.1 t.2) ++ rest) =
      (readStatements n rest).map
        (ts.flatMap (fun t => tableStatements (t.1, rereadEntries t.2)) ++ ·) := by
  induction ts with
  | nil => simp
  | cons t ts ih =>
    obtain ⟨hk, ht⟩ := hts t List.mem_cons_self
    rw [List.map_cons, List.sum_cons, Nat.add_comm (t.2.length + 1), ← Nat.add_assoc,
      List.flatMap_cons, List.append_assoc, readStatements_renderTable hk ht,
      ih fun u hu => hts u (List.mem_cons_of_mem t hu), Option.map_map]
    simp [Function.comp_def]

/-! ## Tables -/

section Tables
variable {t t₀ c es : Entries} {k : String} {here : List String}

theorem lookup_eq_none (h : k ∉ t.map Prod.fst) : t.lookup k = none := by
  rw [List.lookup_eq_none_iff]
  intro e he
  rw [bne_iff_ne]
  rintro rfl
  exact h (List.mem_map_of_mem he)

theorem lookup_append_last (h : k ∉ t.map Prod.fst) (v : Toml) :
    (t ++ [(k, v)]).lookup k = some v := by
  simp [List.lookup_append, lookup_eq_none h, List.lookup]

theorem put_append_last (h : k ∉ t.map Prod.fst) (v w : Toml) :
    put k w (t ++ [(k, v)]) = t ++ [(k, w)] := by
  induction t with
  | nil => simp [put]
  | cons e t ih =>
    rw [List.map_cons, List.mem_cons, not_or] at h
    rw [List.cons_append, put, if_neg (Ne.symm h.1), ih h.2]
    rfl

theorem notMem_of_nodup {e : String × Toml} (h : ((t ++ e :: es).map Prod.fst).Nodup) :
    e.1 ∉ t.map Prod.fst := by
  rw [List.map_append, List.nodup_append] at h
  exact fun hmem => h.2.2 e.1 hmem e.1 List.mem_cons_self rfl

theorem apply_entry (h : k ∉ t.map Prod.fst) (v : Toml) :
    Statement.apply (t, []) (.entry [k] v) = some (t ++ [(k, v)], []) := by
  simp [Statement.apply, alterAt, addDotted, lookup_eq_none h]

theorem apply_entry_in_table {name : String} (hname : name ∉ t.map Prod.fst)
    (h : k ∉ c.map Prod.fst) (v : Toml) :
    Statement.apply (t ++ [(name, .table .header c)], [name]) (.entry [k] v) =
      some (t ++ [(name, .table .header (c ++ [(k, v)]))], [name]) := by
  simp [Statement.apply, alterAt, addDotted, lookup_eq_none h, lookup_append_last hname,
    put_append_last hname]

theorem apply_table (h : k ∉ t.map Prod.fst) :
    Statement.apply (t, here) (.table [k]) = some (t ++ [(k, .table .header [])], [k]) := by
  simp [Statement.apply, alterLast, alterAt, openTable, lookup_eq_none h]

theorem foldlM_entries (h : ((t ++ es).map Prod.fst).Nodup) :
    (entryStatements es).foldlM Statement.apply (t, []) = some (t ++ es, []) := by
  induction es generalizing t with
  | nil => simp [entryStatements]
  | cons e es ih =>
    have hsplit : t ++ e :: es = t ++ [e] ++ es := by simp
    have hkey := notMem_of_nodup h
    rw [hsplit] at h ⊢
    change (Statement.apply (t, []) (.entry [e.1] e.2)).bind
      (fun s => (entryStatements es).foldlM Statement.apply s) = _
    rw [apply_entry hkey]
    exact ih h

theorem foldlM_entries_in_table {name : String} (hname : name ∉ t.map Prod.fst)
    (h : ((c ++ es).map Prod.fst).Nodup) :
    (entryStatements es).foldlM Statement.apply (t ++ [(name, .table .header c)], [name]) =
      some (t ++ [(name, .table .header (c ++ es))], [name]) := by
  induction es generalizing c with
  | nil => simp [entryStatements]
  | cons e es ih =>
    have hsplit : c ++ e :: es = c ++ [e] ++ es := by simp
    have hkey := notMem_of_nodup h
    rw [hsplit] at h ⊢
    change (Statement.apply (_, [name]) (.entry [e.1] e.2)).bind
      (fun s => (entryStatements es).foldlM Statement.apply s) = _
    rw [apply_entry_in_table hname hkey]
    exact ih h

theorem foldlM_table {u : String × Entries} (hname : u.1 ∉ t.map Prod.fst)
    (h : (u.2.map Prod.fst).Nodup) :
    (tableStatements u).foldlM Statement.apply (t, here) = some (t ++ [headed u], [u.1]) := by
  change (Statement.apply (t, here) (.table [u.1])).bind
    (fun s => (entryStatements u.2).foldlM Statement.apply s) = _
  rw [apply_table hname]
  exact foldlM_entries_in_table hname h

theorem foldlM_tables {ts : List (String × Entries)}
    (h : ((t ++ ts.map headed).map Prod.fst).Nodup) (hts : ∀ u ∈ ts, (u.2.map Prod.fst).Nodup) :
    ∃ last, (ts.flatMap tableStatements).foldlM Statement.apply (t, here) =
      some (t ++ ts.map headed, last) := by
  induction ts generalizing t here with
  | nil => exact ⟨here, by simp⟩
  | cons u ts ih =>
    have hsplit : t ++ (u :: ts).map headed = t ++ [headed u] ++ ts.map headed := by simp
    have hkey : u.1 ∉ t.map Prod.fst := notMem_of_nodup h
    rw [hsplit] at h ⊢
    rw [List.flatMap_cons, List.foldlM_append, foldlM_table hkey (hts u List.mem_cons_self)]
    exact ih h fun v hv => hts v (List.mem_cons_of_mem u hv)

end Tables

/-! ## Documents -/

/-- Plain entries and tables of plain entries, with no key twice in one place. -/
structure IsDocument (es : Entries) (ts : List (String × Entries)) : Prop where
  entries : IsPlain es
  tables : ∀ t ∈ ts, IsBareKey t.1 ∧ IsPlain t.2
  nodup : (es.map Prod.fst ++ ts.map Prod.fst).Nodup

theorem map_fst_rereadEntries (es : Entries) :
    (rereadEntries es).map Prod.fst = es.map Prod.fst := by
  simp [rereadEntries, Function.comp_def]

theorem map_fst_headed (ts : List (String × Entries)) :
    (ts.map headed).map Prod.fst = ts.map Prod.fst := by
  simp [headed, Function.comp_def]

theorem ofStatements_document {es : Entries} {ts : List (String × Entries)}
    (h : (es.map Prod.fst ++ ts.map Prod.fst).Nodup)
    (hts : ∀ t ∈ ts, (t.2.map Prod.fst).Nodup) :
    ofStatements (entryStatements es ++ ts.flatMap tableStatements) =
      some (es ++ ts.map headed) := by
  have hes : (entryStatements es).foldlM Statement.apply ([], []) = some (es, []) :=
    foldlM_entries (List.nodup_append.1 h).1
  rw [← map_fst_headed, ← List.map_append] at h
  obtain ⟨last, hall⟩ := foldlM_tables h hts
  rw [ofStatements, List.foldlM_append, hes]
  exact congrArg (Option.map Prod.fst) hall

theorem renderDocument_append {es : Entries} (hes : ∀ e ∈ es, e.2.IsScalar)
    (ts : List (String × Entries)) :
    renderDocument (es ++ ts.map headed) =
      es.flatMap renderEntry ++ ts.flatMap fun t => renderTable t.1 t.2 := by
  rw [renderDocument, List.flatMap_append, List.flatMap_map]
  congr 1
  refine List.flatMap_congr fun e he => ?_
  obtain ⟨k, v⟩ := e
  have hv := hes _ he
  cases v with
  | table form inner => cases hv
  | _ => rfl

/-- A document begins with a key or an empty line, and with no byte order mark. -/
theorem dropMark_lines {es : Entries} {ts : List (String × Entries)} (hes : IsPlain es) :
    dropMark (es.flatMap renderEntry ++ ts.flatMap fun t => renderTable t.1 t.2) =
      es.flatMap renderEntry ++ ts.flatMap fun t => renderTable t.1 t.2 := by
  cases es with
  | nil => cases ts <;> rfl
  | cons e es =>
    obtain ⟨c, cs, hkey, hc⟩ := (hes.bare e List.mem_cons_self).eq_cons
    have hmark : c ≠ '\ufeff' := ne_of_isBare hc (by decide)
    simp only [List.flatMap_cons, renderEntry, hkey, List.cons_append]
    unfold dropMark
    split
    · exact absurd (List.cons.inj (by assumption)).1 hmark
    · rfl

theorem length_le_entries (es : Entries) : es.length ≤ (es.flatMap renderEntry).length := by
  have hpos : ∀ n ∈ es.map fun e => (renderEntry e).length, 1 ≤ n := by
    intro n hn
    obtain ⟨e, -, rfl⟩ := List.mem_map.1 hn
    simp only [renderEntry, List.length_append, List.length_cons]
    omega
  simpa [List.length_flatMap] using List.length_le_sum_of_one_le _ hpos

theorem length_le_tables (ts : List (String × Entries)) :
    (ts.map fun t => t.2.length + 1).sum ≤
      (ts.flatMap fun t => renderTable t.1 t.2).length := by
  rw [List.length_flatMap]
  refine List.sum_le_sum fun t _ => ?_
  have hes := length_le_entries t.2
  simp only [renderTable, List.length_append, List.length_cons]
  omega

theorem readStatements_document {es : Entries} {ts : List (String × Entries)}
    (h : IsDocument es ts) :
    readStatements ((renderDocument (es ++ ts.map headed)).length + 1)
        (renderDocument (es ++ ts.map headed)) =
      some (entryStatements (rereadEntries es) ++
        (ts.map fun t => (t.1, rereadEntries t.2)).flatMap tableStatements) := by
  have hes := length_le_entries es
  have hts := length_le_tables ts
  rw [renderDocument_append h.entries.scalar, List.length_append]
  -- each statement has a line of its own, so the length of the text bounds their number
  obtain ⟨n, hn⟩ : ∃ n, (es.flatMap renderEntry).length +
      (ts.flatMap fun t => renderTable t.1 t.2).length + 1 =
        n + 1 + (ts.map fun t => t.2.length + 1).sum + es.length := by
    obtain ⟨n, hn⟩ := Nat.exists_eq_add_of_le (Nat.add_le_add hes hts)
    exact ⟨n, by omega⟩
  have hend : readStatements (n + 1) [] = some [] := rfl
  have hread := readStatements_tables h.tables (n + 1) []
  rw [List.append_nil, hend] at hread
  rw [hn, readStatements_entries h.entries.bare h.entries.scalar, hread, List.flatMap_map]
  simp

/-- A document is read back: each entry is where it was, and its value is the one that was written,
a decimal in its plain form. -/
theorem read_renderDocument {es : Entries} {ts : List (String × Entries)} (h : IsDocument es ts) :
    read (String.ofList (renderDocument (es ++ ts.map headed))) =
      some (.table .header
        (rereadEntries es ++ ts.map fun t => headed (t.1, rereadEntries t.2))) := by
  have hmark : dropMark (renderDocument (es ++ ts.map headed)) =
      renderDocument (es ++ ts.map headed) := by
    rw [renderDocument_append h.entries.scalar]
    exact dropMark_lines h.entries
  have htable : ofStatements (entryStatements (rereadEntries es) ++
      (ts.map fun t => (t.1, rereadEntries t.2)).flatMap tableStatements) =
        some (rereadEntries es ++ (ts.map fun t => (t.1, rereadEntries t.2)).map headed) := by
    refine ofStatements_document ?_ ?_
    · simpa [map_fst_rereadEntries, Function.comp_def] using h.nodup
    · intro t ht
      obtain ⟨u, hu, rfl⟩ := List.mem_map.1 ht
      rw [map_fst_rereadEntries]
      exact (h.tables u hu).2.nodup
  rw [List.map_map] at htable
  rw [read, String.toList_ofList, hmark]
  simp only [readStatements_document h, Option.bind_some, htable]
  rfl

end Toml

end TouchOverlay
