import LineKin.Proofs.Json.Spelling
import LineKin.Toml.Reader
import Mathlib.Algebra.Group.Nat.Defs

/-!
# Tables of numbers

The simplest TOML texts are tables of numbers: a header, then a key and a number on each line, and an empty
line between two tables. Such a text is read as those tables: **`parse?_numberTables`**. The reader is
followed statement by statement; a header opens a table at the end, and each line puts one number into it
(`run_lines`, `run_table`).
-/

namespace LineKin.Toml

open Json (AreDigits areDigits_toDigits toDigits_eq_of_head?_eq_zero)

/-- A number under a key. -/
def Item.ofNat (n : Nat) : Item := .scalar (.integer n)

/-- A table of numbers. -/
structure NumberTable where
  /-- The name of the table. -/
  name : String
  /-- The keys with their numbers. -/
  lines : List (String × Nat)

/-- A key that is written without quotes. -/
def IsBareKey (key : String) : Prop := key.toList ≠ [] ∧ ∀ c ∈ key.toList, isBareKeyPart c = true

instance (key : String) : Decidable (IsBareKey key) :=
  decidable_of_iff (key.toList.isEmpty = false ∧ key.toList.all isBareKeyPart = true) <| by
    simp [IsBareKey, List.isEmpty_eq_false_iff]

/-- A line with a key and its number. -/
def lineText (line : String × Nat) : List Char :=
  line.1.toList ++ ' ' :: '=' :: ' ' :: (Nat.toDigits 10 line.2 ++ ['\n'])

/-- A number under its key. -/
def lineEntry (line : String × Nat) : String × Item := (line.1, .ofNat line.2)

namespace NumberTable

/-- A table as it is written. -/
def text (t : NumberTable) : List Char :=
  '[' :: (t.name.toList ++ ']' :: '\n' :: t.lines.flatMap lineText)

/-- A table as it is read. -/
def entry (t : NumberTable) : String × Item := (t.name, .table .headed (t.lines.map lineEntry))

/-- All keys can be written without quotes and are different, and the numbers are small enough. -/
structure IsPlain (t : NumberTable) : Prop where
  /-- The name can be written without quotes. -/
  isBareKey : IsBareKey t.name
  /-- The keys can be written without quotes, and the numbers have 63 bits. -/
  lines : ∀ line ∈ t.lines, IsBareKey line.1 ∧ line.2 < 2 ^ 63
  /-- No key stands in two lines. -/
  nodup : (t.lines.map Prod.fst).Nodup

end NumberTable

variable {key : String} {n steps : Nat} {rest : List Char} {r r' : Reader}

/-! ### Keys -/

theorem IsBareKey.exists_cons (hkey : IsBareKey key) :
    ∃ c chars, key.toList = c :: chars ∧ isBareKeyPart c = true := by
  obtain ⟨c, chars, hchars⟩ := List.exists_cons_of_ne_nil hkey.1
  exact ⟨c, chars, hchars, hkey.2 c (hchars ▸ List.mem_cons_self)⟩

theorem skipSpaces_of_isBareKey (hkey : IsBareKey key) (rest : List Char) :
    skipSpaces (key.toList ++ rest) = key.toList ++ rest := by
  obtain ⟨c, chars, hchars, hc⟩ := hkey.exists_cons
  have hspace : ¬ isSpace c = true := by
    intro hspace
    rcases Bool.or_eq_true_iff.1 hspace with hspace | hspace <;>
      rw [eq_of_beq hspace] at hc <;> exact absurd hc (by decide)
  rw [hchars, skipSpaces, List.cons_append, List.dropWhile_cons_of_neg hspace]

theorem readKeyPart_of_isBareKey {c : Char} (hkey : IsBareKey key) (hc : isBareKeyPart c = false)
    (rest : List Char) : readKeyPart (key.toList ++ c :: rest) = some (key, c :: rest) := by
  have hstop : ¬ isBareKeyPart c = true := by simp [hc]
  have htaken : (key.toList ++ c :: rest).takeWhile isBareKeyPart = key.toList := by
    rw [List.takeWhile_append_of_pos hkey.2, List.takeWhile_cons_of_neg hstop, List.append_nil]
  have hsome : key.toList.isEmpty = false := by simpa using hkey.1
  rw [readKeyPart, htaken, List.dropWhile_append_of_pos hkey.2, List.dropWhile_cons_of_neg hstop]
  simp only [hsome, Bool.false_eq_true, if_false, String.ofList_toList]

/-- A key in front of an equals sign. -/
theorem readKey_assign (hkey : IsBareKey key) (rest : List Char) :
    readKey keyLimit (key.toList ++ ' ' :: '=' :: rest) = some ([key], '=' :: rest) := by
  rw [keyLimit, readKey, skipSpaces_of_isBareKey hkey, readKeyPart_of_isBareKey hkey (by decide)]
  rfl

/-- A key in front of a closing bracket. -/
theorem readKey_header (hkey : IsBareKey key) (rest : List Char) :
    readKey keyLimit (key.toList ++ ']' :: rest) = some ([key], ']' :: rest) := by
  rw [keyLimit, readKey, skipSpaces_of_isBareKey hkey, readKeyPart_of_isBareKey hkey (by decide)]
  rfl

/-! ### Numbers -/

theorem foldl_digitValue {digits : List Char} (h : ∀ c ∈ digits, c.isDigit = true) (start : Nat) :
    digits.foldl (fun n c => 10 * n + digitValue c) start = Nat.ofDigitChars 10 digits start := by
  induction digits generalizing start with
  | nil => rfl
  | cons c digits ih =>
    obtain ⟨hc, hdigits⟩ := List.forall_mem_cons.1 h
    rw [List.foldl_cons, ih hdigits, Nat.ofDigitChars_cons, digitValue, if_pos hc]

/-- Digits without underscores have their usual value. -/
theorem groupsValue_of_areDigits {digits : List Char} (h : AreDigits digits) :
    groupsValue 10 digits = Nat.ofDigitChars 10 digits 0 := by
  have hkept : digits.filter (· != '_') = digits := by
    refine List.filter_eq_self.2 fun c hc => ?_
    rw [bne_iff_ne]
    rintro rfl
    exact absurd (h.2 _ hc) (by decide)
  rw [groupsValue, hkept, foldl_digitValue h.2]

theorem isPlainWhole_toDigits (n : Nat) : isPlainWhole (Nat.toDigits 10 n) = true := by
  obtain ⟨hsome, hdigits⟩ := areDigits_toDigits n
  have hunderscore : '_' ∉ Nat.toDigits 10 n := fun hmem => absurd (hdigits _ hmem) (by decide)
  have hgroups : inGroups Char.isDigit (Nat.toDigits 10 n) = true := by
    rw [inGroups, List.splitOn_eq_singleton hunderscore]
    simpa using hdigits
  rw [isPlainWhole, hgroups, Bool.true_and, Bool.or_eq_true, bne_iff_ne, beq_iff_eq]
  by_cases hhead : (Nat.toDigits 10 n).head? = some '0'
  · exact .inr (by rw [toDigits_eq_of_head?_eq_zero hhead]; rfl)
  · exact .inl hhead

/-- Digits do not start with another character. -/
theorem toDigits_ne_cons {c : Char} (hc : c.isDigit = false) (rest : List Char) :
    Nat.toDigits 10 n ≠ c :: rest := by
  intro hcons
  have hdigit := (areDigits_toDigits n).2 c (hcons ▸ List.mem_cons_self)
  rw [hc] at hdigit
  cases hdigit

theorem integer?_toDigits (h : n < 2 ^ 63) : integer? (Nat.toDigits 10 n) = some (.integer n) := by
  have hvalue : groupsValue 10 (Nat.toDigits 10 n) = n :=
    (groupsValue_of_areDigits (areDigits_toDigits n)).trans
      (Nat.ofDigitChars_toDigits (by decide) (by decide))
  have hsigned : signed (Nat.toDigits 10 n) = (false, Nat.toDigits 10 n) := by
    rw [signed]
    · exact fun rest => toDigits_ne_cons (by decide) rest
    · exact fun rest => toDigits_ne_cons (by decide) rest
  -- behind a zero in front there is no mark of another base
  have hbase {c : Char} (hc : c.isDigit = false) (rest : List Char) :
      Nat.toDigits 10 n ≠ '0' :: c :: rest := by
    intro hcons
    have hdigit := (areDigits_toDigits n).2 c (by rw [hcons]; simp)
    rw [hc] at hdigit
    cases hdigit
  rw [integer?]
  · simp only [hsigned, hvalue, isPlainWhole_toDigits, Bool.not_true, Bool.false_eq_true, if_false,
      Bool.false_and, Bool.not_false, Bool.true_and]
    exact if_pos (decide_eq_true h)
  · exact fun rest => hbase (by decide) rest
  · exact fun rest => hbase (by decide) rest
  · exact fun rest => hbase (by decide) rest

theorem scalar?_toDigits (h : n < 2 ^ 63) : scalar? (Nat.toDigits 10 n) = some (.integer n) := by
  have htrue : (Nat.toDigits 10 n == "true".toList) = false :=
    beq_eq_false_iff_ne.2 (toDigits_ne_cons (by decide) _)
  have hfalse : (Nat.toDigits 10 n == "false".toList) = false :=
    beq_eq_false_iff_ne.2 (toDigits_ne_cons (by decide) _)
  rw [scalar?, htrue, hfalse, integer?_toDigits h]
  rfl

theorem isBarePart_of_isDigit {c : Char} (h : c.isDigit = true) : isBarePart c = true := by
  simp [isBarePart, Char.isAlphanum, h]

theorem readBare_toDigits (h : n < 2 ^ 63) (rest : List Char) :
    readBare (Nat.toDigits 10 n ++ '\n' :: rest) = some (.ofNat n, '\n' :: rest) := by
  have hparts : ∀ c ∈ Nat.toDigits 10 n, isBarePart c = true :=
    fun c hc => isBarePart_of_isDigit ((areDigits_toDigits n).2 c hc)
  have htaken : (Nat.toDigits 10 n ++ '\n' :: rest).takeWhile isBarePart = Nat.toDigits 10 n := by
    rw [List.takeWhile_append_of_pos hparts, List.takeWhile_cons_of_neg (by decide), List.append_nil]
  rw [readBare, htaken, List.dropWhile_append_of_pos hparts, List.dropWhile_cons_of_neg (by decide)]
  -- no time can follow, since there is no blank behind the digits
  dsimp only
  split
  · rename_i heq
    exact absurd (List.cons.inj heq).1 (by decide)
  · rw [scalar?_toDigits h]
    rfl

theorem skipSpaces_toDigits (n : Nat) (rest : List Char) :
    skipSpaces (' ' :: (Nat.toDigits 10 n ++ rest)) = Nat.toDigits 10 n ++ rest := by
  obtain ⟨c, digits, hcons⟩ := List.exists_cons_of_ne_nil (areDigits_toDigits n).1
  have hspace : ¬ isSpace c = true := by
    intro hspace
    rcases Bool.or_eq_true_iff.1 hspace with hspace | hspace <;>
      exact toDigits_ne_cons (by decide) digits (eq_of_beq hspace ▸ hcons)
  rw [hcons, skipSpaces, List.dropWhile_cons_of_pos (by decide), List.cons_append,
    List.dropWhile_cons_of_neg hspace]

theorem readValue_toDigits (h : n < 2 ^ 63) (depth : Nat) (rest : List Char) :
    readValue depth (steps + 1) (Nat.toDigits 10 n ++ '\n' :: rest) =
      some (.ofNat n, '\n' :: rest) := by
  obtain ⟨c, digits, hcons⟩ := List.exists_cons_of_ne_nil (areDigits_toDigits n).1
  have hfirst {d : Char} (hd : d.isDigit = false) (tail : List Char) :
      Nat.toDigits 10 n ++ '\n' :: rest ≠ d :: tail := by
    rw [hcons, List.cons_append]
    rintro heq
    obtain ⟨rfl, -⟩ := List.cons.inj heq
    exact toDigits_ne_cons hd digits hcons
  rw [readValue]
  · exact readBare_toDigits h rest
  · exact fun tail => hfirst (by decide) tail
  · exact fun tail => hfirst (by decide) tail
  · exact fun _ tail _ => hfirst (by decide) tail
  · exact fun _ tail _ => hfirst (by decide) tail

/-! ### Entries -/

namespace Entries

variable {entries : Entries}

theorem get?_eq_none_iff : entries.get? key = none ↔ ∀ entry ∈ entries, entry.1 ≠ key := by
  simp only [get?, Option.map_eq_none_iff, List.find?_eq_none, beq_iff_eq, ne_eq]

theorem get?_concat (h : entries.get? key = none) (item : Item) :
    get? (entries ++ [(key, item)]) key = some item := by
  rw [get?, Option.map_eq_none_iff] at h
  rw [get?, List.find?_append, h]
  simp

theorem set_of_get?_eq_none (h : entries.get? key = none) (item : Item) :
    entries.set key item = entries ++ [(key, item)] := by
  have hnew : (entries.any fun entry => entry.1 == key) = false := by
    rw [List.any_eq_false]
    exact fun entry hentry => by simpa using get?_eq_none_iff.1 h entry hentry
  rw [set, hnew, if_neg Bool.false_ne_true]

/-- What stands under the last key is replaced. -/
theorem set_concat (h : entries.get? key = none) (old new : Item) :
    set (entries ++ [(key, old)]) key new = entries ++ [(key, new)] := by
  have hkept : (entries.map fun entry => if entry.1 == key then (key, new) else entry) = entries := by
    calc entries.map _ = entries.map id := by
          refine List.map_congr_left fun entry hentry => if_neg ?_
          simpa using get?_eq_none_iff.1 h entry hentry
      _ = entries := List.map_id _
  rw [set, if_pos (by simp), List.map_append, hkept]
  simp

end Entries

/-! ### Statements -/

theorem assign_concat {name : String} {base written : Entries} (hname : base.get? name = none)
    (hkey : written.get? key = none) (item : Item) :
    Reader.assign ⟨base ++ [(name, .table .headed written)], [name]⟩ [] key item =
      some ⟨base ++ [(name, .table .headed (written ++ [(key, item)]))], [name]⟩ := by
  have hput : setKey [] key item .headed written = some (written ++ [(key, item)]) := by
    rw [setKey, updateAt]
    simp [hkey, Entries.set_of_get?_eq_none hkey]
  rw [Reader.assign, updateAt, Entries.get?_concat hname]
  simp [updateAt, hput, Entries.set_concat hname]

theorem openTable_of_get?_eq_none {base : Entries} (hname : base.get? key = none) :
    openTable [] key base = some (base ++ [(key, .table .headed [])]) := by
  rw [openTable, updateAt]
  simp [hname, Entries.set_of_get?_eq_none hname]

/-- One line puts one number into the table. -/
theorem statement_line {line : String × Nat} {name : String} {base written : Entries}
    (hline : IsBareKey line.1 ∧ line.2 < 2 ^ 63) (hname : base.get? name = none)
    (hkey : written.get? line.1 = none) (rest : List Char) :
    Reader.statement ⟨base ++ [(name, .table .headed written)], [name]⟩ (steps + 1)
        (lineText line ++ rest) =
      some (⟨base ++ [(name, .table .headed (written ++ [lineEntry line]))], [name]⟩, rest) := by
  have htext : lineText line ++ rest =
      line.1.toList ++ ' ' :: '=' :: ' ' :: (Nat.toDigits 10 line.2 ++ '\n' :: rest) := by
    simp [lineText]
  have hfirst (tail : List Char) : lineText line ++ rest ≠ '[' :: tail := by
    obtain ⟨c, chars, hchars, hc⟩ := hline.1.exists_cons
    rw [htext, hchars, List.cons_append]
    rintro heq
    obtain ⟨rfl, -⟩ := List.cons.inj heq
    exact absurd hc (by decide)
  rw [Reader.statement]
  · rw [htext, readKey_assign hline.1]
    simp only [Option.bind_eq_bind, Option.bind_some, splitKey, List.getLast?_singleton, Option.map_some,
      List.dropLast_singleton, skipSpaces_toDigits, readValue_toDigits hline.2, assign_concat hname hkey]
    rfl
  · exact fun tail => hfirst _
  · exact hfirst

/-- A header opens a table behind the others. -/
theorem statement_header {name : String} (hkey : IsBareKey name) (hname : r.root.get? name = none)
    (steps : Nat) (rest : List Char) :
    r.statement steps ('[' :: (name.toList ++ ']' :: '\n' :: rest)) =
      some (⟨r.root ++ [(name, .table .headed [])], [name]⟩, rest) := by
  have hheader : r.header false (name.toList ++ ']' :: '\n' :: rest) =
      some (⟨r.root ++ [(name, .table .headed [])], [name]⟩, '\n' :: rest) := by
    rw [Reader.header, readKey_header hkey]
    simp [splitKey, openTable_of_get?_eq_none hname]
  rw [Reader.statement]
  · rw [hheader]
    rfl
  · obtain ⟨c, chars, hchars, hc⟩ := hkey.exists_cons
    rintro tail heq
    rw [hchars] at heq
    obtain ⟨rfl, -⟩ := List.cons.inj heq
    exact absurd hc (by decide)

/-! ### Runs -/

/-- A character that a statement of a table may start with. -/
theorem skipAll_cons {c : Char} (hc : isBareKeyPart c = true ∨ c = '[') (rest : List Char) :
    skipAll false (c :: rest) = c :: rest := by
  have hne {d : Char} (hd : isBareKeyPart d = false) (hd' : d ≠ '[') : (c == d) = false := by
    rw [beq_eq_false_iff_ne]
    rintro rfl
    rcases hc with hc | hc
    · rw [hd] at hc
      cases hc
    · exact hd' hc
  simp only [skipAll, isSpace, hne (d := '\n') (by decide) (by decide),
    hne (d := '#') (by decide) (by decide), hne (d := ' ') (by decide) (by decide),
    hne (d := '\t') (by decide) (by decide)]
  rfl

theorem run_statement {text : List Char} (hsome : text ≠ []) (hskip : skipAll false text = text)
    (hstatement : r.statement (steps + 1) text = some (r', rest)) :
    r.run (steps + 1) text = r'.run steps rest := by
  rw [Reader.run, hskip]
  split
  · exact absurd rfl hsome
  · rw [hstatement]
    rfl

theorem run_break (r : Reader) (steps : Nat) (text : List Char) :
    r.run (steps + 1) ('\n' :: text) = r.run (steps + 1) text := by
  rw [Reader.run, Reader.run]
  rfl

theorem run_line {line : String × Nat} {name : String} {base written : Entries}
    (hline : IsBareKey line.1 ∧ line.2 < 2 ^ 63) (hname : base.get? name = none)
    (hkey : written.get? line.1 = none) (rest : List Char) :
    Reader.run ⟨base ++ [(name, .table .headed written)], [name]⟩ (steps + 1)
        (lineText line ++ rest) =
      Reader.run ⟨base ++ [(name, .table .headed (written ++ [lineEntry line]))], [name]⟩ steps rest := by
  obtain ⟨c, chars, hchars, hc⟩ := hline.1.exists_cons
  have htext : ∃ tail, lineText line ++ rest = c :: tail := by
    rw [lineText, hchars]
    exact ⟨_, rfl⟩
  obtain ⟨tail, htail⟩ := htext
  refine run_statement ?_ ?_ (statement_line hline hname hkey rest)
  · rw [htail]
    exact List.cons_ne_nil _ _
  · rw [htail]
    exact skipAll_cons (.inl hc) tail

/-- The lines of a table put their numbers into it, one behind the other. -/
theorem run_lines {name : String} {base : Entries} (hname : base.get? name = none)
    {lines : List (String × Nat)} {written : Entries}
    (hlines : ∀ line ∈ lines, IsBareKey line.1 ∧ line.2 < 2 ^ 63)
    (hnodup : ((written ++ lines.map lineEntry).map Prod.fst).Nodup) (rest : List Char) :
    Reader.run ⟨base ++ [(name, .table .headed written)], [name]⟩ (steps + lines.length)
        (lines.flatMap lineText ++ rest) =
      Reader.run ⟨base ++ [(name, .table .headed (written ++ lines.map lineEntry))], [name]⟩
        steps rest := by
  induction lines generalizing written with
  | nil => simp
  | cons line lines ih =>
    obtain ⟨hline, hlines⟩ := List.forall_mem_cons.1 hlines
    have hkey : written.get? line.1 = none := by
      rw [Entries.get?_eq_none_iff]
      rintro entry hentry heq
      rw [List.map_append, List.nodup_append] at hnodup
      exact hnodup.2.2 entry.1 (List.mem_map_of_mem hentry) line.1 (by simp [lineEntry]) heq
    have hshift : written ++ (line :: lines).map lineEntry =
        (written ++ [lineEntry line]) ++ lines.map lineEntry := by simp
    rw [hshift] at hnodup ⊢
    rw [List.flatMap_cons, List.append_assoc, List.length_cons, ← Nat.add_assoc,
      run_line hline hname hkey, ih hlines hnodup]

/-- A table is put behind those that were read before. -/
theorem run_table {t : NumberTable} (ht : t.IsPlain) (hname : r.root.get? t.name = none)
    (rest : List Char) :
    r.run (steps + t.lines.length + 1) (t.text ++ rest) =
      Reader.run ⟨r.root ++ [t.entry], [t.name]⟩ steps rest := by
  have hheader := statement_header ht.isBareKey hname (steps + t.lines.length + 1)
    (t.lines.flatMap lineText ++ rest)
  have htext : t.text ++ rest =
      '[' :: (t.name.toList ++ ']' :: '\n' :: (t.lines.flatMap lineText ++ rest)) := by
    simp [NumberTable.text]
  have hnodup : (([] ++ t.lines.map lineEntry).map Prod.fst).Nodup := by
    simpa [lineEntry, Function.comp_def] using ht.nodup
  rw [htext, run_statement (List.cons_ne_nil _ _) (skipAll_cons (.inr rfl) _) hheader,
    run_lines hname ht.lines hnodup, NumberTable.entry, List.nil_append]

/-- Tables with an empty line between any two of them. -/
def tablesText (tables : List NumberTable) : List Char := ['\n'].intercalate (tables.map NumberTable.text)

/-- How many statements some tables have. -/
def statementCount (tables : List NumberTable) : Nat :=
  tables.length + (tables.flatMap NumberTable.lines).length

theorem exists_gap (t : NumberTable) (tables : List NumberTable) :
    ∃ gap, (gap = [] ∨ gap = ['\n']) ∧ tablesText (t :: tables) = t.text ++ (gap ++ tablesText tables) := by
  cases tables with
  | nil => exact ⟨[], .inl rfl, by simp [tablesText]⟩
  | cons next tables => exact ⟨['\n'], .inr rfl, by simp [tablesText, List.intercalate_cons_cons]⟩

/-- Tables are put one behind the other. -/
theorem run_tables {tables : List NumberTable} (htables : ∀ t ∈ tables, t.IsPlain)
    (hnodup : ((r.root ++ tables.map NumberTable.entry).map Prod.fst).Nodup) (steps : Nat) :
    (r.run (steps + statementCount tables + 1) (tablesText tables)).map Reader.root =
      some (r.root ++ tables.map NumberTable.entry) := by
  induction tables generalizing r with
  | nil => simp [tablesText, Reader.run, skipAll]
  | cons t tables ih =>
    obtain ⟨ht, htables⟩ := List.forall_mem_cons.1 htables
    have hname : r.root.get? t.name = none := by
      rw [Entries.get?_eq_none_iff]
      rintro entry hentry heq
      rw [List.map_append, List.nodup_append] at hnodup
      exact hnodup.2.2 entry.1 (List.mem_map_of_mem hentry) t.name (by simp [NumberTable.entry]) heq
    have hshift : r.root ++ (t :: tables).map NumberTable.entry =
        (r.root ++ [t.entry]) ++ tables.map NumberTable.entry := by simp
    have hsteps : steps + statementCount (t :: tables) + 1 =
        (steps + statementCount tables + 1) + t.lines.length + 1 := by
      simp only [statementCount, List.length_cons, List.flatMap_cons, List.length_append]
      omega
    obtain ⟨gap, hgap, htext⟩ := exists_gap t tables
    have hpassed : Reader.run ⟨r.root ++ [t.entry], [t.name]⟩ (steps + statementCount tables + 1)
        (gap ++ tablesText tables) =
        Reader.run ⟨r.root ++ [t.entry], [t.name]⟩ (steps + statementCount tables + 1)
          (tablesText tables) := by
      rcases hgap with rfl | rfl
      · rfl
      · exact run_break _ _ _
    rw [hshift] at hnodup ⊢
    rw [hsteps, htext, run_table ht hname, hpassed, ih htables hnodup]

/-! ### The whole text -/

/-- A character that a text of tables may hold. -/
def IsTableChar (c : Char) : Prop := isBareKeyPart c = true ∨ c ∈ ['[', ']', '=', ' ', '\n']

theorem isTableChar_of_mem_lineText {line : String × Nat} (hkey : IsBareKey line.1) :
    ∀ c ∈ lineText line, IsTableChar c := by
  have hdigits : ∀ c ∈ Nat.toDigits 10 line.2, IsTableChar c := by
    intro c hc
    have hdigit := (areDigits_toDigits line.2).2 c hc
    exact .inl (by simp [isBareKeyPart, Char.isAlphanum, hdigit])
  intro c hc
  simp only [lineText, List.mem_append, List.mem_cons] at hc
  rcases hc with hc | rfl | rfl | rfl | hc | rfl | hc
  · exact .inl (hkey.2 c hc)
  · exact .inr (by decide)
  · exact .inr (by decide)
  · exact .inr (by decide)
  · exact hdigits c hc
  · exact .inr (by decide)
  · cases hc

theorem isTableChar_of_mem_text {t : NumberTable} (ht : t.IsPlain) : ∀ c ∈ t.text, IsTableChar c := by
  intro c hc
  simp only [NumberTable.text, List.mem_cons, List.mem_append, List.mem_flatMap] at hc
  rcases hc with rfl | hc | rfl | rfl | ⟨line, hline, hc⟩
  · exact .inr (by decide)
  · exact .inl (ht.isBareKey.2 c hc)
  · exact .inr (by decide)
  · exact .inr (by decide)
  · exact isTableChar_of_mem_lineText (ht.lines line hline).1 c hc

theorem isTableChar_of_mem_tablesText {tables : List NumberTable} (htables : ∀ t ∈ tables, t.IsPlain) :
    ∀ c ∈ tablesText tables, IsTableChar c := by
  induction tables with
  | nil => simp [tablesText]
  | cons t tables ih =>
    obtain ⟨ht, htables⟩ := List.forall_mem_cons.1 htables
    obtain ⟨gap, hgap, htext⟩ := exists_gap t tables
    intro c hc
    rw [htext, List.mem_append, List.mem_append] at hc
    rcases hc with hc | hc | hc
    · exact isTableChar_of_mem_text ht c hc
    · rcases hgap with rfl | rfl
      · cases hc
      · exact .inr (by simp_all)
    · exact ih htables c hc

theorem unifyBreaks_of_not_mem {text : List Char} (h : '\r' ∉ text) : unifyBreaks text = text := by
  induction text with
  | nil => rfl
  | cons c rest ih =>
    rw [unifyBreaks, ih (List.not_mem_of_not_mem_cons h)]
    rintro tail rfl
    exact absurd List.mem_cons_self h

theorem length_le_length_flatMap_lineText (lines : List (String × Nat)) :
    lines.length ≤ (lines.flatMap lineText).length := by
  induction lines with
  | nil => simp
  | cons line lines ih =>
    have hline : 1 ≤ (lineText line).length := by
      simp only [lineText, List.length_append, List.length_cons]
      omega
    simp only [List.length_cons, List.flatMap_cons, List.length_append]
    omega

/-- Each statement has a character of its own. -/
theorem statementCount_le_length (tables : List NumberTable) :
    statementCount tables ≤ (tablesText tables).length := by
  induction tables with
  | nil => simp [statementCount]
  | cons t tables ih =>
    obtain ⟨gap, -, htext⟩ := exists_gap t tables
    have hlines := length_le_length_flatMap_lineText t.lines
    simp only [statementCount, htext, NumberTable.text, List.flatMap_cons, List.length_append,
      List.length_cons] at ih ⊢
    omega

/-- **Tables of numbers are read as they are written.** -/
theorem parse?_numberTables (tables : List NumberTable) {text : String}
    (htables : ∀ t ∈ tables, t.IsPlain) (hnodup : (tables.map NumberTable.name).Nodup)
    (htext : text.toList = tablesText tables) : parse? text = some (tables.map NumberTable.entry) := by
  have hchars := isTableChar_of_mem_tablesText htables
  have hreturn : '\r' ∉ tablesText tables := by
    intro hmem
    rcases hchars _ hmem with h | h <;> exact absurd h (by decide)
  have hmark : withoutByteOrderMark (tablesText tables) = tablesText tables := by
    rw [withoutByteOrderMark]
    rintro rest heq
    rcases hchars '\uFEFF' (by rw [heq]; exact List.mem_cons_self) with h | h <;>
      exact absurd h (by decide)
  obtain ⟨spare, hspare⟩ := Nat.exists_eq_add_of_le (statementCount_le_length tables)
  have hnames : ((([] : Entries) ++ tables.map NumberTable.entry).map Prod.fst).Nodup := by
    simpa [NumberTable.entry, Function.comp_def] using hnodup
  have hrun := run_tables (r := {}) htables hnames spare
  rw [parse?, htext, hmark, unifyBreaks_of_not_mem hreturn, hspare, Nat.add_comm (statementCount tables)]
  exact hrun

end LineKin.Toml
