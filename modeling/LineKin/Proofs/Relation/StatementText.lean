import LineKin.Proofs.Document.Braces
import LineKin.Proofs.Line.Followed

/-!
# The text of a statement

A statement is read behind the margin of its line: blanks and closing braces. What its kind is judged by
(`textOf`) and the byte from which the braces of its block are counted (`column`) are computed apart. They
agree: the margin takes as many bytes as the column says, whatever characters are in it, and the text is
what follows (`exists_margin`). So what stands in the margin changes no kind (`kindOf_append`), and the
block of a statement counts the braces of its text and of the lines below (`endsOn_statement_iff`).

Each kind has its keywords, and no keyword belongs to two kinds. A text that a statement of some kind opens
starts with a keyword of the kind that goes on with no other character of a word, so that this keyword is
the whole first word of the text (`mem_keywords_of_opens`). Hence a text is opened by one kind at most.

* **`statement_text_exact`**: all of this for every line, in whatever order the kinds are tried.
-/

namespace LineKin

open Text Line Pattern

namespace Statement

variable {line margin : String} {text : List Char} {k k' : Kind}

/-! ### Behind the margin -/

/-- A text has nothing but blanks and closing braces. -/
def AllMargin (text : String) : Prop := ∀ c ∈ text.toList, isMargin c = true

theorem not_isMargin_head?_textOf (line : String) : (textOf line).head?.any isMargin = false := by
  have hhead := List.head?_dropWhile_not isMargin line.toList
  rw [textOf]
  cases h : (line.toList.dropWhile isMargin).head? with
  | none => rfl
  | some c =>
    rw [h] at hhead
    exact hhead

/-- The text of a statement stands behind a margin of as many bytes as its column says. -/
theorem exists_margin (line : String) : ∃ margin : String, AllMargin margin ∧
    line = margin ++ String.ofList (textOf line) ∧ margin.utf8ByteSize = column line := by
  refine ⟨String.ofList (line.toList.takeWhile isMargin), ?_, ?_, Block.utf8ByteSize_ofList _⟩
  · intro c hc
    rw [String.toList_ofList] at hc
    exact List.mem_takeWhile_imp hc
  · rw [textOf, ← String.ofList_append, List.takeWhile_append_dropWhile, String.ofList_toList]

theorem textOf_append (h : AllMargin margin) (line : String) :
    textOf (margin ++ line) = textOf line := by
  rw [textOf, String.toList_append, List.dropWhile_append_of_pos h, textOf]

/-- What stands in the margin does not change the kind. -/
theorem kindOf_append (h : AllMargin margin) (line : String) :
    kindOf (margin ++ line) = kindOf line := by
  rw [kindOf, textOf_append h, kindOf]

/-! ### Keywords -/

theorem Kind.mem_all (k : Kind) : k ∈ Kind.all := by
  cases k <;> decide

/-- The words that a statement of the kind starts with. -/
def Kind.keywords : Kind → List String
  | .loop => ["for", "while", "do"]
  | .conditional => ["if"]
  | .alternative => ["else"]
  | .attempt => ["try"]
  | .handler => ["catch", "finally"]
  | .selection => ["switch"]
  | .label => ["case", "default"]
  | .jump => ["break", "continue"]
  | .result => ["return"]

theorem isIdentifier_of_mem_keywords : ∀ word ∈ k.keywords, IsIdentifier word.toList := by
  cases k <;> decide

/-- No keyword belongs to two kinds. -/
theorem eq_of_mem_keywords {word : String} (h : word ∈ k.keywords) (h' : word ∈ k'.keywords) :
    k = k' := by
  -- looking a keyword up among all kinds gives the kind that it is a keyword of
  have hfind : ∀ (k : Kind), ∀ word ∈ k.keywords,
      Kind.all.find? (fun k => k.keywords.contains word) = some k := by
    intro k
    cases k <;> decide
  exact Option.some.inj ((hfind k word h).symm.trans (hfind k' word h'))

/-- A word that starts a text and goes on with no other character of a word is the whole first word. -/
theorem eq_takeWhile_of_leads {word : List Char} {y : Place} (hleads : (Place.start text).Leads word y)
    (hword : IsIdentifier word) (hafter : y.after.head?.any isWordChar = false) :
    word = text.takeWhile isWordChar :=
  Place.Word.eq_takeWhile ⟨hleads, hword, rfl, hafter⟩

/-- Where a pattern of whole words fits, the first word is one of them. -/
theorem exists_mem_of_opens {words : List String} (hwords : ∀ word ∈ words, IsIdentifier word.toList)
    (h : (anyOf words ++ wordEdge).opens text = true) :
    ∃ word ∈ words, word.toList = text.takeWhile isWordChar := by
  obtain ⟨z, hz⟩ := fits_iff.1 h
  obtain ⟨y, hy, hedge⟩ := mem_ways_append.1 hz
  obtain ⟨word, hmem, hleads⟩ := mem_ways_anyOf.1 hy
  obtain ⟨-, hedge⟩ := mem_ways_wordEdge.1 hedge
  rw [hleads.atWordEdge_end (hwords word hmem), Bool.not_eq_true'] at hedge
  exact ⟨word, hmem, eq_takeWhile_of_leads hleads (hwords word hmem) hedge⟩

/-- The label of all other cases ends with a colon, which is no character of a word. -/
theorem default_of_opens (h : (Pattern.text "default" ++ blanks ++ Pattern.char ':').opens text = true) :
    "default".toList = text.takeWhile isWordChar := by
  obtain ⟨z, hz⟩ := fits_iff.1 h
  obtain ⟨x, hx, hcolon⟩ := mem_ways_append.1 hz
  obtain ⟨y, hy, hskip⟩ := mem_ways_append.1 hx
  have hleads := mem_ways_text.1 hy
  obtain ⟨c, hc, heq⟩ := mem_ways_one.1 hcolon
  obtain rfl : c = ':' := beq_iff_eq.1 heq
  have hsign : x.BeforeSign := Place.beforeSign_of_head? (by rw [hc.1]; rfl) (by decide) (by decide)
  exact eq_takeWhile_of_leads hleads (by decide) ((mem_ways_blanks.1 hskip).not_isWordChar hsign)

/-- **The first word of a statement** is a keyword of its kind. -/
theorem mem_keywords_of_opens (h : k.opening.opens text = true) :
    ∃ word ∈ k.keywords, word.toList = text.takeWhile isWordChar := by
  have hwords := isIdentifier_of_mem_keywords (k := k)
  cases k with
  | label =>
    -- one of the two keywords has a colon behind it and need not end at the edge of a word
    obtain ⟨y, hy⟩ := fits_iff.1 h
    rcases mem_ways_or.1 hy with hcase | hdefault
    · have hopens : (anyOf ["case"] ++ wordEdge).opens text = true := fits_iff.2 ⟨y, hcase⟩
      obtain ⟨word, hmem, hword⟩ := exists_mem_of_opens (by decide) hopens
      exact ⟨word, List.mem_cons.2 (.inl (List.mem_singleton.1 hmem)), hword⟩
    · exact ⟨"default", by decide, default_of_opens (fits_iff.2 ⟨y, hdefault⟩)⟩
  | loop | conditional | alternative | attempt | handler | selection | jump | result =>
    exact exists_mem_of_opens hwords h

/-- At most one kind of statement opens a text. -/
theorem eq_of_opens (h : k.opening.opens text = true) (h' : k'.opening.opens text = true) : k = k' := by
  obtain ⟨word, hmem, hword⟩ := mem_keywords_of_opens h
  obtain ⟨word', hmem', hword'⟩ := mem_keywords_of_opens h'
  have hsame : word = word' := String.toList_inj.1 (hword.trans hword'.symm)
  exact eq_of_mem_keywords hmem (hsame ▸ hmem')

/-- Whatever the order in which all kinds are tried, the kind that opens the text is found. -/
theorem find?_opens_eq_some_iff {order : List Kind} (hall : ∀ k, k ∈ order) :
    order.find? (fun k => k.opening.opens text) = some k ↔ k.opening.opens text = true := by
  constructor
  · intro hfound
    exact List.find?_some (p := fun k : Kind => k.opening.opens text) hfound
  · intro h
    cases hfound : order.find? (fun k => k.opening.opens text) with
    | none => exact absurd h (List.find?_eq_none.1 hfound k (hall k))
    | some found =>
      have hopens := List.find?_some (p := fun k : Kind => k.opening.opens text) hfound
      rw [eq_of_opens hopens h]

theorem find?_opens_eq_kindOf {order : List Kind} (hall : ∀ k, k ∈ order) (line : String) :
    order.find? (fun k => k.opening.opens (textOf line)) = kindOf line := by
  apply Option.ext
  intro k
  rw [kindOf, find?_opens_eq_some_iff hall, find?_opens_eq_some_iff Kind.mem_all]

end Statement

/-! ### Blocks of statements -/

open Statement Block

variable {d : TextDocument} {i : Nat} {line : String}

/-- The characters whose braces are counted for the block of a statement: those of its text and those of
all lines below. -/
def TextDocument.counted (d : TextDocument) (i : Nat) (text : List Char) : List Placed :=
  text.map (·, i) ++ placed ((d : Document).lines.drop (i + 1)) (i + 1)

theorem TextDocument.placedFrom_column (h : d.lines[i]? = some line) :
    placedFrom (column line) ((d : Document).lines.drop i) i = d.counted i (textOf line) := by
  have hline : (d : Document).lines[i]? = some (.ok line) := by
    rw [view, List.getElem?_map, h, Option.map_some]
  obtain ⟨hlt, hget⟩ := List.getElem?_eq_some_iff.1 hline
  rw [List.drop_eq_getElem_cons hlt, placedFrom_cons, hget, charsOf, behindBytes?_column,
    Option.getD_some, counted]

/-- The block of a statement ends where the braces of its text and of the lines below say. -/
theorem TextDocument.endsOn_statement_iff (h : d.lines[i]? = some line) (k : Nat) :
    (d : Document).EndsOn (d.counted i (textOf line)) k ↔ k = (d.outline.block i).closing := by
  have hlt : i < d.lineCount := (List.getElem?_eq_some_iff.1 h).1
  have hlast : max (d.lineCount - 1) i = (d : Document).lastLine := by
    rw [Document.lastLine, d.lineCount_view]
    omega
  have hfound := (d.blockFrom_view i (column line)).symm.trans (blockFrom_column h)
  have hclosing := congrArg Block.closing (Except.ok.inj hfound)
  rw [← hclosing, Document.endsOn_iff, ← placedFrom_column h, closingFrom_eq_closingIn, view,
    List.map_drop, hlast]
  rfl

/-- **Where a statement starts** on its line, whatever characters the line has. Its column is the number of
bytes of the longest margin of the line, so it lies between two characters, and the text that the kind is
judged by is what stands behind it. More blanks and closing braces in front of the line leave the kind as it
is. In a document, the block of the statement is the one that is counted from the column, and it ends where
the braces of this text and of the lines below say. The text is opened by one kind at most, so the kind does
not depend on the order in which all kinds are tried. -/
theorem statement_text_exact (line : String) :
    (∃ margin : String, AllMargin margin ∧ line = margin ++ String.ofList (textOf line) ∧
      margin.utf8ByteSize = column line ∧ (textOf line).head?.any isMargin = false) ∧
    (∀ margin : String, AllMargin margin → kindOf (margin ++ line) = kindOf line) ∧
    (∀ (d : TextDocument) (i : Nat), d.lines[i]? = some line →
      (d : Document).blockFrom i (column line) = .ok (d.outline.block i) ∧
      ∀ k, (d : Document).EndsOn (d.counted i (textOf line)) k ↔ k = (d.outline.block i).closing) ∧
    (∀ k k' : Kind, k.opening.opens (textOf line) = true → k'.opening.opens (textOf line) = true →
      k = k') ∧
    ∀ order : List Kind, (∀ k, k ∈ order) →
      order.find? (fun k => k.opening.opens (textOf line)) = kindOf line := by
  refine ⟨?_, ?_, ?_, ?_, ?_⟩
  · obtain ⟨margin, hmargin, hline, hsize⟩ := exists_margin line
    exact ⟨margin, hmargin, hline, hsize, not_isMargin_head?_textOf line⟩
  · intro margin hmargin
    exact kindOf_append hmargin line
  · intro d i h
    exact ⟨TextDocument.blockFrom_column h, TextDocument.endsOn_statement_iff h⟩
  · intro k k' h h'
    exact eq_of_opens h h'
  · intro order hall
    exact find?_opens_eq_kindOf hall line

/-- A clause behind a brace between blanks of two and three bytes. -/
def wideClause : String := "\u00a0\x7d\u3000else \x7b"

/-- A conditional that is continued by the clause. -/
def wideMargin : TextDocument := ⟨"javascript", ["if (a) \x7b", wideClause, "f(\x7b\x7d);", "\x7d"]⟩

/-- The keyword stands behind six bytes. The brace in front of it does not count, so the block of the clause
ends two lines below. Behind one more brace it is a clause as well, and in the reverse order the same kind is
found. -/
theorem statement_text_exact_wideMargin :
    (AllMargin "\x7d\u2028" ∧ wideMargin.lines[1]? = some wideClause ∧
      Kind.alternative.opening.opens (textOf wideClause) = true ∧ ∀ k, k ∈ Kind.all.reverse) ∧
    (∃ margin : String, AllMargin margin ∧ wideClause = margin ++ String.ofList (textOf wideClause) ∧
      margin.utf8ByteSize = 6 ∧ (textOf wideClause).head?.any isMargin = false) ∧
    kindOf ("\x7d\u2028" ++ wideClause) = some .alternative ∧
    ((wideMargin : Document).blockFrom 1 6 = .ok ⟨1, 3⟩ ∧
      ∀ k, (wideMargin : Document).EndsOn (wideMargin.counted 1 "else \x7b".toList) k ↔ k = 3) ∧
    (∀ k : Kind, k.opening.opens (textOf wideClause) = true → k = .alternative) ∧
    Kind.all.reverse.find? (fun k => k.opening.opens (textOf wideClause)) = some .alternative := by
  have hmargin : AllMargin "\x7d\u2028" := List.all_eq_true.1 (by decide)
  have hline : wideMargin.lines[1]? = some wideClause := rfl
  have hopens : Kind.alternative.opening.opens (textOf wideClause) = true := by decide +kernel
  have hall : ∀ k, k ∈ Kind.all.reverse := fun k => List.mem_reverse.2 k.mem_all
  have hcolumn : column wideClause = 6 := by decide +kernel
  have htext : textOf wideClause = "else \x7b".toList := by decide +kernel
  have hblock : wideMargin.outline.block 1 = ⟨1, 3⟩ := by decide +kernel
  have hkind : kindOf wideClause = some .alternative := by decide +kernel
  obtain ⟨hplace, hkept, hcounted, hunique, horder⟩ := statement_text_exact wideClause
  have hcounted := hcounted wideMargin 1 hline
  rw [hcolumn, hblock, htext] at hcounted
  rw [hcolumn] at hplace
  refine ⟨⟨hmargin, hline, hopens, hall⟩, hplace, ?_, hcounted, ?_, ?_⟩
  · rw [hkept _ hmargin, hkind]
  · intro k h
    exact hunique k .alternative h hopens
  · rw [horder _ hall, hkind]

end LineKin
