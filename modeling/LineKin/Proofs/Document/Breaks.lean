import LineKin.Proofs.Document.Cutting

/-!
# Line breaks

Between two lines of a text stands a line feed, with or without a carriage return in front of it. The
breaks of a text may be mixed: whichever of the two stands in each gap, the cut gives back the lines that
were joined (`linesOf_joined`), if they are lines at all (`IsLine`).

A text that was not made in this way may have several carriage returns in front of a line feed, or one at
its end. `withoutReturns` says character by character what is lost when it is cut and joined again, and
`cutting_and_joining` puts both directions together. Facts about all texts are proved along their lines
(`lines_induction`).
-/

namespace LineKin

/-- What stands between two lines. -/
inductive LineBreak where
  /-- A line feed. -/
  | feed
  /-- A carriage return and a line feed. -/
  | returnFeed
  deriving DecidableEq

/-- The characters of a line break. -/
def LineBreak.text : LineBreak → String
  | feed => "\n"
  | returnFeed => "\r\n"

namespace TextDocument

/-- A text that can be a line of its own: nothing in it is taken for a line break, or a part of one. -/
def IsLine (line : String) : Prop := '\n' ∉ line.toList ∧ line.toList.getLast? ≠ some '\r'

/-- Lines joined to a text, each one but the first behind a break of its own. -/
def joined (first : String) : List (LineBreak × String) → String
  | [] => first
  | (gap, line) :: rest => first ++ gap.text ++ joined line rest

/-- Whether a carriage return is lost: it stands right before a line feed or at the end. -/
def isLost (c : Char) (rest : List Char) : Bool :=
  c == '\r' && (rest.isEmpty || rest.head? == some '\n')

/-- A text without the carriage return right before each line feed, and without the one at its end. -/
def withoutReturns : List Char → List Char
  | [] => []
  | c :: rest => if isLost c rest then withoutReturns rest else c :: withoutReturns rest

/-! ### Lines that were joined -/

theorem linesOf_append_break {line : String} (hline : IsLine line) (gap : LineBreak) (text : String) :
    linesOf (line ++ gap.text ++ text) = line :: linesOf text := by
  obtain ⟨hfeed, hreturn⟩ := hline
  cases gap with
  | feed =>
    have hchars : (line ++ LineBreak.feed.text ++ text).toList = line.toList ++ '\n' :: text.toList := by
      simp [LineBreak.text]
    rw [linesOf, hchars, List.splitOn_append_cons_self_of_not_mem hfeed, List.map_cons,
      (withoutReturn_eq_self_iff _).2 hreturn, String.ofList_toList]
    rfl
  | returnFeed =>
    -- the piece in front of the line feed is the line with the carriage return
    have hchars : (line ++ LineBreak.returnFeed.text ++ text).toList =
        (line.toList ++ ['\r']) ++ '\n' :: text.toList := by simp [LineBreak.text]
    have hpiece : '\n' ∉ line.toList ++ ['\r'] := by simpa using hfeed
    have hdropped : withoutReturn (line.toList ++ ['\r']) = line.toList := by simp [withoutReturn]
    rw [linesOf, hchars, List.splitOn_append_cons_self_of_not_mem hpiece, List.map_cons, hdropped,
      String.ofList_toList]
    rfl

theorem linesOf_of_isLine {line : String} (hline : IsLine line) : linesOf line = [line] := by
  rw [linesOf, List.splitOn_eq_singleton hline.1, List.map_singleton,
    (withoutReturn_eq_self_iff _).2 hline.2, String.ofList_toList]

/-- **Cutting undoes joining**, whatever the breaks. -/
theorem linesOf_joined {first : String} {rest : List (LineBreak × String)}
    (hlines : ∀ line ∈ first :: rest.map Prod.snd, IsLine line) :
    linesOf (joined first rest) = first :: rest.map Prod.snd := by
  induction rest generalizing first with
  | nil => exact linesOf_of_isLine (hlines first List.mem_cons_self)
  | cons entry rest ih =>
    obtain ⟨gap, line⟩ := entry
    obtain ⟨hfirst, hrest⟩ := List.forall_mem_cons.1 hlines
    rw [joined, linesOf_append_break hfirst, ih hrest, List.map_cons]

/-! ### Lines that keep a carriage return -/

/-- A line without the carriage return at its end. -/
def lineWithoutReturn (line : String) : String := String.ofList (withoutReturn line.toList)

theorem lineWithoutReturn_eq_self_iff (line : String) :
    lineWithoutReturn line = line ↔ line.toList.getLast? ≠ some '\r' := by
  rw [← withoutReturn_eq_self_iff, lineWithoutReturn, ← String.toList_inj, String.toList_ofList]

/-- Joined with line feeds and cut again, each line loses the carriage return at its end. -/
theorem linesOf_text_eq_map {d : TextDocument} (hsome : d.lines ≠ [])
    (hfeeds : ∀ line ∈ d.lines, '\n' ∉ line.toList) :
    linesOf d.text = d.lines.map lineWithoutReturn := by
  rw [linesOf, splitOn_text hsome hfeeds, List.map_map]
  rfl

/-- Cut again, a document stays as it is exactly if none of its lines ends in a carriage return. -/
theorem ofText_text_eq_self_iff {d : TextDocument} (hsome : d.lines ≠ [])
    (hfeeds : ∀ line ∈ d.lines, '\n' ∉ line.toList) :
    ofText d.text d.languageId = d ↔ ∀ line ∈ d.lines, line.toList.getLast? ≠ some '\r' := by
  have hlines : ofText d.text d.languageId = d ↔ d.lines.map lineWithoutReturn = d.lines.map id := by
    rw [ofText, linesOf_text_eq_map hsome hfeeds, List.map_id]
    constructor
    · exact congrArg TextDocument.lines
    · intro hlines
      rw [hlines]
  rw [hlines, List.map_inj_left]
  exact forall₂_congr fun line _ => lineWithoutReturn_eq_self_iff line

/-! ### Any text -/

/-- What holds of a text without a line feed, and passes from a text to that text behind one more line,
holds of all texts. -/
theorem lines_induction {motive : List Char → Prop} (last : ∀ line, '\n' ∉ line → motive line)
    (next : ∀ line rest, '\n' ∉ line → motive rest → motive (line ++ '\n' :: rest)) (text : List Char) :
    motive text := by
  induction h : text.length using Nat.strongRecOn generalizing text with
  | ind n ih =>
    by_cases hmem : '\n' ∈ text
    · obtain ⟨line, rest, rfl, hfeed⟩ := List.eq_append_cons_of_mem hmem
      simp only [List.length_append, List.length_cons] at h
      exact next line rest hfeed (ih rest.length (by omega) rest rfl)
    · exact last text hmem

/-- There is one piece more than there are line feeds. -/
theorem length_splitOn (text : List Char) :
    (text.splitOn '\n').length = text.count '\n' + 1 := by
  induction text using lines_induction with
  | last line hfeed => rw [List.splitOn_eq_singleton hfeed, List.count_eq_zero.2 hfeed, List.length_singleton]
  | next line rest hfeed ih =>
    rw [List.splitOn_append_cons_self_of_not_mem hfeed, List.length_cons, ih, List.count_append,
      List.count_eq_zero.2 hfeed, List.count_cons_self, Nat.zero_add]

/-- A line loses the carriage return at its end if the text ends there or a line feed follows. -/
theorem withoutReturns_append {line rest : List Char} (hfeed : '\n' ∉ line)
    (hrest : rest = [] ∨ rest.head? = some '\n') :
    withoutReturns (line ++ rest) = withoutReturn line ++ withoutReturns rest := by
  induction line with
  | nil => rfl
  | cons c line ih =>
    have ih := ih (List.not_mem_of_not_mem_cons hfeed)
    cases line with
    | nil =>
      have hlost : isLost c rest = (c == '\r') := by
        rcases hrest with rfl | hrest
        · simp [isLost]
        · simp [isLost, hrest]
      rw [List.singleton_append, withoutReturns, hlost]
      by_cases hc : c = '\r'
      · simp [withoutReturn, hc]
      · simp [withoutReturn, hc]
    | cons d line =>
      have hd : d ≠ '\n' := by
        rintro rfl
        exact hfeed (by simp)
      have hkept : isLost c (d :: line ++ rest) = false := by simp [isLost, hd]
      have htail : withoutReturn (c :: d :: line) = c :: withoutReturn (d :: line) := by
        rw [withoutReturn, withoutReturn, List.getLast?_cons_cons]
        split <;> rfl
      rw [List.cons_append, withoutReturns, hkept, if_neg Bool.false_ne_true, ih, htail, List.cons_append]

/-- What joining makes of the pieces of a text that are cut off. -/
theorem intercalate_map_withoutReturn (text : List Char) :
    ['\n'].intercalate ((text.splitOn '\n').map withoutReturn) = withoutReturns text := by
  induction text using lines_induction with
  | last line hfeed =>
    have hself := withoutReturns_append hfeed (.inl rfl)
    rw [List.append_nil, withoutReturns, List.append_nil] at hself
    rw [List.splitOn_eq_singleton hfeed, List.map_singleton, List.intercalate_singleton, hself]
  | next line rest hfeed ih =>
    have hsome : (rest.splitOn '\n').map withoutReturn ≠ [] := by simp
    rw [List.splitOn_append_cons_self_of_not_mem hfeed, List.map_cons,
      List.intercalate_cons_of_ne_nil hsome, ih, withoutReturns_append hfeed (.inr rfl), withoutReturns]
    simp [isLost]

/-- **Cutting and joining.** Let lines be joined with any line breaks. The document of the text has
these very lines, and its text is the lines joined with line feeds. The document of any text has one line
more than the text has line feeds, and no line feed in a line; its text is the text without the carriage
return right before each line feed and without the one at its end. -/
theorem cutting_and_joining (languageId : String) :
    (∀ (first : String) (rest : List (LineBreak × String)),
      (∀ line ∈ first :: rest.map Prod.snd, IsLine line) →
      (ofText (joined first rest) languageId).lines = first :: rest.map Prod.snd ∧
      (ofText (joined first rest) languageId).text = "\n".intercalate (first :: rest.map Prod.snd)) ∧
    ∀ text : String,
      (ofText text languageId).lineCount = text.toList.count '\n' + 1 ∧
      (∀ line ∈ (ofText text languageId).lines, '\n' ∉ line.toList) ∧
      (ofText text languageId).text.toList = withoutReturns text.toList := by
  refine ⟨fun first rest hlines => ?_, fun text => ⟨?_, fun line hline => ?_, ?_⟩⟩
  · have hcut : (ofText (joined first rest) languageId).lines = first :: rest.map Prod.snd :=
      linesOf_joined hlines
    exact ⟨hcut, by rw [TextDocument.text, hcut]⟩
  · rw [lineCount, ofText, linesOf, List.length_map, length_splitOn]
  · obtain ⟨piece, hpiece, rfl⟩ := List.mem_map.1 hline
    rw [String.toList_ofList]
    exact not_mem_withoutReturn hpiece
  · rw [toList_text_ofText, intercalate_map_withoutReturn]

/-- Three lines with different breaks, one of them empty and one with a carriage return inside; and a
text with two carriage returns in front of its line feed and one at its end. -/
theorem cutting_and_joining_mixedBreaks :
    let rest : List (LineBreak × String) := [(.returnFeed, ""), (.feed, "b\rc")]
    (∀ line ∈ "a" :: rest.map Prod.snd, IsLine line) ∧ joined "a" rest = "a\r\n\nb\rc" ∧
    (ofText "a\r\n\nb\rc" "javascript").lines = ["a", "", "b\rc"] ∧
    (ofText "a\r\r\nb\r" "javascript").text.toList = withoutReturns "a\r\r\nb\r".toList ∧
    withoutReturns "a\r\r\nb\r".toList = "a\r\nb".toList := by
  intro rest
  have hlines : ∀ line ∈ "a" :: rest.map Prod.snd, IsLine line := by
    unfold IsLine
    decide
  have hjoined : joined "a" rest = "a\r\n\nb\rc" := by decide
  have hcut := ((cutting_and_joining "javascript").1 "a" rest hlines).1
  rw [hjoined] at hcut
  exact ⟨hlines, hjoined, hcut, ((cutting_and_joining "javascript").2 _).2.2, by decide⟩

end TextDocument

end LineKin
