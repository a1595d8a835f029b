import LineKin.Line.Import
import LineKin.Proofs.Line.Words

/-!
# Reading a list of bindings

A list is cut at its commas (`bindings_append`), and blanks around a binding are left out (`binding_eq`).
What is read of `X as Y` stands behind the last rename mark (`afterLast?_rename`), and of a single word the
word itself (`afterLast?_word`). A mark `type` in front makes no difference (`trim_withoutMark_type`).
-/

namespace LineKin

/-! ### Texts -/

namespace Text

variable {mark front back text word found : List Char} {c : Char}

/-- A text without blanks at its ends is its own trimmed form. -/
theorem trim_eq_self (hhead : text.head?.any isBlank = false)
    (hlast : text.getLast?.any isBlank = false) : trim text = text := by
  have hdrop : ∀ cs : List Char, cs.head?.any isBlank = false → cs.dropWhile isBlank = cs := by
    rintro (_ | ⟨c, rest⟩) hc
    · rfl
    · exact List.dropWhile_cons_of_neg (by simpa using hc)
  rw [trim, trimStart, hdrop text hhead, trimEnd, hdrop text.reverse (by rwa [List.head?_reverse]),
    List.reverse_reverse]

theorem trimStart_append_cons (hc : isBlank c = false) :
    trimStart (front ++ c :: back) = trimStart front ++ c :: back := by
  have hdrop : (c :: back).dropWhile isBlank = c :: back := List.dropWhile_cons_of_neg (by simp [hc])
  rw [trimStart, trimStart, List.dropWhile_append]
  split
  · rename_i hnone
    rw [hdrop, List.isEmpty_iff.1 hnone, List.nil_append]
  · rfl

theorem trimEnd_append_cons (hc : isBlank c = false) :
    trimEnd (front ++ c :: back) = front ++ c :: trimEnd back := by
  have hreverse : (front ++ c :: back).reverse = back.reverse ++ c :: front.reverse := by simp
  have hstart : trimStart (back.reverse ++ c :: front.reverse) =
      trimStart back.reverse ++ c :: front.reverse := trimStart_append_cons hc
  rw [trimStart, trimStart] at hstart
  rw [trimEnd, hreverse, hstart, trimEnd]
  simp

/-- Around a character that is not blank, both sides are trimmed by themselves. -/
theorem trim_append_cons (hc : isBlank c = false) :
    trim (front ++ c :: back) = trimStart front ++ c :: trimEnd back := by
  rw [trim, trimStart_append_cons hc, trimEnd_append_cons hc]

theorem exists_blanks_trimEnd (text : List Char) : ∃ back, AllBlank back ∧ text = trimEnd text ++ back := by
  refine ⟨(text.reverse.takeWhile isBlank).reverse, ?_, ?_⟩
  · exact AllBlank.reverse fun c hc => List.mem_takeWhile_imp hc
  · rw [trimEnd, ← List.reverse_append, List.takeWhile_append_dropWhile, List.reverse_reverse]

theorem exists_blanks_trimStart (text : List Char) :
    ∃ front, AllBlank front ∧ text = front ++ trimStart text :=
  ⟨text.takeWhile isBlank, fun _ hc => List.mem_takeWhile_imp hc, List.takeWhile_append_dropWhile.symm⟩

theorem trim_trimEnd (text : List Char) : trim (trimEnd text) = trim text := by
  obtain ⟨back, hback, htext⟩ := exists_blanks_trimEnd text
  have hpadded : trim ([] ++ trimEnd text ++ back) = trim (trimEnd text) := trim_padded nofun hback
  rwa [List.nil_append, ← htext, eq_comm] at hpadded

theorem trim_trimStart (text : List Char) : trim (trimStart text) = trim text := by
  obtain ⟨front, hfront, htext⟩ := exists_blanks_trimStart text
  have hpadded : trim (front ++ trimStart text ++ []) = trim (trimStart text) := trim_padded hfront nofun
  rwa [List.append_nil, ← htext, eq_comm] at hpadded

theorem trim_trim (text : List Char) : trim (trim text) = trim text :=
  (trim_trimEnd (trimStart text)).trans (trim_trimStart text)

theorem mem_of_mem_trimEnd (h : c ∈ trimEnd text) : c ∈ text := by
  obtain ⟨back, -, htext⟩ := exists_blanks_trimEnd text
  exact htext ▸ List.mem_append_left back h

theorem mem_of_mem_trim (h : c ∈ trim text) : c ∈ text :=
  (List.dropWhile_suffix isBlank).subset (mem_of_mem_trimEnd h)

/-- The part of a text in front of a character. -/
theorem takeWhile_ne_append_cons (hfront : c ∉ front) :
    (front ++ c :: back).takeWhile (· != c) = front := by
  have hkeep : ∀ d ∈ front, (d != c) = true := fun d hd => bne_iff_ne.2 fun heq => hfront (heq ▸ hd)
  rw [List.takeWhile_append_of_pos hkeep, List.takeWhile_cons_of_neg (by simp), List.append_nil]

theorem takeWhile_ne_eq_self (htext : c ∉ text) : text.takeWhile (· != c) = text :=
  List.takeWhile_eq_self_iff.2 fun _ hd => bne_iff_ne.2 fun heq => htext (heq ▸ hd)

/-- What stands in front of a character can be trimmed before or after the rest is cut off. -/
theorem trim_takeWhile_trim (hc : isBlank c = false) (text : List Char) :
    trim ((trim text).takeWhile (· != c)) = trim (text.takeWhile (· != c)) := by
  by_cases hmem : c ∈ text
  · obtain ⟨front, back, rfl, hfront⟩ := List.eq_append_cons_of_mem hmem
    have hstart : c ∉ trimStart front := fun h => hfront ((List.dropWhile_suffix isBlank).subset h)
    rw [trim_append_cons hc, takeWhile_ne_append_cons hstart, takeWhile_ne_append_cons hfront,
      trim_trimStart]
  · rw [takeWhile_ne_eq_self hmem, takeWhile_ne_eq_self (mt mem_of_mem_trim hmem), trim_trim]

theorem withoutMark_eq_self (h : ¬ mark <+: text) : withoutMark mark text = text :=
  if_neg (mt List.isPrefixOf_iff_prefix.1 h)

theorem mem_of_mem_withoutMark (h : c ∈ withoutMark mark text) : c ∈ text := by
  rw [withoutMark] at h
  split at h
  · exact List.mem_of_mem_drop h
  · exact h

/-- A mark is taken off in front of a character that it does not hold. -/
theorem exists_withoutMark_append_cons (hc : c ∉ mark) (front back : List Char) :
    ∃ rest, withoutMark mark (front ++ c :: back) = rest ++ c :: back := by
  by_cases hmark : mark <+: front ++ c :: back
  · have hfront : mark <+: front := by
      rcases List.prefix_or_prefix_of_prefix hmark (List.prefix_append front (c :: back)) with h | h
      · exact h
      · obtain ⟨rest, rfl⟩ := h
        rw [List.prefix_append_right_inj] at hmark
        cases rest with
        | nil => simp
        | cons d rest =>
          obtain ⟨rfl, -⟩ := List.cons_prefix_cons.1 hmark
          exact absurd (List.mem_append_right front List.mem_cons_self) hc
    obtain ⟨rest, rfl⟩ := hfront
    refine ⟨rest, ?_⟩
    rw [withoutMark, if_pos (List.isPrefixOf_iff_prefix.2 hmark), List.append_assoc, List.drop_left]
  · exact ⟨front, withoutMark_eq_self hmark⟩

theorem afterLast?_eq_none (h : ¬ mark <:+: text) : afterLast? mark text = none := by
  induction text with
  | nil => rfl
  | cons c rest ih =>
    rw [List.infix_cons_iff, not_or] at h
    rw [afterLast?, ih h.2]
    exact if_neg (mt List.isPrefixOf_iff_prefix.1 h.1)

/-- What stands in front of the last mark makes no difference. -/
theorem afterLast?_append (h : afterLast? mark text = some found) :
    afterLast? mark (front ++ text) = some found := by
  induction front with
  | nil => exact h
  | cons c rest ih => rw [List.cons_append, afterLast?, ih]

theorem afterLast?_mark (h : ¬ c :: mark <:+: mark ++ back) :
    afterLast? (c :: mark) (c :: mark ++ back) = some back := by
  have hprefix : (c :: mark).isPrefixOf (c :: (mark ++ back)) = true :=
    List.isPrefixOf_iff_prefix.2 (List.prefix_append (c :: mark) back)
  rw [List.cons_append, afterLast?, afterLast?_eq_none h]
  exact (if_pos hprefix).trans (congrArg some List.drop_left)

theorem afterLast?_char (hback : c ∉ back) : afterLast? [c] (front ++ c :: back) = some back :=
  afterLast?_append (afterLast?_mark fun h => hback (h.subset List.mem_cons_self))

/-- A word between two blanks does not occur where only one word is left. -/
theorem not_infix_of_blanks {first : Char} (hfirst : first ≠ ' ') (hmark : ' ' ∈ mark)
    (hword : ' ' ∉ word) (n : Nat) : ¬ ' ' :: first :: mark <:+: List.replicate n ' ' ++ word := by
  induction n with
  | zero => exact fun h => hword (h.subset List.mem_cons_self)
  | succ n ih =>
    rw [List.replicate_succ, List.cons_append, List.infix_cons_iff, not_or, List.cons_prefix_cons]
    refine ⟨fun h => ?_, ih⟩
    cases n with
    | zero => exact hword (h.2.subset (List.mem_cons_of_mem first hmark))
    | succ n =>
      rw [List.replicate_succ, List.cons_append, List.cons_prefix_cons] at h
      exact hfirst h.2.1

end Text

namespace Line

open Text

variable {front piece more word named text rename : List Char} {name mark : String}

/-! ### One binding -/

/-- A text that starts and ends with words has no blanks around it. -/
theorem trim_words {first last : List Char} (hfirst : IsIdentifier first) (hlast : IsIdentifier last)
    (hhead : first <+: text) (htail : last <:+ text) : trim text = text := by
  have hany : ∀ {o : Option Char} {word : List Char}, IsIdentifier word → (∀ c, o = some c → c ∈ word) →
      o.any isBlank = false := by
    intro o word hword ho
    cases o with
    | none => rfl
    | some c => exact hword.not_isBlank c (ho c rfl)
  refine trim_eq_self (hany hfirst fun c hc => ?_) (hany hlast fun c hc => ?_)
  · obtain ⟨d, rest, rfl, -⟩ := hfirst.exists_cons
    obtain ⟨behind, rfl⟩ := hhead
    obtain rfl : d = c := Option.some.inj hc
    exact List.mem_cons_self
  · obtain ⟨before, rfl⟩ := htail
    obtain ⟨d, rest, rfl, -⟩ := hlast.exists_cons
    rw [List.getLast?_append_of_ne_nil _ (List.cons_ne_nil d rest)] at hc
    exact List.mem_of_getLast? hc

theorem IsIdentifier.trim_eq (h : IsIdentifier word) : trim word = word :=
  trim_words h h (List.prefix_refl word) (List.suffix_refl word)

theorem trim_blanks_append (hfront : AllBlank front) : trim (front ++ text) = trim text := by
  have hpadded : trim (front ++ text ++ []) = trim text := trim_padded hfront nofun
  rwa [List.append_nil] at hpadded

/-- A binding that ends with a word is read as this word, if only blanks are between the rename mark and
the word. -/
theorem binding_eq (hword : IsIdentifier word) (hfront : AllBlank front)
    (hnamed : trim (withoutMark "type ".toList (trim text)) = named)
    (htarget : (afterLast? rename named).getD named = front ++ word) : binding rename text = word := by
  have htake : word.takeWhile (· != '=') = word := by
    refine List.takeWhile_eq_self_iff.2 fun c hc => bne_iff_ne.2 ?_
    rintro rfl
    exact hword.not_mem (by decide) hc
  simp only [binding]
  rw [hnamed, htarget, trim_blanks_append hfront, hword.trim_eq, htake, hword.trim_eq]

theorem trim_withoutMark_type (n : Nat) (text : List Char) :
    trim (withoutMark "type ".toList ("type".toList ++ List.replicate (n + 1) ' ' ++ text)) =
      trim text := by
  have hcut : "type".toList ++ List.replicate (n + 1) ' ' ++ text =
      "type ".toList ++ (List.replicate n ' ' ++ text) := by
    rw [List.replicate_succ]
    rfl
  have hprefix : "type ".toList.isPrefixOf ("type ".toList ++ (List.replicate n ' ' ++ text)) = true :=
    List.isPrefixOf_iff_prefix.2 (List.prefix_append ..)
  rw [hcut, withoutMark, if_pos hprefix, List.drop_left]
  exact trim_blanks_append fun c hc => List.eq_of_mem_replicate hc ▸ by decide

theorem withoutMark_type_of_ne (h : text.takeWhile isNamePart ≠ "type".toList) :
    withoutMark "type ".toList text = text := by
  refine if_neg fun hprefix => h ?_
  obtain ⟨rest, rfl⟩ := List.isPrefixOf_iff_prefix.1 hprefix
  rfl

/-- What is read behind a rename mark. -/
theorem afterLast?_rename (m n : Nat) (hword : ' ' ∉ word) : afterLast? " as ".toList
    (front ++ List.replicate (m + 1) ' ' ++ "as".toList ++ List.replicate (n + 1) ' ' ++ word) =
      some (List.replicate n ' ' ++ word) := by
  have hcut : front ++ List.replicate (m + 1) ' ' ++ "as".toList ++ List.replicate (n + 1) ' ' ++ word =
      (front ++ List.replicate m ' ') ++ (" as ".toList ++ (List.replicate n ' ' ++ word)) := by
    rw [List.replicate_succ', List.replicate_succ]
    simp
  rw [hcut]
  refine afterLast?_append (afterLast?_mark ?_)
  -- behind the blank of the mark there is no other blank with its word
  have hlast : ¬ [' ', 'a', 's', ' '] <:+: List.replicate (n + 1) ' ' ++ word :=
    not_infix_of_blanks (by decide) (by decide) hword (n + 1)
  show ¬ [' ', 'a', 's', ' '] <:+: 'a' :: 's' :: (List.replicate (n + 1) ' ' ++ word)
  rw [List.infix_cons_iff, List.infix_cons_iff]
  rintro (h | h | h)
  · exact absurd (List.cons_prefix_cons.1 h).1 (by decide)
  · exact absurd (List.cons_prefix_cons.1 h).1 (by decide)
  · exact hlast h

theorem afterLast?_word (hword : ' ' ∉ word) : afterLast? " as ".toList word = none :=
  afterLast?_eq_none fun h => hword (h.subset List.mem_cons_self)

/-- What is read of a binding with a colon: what stands behind the last one, without a default value. -/
theorem binding_colon {tail : List Char} (htail : ':' ∉ tail) :
    binding [':'] (front ++ ':' :: tail) = trim (tail.takeWhile (· != '=')) := by
  have hcolon : isBlank ':' = false := by decide
  have hlast : ':' ∉ trimEnd (trimEnd tail) := fun h => htail (mem_of_mem_trimEnd (mem_of_mem_trimEnd h))
  obtain ⟨rest, hrest⟩ := exists_withoutMark_append_cons (by decide : ':' ∉ "type ".toList)
    (trimStart front) (trimEnd tail)
  simp only [binding]
  rw [trim_append_cons hcolon, hrest, trim_append_cons hcolon, afterLast?_char hlast, Option.getD_some,
    trim_trimEnd, trim_trimEnd, trim_takeWhile_trim (by decide)]

/-- What is read of a binding without a colon. -/
theorem binding_of_not_mem (htext : ':' ∉ text) : binding [':'] text =
    trim ((withoutMark "type ".toList (trim text)).takeWhile (· != '=')) := by
  have hnone : afterLast? [':'] (trim (withoutMark "type ".toList (trim text))) = none := by
    refine afterLast?_eq_none fun h => ?_
    have hmem := mem_of_mem_trim (h.subset List.mem_cons_self)
    exact htext (mem_of_mem_trim (mem_of_mem_withoutMark hmem))
  simp only [binding]
  rw [hnone, Option.getD_none, trim_takeWhile_trim (by decide), trim_takeWhile_trim (by decide)]

/-! ### Lists of bindings -/

/-- The bindings in front of a comma, and those behind it. -/
theorem bindings_append (hpiece : ',' ∉ piece) :
    bindings mark (piece ++ ',' :: more) = bindings mark piece ++ bindings mark more := by
  rw [bindings, List.splitOn_append_cons_self_of_not_mem hpiece, ← List.singleton_append,
    List.filterMap_append, bindings, List.splitOn_eq_singleton hpiece]
  rfl

theorem bindings_word (hpiece : ',' ∉ piece) (hname : binding mark.toList piece = name.toList)
    (hne : name.toList ≠ []) : bindings mark piece = [name] := by
  rw [bindings, List.splitOn_eq_singleton hpiece, List.filterMap_cons, List.filterMap_nil]
  simp only [hname]
  rw [if_neg (by simpa using hne), String.ofList_toList]

theorem bindings_blanks (h : AllBlank text) : bindings mark text = [] := by
  have hcomma : ',' ∉ text := fun hmem => absurd (h ',' hmem) (by decide)
  have htrim : trim text = [] := trim_eq_nil_iff.2 h
  have hname : binding mark.toList text = [] := by
    simp only [binding]
    rw [htrim]
    rfl
  rw [bindings, List.splitOn_eq_singleton hcomma, List.filterMap_cons, List.filterMap_nil]
  simp only [hname]
  rfl

end Line

end LineKin
