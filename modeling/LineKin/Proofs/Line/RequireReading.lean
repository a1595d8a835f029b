import LineKin.Proofs.Line.Followed
import LineKin.Proofs.Line.ImportReading
import LineKin.Proofs.Line.Padding
import LineKin.Proofs.Line.RequireStatement
import LineKin.Proofs.Pattern.Barrier

/-!
# Reading statements that take a module apart

The list of parts is found between the braces of a `RequireStatement` (`first?_destructured_line`). The
shape of a plain binding, `const NAME = require(`, is looked for in the same line. It never passes a comma,
a brace, a colon or a quote, so that it fits only in the text of a default value or in the name of the
module, and there it is found (`first?_plain_line`).

* **`requiredNames_line`**: what is read of the statement are the name of the first plain binding
  nested in it, if there is one, and the names read of its parts.
-/

namespace LineKin

open Text Place

namespace Pattern

variable {x y : Place}

theorem mem_ways_blanks_of_spaces {n : Nat} (h : x.Leads (Line.spaces n) y) :
    y ∈ blanks.ways x := mem_ways_blanks.2 ⟨_, h, allBlank_spaces n⟩

end Pattern

/-- A text is cut in only one way at the first place of a character. -/
theorem cut_unique {front front' back back' : List Char} {c : Char} (hfront : c ∉ front)
    (hfront' : c ∉ front') (h : front ++ c :: back = front' ++ c :: back') :
    front = front' ∧ back = back' := by
  have heq := congrArg (List.takeWhile (· != c)) h
  rw [takeWhile_ne_append_cons hfront, takeWhile_ne_append_cons hfront'] at heq
  subst heq
  exact ⟨rfl, (List.cons.inj (List.append_cancel_left h)).2⟩

namespace Line

open Pattern Shape

/-! ### Binders -/

theorem isIdentifier_of_binder {word : String} (h : word ∈ ["const", "let", "var"]) :
    IsIdentifier word.toList := by
  simp only [List.mem_cons, List.not_mem_nil, or_false] at h
  rcases h with rfl | rfl | rfl <;> decide

theorem exists_cons_of_binder {word : String} (h : word ∈ ["const", "let", "var"]) :
    ∃ c rest, word.toList = c :: rest ∧ c ∈ ['c', 'l', 'v'] := by
  simp only [List.mem_cons, List.not_mem_nil, or_false] at h
  rcases h with rfl | rfl | rfl <;> exact ⟨_, _, rfl, by decide⟩

/-! ### Plain bindings -/

section

variable {x : Place} {found : Found} {text : List Char}

/-- A plain binding is spelled with a binder, a gap and a name, and a parenthesis stands further behind. -/
theorem exists_leads_of_plain (h : requireBinding.at? x = some found) :
    ∃ word ∈ ["const", "let", "var"], ∃ blank gap stop,
      x.Leads (word.toList ++ (blank :: gap ++ found.name)) stop ∧ isBlank blank = true ∧ AllBlank gap ∧
        IsIdentifier found.name ∧ '(' ∈ stop.after := by
  obtain ⟨start, hstart, stop, hstop, hfinish, hname⟩ :=
    mem_founds.1 (List.mem_of_head? (at?_eq_head? .. ▸ h))
  obtain ⟨u, hlead, hgap⟩ := mem_ways_append.1 hstart
  obtain ⟨v, hedge, hbinder⟩ := mem_ways_append.1 hlead
  obtain ⟨rfl, -⟩ := mem_ways_wordEdge.1 hedge
  obtain ⟨word, hword, hbinder⟩ := mem_ways_anyOf.1 hbinder
  obtain ⟨blank, w, hblank, hisBlank, gap, hgap, hblanks⟩ := mem_ways_gap.1 hgap
  obtain ⟨name, hleads, hidentifier⟩ := mem_ways_name.1 hstop
  rw [hleads.upTo_eq] at hname
  subst hname
  refine ⟨word, hword, blank, gap, stop, ?_, hisBlank, hblanks, hidentifier,
    mem_after_of_fromRequire hfinish⟩
  exact hbinder.trans ((hblank.trans hgap).trans hleads)

theorem mem_of_leads_start {before : List Char} {c : Char} (hx : (start text).Leads before x)
    (hc : c ∈ x.after) : c ∈ text := by
  have htext : text = before ++ x.after := hx.1
  exact htext ▸ List.mem_append_right before hc

/-- Without a parenthesis, there is no plain binding. -/
theorem first?_plain_of_no_call (h : '(' ∉ text) : requireBinding.first? text = none := by
  refine first?_eq_none fun before x hx => Option.eq_none_iff_forall_ne_some.2 fun found hat => h ?_
  obtain ⟨word, -, blank, gap, stop, hleads, -, -, -, hcall⟩ := exists_leads_of_plain hat
  refine mem_of_leads_start hx ?_
  rw [hleads.1]
  exact List.mem_append_right _ hcall

/-- Without the first letter of a binder, there is no plain binding. -/
theorem first?_plain_of_no_binder (h : ∀ c ∈ ['c', 'l', 'v'], c ∉ text) :
    requireBinding.first? text = none := by
  refine first?_eq_none fun before x hx => Option.eq_none_iff_forall_ne_some.2 fun found hat => ?_
  obtain ⟨word, hword, blank, gap, stop, hleads, -⟩ := exists_leads_of_plain hat
  obtain ⟨c, rest, hcons, hc⟩ := exists_cons_of_binder hword
  refine h c hc (mem_of_leads_start hx ?_)
  rw [hleads.1, hcons]
  exact List.mem_cons_self

/-- In a text that holds one word, no blank stands between two letters. -/
theorem not_sublist_of_word {word : List Char} {b c d : Char} (hword : IsIdentifier word) (m n : Nat)
    (hc : isNamePart c = true) (hb : isBlank b = true) (hd : isNamePart d = true) :
    ¬ List.Sublist [c, b, d] (spaces m ++ (word ++ spaces n)) := by
  have hspaces : ∀ {e : Char} {k : Nat}, isNamePart e = true → e ∉ spaces k :=
    fun he => not_mem_spaces (ne_of_apply_ne isNamePart (by rw [he]; decide)) _
  have hblank : b ∉ word := fun h => by
    rw [hword.not_isBlank b h] at hb
    exact Bool.noConfusion hb
  -- the second letter is none of the spaces, so the blank stands in the word
  have hbehind : ¬ List.Sublist [b, d] (word ++ spaces n) := by
    intro h
    obtain ⟨first, rest, heq, hfirst, hrest⟩ := List.sublist_append_iff.1 h
    cases first with
    | nil =>
      obtain rfl : [b, d] = rest := heq
      exact hspaces hd (hrest.subset (by simp))
    | cons e first =>
      obtain ⟨rfl, -⟩ := List.cons.inj heq
      exact hblank (hfirst.subset List.mem_cons_self)
  intro h
  obtain ⟨first, rest, heq, hfirst, hrest⟩ := List.sublist_append_iff.1 h
  cases first with
  | nil =>
    obtain rfl : [c, b, d] = rest := heq
    exact hbehind ((List.sublist_cons_self c [b, d]).trans hrest)
  | cons e first =>
    obtain ⟨rfl, -⟩ := List.cons.inj heq
    exact hspaces hc (hfirst.subset List.mem_cons_self)

/-- A text in front of a character holds each piece at its beginning that does not hold the character. -/
theorem prefix_of_append_cons {pre rest front back : List Char} {c : Char} (hc : c ∉ pre)
    (h : pre ++ rest = front ++ c :: back) : pre <+: front := by
  rcases List.append_eq_append_iff.1 h with ⟨more, hfront, -⟩ | ⟨more, hpre, hback⟩
  · exact ⟨more, hfront.symm⟩
  · cases more with
    | nil => exact ⟨[], by rw [hpre]; simp⟩
    | cons d more =>
      obtain ⟨rfl, -⟩ := List.cons.inj hback
      exact absurd (hpre ▸ List.mem_append_right front List.mem_cons_self) hc

/-- **Behind a single word** and an equals sign, a plain binding stands behind the sign. -/
theorem first?_plain_word {word : List Char} (hword : IsIdentifier word) (m n : Nat) (back : List Char) :
    requireBinding.first? (spaces m ++ (word ++ spaces n) ++ '=' :: back) =
      requireBinding.first? back := by
  have hnone : ∀ x ∈ (start (spaces m ++ (word ++ spaces n))).onward,
      (requireBinding.at? (x.extend ('=' :: back))).map (·.name) = none := by
    intro x hx
    rw [Option.map_eq_none_iff]
    refine Option.eq_none_iff_forall_ne_some.2 fun found hat => ?_
    obtain ⟨binder, hbinder, blank, gap, stop, hleads, hblank, hgap, hname, -⟩ :=
      exists_leads_of_plain hat
    have hidentifier := isIdentifier_of_binder hbinder
    -- the binder, the gap and the name stand in front of the sign
    have hequals : '=' ∉ binder.toList ++ (blank :: gap ++ found.name) := by
      have hblanks : AllBlank (blank :: gap) := List.forall_mem_cons.2 ⟨hblank, hgap⟩
      rw [List.mem_append, List.mem_append, not_or, not_or]
      exact ⟨hidentifier.not_mem (by decide), fun h => absurd (hblanks '=' h) (by decide),
        hname.not_mem (by decide)⟩
    have hpre := prefix_of_append_cons hequals hleads.1.symm
    obtain ⟨before, hbefore⟩ := mem_onward.1 hx
    have hsuffix : x.after <:+ spaces m ++ (word ++ spaces n) := ⟨before, hbefore.1.symm⟩
    obtain ⟨c, rest, hcons, hc, -⟩ := hidentifier.exists_cons
    obtain ⟨d, more, hcons', hd, -⟩ := hname.exists_cons
    refine not_sublist_of_word hword m n (isNamePart_of_isNameStart hc) hblank
      (isNamePart_of_isNameStart hd) (List.Sublist.trans ?_ (hpre.sublist.trans hsuffix.sublist))
    have hthree : List.Sublist ([c] ++ ([blank] ++ [d])) (c :: rest ++ (blank :: gap ++ d :: more)) := by
      refine List.Sublist.append (by simp) (List.Sublist.append (by simp) (by simp))
    rw [hcons, hcons']
    exact hthree
  rw [first?_append_cons requireBinding _ back (by decide : isWordChar '=' = false),
    List.findSome?_eq_none_iff.2 hnone, Option.none_or]

/-- **A plain binding in a part** stands in its default value. -/
theorem first?_plain_part (p : RequiredPart) : requireBinding.first? p.chars =
    p.default?.bind fun d => requireBinding.first? d.text := by
  have hspaces := not_mem_spaces (by decide : '(' ≠ ' ')
  have hword : ∀ w : Identifier, '(' ∉ w.text.toList := fun w => w.isIdentifier.not_mem (by decide)
  have hnamed : ∀ n, requireBinding.first?
      (spaces n ++ (p.name.text.toList ++ spaces p.behind ++ p.back)) =
        p.default?.bind fun d => requireBinding.first? d.text := by
    intro n
    rw [← List.append_assoc]
    cases hdefault : p.default? with
    | none =>
      refine first?_plain_of_no_call ?_
      simp [RequiredPart.back_of_no_default hdefault, hspaces, hword]
    | some d =>
      rw [RequiredPart.back_of_default hdefault]
      exact first?_plain_word p.name.isIdentifier n p.behind d.text
  cases hkey : p.key? with
  | none => rw [RequiredPart.chars_of_no_key hkey, hnamed]
  | some k =>
    have hfront : '(' ∉ spaces p.before ++ (k.key.text.toList ++ spaces k.behind) := by
      simp [hspaces, hword]
    rw [RequiredPart.chars_of_key hkey, first?_of_avoids (by decide +kernel) (by decide),
      first?_plain_of_no_call hfront, Option.none_or, hnamed]

theorem first?_plain_parts (parts : List RequiredPart) : requireBinding.first? (partsChars parts) =
    (parts.filterMap fun p => p.default?.map (·.text)).findSome? requireBinding.first? := by
  rw [partsChars, first?_intercalate (by decide +kernel) (by decide) (by decide +kernel),
    List.findSome?_map]
  induction parts with
  | nil => rfl
  | cons p parts ih =>
    rw [List.findSome?_cons, Function.comp_apply, first?_plain_part, ih, List.filterMap_cons]
    cases p.default? with
    | none => rfl
    | some d => rfl

end

namespace RequireStatement

variable (s : RequireStatement)

/-- The texts of a statement that may hold anything: the default values and the name of the module. -/
def freeTexts : List (List Char) := s.parts.filterMap (fun p => p.default?.map (·.text)) ++ [s.origin]

/-- The name of the first plain binding that is nested in one of them. -/
def nested : Option String := (s.freeTexts.findSome? requireBinding.first?).map String.ofList

theorem toList_line : s.line.toList = spaces s.indent ++ s.head ++
    '{' :: (partsChars s.parts ++ '}' :: (s.call ++ '\'' :: (s.origin ++ '\'' :: s.ending))) := by
  rw [line, String.toList_ofList, chars, List.append_assoc]

/-- **A plain binding in a statement** is nested in one of its free texts. -/
theorem first?_plain_line : requireBinding.first? s.line.toList =
    s.freeTexts.findSome? requireBinding.first? := by
  have hspaces := not_mem_spaces (by decide : '(' ≠ ' ')
  have hhead : requireBinding.first? (spaces s.indent ++ s.head) = none := by
    have hkeyword := (isIdentifier_of_binder s.keyword_mem).not_mem (by decide : isNamePart '(' = false)
    exact first?_plain_of_no_call (by simp [head, hspaces, hkeyword])
  have hcall : requireBinding.first? s.call = none := by
    refine first?_plain_of_no_binder fun c hc => ?_
    have hother : c ≠ ' ' ∧ c ≠ '=' ∧ c ∉ "require".toList ∧ c ≠ '(' := by
      simp only [List.mem_cons, List.not_mem_nil, or_false] at hc
      rcases hc with rfl | rfl | rfl <;> decide
    obtain ⟨hspace, hequals, hrequire, hopening⟩ := hother
    simp only [call, List.mem_append, List.mem_cons, hequals, hrequire, hopening, not_mem_spaces hspace,
      or_self, not_false_eq_true]
  have hending : requireBinding.first? s.ending = none :=
    first?_plain_of_no_call (by simp [ending, hspaces])
  rw [toList_line, first?_of_avoids (by decide +kernel) (by decide), hhead, Option.none_or,
    first?_of_avoids (by decide +kernel) (by decide), first?_plain_parts,
    first?_of_avoids (by decide +kernel) (by decide), hcall, Option.none_or,
    first?_of_avoids (by decide +kernel) (by decide), hending, Option.or_none, freeTexts,
    List.findSome?_append, List.findSome?_singleton]

/-! ### The list of parts -/

variable {s}

theorem call_fits {y : Place} {rest : List Char} (hy : y.after = s.call ++ rest) :
    ∃ z, z ∈ fromRequire.ways y := by
  have hafter : y.after = spaces s.behindParts ++ (['='] ++ (spaces s.behindEquals ++
      ("require".toList ++ (spaces s.behindRequire ++ (['('] ++ (spaces s.behindOpening ++ rest)))))) := by
    simp [hy, call]
  obtain ⟨a, ha, hafter⟩ := exists_leads hafter
  obtain ⟨b, hb, hafter⟩ := exists_leads hafter
  obtain ⟨c, hc, hafter⟩ := exists_leads hafter
  obtain ⟨d, hd, hafter⟩ := exists_leads hafter
  obtain ⟨e, he, hafter⟩ := exists_leads hafter
  obtain ⟨f, hf, -⟩ := exists_leads hafter
  have hequals := mem_ways_append.2 ⟨a, mem_ways_blanks_of_spaces ha, mem_ways_char.2 hb⟩
  have hgap := mem_ways_append.2 ⟨b, hequals, mem_ways_blanks_of_spaces hc⟩
  have hword := mem_ways_append.2 ⟨c, hgap, mem_ways_text.2 hd⟩
  have hgap' := mem_ways_append.2 ⟨d, hword, mem_ways_blanks_of_spaces he⟩
  exact ⟨f, mem_ways_append.2 ⟨e, hgap', mem_ways_char.2 hf⟩⟩

theorem brace_not_mem_head : '{' ∉ s.head := by
  have hkeyword := (isIdentifier_of_binder s.keyword_mem).not_mem (by decide : isNamePart '{' = false)
  simp [head, hkeyword, not_mem_spaces (by decide : '{' ≠ ' ')]

theorem brace_not_mem_partsChars (parts : List RequiredPart) : '}' ∉ partsChars parts := by
  induction parts with
  | nil => exact List.not_mem_nil
  | cons p parts ih =>
    have hp : '}' ∉ p.chars := p.not_mem_chars (by decide)
    cases parts with
    | nil => rwa [partsChars, List.map_singleton, List.intercalate_singleton]
    | cons q parts =>
      rw [partsChars_cons, List.mem_append, List.mem_cons, not_or, not_or]
      exact ⟨hp, by decide, ih⟩

/-- A place in front of a destructuring has a fit. -/
theorem exists_mem_founds (s : RequireStatement) :
    ∃ found, found ∈ requireDestructured.founds (start s.chars) := by
  have hafter : (start s.chars).after = s.keyword.toList ++ (spaces s.behindKeyword ++ (['{'] ++
      (partsChars s.parts ++ (['}'] ++ (s.call ++ '\'' :: (s.origin ++ '\'' :: s.ending)))))) := by
    simp [start, chars, head]
  obtain ⟨a, ha, hafter⟩ := exists_leads hafter
  obtain ⟨b, hb, hafter⟩ := exists_leads hafter
  obtain ⟨c, hc, hafter⟩ := exists_leads hafter
  obtain ⟨d, hd, hafter⟩ := exists_leads hafter
  obtain ⟨e, he, hafter⟩ := exists_leads hafter
  obtain ⟨f, hf⟩ := call_fits hafter
  have hedge : (start s.chars).atWordEdge = true := by
    rw [ha.atWordEdge_start (isIdentifier_of_binder s.keyword_mem)]
    rfl
  have hbinder := mem_ways_append.2
    ⟨_, mem_ways_wordEdge.2 ⟨rfl, hedge⟩, mem_ways_anyOf.2 ⟨s.keyword, s.keyword_mem, ha⟩⟩
  have hgap := mem_ways_append.2 ⟨a, hbinder, mem_ways_blanks_of_spaces hb⟩
  have hlead := mem_ways_append.2 ⟨b, hgap, mem_ways_char.2 hc⟩
  have htrail := mem_ways_append.2 ⟨e, mem_ways_char.2 he, hf⟩
  have hlist : d ∈ braced.ways c := by
    refine mem_ways_run.2 ⟨_, hd, fun e he => bne_iff_ne.2 fun heq => ?_⟩
    exact brace_not_mem_partsChars s.parts (heq ▸ he)
  exact ⟨⟨c.upTo d, f⟩, mem_founds.2 ⟨c, hlead, d, hlist, htrail, rfl⟩⟩

/-- What is found between braces is the list of parts. -/
theorem name_of_mem_founds {found : Found} (h : found ∈ requireDestructured.founds (start s.chars)) :
    found.name = partsChars s.parts := by
  obtain ⟨opening, hlead, stop, hlist, hfinish, hname⟩ := mem_founds.1 h
  obtain ⟨b, hlead, hopening⟩ := mem_ways_append.1 hlead
  obtain ⟨a, hlead, hgap⟩ := mem_ways_append.1 hlead
  obtain ⟨x, hedge, hbinder⟩ := mem_ways_append.1 hlead
  obtain ⟨rfl, -⟩ := mem_ways_wordEdge.1 hedge
  obtain ⟨binder, hmem, ha⟩ := mem_ways_anyOf.1 hbinder
  obtain ⟨gap, hb, hblank⟩ := mem_ways_blanks.1 hgap
  obtain ⟨list, hd, hfree⟩ := mem_ways_run.1 hlist
  obtain ⟨e, hclosing, -⟩ := mem_ways_append.1 hfinish
  rw [hd.upTo_eq] at hname
  subst hname
  -- the line is cut at the first opening brace, and the rest at the first closing one
  have hhead : '{' ∉ binder.toList ++ gap := by
    rw [List.mem_append, not_or]
    exact ⟨(isIdentifier_of_binder hmem).not_mem (by decide), fun h => absurd (hblank '{' h) (by decide)⟩
  have hline := ((ha.trans hb).trans (mem_ways_char.1 hopening)).1
  rw [List.append_assoc (binder.toList ++ gap)] at hline
  obtain ⟨-, hrest⟩ := cut_unique brace_not_mem_head hhead hline
  have hlist' : '}' ∉ found.name := fun h => bne_iff_ne.1 (hfree '}' h) rfl
  rw [hd.1, (mem_ways_char.1 hclosing).1] at hrest
  exact (cut_unique (brace_not_mem_partsChars s.parts) hlist' hrest).1.symm

/-- **The list of parts** is found. -/
theorem first?_destructured_line (s : RequireStatement) :
    requireDestructured.first? s.line.toList = some (partsChars s.parts) := by
  have hpadded : requireDestructured.first? (spaces s.indent ++ s.chars ++ []) =
      requireDestructured.first? s.chars :=
    first?_padded (.of_settles (by decide)) (by decide) (allBlank_spaces s.indent) nofun
  obtain ⟨found, hfound⟩ := s.exists_mem_founds
  obtain ⟨first, hfirst⟩ := Option.ne_none_iff_exists'.1
    (mt List.head?_eq_none_iff.1 (List.ne_nil_of_mem hfound))
  rw [List.append_nil] at hpadded
  rw [line, String.toList_ofList, hpadded, first?_of_at? ((at?_eq_head? ..).trans hfirst),
    name_of_mem_founds (List.mem_of_head? hfirst)]

/-- **What is read of a statement** are the name of a plain binding nested in it and the names of its
parts. -/
theorem requiredNames_line (s : RequireStatement) :
    requiredNames s.line = s.nested.toList ++ s.parts.filterMap RequiredPart.nameRead := by
  rw [requiredNames, nameIn?, first?_plain_line, first?_destructured_line, Option.map_some,
    Option.getD_some, bindings_parts, nested]

/-! ### Nothing else -/

/-- The statement does not start like an import. -/
theorem ways_importHead (s : RequireStatement) : importHead.ways (start s.line.toList) = [] := by
  refine List.eq_nil_iff_forall_not_mem.2 fun y hy => ?_
  have hafter : (start s.line.toList).after = spaces s.indent ++ (s.keyword.toList ++
      (spaces s.behindKeyword ++ '{' :: (partsChars s.parts ++ '}' :: (s.call ++ '\'' ::
        (s.origin ++ '\'' :: s.ending))))) := by
    rw [toList_line]
    simp [start, head]
  obtain ⟨k, hk, hrest⟩ := exists_leads hafter
  obtain ⟨w, hw, -⟩ := mem_ways_append.1 hy
  obtain ⟨z, hz, hw⟩ := mem_ways_append.1 hw
  have hleads := mem_ways_text.1 hw
  obtain ⟨c, more, hkeyword, hc⟩ := exists_cons_of_binder s.keyword_mem
  have hcs : isBlank c = false ∧ c ≠ 'i' := by
    simp only [List.mem_cons, List.not_mem_nil, or_false] at hc
    rcases hc with rfl | rfl | rfl <;> decide
  -- behind the spaces stands the keyword, and not the word of an import
  have hink : k.BeforeInk := by
    rw [BeforeInk, hrest, hkeyword, List.cons_append, List.head?_cons, Option.any_some, hcs.1]
    rfl
  have hink' : z.BeforeInk := by
    rw [BeforeInk, hleads.1]
    exact (by decide : (!isBlank 'i') = true)
  obtain rfl : k = z := Skips.unique ⟨_, hk, allBlank_spaces _⟩ (mem_ways_blanks.1 hz) hink hink'
  rw [hleads.1, hkeyword] at hrest
  exact hcs.2 (List.cons.inj hrest).1.symm

theorem atStart?_of_importHead {shape : Shape}
    (h : shape.lead.ways (start s.line.toList) = []) : shape.atStart? s.line.toList = none := by
  rw [atStart?, at?_eq_head?, founds, h]
  rfl

theorem namedImports_line (s : RequireStatement) : namedImports s.line = [] := by
  have hlead : namedImport.lead.ways (start s.line.toList) = [] := by
    simp only [namedImport, ways_sequence, s.ways_importHead, List.flatMap_nil]
  rw [namedImports, atStart?_of_importHead hlead]
  rfl

theorem defaultImports_line (s : RequireStatement) : defaultImports s.line = [] := by
  have hlead : defaultImport.lead.ways (start s.line.toList) = [] := by
    simp only [defaultImport, ways_sequence, s.ways_importHead, List.flatMap_nil]
  rw [defaultImports, nameAtStart?, atStart?_of_importHead hlead]
  rfl

theorem namespaceImports_line (s : RequireStatement) : namespaceImports s.line = [] := by
  have hlead : namespaceImport.lead.ways (start s.line.toList) = [] := by
    simp only [namespaceImport, ways_sequence, s.ways_importHead, List.flatMap_nil]
  rw [namespaceImports, nameAtStart?, atStart?_of_importHead hlead]
  rfl

end RequireStatement

end Line

end LineKin
