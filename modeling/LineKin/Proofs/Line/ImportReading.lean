import LineKin.Proofs.Line.ImportTokens

/-!
# Reading import statements

Each of the three shapes of imports passes the tokens in front of its own name, or comes to nothing at the
first token that it does not know. So what is read of a statement does not depend on how it is spaced.

* **`namedImports_eq`**, **`defaultImports_eq`**, **`namespaceImports_eq`**: what is read of a statement is
  what it binds, except that a whole module is not read behind a mark of types.
-/

namespace LineKin

open Text

namespace Line

open Pattern Shape Place

/-! ### The three shapes -/

/-- A list in braces, without what stands in front of it. -/
def listCore : Shape :=
  { lead := Pattern.char '{'
    name := braced
    trail := Pattern.char '}' ++ blanks ++ text "from" ++ wordEdge }

/-- A whole module, without what stands in front of it. -/
def starCore : Shape :=
  { lead := Pattern.char '*' ++ blanks ++ text "as" ++ gap
    trail := gap ++ text "from" ++ wordEdge }

/-- A default export, without what stands in front of it. -/
def defaultCore : Shape :=
  { trail := blanks ++ (Pattern.char ',' ||| (wordEdge ++ text "from" ++ wordEdge)) }

variable {x : Place} {w : Identifier} {tokens : List Token} {tail : List Char}

theorem names_namedImport (x : Place) : namedImport.names x = (importHead.ways x).flatMap fun a =>
    ((maybe (text "type" ++ gap)).ways a).flatMap fun b =>
      ((maybe defaultThenComma).ways b).flatMap listCore.names := by
  simp only [Shape.names_eq, namedImport, listCore, ways_sequence, List.flatMap_assoc]
  rfl

theorem names_defaultImport (x : Place) : defaultImport.names x = (importHead.ways x).flatMap fun a =>
    ((maybe (text "type" ++ gap)).ways a).flatMap defaultCore.names := by
  simp only [Shape.names_eq, defaultImport, defaultCore, ways_sequence, ways_nothing,
    List.flatMap_assoc, List.flatMap_singleton]
  rfl

theorem names_namespaceImport (x : Place) : namespaceImport.names x =
    (importHead.ways x).flatMap fun a => ((maybe defaultThenComma).ways a).flatMap starCore.names := by
  simp only [Shape.names_eq, namespaceImport, starCore, ways_sequence, List.flatMap_assoc]
  rfl

theorem names_listCore_of_ne (h : x.after.head? ≠ some '{') : listCore.names x = [] := by
  simp only [Shape.names_eq, listCore, ways_char_eq_nil h, List.flatMap_nil]

theorem names_starCore_of_ne (h : x.after.head? ≠ some '*') : starCore.names x = [] := by
  simp only [Shape.names_eq, starCore, ways_sequence, ways_char_eq_nil h, List.flatMap_nil]

theorem trail_starCore_of_inside {z : Place} (hz : z.Inside) : starCore.trail.ways z = [] := by
  simp only [starCore, ways_sequence, ways_gap_of_inside hz, List.flatMap_nil]

theorem exists_trail_starCore {v t : Place} {n : Nat} (ht : v.Leads (List.replicate n ' ') t) (hn : 0 < n)
    (h : t.Shows [.word fromWord] tail) : ∃ finish, starCore.trail.ways v = [finish] := by
  have hcut : starCore.trail.ways v =
      (gap.ways v).flatMap fun z => (text "from" ++ wordEdge).ways z := by
    simp only [starCore, ways_sequence, List.flatMap_assoc]
  rw [hcut, flatMap_gap_spaces (.ways (by decide)) ht hn h]
  exact exists_ways_from h

/-- A whole module is read at its star. -/
theorem names_starCore {name : ImportName}
    (h : x.Shows [.star, .word asWord, .word name.toIdentifier, .word fromWord] tail) :
    starCore.names x = [name.text.toList] := by
  have hsplit : starCore.names x = ((Pattern.char '*').ways x).flatMap fun a =>
      (blanks.ways a).flatMap fun b => ((text "as" ++ gap).ways b).flatMap starCore.named := by
    simp only [Shape.names_eq, starCore, ways_sequence, List.flatMap_assoc]
  have hnamed : FailsAtBlank starCore.named := failsAtBlank_named (by decide)
  obtain ⟨spaces, z, y, hz, hy, hshows, -⟩ := h.exists_next
  obtain ⟨u, hu, hkeyword⟩ := flatMap_keyword (s := "as") rfl hnamed hshows rfl
  obtain ⟨n, v, t, hv, hend, ht, hfrom, hn⟩ := hu.exists_next_word
  obtain ⟨finish, htrail⟩ := exists_trail_starCore ht (hn rfl) hfrom
  have hname : starCore.named u = (starCore.trail.ways v).map fun _ => name.text.toList :=
    named_of_word rfl (fun _ => trail_starCore_of_inside) hv name.isIdentifier hend
  rw [hsplit, ways_char_of_leads hz, List.flatMap_singleton,
    flatMap_spaces (.flatMap (by decide)) hy hshows, hkeyword, hname, htrail]
  rfl

theorem trail_defaultCore_of_inside {z : Place} (hz : z.Inside) : defaultCore.trail.ways z = [] := by
  simp only [defaultCore, ways_sequence, ways_choice, ways_blanks_of_inside hz,
    ways_wordEdge_of_inside hz, ways_char_of_inside (c := ',') (by decide) hz, List.flatMap_singleton,
    List.flatMap_nil, List.append_nil]

theorem exists_names_defaultCore (h : x.Shows (.word w :: tokens) tail) :
    ∃ y : Place, y.Shows tokens tail ∧
      ((Token.word w).needsSpace tokens = true → y.before.head?.any isWordChar = false) ∧
      defaultCore.names x = ((Pattern.char ',' ||| (wordEdge ++ text "from" ++ wordEdge)).ways y).map
        fun _ => w.text.toList := by
  obtain ⟨spaces, z, y, hz, hend, hy, hshows, hspaces⟩ := h.exists_next_word
  refine ⟨y, hshows, fun hneeds => ?_, ?_⟩
  · obtain ⟨n, rfl⟩ := Nat.exists_eq_succ_of_ne_zero (hspaces hneeds).ne'
    rw [hy.2, List.reverse_replicate, List.replicate_succ]
    rfl
  · have hnames : defaultCore.names x = defaultCore.named x := by
      rw [names_eq]
      exact List.flatMap_singleton ..
    rw [hnames, named_of_word rfl (fun _ => trail_defaultCore_of_inside) hz w.isIdentifier hend,
      ← flatMap_spaces (.ways (by decide)) hy hshows]
    rfl

theorem ways_edge_from_of_ne {y : Place} (h : y.ahead ≠ "from".toList) :
    (wordEdge ++ text "from" ++ wordEdge).ways y = [] := by
  have hsplit : (wordEdge ++ text "from" ++ wordEdge).ways y =
      (wordEdge.ways y).flatMap fun z => (text "from" ++ wordEdge).ways z := by
    simp only [ways_sequence, List.flatMap_assoc]
  rw [hsplit, List.flatMap_eq_nil_iff]
  intro z hz
  obtain ⟨rfl, -⟩ := mem_ways_wordEdge.1 hz
  exact ways_text_wordEdge_eq_nil (by decide) h

/-- A default export is read in front of a comma. -/
theorem names_defaultCore_comma (h : x.Shows (.word w :: .comma :: tokens) tail) :
    defaultCore.names x = [w.text.toList] := by
  obtain ⟨y, hy, -, hnames⟩ := exists_names_defaultCore h
  obtain ⟨spaces, z, -, hz, -⟩ := hy.exists_next
  have hahead : y.ahead ≠ "from".toList := hy.ahead_ne (by decide) nofun
  rw [hnames, ways_choice, ways_char_of_leads hz, ways_edge_from_of_ne hahead]
  rfl

/-- A default export is read in front of the word `from`. -/
theorem names_defaultCore_from (h : x.Shows [.word w, .word fromWord] tail) :
    defaultCore.names x = [w.text.toList] := by
  obtain ⟨y, hy, hbefore, hnames⟩ := exists_names_defaultCore h
  obtain ⟨z, hz⟩ := exists_ways_from hy
  obtain ⟨spaces, v, -, hv, -⟩ := hy.exists_next
  have hedge : y.atWordEdge = true := by
    rw [hv.atWordEdge_start fromWord.isIdentifier, hbefore rfl]
    rfl
  have hfrom : (wordEdge ++ text "from" ++ wordEdge).ways y = [z] := by
    have hstart : wordEdge.ways y = [y] := by rw [ways, if_pos hedge]
    rw [← hz]
    simp only [ways_sequence, hstart, List.flatMap_singleton]
  rw [hnames, ways_choice, ways_char_eq_nil (hy.head?_ne_comma (by simp)), hfrom]
  rfl

theorem names_defaultCore_of_mark (h : x.after.head?.any isNameStart = false) :
    defaultCore.names x = [] := by
  rw [names_eq]
  simp only [defaultCore, Shape.named, ways_name_eq_nil h, ways_nothing, List.flatMap_nil,
    List.flatMap_singleton]

/-- No default export is read in front of anything else. -/
theorem names_defaultCore_of_ne (h : x.Shows (.word w :: tokens) tail)
    (hcomma : ∀ rest, tokens ≠ .comma :: rest)
    (hfrom : ∀ v rest, tokens = .word v :: rest → v.text ≠ "from") : defaultCore.names x = [] := by
  obtain ⟨y, hy, -, hnames⟩ := exists_names_defaultCore h
  have hahead : y.ahead ≠ "from".toList := hy.ahead_ne (by decide) hfrom
  rw [hnames, ways_choice, ways_char_eq_nil (hy.head?_ne_comma hcomma), ways_edge_from_of_ne hahead]
  rfl

theorem trail_listCore_of_ne (h : x.after.head? ≠ some '}') : listCore.trail.ways x = [] := by
  simp only [listCore, ways_sequence, ways_char_eq_nil h, List.flatMap_nil]

theorem exists_trail_listCore (h : x.Shows [.closing, .word fromWord] tail) :
    ∃ finish, listCore.trail.ways x = [finish] := by
  obtain ⟨n, z, y, hz, hy, hfrom, -⟩ := h.exists_next
  have hcut : listCore.trail.ways x = ((Pattern.char '}').ways x).flatMap fun a =>
      (blanks.ways a).flatMap fun b => (Pattern.text "from" ++ wordEdge).ways b := by
    simp only [listCore, ways_sequence, List.flatMap_assoc]
  rw [hcut, ways_char_of_leads hz, List.flatMap_singleton, flatMap_spaces (.ways (by decide)) hy hfrom]
  exact exists_ways_from hfrom

/-- What is read behind an opening brace goes on to the first closing one. -/
theorem named_listCore {y : Place} {inner : List Char} (hleads : x.Leads inner y) (hinner : '}' ∉ inner)
    (h : y.Shows [.closing, .word fromWord] tail) : listCore.named x = [inner] := by
  have hchars : ∀ c ∈ inner, (c != '}') = true := fun c hc => bne_iff_ne.2 (ne_of_mem_of_not_mem hc hinner)
  have hend : y.after.head? = some '}' := h.head?_eq
  obtain ⟨finish, htrail⟩ := exists_trail_listCore h
  have hrun := flatMap_run (f := fun stop => (listCore.trail.ways stop).map fun _ => x.upTo stop)
    hleads hchars (by rw [hend]; rfl) fun before c rest stop heq _ hstop => by
      have hc : (c != '}') = true := hchars c (heq ▸ List.mem_append_right before List.mem_cons_self)
      have hne : stop.after.head? ≠ some '}' := by
        rw [hstop.1, List.cons_append, List.head?_cons]
        exact fun hbrace => bne_iff_ne.1 hc (Option.some.inj hbrace)
      rw [trail_listCore_of_ne hne, List.map_nil]
  rw [htrail, hleads.upTo_eq] at hrun
  exact hrun

/-- A list is read between its braces. -/
theorem names_listCore {l : List Specifier}
    (h : x.Shows (.opening :: (listTokens l ++ [.closing, .word fromWord])) tail) :
    ∃ inner, listCore.names x = [inner] ∧ bindings " as " inner = l.map fun s => s.localName.text := by
  obtain ⟨spaces, z, y, hz, hy, ⟨text, htext, hafter⟩, -⟩ := h.exists_next
  obtain ⟨front, back, rfl, hfront, hback⟩ := written_append htext
  rw [List.append_assoc] at hafter
  obtain ⟨v, hv, hvafter⟩ := exists_leads hafter
  have hclosing : v.Shows [.closing, .word fromWord] tail := ⟨back, hback, hvafter⟩
  have hinner : '}' ∉ List.replicate spaces ' ' ++ front := by
    rw [List.mem_append, not_or]
    refine ⟨fun hmem => absurd (List.eq_of_mem_replicate hmem) (by decide), ?_⟩
    exact hfront.not_mem (by decide) (not_mem_listTokens (by decide) (by decide) l)
  refine ⟨List.replicate spaces ' ' ++ front, ?_, bindings_list (allBlank_spaces spaces) hfront⟩
  rw [names_eq]
  show ((Pattern.char '{').ways x).flatMap listCore.named = _
  rw [ways_char_of_leads hz, List.flatMap_singleton, named_listCore (hy.trans hv) hinner hclosing]

/-! ### From the start of a statement to its clause -/

theorem ImportStatement.WrittenAs.shows {s : ImportStatement} {line : String} (h : s.WrittenAs line) :
    (Place.start line.toList).Shows s.tokens (s.origin.toList ++ ['\'']) := by
  obtain ⟨text, htext, hline⟩ := h
  exact ⟨text, htext, by rw [Place.start, hline, List.append_assoc, List.cons_append]⟩

/-- What is found behind the words that start a statement, if nothing is found at the mark of types. -/
theorem ImportStatement.exists_at_clause {s : ImportStatement} {line : String} (h : s.WrittenAs line)
    {f : Place → List (List Char)} (hf : FailsAtBlank f)
    (hmark : ∀ z tail, Place.Shows z (.word typeWord :: (s.clause.tokens ++ [.word fromWord])) tail →
      f z = []) :
    ∃ y tail, Place.Shows y (s.clause.tokens ++ [.word fromWord]) tail ∧
      ((importHead.ways (.start line.toList)).flatMap fun a =>
        ((maybe (Pattern.text "type" ++ gap)).ways a).flatMap f) = f y := by
  obtain ⟨token, rest, heq, -, -, hfree⟩ := s.clause.exists_tokens_cons
  have hquiet := failsAtBlank_maybe (p := Pattern.text "type" ++ gap) (by decide) hf
  have hstart := h.shows
  rw [ImportStatement.tokens] at hstart
  cases htype : s.typeOnly with
  | false =>
    rw [htype] at hstart
    obtain ⟨y, hy, hways⟩ := flatMap_importHead hquiet hstart (s.clause.needsSpace _)
    refine ⟨y, _, hy, hways.trans (flatMap_typeMark_of_ne (hy.ahead_ne (by decide) ?_))⟩
    intro w more hmore heqtype
    have htoken : token = .word w := (List.cons.inj (heq.symm.trans hmore)).1
    exact hfree w htoken (heqtype ▸ List.mem_cons_self)
  | true =>
    rw [htype] at hstart
    obtain ⟨y, hy, hways⟩ := flatMap_importHead hquiet hstart rfl
    obtain ⟨z, hz, hkeyword⟩ := flatMap_keyword (s := "type") rfl hf hy (s.clause.needsSpace _)
    refine ⟨z, _, hz, ?_⟩
    rw [hways, flatMap_maybe, hkeyword, hmark y _ hy, List.append_nil]

section Parts

variable {core : Place → List (List Char)} {c : ImportClause} {p : ImportPart}

theorem failsAtBlank_clause (hcore : FailsAtBlank core) :
    FailsAtBlank fun x => ((maybe defaultThenComma).ways x).flatMap core :=
  failsAtBlank_maybe (by decide) hcore

/-- A list or a whole module starts with no name. -/
theorem head?_part (h : x.Shows (p.tokens ++ [.word fromWord]) tail) :
    x.after.head?.any isNameStart = false := by
  cases p with
  | list l => exact h.head?_eq ▸ by decide
  | star _ => exact h.head?_eq ▸ by decide

/-- A shape that finds nothing at a word finds, behind an optional default export, what it finds at the
list or the whole module. -/
theorem flatMap_clause (hcore : FailsAtBlank core)
    (hword : ∀ (z : Place) w rest tail, z.Shows (.word w :: rest) tail → core z = [])
    (h : x.Shows (c.tokens ++ [.word fromWord]) tail) :
    (c.part? = none → ((maybe defaultThenComma).ways x).flatMap core = []) ∧
      ∀ p, c.part? = some p → ∃ y : Place, y.Shows (p.tokens ++ [.word fromWord]) tail ∧
        ((maybe defaultThenComma).ways x).flatMap core = core y := by
  cases c with
  | byDefault d =>
    refine ⟨fun _ => ?_, nofun⟩
    rw [flatMap_defaultThenComma_of_ne h nofun, hword x _ _ _ h]
  | part q =>
    refine ⟨nofun, ?_⟩
    rintro p ⟨⟩
    exact ⟨x, h, flatMap_defaultThenComma_of_mark (head?_part h)⟩
  | both d q =>
    refine ⟨nofun, ?_⟩
    rintro p ⟨⟩
    obtain ⟨y, hy, hways⟩ := flatMap_defaultThenComma hcore h
    exact ⟨y, hy, by rw [hways, hword x _ _ _ h, List.append_nil]⟩

/-- Nothing is found at the mark of types. -/
theorem flatMap_typeMark
    (hword : ∀ (z : Place) w rest tail, z.Shows (.word w :: rest) tail → core z = [])
    (h : x.Shows (.word typeWord :: (c.tokens ++ [.word fromWord])) tail) :
    ((maybe defaultThenComma).ways x).flatMap core = [] := by
  obtain ⟨token, rest, heq, hcomma, -⟩ := c.exists_tokens_cons
  rw [heq] at h
  rw [flatMap_defaultThenComma_of_ne h, hword x _ _ _ h]
  rintro more heq
  exact hcomma (List.cons.inj heq).1

theorem names_listCore_of_word (z : Place) (w : Identifier) (rest : List Token) (tail : List Char)
    (h : z.Shows (.word w :: rest) tail) : listCore.names z = [] :=
  names_listCore_of_ne (h.head?_ne_of_word (by decide))

theorem names_starCore_of_word (z : Place) (w : Identifier) (rest : List Token) (tail : List Char)
    (h : z.Shows (.word w :: rest) tail) : starCore.names z = [] :=
  names_starCore_of_ne (h.head?_ne_of_word (by decide))

theorem listed_part (h : x.Shows (p.tokens ++ [.word fromWord]) tail) :
    ((listCore.names x).head?.map (bindings " as ")).getD [] = p.listed := by
  cases p with
  | list l =>
    rw [ImportPart.tokens, List.cons_append, List.cons_append, List.append_assoc] at h
    obtain ⟨inner, hnames, hbindings⟩ := names_listCore h
    rw [hnames]
    exact hbindings
  | star n =>
    rw [names_listCore_of_ne (h.head?_eq ▸ by decide)]
    rfl

theorem wholeModule_part (h : x.Shows (p.tokens ++ [.word fromWord]) tail) :
    ((starCore.names x).head?.map String.ofList).toList = p.wholeModule := by
  cases p with
  | list l =>
    rw [names_starCore_of_ne (h.head?_eq ▸ by decide)]
    rfl
  | star n =>
    rw [names_starCore h, List.head?_cons, Option.map_some, String.ofList_toList]
    rfl

end Parts

/-! ### Lines without parentheses -/

theorem mem_after_of_ways {p : Pattern} {y : Place} {c : Char} (hy : y ∈ p.ways x) (hc : c ∈ y.after) :
    c ∈ x.after := by
  obtain ⟨passed, hpassed⟩ := exists_leads_of_mem_ways hy
  exact hpassed.1 ▸ List.mem_append_right passed hc

theorem mem_after_of_fromRequire {y : Place} (hy : y ∈ fromRequire.ways x) : '(' ∈ x.after := by
  obtain ⟨z, hz, hy⟩ := List.mem_flatMap.1 hy
  obtain ⟨c, hc, heq⟩ := mem_ways_one.1 hy
  refine mem_after_of_ways hz ?_
  rw [hc.1, beq_iff_eq.1 heq]
  exact List.mem_cons_self

/-- Nothing is bound to the result of `require` on a line without an opening parenthesis. -/
theorem requiredNames_eq_nil {line : String} (h : '(' ∉ line.toList) : requiredNames line = [] := by
  have hnone : ∀ s : Shape, (∀ x, ∀ y ∈ s.trail.ways x, '(' ∈ x.after) →
      s.first? line.toList = none := by
    intro s hs
    refine first?_eq_none fun before x hx => ?_
    rw [at?_eq_head?, List.head?_eq_none_iff, List.eq_nil_iff_forall_not_mem]
    intro found hfound
    obtain ⟨start, hstart, stop, hstop, hfinish, -⟩ := mem_founds.1 hfound
    have hline : line.toList = before ++ x.after := hx.1
    refine h ?_
    rw [hline]
    exact List.mem_append_right before
      (mem_after_of_ways hstart (mem_after_of_ways hstop (hs stop _ hfinish)))
  have hbinding := hnone requireBinding fun _ _ => mem_after_of_fromRequire
  have hdestructured := hnone requireDestructured fun x y hy => by
    obtain ⟨z, hz, hy⟩ := List.mem_flatMap.1 hy
    exact mem_after_of_ways hz (mem_after_of_fromRequire hy)
  rw [requiredNames, nameIn?, hbinding, hdestructured]
  rfl

/-! ### What is read of a statement -/

section Statements

variable {s : ImportStatement} {line : String}

/-- **The names of a list are read** in all statements, and no other names. -/
theorem namedImports_eq (h : s.WrittenAs line) : namedImports line = s.clause.listed := by
  have hcore : FailsAtBlank listCore.names := failsAtBlank_names (by decide)
  obtain ⟨y, tail, hy, hways⟩ := s.exists_at_clause h (failsAtBlank_clause hcore) fun z tail hz =>
    flatMap_typeMark names_listCore_of_word hz
  obtain ⟨hnone, hsome⟩ := flatMap_clause hcore names_listCore_of_word hy
  rw [namedImports, atStart?_eq, names_namedImport, hways, ImportClause.listed]
  cases hpart : s.clause.part? with
  | none =>
    rw [hnone hpart]
    rfl
  | some p =>
    obtain ⟨u, hu, heq⟩ := hsome p hpart
    rw [heq]
    exact listed_part hu

/-- **The default export is read** in all statements. -/
theorem defaultImports_eq (h : s.WrittenAs line) : defaultImports line = s.clause.defaults := by
  have hcore : FailsAtBlank defaultCore.names := failsAtBlank_names (by decide)
  have hmark : ∀ z tail, Place.Shows z (.word typeWord :: (s.clause.tokens ++ [.word fromWord])) tail →
      defaultCore.names z = [] := by
    intro z tail hz
    obtain ⟨token, rest, heq, hcomma, -, hfree⟩ := s.clause.exists_tokens_cons
    rw [heq] at hz
    refine names_defaultCore_of_ne hz ?_ ?_
    · rintro more heq
      exact hcomma (List.cons.inj heq).1
    · intro v more heq hfrom
      exact hfree v (List.cons.inj heq).1 (by rw [hfrom]; decide)
  obtain ⟨y, tail, hy, hways⟩ := s.exists_at_clause h hcore hmark
  rw [defaultImports, nameAtStart?, atStart?_eq, names_defaultImport, hways]
  cases hclause : s.clause with
  | byDefault d =>
    rw [hclause] at hy
    rw [names_defaultCore_from hy, List.head?_cons, Option.map_some, String.ofList_toList]
    rfl
  | part p =>
    rw [hclause] at hy
    rw [names_defaultCore_of_mark (head?_part hy)]
    rfl
  | both d p =>
    rw [hclause] at hy
    rw [names_defaultCore_comma hy, List.head?_cons, Option.map_some, String.ofList_toList]
    rfl

/-- **A whole module is read** if no mark of types stands in front of it. -/
theorem namespaceImports_eq (h : s.WrittenAs line) :
    namespaceImports line = if s.typeOnly then [] else s.clause.wholeModule := by
  have hcore : FailsAtBlank starCore.names := failsAtBlank_names (by decide)
  have hstart := h.shows
  rw [ImportStatement.tokens] at hstart
  rw [namespaceImports, nameAtStart?, atStart?_eq, names_namespaceImport]
  cases htype : s.typeOnly with
  | true =>
    rw [htype] at hstart
    obtain ⟨y, hy, hways⟩ := flatMap_importHead (failsAtBlank_clause hcore) hstart rfl
    rw [hways, flatMap_typeMark names_starCore_of_word hy]
    rfl
  | false =>
    rw [htype] at hstart
    obtain ⟨y, hy, hways⟩ := flatMap_importHead (failsAtBlank_clause hcore) hstart
      (s.clause.needsSpace _)
    obtain ⟨hnone, hsome⟩ := flatMap_clause hcore names_starCore_of_word hy
    rw [hways, ImportClause.wholeModule]
    cases hpart : s.clause.part? with
    | none =>
      rw [hnone hpart]
      rfl
    | some p =>
      obtain ⟨u, hu, heq⟩ := hsome p hpart
      rw [heq]
      exact wholeModule_part hu

/-- **No statement is read as a call of `require`.** -/
theorem requiredNames_eq (h : s.WrittenAs line) : requiredNames line = [] := by
  obtain ⟨text, htext, hline⟩ := h
  refine requiredNames_eq_nil ?_
  have htokens : ∀ t ∈ s.tokens, '(' ∉ t.chars := by
    intro t _
    cases t with
    | word w => exact w.isIdentifier.not_mem (by decide)
    | comma | opening | closing | star => decide
  have horigin : '(' ∉ s.origin.toList := by
    intro hmem
    rcases s.origin_chars '(' hmem with hword | hpath
    · exact absurd hword (by decide)
    · exact absurd hpath (by decide)
  rw [hline]
  simp [htext.not_mem (by decide) htokens, horigin]

end Statements

end Line

end LineKin
