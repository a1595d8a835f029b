import LineKin.Proofs.Document.Layout
import LineKin.Proofs.Line.Statement
import LineKin.Proofs.LineSet
import LineKin.Proofs.Relation.Chain

/-!
# Control flow in another layout

In another layout of a document, the statements keep their kinds, their blocks end on the same lines
(`closing_apply`), and the next significant line and the nearest line above that passes a test are the
same lines (`significantFrom_apply`, `nearestAbove_apply`), all under their new numbers. So the clauses
of a chain are the same (`clauses_apply`), and what control flow relates to a line is the image of what
it related to it (`flowLines_image`).
-/

namespace LineKin

open Line Statement Text

variable {s : Nat → Nat}

/-! ### Blocks -/

namespace Block

variable {i j column column' : Nat} {lines relaid : List String} {progress : Progress}

theorem closingLine_relaid (h : Relaid s i j lines relaid) (hp : progress ≠ .closed) :
    closingLine progress j relaid = (closingLine progress i lines).map s := by
  induction h generalizing progress with
  | nil => rfl
  | @line i j text padded _ _ hs hpadded _ ih =>
    rw [closingLine, closingLine, walk_padded hpadded]
    cases hwalk : walk progress text.toList with
    | closed => exact congrArg some hs.symm
    | counting depth opened => exact ih (by simp)
  | @blank _ j blanks _ _ hb _ _ ih =>
    have hwalk : walk progress blanks.toList = progress := walk_blanks (List.all_eq_true.1 hb) progress
    rw [closingLine, hwalk]
    cases progress with
    | closed => exact absurd rfl hp
    | counting depth opened => exact ih hp

/-- The end of the block that starts on the first line, counted from columns at which the count in
both layouts starts with the same. -/
theorem closingFrom_relaid {text padded : String}
    (h : Relaid s i (s i) (text :: lines) (padded :: relaid))
    (hwalk : walk .start ((behindBytes? column' padded.toList).getD []) =
      walk .start ((behindBytes? column text.toList).getD [])) :
    closingFrom column' (s i) (padded :: relaid) = (closingFrom column i (text :: lines)).map s := by
  obtain ⟨other, rest, heq, -, hrest⟩ := h.head
  obtain ⟨rfl, rfl⟩ := List.cons.inj heq
  rw [closingFrom, closingFrom, hwalk]
  cases hstart : walk .start ((behindBytes? column text.toList).getD []) with
  | closed => rfl
  | counting depth opened => exact closingLine_relaid hrest (by simp)

end Block

namespace TextDocument.Relayout

open Outline LineSet

variable {d d' : TextDocument} {h i j t : Nat} {k : Kind} {text padded : String}

theorem closingFrom_apply (hd : Relayout s d d') (column column' : Nat)
    (hi : d.lines[i]? = some text) (hi' : d'.lines[s i]? = some padded)
    (hwalk : Block.walk .start ((Block.behindBytes? column' padded.toList).getD []) =
      Block.walk .start ((Block.behindBytes? column text.toList).getD [])) :
    (Block.closingFrom column' (s i) (d'.lines.drop (s i))).getD (max (d'.lineCount - 1) (s i)) =
      s ((Block.closingFrom column i (d.lines.drop i)).getD (max (d.lineCount - 1) i)) := by
  obtain ⟨hlt, rfl⟩ := List.getElem?_eq_some_iff.1 hi
  obtain ⟨hlt', rfl⟩ := List.getElem?_eq_some_iff.1 hi'
  have hdrop := hd.drop hlt
  rw [List.drop_eq_getElem_cons hlt, List.drop_eq_getElem_cons hlt'] at hdrop ⊢
  rw [Block.closingFrom_relaid hdrop hwalk]
  cases Block.closingFrom column i (d.lines[i] :: d.lines.drop (i + 1)) with
  | some closing => rfl
  | none =>
    -- a block that is not closed runs to the last line, which stays the last one
    have hlast : max (d.lineCount - 1) i = d.lineCount - 1 := Nat.max_eq_left (Nat.le_pred_of_lt hlt)
    have hlast' : max (d'.lineCount - 1) (s i) = d'.lineCount - 1 :=
      Nat.max_eq_left (Nat.le_pred_of_lt hlt')
    simp only [Option.map_none, Option.getD_none]
    rw [hlast, hlast', hd.apply_last hlt]

/-- A block ends on the same line. -/
theorem closing_apply (hd : Relayout s d d') (hi : i < d.lineCount) :
    (d'.outline.block (s i)).closing = s (d.outline.block i).closing := by
  have htext : d.lines[i]? = some d.lines[i] := List.getElem?_eq_getElem hi
  obtain ⟨padded, hpadded, hpad⟩ := hd.exists_padded htext
  have hline : d.outline.line? i = some d.lines[i] := (line?_eq ..).trans htext
  have hline' : d'.outline.line? (s i) = some padded := (line?_eq ..).trans hpadded
  rw [block, block, hline, hline', rest_eq, rest_eq, size_outline, size_outline]
  exact hd.closingFrom_apply _ _ htext hpadded (Block.walk_column_padded hpad .start)

/-- The kinds of statements stay, and lines of blanks have none. -/
theorem kind_apply (hd : Relayout s d d') (i : Nat) :
    d'.outline.kind (s i) = d.outline.kind i := by
  rw [kind_outline, kind_outline]
  exact hd.bind_apply kindOf_padded i

theorem exists_of_kind (hd : Relayout s d d') (hj : d'.outline.kind j = some k) : ∃ i, s i = j :=
  hd.exists_of_bind kindOf_blank (d'.kind_outline j ▸ hj)

/-- The next significant line is the same. -/
theorem significantFrom_apply (hd : Relayout s d d') (hi : i < d.lineCount) :
    d'.outline.significantFrom (s i + 1) = (d.outline.significantFrom (i + 1)).map s := by
  have hdrop := hd.drop hi
  rw [List.drop_eq_getElem_cons hi] at hdrop
  obtain ⟨padded, rest, heq, -, hrest⟩ := hdrop.head
  have hrest' : d'.lines.drop (s i + 1) = rest := by rw [← List.tail_drop, heq, List.tail_cons]
  have hsearch := hrest.findIdx?_eq (fun line => !isBlankOrComment line)
    (fun hpad => congrArg not (isBlankOrComment_padded hpad))
    (fun hb => congrArg not (isBlankOrComment_blank hb))
  rw [significantFrom, significantFrom, rest_eq, rest_eq, Option.map_map]
  show (List.findIdx? _ (d'.lines.drop (s i + 1))).map _ =
    (List.findIdx? _ (d.lines.drop (i + 1))).map _
  rw [hrest']
  simpa only [Nat.add_comm, Function.comp_def] using hsearch

/-- The nearest line above that passes a test is the same, if all lines that pass are old ones. -/
theorem nearestAbove_apply {test test' : Nat → Bool} (hs : StrictMono s)
    (htest : ∀ i < t, test' (s i) = test i)
    (hold : ∀ j < s t, test' j = true → ∃ i, s i = j) :
    nearestAbove (s t) test' = (nearestAbove t test).map s := by
  cases hfound : nearestAbove t test with
  | none =>
    refine nearestAbove_eq_none_iff.2 fun j hj => Bool.eq_false_iff.2 fun hpass => ?_
    obtain ⟨i, rfl⟩ := hold j hj hpass
    have hit := hs.lt_iff_lt.1 hj
    rw [htest i hit, nearestAbove_eq_none_iff.1 hfound i hit] at hpass
    exact Bool.noConfusion hpass
  | some i =>
    obtain ⟨hit, hpass, hlast⟩ := nearestAbove_eq_some_iff.1 hfound
    refine nearestAbove_eq_some_iff.2 ⟨hs hit, (htest i hit).trans hpass, fun j hij hj => ?_⟩
    refine Bool.eq_false_iff.2 fun hpass' => ?_
    obtain ⟨m, rfl⟩ := hold j hj hpass'
    have hmt := hs.lt_iff_lt.1 hj
    rw [htest m hmt, hlast m (hs.lt_iff_lt.1 hij) hmt] at hpass'
    exact Bool.noConfusion hpass'

/-! ### Chains of clauses -/

theorem nextClause_apply (hd : Relayout s d d') (hi : i < d.lineCount) :
    d'.outline.nextClause k (d'.outline.block (s i)) =
      (d.outline.nextClause k (d.outline.block i)).map s := by
  have hclosing : (d.outline.block i).closing < d.lineCount :=
    d.size_outline ▸ closing_lt_size (d.size_outline ▸ hi)
  rw [nextClause, nextClause, hd.closing_apply hi, hd.kind_apply, opening_block, opening_block,
    hd.significantFrom_apply hclosing]
  have hne : s (d.outline.block i).closing ≠ s i ↔ (d.outline.block i).closing ≠ i :=
    not_congr hd.strictMono.injective.eq_iff
  simp only [hne]
  split
  · rfl
  · cases d.outline.significantFrom ((d.outline.block i).closing + 1) with
    | none => rfl
    | some j =>
      rw [Option.map_some, Option.filter_some, Option.filter_some, hd.kind_apply]
      split <;> rfl

/-- A chain has the same clauses. -/
theorem clauses_apply (hd : Relayout s d d') (hh : h < d.lineCount) :
    d'.outline.clauses k (s h) = (d.outline.clauses k h).map s := by
  -- induction on the number of lines from the header on
  induction hn : d.lineCount - h using Nat.strongRecOn generalizing h with
  | _ n ih =>
    have hsize : h < d.outline.size := d.size_outline ▸ hh
    have hsize' : s h < d'.outline.size := d'.size_outline ▸ hd.apply_lt_iff.2 hh
    rw [clauses_eq hsize, clauses_eq hsize', hd.nextClause_apply hh, List.map_cons]
    cases hnext : d.outline.nextClause k (d.outline.block h) with
    | none => rfl
    | some j =>
      have hlt := (Continues.closing_le hnext).2
      have hj : j < d.lineCount := d.size_outline ▸ Continues.lt_size hnext
      exact congrArg (s h :: ·) (ih _ (by omega) hj rfl)

theorem chain_image (hd : Relayout s d d') (hh : h < d.lineCount) :
    IsImage s (d.outline.chain k h) (d'.outline.chain k (s h)) := by
  have hlines : ((d'.outline.clauses k (s h)).flatMap fun i => [i, (d'.outline.block i).closing]) =
      ((d.outline.clauses k h).flatMap fun i => [i, (d.outline.block i).closing]).map s := by
    rw [hd.clauses_apply hh, List.flatMap_map, List.map_flatMap]
    refine List.flatMap_congr fun i hi => ?_
    have hlt := (le_of_mem_clauses (d.size_outline ▸ hh) hi).2
    rw [hd.closing_apply (d.size_outline ▸ hlt)]
    rfl
  rw [chain, chain, hlines]
  exact .ofList _

/-! ### What is related to a statement -/

theorem blockWith_image (hd : Relayout s d d') (hh : h < d.lineCount) :
    IsImage s (d.outline.blockWith k h) (d'.outline.blockWith k (s h)) := by
  intro j
  simp only [blockWith, LineSet.mem_ofList, List.mem_append, List.mem_filter, Block.mem_interior,
    opening_block, hd.closing_apply hh, List.mem_cons, List.not_mem_nil, or_false, beq_iff_eq]
  constructor
  · rintro ((rfl | rfl) | ⟨⟨hlow, hhigh⟩, hk⟩)
    · exact ⟨h, .inl (.inl rfl), rfl⟩
    · exact ⟨_, .inl (.inr rfl), rfl⟩
    · obtain ⟨i, rfl⟩ := hd.exists_of_kind hk
      refine ⟨i, .inr ⟨⟨?_, ?_⟩, hd.kind_apply i ▸ hk⟩, rfl⟩
      · exact hd.strictMono.lt_iff_lt.1 hlow
      · exact hd.strictMono.lt_iff_lt.1 hhigh
  · rintro ⟨i, (rfl | rfl) | ⟨⟨hlow, hhigh⟩, hk⟩, rfl⟩
    · exact .inl (.inl rfl)
    · exact .inl (.inr rfl)
    · exact .inr ⟨⟨hd.strictMono hlow, hd.strictMono hhigh⟩, (hd.kind_apply i).trans hk⟩

theorem guardedLines_image (hd : Relayout s d d') (hh : h < d.lineCount) :
    IsImage s (d.outline.guardedLines h) (d'.outline.guardedLines (s h)) := by
  intro j
  rw [mem_guardedLines_iff, hd.chain_image hh j, hd.closing_apply hh]
  simp only [mem_guardedLines_iff, or_and_right, exists_or]
  refine or_congr_left ?_
  constructor
  · rintro ⟨hlow, hhigh, hk⟩
    obtain ⟨i, rfl⟩ := hd.exists_of_kind hk
    refine ⟨i, ⟨?_, ?_, hd.kind_apply i ▸ hk⟩, rfl⟩
    · exact hd.strictMono.le_iff_le.1 hlow
    · exact hd.strictMono.le_iff_le.1 hhigh
  · rintro ⟨i, ⟨hlow, hhigh, hk⟩, rfl⟩
    exact ⟨hd.strictMono.monotone hlow, hd.strictMono.monotone hhigh, (hd.kind_apply i).trans hk⟩

/-- A header of a kind that passes a test is found again. -/
theorem header_apply (hd : Relayout s d d') (test test' : Nat → Bool)
    (htest : ∀ i < t, test' (s i) = test i) :
    nearestAbove (s t) (fun i => d'.outline.kind i == some k && test' i) =
      (nearestAbove t fun i => d.outline.kind i == some k && test i).map s := by
  refine nearestAbove_apply hd.strictMono (fun i hi => ?_) fun j _ hpass => ?_
  · rw [hd.kind_apply, htest i hi]
  · rw [Bool.and_eq_true, beq_iff_eq] at hpass
    exact hd.exists_of_kind hpass.1

theorem alternativeLines_image (hd : Relayout s d d') (ht : t < d.lineCount) :
    IsImage s (d.outline.alternativeLines t) (d'.outline.alternativeLines (s t)) := by
  have howner := hd.header_apply (t := t) (k := .conditional)
    (fun i => decide (t ∈ d.outline.branchLines i))
    (fun i => decide (s t ∈ d'.outline.branchLines i)) fun i hi =>
      decide_eq_decide.2 ((hd.chain_image (Nat.lt_trans hi ht)).apply_mem_iff hd.strictMono.injective)
  rw [alternativeLines, alternativeLines, howner]
  refine .union (hd.chain_image ht) (.getD fun i hi => hd.chain_image ?_)
  exact Nat.lt_trans (nearestAbove_eq_some_iff.1 hi).1 ht

theorem handlerLines_image (hd : Relayout s d d') (ht : t < d.lineCount) :
    IsImage s (d.outline.handlerLines t) (d'.outline.handlerLines (s t)) := by
  have howner := hd.header_apply (t := t) (k := .attempt)
    (fun i => decide (t ∈ d.outline.guardedLines i))
    (fun i => decide (s t ∈ d'.outline.guardedLines i)) fun i hi =>
      decide_eq_decide.2
        ((hd.guardedLines_image (Nat.lt_trans hi ht)).apply_mem_iff hd.strictMono.injective)
  rw [handlerLines, handlerLines, howner, hd.closing_apply ht]
  refine .union (.ofList [t, (d.outline.block t).closing]) (.getD fun i hi => hd.guardedLines_image ?_)
  exact Nat.lt_trans (nearestAbove_eq_some_iff.1 hi).1 ht

theorem enclosing_apply (hd : Relayout s d d') (ht : t < d.lineCount) :
    d'.outline.enclosing k (s t) = (d.outline.enclosing k t).map s := by
  refine hd.header_apply (fun i => (d.outline.block i).contains t)
    (fun i => (d'.outline.block i).contains (s t)) fun i hi => ?_
  have hclosing := hd.closing_apply (Nat.lt_trans hi ht)
  rw [Block.contains, Block.contains, opening_block, opening_block, hclosing]
  simp only [hd.strictMono.le_iff_le]

/-- What is made of the enclosing header. -/
theorem enclosing_image {f g : Nat → LineSet} (hd : Relayout s d d') (ht : t < d.lineCount)
    (hfg : ∀ {i}, i < d.lineCount → IsImage s (f i) (g (s i))) :
    IsImage s (((d.outline.enclosing k t).map f).getD ∅)
      (((d'.outline.enclosing k (s t)).map g).getD ∅) := by
  rw [hd.enclosing_apply ht]
  exact .getD fun i hi => hfg (Nat.lt_trans (nearestAbove_eq_some_iff.1 hi).1 ht)

theorem definitionAbove_apply (hd : Relayout s d d') (t : Nat) :
    d'.outline.definitionAbove (s t) = (d.outline.definitionAbove t).map s := by
  have htest : ∀ i, ((d'.outline.line? (s i)).bind functionName?).isSome =
      ((d.outline.line? i).bind functionName?).isSome := by
    intro i
    rw [line?_eq, line?_eq]
    exact congrArg Option.isSome (hd.bind_apply functionName?_padded i)
  rw [definitionAbove, definitionAbove, nearestAbove_succ, nearestAbove_succ, htest]
  split
  · rfl
  · refine nearestAbove_apply hd.strictMono (fun i _ => htest i) fun j _ hpass => ?_
    obtain ⟨name, hname⟩ := Option.isSome_iff_exists.1 hpass
    rw [line?_eq] at hname
    exact hd.exists_of_bind functionName?_blank hname

/-- **Control flow in another layout** relates the same lines. -/
theorem flowLines_image (hd : Relayout s d d') (ht : d.lines[t]? = some text)
    (hpad : Line.Padded text padded) :
    IsImage s (Relation.flowLines d.outline t text) (Relation.flowLines d'.outline (s t) padded) := by
  have hlt : t < d.lineCount := (List.getElem?_eq_some_iff.1 ht).1
  rw [Relation.flowLines, Relation.flowLines, kindOf_padded hpad]
  cases kindOf text with
  | none => exact hd.enclosing_image hlt hd.guardedLines_image
  | some kind =>
    cases kind with
    | loop => exact hd.blockWith_image hlt
    | conditional => exact hd.chain_image hlt
    | alternative => exact hd.alternativeLines_image hlt
    | attempt => exact hd.guardedLines_image hlt
    | handler => exact hd.handlerLines_image hlt
    | selection => exact hd.blockWith_image hlt
    | label => exact hd.enclosing_image hlt hd.blockWith_image
    | jump => exact hd.enclosing_image hlt hd.blockWith_image
    | result =>
      show IsImage s _ (LineSet.ofList (d'.outline.definitionAbove (s t)).toList)
      rw [hd.definitionAbove_apply, Option.toList_map]
      exact .ofList _

end TextDocument.Relayout

end LineKin
