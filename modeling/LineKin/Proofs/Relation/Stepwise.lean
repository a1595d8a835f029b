import LineKin.Proofs.Relation.Enclosing
import Mathlib.Data.List.Chain

/-!
# Control flow, one line at a time

`Stepwise` does what control flow does to a text document, but it asks for the lines one by one and by
their numbers, and it breaks off (`none`) as soon as a line is asked for that the document does not
have. The walk along a chain of clauses (`Stepwise.walk`) also breaks off if it is not at its end after
a given number of rounds.

* **`clause_walk_ends`**: from any line of a document, the walk is at its end after at most as many
  rounds as there are lines. Each clause starts at or behind the end of the one before it and strictly
  behind its start, and it is a line of the document. Control flow as a whole never breaks off either,
  whatever line it is asked about, and it answers what the heuristic proposes.
-/

namespace LineKin

open Statement Line

namespace Stepwise

/-! ### Tests that may break off -/

/-- The numbers that pass a test, if the test has an answer for each of them. -/
def select (test : Nat → Option Bool) : List Nat → Option (List Nat)
  | [] => some []
  | i :: rest => do
    let passes ← test i
    let more ← select test rest
    return if passes then i :: more else more

section Tests

variable {asked : Nat → Option Bool} {test : Nat → Bool} {numbers : List Nat}

theorem select_eq (h : ∀ i ∈ numbers, asked i = some (test i)) :
    select asked numbers = some (numbers.filter test) := by
  induction numbers with
  | nil => rfl
  | cons i rest ih =>
    have ih := ih fun j hj => h j (List.mem_cons_of_mem i hj)
    rw [select, h i List.mem_cons_self, ih, List.filter_cons]
    rfl

theorem findM?_eq (h : ∀ i ∈ numbers, asked i = some (test i)) :
    numbers.findM? asked = some (numbers.find? test) := by
  induction numbers with
  | nil => rfl
  | cons i rest ih =>
    have ih := ih fun j hj => h j (List.mem_cons_of_mem i hj)
    rw [List.findM?, h i List.mem_cons_self, List.find?_cons]
    cases test i with
    | true => rfl
    | false => exact ih

end Tests

/-! ### Control flow -/

/-- The kind of the statement on a line. -/
def kind (d : TextDocument) (i : Nat) : Option (Option Kind) := d.lines[i]?.map kindOf

/-- Whether the statement on a line is of a kind. -/
def isKind (d : TextDocument) (k : Kind) (i : Nat) : Option Bool := (kind d i).map (· == some k)

/-- The block of the statement on a line. -/
def block (d : TextDocument) (i : Nat) : Option Block := do
  let text ← d.lines[i]?
  ((d : Document).blockFrom i (column text)).toOption

/-- The first line from a line on that is neither blank nor a comment. -/
def significantFrom (d : TextDocument) (i : Nat) : Option (Option Nat) :=
  (List.range' i (d.lineCount - i)).findM? fun j => d.lines[j]?.map fun text => !isBlankOrComment text

/-- The nearest line above a line that passes a test. -/
def nearestAbove (line : Nat) (test : Nat → Option Bool) : Option (Option Nat) :=
  (List.range line).reverse.findM? test

/-- Whether a block ends on a clause of a kind, and not on its own header. -/
def endsOnClause (d : TextDocument) (k : Kind) (b : Block) : Option Bool :=
  if b.closing ≠ b.opening then isKind d k b.closing else some false

/-- The clause of a kind that continues a block. -/
def nextClause (d : TextDocument) (k : Kind) (b : Block) : Option (Option Nat) := do
  if ← endsOnClause d k b then return some b.closing
  match ← significantFrom d (b.closing + 1) with
  | none => return none
  | some i => return if ← isKind d k i then some i else none

/-- The blocks of a header and of the clauses that continue it, in the order in which they are visited.
The walk breaks off if it goes on after the given number of rounds. -/
def walk (d : TextDocument) (k : Kind) : Nat → Nat → Option (List Block)
  | 0, _ => none
  | rounds + 1, i => do
    let b ← block d i
    match ← nextClause d k b with
    | none => return [b]
    | some clause => return b :: (← walk d k rounds clause)

/-- The lines on which a header and its clauses start and end. -/
def chain (d : TextDocument) (k : Kind) (header : Nat) : Option LineSet := do
  let blocks ← walk d k d.lineCount header
  return .ofList (blocks.flatMap fun b => [b.opening, b.closing])

/-- A header, the end of its block, and the lines of a kind inside the block. -/
def blockWith (d : TextDocument) (k : Kind) (header : Nat) : Option LineSet := do
  let b ← block d header
  let members ← select (isKind d k) b.interior
  return .ofList ([b.opening, b.closing] ++ members)

/-- A guarded block, the handlers that continue it, and those on its lines. -/
def guardedLines (d : TextDocument) (header : Nat) : Option LineSet := do
  let b ← block d header
  let handlers ← select (isKind d .handler) b.lines
  return .ofList handlers ∪ (← chain d .handler header)

/-- The nearest header of a kind above a line whose block contains the line. -/
def enclosing (d : TextDocument) (k : Kind) (line : Nat) : Option (Option Nat) :=
  nearestAbove line fun i => do
    if ← isKind d k i then return (← block d i).contains line else return false

/-- What the nearest header of a kind above a line reaches, if it reaches the line. -/
def owner (d : TextDocument) (k : Kind) (reach : Nat → Option LineSet) (line : Nat) :
    Option LineSet := do
  let header ← nearestAbove line fun i => do
    if ← isKind d k i then return decide (line ∈ (← reach i)) else return false
  match header with
  | none => return ∅
  | some h => reach h

/-- What the nearest header of a kind around a line reaches. -/
def around (d : TextDocument) (k : Kind) (reach : Nat → Option LineSet) (line : Nat) :
    Option LineSet := do
  match ← enclosing d k line with
  | none => return ∅
  | some h => reach h

/-- A handler with its block, and the whole guarded block that it belongs to. -/
def handlerLines (d : TextDocument) (line : Nat) : Option LineSet := do
  let b ← block d line
  return .ofList [b.opening, b.closing] ∪ (← owner d .attempt (guardedLines d) line)

/-- A branch, what continues it, and the whole conditional that it belongs to. -/
def alternativeLines (d : TextDocument) (line : Nat) : Option LineSet := do
  let own ← chain d .alternative line
  return own ∪ (← owner d .conditional (chain d .alternative) line)

/-- The line that defines the function of a line. -/
def definitionLines (d : TextDocument) (line : Nat) : Option LineSet := do
  let definition ← nearestAbove (line + 1) fun i =>
    d.lines[i]?.map fun text => (functionName? text).isSome
  return .ofList definition.toList

/-- The lines that share the flow of control of a line. -/
def flowLines (d : TextDocument) (line : Nat) : Option LineSet := do
  match ← kind d line with
  | some .loop => blockWith d .jump line
  | some .conditional => chain d .alternative line
  | some .alternative => alternativeLines d line
  | some .attempt => guardedLines d line
  | some .handler => handlerLines d line
  | some .selection => blockWith d .label line
  | some .label => around d .selection (blockWith d .label) line
  | some .jump => around d .loop (blockWith d .jump) line
  | some .result => definitionLines d line
  | none => around d .attempt (guardedLines d) line

/-! ### Nothing breaks off -/

variable {d : TextDocument} {h i line m : Nat} {k : Kind}

theorem kind_eq (hi : i < d.lineCount) : kind d i = some (d.outline.kind i) := by
  have htext : d.lines[i]? = some d.lines[i] := List.getElem?_eq_getElem hi
  rw [kind, d.kind_outline, htext]
  rfl

theorem isKind_eq (hi : i < d.lineCount) : isKind d k i = some (d.outline.kind i == some k) := by
  rw [isKind, kind_eq hi]
  rfl

theorem block_eq (hi : i < d.lineCount) : block d i = some (d.outline.block i) := by
  have htext : d.lines[i]? = some d.lines[i] := List.getElem?_eq_getElem hi
  rw [block, htext, Option.bind_eq_bind, Option.bind_some, TextDocument.blockFrom_column htext]
  rfl

theorem closing_lt (hi : i < d.lineCount) : (d.outline.block i).closing < d.lineCount := by
  rw [← d.size_outline] at hi ⊢
  exact Outline.closing_lt_size hi

/-- A search for the first line from one on, by numbers and by the lines themselves. -/
theorem find?_numbers {test : String → Bool} {lines rest : List String}
    (hrest : lines.drop i = rest) : (List.range' i rest.length).find? (fun j => lines[j]?.any test) =
      (rest.findIdx? test).map (· + i) := by
  induction rest generalizing i with
  | nil => rfl
  | cons line rest ih =>
    have hline : lines[i]? = some line := by rw [← List.head?_drop, hrest, List.head?_cons]
    have hdrop : lines.drop (i + 1) = rest := by rw [← List.drop_drop, hrest]; rfl
    rw [List.length_cons, List.range'_succ, List.find?_cons, hline, Option.any_some, ih hdrop,
      List.findIdx?_cons]
    cases test line with
    | true => simp
    | false => simp [Function.comp_def, Nat.add_assoc, Nat.add_comm 1]

theorem significantFrom_eq (d : TextDocument) (i : Nat) :
    significantFrom d i = some (d.outline.significantFrom i) := by
  have hlines : d.outline.lines = d.lines := rfl
  have hlength : (d.lines.drop i).length = d.lineCount - i := List.length_drop ..
  rw [significantFrom, Outline.significantFrom, Outline.rest_eq, hlines, ← find?_numbers rfl, hlength]
  refine findM?_eq fun j hj => ?_
  have hlt : j < d.lines.length := by
    have := List.mem_range'_1.1 hj
    rw [TextDocument.lineCount] at this
    omega
  rw [List.getElem?_eq_getElem hlt]
  rfl

theorem nearestAbove_eq {asked : Nat → Option Bool} (test : Nat → Bool)
    (h : ∀ i < line, asked i = some (test i)) :
    nearestAbove line asked = some (Outline.nearestAbove line test) :=
  findM?_eq fun i hi => h i (List.mem_range.1 (List.mem_reverse.1 hi))

/-! ### The walk along a chain -/

theorem endsOnClause_eq (hi : i < d.lineCount) : endsOnClause d k (d.outline.block i) =
    some ((d.outline.block i).closing ≠ (d.outline.block i).opening &&
      d.outline.kind (d.outline.block i).closing == some k) := by
  rw [endsOnClause]
  split
  · rename_i hne
    rw [isKind_eq (closing_lt hi), decide_eq_true hne, Bool.true_and]
  · rename_i heq
    rw [decide_eq_false heq, Bool.false_and]

theorem nextClause_eq (hi : i < d.lineCount) :
    nextClause d k (d.outline.block i) = some (d.outline.nextClause k (d.outline.block i)) := by
  rw [nextClause, endsOnClause_eq hi, Outline.nextClause, significantFrom_eq]
  simp only [Option.bind_eq_bind, Option.bind_some]
  split
  · rfl
  · cases hfound : d.outline.significantFrom ((d.outline.block i).closing + 1) with
    | none => rfl
    | some j =>
      have hj : j < d.lineCount := d.size_outline ▸ (Outline.significantFrom_spec hfound).2
      simp only [isKind_eq hj, Option.bind_some, Option.filter_some]
      rfl

/-- The walk visits the clauses, if it may go on for as many rounds as there are lines below. -/
theorem walk_eq {rounds : Nat} (hi : i < d.lineCount) (hrounds : d.lineCount - i ≤ rounds) :
    walk d k rounds i = some ((d.outline.clauses k i).map d.outline.block) := by
  have hsize := d.size_outline
  induction rounds generalizing i with
  | zero => omega
  | succ rounds ih =>
    rw [walk, block_eq hi, Outline.clauses_eq (hsize ▸ hi), Option.bind_eq_bind, Option.bind_some,
      nextClause_eq hi, Option.bind_eq_bind, Option.bind_some]
    cases hnext : d.outline.nextClause k (d.outline.block i) with
    | none => rfl
    | some j =>
      have hlt : i < j := (Outline.Continues.closing_le hnext).2
      have hj : j < d.lineCount := hsize ▸ Outline.Continues.lt_size hnext
      show (walk d k rounds j).bind _ = _
      rw [ih hj (by omega)]
      rfl

theorem length_le_of_walk {rounds : Nat} {blocks : List Block} (h : walk d k rounds i = some blocks) :
    blocks.length ≤ rounds := by
  induction rounds generalizing i blocks with
  | zero => cases h
  | succ rounds ih =>
    rw [walk, Option.bind_eq_bind, Option.bind_eq_some_iff] at h
    obtain ⟨b, -, h⟩ := h
    obtain ⟨next, -, h⟩ := Option.bind_eq_some_iff.1 h
    cases next with
    | none =>
      obtain rfl : [b] = blocks := Option.some.inj h
      exact Nat.le_add_left ..
    | some j =>
      obtain ⟨rest, hrest, h⟩ := Option.bind_eq_some_iff.1 h
      obtain rfl : b :: rest = blocks := Option.some.inj h
      exact Nat.succ_le_succ (ih hrest)

/-- Each clause that is visited starts at or behind the end of the one before, and behind its start. -/
theorem isChain_clauses (hi : i < d.lineCount) :
    ((d.outline.clauses k i).map d.outline.block).IsChain fun b next =>
      b.closing ≤ next.opening ∧ b.opening < next.opening := by
  have hsize := d.size_outline
  -- induction on the number of lines from the header on
  induction hn : d.lineCount - i using Nat.strongRecOn generalizing i with
  | _ n ih =>
    rw [Outline.clauses_eq (hsize ▸ hi)]
    cases hnext : d.outline.nextClause k (d.outline.block i) with
    | none => exact .singleton _
    | some j =>
      have hle := Outline.Continues.closing_le hnext
      have hj : j < d.lineCount := hsize ▸ Outline.Continues.lt_size hnext
      have hrest := ih (d.lineCount - j) (by omega) hj rfl
      show (d.outline.block i :: (d.outline.clauses k j).map d.outline.block).IsChain _
      rw [Outline.clauses_eq (hsize ▸ hj)] at hrest ⊢
      exact .cons_cons hle hrest

/-! ### Control flow never breaks off -/

theorem chain_eq (hi : i < d.lineCount) : chain d k i = some (d.outline.chain k i) := by
  rw [chain, walk_eq hi (Nat.sub_le ..), Option.bind_eq_bind, Option.bind_some, List.flatMap_map]
  rfl

theorem blockWith_eq (hi : i < d.lineCount) : blockWith d k i = some (d.outline.blockWith k i) := by
  have hinterior : ∀ j ∈ (d.outline.block i).interior,
      isKind d k j = some (d.outline.kind j == some k) := fun j hj =>
    isKind_eq (Nat.lt_trans (Block.mem_interior.1 hj).2 (closing_lt hi))
  rw [blockWith, block_eq hi, Option.bind_eq_bind, Option.bind_some, select_eq hinterior]
  rfl

theorem guardedLines_eq (hi : i < d.lineCount) :
    guardedLines d i = some (d.outline.guardedLines i) := by
  have hlines : ∀ j ∈ (d.outline.block i).lines,
      isKind d .handler j = some (d.outline.kind j == some .handler) := fun j hj =>
    isKind_eq (Nat.lt_of_le_of_lt (Block.mem_lines.1 hj).2 (closing_lt hi))
  rw [guardedLines, block_eq hi, Option.bind_eq_bind, Option.bind_some, select_eq hlines,
    chain_eq hi]
  rfl

theorem enclosing_eq (hi : i ≤ d.lineCount) : enclosing d k i = some (d.outline.enclosing k i) := by
  refine nearestAbove_eq _ fun j hj => ?_
  have hlt : j < d.lineCount := Nat.lt_of_lt_of_le hj hi
  rw [isKind_eq hlt, Option.bind_eq_bind, Option.bind_some, block_eq hlt]
  cases d.outline.kind j == some k <;> rfl

variable {asked : Nat → Option LineSet} {reach : Nat → LineSet}

theorem owner_eq (hreach : ∀ j < d.lineCount, asked j = some (reach j)) (hi : i ≤ d.lineCount) :
    owner d k asked i = some (((Outline.nearestAbove i fun j =>
      d.outline.kind j == some k && decide (i ∈ reach j)).map reach).getD ∅) := by
  rw [owner, nearestAbove_eq fun j => d.outline.kind j == some k && decide (i ∈ reach j),
    Option.bind_eq_bind, Option.bind_some]
  · cases howner : Outline.nearestAbove i _ with
    | none => rfl
    | some j =>
      exact hreach j (Nat.lt_of_lt_of_le (Outline.nearestAbove_eq_some_iff.1 howner).1 hi)
  · intro j hj
    have hlt : j < d.lineCount := Nat.lt_of_lt_of_le hj hi
    rw [isKind_eq hlt, Option.bind_eq_bind, Option.bind_some, hreach j hlt]
    cases d.outline.kind j == some k <;> rfl

theorem around_eq (hreach : ∀ j < d.lineCount, asked j = some (reach j)) (hi : i ≤ d.lineCount) :
    around d k asked i = some (((d.outline.enclosing k i).map reach).getD ∅) := by
  rw [around, enclosing_eq hi, Option.bind_eq_bind, Option.bind_some]
  cases hheader : d.outline.enclosing k i with
  | none => rfl
  | some j =>
    exact hreach j (Nat.lt_of_lt_of_le (Outline.nearestAbove_eq_some_iff.1 hheader).1 hi)

theorem alternativeLines_eq (hi : i < d.lineCount) :
    alternativeLines d i = some (d.outline.alternativeLines i) := by
  rw [alternativeLines, chain_eq hi, owner_eq (fun j hj => chain_eq hj) (Nat.le_of_lt hi)]
  rfl

theorem handlerLines_eq (hi : i < d.lineCount) :
    handlerLines d i = some (d.outline.handlerLines i) := by
  rw [handlerLines, block_eq hi, owner_eq (fun j hj => guardedLines_eq hj) (Nat.le_of_lt hi)]
  rfl

theorem definitionLines_eq (hi : i < d.lineCount) :
    definitionLines d i = some (.ofList (d.outline.definitionAbove i).toList) := by
  rw [definitionLines, nearestAbove_eq fun j => ((d.outline.line? j).bind functionName?).isSome]
  · rfl
  · intro j hj
    have hline : d.outline.line? j = d.lines[j]? := Outline.line?_eq ..
    rw [hline, List.getElem?_eq_getElem (Nat.lt_of_lt_of_le hj hi)]
    rfl

theorem flowLines_eq {text : String} (htext : d.lines[i]? = some text) :
    flowLines d i = some (Relation.flowLines d.outline i text) := by
  have hi : i < d.lineCount := (List.getElem?_eq_some_iff.1 htext).1
  have hkind : kind d i = some (kindOf text) := by
    rw [kind, htext]
    rfl
  rw [flowLines, hkind, Option.bind_eq_bind, Option.bind_some, Relation.flowLines]
  cases kindOf text with
  | none => exact around_eq (fun j hj => guardedLines_eq hj) (Nat.le_of_lt hi)
  | some k =>
    cases k with
    | loop | selection => exact blockWith_eq hi
    | conditional => exact chain_eq hi
    | alternative => exact alternativeLines_eq hi
    | attempt => exact guardedLines_eq hi
    | handler => exact handlerLines_eq hi
    | label | jump => exact around_eq (fun j hj => blockWith_eq hj) (Nat.le_of_lt hi)
    | result => exact definitionLines_eq hi

end Stepwise

open LineKin.Relation

/-- **Walks along chains of clauses end, inside the document.** The walk from any line of a document
needs at most as many rounds as there are lines. It visits the header first and then each clause that
continues the one before, which starts at or behind the end of that one and strictly behind its start.
Whatever line control flow is asked about, it looks at lines of the document only. -/
theorem clause_walk_ends (d : TextDocument) :
    (∀ k, ∀ header < d.lineCount, ∃ blocks, Stepwise.walk d k d.lineCount header = some blocks ∧
      blocks = (d.outline.clauses k header).map d.outline.block ∧
      (blocks.head?.map Block.opening = some header ∧ blocks.length ≤ d.lineCount) ∧
      (blocks.IsChain fun b next => b.closing ≤ next.opening ∧ b.opening < next.opening) ∧
      ∀ b ∈ blocks, b.opening ≤ b.closing ∧ b.closing < d.lineCount) ∧
    ∀ target < d.lineCount, ∃ lines, Stepwise.flowLines d target = some lines ∧
      controlFlow.propose d target = .ok lines := by
  constructor
  · intro k header hheader
    have hsize : header < d.outline.size := d.size_outline ▸ hheader
    have hwalk := Stepwise.walk_eq (k := k) hheader (Nat.sub_le d.lineCount header)
    refine ⟨_, hwalk, rfl, ⟨?_, Stepwise.length_le_of_walk hwalk⟩, Stepwise.isChain_clauses hheader,
      fun b hb => ?_⟩
    · rw [Outline.clauses_eq hsize]
      rfl
    · obtain ⟨c, hc, rfl⟩ := List.mem_map.1 hb
      have hlt := (Outline.le_of_mem_clauses hsize hc).2
      exact ⟨d.outline.le_closing c, Stepwise.closing_lt (d.size_outline ▸ hlt)⟩
  · intro target htarget
    have htext : d.lines[target]? = some d.lines[target] := List.getElem?_eq_getElem htarget
    exact ⟨_, Stepwise.flowLines_eq htext, propose_controlFlow htext⟩

/-- A conditional with two more branches, each of which starts where the one before ends. -/
def threeBranches : TextDocument :=
  ⟨"javascript", ["if (a) \x7b", "\x7d else if (b) \x7b", "\x7d else \x7b", "\x7d"]⟩

/-- The walk from the first branch takes three rounds, and the last branch may be asked about. -/
theorem clause_walk_ends_threeBranches :
    (0 < threeBranches.lineCount ∧ 2 < threeBranches.lineCount ∧
      Stepwise.walk threeBranches .alternative 4 0 = some [⟨0, 1⟩, ⟨1, 2⟩, ⟨2, 3⟩]) ∧
    (∃ blocks, Stepwise.walk threeBranches .alternative threeBranches.lineCount 0 = some blocks ∧
      blocks = (threeBranches.outline.clauses .alternative 0).map threeBranches.outline.block ∧
      (blocks.head?.map Block.opening = some 0 ∧ blocks.length ≤ threeBranches.lineCount) ∧
      (blocks.IsChain fun b next => b.closing ≤ next.opening ∧ b.opening < next.opening) ∧
      ∀ b ∈ blocks, b.opening ≤ b.closing ∧ b.closing < threeBranches.lineCount) ∧
    ∃ lines, Stepwise.flowLines threeBranches 2 = some lines ∧
      controlFlow.propose threeBranches 2 = .ok lines := by
  have hfirst : 0 < threeBranches.lineCount := by decide
  have hlast : 2 < threeBranches.lineCount := by decide
  obtain ⟨hwalk, hflow⟩ := clause_walk_ends threeBranches
  exact ⟨⟨hfirst, hlast, by decide⟩, hwalk .alternative 0 hfirst, hflow 2 hlast⟩

end LineKin
