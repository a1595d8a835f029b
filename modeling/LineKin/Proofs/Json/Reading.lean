import LineKin.Json.Reader
import LineKin.Proofs.Json.Cutting

/-!
# Reading what is spelled

The tokens of a form are handed over as one form, whatever is open around it (`Hands`), and the tokens of
items and members are collected by the array or object that they stand in (`CollectsItems`,
`CollectsMembers`). The induction is on the spelling, and one statement about each kind of part carries it
(`Spelling.read`). So the reader refuses no text of the grammar: **`ofText?_of_spells`**. What it may lack is
a value, and that depends on its form alone (`parse?_of_spells`).
-/

namespace LineKin.Json

variable {part : Part} {text : List Char} {tokens tokens' : List Token} {form : Form}

/-! ### Open arrays and objects -/

/-- Tokens that make one form for whatever may take it. -/
def Hands (tokens : List Token) (form : Form) : Prop :=
  ∀ (stack : List Frame) (state : ReaderState), deliver form stack = some state →
    tokens.foldlM ReaderState.step (.reading stack) = some state

/-- An array in which an item may stand, with the items before it, the latest in front. -/
inductive AwaitsItem : Frame → List Form → Prop
  | start : AwaitsItem .arrayStart []
  | next (items : List Form) : AwaitsItem (.arrayItem items) items

/-- Tokens that an open array takes as items. -/
def CollectsItems (tokens : List Token) (forms : List Form) : Prop :=
  ∀ (frame : Frame) (items : List Form) (stack : List Frame), AwaitsItem frame items →
    tokens.foldlM ReaderState.step (.reading (frame :: stack)) =
      some (.reading (.arrayNext (forms.reverse ++ items) :: stack))

/-- An object in which a name may stand, with the members before it, the latest in front. -/
inductive AwaitsName : Frame → List (Option String × Form) → Prop
  | start : AwaitsName .objectStart []
  | next (members : List (Option String × Form)) : AwaitsName (.objectName members) members

/-- Tokens that an open object takes as members. -/
def CollectsMembers (tokens : List Token) (forms : List (Option String × Form)) : Prop :=
  ∀ (frame : Frame) (members : List (Option String × Form)) (stack : List Frame),
    AwaitsName frame members → tokens.foldlM ReaderState.step (.reading (frame :: stack)) =
      some (.reading (.objectNext (forms.reverse ++ members) :: stack))

theorem foldlM_step {state state' : ReaderState} {token : Token} (h : state.step token = some state')
    (tokens : List Token) :
    (token :: tokens).foldlM ReaderState.step state = tokens.foldlM ReaderState.step state' := by
  rw [List.foldlM_cons, h]
  rfl

theorem foldlM_append {state state' : ReaderState}
    (h : tokens.foldlM ReaderState.step state = some state') (tokens' : List Token) :
    (tokens ++ tokens').foldlM ReaderState.step state = tokens'.foldlM ReaderState.step state' := by
  rw [List.foldlM_append, h]
  rfl

theorem step_scalar (value : Option Json) (stack : List Frame) :
    ReaderState.step (.reading stack) (.scalar value) = deliver (.scalar value) stack := by
  rw [ReaderState.step]

theorem step_text (value : Option String) (stack : List Frame) :
    ReaderState.step (.reading stack) (.text value) = readText value stack := by
  rw [ReaderState.step]

theorem step_openArray (stack : List Frame) :
    ReaderState.step (.reading stack) .openArray = openFrame .arrayStart stack := by
  rw [ReaderState.step]

theorem step_openObject (stack : List Frame) :
    ReaderState.step (.reading stack) .openObject = openFrame .objectStart stack := by
  rw [ReaderState.step]

/-- Where a form may be handed over, an array or an object may be opened, and a string is no name. -/
theorem openFrame_of_deliver {stack : List Frame} {state : ReaderState} (h : deliver form stack = some state) :
    (∀ frame, openFrame frame stack = some (.reading (frame :: stack))) ∧
      ∀ value, readText value stack = deliver (.scalar (value.map .string)) stack := by
  match stack, h with
  | [], _ | .arrayStart :: _, _ | .arrayItem _ :: _, _ | .objectValue _ _ :: _, _ =>
    exact ⟨fun _ => rfl, fun _ => rfl⟩

theorem foldlM_openArray {stack : List Frame} {state : ReaderState} (h : deliver form stack = some state)
    (tokens : List Token) : (.openArray :: tokens).foldlM ReaderState.step (.reading stack) =
      tokens.foldlM ReaderState.step (.reading (.arrayStart :: stack)) :=
  foldlM_step ((step_openArray stack).trans ((openFrame_of_deliver h).1 _)) tokens

theorem foldlM_openObject {stack : List Frame} {state : ReaderState} (h : deliver form stack = some state)
    (tokens : List Token) : (.openObject :: tokens).foldlM ReaderState.step (.reading stack) =
      tokens.foldlM ReaderState.step (.reading (.objectStart :: stack)) :=
  foldlM_step ((step_openObject stack).trans ((openFrame_of_deliver h).1 _)) tokens

theorem hands_scalar (value : Option Json) : Hands [.scalar value] (.scalar value) := by
  intro stack state h
  exact foldlM_step ((step_scalar value stack).trans h) []

theorem hands_text (value : Option String) : Hands [.text value] (.scalar (value.map .string)) := by
  intro stack state h
  have hvalue := (openFrame_of_deliver h).2 value
  exact foldlM_step ((step_text value stack).trans (hvalue.trans h)) []

theorem hands_emptyArray : Hands [.openArray, .closeArray] (.array []) := by
  intro stack state h
  rw [foldlM_openArray h]
  have hclose : ReaderState.step (.reading (.arrayStart :: stack)) .closeArray = some state := h
  exact foldlM_step hclose []

theorem hands_emptyObject : Hands [.openObject, .closeObject] (.object []) := by
  intro stack state h
  rw [foldlM_openObject h]
  have hclose : ReaderState.step (.reading (.objectStart :: stack)) .closeObject = some state := h
  exact foldlM_step hclose []

theorem CollectsItems.hands {forms : List Form} (h : CollectsItems tokens forms) :
    Hands (.openArray :: (tokens ++ [.closeArray])) (.array forms) := by
  intro stack state hdeliver
  have hclose : ReaderState.step (.reading (.arrayNext (forms.reverse ++ []) :: stack)) .closeArray =
      some state := by
    simpa [ReaderState.step] using hdeliver
  rw [foldlM_openArray hdeliver, foldlM_append (h _ _ stack .start)]
  exact foldlM_step hclose []

theorem CollectsMembers.hands {forms : List (Option String × Form)} (h : CollectsMembers tokens forms) :
    Hands (.openObject :: (tokens ++ [.closeObject])) (.object forms) := by
  intro stack state hdeliver
  have hclose : ReaderState.step (.reading (.objectNext (forms.reverse ++ []) :: stack)) .closeObject =
      some state := by
    simpa [ReaderState.step] using hdeliver
  rw [foldlM_openObject hdeliver, foldlM_append (h _ _ stack .start)]
  exact foldlM_step hclose []

theorem Hands.collectsItem (h : Hands tokens form) : CollectsItems tokens [form] := by
  intro frame items stack hframe
  cases hframe with
  | start => exact h _ _ rfl
  | next => exact h _ _ rfl

theorem Hands.collectsMember (h : Hands tokens form) (name : Option String) :
    CollectsMembers (.text name :: .colon :: tokens) [(name, form)] := by
  intro frame members stack hframe
  have hname : ReaderState.step (.reading (frame :: stack)) (.text name) =
      some (.reading (.objectColon members name :: stack)) := by
    cases hframe <;> rfl
  have hcolon : ReaderState.step (.reading (.objectColon members name :: stack)) .colon =
      some (.reading (.objectValue members name :: stack)) := rfl
  rw [foldlM_step hname, foldlM_step hcolon]
  exact h _ _ rfl

theorem CollectsItems.append {forms forms' : List Form} (h : CollectsItems tokens forms)
    (h' : CollectsItems tokens' forms') :
    CollectsItems (tokens ++ .comma :: tokens') (forms ++ forms') := by
  intro frame items stack hframe
  have hcomma : ReaderState.step (.reading (.arrayNext (forms.reverse ++ items) :: stack)) .comma =
      some (.reading (.arrayItem (forms.reverse ++ items) :: stack)) := rfl
  rw [foldlM_append (h frame items stack hframe), foldlM_step hcomma, h' _ _ stack (.next _),
    List.reverse_append, List.append_assoc]

theorem CollectsMembers.append {forms forms' : List (Option String × Form)}
    (h : CollectsMembers tokens forms) (h' : CollectsMembers tokens' forms') :
    CollectsMembers (tokens ++ .comma :: tokens') (forms ++ forms') := by
  intro frame members stack hframe
  have hcomma : ReaderState.step (.reading (.objectNext (forms.reverse ++ members) :: stack)) .comma =
      some (.reading (.objectName (forms.reverse ++ members) :: stack)) := rfl
  rw [foldlM_append (h frame members stack hframe), foldlM_step hcomma, h' _ _ stack (.next _),
    List.reverse_append, List.append_assoc]

/-! ### Reading a spelling -/

/-- What the tokens of a part are read as. -/
def Part.IsReadFrom (tokens : List Token) : Part → Prop
  | .form f => Hands tokens f
  | .items fs => CollectsItems tokens fs
  | .members ms => CollectsMembers tokens ms

/-- A text that goes on with a closing bracket or a comma behind some blanks. -/
theorem isDelimited_of_gap {gap rest : List Char} {c : Char}
    (hgap : IsGap gap) (hc : c = ',' ∨ c = ':' ∨ c = ']' ∨ c = '}') : IsDelimited (gap ++ c :: rest) :=
  (isDelimited_cons (.inr hc) rest).append_gap hgap

/-- **A spelling is read as what it spells.** -/
theorem Spelling.read (h : Spelling part text) : ∃ tokens, Cuts text tokens ∧ part.IsReadFrom tokens := by
  induction h with
  | null => exact ⟨_, cuts_word rfl rfl rfl, hands_scalar _⟩
  | true => exact ⟨_, cuts_word rfl rfl rfl, hands_scalar _⟩
  | false => exact ⟨_, cuts_word rfl rfl rfl, hands_scalar _⟩
  | number htext => exact ⟨_, cuts_number htext, hands_scalar _⟩
  | string htext => exact ⟨_, cuts_string htext, hands_text _⟩
  | emptyArray hgap => exact ⟨_, cuts_cons rfl (cuts_gap hgap (cuts_cons rfl cuts_nil)), hands_emptyArray⟩
  | emptyObject hgap => exact ⟨_, cuts_cons rfl (cuts_gap hgap (cuts_cons rfl cuts_nil)), hands_emptyObject⟩
  | array _ ih =>
    obtain ⟨tokens, hcuts, hitems⟩ := ih
    have hclose : Cuts [']'] [.closeArray] := cuts_cons rfl cuts_nil
    refine ⟨_, cuts_cons rfl (hcuts.append hclose ?_), CollectsItems.hands hitems⟩
    exact fun rest _ => isDelimited_cons (by simp) rest
  | object _ ih =>
    obtain ⟨tokens, hcuts, hmembers⟩ := ih
    have hclose : Cuts ['}'] [.closeObject] := cuts_cons rfl cuts_nil
    refine ⟨_, cuts_cons rfl (hcuts.append hclose ?_), CollectsMembers.hands hmembers⟩
    exact fun rest _ => isDelimited_cons (by simp) rest
  | item hbefore _ hafter ih =>
    obtain ⟨tokens, hcuts, hform⟩ := ih
    exact ⟨_, hcuts.padded hbefore hafter, Hands.collectsItem hform⟩
  | items _ _ ihfirst ihrest =>
    obtain ⟨tokens, hcuts, hitem⟩ := ihfirst
    obtain ⟨tokens', hcuts', hitems⟩ := ihrest
    refine ⟨_, hcuts.append (cuts_cons rfl hcuts') ?_, CollectsItems.append hitem hitems⟩
    exact fun rest _ => isDelimited_cons (by simp) _
  | member hbefore hname hbetween hfront _ hafter ih =>
    obtain ⟨tokens, hcuts, hform⟩ := ih
    have hcolon := cuts_gap hbetween (cuts_cons (c := ':') rfl (hcuts.padded hfront hafter))
    have hmember := (cuts_string hname).append hcolon fun rest _ => by
      rw [List.append_assoc]
      exact isDelimited_of_gap hbetween (by simp)
    exact ⟨_, cuts_gap hbefore hmember, Hands.collectsMember hform _⟩
  | members _ _ ihfirst ihrest =>
    obtain ⟨tokens, hcuts, hmember⟩ := ihfirst
    obtain ⟨tokens', hcuts', hmembers⟩ := ihrest
    refine ⟨_, hcuts.append (cuts_cons rfl hcuts') ?_, CollectsMembers.append hmember hmembers⟩
    exact fun rest _ => isDelimited_cons (by simp) _

end LineKin.Json
