import LineKin.Proofs.Message.Handling

/-!
# Messages about different documents

What a message about a document is answered, and what becomes of that document's session, depends on
the session, the analyzer and the limits, and on nothing else in the workspace (`handle_congr`), unless
a new document is to be opened, which needs room. A message about another document leaves the session
alone. So two such messages do not disturb each other, and **`handle_comm`**: in either order they are
answered alike and leave the same workspace, if neither opens a new document or there is room for both.

When a message is handled only shows in the times that are written down. `Session.retimed` reads these
times in some other way, and `SameApartFromTimes` compares workspaces without looking at them.
-/

namespace LineKin

/-! ### Reading the times differently -/

/-- The result with its time read in another way. -/
def HistoryEntry.retimed (read : Timestamp → Timestamp) (entry : HistoryEntry) : HistoryEntry :=
  { entry with recordedAt := read entry.recordedAt }

/-- The session with its times read in another way. -/
def Session.retimed (read : Timestamp → Timestamp) (s : Session) : Session :=
  { s with
    openedAt := read s.openedAt
    updatedAt := read s.updatedAt
    history := s.history.map (·.retimed read) }

theorem Session.retimed_self (s : Session) : s.retimed (fun time => time) = s := by
  obtain ⟨document, digest, openedAt, updatedAt, history⟩ := s
  simp [Session.retimed, HistoryEntry.retimed]

theorem Session.retimed_record (read : Timestamp → Timestamp) (s : Session) (entry : HistoryEntry)
    (limit : Nat) : (s.record entry limit).retimed read =
      (s.retimed read).record (entry.retimed read) limit := by
  simp [Session.retimed, Session.record, lastOf, List.map_drop]

namespace Workspace

variable {w v : Workspace} {id : String} {r : Request} {now now' : Timestamp}
  {read : Timestamp → Timestamp} {line : Nat}

/-- The session of a document is the same, as far as the times are read. -/
def SameSession (read : Timestamp → Timestamp) (id : String) (w v : Workspace) : Prop :=
  (w.sessions.find? id).map (·.retimed read) = (v.sessions.find? id).map (·.retimed read)

theorem sameSession_put (w v : Workspace) {s s' : Session} (hs : s.retimed read = s'.retimed read) :
    SameSession read id { w with sessions := w.sessions.put id s }
      { v with sessions := v.sessions.put id s' } := by
  rw [SameSession, Catalog.find?_put, Catalog.find?_put, if_pos rfl, if_pos rfl, Option.map_some,
    Option.map_some, hs]

/-- Two workspaces are the same apart from the times that are written down in them. -/
structure SameApartFromTimes (w v : Workspace) : Prop where
  /-- They find lines alike. -/
  analyzer_eq : w.analyzer = v.analyzer
  /-- They have the same limits. -/
  limits_eq : w.limits = v.limits
  /-- The same documents are open, with the same texts and results. -/
  sameSession : ∀ id, SameSession (fun _ => "") id w v

/-! ### One document -/

/-- Two workspaces have the same session of a document, and treat it alike. -/
structure AgreeOn (id : String) (w v : Workspace) : Prop where
  /-- They find lines alike. -/
  analyzer_eq : w.analyzer = v.analyzer
  /-- They have the same limits. -/
  limits_eq : w.limits = v.limits
  /-- The document is open in both or in neither, with the same session. -/
  find?_eq : w.sessions.find? id = v.sessions.find? id

/-- A request opens a document that is not open. -/
def OpensNew (w : Workspace) : Request → Prop
  | .openDocument id _ _ => w.sessions.contains id = false
  | _ => False

/-- There is room for one more document. -/
def HasRoom (w : Workspace) : Prop := w.sessions.size < w.limits.maxOpenDocuments

/-- Two operations succeed with the same answer and the same session of a document, apart from times,
or fail alike. -/
inductive Alike {ε α : Type} (read : Timestamp → Timestamp) (id : String) :
    Except ε (α × Workspace) → Except ε (α × Workspace) → Prop where
  /-- Both succeed. -/
  | ok {answer : α} {w v : Workspace} (h : SameSession read id w v) :
      Alike read id (.ok (answer, w)) (.ok (answer, v))
  /-- Both fail. -/
  | error {e : ε} : Alike read id (.error e) (.error e)

namespace AgreeOn

theorem sameSession (h : AgreeOn id w v) : SameSession read id w v := by
  rw [SameSession, h.find?_eq]

theorem contains_eq (h : AgreeOn id w v) : w.sessions.contains id = v.sessions.contains id := by
  rw [Catalog.contains_eq, Catalog.contains_eq, h.find?_eq]

theorem sessionWithLine_eq (h : AgreeOn id w v) :
    w.sessionWithLine id line = v.sessionWithLine id line := by
  rw [sessionWithLine, sessionWithLine, session, session, h.find?_eq]

/-- A result that is remembered is the same apart from its time. -/
theorem remember (h : AgreeOn id w v) (s : Session) {entry entry' : HistoryEntry}
    (hentry : entry.retimed read = entry'.retimed read) :
    SameSession read id (w.remember id s entry) (v.remember id s entry') := by
  refine sameSession_put w v ?_
  rw [Session.retimed_record, Session.retimed_record, hentry, h.limits_eq]

/-- A document is opened alike, if it is open already or there is room. -/
theorem openText (h : AgreeOn id w v) (text languageId : String)
    (hroom : w.sessions.contains id = false → w.HasRoom ∧ v.HasRoom) (hread : read now = read now') :
    Alike read id (w.openText now id text languageId) (v.openText now' id text languageId) := by
  rw [Workspace.openText, Workspace.openText, h.find?_eq]
  cases hfound : v.sessions.find? id with
  | none =>
    have hnew : w.sessions.contains id = false := by
      rw [h.contains_eq, Catalog.contains_eq, hfound, Option.isSome_none]
    obtain ⟨hw, hv⟩ := hroom hnew
    dsimp only
    rw [if_neg (Nat.not_le.2 hw), if_neg (Nat.not_le.2 hv)]
    exact .ok (sameSession_put w v (by simp [Session.retimed, hread]))
  | some s =>
    dsimp only
    split
    · exact .ok h.sameSession
    · exact .ok (sameSession_put w v (by simp [Session.retimed, hread]))

/-- The same lines are found. -/
theorem relatedLines (h : AgreeOn id w v) (line : Nat) (hread : read now = read now') :
    Alike read id (w.relatedLines now id line) (v.relatedLines now' id line) := by
  rw [Workspace.relatedLines, Workspace.relatedLines, h.sessionWithLine_eq, h.analyzer_eq]
  cases v.sessionWithLine id line with
  | error e => exact .error
  | ok s => exact .ok (h.remember s (by simp [HistoryEntry.retimed, hread]))

/-- A selection is analysed alike, and prompts are the same. -/
theorem analyzeFor (h : AgreeOn id w v) (selection : Selection) (withPrompt : Bool)
    (hread : read now = read now') :
    (w.analyzeFor now id selection withPrompt).1 = (v.analyzeFor now' id selection withPrompt).1 ∧
      SameSession read id (w.analyzeFor now id selection withPrompt).2
        (v.analyzeFor now' id selection withPrompt).2 := by
  rw [Workspace.analyzeFor, Workspace.analyzeFor, Workspace.analyze, Workspace.analyze,
    h.sessionWithLine_eq, h.analyzer_eq]
  cases v.sessionWithLine id selection.first with
  | error e => exact ⟨rfl, h.sameSession⟩
  | ok s =>
    rw [ok_bind, ok_bind]
    cases v.analyzer.analyze s.document selection with
    | error e => exact ⟨rfl, h.sameSession⟩
    | ok analysis =>
      rw [mapError_ok, ok_bind, ok_bind]
      dsimp only
      cases withPrompt with
      | false => exact ⟨rfl, h.remember s (by simp [HistoryEntry.retimed, hread])⟩
      | true =>
        -- the prompt is made from the document, and that is the same in both
        rw [if_pos rfl, if_pos rfl, promptFor_remember, promptFor_remember]
        exact ⟨rfl, h.remember s (by simp [HistoryEntry.retimed, hread])⟩

end AgreeOn

/-- **A message about a document depends on the session of that document**, apart from the room that a
new document needs. -/
theorem handle_congr (h : AgreeOn id w v) (hid : r.id? = some id)
    (hroom : w.OpensNew r → w.HasRoom ∧ v.HasRoom) (hread : read now = read now') :
    (w.handle now r).1 = (v.handle now' r).1 ∧
      SameSession read id (w.handle now r).2 (v.handle now' r).2 := by
  cases r with
  | openDocument name text languageId =>
    obtain rfl := Option.some.inj hid
    have halike := h.openText text languageId hroom hread
    rw [handle, handle]
    generalize w.openText now name text languageId = x at halike
    generalize v.openText now' name text languageId = y at halike
    cases halike with
    | ok hsame => exact ⟨rfl, hsame⟩
    | error => exact ⟨rfl, h.sameSession⟩
  | closeDocument name =>
    obtain rfl := Option.some.inj hid
    refine ⟨congrArg (Reply.closed name) h.contains_eq, ?_⟩
    rw [SameSession, handle, handle, close, close, Catalog.find?_drop, Catalog.find?_drop, if_pos rfl,
      if_pos rfl]
  | findRelatedLines name line =>
    obtain rfl := Option.some.inj hid
    have halike := h.relatedLines line hread
    rw [handle, handle]
    generalize w.relatedLines now name line = x at halike
    generalize v.relatedLines now' name line = y at halike
    cases halike with
    | ok hsame => exact ⟨rfl, hsame⟩
    | error => exact ⟨rfl, h.sameSession⟩
  | analyzeSelection name selection withPrompt =>
    obtain rfl := Option.some.inj hid
    obtain ⟨hanswer, hsame⟩ := h.analyzeFor selection withPrompt hread
    rw [handle, handle]
    generalize w.analyzeFor now name selection withPrompt = x at hanswer hsame
    generalize v.analyzeFor now' name selection withPrompt = y at hanswer hsame
    obtain ⟨answer, w'⟩ := x
    obtain ⟨answer', v'⟩ := y
    obtain rfl : answer = answer' := hanswer
    cases answer <;> exact ⟨rfl, hsame⟩
  | listDocuments => cases hid
  | history name =>
    obtain rfl := Option.some.inj hid
    rw [handle, handle, history, history, session, session, h.find?_eq]
    cases v.sessions.find? name with
    | none => exact ⟨rfl, h.sameSession⟩
    | some s => exact ⟨rfl, h.sameSession⟩

/-! ### Two messages -/

theorem analyzer_handle (w : Workspace) (now : Timestamp) (r : Request) :
    (w.handle now r).2.analyzer = w.analyzer := by
  obtain ⟨e, -, hmoves⟩ := moves_handle w now r
  exact hmoves.analyzer_eq

theorem limits_handle (w : Workspace) (now : Timestamp) (r : Request) :
    (w.handle now r).2.limits = w.limits := by
  obtain ⟨e, -, hmoves⟩ := moves_handle w now r
  exact hmoves.limits_eq

/-- **The frame of a message**: the sessions of other documents. -/
theorem find?_handle (w : Workspace) (now : Timestamp) (hne : r.id? ≠ some id) :
    (w.handle now r).2.sessions.find? id = w.sessions.find? id := by
  obtain ⟨e, he, hmoves⟩ := moves_handle w now r
  rw [← he] at hne
  exact hmoves.find?_of_ne hne

theorem agreeOn_handle (w : Workspace) (now : Timestamp) (hne : r.id? ≠ some id) :
    AgreeOn id w (w.handle now r).2 :=
  ⟨(analyzer_handle w now r).symm, (limits_handle w now r).symm, (find?_handle w now hne).symm⟩

theorem size_handle_le (w : Workspace) (now : Timestamp) (r : Request) :
    (w.handle now r).2.sessions.size ≤ w.sessions.size + 1 := by
  obtain ⟨e, -, hmoves⟩ := moves_handle w now r
  exact hmoves.size_le

variable {id' : String} {r' : Request} {t t' u u' : Timestamp}

/-- There is room for what two requests open. -/
def HasRoomFor (w : Workspace) (r r' : Request) : Prop :=
  w.sessions.size + 2 ≤ w.limits.maxOpenDocuments ∨ ¬ w.OpensNew r ∧ ¬ w.OpensNew r'

theorem HasRoomFor.symm (h : w.HasRoomFor r r') : w.HasRoomFor r' r := h.imp_right And.symm

theorem id?_ne {name : String} (hid : r.id? = some id) (hne : name ≠ id) : r.id? ≠ some name := by
  rw [hid]
  exact fun h => hne (Option.some.inj h).symm

/-- A message is answered as if the one about another document had not come before it. -/
theorem handle_after_other (read : Timestamp → Timestamp) (hid : r.id? = some id)
    (hother : r'.id? ≠ some id) (hroom : w.HasRoomFor r r') (hread : read t = read u) :
    (w.handle t r).1 = ((w.handle t' r').2.handle u r).1 ∧
      SameSession read id (w.handle t r).2 ((w.handle t' r').2.handle u r).2 := by
  have hagree : AgreeOn id w (w.handle t' r').2 := agreeOn_handle w t' hother
  refine handle_congr hagree hid (fun hopens => ?_) hread
  have htwo : w.sessions.size + 2 ≤ w.limits.maxOpenDocuments :=
    hroom.resolve_right fun hno => hno.1 hopens
  have hsize := size_handle_le w t' r'
  rw [HasRoom, HasRoom, ← hagree.limits_eq]
  omega

/-- The sessions behind two messages do not depend on their order. -/
theorem sameSession_comm (read : Timestamp → Timestamp) (hid : r.id? = some id)
    (hid' : r'.id? = some id') (hne : id ≠ id') (hroom : w.HasRoomFor r r') (hread : read t = read u)
    (hread' : read t' = read u') (name : String) :
    SameSession read name ((w.handle t r).2.handle t' r').2 ((w.handle u' r').2.handle u r).2 := by
  by_cases hname : name = id
  · subst hname
    have hother := id?_ne hid' hne
    rw [SameSession, find?_handle _ t' hother]
    exact (handle_after_other read hid hother hroom hread).2
  · by_cases hname' : name = id'
    · subst hname'
      have hother := id?_ne hid hname
      rw [SameSession, find?_handle _ u hother]
      exact (handle_after_other read hid' hother hroom.symm hread'.symm).2.symm
    · -- neither message is about this document
      have hno := id?_ne hid hname
      have hno' := id?_ne hid' hname'
      rw [SameSession, find?_handle _ t' hno', find?_handle _ t hno, find?_handle _ u hno,
        find?_handle _ u' hno']

theorem eq_of_sameSession (hanalyzer : w.analyzer = v.analyzer) (hlimits : w.limits = v.limits)
    (h : ∀ name, SameSession (fun time => time) name w v) : w = v := by
  obtain ⟨analyzer, limits, sessions⟩ := w
  obtain ⟨analyzer', limits', sessions'⟩ := v
  obtain rfl : analyzer = analyzer' := hanalyzer
  obtain rfl : limits = limits' := hlimits
  have hsessions : sessions = sessions' := Catalog.ext fun name => by
    simpa [SameSession, Session.retimed_self] using h name
  rw [hsessions]

/-- **Messages about different documents commute.** If there is room for two more documents, or neither
message opens a document that is not open, each is answered alike in either order, and the workspace
behind both is the same apart from times; it is quite the same if each message comes at the same time in
either order. -/
theorem handle_comm (w : Workspace) (r r' : Request) (id id' : String) (hid : r.id? = some id)
    (hid' : r'.id? = some id') (hne : id ≠ id') (hroom : w.HasRoomFor r r') (t t' u u' : Timestamp) :
    (w.handle t r).1 = ((w.handle u' r').2.handle u r).1 ∧
    ((w.handle t r).2.handle t' r').1 = (w.handle u' r').1 ∧
    SameApartFromTimes ((w.handle t r).2.handle t' r').2 ((w.handle u' r').2.handle u r).2 ∧
    (t = u → t' = u' → ((w.handle t r).2.handle t' r').2 = ((w.handle u' r').2.handle u r).2) := by
  have hanalyzer : ((w.handle t r).2.handle t' r').2.analyzer =
      ((w.handle u' r').2.handle u r).2.analyzer := by simp only [analyzer_handle]
  have hlimits : ((w.handle t r).2.handle t' r').2.limits =
      ((w.handle u' r').2.handle u r).2.limits := by simp only [limits_handle]
  refine ⟨?_, ?_, ⟨hanalyzer, hlimits, ?_⟩, ?_⟩
  · exact (handle_after_other (fun _ => "") hid (id?_ne hid' hne) hroom rfl).1
  · exact (handle_after_other (fun _ => "") hid' (id?_ne hid hne.symm) hroom.symm rfl).1.symm
  · exact sameSession_comm (fun _ => "") hid hid' hne hroom rfl rfl
  · rintro rfl rfl
    exact eq_of_sameSession hanalyzer hlimits
      (sameSession_comm (fun time => time) hid hid' hne hroom rfl rfl)

/-- A selection is analysed with a prompt, and another document is opened before that or after it. -/
theorem handle_comm_analysisAndOpening :
    let r : Request := .analyzeSelection "a.js" ⟨0, 0⟩ true
    let r' : Request := .openDocument "b.js" "y();" "javascript"
    (r.id? = some "a.js" ∧ r'.id? = some "b.js" ∧ "a.js" ≠ "b.js" ∧ askedOnce.HasRoomFor r r') ∧
    (askedOnce.handle "9:02" r).1 = ((askedOnce.handle "9:03" r').2.handle "9:02" r).1 ∧
    ((askedOnce.handle "9:02" r).2.handle "9:03" r').1 = (askedOnce.handle "9:03" r').1 ∧
    ((askedOnce.handle "9:02" r).2.handle "9:03" r').2 =
      ((askedOnce.handle "9:03" r').2.handle "9:02" r).2 := by
  intro r r'
  have hne : "a.js" ≠ "b.js" := by decide
  have hroom : askedOnce.HasRoomFor r r' := .inl (by decide +kernel)
  obtain ⟨hfirst, hsecond, -, hsame⟩ :=
    handle_comm askedOnce r r' "a.js" "b.js" rfl rfl hne hroom "9:02" "9:03" "9:02" "9:03"
  exact ⟨⟨rfl, rfl, hne, hroom⟩, hfirst, hsecond, hsame rfl rfl⟩

end Workspace

end LineKin
