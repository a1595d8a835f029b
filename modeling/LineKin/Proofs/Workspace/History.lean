import LineKin.Proofs.Workspace.Frame
import Mathlib.Data.List.DropRight
import Mathlib.Data.List.Forall2

/-!
# What is remembered after a run

What a workspace keeps for an identifier is a function of what its callers have seen. `OpenAfter` and
`resultsAfter` read off the events of a run whether a document is open, and which results were found
since it was opened or its text replaced for the last time.

**`run_remembers`**: after any calls at most as many documents are open as the limit allows, and only
a new one can be refused, exactly if there are that many; the history of an open document is the end
of its results, as long as the limit allows; and the open documents are listed in the order of their
identifiers, each with the length of its history.
-/

namespace LineKin.Workspace

/-! ### The past of a document -/

/-- A document is open after some events: it was opened since it was closed for the last time. -/
def OpenAfter (trace : List Event) (id : String) : Prop :=
  ∃ e ∈ trace.rtakeWhile fun e => !e.closes id, e.starts id = true

/-- The results found for a document since it was opened, or its text replaced, for the last time. -/
def resultsAfter (trace : List Event) (id : String) : List HistoryEntry :=
  (trace.rtakeWhile fun e => !e.starts id).filterMap (·.result? id)

variable {trace : List Event} {e : Event} {id : String} {limit : Nat} {s : Session}

theorem openAfter_concat : OpenAfter (trace ++ [e]) id ↔
    e.closes id = false ∧ (OpenAfter trace id ∨ e.starts id = true) := by
  rw [OpenAfter, OpenAfter, List.rtakeWhile_concat]
  cases e.closes id <;> simp [or_and_right, exists_or]

theorem resultsAfter_concat : resultsAfter (trace ++ [e]) id =
    if e.starts id then [] else resultsAfter trace id ++ (e.result? id).toList := by
  rw [resultsAfter, List.rtakeWhile_concat]
  cases e.starts id with
  | true => rfl
  | false =>
    rw [Bool.not_false, if_pos rfl, List.filterMap_append, resultsAfter]
    cases hresult : e.result? id <;> simp [hresult]

theorem lastOf_append {α : Type} (list more : List α) :
    lastOf limit (lastOf limit list ++ more) = lastOf limit (list ++ more) := by
  rw [lastOf, lastOf, lastOf, List.drop_append, List.drop_append, List.drop_drop]
  simp only [List.length_append, List.length_drop]
  congr 2 <;> omega

/-! ### What a session remembers -/

/-- A session is there if the document is open, and its history is the end of the results. -/
def Remembers (limit : Nat) (trace : List Event) (id : String) : Option Session → Prop
  | some s => OpenAfter trace id ∧ s.history = (resultsAfter trace id).rtake limit
  | none => ¬ OpenAfter trace id

namespace Remembers

variable {session : Option Session} {entry : HistoryEntry}

/-- At first nothing is remembered. -/
theorem nil : Remembers limit [] id none := by
  rintro ⟨e, he, -⟩
  rw [List.rtakeWhile_nil] at he
  cases he

theorem spared (h : Remembers limit trace id session) (hspares : e.Spares id) :
    Remembers limit (trace ++ [e]) id session := by
  obtain ⟨hstarts, hcloses, hresult⟩ := hspares
  have hopen : OpenAfter (trace ++ [e]) id ↔ OpenAfter trace id := by
    simp [openAfter_concat, hcloses, hstarts]
  have hresults : resultsAfter (trace ++ [e]) id = resultsAfter trace id := by
    simp [resultsAfter_concat, hstarts, hresult]
  cases session with
  | none => exact mt hopen.1 h
  | some s => exact ⟨hopen.2 h.1, h.2.trans (congrArg (List.rtake · limit) hresults.symm)⟩

theorem started (hstarts : e.starts id = true) (hcloses : e.closes id = false)
    (hhistory : s.history = []) : Remembers limit (trace ++ [e]) id (some s) := by
  refine ⟨openAfter_concat.2 ⟨hcloses, .inr hstarts⟩, ?_⟩
  rw [resultsAfter_concat, if_pos hstarts, hhistory, List.rtake_nil]

theorem closed (hcloses : e.closes id = true) : Remembers limit (trace ++ [e]) id none := by
  intro hopen
  rw [(openAfter_concat.1 hopen).1] at hcloses
  cases hcloses

theorem recorded (h : Remembers limit trace id (some s)) (hstarts : e.starts id = false)
    (hcloses : e.closes id = false) (hresult : e.result? id = some entry) :
    Remembers limit (trace ++ [e]) id (some (s.record entry limit)) := by
  refine ⟨openAfter_concat.2 ⟨hcloses, .inl h.1⟩, ?_⟩
  calc (s.record entry limit).history
      = lastOf limit (s.history ++ [entry]) := rfl
    _ = lastOf limit (lastOf limit (resultsAfter trace id) ++ [entry]) := by rw [h.2]; rfl
    _ = (resultsAfter trace id ++ [entry]).rtake limit := lastOf_append _ _
    _ = (resultsAfter (trace ++ [e]) id).rtake limit := by
      simp [resultsAfter_concat, hstarts, hresult]

end Remembers

/-! ### What a run keeps -/

/-- The state of a workspace fits what its callers have seen. -/
structure Fits (limits : SessionLimits) (trace : List Event) (w : Workspace) : Prop where
  /-- The limits stay the same. -/
  limits_eq : w.limits = limits
  /-- There are not more sessions than allowed. -/
  size_le : w.sessions.size ≤ limits.maxOpenDocuments
  /-- What is remembered under each identifier. -/
  remembers : ∀ id, Remembers limits.historyLimit trace id (w.sessions.find? id)

variable {w w' : Workspace} {limits : SessionLimits}

/-- **Every move keeps the fit.** -/
theorem Fits.moves (h : Fits limits trace w) (hmoves : w.Moves e w') :
    Fits limits (trace ++ [e]) w' where
  limits_eq := hmoves.limits_eq.trans h.limits_eq
  size_le := by
    have hsize := h.size_le
    rw [← h.limits_eq] at hsize ⊢
    exact hmoves.size_le_max hsize
  remembers name := by
    have hremembers := h.remembers name
    rcases hmoves.find?_cases name with ⟨hspares, hsame⟩ | ⟨hstarts, s, hnew, hhistory⟩ |
      ⟨hcloses, hnone⟩ | ⟨s, entry, hopen, hresult, -, hrecorded⟩
    · rw [hsame]
      exact hremembers.spared hspares
    · rw [hnew]
      exact .started hstarts (Event.closes_of_starts hstarts) hhistory
    · rw [hnone]
      exact .closed hcloses
    · obtain ⟨hstarts, hcloses⟩ := Event.starts_closes_of_result? hresult
      rw [hrecorded, h.limits_eq]
      exact (hopen ▸ hremembers).recorded hstarts hcloses hresult

theorem fits_run (analyzer : Analyzer) (limits : SessionLimits) (calls : List Call) :
    Fits limits (Workspace.run { analyzer, limits } calls).1
      (Workspace.run { analyzer, limits } calls).2 := by
  refine run_induction ⟨rfl, Nat.zero_le _, fun id => ?_⟩ (fun h hmoves => h.moves hmoves) calls
  rw [Catalog.find?_empty]
  exact .nil

/-! ### Answers after a run -/

theorem Fits.mem_names_iff (h : Fits limits trace w) : id ∈ w.sessions.names ↔ OpenAfter trace id := by
  have hremembers := h.remembers id
  rw [Catalog.mem_names_iff]
  cases hfound : w.sessions.find? id with
  | none =>
    rw [hfound] at hremembers
    exact ⟨nofun, fun hopen => absurd hopen hremembers⟩
  | some s =>
    rw [hfound] at hremembers
    exact ⟨fun _ => hremembers.1, fun _ => rfl⟩

theorem exists_session (hid : id ∈ w.sessions.names) : ∃ s, w.sessions.find? id = some s :=
  Option.isSome_iff_exists.1 (Catalog.mem_names_iff.1 hid)

theorem find?_of_not_mem (hid : id ∉ w.sessions.names) : w.sessions.find? id = none := by
  rwa [Catalog.mem_names_iff, Option.not_isSome_iff_eq_none] at hid

theorem history_eq_ok (hfound : w.sessions.find? id = some s) : w.history id = .ok s.history := by
  rw [history, session, hfound]
  rfl

theorem history_eq_error (hid : id ∉ w.sessions.names) : w.history id = .error (.notOpen id) := by
  rw [history, session, find?_of_not_mem hid]
  rfl

theorem Fits.history_eq (h : Fits limits trace w) (hid : id ∈ w.sessions.names) :
    w.history id = .ok ((resultsAfter trace id).rtake limits.historyLimit) := by
  obtain ⟨s, hfound⟩ := exists_session hid
  have hremembers := h.remembers id
  rw [hfound] at hremembers
  rw [history_eq_ok hfound, hremembers.2]

/-- Each open document is listed once, with the length of its history. -/
theorem forall₂_summaries (w : Workspace) : List.Forall₂ (fun id summary =>
    summary.member? "id" = some (.string id) ∧ ∃ entries, w.history id = .ok entries ∧
      summary.member? "history_len" = some (.ofNat entries.length)) w.sessions.names w.summaries := by
  rw [Catalog.names, summaries, List.forall₂_map_left_iff, List.forall₂_map_right_iff,
    List.forall₂_same]
  rintro ⟨id, s⟩ hmem
  exact ⟨rfl, s.history, history_eq_ok (Catalog.find?_eq_some_iff.2 hmem), rfl⟩

variable (now : Timestamp) (text languageId : String)

/-- A new document is refused exactly if there is no room. -/
theorem openText_of_new (hid : id ∉ w.sessions.names) :
    (∃ e, w.openText now id text languageId = .error e) ↔
      w.limits.maxOpenDocuments ≤ w.sessions.size := by
  rw [openText]
  simp only [find?_of_not_mem hid]
  split
  · rename_i hfull
    exact ⟨fun _ => hfull, fun _ => ⟨_, rfl⟩⟩
  · rename_i hroom
    constructor
    · rintro ⟨e, he⟩
      cases he
    · exact fun hfull => absurd hfull hroom

/-- An open document can always be opened again. -/
theorem openText_of_open (hid : id ∈ w.sessions.names) :
    ∃ outcome w', w.openText now id text languageId = .ok (outcome, w') := by
  obtain ⟨s, hfound⟩ := exists_session hid
  rw [openText]
  simp only [hfound]
  split
  · exact ⟨_, _, rfl⟩
  · exact ⟨_, _, rfl⟩

/-- Nor is the file of an open document refused for want of room. -/
theorem openFile_of_open {path : String} (files : FileTree) (hid : path ∈ w.sessions.names)
    (e : SessionError) : w.openFile now files path ≠ .error (.session e) := by
  rw [openFile]
  cases TextDocument.ofFile files path w.analyzer.limits.maxFileSize with
  | error cause => exact nofun
  | ok document =>
    obtain ⟨outcome, w', hopen⟩ := openText_of_open now document.text document.languageId hid
    intro h
    simp only [mapError_ok, ok_bind, hopen] at h
    cases h

/-- **What is remembered after a run** of any calls, the callers having seen `trace`: no more documents
are open than the limit allows, a new one is refused exactly if there are that many, and one that is
open never is; the history of an open document is the end of its results; and the open documents are
listed one by one in the order of their identifiers, each with the length of its history. -/
theorem run_remembers (analyzer : Analyzer) (limits : SessionLimits) (calls : List Call) :
    let trace := (Workspace.run { analyzer, limits } calls).1
    let w := (Workspace.run { analyzer, limits } calls).2
    (∀ id, id ∈ w.sessions.names ↔ OpenAfter trace id) ∧
    (w.sessions.names.length ≤ limits.maxOpenDocuments ∧
      (∀ now id text languageId, id ∉ w.sessions.names →
        ((∃ e, w.openText now id text languageId = .error e) ↔
          w.sessions.names.length = limits.maxOpenDocuments)) ∧
      (∀ now id text languageId, id ∈ w.sessions.names →
        ∃ outcome w', w.openText now id text languageId = .ok (outcome, w')) ∧
      ∀ now files path, path ∈ w.sessions.names →
        ∀ e, w.openFile now files path ≠ .error (.session e)) ∧
    ((∀ id ∈ w.sessions.names,
        w.history id = .ok ((resultsAfter trace id).rtake limits.historyLimit)) ∧
      ∀ id ∉ w.sessions.names, w.history id = .error (.notOpen id)) ∧
    w.sessions.names.Pairwise (· < ·) ∧
    List.Forall₂ (fun id summary => summary.member? "id" = some (.string id) ∧
      ∃ entries, w.history id = .ok entries ∧
        summary.member? "history_len" = some (.ofNat entries.length))
      w.sessions.names w.summaries := by
  intro trace w
  have hfits : Fits limits trace w := fits_run analyzer limits calls
  have hsize := hfits.size_le
  rw [← Catalog.length_names] at hsize
  refine ⟨fun id => hfits.mem_names_iff, ⟨hsize, ?_, ?_, ?_⟩,
    ⟨fun id hid => hfits.history_eq hid, fun id hid => history_eq_error hid⟩,
    w.sessions.pairwise_names, forall₂_summaries w⟩
  · intro now id text languageId hid
    rw [openText_of_new now text languageId hid, hfits.limits_eq, ← Catalog.length_names]
    omega
  · exact fun now id text languageId hid => openText_of_open now text languageId hid
  · exact fun now files path hid e => openFile_of_open now files hid e

/-- A document is opened, and asked about twice. -/
def askedTwice : List Call :=
  [.openText "9:00" "a.js" "x();" "javascript", .relatedLines "9:01" "a.js" 0,
    .relatedLines "9:02" "a.js" 0]

/-- Where one document and one result fit in, another document is refused, and the second result is
all that is kept. -/
theorem run_remembers_askedTwice :
    let limits : SessionLimits := ⟨1, 1⟩
    let trace := (Workspace.run { analyzer := .standard {}, limits } askedTwice).1
    let w := (Workspace.run { analyzer := .standard {}, limits } askedTwice).2
    ("a.js" ∈ w.sessions.names ∧ "b.js" ∉ w.sessions.names) ∧
    ((∃ e, w.openText "9:03" "b.js" "" "javascript" = .error e) ↔ w.sessions.names.length = 1) ∧
    (∃ outcome w', w.openText "9:03" "a.js" "y();" "javascript" = .ok (outcome, w')) ∧
    (∀ e, w.openFile "9:03" .empty "a.js" ≠ .error (.session e)) ∧
    w.history "a.js" = .ok ((resultsAfter trace "a.js").rtake 1) ∧
    w.history "b.js" = .error (.notOpen "b.js") := by
  intro limits trace w
  have hnames : w.sessions.names = ["a.js"] := by decide +kernel
  have hopen : "a.js" ∈ w.sessions.names := hnames ▸ List.mem_singleton_self _
  have hnew : "b.js" ∉ w.sessions.names := by
    rw [hnames]
    decide
  obtain ⟨-, ⟨-, hrefused, hagain, hfile⟩, ⟨hhistory, hnone⟩, -⟩ :=
    run_remembers (.standard {}) limits askedTwice
  exact ⟨⟨hopen, hnew⟩, hrefused "9:03" "b.js" "" "javascript" hnew,
    hagain "9:03" "a.js" "y();" "javascript" hopen, hfile "9:03" .empty "a.js" hopen,
    hhistory "a.js" hopen, hnone "b.js" hnew⟩

end LineKin.Workspace
