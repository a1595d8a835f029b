import LineKin.Proofs.Analysis.Prompt
import LineKin.Proofs.Workspace.Run

/-!
# What an event leaves alone

Seen from one identifier, an event does one of four things: it leaves the session alone, puts one
without results in its place, takes it away, or adds a result to it (`Moves.find?_cases`). The last
three only happen to the identifier that the event is about, so all other sessions stay as they are
(`Moves.find?_of_ne`). The analyzer and the limits never change, and no event opens more than one
document, or more than the limits allow.
-/

namespace LineKin

/-- A result is what an analyzer finds for a line of a document. -/
structure HistoryEntry.FoundBy (entry : HistoryEntry) (a : Analyzer) (d : TextDocument) : Prop where
  /-- The document has the line. -/
  first_lt : entry.selection.first < d.lineCount
  /-- The related lines are those that the analyzer finds. -/
  related_eq : entry.related = (a.relatedLines d entry.selection.first).toList

namespace Workspace

variable {w w' : Workspace} {e : Event} {id name : String} {s : Session} {entry : HistoryEntry}

/-! ### The identifier of an event -/

/-- The identifier that a call is about. -/
def Call.id? : Call → Option String
  | .openText _ id _ _ | .openFile _ _ id | .close id | .relatedLines _ id _ | .analyze _ id _
  | .history id => some id
  | .list => none

theorem id?_settle {ε α : Type} {event : Except ε α → Event} {result : Except ε (α × Workspace)}
    (h : ∀ answer, (event answer).id? = some id) : (w.settle event result).1.id? = some id := by
  cases result with
  | ok settled => exact h _
  | error e => exact h _

theorem id?_step (w : Workspace) (call : Call) : (w.step call).1.id? = call.id? := by
  cases call with
  | openText now id text languageId => exact id?_settle fun _ => rfl
  | openFile now files path => exact id?_settle fun _ => rfl
  | close id => rfl
  | relatedLines now id line => exact id?_settle fun _ => rfl
  | analyze now id selection => exact id?_settle fun _ => rfl
  | list => rfl
  | history id => rfl

theorem Event.closes_of_starts (h : e.starts id = true) : e.closes id = false := by
  cases e with
  | closing => cases h
  | _ => rfl

/-- A result neither starts nor closes the document that it is found for. -/
theorem Event.starts_closes_of_result? (h : e.result? id = some entry) :
    e.starts id = false ∧ e.closes id = false := by
  cases e with
  | opening => cases h
  | closing => cases h
  | _ => exact ⟨rfl, rfl⟩

/-! ### One session -/

theorem find?_remember (w : Workspace) (id name : String) (s : Session) (entry : HistoryEntry) :
    (w.remember id s entry).sessions.find? name =
      if name = id then some (s.record entry w.limits.historyLimit) else w.sessions.find? name :=
  Catalog.find?_put ..

/-- **All that an event can do to a session**: nothing, or it is started anew, closed, or given one
more result, which the analyzer found for a line of its document. -/
theorem Moves.find?_cases (hmoves : w.Moves e w') (name : String) :
    (e.Spares name ∧ w'.sessions.find? name = w.sessions.find? name) ∨
    (e.starts name = true ∧ ∃ s, w'.sessions.find? name = some s ∧ s.history = []) ∨
    (e.closes name = true ∧ w'.sessions.find? name = none) ∨
    ∃ s entry, w.sessions.find? name = some s ∧ e.result? name = some entry ∧
      entry.FoundBy w.analyzer s.document ∧
      w'.sessions.find? name = some (s.record entry w.limits.historyLimit) := by
  -- an event about another identifier
  have hspares : ∀ {id}, e.id? = some id → name ≠ id → e.Spares name := fun hid hname =>
    Event.spares_of_id?_ne fun h => hname (Option.some.inj (h.symm.trans hid))
  cases hmoves with
  | @started id outcome s hchanged hhistory hroom =>
    by_cases hname : name = id
    · subst hname
      refine .inr (.inl ⟨by simp [Event.starts, hchanged], s, ?_, hhistory⟩)
      rw [Catalog.find?_put, if_pos rfl]
    · exact .inl ⟨hspares rfl hname, by rw [Catalog.find?_put, if_neg hname]⟩
  | @closed id =>
    by_cases hname : name = id
    · subst hname
      refine .inr (.inr (.inl ⟨by simp [Event.closes], ?_⟩))
      rw [Catalog.find?_drop, if_pos rfl]
    · exact .inl ⟨hspares rfl hname, by rw [Catalog.find?_drop, if_neg hname]⟩
  | @found now id line s related hopen hline hrelated =>
    by_cases hname : name = id
    · subst hname
      refine .inr (.inr (.inr
        ⟨s, ⟨now, .line line, related, none⟩, hopen, ?_, ⟨hline, hrelated⟩, ?_⟩))
      · rw [Event.result?, if_pos rfl]
      · rw [find?_remember, if_pos rfl]
    · exact .inl ⟨hspares rfl hname, by rw [find?_remember, if_neg hname]⟩
  | @analysed now id selection s analysis hopen hline hanalysis =>
    by_cases hname : name = id
    · subst hname
      obtain ⟨-, hrelated, -⟩ := Analyzer.analyze_eq_ok hanalysis
      refine .inr (.inr (.inr
        ⟨s, ⟨now, selection, analysis.related, some analysis.context⟩, hopen, ?_,
          ⟨hline, hrelated⟩, ?_⟩))
      · rw [Event.result?, if_pos rfl]
      · rw [find?_remember, if_pos rfl]
    · exact .inl ⟨hspares rfl hname, by rw [find?_remember, if_neg hname]⟩
  | idle hspares => exact .inl ⟨hspares name, rfl⟩

/-- An event that spares a document leaves its session alone. -/
theorem Moves.find?_of_spares (hmoves : w.Moves e w') (hspares : e.Spares name) :
    w'.sessions.find? name = w.sessions.find? name := by
  obtain ⟨hstarts, hcloses, hresult⟩ := hspares
  rcases hmoves.find?_cases name with ⟨-, hsame⟩ | ⟨hyes, -⟩ | ⟨hyes, -⟩ | ⟨s, entry, -, hyes, -⟩
  · exact hsame
  · rw [hstarts] at hyes
    cases hyes
  · rw [hcloses] at hyes
    cases hyes
  · rw [hresult] at hyes
    cases hyes

/-- **The frame of an event**: the sessions of other documents. -/
theorem Moves.find?_of_ne (hmoves : w.Moves e w') (hne : e.id? ≠ some name) :
    w'.sessions.find? name = w.sessions.find? name :=
  hmoves.find?_of_spares (Event.spares_of_id?_ne hne)

/-! ### The rest of the workspace -/

theorem Moves.analyzer_eq (hmoves : w.Moves e w') : w'.analyzer = w.analyzer := by
  cases hmoves <;> rfl

theorem Moves.limits_eq (hmoves : w.Moves e w') : w'.limits = w.limits := by
  cases hmoves <;> rfl

/-- At most one document more is open after an event. -/
theorem Moves.size_le (hmoves : w.Moves e w') : w'.sessions.size ≤ w.sessions.size + 1 := by
  cases hmoves with
  | started => exact Catalog.size_put_le ..
  | closed => exact Nat.le_succ_of_le (Catalog.size_drop_le ..)
  | found => exact Catalog.size_put_le ..
  | analysed => exact Catalog.size_put_le ..
  | idle => exact Nat.le_succ _

/-- No event opens more documents than the limit allows. -/
theorem Moves.size_le_max (hmoves : w.Moves e w')
    (hsize : w.sessions.size ≤ w.limits.maxOpenDocuments) :
    w'.sessions.size ≤ w.limits.maxOpenDocuments := by
  have hagain : ∀ {id : String} {s : Session}, w.sessions.contains id = true →
      (w.sessions.put id s).size ≤ w.limits.maxOpenDocuments := fun hopen => by
    rwa [Catalog.size_put, if_pos hopen]
  cases hmoves with
  | started hchanged hhistory hroom =>
    rcases hroom with hopen | hroom
    · exact hagain hopen
    · exact Nat.le_trans (Catalog.size_put_le ..) hroom
  | closed => exact Nat.le_trans (Catalog.size_drop_le ..) hsize
  | found hopen => exact hagain (by rw [Catalog.contains_eq, hopen, Option.isSome_some])
  | analysed hopen => exact hagain (by rw [Catalog.contains_eq, hopen, Option.isSome_some])
  | idle => exact hsize

theorem analyzer_run (w : Workspace) (calls : List Call) : (w.run calls).2.analyzer = w.analyzer :=
  @run_induction w (fun _ v => v.analyzer = w.analyzer) rfl
    (fun h hmoves => hmoves.analyzer_eq.trans h) calls

end Workspace

end LineKin
