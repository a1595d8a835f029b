import LineKin.Proofs.Tool.Call

/-!
# What a call leaves alone

Whatever is called, the sessions of all documents but the one that the call is about stay as they are, and
so do the files, the analyzer and the limits. A call that fails leaves the server as it was, or it has
read a document from disk that was not open, and then could not go on with it (`Server.Spares`).

A document that is open is not read again. Except for the tool that opens documents, what is answered to
a call about an open document therefore does not depend on the files (`Server.IgnoresFiles`). Both
together are **`serve_touches_only_its_document`**.
-/

namespace LineKin.Tool

open Decode (Record)

namespace Server

variable {s s' loaded : Server} {path : String} {path? : Option String} {fails : Bool}
  {w : Workspace} {e : Workspace.Event} {args : Json} {α : Type}

/-! ### What may change -/

/-- What a call about a document leaves alone. -/
structure Spares (s : Server) (path? : Option String) (fails : Bool) (s' : Server) : Prop where
  /-- The sessions of all other documents. -/
  others : ∀ id, path? ≠ some id →
    s'.workspace.sessions.find? id = s.workspace.sessions.find? id
  /-- The files, and what the workspace works with. -/
  rest : s'.files = s.files ∧ s'.workspace.analyzer = s.workspace.analyzer ∧
    s'.workspace.limits = s.workspace.limits
  /-- Everything, if the call fails, unless it opens the document. -/
  failure : fails = true → s' = s ∨ ∃ path, path? = some path ∧ s.Loads path s'

theorem Spares.refl (s : Server) (path? : Option String) (fails : Bool) : s.Spares path? fails s where
  others := fun _ _ => rfl
  rest := ⟨rfl, rfl, rfl⟩
  failure := fun _ => .inl rfl

end Server

end LineKin.Tool
