import LineKin.Json.Reader
import LineKin.Json.Writer
import LineKin.Tool.Server

/-!
# Conversations with the tool server

A client and the server exchange JSON-RPC messages, one on a line. The client introduces itself with
an `initialize` request, is told about the server, and says that it is ready; from then on it lists
and calls tools and prompts. A `Stage` remembers how far that has come, and `hear` is what one line
does to a conversation.

A line that is no message ends a conversation, as the end of the input does. If the client has not
said that it is ready by then, the conversation was `BrokenOff`.
-/

namespace LineKin.Tool

/-! ### Messages -/

/-- What a client says. -/
inductive ClientMessage where
  /-- A request, which is answered under its identifier. -/
  | request (id : Json) (method : String) (params : Json)
  /-- A notification, which is not answered. -/
  | notification (method : String)
  /-- An answer to a request of the server. -/
  | answer

/-- The message on a line, if there is one. -/
def ClientMessage.ofText? (line : String) : Option ClientMessage := do
  let message ← Json.parse? line
  match message.member? "jsonrpc" with
  | some (.string "2.0") =>
    match message.member? "method", message.member? "id" with
    | some (.string method), some id =>
      some (.request id method ((message.member? "params").getD .null))
    | some (.string method), none => some (.notification method)
    | none, some _ => some .answer
    | _, _ => none
  | _ => none

/-- The path that a message is about, if it names one among the arguments of a call. -/
def pathIn? (line : String) : Option String := do
  let message ← Json.parse? line
  match ← (← (← message.member? "params").member? "arguments").member? "path" with
  | .string path => some path
  | _ => none

/-- The line that answers a request. -/
def answerLine (id : Json) (result : Except CallError Json) : String :=
  let outcome : String × Json :=
    match result with
    | .ok value => ("result", value)
    | .error e =>
      ("error", .object [("code", .integer e.code), ("message", .string e.message)])
  (Json.object [("jsonrpc", .string "2.0"), ("id", id), outcome]).compact

/-! ### Answers -/

/-- The version of the protocol that the server speaks. -/
def protocolVersion : String := "2025-03-26"

/-- What the server says about itself. -/
def introduction : Json :=
  .object
    [("protocolVersion", .string protocolVersion),
     ("capabilities", .object [("prompts", .object []), ("tools", .object [])]),
     ("serverInfo", .object
       [("name", .string info.name), ("title", .string info.title),
        ("version", .string info.version)]),
     ("instructions", .string info.instructions)]

/-- A piece of text in an answer. -/
def textContent (text : String) : Json :=
  .object [("type", .string "text"), ("text", .string text)]

/-- The answer of a tool. -/
def Outcome.toJson : Outcome → Json
  | answered value =>
    .object [("content", .array [textContent value.pretty]), ("isError", .bool false)]
  | refused reason =>
    .object [("content", .array [textContent reason]), ("isError", .bool true)]

/-- A prompt that is ready to be sent. -/
def Server.ReadyPrompt.toJson (p : Server.ReadyPrompt) : Json :=
  .object
    [("description", .string p.description),
     ("messages", .array
       [.object [("role", .string "user"), ("content", textContent p.text)]])]

/-- The list of tools. -/
def toolList : Json :=
  .object [("tools", .array (Server.tools.map fun tool => .object
    [("name", .string tool.name), ("description", .string tool.description),
     ("inputSchema", .object [("type", .string "object")])]))]

/-- The list of prompts. -/
def promptList : Json :=
  .object [("prompts", .array [.object
    [("name", .string Server.explainName), ("description", .string Server.explainDescription)]])]

/-- A method that the server does not have. -/
def unknownMethod (method : String) : CallError := ⟨-32601, method⟩

/-- The name and the arguments that the parameters of a call give. -/
def callOf (params : Json) : Except CallError (String × Json) :=
  match params.member? "name" with
  | some (.string name) => .ok (name, (params.member? "arguments").getD (.object []))
  | _ => .error (invalidArguments "missing name")

/-- Answers a request. -/
def Server.answer (s : Server) (method : String) (params : Json) :
    Except CallError Json × Server :=
  match method with
  | "ping" => (.ok (.object []), s)
  | "tools/list" => (.ok toolList, s)
  | "prompts/list" => (.ok promptList, s)
  | "tools/call" =>
    match callOf params with
    | .ok (name, args) =>
      let (result, s) := s.callTool name args
      (result.map Outcome.toJson, s)
    | .error e => (.error e, s)
  | "prompts/get" =>
    match callOf params with
    | .ok (name, args) =>
      let (result, s) := s.callPrompt name args
      (result.map Server.ReadyPrompt.toJson, s)
    | .error e => (.error e, s)
  | _ => (.error (unknownMethod method), s)

/-! ### Conversations -/

/-- How far a conversation has come. -/
inductive Stage where
  /-- The client has said nothing yet. -/
  | silent
  /-- The client is introduced. -/
  | introduced
  /-- The client is ready. -/
  | ready
  deriving DecidableEq

/-- Why a conversation ends before the client is ready. -/
inductive BrokenOff where
  /-- The client says nothing more. -/
  | closed (stage : Stage)
  /-- The client says something else than what is due. -/
  | unexpected (stage : Stage)
  deriving DecidableEq

/-- What is due at a stage. -/
def Stage.due : Stage → String
  | silent => "initialized request"
  | _ => "initialize notification"

/-- The words for the reason. -/
def BrokenOff.message : BrokenOff → String
  | closed stage => s!"connection closed: {stage.due}"
  | unexpected .silent => "expect initialized request"
  | unexpected _ => "expect initialized notification"

/-- A server, and how far its conversation with a client has come. -/
structure Conversation where
  /-- The server. -/
  server : Server
  /-- How far the conversation has come. -/
  stage : Stage := .silent

namespace Conversation

/-- How a conversation goes on. -/
inductive Turn where
  /-- It goes on, perhaps with a line for the client. -/
  | goesOn (reply : Option String) (c : Conversation)
  /-- It is over. -/
  | ended (reason : Option BrokenOff)

/-- What the end of the input means. -/
def close (c : Conversation) : Option BrokenOff :=
  if c.stage = .ready then none else some (.closed c.stage)

/-- What a message does. -/
def receive (c : Conversation) (message : ClientMessage) : Turn :=
  match c.stage, message with
  | .silent, .request id "initialize" _ =>
    .goesOn (some (answerLine id (.ok introduction))) { c with stage := .introduced }
  | .introduced, .notification "notifications/initialized" =>
    .goesOn none { c with stage := .ready }
  | .ready, .request id method params =>
    let (result, server) := c.server.answer method params
    .goesOn (some (answerLine id result)) { c with server }
  | .ready, _ => .goesOn none c
  | stage, _ => .ended (some (.unexpected stage))

/-- What a line does. -/
def hear (c : Conversation) (line : String) : Turn :=
  match ClientMessage.ofText? line with
  | some message => c.receive message
  | none => .ended c.close

/-- The lines that answer some lines, and the reason if the conversation was broken off. -/
def hold (c : Conversation) : List String → List String × Option BrokenOff
  | [] => ([], c.close)
  | line :: rest =>
    match c.hear line with
    | .goesOn reply c =>
      let (replies, reason) := c.hold rest
      (reply.toList ++ replies, reason)
    | .ended reason => ([], reason)

end Conversation

end LineKin.Tool
