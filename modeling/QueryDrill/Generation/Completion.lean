import QueryDrill.Failure
import QueryDrill.Generation.Prompt
import QueryDrill.Json.Print
/-!
Chat completions: the body of a request to a completion service, and the reply in its response.
-/

namespace QueryDrill

namespace Completion

/-- What asks for a reply in a format; free text needs nothing. -/
def formatFields : ReplyFormat → List (String × Json)
  | .text => []
  | .json title schema =>
    [("response_format",
      .object [("json_schema",
          .object [("name", .string title), ("schema", schema), ("strict", .bool true)]),
        ("type", .string "json_schema")])]

/-- A temperature of 32 bits as a number of 64 bits. -/
def temperatureJson (t : Binary) : Json := .ofBinary (t.convert .double)

/-- The body of a request. -/
def payload (model : String) (temperature : Option Binary) (conversation : List Message)
    (format : ReplyFormat) : Json :=
  .object ([("messages", .array (conversation.map Message.toJson)), ("model", .string model)]
    ++ formatFields format
    ++ (temperature.map fun t => ("temperature", temperatureJson t)).toList)

/-- The first choice of a response. -/
def firstChoice? (response : Json) : Option Json := do
  (← (← response.field? "choices").array?).head?

/-- The reply in a response. -/
def reply (response : Json) : Except Failure String :=
  match firstChoice? response with
  | none => .error (.oracle ("Unexpected OpenAI response format: " ++ response.pretty))
  | some choice =>
    let part (name : String) : Option String :=
      ((choice.field? "message").bind (·.field? name)).bind Json.string?
    match part "refusal", part "content" with
    | some refusal, _ => .error (.oracle ("OpenAI refused: " ++ refusal))
    | none, some content => .ok content
    | none, none => .error (.oracle "No message content in OpenAI response")

end Completion

end QueryDrill
