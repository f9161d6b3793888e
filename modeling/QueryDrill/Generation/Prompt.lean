import QueryDrill.Difficulty
import QueryDrill.Language
import QueryDrill.Generation.Message
import QueryDrill.Text.Fence
/-!
What the author of drafts is told.
-/

namespace QueryDrill

open Sql Text

namespace Prompt

/-! ## 1. Parts -/

/-- The name of a dialect in a prompt. -/
def dialectTitle : Dialect → String
  | .generic => "standard"
  | .postgres => "PostgreSQL"
  | .mysql => "MySQL"
  | .sqlite => "SQLite"

/-- The line of an item. -/
def bullet (item : String) : String := "- " ++ trim item

/-- A title and the lines of the items that are not blank; nothing if there are none. -/
def titled (title : String) (items : List String) : String :=
  let items := items.filter fun i => !isBlankText i
  if items.isEmpty then "" else "\n\n" ++ title ++ ":\n" ++ "\n".intercalate (items.map bullet)

/-- A statement that ends with one semicolon. -/
def terminated (statement : String) : String :=
  String.ofList (((trimChars statement.toList).reverse.dropWhile (· == ';')).reverse) ++ ";"

/-! ## 2. Prompts -/

/-- The first message of a conversation about a draft. -/
def system (l : Language) (d : Dialect) : String :=
  "You are an assistant that writes SQL teaching material. All SQL must be valid " ++ dialectTitle d
    ++ " SQL. Write every natural-language text, table name and column name in " ++ l.englishName
    ++ ". Reply only in the requested format."

/-- The request for a dataset. -/
def dataset (domain : String) (extraDetails requirements : List String) (d : Dialect) : String :=
  "Create a small database about: " ++ trim domain
    ++ ".\nPut one CREATE TABLE statement per entry in `schema_tables` and one INSERT "
    ++ "statement per entry in `insert_commands`, using " ++ dialectTitle d
    ++ " SQL. Insert realistic data so that interesting queries return non-empty results."
    ++ titled "Additional characteristics" extraDetails ++ titled "Requirements" requirements

/-- The request for an exercise. -/
def exercise (domain : String) (createCommands : List String) (title misconception : String)
    (difficulty : Difficulty) (extraDetails requirements : List String) (l : Language) : String :=
  "Database about " ++ trim domain ++ ":\n" ++ "\n".intercalate (createCommands.map terminated)
    ++ "\n\nWrite an exercise of " ++ difficulty.name ++ " difficulty titled \"" ++ trim title
    ++ "\" for students who show this misconception: " ++ trim misconception
    ++ "\nPut in `request` the natural-language request given to the students, written in "
    ++ l.englishName
    ++ ", and in `solution` a single SELECT query over the database above that answers it."
    ++ titled "Additional characteristics" extraDetails
    ++ titled "Requirements for the solution" requirements

/-- The answer to a draft that does not read. -/
def unreadable (l : Language) (message : String) : String :=
  l.pick "The previous answer could not be parsed:" "La risposta precedente non è analizzabile:"
    ++ "\n" ++ message ++ "\n"
    ++ l.pick "Reply again in the requested format, with valid SQL."
      "Rispondi di nuovo nel formato richiesto, con SQL valido."

/-- The request to put the request of an exercise into other words. -/
def refinement (request solution : String) (aliases : List String) (l : Language) : String :=
  "Rewrite the following exercise request so that it does not hint at how to write the SQL: do not "
    ++ "mention joins, table names or SQL keywords, and describe only the information the student must "
    ++ "retrieve. Keep the meaning unchanged."
    ++ (if aliases.isEmpty then ""
      else
        "\nThe result columns must be named "
          ++ ", ".intercalate (aliases.map fun a => "\"" ++ a ++ "\"")
          ++ ": state these names explicitly.")
    ++ "\nReply with the rewritten request only, in " ++ l.englishName ++ ".\n\nRequest:\n"
    ++ trim request ++ "\n\nReference solution (do not reveal it):\n" ++ trim solution

end Prompt

/-! ## 3. Formats of replies -/

/-- The form that a reply should have. -/
inductive ReplyFormat where
  | text
  /-- JSON with a title that matches a schema. -/
  | json (title : String) (schema : Json)

namespace ReplyFormat

/-- The schema of a record with some fields of the same form. -/
def recordSchema (names : List String) (field : Json) : Json :=
  .object [("additionalProperties", .bool false),
    ("properties", .object (names.map fun n => (n, field))), ("required", .strings names),
    ("type", .string "object")]

/-- The schema of a string. -/
def stringSchema : Json := .object [("type", .string "string")]

/-- The schema of a list of strings. -/
def stringsSchema : Json := .object [("items", stringSchema), ("type", .string "array")]

/-- The form of a dataset. -/
def dataset : ReplyFormat :=
  json "dataset" (recordSchema ["schema_tables", "insert_commands"] stringsSchema)

/-- The form of an exercise. -/
def exercise : ReplyFormat := json "exercise" (recordSchema ["request", "solution"] stringSchema)

end ReplyFormat

end QueryDrill
