import QueryDrill.Constraint.Report
import QueryDrill.Generation.Prompt
import QueryDrill.Generation.Script
/-!
The repair loop: a draft is asked for, checked, and sent back with what is wrong with it, until one is
accepted or no attempt is left.
-/

namespace QueryDrill

open Sql

/-! ## 1. Settings and outcomes -/

/-- What all generators go by. -/
structure Settings where
  /-- How often a draft of one artifact may be asked for. -/
  maxAttempts : Nat
  dialect : Dialect
  language : Language
  /-- Whether requests are put into other words after they are accepted. -/
  refineRequests : Bool
  deriving DecidableEq, Repr, Inhabited

/-- Where an artifact is on its way. -/
inductive Stage where
  | drafting
  | validating
  | repairing
  | accepted
  | exhausted
  deriving DecidableEq, Repr, Inhabited

namespace Stage

/-- All stages. -/
def all : List Stage := [drafting, validating, repairing, accepted, exhausted]

/-- The word a stage is known by. -/
def name : Stage → String
  | drafting => "drafting"
  | validating => "validating"
  | repairing => "repairing"
  | accepted => "accepted"
  | exhausted => "exhausted"

end Stage

/-- What came of a draft. -/
inductive Outcome (α : Type) where
  /-- The draft does not read. -/
  | unreadable (message : String)
  /-- The draft reads but violates constraints. -/
  | invalid (report : Report)
  | accepted (value : α)

/-- An outcome that accepts a value unless a report finds violations. -/
def Outcome.ofReport {α : Type} (report : Report) (value : α) : Outcome α :=
  if report.isValid then .accepted value else .invalid report

/-- Goes on with a value that was read; a failure becomes an outcome. -/
def Outcome.ofRead {α β : Type} (read : Except Failure α) (next : α → Outcome β) : Outcome β :=
  match read with
  | .ok a => next a
  | .error f => .unreadable f.message

/-! ## 2. The loop -/

/-- The conversation after a reply was refused. -/
def afterRefusal (conversation : List Message) (reply feedback : String) : List Message :=
  conversation ++ [⟨.assistant, reply⟩, ⟨.user, feedback⟩]

/-- Asks for drafts as long as attempts are left. `reasons` tells what was wrong with the last draft. -/
def attempts {α : Type} (artifact : String) (s : Settings) (check : String → Outcome α) :
    Nat → List Message → List String → Run α
  | 0, _, reasons => throw (.generation artifact s.maxAttempts reasons)
  | left + 1, conversation, _ => do
    let reply ← ask conversation
    match check reply with
    | .accepted value => return value
    | .unreadable message =>
      attempts artifact s check left
        (afterRefusal conversation reply (Prompt.unreadable s.language message)) [message]
    | .invalid report =>
      attempts artifact s check left (afterRefusal conversation reply (report.feedback s.language))
        report.failures

/-- Asks for drafts of an artifact until one is accepted. -/
def generate {α : Type} (artifact : String) (s : Settings) (opening : List Message)
    (check : String → Outcome α) : Run α :=
  attempts artifact s check s.maxAttempts opening []

/-! ## 3. Replies -/

/-- Reads a reply in the requested format. -/
def readReply {α : Type} (reader : JsonReader α) (reply : String) : Except String α :=
  let text := Text.stripFence reply
  match JsonReader.readAll reader text with
  | .ok a => .ok a
  | .error fault =>
    .error ("the reply is not valid JSON for the requested format: " ++ fault.message text)

end QueryDrill
