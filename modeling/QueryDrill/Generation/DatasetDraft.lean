import QueryDrill.Constraint.Schema
import QueryDrill.Generation.Dataset
import QueryDrill.Generation.Repair
/-!
Drafts of datasets, and datasets made from them.
-/

namespace QueryDrill

/-- What is asked of a dataset. -/
structure DatasetRequest where
  domain : String
  extraDetails : List String
  constraints : List SchemaConstraint
  deriving DecidableEq, Inhabited

/-- A dataset in a reply. -/
structure DatasetDraft where
  schemaTables : List String
  insertCommands : List String
  deriving DecidableEq, Repr, Inhabited

namespace DatasetDraft

/-- Reads a draft. -/
def reader : JsonReader DatasetDraft := fun cs => do
  let (fields, rest) ←
    JsonReader.record "struct DatasetReply" ["schema_tables", "insert_commands"] JsonReader.texts cs
  return (⟨fields.getD 0 [], fields.getD 1 []⟩, rest)

/-- The tables with rows that are not in a catalog. -/
def undeclared (catalog : Catalog) (rows : RowCounts) : List String :=
  rows.keys.filter fun name => (catalog.table? name).isNone

/-- Checks a draft against a request. -/
def check (s : Settings) (request : DatasetRequest) (d : DatasetDraft) :
    Outcome (DatasetDraft × Catalog) :=
  if d.schemaTables.isEmpty then .unreadable "`schema_tables` contains no CREATE TABLE statement"
  else
    .ofRead (Catalog.ofTexts s.dialect d.schemaTables) fun catalog =>
      .ofRead (RowCounts.ofTexts s.dialect d.insertCommands) fun rows =>
        if !(undeclared catalog rows).isEmpty then
          .unreadable ("INSERT statements target undeclared tables: "
            ++ ", ".intercalate (undeclared catalog rows))
        else
          .ofReport (.ofOutcomes (request.constraints.map (·.validate catalog rows s.language)))
            (d, catalog)

/-- Checks a reply against a request. -/
def checkReply (s : Settings) (request : DatasetRequest) (reply : String) :
    Outcome (DatasetDraft × Catalog) :=
  match readReply reader reply with
  | .ok d => d.check s request
  | .error message => .unreadable message

end DatasetDraft

namespace Dataset

/-- The conversation that asks for a dataset. -/
def opening (s : Settings) (request : DatasetRequest) : List Message :=
  [⟨.system, Prompt.system s.language s.dialect⟩,
    ⟨.user, Prompt.dataset request.domain request.extraDetails
      (request.constraints.map (SchemaConstraint.description s.language)) s.dialect⟩]

/-- Asks for a dataset until one is accepted. -/
def generate (s : Settings) (request : DatasetRequest) : Run Dataset := do
  let (d, catalog) ←
    QueryDrill.generate "dataset" s (opening s request) (DatasetDraft.checkReply s request)
  return .withCatalog ⟨request.domain, s.dialect, d.schemaTables, d.insertCommands⟩ catalog

end Dataset

end QueryDrill
