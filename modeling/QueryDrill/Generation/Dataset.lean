import QueryDrill.Digest.Content
import QueryDrill.Json.Decode
import QueryDrill.Schema.Catalog
import QueryDrill.Schema.Rows
/-!
Datasets: the statements that make a small database, and the catalog that follows from them.

A dataset keeps the last catalog that it built, with the digest of the statements that it was built from,
so that the same catalog is given as long as the statements stay the same.
-/

namespace QueryDrill

open Sql Text

/-! ## 1. Records -/

/-- A dataset as it is written down. -/
structure DatasetRecord where
  domain : String
  dialect : Dialect
  createCommands : List String
  insertCommands : List String
  deriving DecidableEq, Repr, Inhabited

namespace DatasetRecord

/-- A dataset as JSON. -/
def toJson (r : DatasetRecord) : Json :=
  .object [("domain", .string r.domain), ("dialect", .string r.dialect.name),
    ("create_commands", .strings r.createCommands), ("insert_commands", .strings r.insertCommands)]

/-- The dataset of JSON. -/
def ofJson? (v : Json) : Option DatasetRecord := do
  let r ← JsonRecord.ofJson? 4 v
  return {
    domain := ← r.required 0 "domain" Json.string?
    dialect := ← r.required 1 "dialect" (Json.among? Json.isNull Dialect.all Dialect.name)
    createCommands := ← r.required 2 "create_commands" (Json.list? Json.string?)
    insertCommands := ← r.required 3 "insert_commands" (Json.list? Json.string?) }

end DatasetRecord

/-! ## 2. Datasets -/

/-- A catalog that was built: the digest of its statements, and a number that no other catalog of the
dataset has. -/
structure BuiltCatalog where
  hash : ContentHash
  number : Nat
  catalog : Catalog

/-- A dataset. -/
structure Dataset where
  record : DatasetRecord
  cache : Option BuiltCatalog
  /-- How many catalogs have been built. -/
  built : Nat

namespace Dataset

/-- A dataset of which no catalog has been built. -/
def ofRecord (r : DatasetRecord) : Dataset := ⟨r, none, 0⟩

/-- A dataset with a catalog that was built from its statements. -/
def withCatalog (r : DatasetRecord) (c : Catalog) : Dataset :=
  ⟨r, some ⟨.ofParts r.createCommands, 0, c⟩, 1⟩

/-- Builds the catalog anew and keeps it. -/
def buildCatalog (d : Dataset) (hash : ContentHash) : Except Failure BuiltCatalog × Dataset :=
  match Catalog.ofTexts d.record.dialect d.record.createCommands with
  | .ok c => (.ok ⟨hash, d.built, c⟩, ⟨d.record, some ⟨hash, d.built, c⟩, d.built + 1⟩)
  | .error f => (.error f, d)

/-- The catalog, and the dataset that keeps it. -/
def catalog (d : Dataset) : Except Failure BuiltCatalog × Dataset :=
  let hash := ContentHash.ofParts d.record.createCommands
  match d.cache with
  | some b => if b.hash = hash then (.ok b, d) else d.buildCatalog hash
  | none => d.buildCatalog hash

/-- The dataset with other statements for its tables. -/
def setCreateCommands (d : Dataset) (commands : List String) : Dataset :=
  ⟨{ d.record with createCommands := commands }, none, d.built⟩

/-- How many rows are inserted into each table. -/
def insertedRows (d : Dataset) : Except Failure RowCounts :=
  RowCounts.ofTexts d.record.dialect d.record.insertCommands

/-! ## 3. Scripts -/

/-- A statement without blanks around it and semicolons at its end. -/
def bareStatement (statement : List Char) : List Char :=
  trimEndChars ((trimChars statement).reverse.dropWhile (· == ';')).reverse

/-- The line of a statement in a script; nothing if the statement is empty. -/
def scriptLine (statement : String) : String :=
  let bare := bareStatement statement.toList
  if bare.isEmpty then "" else String.ofList bare ++ ";\n"

/-- The statements of the script that makes a dataset in a schema. -/
def scriptStatements (schemaName : String) (d : Dataset) : List String :=
  ["BEGIN", "DROP SCHEMA IF EXISTS " ++ schemaName ++ " CASCADE", "CREATE SCHEMA " ++ schemaName,
    "SET search_path TO " ++ schemaName]
  ++ d.record.createCommands ++ d.record.insertCommands ++ ["COMMIT"]

/-- The script that makes a dataset in a schema. -/
def toSql (schemaName : String) (d : Dataset) : String :=
  String.join ((d.scriptStatements schemaName).map scriptLine)

end Dataset

end QueryDrill
