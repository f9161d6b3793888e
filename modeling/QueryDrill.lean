import QueryDrill.CommandLine.Program
import QueryDrill.Config.Provider
import QueryDrill.Constraint.Json
import QueryDrill.Constraint.Query
import QueryDrill.Constraint.Report
import QueryDrill.Constraint.Schema
import QueryDrill.Constraint.Set
import QueryDrill.Difficulty
import QueryDrill.Digest.Content
import QueryDrill.Generation.Assignment
import QueryDrill.Generation.Completion
import QueryDrill.Json.Print
import QueryDrill.Json.Read
import QueryDrill.Main
import QueryDrill.Misconception.Builtin
import QueryDrill.Toml.Document
import QueryDrill.Proofs.Sql.Walks
import QueryDrill.Proofs.Sql.Replacement
import QueryDrill.Proofs.Outline.Blocks
import QueryDrill.Proofs.Outline.Inner
import QueryDrill.Proofs.Outline.Parentheses
import QueryDrill.Proofs.Outline.Selects
import QueryDrill.Proofs.Outline.Sorting
import QueryDrill.Proofs.Outline.Scope
import QueryDrill.Proofs.Outline.Nesting
import QueryDrill.Proofs.Outline.Atoms
import QueryDrill.Proofs.Outline.Wrapping
import QueryDrill.Proofs.Schema.Contents
import QueryDrill.Proofs.Constraint.Blindness
import QueryDrill.Proofs.Constraint.Uniqueness
import QueryDrill.Proofs.Constraint.Parentheses
import QueryDrill.Proofs.Constraint.Merging
import QueryDrill.Proofs.Constraint.Distinct
import QueryDrill.Proofs.Constraint.SetOperations
import QueryDrill.Proofs.Constraint.Wording
import QueryDrill.Proofs.Constraint.Recasing
import QueryDrill.Proofs.Generation.Artifact
import QueryDrill.Proofs.Generation.Repair
import QueryDrill.Proofs.Generation.Acceptance
import QueryDrill.Proofs.Generation.Assignment
import QueryDrill.Proofs.Generation.Cache
import QueryDrill.Proofs.Generation.Script
import QueryDrill.Proofs.CommandLine.Checking
import QueryDrill.Proofs.Constraint.KeySelection
import QueryDrill.Proofs.Constraint.Qualifiers
import QueryDrill.Proofs.Generation.Solution
import QueryDrill.Proofs.Misconception.Records
import QueryDrill.Proofs.Schema.Texts
import QueryDrill.Proofs.Schema.Insertions
import QueryDrill.Proofs.Sql.SetNodes
import QueryDrill.Proofs.Sql.Quantifiers
import QueryDrill.Proofs.Outline.Operations
import QueryDrill.Proofs.Constraint.Balance
import QueryDrill.Proofs.Schema.Keys
import QueryDrill.Proofs.Schema.SharedNames
import QueryDrill.Proofs.Constraint.ForeignKeys
import QueryDrill.Proofs.Outline.Joins
import QueryDrill.Proofs.Constraint.Staging
import QueryDrill.Proofs.Config.Layering
import QueryDrill.Proofs.Misconception.Registration
import QueryDrill.Proofs.Generation.Fencing
import QueryDrill.Proofs.Digest.Framing
import QueryDrill.Proofs.Generation.Terminators
import QueryDrill.Proofs.Constraint.Requirements
import QueryDrill.Proofs.Generation.Feedback
