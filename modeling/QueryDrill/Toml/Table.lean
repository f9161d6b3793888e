import QueryDrill.Json.Basic
/-!
The tables of a TOML text while they are built.

A table remembers how it came about: a header or braces close it against later additions by dotted keys,
and a table that is merely on the way to another one may still get a header of its own.
-/

namespace QueryDrill.Toml

mutual

/-- What a key stands for. -/
inductive Node where
  | value (v : Json)
  | table (t : Table)
  /-- The tables of an array, the latest first. -/
  | tables (ts : List Table)

/-- A table. -/
inductive Table where
  /-- `implicit` is false once a header or braces define the table; `dotted` is true if a dotted key
  does. -/
  | mk (implicit dotted : Bool) (entries : List (String × Node))

end

namespace Table

/-- Whether no header defines a table. -/
def isImplicit : Table → Bool
  | mk implicit _ _ => implicit

/-- Whether a dotted key defines a table. -/
def isDotted : Table → Bool
  | mk _ dotted _ => dotted

/-- The entries of a table. -/
def entries : Table → List (String × Node)
  | mk _ _ es => es

/-- A table that a header or braces define, without entries. -/
def empty : Table := mk false false []

instance : Inhabited Table := ⟨empty⟩

/-- The table after a header has defined it. -/
def defined : Table → Table
  | mk _ _ es => mk false false es

/-- The node of a key. -/
def get? (key : String) (t : Table) : Option Node := t.entries.lookup key

/-- The table after a node is put under a key. -/
def put (key : String) (n : Node) : Table → Table
  | mk implicit dotted es =>
    mk implicit dotted
      (if es.any (·.1 == key) then es.map fun e => if e.1 == key then (key, n) else e
      else es ++ [(key, n)])

/-- Changes the table at the end of a path. Tables on the way are made if they are missing; `dotted` tells
whether the path is that of a dotted key, which does not lead into defined tables. -/
def changeAt (dotted : Bool) (change : Table → Option Table) : List String → Table → Option Table
  | [], t => change t
  | key :: path, t =>
    match t.get? key with
    | none => do return t.put key (.table (← changeAt dotted change path (mk true dotted [])))
    | some (.table u) =>
      if dotted && !u.isImplicit then none
      else do return t.put key (.table (← changeAt dotted change path u))
    | some (.tables (u :: us)) => do return t.put key (.tables ((← changeAt dotted change path u) :: us))
    | some _ => none

/-- Adds a value under a dotted key. -/
def addValue (path : List String) (key : String) (v : Json) : Table → Option Table :=
  changeAt true
    (fun t =>
      if t.isDotted == path.isEmpty then none
      else if (t.get? key).isSome then none
      else some (t.put key (.value v)))
    path

/-- Adds values under dotted keys, each given by its path and its last part. -/
def addValues (t : Table) (vs : List (List String × String × Json)) : Option Table :=
  vs.foldlM (fun t (path, key, v) => t.addValue path key v) t

/-- Adds the table of a header with its values. -/
def addTable (path : List String) (key : String) (vs : List (List String × String × Json)) :
    Table → Option Table :=
  changeAt false
    (fun t =>
      match t.get? key with
      | none => do return t.put key (.table (← empty.addValues vs))
      | some (.table u) =>
        if u.isImplicit && !u.isDotted then do return t.put key (.table (← u.defined.addValues vs))
        else none
      | some _ => none)
    path

/-- Adds a table with its values to the array of a header in double brackets. -/
def addArrayTable (path : List String) (key : String) (vs : List (List String × String × Json)) :
    Table → Option Table :=
  changeAt false
    (fun t =>
      match t.get? key with
      | none => do return t.put key (.tables [← empty.addValues vs])
      | some (.tables us) => do return t.put key (.tables ((← empty.addValues vs) :: us))
      | some _ => none)
    path

end Table

mutual

/-- The value that a node stands for. -/
def Node.toJson : Node → Json
  | .value v => v
  | .table t => t.toJson
  | .tables ts => .array (tablesJson ts).reverse

/-- The object that a table stands for. -/
def Table.toJson : Table → Json
  | .mk _ _ es => .object (entriesJson es)

/-- The objects that tables stand for. -/
def tablesJson : List Table → List Json
  | [] => []
  | t :: ts => t.toJson :: tablesJson ts

/-- The fields that entries stand for. -/
def entriesJson : List (String × Node) → List (String × Json)
  | [] => []
  | (key, n) :: es => (key, n.toJson) :: entriesJson es

end

end QueryDrill.Toml
