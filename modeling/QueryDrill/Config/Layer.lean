import QueryDrill.Config.Basic
import QueryDrill.Misconception.Registry
/-!
Layers of a configuration.

A layer sets some fields and leaves the others as they are. The layers are the configuration files, from
the most general to the most special one, and last the variables of the environment.
-/

namespace QueryDrill

open Sql

/-! ## 1. Layers -/

/-- What a layer says of a provider. -/
structure ProviderLayer where
  apiKey : Option String
  apiUrl : Option String
  model : Option String
  enabled : Option Bool
  deriving DecidableEq, Repr, Inhabited

/-- What a layer says to generators. -/
structure GenerationLayer where
  provider : Option String
  maxAttempts : Option Nat
  dialect : Option Dialect
  language : Option Language
  refineRequests : Option Bool
  temperature : Option Binary
  deriving DecidableEq, Repr, Inhabited

/-- A layer. -/
structure ConfigLayer where
  providers : List (String × ProviderLayer)
  generation : GenerationLayer
  deriving Inhabited

/-- A provider after a layer. -/
def ProviderConfig.overlay (p : ProviderConfig) (l : ProviderLayer) : ProviderConfig where
  apiKey := l.apiKey <|> p.apiKey
  apiUrl := l.apiUrl <|> p.apiUrl
  model := l.model <|> p.model
  enabled := l.enabled.getD p.enabled

/-- What generators go by after a layer. -/
def GenerationConfig.overlay (g : GenerationConfig) (l : GenerationLayer) : GenerationConfig where
  provider := l.provider.getD g.provider
  maxAttempts := l.maxAttempts.getD g.maxAttempts
  dialect := l.dialect.getD g.dialect
  language := l.language.getD g.language
  refineRequests := l.refineRequests.getD g.refineRequests
  temperature := l.temperature <|> g.temperature

/-- A configuration after a layer. -/
def Config.overlay (c : Config) (l : ConfigLayer) : Config :=
  let c := l.providers.foldl (fun c (name, p) => c.updateProvider name (·.overlay p)) c
  { c with generation := c.generation.overlay l.generation }

/-! ## 2. Files -/

namespace ConfigLayer

/-- Whether a value has nothing in it. -/
def isEmptyValue : Json → Bool
  | .object [] => true
  | .array [] => true
  | _ => false

/-- A number of 32 bits. -/
def single? : Json → Option Binary
  | .number (.whole n) => some (.ofInt .single n)
  | .number (.real x) => some (x.convert .single)
  | _ => none

/-- What a record says of a provider. -/
def providerOfJson? (v : Json) : Option ProviderLayer := do
  let r ← JsonRecord.ofJson? 4 v
  return {
    apiKey := ← r.optional 0 "api_key" Json.string?
    apiUrl := ← r.optional 1 "api_url" Json.string?
    model := ← r.optional 2 "model" Json.string?
    enabled := ← r.optional 3 "enabled" Json.bool? }

/-- What a record says to generators. -/
def generationOfJson? (v : Json) : Option GenerationLayer := do
  let r ← JsonRecord.ofJson? 6 v
  return {
    provider := ← r.optional 0 "provider" Json.string?
    maxAttempts := ← r.optional 1 "max_attempts" Json.size?
    dialect := ← r.optional 2 "dialect" (Json.among? isEmptyValue Dialect.all Dialect.name)
    language := ← r.optional 3 "language" (Json.among? isEmptyValue Language.all Language.name)
    refineRequests := ← r.optional 4 "refine_requests" Json.bool?
    temperature := ← r.optional 5 "temperature" single? }

/-- What a table says of some providers. -/
def providersOfJson? : Json → Option (List (String × ProviderLayer))
  | .object fields => fields.mapM fun (name, v) => do return (name, ← providerOfJson? v)
  | _ => none

/-- The layer of a value. -/
def ofJson? (v : Json) : Option ConfigLayer := do
  let r ← JsonRecord.ofJson? 2 v
  return {
    providers := ← r.withDefault 0 "providers" [] providersOfJson?
    generation := ← r.withDefault 1 "generation" default generationOfJson? }

/-- The layer of a file. -/
def ofFile (path text : String) : Except Failure ConfigLayer :=
  match (Toml.parse? text).bind ofJson? with
  | some l => .ok l
  | none => .error (.config ("Failed to parse config " ++ path ++ ": " ++ Registry.tomlFault))

end ConfigLayer

/-! ## 3. The environment -/

namespace Config

/-- The providers that can be asked. -/
def availableProviders : List String := ["mock", "openai"]

/-- The variable with the key for a provider. -/
def keyVariable (provider : String) : String := "SQLGEN_" ++ Text.upper provider ++ "_API_KEY"

/-- The variable with the model of the provider that is asked. -/
def modelVariable : String := "SQLGEN_MODEL"

/-- A configuration after the keys of the environment. -/
def withKeys (env : String → Option String) (c : Config) : Config :=
  availableProviders.foldl
    (fun c provider =>
      match env (keyVariable provider) with
      | some key => c.updateProvider provider fun p => { p with apiKey := some key }
      | none => c)
    c

/-- A configuration after the variables of the environment. -/
def withEnvironment (env : String → Option String) (c : Config) : Config :=
  let c := c.withKeys env
  match env modelVariable with
  | some model => c.updateProvider c.generation.provider fun p => { p with model := some model }
  | none => c

/-- The configuration of some files, the most general first, and the environment. -/
def load (files : List (String × String)) (env : String → Option String) : Except Failure Config := do
  let c ← files.foldlM (fun (c : Config) (path, text) => return c.overlay (← ConfigLayer.ofFile path text))
    default
  (c.withEnvironment env).checked

end Config

end QueryDrill
