import QueryDrill.Generation.Repair
import QueryDrill.Keyed
/-!
Configurations: what is known of each provider of drafts, and what generators go by.
-/

namespace QueryDrill

open Sql

/-! ## 1. Parts -/

/-- What is known of a provider. -/
structure ProviderConfig where
  apiKey : Option String
  apiUrl : Option String
  model : Option String
  enabled : Bool
  deriving DecidableEq, Repr

/-- A provider of which nothing is said. -/
def ProviderConfig.default : ProviderConfig := ⟨none, none, none, true⟩

instance : Inhabited ProviderConfig := ⟨.default⟩

/-- What generators go by, and which provider they ask. -/
structure GenerationConfig where
  provider : String
  maxAttempts : Nat
  dialect : Dialect
  language : Language
  refineRequests : Bool
  /-- A number of 32 bits. -/
  temperature : Option Binary
  deriving DecidableEq, Repr

/-- What generators go by if nothing is said. -/
def GenerationConfig.default : GenerationConfig := ⟨"openai", 3, .postgres, .english, true, none⟩

instance : Inhabited GenerationConfig := ⟨.default⟩

/-- The settings of generators. -/
def GenerationConfig.settings (g : GenerationConfig) : Settings :=
  ⟨g.maxAttempts, g.dialect, g.language, g.refineRequests⟩

/-! ## 2. Configurations -/

/-- A configuration. -/
structure Config where
  providers : Keyed ProviderConfig
  generation : GenerationConfig

namespace Config

/-- The configuration if nothing is said. -/
def default : Config := ⟨.empty, .default⟩

instance : Inhabited Config := ⟨default⟩

/-- The key for a provider. -/
def apiKey (c : Config) (provider : String) : Option String :=
  (c.providers.get? provider).bind ProviderConfig.apiKey

/-- The address of a provider. -/
def apiUrl (c : Config) (provider : String) : Option String :=
  (c.providers.get? provider).bind ProviderConfig.apiUrl

/-- The model that a provider should use. -/
def model (c : Config) (provider : String) : Option String :=
  (c.providers.get? provider).bind ProviderConfig.model

/-- Whether a provider may be asked. One of which nothing is said may. -/
def isEnabled (c : Config) (provider : String) : Bool :=
  match c.providers.get? provider with
  | some p => p.enabled
  | none => true

/-- Changes what is known of a provider. -/
def updateProvider (c : Config) (provider : String) (change : ProviderConfig → ProviderConfig) : Config :=
  { c with providers := c.providers.update provider fun p => change (p.getD .default) }

/-- The greatest temperature. -/
def greatestTemperature : Nat := 2

/-- What is wrong with a configuration, if anything is. -/
def fault? (c : Config) : Option String :=
  if c.generation.maxAttempts = 0 then some "generation.max_attempts must be at least 1"
  else
    match c.generation.temperature with
    | some t =>
      if t.isBetweenZeroAnd greatestTemperature then none
      else some ("generation.temperature must be between 0 and 2, got " ++ t.plain .single)
    | none => none

/-- The configuration if nothing is wrong with it. -/
def checked (c : Config) : Except Failure Config :=
  match c.fault? with
  | some message => .error (.config message)
  | none => .ok c

end Config

end QueryDrill
