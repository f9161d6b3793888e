import QueryDrill.Config.Layer
/-!
Providers: who can be asked for drafts.
-/

namespace QueryDrill

/-- Someone who can be asked. -/
inductive Provider where
  /-- Answers from a script. -/
  | mock
  /-- A chat completion service, with the key for it. -/
  | openai (apiKey : String)
  deriving DecidableEq, Repr, Inhabited

namespace Provider

/-- The name of a provider. -/
def name : Provider → String
  | mock => "mock"
  | openai _ => "openai"

/-- Whether a provider has what it needs: a service needs a key. -/
def isReady : Provider → Bool
  | mock => true
  | openai key => !key.isEmpty

/-- The word for whether a provider is ready. -/
def status (p : Provider) : String := if p.isReady then "Available" else "NoApiKey"

/-- The provider with a name, as a configuration describes it. -/
def create (name : String) (c : Config) : Except Failure Provider :=
  if !c.isEnabled name then
    .error (.config ("Provider '" ++ name ++ "' is disabled in the configuration"))
  else if name = "mock" then .ok mock
  else if name = "openai" then
    match c.apiKey name with
    | some key => .ok (openai key)
    | none =>
      .error (.oracle ("OpenAI API key not configured. Set SQLGEN_OPENAI_API_KEY or add to "
        ++ ".sqlgen/config.toml"))
  else
    .error (.config ("Unknown provider '" ++ name ++ "'. Available: "
      ++ ", ".intercalate Config.availableProviders))

end Provider

end QueryDrill
