import QueryDrill.Generation.Prompt
import QueryDrill.Generation.Script
/-!
Refinement: the request of an accepted exercise is put into words that do not hint at its solution.
-/

namespace QueryDrill

/-- The conversation that asks for other words. -/
def refinementOpening (request solution : String) (aliases : List String) (l : Language) : List Message :=
  [⟨.user, Prompt.refinement request solution aliases l⟩]

/-- The request after a reply; a blank reply changes nothing. -/
def refinedBy (request reply : String) : String :=
  let refined := Text.stripFence reply
  if refined.isEmpty then request else refined

/-- Asks for other words. -/
def refineRequest (request solution : String) (aliases : List String) (l : Language) : Run String := do
  return refinedBy request (← ask (refinementOpening request solution aliases l))

end QueryDrill
