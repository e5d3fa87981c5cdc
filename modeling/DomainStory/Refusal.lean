/-!
# Why a request fails

The causes for which an edit or a selection is refused, and their wording.
-/

namespace DomainStory

/-- The cause of a refused request. -/
inductive Refusal where
  /-- A view selector that is neither `all` nor an index, as it was given. -/
  | invalidView (raw : String)
  | unknownActor (key : String)
  | unknownAlgorithm (name : String)
  | missingEndpoint (edge : String)
deriving DecidableEq

def Refusal.message : Refusal → String
  | invalidView raw =>
    "Invalid view selector: " ++ raw ++ " (expected `all` or a domain index)"
  | unknownActor key => "Unknown actor: " ++ key
  | unknownAlgorithm name =>
    "unknown layout algorithm: " ++ name ++ " (expected radial, grid, flow or force)"
  | missingEndpoint edge => "graph contains an edge with a missing endpoint: " ++ edge

end DomainStory
