/-!
# Problems

The four kinds of trouble that are not an answer of the downstream service, each with a detail text.
-/

namespace Courier

inductive Problem where
  | malformedPayload (detail : String)
  | invalidPolicy (detail : String)
  | settings (detail : String)
  | internal (detail : String)
  deriving DecidableEq

def Problem.message : Problem → String
  | .malformedPayload detail => "malformed payload: " ++ detail
  | .invalidPolicy detail => "invalid retry policy: " ++ detail
  | .settings detail => "invalid configuration: " ++ detail
  | .internal detail => detail

end Courier
