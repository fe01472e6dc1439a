import ApiContract.Proofs.Exchange.Disguise
import ApiContract.Proofs.Routing.Service
import ApiContract.Proofs.Routing.Visit

/-!
# Advice about responses

A response that does not fit its contract is reported and yet goes out as it is.  Installed
under every mode of response validation, a contract gives one response and leaves one state;
what is added to the telemetry are the reports of the two recorded parts, graver in one mode
than in the other and missing in the third.
-/

namespace ApiContract

variable {State : Type}

/-! ## Contracts under a mode -/

namespace Router

variable {router : Router} {method path : String} {contract : Contract}
  {userStages : List (Stage State)} {handler : Handler State}

end Router

/-! ## What a check finds -/

/-- What the check of a recorded response finds: that its payload has a status without a
schema, and the issues of the two recorded parts. -/
structure Findings where
  undeclared : Bool
  payload : Option (List Issue)
  headers : Option (List Issue)

/-- The issues of the parts that do not fit, the payload first. -/
def Findings.misfits (found : Findings) : List (List Issue) :=
  found.payload.toList ++ found.headers.toList

/-- How gravely a misfit is reported. -/
def ValidationMode.level : ValidationMode → LogLevel
  | .error => .error
  | .warning | .none => .warn

namespace Contract

end Contract

namespace Route

variable {route : Route State} {mode : ValidationMode}

end Route

/-! ## The attached contract as a guise -/

open Exchange (AlikeUpTo)

variable {here there : Occasion}

namespace Route

variable {route : Route State} {mode : ValidationMode} {verdict : Option Verdict}
  {visit : Visit State}

/-- The exchange of a visit as it is settled, before the response is checked. -/
def settled (route : Route State) (verdict : Option Verdict) (visit : Visit State) :
    Exchange State :=
  route.settle (route.passage (route.checks verdict ++ route.ownStages) visit)

end Route

namespace Router

end Router

end ApiContract
