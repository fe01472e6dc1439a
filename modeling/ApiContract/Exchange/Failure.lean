import ApiContract.Schema.Issue
import ApiContract.Schema.WellFormed

/-!
# Failures

What ends the handling of a request early, the status it is answered with and the
little that the caller is told, and what can go wrong when an endpoint is
registered.
-/

namespace ApiContract

/-- Why a caller is turned away. -/
inductive AuthFailure where
  | missingCredentials
  | schemeMismatch (expected : String)
  | invalidCredentials (reason : String)
  | forbidden (reason : String)
  deriving DecidableEq

namespace AuthFailure

/-- The status that a caller is turned away with. -/
def status : AuthFailure → Nat
  | .forbidden _ => 403
  | _ => 401

/-- The wording of an authorization failure. -/
def message : AuthFailure → String
  | .missingCredentials => "missing authorization header"
  | .schemeMismatch expected => s!"authorization scheme mismatch, expected '{expected}'"
  | .invalidCredentials reason => s!"credentials rejected: {reason}"
  | .forbidden reason => s!"access denied: {reason}"

end AuthFailure

/-- Why a request was not answered as its endpoint meant to. -/
inductive Failure where
  | invalidRequest (issues : List Issue)
  | unauthorized (reason : AuthFailure)
  /-- The endpoint itself failed, with the messages of the causes behind the first. -/
  | handler (message : String) (causes : List String)

namespace Failure

/-- The status that the failure is answered with. -/
def status : Failure → Nat
  | .invalidRequest _ => 400
  | .unauthorized reason => reason.status
  | .handler _ _ => 500

/-- The wording of a failure. -/
def message : Failure → String
  | .invalidRequest issues =>
      s!"request validation failed with {issues.length} issue(s)"
  | .unauthorized reason => reason.message
  | .handler message _ => message

/-- The wording of a failure with everything that caused it. -/
def fullMessage : Failure → String
  | .handler message causes => ": ".intercalate (message :: causes)
  | failure => failure.message

/-- The issues of an invalid request. -/
def issues : Failure → List Issue
  | .invalidRequest issues => issues
  | _ => []

/-- The reason phrase that the caller is told. -/
def reason (status : Nat) : String :=
  match status with
  | 400 => "Bad Request"
  | 401 => "Unauthorized"
  | 403 => "Forbidden"
  | _ => "Internal Server Error"

/-- A reason with the id under which operators find the request. -/
def withCorrelation (reason correlationId : String) : String :=
  s!"{reason} (correlation id: {correlationId})"

/-- All that the caller is told. -/
def publicMessage (failure : Failure) (correlationId : String) : String :=
  withCorrelation (reason failure.status) correlationId

end Failure

/-- The wording of a response that does not fit its contract. -/
def responseFailureMessage (status : Nat) (issues : List Issue) : String :=
  s!"response validation failed for status {status} with {issues.length} issue(s)"

/-- Why an endpoint could not be registered. -/
inductive RegistrationFailure where
  | malformedContract (contract : String) (error : SchemaError)
  | duplicateRoute (method path : String)
  | missingAuthStrategy (contract : String)
  deriving DecidableEq

/-- The wording of a registration failure. -/
def RegistrationFailure.message : RegistrationFailure → String
  | .malformedContract contract _ => s!"failed to compile contract '{contract}'"
  | .duplicateRoute method path => s!"duplicate route {method} {path}"
  | .missingAuthStrategy contract =>
      s!"contract '{contract}' declares auth but the router has no auth strategy"

end ApiContract
