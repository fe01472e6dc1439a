import ApiContract.Datum.Typed

/-!
# Cross-origin policy

Which pages of other origins may read the answers of an endpoint.  A star allows
every origin; where credentials are allowed too, the origin itself is named instead
of the star.
-/

namespace ApiContract

/-- A cross-origin policy. -/
structure CorsPolicy where
  allowedOrigins : List String := ["*"]
  allowedMethods : List String := ["GET", "POST", "PUT", "PATCH", "DELETE", "OPTIONS"]
  allowedHeaders : List String := ["*"]
  exposedHeaders : List String := ["x-correlation-id"]
  allowCredentials : Bool := false
  maxAgeSeconds : Option Nat := some 600
  deriving DecidableEq

namespace CorsPolicy

/-- The policy lists a star among the origins. -/
def allowsAnyOrigin (policy : CorsPolicy) : Bool :=
  policy.allowedOrigins.contains "*"

/-- The origin that an answer names as allowed, if any. -/
def allowOrigin (policy : CorsPolicy) (origin : Option String) : Option String :=
  let wildcard := if policy.allowsAnyOrigin then some "*" else none
  match origin with
  | none => wildcard
  | some origin =>
      if policy.allowsAnyOrigin ∧ policy.allowCredentials then some origin
      else if policy.allowedOrigins.contains origin then some origin
      else wildcard

/-- The allowed methods as one header. -/
def methodsText (policy : CorsPolicy) : String :=
  ", ".intercalate policy.allowedMethods

/-- The allowed headers as one header. A star allows what is asked for. -/
def headersText (policy : CorsPolicy) (requested : Option String) : String :=
  match requested with
  | some requested =>
      if policy.allowedHeaders.contains "*" then requested
      else ", ".intercalate policy.allowedHeaders
  | none => ", ".intercalate policy.allowedHeaders

/-- The fields of a policy. What is left out has its default. -/
def shape : Typed.Shape CorsPolicy where
  name := "CorsPolicy"
  start := {}
  fields :=
    let strings := Typed.list Typed.string
    [{ name := "allowed_origins"
       assign := fun datum policy => do
        pure { policy with allowedOrigins := ← strings datum } },
      { name := "allowed_methods"
        assign := fun datum policy => do
          pure { policy with allowedMethods := ← strings datum } },
      { name := "allowed_headers"
        assign := fun datum policy => do
          pure { policy with allowedHeaders := ← strings datum } },
      { name := "exposed_headers"
        assign := fun datum policy => do
          pure { policy with exposedHeaders := ← strings datum } },
      { name := "allow_credentials"
        assign := fun datum policy => do
          pure { policy with allowCredentials := ← Typed.bool datum } },
      { name := "max_age_secs"
        assign := fun datum policy => do
          let seconds ← Typed.optional (Typed.below (twoTo 64) "u64") datum
          pure { policy with maxAgeSeconds := seconds } }]

/-- Reads a policy from JSON. -/
def ofJson (json : Json) : Except TypeFault CorsPolicy :=
  (Typed.record shape false (.ofJson json)).mapError Misfit.cause

/-- The policy as a datum, its fields in order. -/
def toDatum (policy : CorsPolicy) : Datum :=
  .map [("allowed_origins", .ofStrings policy.allowedOrigins),
    ("allowed_methods", .ofStrings policy.allowedMethods),
    ("allowed_headers", .ofStrings policy.allowedHeaders),
    ("exposed_headers", .ofStrings policy.exposedHeaders),
    ("allow_credentials", .bool policy.allowCredentials),
    ("max_age_secs", .ofOption .ofNat policy.maxAgeSeconds)]

/-- The policy as JSON. -/
def toJson (policy : CorsPolicy) : Json :=
  policy.toDatum.toJson

end CorsPolicy

end ApiContract
