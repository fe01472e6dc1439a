import ApiContract.Contract.Basic
import ApiContract.Exchange.Failure
import ApiContract.Text.Base64
import ApiContract.Text.Blank
import ApiContract.Text.Utf8

/-!
# Authorization

A table of credentials says who a caller is; the policy of a contract says whether
that caller may go on.  A basic credential is decoded before it is looked up.
-/

namespace ApiContract

/-- Who a credential belongs to. -/
structure Identity where
  subject : String
  roles : List String := []
  permissions : List String := []
  deriving DecidableEq

/-- Identities by credential. -/
abbrev Identities := Entries Identity

/-- A caller that has proved who it is, and what is claimed about it. -/
structure Subject where
  id : String
  claims : Json

namespace Subject

/-- The strings listed under a claim. -/
def claimed (subject : Subject) (claim : String) : List String :=
  (((subject.claims.get? claim) >>= Json.asArray?).getD []).filterMap Json.asString?

/-- The roles of the caller. -/
def roles (subject : Subject) : List String :=
  subject.claimed "roles"

/-- The permissions of the caller. -/
def permissions (subject : Subject) : List String :=
  subject.claimed "permissions"

end Subject

namespace Identities

/-- The text of a basic credential, a name and a password with a colon between. -/
def decodeBasic (credential : String) : Except AuthFailure String :=
  match Text.readBase64 (Text.trim credential.toList) with
  | none => .error (.invalidCredentials "malformed basic credential")
  | some bytes =>
      match Text.ofUtf8? bytes with
      | none => .error (.invalidCredentials "basic credential is not utf-8")
      | some text =>
          if text.toList.contains ':' then .ok text
          else .error (.invalidCredentials "basic credential lacks ':' separator")

/-- The key under which a credential is looked up. -/
def credentialKey (method : AuthMethod) (credential : String) : Except AuthFailure String :=
  match method with
  | .basic => decodeBasic credential
  | .bearer | .token _ => .ok (Text.trimmed credential)

/-- The caller that a credential belongs to. -/
def authenticate (identities : Identities) (method : AuthMethod) (credential : String) :
    Except AuthFailure Subject := do
  let key ← credentialKey method credential
  match Entries.get? identities key with
  | none => .error (.invalidCredentials "unknown credential")
  | some identity =>
      .ok ⟨identity.subject, .object [("permissions", .ofStrings identity.permissions),
        ("roles", .ofStrings identity.roles)]⟩

end Identities

namespace AuthPolicy

/-- Checks roles and permissions against the policy: first the allowed roles, then
the forbidden ones, then likewise the permissions. -/
def allow (policy : AuthPolicy) (roles permissions : List String) : Except AuthFailure Unit :=
  if ¬ policy.allowedRoles.isEmpty ∧ ¬ roles.any policy.allowedRoles.contains then
    .error (.forbidden "no allowed role")
  else
    match roles.find? policy.forbiddenRoles.contains with
    | some role => .error (.forbidden s!"role '{role}' is forbidden")
    | none =>
        if ¬ policy.allowedPermissions.isEmpty ∧
            ¬ permissions.any policy.allowedPermissions.contains then
          .error (.forbidden "no allowed permission")
        else
          match permissions.find? policy.forbiddenPermissions.contains with
          | some permission => .error (.forbidden s!"permission '{permission}' is forbidden")
          | none => .ok ()

/-- What follows a text that stands at the start in any letter case. -/
def dropIgnoringCase : List Char → List Char → Option (List Char)
  | [], chars => some chars
  | _, [] => none
  | expected :: more, char :: rest =>
      if Text.asciiLower expected = Text.asciiLower char then dropIgnoringCase more rest
      else none

/-- The credential of an authorization header, which follows the scheme of the
policy's method. -/
def credential (policy : AuthPolicy) (header : String) : Except AuthFailure String :=
  match dropIgnoringCase policy.method.scheme.toList header.toList with
  | some credential => .ok (String.ofList credential)
  | none => .error (.schemeMismatch (Text.trimmedEnd policy.method.scheme))

end AuthPolicy

end ApiContract
