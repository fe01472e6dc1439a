import ApiContract.Exchange.Stage
import ApiContract.Proofs.Value.Json

/-!
# Who is let through

This module says in plain terms when a policy permits a caller, when a request presents
a credential and whom a table of identities knows, and that the stage which identifies
callers decides by nothing else.
-/

namespace ApiContract

namespace AuthPolicy

/-- The policy lets a caller with these roles and permissions pass. -/
structure Permits (policy : AuthPolicy) (roles permissions : List String) : Prop where
  roleAllowed : policy.allowedRoles = [] ∨ ∃ role ∈ roles, role ∈ policy.allowedRoles
  noRoleForbidden : ∀ role ∈ roles, role ∉ policy.forbiddenRoles
  permissionAllowed : policy.allowedPermissions = [] ∨
    ∃ permission ∈ permissions, permission ∈ policy.allowedPermissions
  noPermissionForbidden : ∀ permission ∈ permissions, permission ∉ policy.forbiddenPermissions

variable {policy : AuthPolicy} {roles permissions : List String}

/-- The test of an allow-list fails when the list has entries and none of them is held. -/
theorem not_allowed_iff {allowed held : List String} :
    (¬ allowed.isEmpty ∧ ¬ held.any allowed.contains) ↔
      ¬(allowed = [] ∨ ∃ entry ∈ held, entry ∈ allowed) := by
  simp

theorem find?_forbidden_eq_none_iff {forbidden held : List String} :
    held.find? forbidden.contains = none ↔ ∀ entry ∈ held, entry ∉ forbidden := by
  simp

/-- Whoever is permitted passes, and everyone else is told that access is denied. -/
theorem allow_cases (policy : AuthPolicy) (roles permissions : List String) :
    policy.Permits roles permissions ∧ policy.allow roles permissions = .ok () ∨
      ¬policy.Permits roles permissions ∧
        ∃ reason, policy.allow roles permissions = .error (.forbidden reason) := by
  rw [allow]
  split
  · next roleMissing =>
      right
      refine ⟨?_, _, rfl⟩
      intro permits
      exact not_allowed_iff.mp roleMissing permits.roleAllowed
  · next roleHeld =>
      split
      · next role found =>
          right
          refine ⟨?_, _, rfl⟩
          intro permits
          rw [find?_forbidden_eq_none_iff.mpr permits.noRoleForbidden] at found
          cases found
      · next noRole =>
          split
          · next permissionMissing =>
              right
              refine ⟨?_, _, rfl⟩
              intro permits
              exact not_allowed_iff.mp permissionMissing permits.permissionAllowed
          · next permissionHeld =>
              split
              · next permission found =>
                  right
                  refine ⟨?_, _, rfl⟩
                  intro permits
                  rw [find?_forbidden_eq_none_iff.mpr permits.noPermissionForbidden] at found
                  cases found
              · next noPermission =>
                  left
                  rw [not_allowed_iff, not_not] at roleHeld permissionHeld
                  exact ⟨⟨roleHeld, find?_forbidden_eq_none_iff.mp noRole, permissionHeld,
                    find?_forbidden_eq_none_iff.mp noPermission⟩, rfl⟩

/-- What follows the expected characters, which may differ from them in letter case. -/
theorem dropIgnoringCase_eq_some_iff {expected chars rest : List Char} :
    dropIgnoringCase expected chars = some rest ↔
      ∃ start, chars = start ++ rest ∧
        start.map Text.asciiLower = expected.map Text.asciiLower := by
  induction expected generalizing chars with
  | nil => simp [dropIgnoringCase, eq_comm]
  | cons char more ih =>
      constructor
      · intro found
        cases chars with
        | nil => simp [dropIgnoringCase] at found
        | cons first others =>
            rw [dropIgnoringCase] at found
            split at found
            · next same =>
                rcases ih.mp found with ⟨start, rfl, startSame⟩
                exact ⟨first :: start, rfl, by rw [List.map_cons, List.map_cons, same, startSame]⟩
            · cases found
      · rintro ⟨start, rfl, same⟩
        cases start with
        | nil => simp at same
        | cons first start =>
            rw [List.map_cons, List.map_cons, List.cons.injEq] at same
            rw [List.cons_append, dropIgnoringCase, if_pos same.1.symm]
            exact ih.mpr ⟨start, rfl, same.2⟩

/-- The request carries a credential for the policy: a header that is not blank and in
which the credential follows the scheme, whose letters may be of either case. -/
def Presents (policy : AuthPolicy) (request : Request) (credential : String) : Prop :=
  ∃ header, request.header? "authorization" = some header ∧ ¬Text.isBlankText header ∧
    ∃ start, header.toList = start ++ credential.toList ∧
      start.map Text.asciiLower = policy.method.scheme.toList.map Text.asciiLower

end AuthPolicy

namespace Identities

/-- The table has an identity under the credential, in the form in which the method keeps
credentials. -/
def Knows (identities : Identities) (method : AuthMethod) (credential : String)
    (identity : Identity) : Prop :=
  ∃ key, credentialKey method credential = .ok key ∧ Entries.get? identities key = some identity

variable {identities : Identities} {method : AuthMethod} {credential : String}

/-- The identity of a caller is what the table lists. -/
theorem exists_authenticate_eq_ok {identity : Identity}
    (knows : identities.Knows method credential identity) :
    ∃ subject, identities.authenticate method credential = .ok subject ∧
      subject.id = identity.subject ∧ subject.roles = identity.roles ∧
      subject.permissions = identity.permissions := by
  rcases knows with ⟨key, isKey, found⟩
  rw [authenticate, isKey]
  dsimp only [bind, Except.bind]
  rw [found]
  exact ⟨_, rfl, rfl, Json.filterMap_asString?_map_string identity.roles,
    Json.filterMap_asString?_map_string identity.permissions⟩

theorem status_of_credentialKey_error {failure : AuthFailure}
    (failed : credentialKey method credential = .error failure) : failure.status = 401 := by
  cases method with
  | basic =>
      rw [credentialKey, decodeBasic] at failed
      split at failed
      · cases failed
        rfl
      · split at failed
        · cases failed
          rfl
        · split at failed <;> cases failed
          rfl
  | bearer => cases failed
  | token word => cases failed

/-- Without an identity the credential is rejected. -/
theorem exists_authenticate_eq_error
    (unknown : ∀ identity, ¬identities.Knows method credential identity) :
    ∃ failure, identities.authenticate method credential = .error failure ∧
      failure.status = 401 := by
  rw [authenticate]
  cases isKey : credentialKey method credential with
  | error failure => exact ⟨failure, rfl, status_of_credentialKey_error isKey⟩
  | ok key =>
      dsimp only [bind, Except.bind]
      cases found : Entries.get? identities key with
      | none => exact ⟨_, rfl, rfl⟩
      | some identity => exact absurd ⟨key, isKey, found⟩ (unknown identity)

end Identities

/-- The request comes from someone whom the table knows by the presented credential. -/
def AuthPolicy.Recognizes (policy : AuthPolicy) (identities : Identities) (request : Request)
    (identity : Identity) : Prop :=
  ∃ credential, policy.Presents request credential ∧
    identities.Knows policy.method credential identity

namespace Stage

variable {policy : AuthPolicy} {identities : Identities} {request : Request}
  {identity : Identity}

/-- Only the credential counts of a request that presents one. -/
theorem identify_of_presents {credential : String}
    (presents : policy.Presents request credential) :
    identify policy identities request =
      (identities.authenticate policy.method credential).bind fun subject =>
        (policy.allow subject.roles subject.permissions).bind fun _ =>
          .ok ⟨subject.id, subject.roles, subject.permissions⟩ := by
  rcases presents with ⟨header, found, notBlank, start, shape, same⟩
  have follows : AuthPolicy.dropIgnoringCase policy.method.scheme.toList header.toList =
      some credential.toList := AuthPolicy.dropIgnoringCase_eq_some_iff.mpr ⟨start, shape, same⟩
  have kept : ((request.header? "authorization").filter
      fun header => !Text.isBlankText header) = some header := by
    simpa [found] using notBlank
  rw [identify, AuthPolicy.verdict, kept]
  dsimp only
  rw [AuthPolicy.credential, follows]
  dsimp only
  rw [String.ofList_toList]
  rfl

/-- Someone known and permitted becomes the principal of the request. -/
theorem identify_of_permits (recognized : policy.Recognizes identities request identity)
    (permits : policy.Permits identity.roles identity.permissions) :
    identify policy identities request =
      .ok ⟨identity.subject, identity.roles, identity.permissions⟩ := by
  rcases recognized with ⟨credential, presents, knows⟩
  rcases Identities.exists_authenticate_eq_ok knows with ⟨subject, known, id, roles, permissions⟩
  rw [identify_of_presents presents, known, Except.bind, id, roles, permissions]
  rcases policy.allow_cases identity.roles identity.permissions with ⟨_, passes⟩ | ⟨denied, _⟩
  · rw [passes]
    rfl
  · exact absurd permits denied

/-- Someone known whom the policy does not permit is turned away as forbidden. -/
theorem exists_identify_eq_forbidden (recognized : policy.Recognizes identities request identity)
    (denied : ¬policy.Permits identity.roles identity.permissions) :
    ∃ reason, identify policy identities request = .error (.forbidden reason) := by
  rcases recognized with ⟨credential, presents, knows⟩
  rcases Identities.exists_authenticate_eq_ok knows with ⟨subject, known, id, roles, permissions⟩
  rw [identify_of_presents presents, known, Except.bind, id, roles, permissions]
  rcases policy.allow_cases identity.roles identity.permissions with
    ⟨permits, _⟩ | ⟨_, reason, refused⟩
  · exact absurd permits denied
  · rw [refused]
    exact ⟨reason, rfl⟩

/-- Whoever is not recognized is turned away as unauthorized. -/
theorem exists_identify_eq_unauthorized
    (unknown : ∀ identity, ¬policy.Recognizes identities request identity) :
    ∃ failure, identify policy identities request = .error failure ∧ failure.status = 401 := by
  by_cases presented : ∃ credential, policy.Presents request credential
  · rcases presented with ⟨credential, presents⟩
    have notListed : ∀ identity, ¬identities.Knows policy.method credential identity := by
      intro identity knows
      exact unknown identity ⟨credential, presents, knows⟩
    rcases Identities.exists_authenticate_eq_error notListed with ⟨failure, rejected, status⟩
    rw [identify_of_presents presents, rejected]
    exact ⟨failure, rfl, status⟩
  · rw [identify, AuthPolicy.verdict]
    split
    · exact ⟨_, rfl, rfl⟩
    · next header found =>
        rw [Option.filter_eq_some_iff] at found
        rw [AuthPolicy.credential]
        cases follows :
            AuthPolicy.dropIgnoringCase policy.method.scheme.toList header.toList with
        | none => exact ⟨_, rfl, rfl⟩
        | some rest =>
            rcases AuthPolicy.dropIgnoringCase_eq_some_iff.mp follows with ⟨start, shape, same⟩
            have notBlank : ¬Text.isBlankText header := by simpa using found.2
            have split : header.toList = start ++ (String.ofList rest).toList := by
              rw [String.toList_ofList, shape]
            exact absurd ⟨String.ofList rest, header, found.1, notBlank, start, split, same⟩
              presented

end Stage

end ApiContract
