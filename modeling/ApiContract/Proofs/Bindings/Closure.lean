import ApiContract.Proofs.Bindings.Account

/-!
# Closed bindings

The bindings of a contract declare all that they refer to, each name once, also where the names
that parts and properties ask for coincide.  They have a record for every object of the contract,
with a field for every property that keeps its key on the wire, and a choice for every enumeration
of texts, with a variant for every text.
-/

namespace ApiContract.Bindings

variable {hint owner : String} {draft : Draft}

/-! ## The walk that makes declarations, node by node -/

theorem typeOf_optional {inner : Schema} :
    typeOf hint (.optional inner) draft =
      let type := typeOf hint inner draft
      (.optional type.1, type.2) :=
  rfl

theorem typeOf_object {properties : List (String × Schema)} {strict : Bool} :
    typeOf hint (.object properties strict) draft =
      let claimed := draft.claim hint
      let fields := fieldsOf claimed.1 properties claimed.2
      (.declared claimed.1, fields.2.declare (.record claimed.1 strict fields.1)) :=
  rfl

theorem typeOf_union {schemas : List Schema} :
    typeOf hint (.union schemas) draft =
      let claimed := draft.claim hint
      let members := membersOf claimed.1 0 schemas claimed.2
      (.declared claimed.1, members.2.declare (.alternatives claimed.1 members.1)) :=
  rfl

theorem typeOf_enumeration {values : List Literal} :
    typeOf hint (.enumeration values) draft = choiceType hint values draft :=
  rfl

theorem choiceType_of_texts {values : List Literal} {texts : List String}
    (areTexts : allTexts? values = some texts) :
    choiceType hint values draft =
      let claimed := draft.claim hint
      (.declared claimed.1, claimed.2.declare (.choice claimed.1 (variantsOf [] texts))) := by
  rw [choiceType, areTexts]

theorem choiceType_of_mixed {values : List Literal} (areMixed : allTexts? values = none) :
    choiceType hint values draft = (.json, draft) := by
  rw [choiceType, areMixed]

theorem fieldsOf_cons {property : String × Schema} {rest : List (String × Schema)} :
    fieldsOf owner (property :: rest) draft =
      let type := typeOf (owner ++ Text.camelCase property.1) property.2 draft
      let fields := fieldsOf owner rest type.2
      (fieldOf property.1 property.2 type.1 :: fields.1, fields.2) :=
  rfl

theorem membersOf_cons {index : Nat} {schema : Schema} {rest : List Schema} :
    membersOf owner index (schema :: rest) draft =
      let variant := "Variant" ++ Text.decimalText index
      let type := typeOf (owner ++ variant) schema draft
      let members := membersOf owner (index + 1) rest type.2
      ((variant, type.1) :: members.1, members.2) :=
  rfl

theorem exists_typeOf_eq_optional {schema : Schema} (optional : schema.isOptional) :
    ∃ inner, (typeOf hint schema draft).1 = .optional inner := by
  cases schema with
  | optional inner => exact ⟨_, congrArg Prod.fst typeOf_optional⟩
  | _ => cases optional

/-! ## Every type is accounted for -/

/-- Under every hint, the type of the schema is accounted for by declarations of its shapes. -/
def Accounted (schema : Schema) : Prop :=
  ∀ (hint : String) (draft : Draft),
    draft.Accounts (typeOf hint schema draft).2 (schema.shapes.map .shape) fun account =>
      StandsFor account schema (typeOf hint schema draft).1

theorem fieldOf_carries {account : Account} {property : String × Schema}
    (stands : StandsFor account property.2 (typeOf hint property.2 draft).1) :
    (fieldOf property.1 property.2 (typeOf hint property.2 draft).1).Carries account property where
  name := by rw [fieldOf]
  wireName := by
    simp only [fieldOf, Field.wireName]
    split
    · next same => exact same
    · rfl
  type := stands
  leftOut_iff := ⟨And.left, fun optional => ⟨optional, exists_typeOf_eq_optional optional⟩⟩

theorem accounts_fieldsOf {properties : List (String × Schema)}
    (each : ∀ property ∈ properties, Accounted property.2) (owner : String) (draft : Draft) :
    draft.Accounts (fieldsOf owner properties draft).2
      ((Schema.shapesOfFields properties).map .shape) fun account =>
        List.Forall₂ (Field.Carries account) properties (fieldsOf owner properties draft).1 := by
  induction properties generalizing draft with
  | nil => exact .refl draft fun _ => .nil
  | cons property rest ih =>
      rcases List.forall_mem_cons.mp each with ⟨first, others⟩
      rw [Schema.shapesOfFields, List.map_append, fieldsOf_cons]
      refine ((first _ draft).and (ih others _)).imp ?_
      rintro account ⟨stands, carries⟩
      exact .cons (fieldOf_carries stands) carries

theorem accounts_membersOf {schemas : List Schema} (each : ∀ schema ∈ schemas, Accounted schema)
    (owner : String) (index : Nat) (draft : Draft) :
    draft.Accounts (membersOf owner index schemas draft).2
      ((Schema.shapesOfEach schemas).map .shape) fun account =>
        List.Forall₂ (fun schema member => StandsFor account schema member.2) schemas
          (membersOf owner index schemas draft).1 := by
  induction schemas generalizing draft index with
  | nil => exact .refl draft fun _ => .nil
  | cons schema rest ih =>
      rcases List.forall_mem_cons.mp each with ⟨first, others⟩
      rw [Schema.shapesOfEach, List.map_append, membersOf_cons]
      refine ((first _ draft).and (ih others _ _)).imp ?_
      rintro account ⟨stands, members⟩
      exact .cons stands members

theorem fst_membersOf (owner : String) (index : Nat) (schemas : List Schema) (draft : Draft) :
    (membersOf owner index schemas draft).1.map Prod.fst =
      (List.range' index schemas.length).map fun number =>
        "Variant" ++ Text.decimalText number := by
  induction schemas generalizing index draft with
  | nil => rfl
  | cons schema rest ih =>
      rw [membersOf_cons, List.length_cons, List.range'_succ, List.map_cons, List.map_cons, ih]

theorem numbered_membersOf (owner : String) (schemas : List Schema) (draft : Draft) :
    (membersOf owner 0 schemas draft).1.map Prod.fst =
      (List.range schemas.length).map fun number => "Variant" ++ Text.decimalText number := by
  rw [fst_membersOf, List.range_eq_range']

/-- A choice is declared for values that are all texts. -/
theorem accounted_enumeration (values : List Literal) : Accounted (.enumeration values) := by
  intro hint draft
  rw [Schema.shapes, typeOf_enumeration]
  cases areTexts : allTexts? values with
  | none =>
      rw [choiceType_of_mixed areTexts]
      exact .refl draft fun _ => .mixed areTexts
  | some texts =>
      obtain rfl := map_string_of_allTexts? areTexts
      rw [choiceType_of_texts areTexts]
      refine (Draft.Accounts.enclosed (.refl _ fun _ => trivial) rfl ?_).imp fun _ => .declared
      intro account _
      exact .choice rfl (wireNames_variantsOf [] texts) (nodup_names_variantsOf [] texts).1

theorem accounted (schema : Schema) : Accounted schema := by
  induction schema with
  | any => exact fun _ draft => .refl draft fun _ => .any
  | unknown => exact fun _ draft => .refl draft fun _ => .unknown
  | null => exact fun _ draft => .refl draft fun _ => .null
  | string => exact fun _ draft => .refl draft fun _ => .string
  | number => exact fun _ draft => .refl draft fun _ => .number
  | integer => exact fun _ draft => .refl draft fun _ => .integer
  | bigint => exact fun _ draft => .refl draft fun _ => .bigint
  | boolean => exact fun _ draft => .refl draft fun _ => .boolean
  | date => exact fun _ draft => .refl draft fun _ => .date
  | literal value => exact fun _ draft => .refl draft fun _ => .literal value
  | enumeration values => exact accounted_enumeration values
  | array items ih => exact fun hint draft => (ih _ draft).imp fun _ => .array
  | object properties strict ih =>
      intro hint draft
      rw [Schema.shapes, List.map_append, typeOf_object]
      refine (Draft.Accounts.enclosed (accounts_fieldsOf ih _ _) rfl ?_).imp fun _ => .declared
      exact fun account carries => .record carries
  | record values ih => exact fun hint draft => (ih _ draft).imp fun _ => .record
  | union schemas ih =>
      intro hint draft
      rw [Schema.shapes, List.map_append, typeOf_union]
      refine (Draft.Accounts.enclosed (accounts_membersOf ih _ _ _) rfl ?_).imp fun _ => .declared
      exact fun account stand => .alternatives stand (numbered_membersOf _ schemas _)
  | optional inner ih => exact fun hint draft => (ih hint draft).imp fun _ => .optional
  | promise resolved ih => exact fun hint draft => (ih hint draft).imp fun _ => .promise
  | function parameters result =>
      exact fun _ draft => .refl draft fun _ => .function parameters result

/-! ## Whole contracts -/

/-- A part that is no object is named by a synonym. -/
theorem addPart_cases (draft : Draft) (wanted : String) (part : Schema) :
    (∃ properties strict, part = .object properties strict ∧
        draft.addPart wanted part = (typeOf wanted part draft).2) ∨
      (purposesOf part = part.shapes.map .shape ++ [.part part] ∧
        draft.addPart wanted part =
          let claimed := draft.claim wanted
          let type := typeOf claimed.1 part claimed.2
          type.2.declare (.synonym claimed.1 type.1)) := by
  cases part with
  | object properties strict => exact .inl ⟨properties, strict, rfl, rfl⟩
  | _ => exact .inr ⟨rfl, rfl⟩

theorem accounts_addPart (draft : Draft) (wanted : String) (part : Schema) :
    draft.Accounts (draft.addPart wanted part) (purposesOf part) fun _ => True := by
  rcases addPart_cases draft wanted part with ⟨properties, strict, rfl, made⟩ | ⟨purposes, made⟩
  · rw [purposesOf, List.append_nil, made]
    exact (accounted (.object properties strict) wanted draft).imp fun _ _ => trivial
  · rw [purposes, made]
    refine (Draft.Accounts.enclosed (accounted part _ _) rfl ?_).imp fun _ _ => trivial
    exact fun account stands => .synonym stands

theorem accounts_foldl_addPart (parts : List (String × Schema)) (draft : Draft) :
    draft.Accounts (parts.foldl (fun draft part => draft.addPart part.1 part.2) draft)
      (parts.flatMap fun part => purposesOf part.2) fun _ => True := by
  induction parts generalizing draft with
  | nil => exact .refl draft fun _ => trivial
  | cons part rest ih =>
      rw [List.foldl_cons, List.flatMap_cons]
      exact ((accounts_addPart draft part.1 part.2).and (ih _)).imp fun _ _ => trivial

end ApiContract.Bindings

namespace ApiContract.Contract

open Bindings

/-- What the declarations of a contract are made for, part by part. -/
def purposes (contract : Contract) : List Purpose :=
  contract.namedParts.flatMap fun part => purposesOf part.2

/-- The draft that all parts of a contract make. -/
def draft (contract : Contract) : Draft :=
  contract.namedParts.foldl (fun draft part => draft.addPart part.1 part.2) {}

/-- An account of the bindings of a contract. -/
structure AccountedBy (contract : Contract) (account : Account) : Prop where
  declarations : account.map Prod.snd = contract.bindings
  purposes : account.map Prod.fst = contract.purposes
  serves : ∀ entry ∈ account, entry.2.Serves account entry.1
  taken : contract.draft.taken.Perm account.names
  distinct : contract.draft.taken.Nodup

theorem exists_accountedBy (contract : Contract) : ∃ account, contract.AccountedBy account := by
  rcases accounts_foldl_addPart contract.namedParts {} with ⟨account, grows, made, _⟩
  rcases grows.taken with ⟨names, areNames, perm⟩
  refine ⟨account, grows.declarations.symm, made, ?_, ?_, grows.distinct List.nodup_nil⟩
  · exact grows.serves account (List.Subset.refl account)
  · rw [draft, areNames]
    exact perm

theorem AccountedBy.names {contract : Contract} {account : Account}
    (accounted : contract.AccountedBy account) :
    contract.bindings.map Declaration.name = account.names := by
  rw [← accounted.declarations, List.map_map]
  rfl

/-- The declarations have names of their own, refer to each other only, and serve the purposes of
the contract one by one. -/
structure ClosedBy (contract : Contract) (declarations : List Declaration) : Prop where
  /-- The text of the bindings is that of the declarations. -/
  written : declarations.all Declaration.isLegal →
    contract.bindingsText? =
      some (s!"// Bindings for contract `{contract.name}`. Regenerate instead of editing.\n" ++
        spaced (declarations.map Declaration.tokens) ++ "\n")
  distinct : (declarations.map Declaration.name).Nodup
  closed : ∀ declaration ∈ declarations, ∀ name ∈ declaration.references,
    ∃! referred, referred ∈ declarations ∧ referred.name = name
  accounted : ∃ account : Account, account.map Prod.snd = declarations ∧
    account.map Prod.fst = contract.purposes ∧ ∀ entry ∈ account, entry.2.Serves account entry.1

/-- The bindings of every contract are closed, whatever its parts and properties are called. -/
theorem closedBy_bindings (contract : Contract) : contract.ClosedBy contract.bindings := by
  rcases exists_accountedBy contract with ⟨account, accounted⟩
  have names := accounted.names
  have distinct : (contract.bindings.map Declaration.name).Nodup :=
    names ▸ accounted.taken.nodup_iff.mp accounted.distinct
  refine ⟨fun legal => ?_, distinct, ?_, account, accounted.declarations, accounted.purposes,
    accounted.serves⟩
  · rw [bindingsText?, if_pos legal]
  · intro declaration isDeclaration name isReference
    rw [← accounted.declarations] at isDeclaration
    rcases List.mem_map.mp isDeclaration with ⟨entry, isEntry, rfl⟩
    have isName := (accounted.serves entry isEntry).mem_names isReference
    rw [← names, List.mem_map] at isName
    rcases isName with ⟨referred, isReferred, rfl⟩
    refine ⟨referred, ⟨isReferred, rfl⟩, ?_⟩
    rintro other ⟨isOther, same⟩
    exact List.inj_on_of_nodup_map distinct isOther isReferred same

/-- Two properties ask for one name, and the name of a part is taken again by what stands inside. -/
example :
    (bindings { name := "pay",
                query := some (.optional (.object [] false)),
                body := some (.object [("x-y", .object [] false), ("x_y", .object [] false)] true)
              }).map Declaration.name =
      ["PayQuery2", "PayQuery", "PayBodyXY", "PayBodyXY2", "PayBody"] := by
  decide +kernel

end ApiContract.Contract
