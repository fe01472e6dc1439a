import ApiContract.Proofs.Bindings.Naming
import ApiContract.Proofs.Schema.Structure

/-!
# What declarations are made for

The declarations of a contract are made one by one while its schemas are walked: a record for every
object, a choice for every enumeration of texts, alternatives for every union, and a synonym for
every part that is no object.  An account of them lists each declaration with what it was made for.
It says what every type in them stands for, since a type that is declared is one of the account.
-/

namespace ApiContract

namespace Schema

mutual

/-- The schemas that get a declaration of their own inside a schema, in the order in which they
get it. -/
def shapes : Schema → List Schema
  | .enumeration values =>
      if (Bindings.allTexts? values).isSome then [.enumeration values] else []
  | .array items => shapes items
  | .object fields strict => shapesOfFields fields ++ [.object fields strict]
  | .record values => shapes values
  | .union members => shapesOfEach members ++ [.union members]
  | .optional inner => shapes inner
  | .promise resolved => shapes resolved
  | _ => []

/-- The shapes of fields. -/
def shapesOfFields : List (String × Schema) → List Schema
  | [] => []
  | (_, schema) :: rest => shapes schema ++ shapesOfFields rest

/-- The shapes of several schemas. -/
def shapesOfEach : List Schema → List Schema
  | [] => []
  | schema :: rest => shapes schema ++ shapesOfEach rest

end

theorem shapes_subset_shapesOfFields {fields : List (String × Schema)} {field : String × Schema}
    (isField : field ∈ fields) : field.2.shapes ⊆ shapesOfFields fields := by
  induction fields with
  | nil => cases isField
  | cons first rest ih =>
      rw [shapesOfFields]
      rcases List.mem_cons.mp isField with rfl | isLater
      · exact List.subset_append_left _ _
      · exact List.subset_append_of_subset_right _ (ih isLater)

theorem shapes_subset_shapesOfEach {schemas : List Schema} {schema : Schema}
    (isMember : schema ∈ schemas) : schema.shapes ⊆ shapesOfEach schemas := by
  induction schemas with
  | nil => cases isMember
  | cons first rest ih =>
      rw [shapesOfEach]
      rcases List.mem_cons.mp isMember with rfl | isLater
      · exact List.subset_append_left _ _
      · exact List.subset_append_of_subset_right _ (ih isLater)

end Schema

namespace Bindings

/-- What a declaration is made for: the shape of a schema, or the name of a part that is no
object. -/
inductive Purpose where
  | shape (schema : Schema)
  | part (schema : Schema)

/-- What the declarations of a part of a contract are made for, in the order in which they are
made. -/
def purposesOf (part : Schema) : List Purpose :=
  part.shapes.map .shape ++
    match part with
    | .object _ _ => []
    | _ => [.part part]

/-- Declarations with what they were made for. -/
abbrev Account := List (Purpose × Declaration)

/-- A type stands for a schema by an account of the declarations. -/
inductive StandsFor (account : Account) : Schema → TypeText → Prop where
  | any : StandsFor account .any .json
  | unknown : StandsFor account .unknown .json
  | null : StandsFor account .null .unit
  | string : StandsFor account .string .text
  | number : StandsFor account .number .float
  | integer : StandsFor account .integer .integer
  | bigint : StandsFor account .bigint .bigInteger
  | boolean : StandsFor account .boolean .boolean
  | date : StandsFor account .date .instant
  | literal (value : Literal) : StandsFor account (.literal value) (literalType value)
  /-- Values that are not all texts have no type of their own. -/
  | mixed {values : List Literal} (areMixed : allTexts? values = none) :
      StandsFor account (.enumeration values) .json
  | array {items : Schema} {item : TypeText} (inner : StandsFor account items item) :
      StandsFor account (.array items) (.list item)
  | record {values : Schema} {value : TypeText} (inner : StandsFor account values value) :
      StandsFor account (.record values) (.table value)
  | optional {schema : Schema} {type : TypeText} (inner : StandsFor account schema type) :
      StandsFor account (.optional schema) (.optional type)
  | promise {schema : Schema} {type : TypeText} (inner : StandsFor account schema type) :
      StandsFor account (.promise schema) type
  | function (parameters : List Schema) (result : Schema) :
      StandsFor account (.function parameters result) .json
  | declared {schema : Schema} {declaration : Declaration}
      (listed : (.shape schema, declaration) ∈ account) :
      StandsFor account schema (.declared declaration.name)

/-- A field carries a property: named after its key, under its key on the wire, with a type that
stands for its schema, and left out when it holds nothing exactly where the property is optional. -/
structure Field.Carries (account : Account) (property : String × Schema) (field : Field) :
    Prop where
  name : field.name = FieldName.ofKey property.1
  wireName : field.wireName = property.1
  type : StandsFor account property.2 field.type
  leftOut_iff :
    (field.skipped = true ∧ ∃ inner, field.type = .optional inner) ↔ property.2.isOptional = true

/-- A declaration says of its purpose what it should. -/
inductive Declaration.Serves (account : Account) : Purpose → Declaration → Prop where
  | record {properties : List (String × Schema)} {strict : Bool} {name : String}
      {fields : List Field} (each : List.Forall₂ (Field.Carries account) properties fields) :
      Serves account (.shape (.object properties strict)) (.record name strict fields)
  | choice {texts : List String} {name : String} {variants : List Variant}
      (made : variants = variantsOf [] texts)
      (wireNames : variants.map Variant.wireName = texts)
      (distinct : (variants.map Variant.name).Nodup) :
      Serves account (.shape (.enumeration (texts.map .string))) (.choice name variants)
  | alternatives {schemas : List Schema} {name : String} {members : List (String × TypeText)}
      (each : List.Forall₂ (fun schema member => StandsFor account schema member.2) schemas
        members)
      (numbered : members.map Prod.fst =
        (List.range schemas.length).map fun index => "Variant" ++ Text.decimalText index) :
      Serves account (.shape (.union schemas)) (.alternatives name members)
  | synonym {schema : Schema} {name : String} {type : TypeText}
      (stands : StandsFor account schema type) :
      Serves account (.part schema) (.synonym name type)

/-! ## Types name declarations -/

section References

variable {account : Account} {schema : Schema} {type : TypeText} {declaration : Declaration}
  {purpose : Purpose} {name : String}

/-- The names of the declarations. -/
def Account.names (account : Account) : List String :=
  account.map fun entry => entry.2.name

theorem StandsFor.mem_names (stands : StandsFor account schema type)
    (isReference : name ∈ type.references) : name ∈ account.names := by
  induction stands with
  | literal value => cases value <;> cases isReference
  | array _ ih | record _ ih | optional _ ih | promise _ ih => exact ih isReference
  | declared listed =>
      rw [List.mem_singleton.mp isReference]
      exact List.mem_map_of_mem listed
  | _ => cases isReference

/-- Whatever a declaration refers to is in the account. -/
theorem Declaration.Serves.mem_names (serves : declaration.Serves account purpose)
    (isReference : name ∈ declaration.references) : name ∈ account.names := by
  cases serves with
  | record each =>
      rcases List.mem_flatMap.mp isReference with ⟨field, isField, inType⟩
      rcases each.exists_left_of_mem isField with ⟨_, _, carries⟩
      exact carries.type.mem_names inType
  | choice made wireNames distinct => cases isReference
  | alternatives each numbered =>
      rcases List.mem_flatMap.mp isReference with ⟨member, isMember, inType⟩
      rcases each.exists_left_of_mem isMember with ⟨_, _, stands⟩
      exact stands.mem_names inType
  | synonym stands => exact stands.mem_names isReference

end References

/-! ## Drafts grow -/

/-- What a draft has become by declarations that are accounted for: they stand at its end, the
names of all of them were taken, and none was taken before. -/
structure Draft.Grows (before after : Draft) (added : Account) : Prop where
  declarations : after.declarations = before.declarations ++ added.map Prod.snd
  taken : ∃ names, after.taken = before.taken ++ names ∧ names.Perm added.names
  distinct : before.taken.Nodup → after.taken.Nodup
  /-- Every declaration serves its purpose by this account, and by all larger ones. -/
  serves : ∀ account, added ⊆ account → ∀ entry ∈ added, entry.2.Serves account entry.1

/-- Some declarations were made for the given purposes in turn, after which something is so by every
account that lists them. -/
def Draft.Accounts (before after : Draft) (purposes : List Purpose) (holds : Account → Prop) :
    Prop :=
  ∃ added, before.Grows after added ∧ added.map Prod.fst = purposes ∧
    ∀ account, added ⊆ account → holds account

namespace Draft

variable {before between after : Draft} {added more : Account} {purposes others : List Purpose}
  {holds follows : Account → Prop}

theorem Grows.refl (draft : Draft) : draft.Grows draft [] where
  declarations := (List.append_nil _).symm
  taken := ⟨[], (List.append_nil _).symm, .refl []⟩
  distinct := id
  serves := fun _ _ _ isEntry => absurd isEntry List.not_mem_nil

theorem Grows.trans (first : before.Grows between added) (second : between.Grows after more) :
    before.Grows after (added ++ more) where
  declarations := by
    rw [second.declarations, first.declarations, List.append_assoc, List.map_append]
  taken := by
    rcases first.taken with ⟨names, areNames, perm⟩
    rcases second.taken with ⟨others, areOthers, permOthers⟩
    refine ⟨names ++ others, ?_, ?_⟩
    · rw [areOthers, areNames, List.append_assoc]
    · simpa only [Account.names, List.map_append] using perm.append permOthers
  distinct := fun distinct => second.distinct (first.distinct distinct)
  serves := by
    intro account listed entry isEntry
    rcases List.append_subset.mp listed with ⟨inFirst, inSecond⟩
    rcases List.mem_append.mp isEntry with isFirst | isSecond
    · exact first.serves account inFirst entry isFirst
    · exact second.serves account inSecond entry isSecond

/-- A name is taken first, then the declarations inside are made, and then the one of the name. -/
theorem Grows.enclosed {draft : Draft} {wanted : String} {purpose : Purpose}
    {declaration : Declaration} (inside : (draft.claim wanted).2.Grows after added)
    (named : declaration.name = (draft.claim wanted).1)
    (serves : ∀ account, added ⊆ account → declaration.Serves account purpose) :
    draft.Grows (after.declare declaration) (added ++ [(purpose, declaration)]) where
  declarations := by
    rw [declare, inside.declarations, List.map_append, ← List.append_assoc]
    rfl
  taken := by
    rcases inside.taken with ⟨names, areNames, perm⟩
    refine ⟨declaration.name :: names, ?_, ?_⟩
    · rw [declare, areNames, named, claim, List.append_assoc]
      rfl
    · rw [Account.names, List.map_append]
      exact (perm.cons declaration.name).trans (List.perm_append_singleton _ _).symm
  distinct := by
    intro distinct
    have fresh : freshName draft.taken wanted ∉ draft.taken := freshName_not_mem _ _
    refine inside.distinct (List.nodup_append'.mpr ⟨distinct, List.nodup_singleton _, ?_⟩)
    rw [List.disjoint_singleton]
    exact fresh
  serves := by
    intro account listed entry isEntry
    have inAdded := (List.append_subset.mp listed).1
    rcases List.mem_append.mp isEntry with isAdded | isNew
    · exact inside.serves account inAdded entry isAdded
    · obtain rfl := List.mem_singleton.mp isNew
      exact serves account inAdded

theorem Accounts.refl (draft : Draft) (always : ∀ account, holds account) :
    draft.Accounts draft [] holds :=
  ⟨[], .refl draft, rfl, fun account _ => always account⟩

theorem Accounts.imp (accounts : before.Accounts after purposes holds)
    (implies : ∀ account, holds account → follows account) :
    before.Accounts after purposes follows := by
  rcases accounts with ⟨added, grows, made, isSo⟩
  exact ⟨added, grows, made, fun account listed => implies account (isSo account listed)⟩

theorem Accounts.taken_subset (accounts : before.Accounts after purposes holds) :
    before.taken ⊆ after.taken := by
  rcases accounts with ⟨added, grows, _⟩
  rcases grows.taken with ⟨names, areNames, _⟩
  rw [areNames]
  exact List.subset_append_left _ _

theorem Accounts.and (first : before.Accounts between purposes holds)
    (second : between.Accounts after others follows) :
    before.Accounts after (purposes ++ others) fun account => holds account ∧ follows account := by
  rcases first with ⟨added, grows, made, isSo⟩
  rcases second with ⟨more, growsOn, madeMore, isSoToo⟩
  refine ⟨added ++ more, grows.trans growsOn, by rw [List.map_append, made, madeMore], ?_⟩
  intro account listed
  rcases List.append_subset.mp listed with ⟨inFirst, inSecond⟩
  exact ⟨isSo account inFirst, isSoToo account inSecond⟩

theorem Accounts.enclosed {draft : Draft} {wanted : String} {purpose : Purpose}
    {declaration : Declaration} (inside : (draft.claim wanted).2.Accounts after purposes holds)
    (named : declaration.name = (draft.claim wanted).1)
    (serves : ∀ account, holds account → declaration.Serves account purpose) :
    draft.Accounts (after.declare declaration) (purposes ++ [purpose]) fun account =>
      (purpose, declaration) ∈ account := by
  rcases inside with ⟨added, grows, made, isSo⟩
  refine ⟨added ++ [(purpose, declaration)], ?_, by rw [List.map_append, made]; rfl, ?_⟩
  · exact grows.enclosed named fun account listed => serves account (isSo account listed)
  · intro account listed
    exact (List.append_subset.mp listed).2 List.mem_cons_self

end Draft

end Bindings
end ApiContract
