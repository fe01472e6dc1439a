import ApiContract.Proofs.Bindings.Closure
import ApiContract.Proofs.Bindings.Identifier

/-!
# Legal bindings

The bindings of a contract are legal Rust as far as names go when its name, the keys of its objects
and the texts of its enumerations are of a certain kind, and only then.  The names of types need no
condition but that they are identifiers.  Fields are not told apart when two keys make one word, and
some reserved words get through.
-/

namespace ApiContract

namespace Bindings

variable {hint owner name wanted : String} {draft : Draft}

/-! ## What is legal -/

theorem isTypeName_variant (index : Nat) : IsTypeName ("Variant" ++ Text.decimalText index) := by
  have word : IsTypeName "Variant" := by
    refine ⟨by decide +kernel, ?_, by decide⟩
    rintro _ ⟨⟩
    decide
  exact word.append (isIdentifierContinue_of_mem_decimalText index)

/-- Everything that a declaration names is named legally, its fields or variants each by a word of
its own. -/
def Declaration.Legal : Declaration → Prop
  | .record name _ fields =>
      IsLegalName name ∧ (∀ field ∈ fields, field.name.IsLegal) ∧
        (fields.map fun field => field.name.word).Nodup
  | .choice name variants =>
      IsLegalName name ∧ (∀ variant ∈ variants, IsLegalName variant.name) ∧
        (variants.map Variant.name).Nodup
  | .alternatives name members =>
      IsLegalName name ∧ (∀ member ∈ members, IsLegalName member.1) ∧ (members.map Prod.fst).Nodup
  | .synonym name _ => IsLegalName name

/-- The keys or the texts that a declaration is made for give it legal names. -/
def Purpose.NamesLegally : Purpose → Prop
  | .shape (.object properties _) =>
      (properties.map fun property => (FieldName.ofKey property.1).word).Nodup ∧
        ∀ property ∈ properties, isIdentifier (FieldName.ofKey property.1).word ∧
          (FieldName.ofKey property.1).word ∉ overlookedWords
  | .shape (.enumeration values) =>
      ∀ text, .string text ∈ values →
        isIdentifier (variantName text) ∧ variantName text ≠ "Self"
  | _ => True

namespace Declaration

variable {declaration : Declaration} {account : Account} {purpose : Purpose}

theorem Legal.isLegalName (legal : declaration.Legal) : IsLegalName declaration.name := by
  cases declaration with
  | record name strict fields => exact legal.1
  | choice name variants => exact legal.1
  | alternatives name members => exact legal.1
  | synonym name type => exact legal

/-- What is named legally can be written. -/
theorem Legal.isLegal (legal : declaration.Legal) : declaration.isLegal := by
  rw [Declaration.isLegal, List.all_eq_true]
  cases declaration with
  | record name strict fields =>
      refine List.forall_mem_cons.mpr ⟨legal.1.identifier, List.forall_mem_map.mpr ?_⟩
      exact fun field isField => (legal.2.1 field isField).identifier
  | choice name variants =>
      refine List.forall_mem_cons.mpr ⟨legal.1.identifier, List.forall_mem_map.mpr ?_⟩
      exact fun variant isVariant => (legal.2.1 variant isVariant).identifier
  | alternatives name members =>
      refine List.forall_mem_cons.mpr ⟨legal.1.identifier, List.forall_mem_map.mpr ?_⟩
      exact fun member isMember => (legal.2.1 member isMember).identifier
  | synonym name type => exact List.forall_mem_singleton.mpr legal.identifier

/-- What is named in a declaration is told apart. -/
theorem Legal.nodup_tail (legal : declaration.Legal) : declaration.identifiers.tail.Nodup := by
  cases declaration with
  | record name strict fields => exact legal.2.2
  | choice name variants => exact legal.2.2
  | alternatives name members => exact legal.2.2
  | synonym name type => exact List.nodup_nil

/-- The names of fields are made of the keys in turn. -/
theorem names_of_carries {properties : List (String × Schema)} {fields : List Field}
    (each : List.Forall₂ (Field.Carries account) properties fields) :
    fields.map Field.name = properties.map fun property => FieldName.ofKey property.1 := by
  induction each with
  | nil => rfl
  | cons carries _ ih => rw [List.map_cons, List.map_cons, carries.name, ih]

theorem fields_legal_iff {properties : List (String × Schema)} {strict : Bool} {fields : List Field}
    (each : List.Forall₂ (Field.Carries account) properties fields) :
    ((∀ field ∈ fields, field.name.IsLegal) ∧ (fields.map fun field => field.name.word).Nodup) ↔
      (Purpose.shape (.object properties strict)).NamesLegally := by
  have names := names_of_carries each
  have words : (fields.map fun field => field.name.word) =
      properties.map fun property => (FieldName.ofKey property.1).word := by
    simpa only [List.map_map, Function.comp_def] using congrArg (List.map FieldName.word) names
  have legal : (∀ field ∈ fields, field.name.IsLegal) ↔
      ∀ property ∈ properties, (FieldName.ofKey property.1).IsLegal := by
    rw [← List.forall_mem_map (f := Field.name) (P := FieldName.IsLegal), names,
      List.forall_mem_map]
  rw [words, legal, and_comm]
  simp only [FieldName.isLegal_ofKey_iff, Purpose.NamesLegally]

theorem Serves.namesLegally (serves : declaration.Serves account purpose)
    (legal : declaration.Legal) : purpose.NamesLegally := by
  cases serves with
  | record each => exact (fields_legal_iff each).mp legal.2
  | choice made _ _ =>
      rw [made] at legal
      have texts := isLegalName_variantsOf_iff.mp legal.2.1
      intro text isText
      rcases List.mem_map.mp isText with ⟨other, isOne, same⟩
      obtain rfl : other = text := Literal.string.inj same
      exact texts other isOne
  | alternatives _ _ => trivial
  | synonym _ => trivial

theorem Serves.legal (serves : declaration.Serves account purpose)
    (named : IsTypeName declaration.name) (legally : purpose.NamesLegally) : declaration.Legal := by
  cases serves with
  | record each => exact ⟨named.isLegalName, (fields_legal_iff each).mpr legally⟩
  | choice made _ distinct =>
      refine ⟨named.isLegalName, ?_, distinct⟩
      rw [made, isLegalName_variantsOf_iff]
      exact fun text isText => legally text (List.mem_map_of_mem isText)
  | alternatives _ numbered =>
      refine ⟨named.isLegalName, ?_, ?_⟩
      · rw [← List.forall_mem_map (f := Prod.fst) (P := IsLegalName), numbered, List.forall_mem_map]
        exact fun index _ => (isTypeName_variant index).isLegalName
      · rw [numbered]
        exact List.nodup_range.map (numbered_injective "Variant")
  | synonym _ => exact named.isLegalName

end Declaration

/-! ## Names of types -/

/-- All names that were taken are like names of types. -/
def Draft.NamesTypes (draft : Draft) : Prop :=
  ∀ name ∈ draft.taken, IsTypeName name

theorem Draft.NamesTypes.claim (names : draft.NamesTypes) (named : IsTypeName wanted) :
    (draft.claim wanted).2.NamesTypes ∧ IsTypeName (draft.claim wanted).1 := by
  have fresh := named.freshName draft.taken
  exact ⟨List.forall_mem_append.mpr ⟨names, List.forall_mem_singleton.mpr fresh⟩, fresh⟩

/-- The keys of an object can stand in names of types. -/
def KeysFit (properties : List (String × Schema)) : Prop :=
  ∀ property ∈ properties, ∀ char ∈ (Text.camelCase property.1).toList, isIdentifierContinue char

/-- The keys of all objects in a schema can stand in names of types. -/
def AllKeysFit (shapes : List Schema) : Prop :=
  ∀ properties strict, .object properties strict ∈ shapes → KeysFit properties

/-- From names of types on, a schema leads to such names only. -/
def LeadsToTypeNames (schema : Schema) : Prop :=
  ∀ (hint : String) (draft : Draft), IsTypeName hint → draft.NamesTypes →
    (typeOf hint schema draft).2.NamesTypes

theorem namesTypes_fieldsOf {properties : List (String × Schema)}
    (each : ∀ property ∈ properties, LeadsToTypeNames property.2) (fit : KeysFit properties)
    (named : IsTypeName owner) (names : draft.NamesTypes) :
    (fieldsOf owner properties draft).2.NamesTypes := by
  induction properties generalizing draft with
  | nil => exact names
  | cons property rest ih =>
      rcases List.forall_mem_cons.mp each with ⟨first, others⟩
      rcases List.forall_mem_cons.mp fit with ⟨firstFits, othersFit⟩
      rw [fieldsOf_cons]
      exact ih others othersFit (first _ _ (named.append firstFits) names)

theorem namesTypes_membersOf {schemas : List Schema}
    (each : ∀ schema ∈ schemas, LeadsToTypeNames schema) (named : IsTypeName owner) {index : Nat}
    (names : draft.NamesTypes) : (membersOf owner index schemas draft).2.NamesTypes := by
  induction schemas generalizing draft index with
  | nil => exact names
  | cons schema rest ih =>
      rcases List.forall_mem_cons.mp each with ⟨first, others⟩
      have hint := named.appendIdentifier (isTypeName_variant index).identifier
      rw [membersOf_cons]
      exact ih others (first _ _ hint names)

/-- A hint becomes another one by what an identifier can go on with, and keys are such where they
fit. -/
theorem leadsToTypeNames (schema : Schema) (fit : AllKeysFit schema.shapes) :
    LeadsToTypeNames schema := by
  have item : isIdentifier "Item" := by decide +kernel
  have value : isIdentifier "Value" := by decide +kernel
  induction schema with
  | enumeration values =>
      intro hint draft named names
      rw [typeOf_enumeration]
      cases areTexts : allTexts? values with
      | none => rwa [choiceType_of_mixed areTexts]
      | some texts =>
          rw [choiceType_of_texts areTexts]
          exact (names.claim named).1
  | array items ih => exact fun _ _ named => ih fit _ _ (named.appendIdentifier item)
  | object properties strict ih =>
      intro hint draft named names
      rcases names.claim named with ⟨namesNow, namedNow⟩
      rw [Schema.shapes] at fit
      have fitInside : ∀ property ∈ properties, AllKeysFit property.2.shapes :=
        fun _ isProperty _ _ isShape => fit _ _
          (List.mem_append_left _ (Schema.shapes_subset_shapesOfFields isProperty isShape))
      have keysFit : KeysFit properties :=
        fit properties strict (List.mem_append_right _ List.mem_cons_self)
      rw [typeOf_object]
      exact namesTypes_fieldsOf (fun property isProperty => ih property isProperty
        (fitInside property isProperty)) keysFit namedNow namesNow
  | record values ih => exact fun _ _ named => ih fit _ _ (named.appendIdentifier value)
  | union schemas ih =>
      intro hint draft named names
      rcases names.claim named with ⟨namesNow, namedNow⟩
      rw [Schema.shapes] at fit
      have fitInside : ∀ schema ∈ schemas, AllKeysFit schema.shapes :=
        fun _ isMember _ _ isShape => fit _ _
          (List.mem_append_left _ (Schema.shapes_subset_shapesOfEach isMember isShape))
      rw [typeOf_union]
      exact namesTypes_membersOf (fun schema isMember => ih schema isMember
        (fitInside schema isMember)) namedNow namesNow
  | optional inner ih => exact ih fit
  | promise resolved ih => exact ih fit
  | _ => exact fun _ _ _ names => names

theorem namesTypes_addPart {part : Schema} (fit : AllKeysFit part.shapes)
    (named : IsTypeName wanted) (names : draft.NamesTypes) :
    (draft.addPart wanted part).NamesTypes := by
  rcases names.claim named with ⟨namesNow, namedNow⟩
  rcases addPart_cases draft wanted part with ⟨properties, strict, _, made⟩ | ⟨_, made⟩ <;>
    rw [made]
  · exact leadsToTypeNames part fit wanted draft named names
  · exact leadsToTypeNames part fit _ _ namedNow namesNow

theorem namesTypes_foldl_addPart {parts : List (String × Schema)}
    (fit : ∀ part ∈ parts, AllKeysFit part.2.shapes) (named : ∀ part ∈ parts, IsTypeName part.1)
    (names : draft.NamesTypes) :
    (parts.foldl (fun draft part => draft.addPart part.1 part.2) draft).NamesTypes := by
  induction parts generalizing draft with
  | nil => exact names
  | cons part rest ih =>
      rcases List.forall_mem_cons.mp fit with ⟨firstFits, othersFit⟩
      rcases List.forall_mem_cons.mp named with ⟨first, others⟩
      rw [List.foldl_cons]
      exact ih othersFit others (namesTypes_addPart firstFits first names)

/-! ## The name of the first part -/

/-- The wanted name of a part is taken, if not by the part then before. -/
theorem wanted_mem_taken_addPart (draft : Draft) (wanted : String) (part : Schema) :
    wanted ∈ (draft.addPart wanted part).taken := by
  by_cases isTaken : wanted ∈ draft.taken
  · exact (accounts_addPart draft wanted part).taken_subset isTaken
  · have isClaimed : wanted ∈ (draft.claim wanted).2.taken := by
      rw [Draft.claim, freshName_of_not_mem isTaken]
      exact List.mem_append_right _ List.mem_cons_self
    rcases addPart_cases draft wanted part with ⟨properties, strict, rfl, made⟩ | ⟨_, made⟩ <;>
      rw [made]
    · have inside := accounts_fieldsOf (fun property (_ : property ∈ properties) =>
        accounted property.2) (draft.claim wanted).1 (draft.claim wanted).2
      exact inside.taken_subset isClaimed
    · exact (accounted part _ _).taken_subset isClaimed

end Bindings

/-! ## Whole contracts -/

namespace Contract

open Bindings

/-- The bindings are written, and all their declarations are legal. -/
structure HasLegalBindings (contract : Contract) : Prop where
  written : contract.bindingsText?.isSome
  legal : ∀ declaration ∈ contract.bindings, declaration.Legal

variable {contract : Contract}

/-- Parts are named after the contract, with a section or a status behind. -/
theorem exists_suffix_of_mem_namedParts {part : String × Schema}
    (isPart : part ∈ contract.namedParts) :
    ∃ suffix, part.1 = typeName contract.name ++ suffix ∧ 4 ≤ suffix.toList.length ∧
      ∀ char ∈ suffix.toList, isIdentifierContinue char := by
  rcases List.mem_append.mp isPart with isSection | isResponse
  · have suffixes : ∀ suffix ∈ ["Params", "Query", "Headers", "Body", "ResponseHeaders"],
        4 ≤ suffix.toList.length ∧ isIdentifier suffix := by decide +kernel
    rcases List.mem_filterMap.mp isSection with ⟨⟨suffix, schema?⟩, isSuffix, made⟩
    rcases Option.map_eq_some_iff.mp made with ⟨schema, _, rfl⟩
    rcases suffixes suffix (List.mem_map_of_mem (f := Prod.fst) isSuffix) with ⟨long, identifier⟩
    exact ⟨suffix, rfl, long, isIdentifierContinue_of_isIdentifier identifier⟩
  · rcases List.mem_map.mp isResponse with ⟨⟨status, schema⟩, _, rfl⟩
    have long : 4 ≤ "Response".toList.length := by decide +kernel
    have identifier : isIdentifier "Response" := by decide +kernel
    refine ⟨"Response" ++ Text.decimalText status, String.append_assoc .., ?_, ?_⟩
    · rw [String.toList_append, List.length_append]
      exact Nat.le_add_right_of_le long
    · rw [String.toList_append, List.forall_mem_append]
      exact ⟨isIdentifierContinue_of_isIdentifier identifier,
        isIdentifierContinue_of_mem_decimalText status⟩

theorem isTypeName_of_mem_namedParts (identifier : isIdentifier (typeName contract.name))
    {part : String × Schema} (isPart : part ∈ contract.namedParts) : IsTypeName part.1 := by
  rcases exists_suffix_of_mem_namedParts isPart with ⟨suffix, named, long, continues⟩
  rcases beginsCapital_typeName contract.name with ⟨capital, filled⟩
  rw [named]
  refine ⟨(isIdentifier_append_iff filled suffix).mpr ⟨identifier, continues⟩,
    capital.append filled suffix, ?_⟩
  rw [String.toList_append, List.length_append]
  exact Nat.lt_of_le_of_lt long (Nat.lt_add_of_pos_left (List.length_pos_iff.mpr filled))

/-- The first part gets the name that it asks for, which begins with the name of the contract. -/
theorem isIdentifier_typeName_of_legal
    (legal : ∀ declaration ∈ contract.bindings, declaration.Legal)
    (filled : contract.namedParts ≠ []) : isIdentifier (typeName contract.name) := by
  rcases List.exists_cons_of_ne_nil filled with ⟨part, rest, parts⟩
  rcases exists_accountedBy contract with ⟨account, accounted⟩
  have isTaken : part.1 ∈ contract.draft.taken := by
    rw [draft, parts, List.foldl_cons]
    exact (accounts_foldl_addPart rest _).taken_subset (wanted_mem_taken_addPart {} part.1 part.2)
  have isName : part.1 ∈ contract.bindings.map Declaration.name :=
    accounted.names ▸ accounted.taken.mem_iff.mp isTaken
  rcases List.mem_map.mp isName with ⟨declaration, isDeclaration, named⟩
  have identifier := (legal declaration isDeclaration).isLegalName.identifier
  have isPart : part ∈ contract.namedParts := parts ▸ List.mem_cons_self
  rcases exists_suffix_of_mem_namedParts isPart with ⟨suffix, suffixed, _⟩
  rw [named, suffixed] at identifier
  exact ((isIdentifier_append_iff (beginsCapital_typeName _).2 suffix).mp identifier).1

theorem allKeysFit_of_namesLegally (legally : ∀ purpose ∈ contract.purposes, purpose.NamesLegally)
    {part : String × Schema} (isPart : part ∈ contract.namedParts) : AllKeysFit part.2.shapes := by
  intro properties strict isShape property isProperty
  have isPurpose : .shape (.object properties strict) ∈ contract.purposes :=
    List.mem_flatMap.mpr ⟨part, isPart,
      List.mem_append_left _ (List.mem_map_of_mem (f := Purpose.shape) isShape)⟩
  exact FieldName.isIdentifierContinue_camelCase
    ((legally _ isPurpose).2 property isProperty).1

/-- The bindings of a contract are legal exactly when its name makes an identifier, if there is
anything to name, when the keys of each object make identifiers that differ and are not overlooked,
and when the texts of each enumeration make identifiers other than `Self`. -/
theorem legal_bindings_iff (contract : Contract) :
    contract.HasLegalBindings ↔
      (contract.namedParts ≠ [] → isIdentifier (typeName contract.name)) ∧
        ∀ purpose ∈ contract.purposes, purpose.NamesLegally := by
  rcases exists_accountedBy contract with ⟨account, accounted⟩
  constructor
  · rintro ⟨_, legal⟩
    refine ⟨isIdentifier_typeName_of_legal legal, ?_⟩
    rw [← accounted.purposes, List.forall_mem_map]
    intro entry isEntry
    have isDeclaration : entry.2 ∈ contract.bindings :=
      accounted.declarations ▸ List.mem_map_of_mem isEntry
    exact (accounted.serves entry isEntry).namesLegally (legal entry.2 isDeclaration)
  · rintro ⟨identifier, legally⟩
    have typeNames : contract.draft.NamesTypes := by
      refine namesTypes_foldl_addPart (fun part => allKeysFit_of_namesLegally legally) ?_ ?_
      · intro part isPart
        exact isTypeName_of_mem_namedParts (identifier (List.ne_nil_of_mem isPart)) isPart
      · exact fun _ isName => absurd isName List.not_mem_nil
    have legal : ∀ declaration ∈ contract.bindings, declaration.Legal := by
      rw [← accounted.declarations, List.forall_mem_map]
      intro entry isEntry
      have isTaken : entry.2.name ∈ contract.draft.taken :=
        accounted.taken.mem_iff.mpr (List.mem_map_of_mem isEntry)
      have isPurpose : entry.1 ∈ contract.purposes :=
        accounted.purposes ▸ List.mem_map_of_mem isEntry
      exact (accounted.serves entry isEntry).legal (typeNames _ isTaken) (legally _ isPurpose)
    refine ⟨?_, legal⟩
    have written : contract.bindings.all Declaration.isLegal :=
      List.all_eq_true.mpr fun declaration isDeclaration =>
        (legal declaration isDeclaration).isLegal
    rw [bindingsText?, if_pos written]
    rfl

/-- The fields of one record that two keys make alike, a reserved word that is not written raw, and
a variant that is a reserved word. -/
def clashing : Contract :=
  { name := "pay",
    body := some (.object [("a-b", .string), ("a_b", .string), ("final", .string),
      ("of", .enumeration [.string "self"])] false) }

/-- A key with a character that no identifier can hold. -/
def unwritable : Contract :=
  { name := "pay", body := some (.object [("²", .string)] false) }

/-- Keys and texts of well-formed contracts make one field of two, reserved words and no text at
all. -/
theorem clashing_is_illegal :
    (∀ contract ∈ [clashing, unwritable], ∀ part ∈ contract.namedParts, part.2.wellFormed) ∧
      clashing.bindings.map Declaration.identifiers =
        [["PayBodyOf", "Self"], ["PayBody", "a_b", "a_b", "final", "of"]] ∧
      ¬clashing.HasLegalBindings ∧ ¬(FieldName.ofKey "final").IsLegal ∧ ¬IsLegalName "Self" ∧
      unwritable.bindingsText? = none ∧ ¬unwritable.HasLegalBindings := by
  have identifiers : clashing.bindings.map Declaration.identifiers =
      [["PayBodyOf", "Self"], ["PayBody", "a_b", "a_b", "final", "of"]] := by decide +kernel
  have unwritten : unwritable.bindingsText? = none := by decide +kernel
  refine ⟨by decide +kernel, identifiers, ?_, ?_, ?_, unwritten, ?_⟩
  · rintro ⟨_, legal⟩
    have isListed : ["PayBody", "a_b", "a_b", "final", "of"] ∈
        clashing.bindings.map Declaration.identifiers := by
      rw [identifiers]
      exact List.mem_cons_of_mem _ List.mem_cons_self
    rcases List.mem_map.mp isListed with ⟨declaration, isDeclaration, made⟩
    have distinct := (legal declaration isDeclaration).nodup_tail
    rw [made] at distinct
    exact absurd distinct (by decide)
  · rw [FieldName.isLegal_ofKey_iff]
    decide +kernel
  · exact fun legal => legal.unreserved (by decide)
  · intro legal
    have written := legal.written
    rw [unwritten] at written
    cases written

end Contract
end ApiContract
