import ApiContract.Proofs.Schema.Soundness
import Mathlib.Logic.Relation

/-!
# Relaxed schemas

A schema is relaxed by steps: an object stops being strict, a schema becomes optional, or a union
gets further members at its end, anywhere inside the schema.  What the schema lets pass before, it
lets pass after any number of such steps, though a union may settle on another member then and make
another value of the same one.
-/

namespace ApiContract.Schema

/-- One step that relaxes a schema, at the schema itself or at a place inside it. -/
inductive RelaxedOnce : Schema → Schema → Prop where
  /-- A strict object takes other members, too. -/
  | open_ (fields : List (String × Schema)) :
      RelaxedOnce (.object fields true) (.object fields false)
  | wrap (schema : Schema) : RelaxedOnce schema (.optional schema)
  | extend (members more : List Schema) : RelaxedOnce (.union members) (.union (members ++ more))
  | inField {narrow wide : Schema} (before : List (String × Schema)) (name : String)
      (after : List (String × Schema)) (strict : Bool) (step : RelaxedOnce narrow wide) :
      RelaxedOnce (.object (before ++ (name, narrow) :: after) strict)
        (.object (before ++ (name, wide) :: after) strict)
  | inItems {narrow wide : Schema} (step : RelaxedOnce narrow wide) :
      RelaxedOnce (.array narrow) (.array wide)
  | inValues {narrow wide : Schema} (step : RelaxedOnce narrow wide) :
      RelaxedOnce (.record narrow) (.record wide)
  | inMember {narrow wide : Schema} (before after : List Schema) (step : RelaxedOnce narrow wide) :
      RelaxedOnce (.union (before ++ narrow :: after)) (.union (before ++ wide :: after))
  | inOptional {narrow wide : Schema} (step : RelaxedOnce narrow wide) :
      RelaxedOnce (.optional narrow) (.optional wide)
  | inPromise {narrow wide : Schema} (step : RelaxedOnce narrow wide) :
      RelaxedOnce (.promise narrow) (.promise wide)

/-- The second schema is what any number of such steps make of the first. -/
def Relaxed : Schema → Schema → Prop :=
  Relation.ReflTransGen RelaxedOnce

variable {narrow wide : Schema} {mode : WalkMode} {value : Value}

/-! ## One step -/

/-- An optional field stays one, so an object that lacks it still may. -/
theorem RelaxedOnce.isOptional (step : RelaxedOnce narrow wide) (optional : narrow.isOptional) :
    wide.isOptional := by
  cases step with
  | wrap | inOptional => rfl
  | _ => cases optional

/-- What was clean of a field, present or absent, is clean of the relaxed one. -/
theorem RelaxedOnce.clean_outcome (step : RelaxedOnce narrow wide) (found : Option Value)
    (passes : ∀ value, (walk mode narrow value).Clean → (walk mode wide value).Clean)
    (clean : (outcome mode narrow found).Clean) : (outcome mode wide found).Clean := by
  cases found with
  | none =>
      rw [clean_outcome_none] at clean ⊢
      exact step.isOptional clean
  | some value =>
      rw [clean_outcome_some] at clean ⊢
      exact passes value clean

/-- A step leaves clean what was clean, in either mode. -/
theorem RelaxedOnce.clean_walk (step : RelaxedOnce narrow wide)
    (clean : (walk mode narrow value).Clean) : (walk mode wide value).Clean := by
  induction step generalizing value with
  | open_ fields =>
      rcases clean_walk_object_iff.mp clean with ⟨members, rfl, fieldsClean, _⟩
      rw [clean_walk_object_iff]
      exact ⟨members, rfl, fieldsClean, fun strict => absurd strict Bool.false_ne_true⟩
  | wrap schema => exact clean_walk_optional_iff.mpr (.inr clean)
  | extend members more =>
      rcases clean_walk_union_iff.mp clean with ⟨member, isMember, memberClean⟩
      exact clean_walk_union_iff.mpr ⟨member, List.mem_append_left more isMember, memberClean⟩
  | inField before name after strict step ih =>
      rcases clean_walk_object_iff.mp clean with ⟨members, rfl, fieldsClean, declared⟩
      rw [clean_walk_object_iff]
      refine ⟨members, rfl, ?_, ?_⟩
      · rw [List.forall_mem_append, List.forall_mem_cons] at fieldsClean ⊢
        rcases fieldsClean with ⟨beforeClean, fieldClean, afterClean⟩
        exact ⟨beforeClean, step.clean_outcome _ (fun _ => ih) fieldClean, afterClean⟩
      · -- The relaxed object declares the same names.
        simpa [Entries.keys] using declared
  | inItems step ih =>
      rcases clean_walk_array_iff.mp clean with ⟨values, rfl, itemsClean⟩
      rw [clean_walk_array_iff]
      exact ⟨values, rfl, fun item isItem => ih (itemsClean item isItem)⟩
  | inValues step ih =>
      rcases clean_walk_record_iff.mp clean with ⟨members, rfl, membersClean⟩
      rw [clean_walk_record_iff]
      exact ⟨members, rfl, fun member isMember => ih (membersClean member isMember)⟩
  | inMember before after step ih =>
      rw [clean_walk_union_iff] at clean ⊢
      rcases clean with ⟨member, isMember, memberClean⟩
      rcases List.mem_append.mp isMember with inBefore | inRest
      · exact ⟨member, List.mem_append_left _ inBefore, memberClean⟩
      · rcases List.mem_cons.mp inRest with rfl | inAfter
        · exact ⟨_, List.mem_append_right before List.mem_cons_self, ih memberClean⟩
        · exact ⟨member, List.mem_append_right before (List.mem_cons_of_mem _ inAfter), memberClean⟩
  | inOptional step ih =>
      rw [clean_walk_optional_iff] at clean ⊢
      exact clean.imp_right ih
  | inPromise step ih =>
      rw [walk_promise] at clean ⊢
      exact ih clean

/-! ## Any number of steps -/

/-- Any number of steps leave clean what was clean. -/
theorem Relaxed.clean_walk (relaxed : narrow.Relaxed wide)
    (clean : (walk mode narrow value).Clean) : (walk mode wide value).Clean := by
  induction relaxed with
  | refl => exact clean
  | tail _ step ih => exact step.clean_walk ih

/-- A value that a schema parses is parsed by the relaxed schema, and a value that it accepts as it
stands is accepted as it stands. -/
theorem relaxed_keeps_accepted (narrow wide : Schema) (narrowWellFormed : narrow.wellFormed)
    (wideWellFormed : wide.wellFormed) (relaxed : narrow.Relaxed wide) (value : Value) :
    ((∃ converted, Checker.parse ⟨.native, narrow, narrowWellFormed⟩ value = .ok converted) →
        ∃ converted, Checker.parse ⟨.native, wide, wideWellFormed⟩ value = .ok converted) ∧
      (Checker.accepts ⟨.native, narrow, narrowWellFormed⟩ value = true →
        Checker.accepts ⟨.native, wide, wideWellFormed⟩ value = true) := by
  constructor
  · rintro ⟨converted, parsed⟩
    have clean := (parse_eq_ok_iff.mp parsed).1
    exact ⟨_, parse_eq_ok_iff.mpr ⟨relaxed.clean_walk clean, rfl⟩⟩
  · intro accepted
    exact accepts_iff.mpr (relaxed.clean_walk (accepts_iff.mp accepted))

/-- A field that becomes optional and an object that opens inside a union, and a union that gets a
member, all inside one object.  The first value is converted, the second one accepted. -/
theorem relaxed_keeps_accepted_sample :
    (∃ converted,
      Checker.parse
          ⟨.native,
            .object [("id", .union [.integer, .string]),
              ("tags", .array (.union [.object [("k", .optional .boolean)] false, .string]))] true,
            by decide⟩
          (.object [("id", .string "7"), ("tags", .array [.object [("k", .string "true")]])]) =
        .ok converted) ∧
      Checker.accepts
          ⟨.native,
            .object [("id", .union [.integer, .string]),
              ("tags", .array (.union [.object [("k", .optional .boolean)] false, .string]))] true,
            by decide⟩
          (.object [("id", .number (.ofInt 7)),
            ("tags", .array [.string "k", .object [("k", .bool true)]])]) = true := by
  have relaxed : (Schema.object [("id", .union [.integer]),
      ("tags", .array (.union [.object [("k", .boolean)] true, .string]))] true).Relaxed
      (.object [("id", .union [.integer, .string]),
        ("tags", .array (.union [.object [("k", .optional .boolean)] false, .string]))] true) :=
    .tail (.tail (.tail .refl
      (.inField [] "id" _ true (.extend [.integer] [.string])))
      (.inField [("id", .union [.integer, .string])] "tags" [] true
        (.inItems (.inMember [] [.string] (.inField [] "k" [] true (.wrap .boolean))))))
      (.inField [("id", .union [.integer, .string])] "tags" [] true
        (.inItems (.inMember [] [.string] (.open_ [("k", .optional .boolean)]))))
  exact ⟨(relaxed_keeps_accepted _ _ (by decide) (by decide) relaxed _).1 ⟨_, rfl⟩,
    (relaxed_keeps_accepted _ _ (by decide) (by decide) relaxed _).2 rfl⟩

/-- The value may be another one: an object that takes everything comes before the record that
converts. -/
example :
    (Schema.union [.object [] true, .record .number]).parse (.object [("a", .string "1")]) =
        .ok (.object [("a", .number (.ofInt 1))]) ∧
      (Schema.union [.object [] false, .record .number]).parse (.object [("a", .string "1")]) =
        .ok (.object [("a", .string "1")]) :=
  ⟨rfl, rfl⟩

end ApiContract.Schema
