import ApiContract.Bindings.Draft
import ApiContract.Proofs.Text.Digits
import Mathlib.Data.List.Perm.Subperm
import Mathlib.Data.List.Nodup

/-!
# Names that are not taken

A wanted name that is taken gets a number.  One of the numbered names is always free, so a name that
was found is told apart from all that were taken before it.
-/

namespace ApiContract.Bindings

variable {taken : List String} {wanted : String}

/-! ## Numbered names -/

theorem numbered_injective (wanted : String) :
    Function.Injective fun number => wanted ++ Text.decimalText number := by
  intro left right same
  have chars := congrArg String.toList same
  simp only [String.toList_append, List.append_cancel_left_eq] at chars
  exact Text.decimalText_injective (String.toList_injective chars)

/-- A number makes another name of every name. -/
theorem numbered_ne (wanted : String) (number : Nat) :
    wanted ++ Text.decimalText number ≠ wanted := by
  intro same
  have chars := congrArg String.toList same
  rw [String.toList_append, Text.toList_decimalText, List.append_right_eq_self] at chars
  exact Nat.toDigits_ne_nil chars

theorem nodup_candidates (wanted : String) (last : Nat) : (candidates wanted last).Nodup := by
  rw [candidates, List.nodup_cons]
  constructor
  · intro numbered
    rcases List.mem_map.mp numbered with ⟨index, _, same⟩
    exact numbered_ne wanted (index + 2) same
  · refine List.Nodup.map ?_ List.nodup_range
    intro left right same
    exact Nat.add_right_cancel (numbered_injective wanted same)

theorem length_candidates (wanted : String) (count : Nat) :
    (candidates wanted (count + 1)).length = count + 1 := by
  simp [candidates]

/-! ## The first free name -/

/-- There are more candidates than taken names, and they all differ. -/
theorem exists_free_candidate (taken : List String) (wanted : String) :
    ∃ name ∈ candidates wanted (taken.length + 1), name ∉ taken := by
  by_contra allTaken
  push Not at allTaken
  have fits := (List.subperm_of_subset (nodup_candidates wanted _) allTaken).length_le
  rw [length_candidates] at fits
  omega

theorem find?_candidates_eq_some (taken : List String) (wanted : String) :
    (candidates wanted (taken.length + 1)).find? (fun name => !taken.contains name) =
      some (freshName taken wanted) := by
  rcases exists_free_candidate taken wanted with ⟨name, isCandidate, free⟩
  have isFound : ((candidates wanted (taken.length + 1)).find?
      fun name => !taken.contains name).isSome :=
    List.find?_isSome.mpr ⟨name, isCandidate, by simpa using free⟩
  rcases Option.isSome_iff_exists.mp isFound with ⟨first, isFirst⟩
  rw [freshName, isFirst, Option.getD_some]

theorem freshName_not_mem (taken : List String) (wanted : String) :
    freshName taken wanted ∉ taken := by
  have free := List.find?_some (find?_candidates_eq_some taken wanted)
  simpa using free

/-- A free name is the wanted one, or it ends in a number. -/
theorem freshName_eq_or_numbered (taken : List String) (wanted : String) :
    freshName taken wanted = wanted ∨
      ∃ number, freshName taken wanted = wanted ++ Text.decimalText number := by
  have isCandidate := List.mem_of_find?_eq_some (find?_candidates_eq_some taken wanted)
  rcases List.mem_cons.mp isCandidate with same | numbered
  · exact .inl same
  · rcases List.mem_map.mp numbered with ⟨index, _, same⟩
    exact .inr ⟨index + 2, same.symm⟩

/-- A wanted name that is free stays as it is. -/
theorem freshName_of_not_mem (free : wanted ∉ taken) : freshName taken wanted = wanted := by
  rw [freshName, candidates, List.find?_cons_of_pos (by simpa using free)]
  rfl

/-! ## Variants -/

theorem wireNames_variantsOf (taken texts : List String) :
    (variantsOf taken texts).map Variant.wireName = texts := by
  induction texts generalizing taken with
  | nil => rfl
  | cons text rest ih => rw [variantsOf, List.map_cons, ih]

/-- Variants have names of their own, none of them taken before. -/
theorem nodup_names_variantsOf (taken texts : List String) :
    ((variantsOf taken texts).map Variant.name).Nodup ∧
      ∀ variant ∈ variantsOf taken texts, variant.name ∉ taken := by
  induction texts generalizing taken with
  | nil => exact ⟨List.nodup_nil, fun _ isVariant => absurd isVariant List.not_mem_nil⟩
  | cons text rest ih =>
      rcases ih (taken ++ [freshName taken (variantName text)]) with ⟨distinct, fresh⟩
      rw [variantsOf, List.map_cons, List.nodup_cons, List.forall_mem_cons]
      refine ⟨⟨?_, distinct⟩, freshName_not_mem taken _, ?_⟩
      · intro repeated
        rcases List.mem_map.mp repeated with ⟨variant, isVariant, same⟩
        exact fresh variant isVariant (List.mem_append_right taken (List.mem_singleton.mpr same))
      · intro variant isVariant isTaken
        exact fresh variant isVariant (List.mem_append_left _ isTaken)

theorem allTexts?_cons_string (text : String) (rest : List Literal) :
    allTexts? (.string text :: rest) = (allTexts? rest).map (text :: ·) := by
  rw [allTexts?, List.mapM_cons]
  exact (Option.map_eq_bind ..).symm

/-- The texts of values are the values. -/
theorem map_string_of_allTexts? {values : List Literal} {texts : List String}
    (areTexts : allTexts? values = some texts) : texts.map Literal.string = values := by
  induction values generalizing texts with
  | nil =>
      obtain rfl : [] = texts := Option.some.inj areTexts
      rfl
  | cons value rest ih =>
      cases value with
      | string text =>
          rw [allTexts?_cons_string] at areTexts
          rcases Option.map_eq_some_iff.mp areTexts with ⟨others, areOthers, rfl⟩
          rw [List.map_cons, ih areOthers]
      | _ => cases areTexts

end ApiContract.Bindings
