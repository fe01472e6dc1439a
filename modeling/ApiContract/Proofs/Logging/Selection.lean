import ApiContract.Logging.Files
import ApiContract.Proofs.Entries

/-!
# Which section decides

For a target, a limit and a file are looked for in two tables that are made from the same
sections.  Both lookups, and the rule that a section governs the targets of its name, are of one
form: of the sections that suit, the one with the longest name decides, and without any it is a
section in reserve.
-/

namespace ApiContract.Logging

/-! ## Names of targets -/

section Names

variable {name other target : String}

theorem isPrefix_iff : Filter.isPrefix name target ↔ ∃ rest, target = name ++ rest := by
  rw [Filter.isPrefix, List.isPrefixOf_iff_prefix]
  constructor
  · rintro ⟨rest, same⟩
    refine ⟨String.ofList rest, String.toList_injective ?_⟩
    rw [String.toList_append, String.toList_ofList, same]
  · rintro ⟨rest, rfl⟩
    exact ⟨rest.toList, String.toList_append.symm⟩

/-- Of the starts of one text there is one of each length. -/
theorem eq_of_isPrefix_of_length_eq (starts : Filter.isPrefix name target)
    (otherStarts : Filter.isPrefix other target) (same : name.length = other.length) :
    name = other := by
  rw [Filter.isPrefix, List.isPrefixOf_iff_prefix] at starts otherStarts
  have sameLength : name.toList.length = other.toList.length := by
    rw [String.length_toList, String.length_toList, same]
  have shorter : name.toList <+: other.toList :=
    List.prefix_of_prefix_length_le starts otherStarts (Nat.le_of_eq sameLength)
  exact String.toList_injective (shorter.eq_of_length sameLength)

theorem isPrefix_of_belongsTo (belongs : belongsTo name target) :
    Filter.isPrefix name target :=
  ((Bool.and_eq_true _ _).mp belongs).1

/-- A name covers a target that is the name or goes on from it with two colons. -/
def Covers (name target : String) : Prop :=
  target = name ∨ ∃ rest, target = name ++ "::" ++ rest

theorem belongsTo_iff : belongsTo name target ↔ Covers name target := by
  have goesOn (rest : String) :
      belongsTo name (name ++ rest) ↔ rest = "" ∨ Filter.isPrefix "::" rest := by
    have left : (name ++ rest).toList.drop name.length = rest.toList := by
      rw [String.toList_append, ← String.length_toList, List.drop_left]
    have starts : Filter.isPrefix name (name ++ rest) := isPrefix_iff.mpr ⟨rest, rfl⟩
    rw [belongsTo, left, starts, Bool.true_and, Bool.or_eq_true, List.isEmpty_iff]
    exact or_congr String.toList_eq_nil_iff Iff.rfl
  constructor
  · intro belongs
    rcases isPrefix_iff.mp (isPrefix_of_belongsTo belongs) with ⟨rest, rfl⟩
    rcases (goesOn rest).mp belongs with rfl | colons
    · exact .inl String.append_empty
    · rcases isPrefix_iff.mp colons with ⟨inner, rfl⟩
      exact .inr ⟨inner, String.append_assoc.symm⟩
  · rintro (rfl | ⟨rest, rfl⟩)
    · simpa using (goesOn "").mpr (.inl rfl)
    · rw [String.append_assoc]
      exact (goesOn ("::" ++ rest)).mpr (.inr (isPrefix_iff.mpr ⟨rest, rfl⟩))

end Names

/-! ## The longest name -/

section Longest

variable {α β : Type} {entries : List (String × α)} {entry : String × α}

theorem longestNamed?_eq_none_iff : longestNamed? entries = none ↔ entries = [] := by
  cases entries with
  | nil => simp [longestNamed?]
  | cons entry rest =>
      rw [longestNamed?]
      split
      · simp
      · split <;> simp

theorem longestNamed?_spec (found : longestNamed? entries = some entry) :
    entry ∈ entries ∧ ∀ other ∈ entries, other.1.length ≤ entry.1.length := by
  induction entries generalizing entry with
  | nil => cases found
  | cons first rest ih =>
      rw [longestNamed?] at found
      cases best : longestNamed? rest with
      | none =>
          rw [best, Option.some.injEq] at found
          rw [longestNamed?_eq_none_iff.mp best, ← found]
          simp
      | some longest =>
          rcases ih best with ⟨member, most⟩
          simp only [best] at found
          split at found
          · next shorter =>
              rw [Option.some.injEq] at found
              subst found
              refine ⟨List.mem_cons_self, List.forall_mem_cons.mpr ⟨Nat.le_refl _, ?_⟩⟩
              intro other isOther
              exact Nat.le_trans (most other isOther) (Nat.le_of_lt shorter)
          · next notShorter =>
              rw [Option.some.injEq] at found
              subst found
              exact ⟨List.mem_cons_of_mem _ member,
                List.forall_mem_cons.mpr ⟨Nat.le_of_not_lt notShorter, most⟩⟩

/-- Where distinct names all start one target, what is found is the entry that no other is longer
than. -/
theorem longestNamed?_eq_some_iff {target : String} (distinct : (Entries.keys entries).Nodup)
    (starts : ∀ entry ∈ entries, Filter.isPrefix entry.1 target) :
    longestNamed? entries = some entry ↔
      entry ∈ entries ∧ ∀ other ∈ entries, other.1.length ≤ entry.1.length := by
  refine ⟨longestNamed?_spec, ?_⟩
  rintro ⟨member, most⟩
  cases found : longestNamed? entries with
  | none =>
      rw [longestNamed?_eq_none_iff.mp found] at member
      cases member
  | some longest =>
      rcases longestNamed?_spec found with ⟨isEntry, atLeast⟩
      -- Both names start the target and neither is longer, so they are one name.
      have sameName : longest.1 = entry.1 :=
        eq_of_isPrefix_of_length_eq (starts longest isEntry) (starts entry member)
          (Nat.le_antisymm (most longest isEntry) (atLeast entry member))
      rw [List.inj_on_of_nodup_map distinct isEntry member sameName]

/-- Where distinct names all start one target, their order does not matter. -/
theorem longestNamed?_eq_of_perm {target : String} {reordered : List (String × α)}
    (distinct : (Entries.keys entries).Nodup)
    (starts : ∀ entry ∈ entries, Filter.isPrefix entry.1 target)
    (reorders : reordered.Perm entries) : longestNamed? reordered = longestNamed? entries := by
  have alsoDistinct : (Entries.keys reordered).Nodup :=
    (reorders.map Prod.fst).nodup_iff.mpr distinct
  have alsoStarts : ∀ entry ∈ reordered, Filter.isPrefix entry.1 target :=
    fun entry member => starts entry (reorders.mem_iff.mp member)
  ext entry
  rw [longestNamed?_eq_some_iff distinct starts,
    longestNamed?_eq_some_iff alsoDistinct alsoStarts]
  simp only [reorders.mem_iff]

/-- To look among the things that entries have is to look among the entries that have one. -/
theorem longestNamed?_filterMap (has : α → Option β) (entries : List (String × α)) :
    longestNamed? (entries.filterMap fun entry => (has entry.2).map fun thing => (entry.1, thing)) =
      (longestNamed? (entries.filter fun entry => (has entry.2).isSome)).bind fun entry =>
        (has entry.2).map fun thing => (entry.1, thing) := by
  induction entries with
  | nil => rfl
  | cons entry rest ih =>
      rw [List.filterMap_cons, List.filter_cons]
      cases owned : has entry.2 with
      | none => simpa [owned] using ih
      | some thing =>
          rw [Option.map_some, Option.isSome_some, if_pos rfl, longestNamed?, ih, longestNamed?]
          cases best : longestNamed? (rest.filter fun entry => (has entry.2).isSome) with
          | none => simp [owned]
          | some longest =>
              have isSome : (has longest.2).isSome := by
                simpa using (List.mem_filter.mp (longestNamed?_spec best).1).2
              rcases Option.isSome_iff_exists.mp isSome with ⟨other, owns⟩
              rw [Option.bind_some, owns, Option.map_some]
              by_cases shorter : longest.1.length < entry.1.length <;> simp [shorter, owns, owned]

end Longest

/-! ## Sections that decide -/

namespace LogSections

variable {sections : LogSections} {suits : String × LogSection → Bool}
  {reserve : Option LogSection} {item : LogSection} {target : String}

/-- A section decides: the one with the longest name of the sections of targets that suit, or
without any such section the one in reserve. -/
inductive Decides (sections : LogSections) (suits : String × LogSection → Bool)
    (reserve : Option LogSection) : LogSection → Prop where
  | longest {entry : String × LogSection} (member : entry ∈ sections.ofTargets)
      (suitable : suits entry)
      (most : ∀ other ∈ sections.ofTargets, suits other → other.1.length ≤ entry.1.length) :
      Decides sections suits reserve entry.2
  | reserve {item : LogSection} (none : ∀ other ∈ sections.ofTargets, ¬suits other)
      (isReserve : reserve = some item) : Decides sections suits reserve item

/-- The section that decides. -/
def decider? (sections : LogSections) (suits : String × LogSection → Bool)
    (reserve : Option LogSection) : Option LogSection :=
  match longestNamed? (sections.ofTargets.filter suits) with
  | some (_, item) => some item
  | none => reserve

theorem mem_ofTargets_iff {entry : String × LogSection} :
    entry ∈ sections.ofTargets ↔ entry ∈ sections ∧ entry.1 ≠ defaultTarget := by
  simp [ofTargets]

theorem nodup_keys_ofTargets (distinct : (Entries.keys sections).Nodup) :
    (Entries.keys sections.ofTargets).Nodup :=
  Entries.nodup_keys_filter distinct _

/-- Where all that suits starts one target, at most one section has the longest name. -/
theorem decider?_eq_some_iff (distinct : (Entries.keys sections).Nodup)
    (starts : ∀ entry, suits entry → Filter.isPrefix entry.1 target) :
    sections.decider? suits reserve = some item ↔ Decides sections suits reserve item := by
  rw [decider?]
  cases found : longestNamed? (sections.ofTargets.filter suits) with
  | none =>
      have unsuited : ∀ other ∈ sections.ofTargets, ¬suits other :=
        List.filter_eq_nil_iff.mp (longestNamed?_eq_none_iff.mp found)
      constructor
      · exact .reserve unsuited
      · intro decides
        cases decides with
        | longest member suitable _ => exact absurd suitable (unsuited _ member)
        | reserve _ isReserve => exact isReserve
  | some entry =>
      rcases longestNamed?_spec found with ⟨member, most⟩
      rcases List.mem_filter.mp member with ⟨isEntry, suitable⟩
      constructor
      · intro same
        rw [← Option.some.inj same]
        exact .longest isEntry suitable fun other isOther suited =>
          most other (List.mem_filter.mpr ⟨isOther, suited⟩)
      · intro decides
        cases decides with
        | @longest other isOther suited otherMost =>
            have keys := Entries.nodup_keys_filter (nodup_keys_ofTargets distinct) suits
            have otherFound : longestNamed? (sections.ofTargets.filter suits) = some other := by
              rw [longestNamed?_eq_some_iff keys fun entry member =>
                starts entry (List.mem_filter.mp member).2]
              refine ⟨List.mem_filter.mpr ⟨isOther, suited⟩, ?_⟩
              intro third isThird
              rcases List.mem_filter.mp isThird with ⟨isTarget, thirdSuited⟩
              exact otherMost third isTarget thirdSuited
            rw [Option.some.inj (found.symm.trans otherFound)]
        | reserve none _ => exact absurd suitable (none entry isEntry)

theorem Decides.unique (distinct : (Entries.keys sections).Nodup)
    (starts : ∀ entry, suits entry → Filter.isPrefix entry.1 target) {other : LogSection}
    (decides : Decides sections suits reserve item)
    (otherDecides : Decides sections suits reserve other) : item = other :=
  Option.some.inj (((decider?_eq_some_iff distinct starts).mpr decides).symm.trans
    ((decider?_eq_some_iff distinct starts).mpr otherDecides))

/-- A lookup of the longest name in a table of what the sections of targets have, with
something in reserve, finds what the deciding section has. -/
theorem longestNamed?_table {β : Type} (sections : LogSections) (applies : String → Bool)
    (has : LogSection → Option β) (reserve : Option LogSection) :
    ((longestNamed? ((sections.ofTargets.filterMap fun entry =>
          (has entry.2).map fun thing => (entry.1, thing)).filter fun entry =>
            applies entry.1)).map Prod.snd).or (reserve.bind has) =
      (sections.decider? (fun entry => applies entry.1 && (has entry.2).isSome) reserve).bind
        has := by
  have table : ((sections.ofTargets.filterMap fun entry =>
        (has entry.2).map fun thing => (entry.1, thing)).filter fun entry => applies entry.1) =
      (sections.ofTargets.filter fun entry => applies entry.1).filterMap fun entry =>
        (has entry.2).map fun thing => (entry.1, thing) := by
    rw [List.filter_filterMap, List.filterMap_filter]
    apply List.filterMap_congr
    intro entry _
    cases applied : applies entry.1 <;> cases has entry.2 <;> simp [applied, Option.filter]
  have suited : ((sections.ofTargets.filter fun entry => applies entry.1).filter fun entry =>
        (has entry.2).isSome) =
      sections.ofTargets.filter fun entry => applies entry.1 && (has entry.2).isSome := by
    rw [List.filter_filter]
    exact List.filter_congr fun entry _ => Bool.and_comm _ _
  rw [table, longestNamed?_filterMap, suited, decider?]
  cases found : longestNamed? (sections.ofTargets.filter fun entry =>
      applies entry.1 && (has entry.2).isSome) with
  | none => rfl
  | some entry =>
      have suitable := (List.mem_filter.mp (longestNamed?_spec found).1).2
      rcases Option.isSome_iff_exists.mp ((Bool.and_eq_true _ _).mp suitable).2 with ⟨thing, owns⟩
      simp [owns]

end LogSections

end ApiContract.Logging
