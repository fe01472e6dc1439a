import ApiContract.Entries
import Mathlib.Data.List.Forall2
import Mathlib.Data.List.Nodup

/-!
# Lookups in entries

Objects, header sets and field lists are lists of keyed entries.  This module relates
a lookup to membership and says how lookups pass through the operations that build
such lists.
-/

/-- What holds of every item holds of every item with its place. -/
theorem List.forall_mem_zipIdx_iff {α : Type} {items : List α} {property : α → Prop} :
    (∀ placed ∈ items.zipIdx, property placed.1) ↔ ∀ item ∈ items, property item := by
  rw [← List.forall_mem_map, List.zipIdx_map_fst]

section Forall₂

variable {α β : Type} {relation : α → β → Prop} {lefts : List α} {rights : List β}

/-- In lists that are related item by item, every item on the left has one on the right. -/
theorem List.Forall₂.exists_right_of_mem (related : List.Forall₂ relation lefts rights) {left : α}
    (isLeft : left ∈ lefts) : ∃ right ∈ rights, relation left right := by
  induction related with
  | nil => cases isLeft
  | cons first later ih =>
      rcases List.mem_cons.mp isLeft with rfl | isLater
      · exact ⟨_, List.mem_cons_self, first⟩
      · rcases ih isLater with ⟨right, isRight, holds⟩
        exact ⟨right, List.mem_cons_of_mem _ isRight, holds⟩

theorem List.Forall₂.exists_left_of_mem (related : List.Forall₂ relation lefts rights) {right : β}
    (isRight : right ∈ rights) : ∃ left ∈ lefts, relation left right :=
  related.flip.exists_right_of_mem isRight

end Forall₂

namespace ApiContract.Entries

variable {α β : Type} {entries : Entries α} {key : String} {value : α}

@[simp] theorem get?_cons (entry : String × α) (rest : Entries α) (key : String) :
    get? (entry :: rest) key = if key = entry.1 then some entry.2 else get? rest key := by
  rcases entry with ⟨other, existing⟩
  by_cases same : key = other
  · simp [get?, same]
  · have differ : (key == other) = false := by simpa using same
    simp [get?, List.lookup_cons, same, differ]

theorem mem_of_get? (found : get? entries key = some value) : (key, value) ∈ entries := by
  induction entries with
  | nil => simp at found
  | cons entry rest ih =>
      rw [get?_cons] at found
      split at found
      · next same =>
          cases found
          subst same
          exact List.mem_cons_self
      · exact List.mem_cons_of_mem _ (ih found)

theorem get?_eq_none_iff : get? entries key = none ↔ key ∉ keys entries := by
  induction entries with
  | nil => simp [keys]
  | cons entry rest ih =>
      rw [get?_cons]
      by_cases same : key = entry.1
      · simp [keys, same]
      · simpa [keys, same] using ih

theorem exists_get?_iff : (∃ value, get? entries key = some value) ↔ key ∈ keys entries := by
  rw [← Option.ne_none_iff_exists', ne_eq, get?_eq_none_iff, Classical.not_not]

@[simp] theorem contains_iff : contains entries key ↔ key ∈ keys entries := by
  rw [contains, Option.isSome_iff_exists, exists_get?_iff]

theorem mem_keys_of_mem (member : (key, value) ∈ entries) : key ∈ keys entries :=
  List.mem_map_of_mem member

theorem Ascending.nodup_keys (ascending : Ascending entries) : (keys entries).Nodup :=
  List.pairwise_map.mpr (ascending.imp String.ne_of_lt)

theorem nodup_keys_filter (distinct : (keys entries).Nodup) (keeps : String × α → Bool) :
    (keys (entries.filter keeps)).Nodup :=
  distinct.sublist (List.filter_sublist.map Prod.fst)

/-- Where no key repeats, a lookup finds exactly the members. -/
theorem get?_eq_some_iff (distinct : (keys entries).Nodup) :
    get? entries key = some value ↔ (key, value) ∈ entries := by
  refine ⟨mem_of_get?, ?_⟩
  intro member
  induction entries with
  | nil => simp at member
  | cons entry rest ih =>
      simp only [keys, List.map_cons, List.nodup_cons] at distinct
      rcases List.mem_cons.mp member with rfl | inRest
      · simp
      · have other : key ≠ entry.1 := by
          rintro rfl
          exact distinct.1 (mem_keys_of_mem inRest)
        rw [get?_cons, if_neg other]
        exact ih distinct.2 inRest

/-- Where no key repeats, a lookup does not depend on the order. -/
theorem get?_eq_of_perm {reordered : Entries α} (distinct : (keys entries).Nodup)
    (reorders : reordered.Perm entries) (key : String) : get? reordered key = get? entries key := by
  have alsoDistinct : (keys reordered).Nodup := (reorders.map Prod.fst).nodup_iff.mpr distinct
  ext value
  rw [get?_eq_some_iff alsoDistinct, get?_eq_some_iff distinct, reorders.mem_iff]

/-- Where no key repeats, the entries under a key are what a lookup finds. -/
theorem filter_eq_toList (distinct : (keys entries).Nodup) (key : String) :
    (entries.filter fun entry => entry.1 = key) =
      ((get? entries key).map fun value => (key, value)).toList := by
  induction entries with
  | nil => rfl
  | cons entry rest ih =>
      simp only [keys, List.map_cons, List.nodup_cons] at distinct
      rw [List.filter_cons, get?_cons, ih distinct.2]
      by_cases same : entry.1 = key
      · subst same
        have absent : get? rest entry.1 = none := get?_eq_none_iff.mpr distinct.1
        simp [absent]
      · simp [same, Ne.symm same]

/-- A lookup passes through a change that the key alone decides on, be it to drop the
entry or to convert its value. -/
theorem get?_filterMap (change : String → Option (α → β)) (entries : Entries α)
    (key : String) :
    get? (entries.filterMap fun entry =>
        (change entry.1).map fun convert => (entry.1, convert entry.2)) key =
      (change key).bind fun convert => (get? entries key).map convert := by
  induction entries with
  | nil => cases change key <;> rfl
  | cons entry rest ih =>
      rw [List.filterMap_cons, get?_cons]
      cases decision : change entry.1 with
      | none =>
          rw [Option.map_none, ih]
          by_cases same : key = entry.1
          · rw [same, decision]
            rfl
          · simp [same]
      | some convert =>
          rw [Option.map_some, get?_cons, ih]
          by_cases same : key = entry.1
          · simp [same, decision]
          · simp [same]

/-- A lookup passes through a change of all values. -/
theorem get?_map (change : String → α → β) (entries : Entries α) (key : String) :
    get? (entries.map fun entry => (entry.1, change entry.1 entry.2)) key =
      (get? entries key).map (change key) := by
  have lookup := get?_filterMap (fun name => some (change name)) entries key
  simpa [List.filterMap_eq_map'] using lookup

section Insertion

variable {name : String}

theorem get?_insert (name : String) (value : α) (entries : Entries α) (key : String) :
    get? (insert name value entries) key = if key = name then some value else get? entries key := by
  induction entries with
  | nil => simp [insert]
  | cons head rest ih =>
      rcases head with ⟨other, existing⟩
      rw [insert]
      split
      · rw [get?_cons]
      · split
        · next same =>
            subst same
            by_cases found : key = name <;> simp [found]
        · next differ =>
            rw [get?_cons, get?_cons, ih]
            by_cases found : key = name
            · simp [found, differ]
            · simp [found]

theorem mem_insert_of_not_mem_keys (fresh : name ∉ keys entries) (entry : String × α) :
    entry ∈ insert name value entries ↔ entry = (name, value) ∨ entry ∈ entries := by
  induction entries with
  | nil => simp [insert]
  | cons head rest ih =>
      rcases head with ⟨other, existing⟩
      simp only [keys, List.map_cons, List.mem_cons, not_or] at fresh
      rw [insert, if_neg fresh.1]
      split
      · simp
      · simp only [List.mem_cons, ih fresh.2]
        tauto

theorem mem_keys_insert :
    key ∈ keys (insert name value entries) ↔ key = name ∨ key ∈ keys entries := by
  induction entries with
  | nil => simp [insert, keys]
  | cons head rest ih =>
      rcases head with ⟨other, existing⟩
      rw [insert]
      split
      · simp [keys]
      · split
        · next same => simp [keys, same]
        · simp only [keys, List.map_cons, List.mem_cons] at ih ⊢
          rw [ih]
          tauto

/-- An entry stays in the place of its key, also when it replaces another. -/
theorem ascending_insert (ascending : Ascending entries) :
    Ascending (insert name value entries) := by
  induction entries with
  | nil => exact List.pairwise_singleton _ _
  | cons head rest ih =>
      rcases head with ⟨other, existing⟩
      rcases List.pairwise_cons.mp ascending with ⟨first, others⟩
      rw [insert]
      split
      · next before =>
          refine List.pairwise_cons.mpr ⟨?_, ascending⟩
          refine List.forall_mem_cons.mpr ⟨before, ?_⟩
          intro entry member
          exact String.lt_trans before (first entry member)
      · next notBefore =>
          split
          · next same =>
              subst same
              exact List.pairwise_cons.mpr ⟨first, others⟩
          · next differ =>
              refine List.pairwise_cons.mpr ⟨?_, ih others⟩
              rintro ⟨key, value⟩ member
              rcases mem_keys_insert.mp (mem_keys_of_mem member) with same | inRest
              · rw [same]
                exact Std.lt_of_le_of_ne (String.not_lt.mp notBefore) (Ne.symm differ)
              · rcases List.mem_map.mp inRest with ⟨listed, isListed, same⟩
                rw [← same]
                exact first listed isListed

/-- Entries are collected one by one into those that precede them. -/
private theorem mem_foldl_insert (added collected : Entries α) (entry : String × α)
    (distinct : (keys added).Nodup) (fresh : ∀ name ∈ keys added, name ∉ keys collected) :
    entry ∈ added.foldl (fun sorted entry => insert entry.1 entry.2 sorted) collected ↔
      entry ∈ collected ∨ entry ∈ added := by
  induction added generalizing collected with
  | nil => simp
  | cons head rest ih =>
      simp only [keys, List.map_cons, List.nodup_cons, List.mem_cons, forall_eq_or_imp]
        at distinct fresh
      rw [List.foldl_cons, ih _ distinct.2, mem_insert_of_not_mem_keys fresh.1]
      · simp only [List.mem_cons]
        tauto
      · intro name member
        rw [mem_keys_insert, not_or]
        refine ⟨?_, fresh.2 name member⟩
        rintro rfl
        exact distinct.1 member

/-- Where no key repeats, sorting loses and adds nothing. -/
theorem mem_ofList (distinct : (keys entries).Nodup) (entry : String × α) :
    entry ∈ ofList entries ↔ entry ∈ entries := by
  rw [ofList, mem_foldl_insert entries [] entry distinct (by simp [keys])]
  simp

/-- Sorting keeps all keys, also those that repeat. -/
theorem mem_keys_ofList : key ∈ keys (ofList entries) ↔ key ∈ keys entries := by
  have collects : ∀ collected : Entries α,
      key ∈ keys (entries.foldl (fun sorted entry => insert entry.1 entry.2 sorted) collected) ↔
        key ∈ keys collected ∨ key ∈ keys entries := by
    induction entries with
    | nil => simp [keys]
    | cons head rest ih =>
        intro collected
        rw [List.foldl_cons, ih, mem_keys_insert]
        simp only [keys, List.map_cons, List.mem_cons]
        tauto
  rw [ofList, collects]
  simp [keys]

theorem ascending_ofList (entries : List (String × α)) : Ascending (ofList entries) := by
  have collects : ∀ collected : Entries α, Ascending collected →
      Ascending (entries.foldl (fun sorted entry => insert entry.1 entry.2 sorted) collected) := by
    induction entries with
    | nil => exact fun _ ascending => ascending
    | cons head rest ih => exact fun _ ascending => ih _ (ascending_insert ascending)
  exact collects [] .nil

/-- What is found after sorting was there before, also where keys repeat. -/
theorem mem_of_get?_ofList (isFound : get? (ofList entries) key = some value) :
    (key, value) ∈ entries := by
  have collects : ∀ (added collected : Entries α),
      get? (added.foldl (fun sorted entry => insert entry.1 entry.2 sorted) collected) key =
          some value →
        (key, value) ∈ added ∨ get? collected key = some value := by
    intro added
    induction added with
    | nil => exact fun _ found => .inr found
    | cons head rest ih =>
        intro collected found
        rcases ih _ found with member | inserted
        · exact .inl (List.mem_cons_of_mem _ member)
        · rw [get?_insert] at inserted
          split at inserted
          · next same =>
              rw [same, ← Option.some.inj inserted]
              exact .inl List.mem_cons_self
          · exact .inr inserted
  exact (collects entries [] isFound).resolve_right (by simp)

theorem mem_of_mem_ofList {entry : String × α} (member : entry ∈ ofList entries) :
    entry ∈ entries :=
  mem_of_get?_ofList ((get?_eq_some_iff (ascending_ofList entries).nodup_keys).mpr member)

/-- A key behind all others goes to the end. -/
theorem insert_of_last (last : ∀ entry ∈ entries, entry.1 < name) :
    insert name value entries = entries ++ [(name, value)] := by
  induction entries with
  | nil => rfl
  | cons head rest ih =>
      rcases head with ⟨other, existing⟩
      rcases List.forall_mem_cons.mp last with ⟨before, others⟩
      rw [insert, if_neg (String.lt_asymm before), if_neg (Ne.symm (String.ne_of_lt before)),
        ih others, List.cons_append]

/-- What ascends is sorted already. -/
theorem ofList_of_ascending (ascending : Ascending entries) : ofList entries = entries := by
  have collects : ∀ (added collected : Entries α), Ascending (collected ++ added) →
      added.foldl (fun sorted entry => insert entry.1 entry.2 sorted) collected =
        collected ++ added := by
    intro added
    induction added with
    | nil => exact fun collected _ => (List.append_nil collected).symm
    | cons head rest ih =>
        intro collected whole
        have last : ∀ entry ∈ collected, entry.1 < head.1 := fun entry member =>
          (List.pairwise_append.mp whole).2.2 entry member head List.mem_cons_self
        rw [List.append_cons] at whole
        rw [List.foldl_cons, insert_of_last last, ih _ whole, ← List.append_cons]
  exact collects entries [] ascending

section Values

variable {change : α → β}

theorem insert_mapValues (name : String) (value : α) (entries : Entries α) :
    insert name (change value) (mapValues change entries) =
      mapValues change (insert name value entries) := by
  induction entries with
  | nil => rfl
  | cons head rest ih =>
      rcases head with ⟨other, existing⟩
      rw [mapValues, List.map_cons, insert, insert, ← mapValues, ih]
      split
      · rfl
      · split <;> rfl

/-- Values can be changed before or after sorting. -/
theorem ofList_mapValues (entries : Entries α) :
    ofList (mapValues change entries) = mapValues change (ofList entries) := by
  have collects : ∀ collected : Entries α,
      (mapValues change entries).foldl (fun sorted entry => insert entry.1 entry.2 sorted)
          (mapValues change collected) =
        mapValues change
          (entries.foldl (fun sorted entry => insert entry.1 entry.2 sorted) collected) := by
    induction entries with
    | nil => exact fun _ => rfl
    | cons head rest ih =>
        intro collected
        rw [List.foldl_cons, ← ih, ← insert_mapValues]
        rfl
  exact collects []

theorem get?_mapValues (key : String) (entries : Entries α) :
    get? (mapValues change entries) key = (get? entries key).map change :=
  get?_map (fun _ => change) entries key

end Values

/-- Where no key repeats, a lookup does not see the sorting. -/
theorem get?_ofList (distinct : (keys entries).Nodup) (key : String) :
    get? (ofList entries) key = get? entries key := by
  ext value
  rw [get?_eq_some_iff (ascending_ofList entries).nodup_keys, mem_ofList distinct,
    get?_eq_some_iff distinct]

end Insertion

end ApiContract.Entries
