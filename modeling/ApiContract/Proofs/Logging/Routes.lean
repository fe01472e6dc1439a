import ApiContract.Proofs.Logging.Delivery
import ApiContract.Text.Utf8

/-!
# Routes in any order

The sections of a configuration have no order of their own, so a table of routes may list its
names in any.  Names that cover one target are all starts of it, and of these there is one of each
length.  So the longest name is at one place of the table at most, and where records go does not
depend on the order.
-/

namespace ApiContract.Logging

/-! ## Measures of names -/

/-- A measure of texts adds up over their parts, and nothing but the empty text has none. -/
structure Measures (size : String → Nat) : Prop where
  append : ∀ left right, size (left ++ right) = size left + size right
  eq_empty : ∀ text, size text = 0 → text = ""

theorem measures_length : Measures String.length where
  append := String.length_append
  eq_empty _ := String.length_eq_zero_iff.mp

theorem measures_utf8Length : Measures Text.utf8Length where
  append _ _ := String.utf8ByteSize_append
  eq_empty _ := String.utf8ByteSize_eq_zero_iff.mp

section Measured

variable {size : String → Nat} {name other target : String}

/-- Of two starts of one text, that which is not larger starts the other. -/
theorem Measures.le_iff_isPrefix (measures : Measures size)
    (starts : Filter.isPrefix name target) (otherStarts : Filter.isPrefix other target) :
    size name ≤ size other ↔ Filter.isPrefix name other := by
  constructor
  · intro most
    rw [Filter.isPrefix, List.isPrefixOf_iff_prefix] at starts otherStarts
    rcases List.prefix_or_prefix_of_prefix starts otherStarts with shorter | longer
    · exact List.isPrefixOf_iff_prefix.mpr shorter
    · rcases isPrefix_iff.mp (List.isPrefixOf_iff_prefix.mpr longer) with ⟨rest, rfl⟩
      rw [measures.append] at most
      have nothing : rest = "" := measures.eq_empty rest (by omega)
      exact isPrefix_iff.mpr ⟨"", by simp [nothing]⟩
  · intro isStart
    rcases isPrefix_iff.mp isStart with ⟨rest, rfl⟩
    rw [measures.append]
    exact Nat.le_add_right _ _

/-- Starts of one text compare alike by every measure. -/
theorem Measures.le_iff_length_le (measures : Measures size)
    (starts : Filter.isPrefix name target) (otherStarts : Filter.isPrefix other target) :
    size name ≤ size other ↔ name.length ≤ other.length := by
  rw [measures.le_iff_isPrefix starts otherStarts,
    measures_length.le_iff_isPrefix starts otherStarts]

end Measured

/-! ## Tables of routes -/

namespace FileRoutes

variable {α : Type} {routes : FileRoutes α} {size : String → Nat} {target : String}
  {destination : Option α}

/-- Routes send a target to the destination of the largest name that covers it, and without any
such name to the fallback. -/
inductive Sends (routes : FileRoutes α) (size : String → Nat) (target : String) :
    Option α → Prop where
  | largest {name : String} {place : α} (member : (name, place) ∈ routes.named)
      (covers : Covers name target)
      (most : ∀ other ∈ routes.named, Covers other.1 target → size other.1 ≤ size name) :
      Sends routes size target (some place)
  | fallback (none : ∀ other ∈ routes.named, ¬Covers other.1 target) :
      Sends routes size target routes.fallback

/-- The routes whose names cover a target. -/
def covering (routes : FileRoutes α) (target : String) : List (String × α) :=
  routes.named.filter fun entry => belongsTo entry.1 target

theorem mem_covering_iff {entry : String × α} :
    entry ∈ routes.covering target ↔ entry ∈ routes.named ∧ Covers entry.1 target := by
  rw [covering, List.mem_filter, belongsTo_iff]

theorem isPrefix_of_mem_covering (target : String) :
    ∀ entry ∈ routes.covering target, Filter.isPrefix entry.1 target :=
  fun _ member => isPrefix_of_belongsTo (List.mem_filter.mp member).2

theorem nodup_keys_covering (distinct : (Entries.keys routes.named).Nodup) (target : String) :
    (Entries.keys (routes.covering target)).Nodup :=
  Entries.nodup_keys_filter distinct _

theorem resolve?_eq (routes : FileRoutes α) (target : String) :
    routes.resolve? target =
      ((longestNamed? (routes.covering target)).map Prod.snd).or routes.fallback := by
  rw [resolve?, covering]
  cases longestNamed? (routes.named.filter fun entry => belongsTo entry.1 target) <;> rfl

theorem sends_resolve? (measures : Measures size) (routes : FileRoutes α) (target : String) :
    routes.Sends size target (routes.resolve? target) := by
  rw [resolve?_eq]
  cases found : longestNamed? (routes.covering target) with
  | none =>
      refine .fallback ?_
      intro other isOther covers
      have isCovering := mem_covering_iff.mpr ⟨isOther, covers⟩
      rw [longestNamed?_eq_none_iff.mp found] at isCovering
      cases isCovering
  | some entry =>
      rcases longestNamed?_spec found with ⟨isCovering, most⟩
      rcases mem_covering_iff.mp isCovering with ⟨member, covers⟩
      refine .largest member covers ?_
      intro other isOther otherCovers
      have otherIsCovering := mem_covering_iff.mpr ⟨isOther, otherCovers⟩
      exact (measures.le_iff_length_le (isPrefix_of_mem_covering target other otherIsCovering)
        (isPrefix_of_mem_covering target entry isCovering)).mpr (most other otherIsCovering)

theorem Sends.resolve?_eq (distinct : (Entries.keys routes.named).Nodup)
    (measures : Measures size) (sends : routes.Sends size target destination) :
    routes.resolve? target = destination := by
  rw [FileRoutes.resolve?_eq]
  cases sends with
  | @largest name place member covers most =>
      have isCovering := mem_covering_iff.mpr ⟨member, covers⟩
      have found : longestNamed? (routes.covering target) = some (name, place) := by
        rw [longestNamed?_eq_some_iff (nodup_keys_covering distinct target)
          (isPrefix_of_mem_covering target)]
        refine ⟨isCovering, ?_⟩
        intro other otherIsCovering
        rcases mem_covering_iff.mp otherIsCovering with ⟨isOther, otherCovers⟩
        exact (measures.le_iff_length_le (isPrefix_of_mem_covering target other otherIsCovering)
          (isPrefix_of_mem_covering target _ isCovering)).mp (most other isOther otherCovers)
      rw [found]
      rfl
  | fallback none =>
      have nothing : routes.covering target = [] := by
        rw [List.eq_nil_iff_forall_not_mem]
        intro entry isCovering
        rcases mem_covering_iff.mp isCovering with ⟨member, covers⟩
        exact none entry member covers
      rw [nothing]
      rfl

theorem resolve?_eq_iff_sends (distinct : (Entries.keys routes.named).Nodup)
    (measures : Measures size) :
    routes.resolve? target = destination ↔ routes.Sends size target destination := by
  constructor
  · rintro rfl
    exact sends_resolve? measures routes target
  · exact Sends.resolve?_eq distinct measures

theorem resolve?_eq_of_perm {reordered : List (String × α)}
    (distinct : (Entries.keys routes.named).Nodup) (reorders : reordered.Perm routes.named)
    (target : String) :
    ({ routes with named := reordered } : FileRoutes α).resolve? target =
      routes.resolve? target := by
  have covering : (({ routes with named := reordered } : FileRoutes α).covering target).Perm
      (routes.covering target) :=
    reorders.filter _
  rw [resolve?_eq, resolve?_eq, longestNamed?_eq_of_perm (nodup_keys_covering distinct target)
    (isPrefix_of_mem_covering target) covering]

/-- In whatever order routes are listed, a target is sent to the same destination: that of the
longest name that covers it, in characters as in bytes, or the fallback if no name does. -/
theorem resolves_in_any_order {reordered : List (String × α)}
    (distinct : (Entries.keys routes.named).Nodup) (reorders : reordered.Perm routes.named)
    (target : String) :
    ({ routes with named := reordered } : FileRoutes α).resolve? target =
        routes.resolve? target ∧
      ∀ destination,
        (routes.resolve? target = destination ↔ routes.Sends String.length target destination) ∧
          (routes.resolve? target = destination ↔
            routes.Sends Text.utf8Length target destination) := by
  refine ⟨resolve?_eq_of_perm distinct reorders target, fun destination => ⟨?_, ?_⟩⟩
  · exact resolve?_eq_iff_sends distinct measures_length
  · exact resolve?_eq_iff_sends distinct measures_utf8Length

/-- Two names, of which one goes on from the other and has more bytes than characters. -/
def nested : FileRoutes String where
  fallback := some "all.log"
  named := [("kern::größe", "size.log"), ("kern", "core.log")]

theorem nested_resolves_in_any_order :
    (Entries.keys nested.named).Nodup ∧ nested.named.reverse.Perm nested.named ∧
      ({ nested with named := nested.named.reverse } : FileRoutes String).resolve?
          "kern::größe::tief" = some "size.log" ∧
      nested.Sends Text.utf8Length "kern::größe::tief" (some "size.log") ∧
      nested.Sends Text.utf8Length "kern_zwei" (some "all.log") := by
  have distinct : (Entries.keys nested.named).Nodup := by decide +kernel
  have reorders : nested.named.reverse.Perm nested.named := List.reverse_perm _
  have inner := resolves_in_any_order distinct reorders "kern::größe::tief"
  have outer := resolves_in_any_order distinct reorders "kern_zwei"
  have found : nested.resolve? "kern::größe::tief" = some "size.log" := by decide +kernel
  exact ⟨distinct, reorders, inner.1.trans found, (inner.2 _).2.mp found,
    (outer.2 _).2.mp (by decide +kernel)⟩

end FileRoutes

/-! ## Configurations in any order -/

namespace LogSections

variable {sections reordered : LogSections} {suits : String × LogSection → Bool}
  {reserve : Option LogSection} {item : LogSection} {directory : String}

theorem Decides.of_perm (decides : sections.Decides suits reserve item)
    (reorders : reordered.Perm sections) : reordered.Decides suits reserve item := by
  have same (entry : String × LogSection) :
      entry ∈ reordered.ofTargets ↔ entry ∈ sections.ofTargets :=
    (reorders.filter _).mem_iff
  cases decides with
  | longest member suitable most =>
      exact .longest ((same _).mpr member) suitable
        fun other isOther => most other ((same other).mp isOther)
  | reserve none isReserve =>
      exact .reserve (fun other isOther => none other ((same other).mp isOther)) isReserve

theorem decides_iff_of_perm (reorders : reordered.Perm sections) :
    reordered.Decides suits reserve item ↔ sections.Decides suits reserve item :=
  ⟨fun decides => decides.of_perm reorders.symm, fun decides => decides.of_perm reorders⟩

/-- In whatever order sections are read, as long as all files can be opened in it, a record is
written to the same file. -/
theorem destination?_eq_of_perm (distinct : (Entries.keys sections).Nodup)
    (reorders : reordered.Perm sections) (canOpen : sections.opens directory)
    (alsoOpens : reordered.opens directory) (record : LogRecord) :
    (LogPlan.ofSections directory reordered).destination? none record =
      (LogPlan.ofSections directory sections).destination? none record := by
  have alsoDistinct : (Entries.keys reordered).Nodup :=
    (reorders.map Prod.fst).nodup_iff.mpr distinct
  have sameDefault : reordered.default? = sections.default? :=
    Entries.get?_eq_of_perm distinct reorders defaultTarget
  ext path
  rw [destination?_eq_some_iff alsoDistinct alsoOpens, destination?_eq_some_iff distinct canOpen]
  simp only [Limits, Keeps, sameDefault, decides_iff_of_perm reorders]

end LogSections

end ApiContract.Logging
