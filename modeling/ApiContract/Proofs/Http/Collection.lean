import ApiContract.Proofs.Exchange.FirstAnswer
import ApiContract.Proofs.Http.Parity

/-!
# Names that repeat

Query parameters, the headers of a request and those of a response are lists in which a name may
occur several times, and each of them becomes an object.  A name that occurs once has its text
there, one that occurs more often has the array of its texts, and no other name has a member.
A response differs from the others in that a header takes the place of earlier ones of its name.
-/

namespace ApiContract

open Http (textsUnder queryValue)

/-! ## Texts under a name -/

namespace Http

theorem textsUnder_append (left right : List (String × String)) (key : String) :
    textsUnder (left ++ right) key = textsUnder left key ++ textsUnder right key := by
  simp [textsUnder]

/-- Texts that are listed under a name are found under that name only. -/
theorem textsUnder_map (name key : String) (texts : List String) :
    textsUnder (texts.map fun text => (name, text)) key = if name = key then texts else [] := by
  by_cases same : name = key
  · simp [textsUnder, same, List.filter_map, Function.comp_def]
  · simp [textsUnder, same]

theorem textsUnder_erase (pairs : List (String × String)) (name key : String) :
    textsUnder (pairs.filter fun pair => pair.1 ≠ name) key =
      if name = key then [] else textsUnder pairs key := by
  rw [textsUnder, List.filter_filter]
  split
  · next same => simp [same]
  · next differ =>
      have kept : ∀ pair ∈ pairs,
          (decide (pair.1 = key) && decide (pair.1 ≠ name)) = decide (pair.1 = key) := by
        intro pair _
        by_cases found : pair.1 = key
        · simp [found, Ne.symm differ]
        · simp [found]
      rw [List.filter_congr kept]
      rfl

/-- A lookup finds the first of the texts under a name. -/
theorem get?_eq_head?_textsUnder (pairs : List (String × String)) (key : String) :
    Entries.get? pairs key = (textsUnder pairs key).head? := by
  induction pairs with
  | nil => rfl
  | cons pair rest ih =>
      rw [Entries.get?_cons, ih]
      by_cases same : key = pair.1
      · simp [textsUnder, same]
      · simp [textsUnder, same, Ne.symm same]

end Http

namespace MultiValue

/-- What the texts under a name make: nothing, one text, or an array of several. -/
def ofTexts : List String → Option Value
  | [] => none
  | [text] => some (.string text)
  | text :: other :: more => some (.array ((text :: other :: more).map .string))

@[simp] theorem ofTexts_eq_none_iff {texts : List String} : ofTexts texts = none ↔ texts = [] := by
  cases texts with
  | nil => simp [ofTexts]
  | cons text rest => cases rest <;> simp [ofTexts]

/-- One more text under a name extends what the others have made. -/
theorem ofTexts_concat (texts : List String) (text : String) :
    ofTexts (texts ++ [text]) =
      some (((ofTexts texts).map (extended · text)).getD (.string text)) := by
  cases texts with
  | nil => rfl
  | cons first rest =>
      cases rest with
      | nil => rfl
      | cons second more => simp [ofTexts, extended]

/-- The value is an object that has, under each name, what the texts of the name make. It has
members for names with texts and for no others. -/
def Collects (value : Value) (texts : String → List String) : Prop :=
  ∃ members, value = .object members ∧ Entries.Ascending members ∧
    (∀ name, Entries.get? members name = ofTexts (texts name)) ∧
      ∀ name, name ∈ Entries.keys members ↔ texts name ≠ []

/-! ## Collecting -/

variable {members : Entries Value}

theorem ascending_add (ascending : Entries.Ascending members) (name text : String) :
    Entries.Ascending (add members name text) := by
  rw [add]
  split <;> exact Entries.ascending_insert ascending

theorem collect_concat (pairs : List (String × String)) (name text : String) :
    collect (pairs ++ [(name, text)]) = add (collect pairs) name text := by
  simp [collect]

theorem ascending_collect (pairs : List (String × String)) :
    Entries.Ascending (collect pairs) := by
  induction pairs using List.reverseRecOn with
  | nil => exact .nil
  | append_singleton pairs pair ih =>
      rw [collect_concat]
      exact ascending_add ih pair.1 pair.2

theorem get?_collect (pairs : List (String × String)) (key : String) :
    Entries.get? (collect pairs) key = ofTexts (textsUnder pairs key) := by
  induction pairs using List.reverseRecOn with
  | nil => rfl
  | append_singleton pairs pair ih =>
      have last := Http.textsUnder_map pair.1 key [pair.2]
      rw [List.map_singleton] at last
      rw [collect_concat, get?_add, Http.textsUnder_append, last]
      by_cases same : key = pair.1
      · subst same
        rw [if_pos rfl, if_pos rfl, ofTexts_concat, ih]
      · rw [if_neg same, if_neg (Ne.symm same), List.append_nil, ih]

/-- Collecting loses no text and adds none, whatever the order in which names come. -/
theorem collects_collect (pairs : List (String × String)) :
    Collects (.object (collect pairs)) (textsUnder pairs) := by
  refine ⟨collect pairs, rfl, ascending_collect pairs, get?_collect pairs, ?_⟩
  intro name
  rw [← Entries.exists_get?_iff, get?_collect, ← Option.ne_none_iff_exists', ne_eq,
    ofTexts_eq_none_iff]

theorem collects_headers (pairs : List (String × String)) (request : Request)
    (fresh : request.headers = .object []) :
    Collects (pairs.foldl (fun request (name, text) => request.addHeader name text) request).headers
      (textsUnder (loweredHeaders pairs)) := by
  rw [Request.foldl_addHeader pairs request fresh]
  exact collects_collect (loweredHeaders pairs)

end MultiValue

/-! ## Headers of a response -/

namespace Response

open MultiValue (Collects)

/-- The texts of the last call that sets a header, or none if no call does. -/
def lastTexts (calls : List (String × Value)) (name : String) : List String :=
  ((calls.reverse.find? fun call => Text.lowered call.1 = name).map
    fun call => headerTexts call.2).getD []

theorem lastTexts_concat (calls : List (String × Value)) (name key : String) (value : Value) :
    lastTexts (calls ++ [(name, value)]) key =
      if Text.lowered name = key then headerTexts value else lastTexts calls key := by
  by_cases same : Text.lowered name = key
  · simp [lastTexts, same]
  · simp [lastTexts, same]

/-- A header takes the place of those of its name and leaves all others. -/
theorem textsUnder_withHeader (response : Response) (name key : String) (value : Value) :
    textsUnder (response.withHeader name value).headers key =
      if Text.lowered name = key then headerTexts value else textsUnder response.headers key := by
  rw [withHeader, Http.textsUnder_append, Http.textsUnder_erase, Http.textsUnder_map]
  split <;> simp

/-- The response on which headers are set by one call after the other. -/
def ofCalls (calls : List (String × Value)) : Response :=
  (outcome (calls.map fun call => .setHeader call.1 call.2)).1

theorem ofCalls_concat (calls : List (String × Value)) (name : String) (value : Value) :
    ofCalls (calls ++ [(name, value)]) = (ofCalls calls).withHeader name value := by
  rw [ofCalls, List.map_append, List.map_singleton, outcome_concat]
  rfl

theorem textsUnder_ofCalls (calls : List (String × Value)) (key : String) :
    textsUnder (ofCalls calls).headers key = lastTexts calls key := by
  induction calls using List.reverseRecOn with
  | nil => rfl
  | append_singleton calls call ih =>
      rw [ofCalls_concat, textsUnder_withHeader, lastTexts_concat, ih]

theorem collects_headerValue (calls : List (String × Value)) :
    Collects (ofCalls calls).headerValue (lastTexts calls) := by
  have texts : textsUnder (ofCalls calls).headers = lastTexts calls :=
    funext (textsUnder_ofCalls calls)
  rw [← texts]
  exact MultiValue.collects_collect (ofCalls calls).headers

theorem header?_ofCalls (calls : List (String × Value)) (name : String) :
    (ofCalls calls).header? name = (lastTexts calls (Text.lowered name)).head? := by
  rw [← textsUnder_ofCalls]
  exact Http.get?_eq_head?_textsUnder (ofCalls calls).headers (Text.lowered name)

end Response

/-- Query parameters, the headers added to a fresh request and the headers set on a fresh response
are collected without loss: by name all texts in their order, and for a response the texts of the
last call, the first of which is what a lookup finds. -/
theorem collects_texts (pairs : List (String × String)) (method path : String)
    (calls : List (String × Value)) :
    MultiValue.Collects (queryValue pairs) (textsUnder pairs) ∧
      MultiValue.Collects
        (pairs.foldl (fun request (name, text) => request.addHeader name text)
          ({ method := method, path := path } : Request)).headers
        (textsUnder (loweredHeaders pairs)) ∧
      MultiValue.Collects (Response.ofCalls calls).headerValue (Response.lastTexts calls) ∧
      ∀ name, (Response.ofCalls calls).header? name =
        (Response.lastTexts calls (Text.lowered name)).head? := by
  refine ⟨MultiValue.collects_collect pairs, ?_, ?_, ?_⟩
  · exact MultiValue.collects_headers pairs { method := method, path := path } rfl
  · exact Response.collects_headerValue calls
  · exact Response.header?_ofCalls calls

/-- A name that is seen again after another one is still collected under its first text. -/
example :
    queryValue [("tag", "a"), ("page", "2"), ("tag", "b")] =
      .object [("page", .string "2"), ("tag", .array [.string "a", .string "b"])] := by
  rfl

end ApiContract
