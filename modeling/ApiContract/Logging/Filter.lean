import ApiContract.Logging.Level
import ApiContract.Text.Blank
import ApiContract.Text.Search

/-!
# Filters of log records

A filter has limits for some targets and one for all others.  A limit holds for the
targets that start with its name; of several the one with the longest name counts.
-/

namespace ApiContract.Logging

/-- A record. Its target is part of the text of the program that emits it, so what records there
are is up to the program. -/
structure LogRecord where
  target : String
  level : Level
  message : String
  deriving DecidableEq

/-- Of some named things one with the longest name. -/
def longestNamed? {α : Type} : List (String × α) → Option (String × α)
  | [] => none
  | entry :: rest =>
      match longestNamed? rest with
      | none => some entry
      | some best => if best.1.length < entry.1.length then some entry else some best

/-- A filter. -/
structure Filter where
  fallback : Limit
  named : List (String × Limit) := []
  deriving DecidableEq

namespace Filter

/-- The name of a limit starts the name of a target. -/
def isPrefix (name target : String) : Bool :=
  name.toList.isPrefixOf target.toList

/-- The limit for a target. -/
def limitFor (filter : Filter) (target : String) : Limit :=
  let candidates := filter.named.filter fun entry => isPrefix entry.1 target
  ((longestNamed? candidates).map Prod.snd).getD filter.fallback

/-- The filter admits a record. -/
def admits (filter : Filter) (record : LogRecord) : Bool :=
  (filter.limitFor record.target).admits record.level

/-- The limit that a word or a digit names. -/
def limitOfWord? (word : String) : Option Limit :=
  let digits : List (String × Limit) :=
    [("0", none), ("1", some .error), ("2", some .warn), ("3", some .info), ("4", some .debug),
      ("5", some .trace)]
  if Text.lowered word = "off" then some none
  else
    match digits.lookup word with
    | some limit => some limit
    | none => (Level.ofName? word).map some

/-- A part of the text of a filter: a limit for all targets or for one. What is said
about spans of time concerns no record outside of them. -/
inductive Directive where
  | all (limit : Limit)
  | one (target : String) (limit : Limit)
  | span

/-- The character may start a directive. -/
def startsDirective (char : Char) : Bool :=
  char.isAlphanum || char == '-' || char == ':' || char == '_' || 128 ≤ char.toNat

/-- Reads a directive: a limit, a target, or a target, an equals sign and a limit. -/
def readDirective? (chars : List Char) : Option Directive :=
  let chars := Text.trim chars
  if chars.contains '[' then some .span
  else if !(chars.head?.map startsDirective).getD false then none
  else
    match Text.splitAtFirst '=' chars with
    | (word, none) =>
        let word := String.ofList word
        match limitOfWord? word with
        | some limit => some (.all limit)
        | none => some (.one word (some .trace))
    | (target, some []) => some (.one (String.ofList target) (some .trace))
    | (target, some word) =>
        (limitOfWord? (String.ofList word)).map (.one (String.ofList target))

/-- A filter with one directive more. Of two for the same target the later counts. -/
def withDirective (filter : Filter) : Directive → Filter
  | .all limit => { filter with fallback := limit }
  | .one target limit =>
      { filter with
        named := (filter.named.filter fun entry => entry.1 ≠ target) ++ [(target, limit)] }
  | .span => filter

/-- The filter that a text of directives with commas between them describes. Targets
that it does not name are shut off unless it has a limit for all. -/
def ofText? (text : String) : Option Filter := do
  let words := (Text.splitOnChar ',' text.toList).filter fun word => word ≠ []
  let directives ← words.mapM readDirective?
  if directives.isEmpty then some { fallback := some .error }
  else some (directives.foldl withDirective { fallback := none })

end Filter

end ApiContract.Logging
