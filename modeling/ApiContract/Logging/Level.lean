import ApiContract.Text.Ascii

/-!
# Levels of log records

A record has a level, and a limit admits the records of its level and above.
-/

namespace ApiContract.Logging

/-- How important a record is. -/
inductive Level where
  | trace
  | debug
  | info
  | warn
  | error
  deriving DecidableEq

namespace Level

/-- The place of a level among the levels. -/
def rank : Level → Nat
  | .trace => 0
  | .debug => 1
  | .info => 2
  | .warn => 3
  | .error => 4

/-- The name of a level. -/
def name : Level → String
  | .trace => "trace"
  | .debug => "debug"
  | .info => "info"
  | .warn => "warn"
  | .error => "error"

/-- The levels, the least important first. -/
def all : List Level :=
  [.trace, .debug, .info, .warn, .error]

/-- The level of a name of any letter case. -/
def ofName? (text : String) : Option Level :=
  all.find? fun level => level.name = Text.lowered text

end Level

/-- The least important level that is admitted; `none` admits nothing. -/
abbrev Limit := Option Level

namespace Limit

/-- A limit admits a level. -/
def admits (limit : Limit) (level : Level) : Bool :=
  limit.any fun least => least.rank ≤ level.rank

/-- The limit that a setting names. What is not a name of a level stands for `info`. -/
def ofSetting (text : String) : Limit :=
  let word := Text.lowered text
  if word = "off" ∨ word = "none" then none else some ((Level.ofName? word).getD .info)

end Limit

end ApiContract.Logging
