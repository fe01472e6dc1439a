import ApiContract.Number.Power
import ApiContract.Text.Blank
import ApiContract.Time.Instant

/-!
# Reading instants

An instant is read from text in one of four forms, the first that fits: a date and
a time with an offset from universal time, with all digits in place; a date and a
time joined by `T` or by blanks, in universal time; or a date, which means its
midnight.  The last three forms let blanks stand before each number and numbers be
short.
-/

namespace ApiContract.Time

/-- Reads between one and a given number of digits. -/
def readDigits (most : Nat) (chars : List Char) : Option (Nat × List Char) :=
  let digits := (chars.take most).takeWhile Char.isDigit
  if digits = [] then none
  else some (Text.decimalValue digits, chars.drop digits.length)

/-- Reads exactly the given number of digits. -/
def readExactDigits (count : Nat) (chars : List Char) : Option (Nat × List Char) :=
  let digits := (chars.take count).takeWhile Char.isDigit
  if digits.length = count then some (Text.decimalValue digits, chars.drop count)
  else none

/-- Reads one fixed character. -/
def readChar (expected : Char) : List Char → Option (List Char)
  | [] => none
  | char :: rest => if char = expected then some rest else none

/-- The nanoseconds that fractional digits denote. Digits after the ninth are
dropped. -/
def nanosecondsOf (digits : List Char) : Nat :=
  let kept := digits.take 9
  Text.decimalValue kept * tenTo (9 - kept.length)

/-- Reads a point and digits, or nothing. -/
def readFraction : List Char → Option (Nat × List Char)
  | '.' :: rest =>
      let (digits, rest) := rest.span Char.isDigit
      if digits = [] then none else some (nanosecondsOf digits, rest)
  | rest => some (0, rest)

/-- A time of day; the second may be 60. -/
structure ClockTime where
  hour : Nat
  minute : Nat
  second : Nat
  nanoseconds : Nat

/-- The instant of a date and a time of day at an offset, in seconds, from
universal time. Second 60 is the leap second of second 59. -/
def instantOf (date : CalendarDate) (clock : ClockTime) (offset : Int) : Option Instant :=
  if date.exists_ ∧ clock.hour ≤ 23 ∧ clock.minute ≤ 59 ∧ clock.second ≤ 60 then
    let (second, nanoseconds) :=
      if clock.second = 60 then (59, clock.nanoseconds + 1000000000)
      else (clock.second, clock.nanoseconds)
    let timeOfDay : Nat := clock.hour * 3600 + clock.minute * 60 + second
    Instant.ofParts? (date.toDays * 86400 + timeOfDay - offset) nanoseconds
  else none

/-- Reads `Z`, or a sign and hours and minutes, as seconds. -/
def readOffset : List Char → Option (Int × List Char)
  | [] => none
  | mark :: rest =>
      if mark = 'Z' ∨ mark = 'z' then some (0, rest)
      else if mark = '+' ∨ mark = '-' ∨ mark = '−' then do
        let (hours, rest) ← readExactDigits 2 rest
        let rest ← readChar ':' rest
        let (minutes, rest) ← readExactDigits 2 rest
        if hours ≤ 23 ∧ minutes ≤ 59 then
          let seconds : Int := hours * 3600 + minutes * 60
          some (if mark = '+' then seconds else -seconds, rest)
        else none
      else none

/-- Reads a date and time with an offset. -/
def readWithOffset (chars : List Char) : Option Instant := do
  let (year, rest) ← readExactDigits 4 chars
  let rest ← readChar '-' rest
  let (month, rest) ← readExactDigits 2 rest
  let rest ← readChar '-' rest
  let (day, rest) ← readExactDigits 2 rest
  let rest ← readChar 'T' rest <|> readChar 't' rest <|> readChar ' ' rest
  let (hour, rest) ← readExactDigits 2 rest
  let rest ← readChar ':' rest
  let (minute, rest) ← readExactDigits 2 rest
  let rest ← readChar ':' rest
  let (second, rest) ← readExactDigits 2 rest
  let (nanoseconds, rest) ← readFraction rest
  let (offset, rest) ← readOffset rest
  if rest = [] then
    instantOf ⟨year, month, day⟩ ⟨hour, minute, second, nanoseconds⟩ offset
  else none

/-- Reads a year: up to four digits, or a sign and any number of them. -/
def readYear (chars : List Char) : Option (Int × List Char) :=
  match Text.trimStart chars with
  | '-' :: rest => (readDigits rest.length rest).map fun (year, rest) => (-(year : Int), rest)
  | '+' :: rest => (readDigits rest.length rest).map fun (year, rest) => ((year : Int), rest)
  | rest => (readDigits 4 rest).map fun (year, rest) => ((year : Int), rest)

/-- Reads one or two digits after blanks. -/
def readField (chars : List Char) : Option (Nat × List Char) :=
  readDigits 2 (Text.trimStart chars)

/-- Reads a date with dashes. -/
def readDate (chars : List Char) : Option (CalendarDate × List Char) := do
  let (year, rest) ← readYear chars
  let rest ← readChar '-' rest
  let (month, rest) ← readField rest
  let rest ← readChar '-' rest
  let (day, rest) ← readField rest
  some (⟨year, month, day⟩, rest)

/-- Reads a time of day with colons. -/
def readClock (chars : List Char) : Option (ClockTime × List Char) := do
  let (hour, rest) ← readField chars
  let rest ← readChar ':' rest
  let (minute, rest) ← readField rest
  let rest ← readChar ':' rest
  let (second, rest) ← readField rest
  let (nanoseconds, rest) ← readFraction rest
  some (⟨hour, minute, second, nanoseconds⟩, rest)

/-- Reads a date and time in universal time, given what stands between them. -/
def readDateTime (between : List Char → Option (List Char)) (chars : List Char) :
    Option Instant := do
  let (date, rest) ← readDate chars
  let rest ← between rest
  let (clock, rest) ← readClock rest
  if rest = [] then instantOf date clock 0 else none

/-- Reads a date as its midnight. -/
def readMidnight (chars : List Char) : Option Instant := do
  let (date, rest) ← readDate chars
  if rest = [] then instantOf date ⟨0, 0, 0, 0⟩ 0 else none

/-- Reads an instant in the first form that fits. Blanks around it do not matter. -/
def readInstant (chars : List Char) : Option Instant :=
  let chars := Text.trim chars
  readWithOffset chars
    <|> readDateTime (readChar 'T') chars
    <|> readDateTime (fun rest => some (Text.trimStart rest)) chars
    <|> readMidnight chars

end ApiContract.Time
