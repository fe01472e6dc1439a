import ApiContract.Text.Ascii
import ApiContract.Time.Calendar

/-!
# Instants

An instant is a second of universal time and a count of nanoseconds in it.  A
count of a billion or more marks a leap second, which only the last second of a
minute can have.  Instants span the years -262143 to 262142.
-/

namespace ApiContract

/-- The first second of the year -262143. -/
def firstSecond : Int := -8334601228800

/-- The last second of the year 262142. -/
def lastSecond : Int := 8210266876799

/-- The seconds and nanoseconds name an instant. -/
def IsInstant (seconds : Int) (nanoseconds : Nat) : Prop :=
  firstSecond ≤ seconds ∧ seconds ≤ lastSecond ∧ nanoseconds < 2000000000 ∧
    (nanoseconds < 1000000000 ∨ seconds % 60 = 59)

instance (seconds : Int) (nanoseconds : Nat) : Decidable (IsInstant seconds nanoseconds) :=
  inferInstanceAs (Decidable (_ ∧ _ ∧ _ ∧ (_ ∨ _)))

/-- A point in time. -/
structure Instant where
  seconds : Int
  nanoseconds : Nat
  valid : IsInstant seconds nanoseconds
  deriving DecidableEq

namespace Instant

/-- The instant, if the parts name one. -/
def ofParts? (seconds : Int) (nanoseconds : Nat) : Option Instant :=
  if valid : IsInstant seconds nanoseconds then some ⟨seconds, nanoseconds, valid⟩ else none

/-- The instant a number of milliseconds after 1970, if it is in range. -/
def ofMillis? (millis : Int) : Option Instant :=
  ofParts? (millis / 1000) ((millis % 1000).toNat * 1000000)

/-- Whole milliseconds since 1970. -/
def toMillis (instant : Instant) : Int :=
  instant.seconds * 1000 + instant.nanoseconds / 1000000

/-- The date in universal time. -/
def date (instant : Instant) : CalendarDate :=
  .ofDays (instant.seconds / 86400)

/-- How much of the fraction of a second is written. -/
inductive Precision where
  /-- Three digits, the rest dropped. -/
  | millis
  /-- None, three, six or nine digits, as few as show everything. -/
  | exact

/-- The year, with a sign outside the years 0 to 9999. -/
def yearText (year : Int) : List Char :=
  let digits := Text.padLeft 4 '0' (Nat.toDigits 10 year.natAbs)
  if year < 0 then '-' :: digits
  else if 9999 < year then '+' :: digits
  else digits

/-- Two digits. -/
def twoDigits (value : Nat) : List Char :=
  Text.padLeft 2 '0' (Nat.toDigits 10 value)

/-- The fraction of a second with its point. -/
def fractionText (precision : Precision) (nanoseconds : Nat) : List Char :=
  let places (count value : Nat) : List Char :=
    '.' :: Text.padLeft count '0' (Nat.toDigits 10 value)
  match precision with
  | .millis => places 3 (nanoseconds / 1000000)
  | .exact =>
      if nanoseconds = 0 then []
      else if nanoseconds % 1000000 = 0 then places 3 (nanoseconds / 1000000)
      else if nanoseconds % 1000 = 0 then places 6 (nanoseconds / 1000)
      else places 9 nanoseconds

/-- The instant as date and time in universal time, marked by `Z`. A leap second
shows as second 60. -/
def chars (precision : Precision) (instant : Instant) : List Char :=
  let date := instant.date
  let clock := (instant.seconds % 86400).toNat
  let leap := instant.nanoseconds / 1000000000
  yearText date.year ++ '-' :: twoDigits date.month ++ '-' :: twoDigits date.day ++
    'T' :: twoDigits (clock / 3600) ++ ':' :: twoDigits (clock / 60 % 60) ++
    ':' :: twoDigits (clock % 60 + leap) ++
    fractionText precision (instant.nanoseconds % 1000000000) ++ ['Z']

/-- The text of an instant. -/
def text (precision : Precision) (instant : Instant) : String :=
  String.ofList (chars precision instant)

end Instant

end ApiContract
