import ApiContract.Proofs.Text.Digits
import ApiContract.Proofs.Time.Calendar
import ApiContract.Schema.Coercion
import Mathlib.Data.List.TakeDrop
import Mathlib.Data.List.TakeWhile

/-!
# Instants read back from their text

The text of an instant has the fraction of its second in milliseconds or exactly.  Where it
says all of it and the year has four digits without a sign, the text reads back as the
instant, a leap second as second 60.  Years with a sign are written and not read back.
-/

namespace ApiContract

namespace Time

/-- A reader goes on with what the one before it found. -/
theorem bind_of_found {α β : Type} (found : α) (next : α → Option β) :
    (some found >>= next) = next found :=
  rfl

/-! ## Fields of fixed width -/

/-- A number in a field of fixed width, with leading zeros. -/
abbrev field (count number : Nat) : List Char :=
  Text.padLeft count '0' (Nat.toDigits 10 number)

variable {count number : Nat}

theorem isDigit_of_mem_field {char : Char} (member : char ∈ field count number) : char.isDigit :=
  Text.isDigit_of_mem_padLeft member

theorem decimalValue_field (count number : Nat) :
    Text.decimalValue (field count number) = number := by
  rw [Text.decimalValue_padLeft, Text.decimalValue_toDigits]

/-- A field has at least as many digits as it is wide. -/
theorem field_ne_nil (positive : 0 < count) : field count number ≠ [] := by
  rw [← List.length_pos_iff, field, Text.padLeft, List.length_append, List.length_replicate]
  omega

/-- A field is read back, whatever follows it. -/
theorem readExactDigits_field (positive : 0 < count) (fits : number < tenTo count)
    (rest : List Char) :
    readExactDigits count (field count number ++ rest) = some (number, rest) := by
  have width := Text.length_padLeft_toDigits positive fits
  have taken : ((field count number ++ rest).take count).takeWhile Char.isDigit =
      field count number := by
    rw [List.take_left' width]
    exact List.takeWhile_eq_self_iff.mpr fun _ => isDigit_of_mem_field
  rw [readExactDigits, taken, List.drop_left' width, decimalValue_field]
  exact if_pos width

theorem readChar_self (char : Char) (rest : List Char) : readChar char (char :: rest) = some rest :=
  if_pos rfl

/-- The digits of a fraction of a second are read back as nanoseconds. -/
theorem readFraction_field (positive : 0 < count) (most : count ≤ 9)
    (fits : number < tenTo count) :
    readFraction ('.' :: (field count number ++ ['Z'])) =
      some (number * tenTo (9 - count), ['Z']) := by
  have width : (field count number).length = count := Text.length_padLeft_toDigits positive fits
  have digits := @isDigit_of_mem_field count number
  have split : (field count number ++ ['Z']).span Char.isDigit = (field count number, ['Z']) := by
    rw [List.span_eq_takeWhile_dropWhile, List.takeWhile_append_of_pos fun _ => digits,
      List.dropWhile_append_of_pos fun _ => digits]
    simp
  have filled : field count number ≠ [] := field_ne_nil positive
  have nanoseconds : nanosecondsOf (field count number) = number * tenTo (9 - count) := by
    rw [nanosecondsOf, List.take_of_length_le (by omega), width, decimalValue_field]
  simp only [readFraction, split]
  rw [if_neg filled, nanoseconds]

/-- The fraction of a second is read back if its text says all of it. -/
theorem readFraction_fractionText {precision : Instant.Precision} {nanoseconds : Nat}
    (fits : nanoseconds < 1000000000)
    (whole : precision = .millis → nanoseconds % 1000000 = 0) :
    readFraction (Instant.fractionText precision nanoseconds ++ ['Z']) =
      some (nanoseconds, ['Z']) := by
  have millis : nanoseconds % 1000000 = 0 →
      readFraction ('.' :: (field 3 (nanoseconds / 1000000) ++ ['Z'])) =
        some (nanoseconds, ['Z']) := by
    intro whole
    have scaled : nanoseconds / 1000000 * tenTo (9 - 3) = nanoseconds := by
      rw [show tenTo (9 - 3) = 1000000 by rfl]
      omega
    rw [readFraction_field (by decide) (by decide), scaled]
    rw [show tenTo 3 = 1000 by rfl]
    omega
  cases precision with
  | millis => exact millis (whole rfl)
  | exact =>
      simp only [Instant.fractionText]
      split_ifs with none inMillis inMicros
      · rw [none]
        rfl
      · exact millis inMillis
      · have scaled : nanoseconds / 1000 * tenTo (9 - 6) = nanoseconds := by
          rw [show tenTo (9 - 6) = 1000 by rfl]
          omega
        rw [List.cons_append, readFraction_field (by decide) (by decide), scaled]
        rw [show tenTo 6 = 1000000 by rfl]
        omega
      · have scaled : nanoseconds * tenTo (9 - 9) = nanoseconds := Nat.mul_one _
        rw [List.cons_append, readFraction_field (by decide) (by decide) fits, scaled]

/-- A date and time in fields is read as these. -/
theorem readWithOffset_fields {year month day hour minute second nanoseconds : Nat}
    {fraction : List Char} (fourDigits : year < 10000) (isMonth : month < 100) (isDay : day < 100)
    (isHour : hour < 100) (isMinute : minute < 100) (isSecond : second < 100)
    (isFraction : readFraction (fraction ++ ['Z']) = some (nanoseconds, ['Z'])) :
    readWithOffset
        (field 4 year ++ '-' :: (field 2 month ++ '-' :: (field 2 day ++ 'T' ::
          (field 2 hour ++ ':' :: (field 2 minute ++ ':' :: (field 2 second ++
            (fraction ++ ['Z']))))))) =
      instantOf ⟨year, month, day⟩ ⟨hour, minute, second, nanoseconds⟩ 0 := by
  have twoDigits : ∀ {number : Nat}, number < 100 → ∀ rest,
      readExactDigits 2 (field 2 number ++ rest) = some (number, rest) :=
    fun fits => readExactDigits_field (by decide) fits
  have timeMark : ∀ rest, (readChar 'T' ('T' :: rest) <|> readChar 't' ('T' :: rest) <|>
      readChar ' ' ('T' :: rest)) = some rest := fun _ => rfl
  have zone : readOffset ['Z'] = some (0, []) := rfl
  rw [readWithOffset, readExactDigits_field (by decide) fourDigits]
  simp only [↓bind_of_found, readChar_self, twoDigits isMonth,
    twoDigits isDay, ↓timeMark, twoDigits isHour, twoDigits isMinute, twoDigits isSecond,
    isFraction, zone, if_true]

/-! ## Fields read loosely -/

variable {char : Char}

/-- A reader of at most so many digits stops where the field ends. -/
theorem readDigits_field {most : Nat} (short : (field count number).length ≤ most)
    (filled : field count number ≠ []) (stops : ¬char.isDigit) (rest : List Char) :
    readDigits most (field count number ++ char :: rest) = some (number, char :: rest) := by
  have digits := @isDigit_of_mem_field count number
  have after : ((char :: rest).take (most - (field count number).length)).takeWhile Char.isDigit =
      [] := by
    cases most - (field count number).length with
    | zero => rfl
    | succ more => rw [List.take_succ_cons, List.takeWhile_cons_of_neg stops]
  have taken : ((field count number ++ char :: rest).take most).takeWhile Char.isDigit =
      field count number := by
    rw [List.take_append, List.take_of_length_le short,
      List.takeWhile_append_of_pos fun _ => digits, after, List.append_nil]
  rw [readDigits, taken, if_neg filled, decimalValue_field, List.drop_left]

theorem readField_field (fits : number < 100) (stops : ¬char.isDigit) (rest : List Char) :
    readField (field 2 number ++ char :: rest) = some (number, char :: rest) := by
  have width : (field 2 number).length = 2 := Text.length_padLeft_toDigits (by decide) fits
  have filled : field 2 number ≠ [] := field_ne_nil (by decide)
  have unblank : Text.trimStart (field 2 number ++ char :: rest) =
      field 2 number ++ char :: rest := by
    cases isField : field 2 number with
    | nil => exact absurd isField filled
    | cons digit more =>
        have isDigit : digit.isDigit := isDigit_of_mem_field (isField ▸ List.mem_cons_self)
        rw [List.cons_append, Text.trimStart, List.dropWhile_cons,
          Text.not_isBlank_of_isDigit isDigit]
        rfl
  rw [readField, unblank, readDigits_field (Nat.le_of_eq width) filled stops]

/-- A year with a sign is read as far as its digits go. -/
theorem exists_readYear_of_signed {sign : Char} (isSign : sign = '+' ∨ sign = '-')
    {chars after : List Char} (digits : readDigits chars.length chars = some (number, after)) :
    ∃ year, readYear (sign :: chars) = some (year, after) := by
  rcases isSign with rfl | rfl
  · have positive : readYear ('+' :: chars) =
        (readDigits chars.length chars).map fun read => ((read.1 : Int), read.2) := rfl
    exact ⟨_, positive.trans (by rw [digits, Option.map_some])⟩
  · have negative : readYear ('-' :: chars) =
        (readDigits chars.length chars).map fun read => (-(read.1 : Int), read.2) := rfl
    exact ⟨_, negative.trans (by rw [digits, Option.map_some])⟩

/-- A date whose year has a sign is read as a date, whatever follows it. -/
theorem exists_readDate_of_signed {sign : Char} (isSign : sign = '+' ∨ sign = '-')
    {month day : Nat} (isMonth : month < 100) (isDay : day < 100) (stops : ¬char.isDigit)
    (filled : field count number ≠ []) (rest : List Char) :
    ∃ date, readDate (sign :: (field count number ++ '-' :: (field 2 month ++ '-' ::
      (field 2 day ++ char :: rest)))) = some (date, char :: rest) := by
  have dash : ¬ '-'.isDigit := by decide
  have short : (field count number).length ≤ (field count number ++ '-' ::
      (field 2 month ++ '-' :: (field 2 day ++ char :: rest))).length := by
    rw [List.length_append]
    exact Nat.le_add_right _ _
  rcases exists_readYear_of_signed isSign (readDigits_field short filled dash _) with
    ⟨year, isYear⟩
  refine ⟨⟨year, month, day⟩, ?_⟩
  rw [readDate, isYear]
  simp only [↓bind_of_found, readChar_self,
    readField_field isMonth dash, readField_field isDay stops]

end Time

namespace Instant

open Time (field)

/-- The text of the instant says all about it: its fraction of a second is whole
milliseconds, and its year has four digits without a sign. -/
def IsWritable (instant : Instant) : Prop :=
  instant.nanoseconds % 1000000 = 0 ∧ 0 ≤ instant.date.year ∧ instant.date.year ≤ 9999

instance (instant : Instant) : Decidable instant.IsWritable :=
  inferInstanceAs (Decidable (_ ∧ _ ∧ _))

/-- The year has four digits without a sign. -/
def HasPlainYear (instant : Instant) : Prop :=
  0 ≤ instant.date.year ∧ instant.date.year ≤ 9999

instance (instant : Instant) : Decidable instant.HasPlainYear :=
  inferInstanceAs (Decidable (_ ∧ _))

variable {instant : Instant} {precision : Precision}

/-- The time of day of an instant as its text shows it. -/
def clock (instant : Instant) : Time.ClockTime where
  hour := (instant.seconds % 86400).toNat / 3600
  minute := (instant.seconds % 86400).toNat / 60 % 60
  second := (instant.seconds % 86400).toNat % 60 + instant.nanoseconds / 1000000000
  nanoseconds := instant.nanoseconds % 1000000000

/-- What the text of an instant says after the `T`. -/
def clockChars (precision : Precision) (instant : Instant) : List Char :=
  field 2 instant.clock.hour ++ ':' :: (field 2 instant.clock.minute ++ ':' ::
    (field 2 instant.clock.second ++ (fractionText precision instant.clock.nanoseconds ++ ['Z'])))

theorem chars_eq (precision : Precision) (instant : Instant) :
    chars precision instant =
      yearText instant.date.year ++ '-' :: (field 2 instant.date.month ++ '-' ::
        (field 2 instant.date.day ++ 'T' :: clockChars precision instant)) := by
  simp only [chars, clockChars, twoDigits, clock, List.append_assoc, List.cons_append]

theorem yearText_of_plain (plain : instant.HasPlainYear) :
    yearText instant.date.year = field 4 instant.date.year.toNat := by
  rcases plain with ⟨lower, upper⟩
  rw [yearText, if_neg (by omega), if_neg (by omega),
    show instant.date.year.natAbs = instant.date.year.toNat by omega]

theorem exists_yearText_of_signed (signed : ¬instant.HasPlainYear) :
    ∃ sign, (sign = '+' ∨ sign = '-') ∧
      yearText instant.date.year = sign :: field 4 instant.date.year.natAbs := by
  rw [yearText]
  split_ifs with negative large
  · exact ⟨'-', .inr rfl, rfl⟩
  · exact ⟨'+', .inl rfl, rfl⟩
  · exact absurd ⟨by omega, by omega⟩ signed

theorem clock_inRange (instant : Instant) :
    instant.clock.hour ≤ 23 ∧ instant.clock.minute ≤ 59 ∧ instant.clock.second ≤ 60 := by
  rcases instant.valid with ⟨_, _, nanoseconds, leap⟩
  simp only [clock]
  omega

theorem ofParts?_self (instant : Instant) :
    ofParts? instant.seconds instant.nanoseconds = some instant :=
  dif_pos instant.valid

/-- Date and time of day make up the instant again. -/
theorem instantOf_clock (instant : Instant) :
    Time.instantOf instant.date instant.clock 0 = some instant := by
  rcases instant.valid with ⟨_, _, nanoseconds, leap⟩
  have dated : instant.date.toDays = instant.seconds / 86400 := CalendarDate.toDays_ofDays _
  rw [Time.instantOf, if_pos ⟨CalendarDate.exists_ofDays _, clock_inRange instant⟩, dated]
  by_cases isLeap : instant.nanoseconds < 1000000000
  · have ordinary : ¬instant.clock.second = 60 := by
      simp only [clock]
      omega
    have seconds : instant.seconds / 86400 * 86400 +
        ((instant.clock.hour * 3600 + instant.clock.minute * 60 + instant.clock.second : Nat) :
          Int) - 0 = instant.seconds := by
      simp only [clock]
      omega
    have kept : instant.clock.nanoseconds = instant.nanoseconds := Nat.mod_eq_of_lt isLeap
    rw [if_neg ordinary]
    simp only [seconds, kept]
    exact ofParts?_self instant
  · have sixtieth : instant.clock.second = 60 := by
      simp only [clock]
      omega
    have seconds : instant.seconds / 86400 * 86400 +
        ((instant.clock.hour * 3600 + instant.clock.minute * 60 + 59 : Nat) : Int) - 0 =
          instant.seconds := by
      simp only [clock]
      omega
    have kept : instant.clock.nanoseconds + 1000000000 = instant.nanoseconds := by
      simp only [clock]
      omega
    rw [if_pos sixtieth]
    simp only [seconds, kept]
    exact ofParts?_self instant

/-- The date of an instant fits its fields. -/
theorem date_inRange (instant : Instant) : instant.date.month ≤ 12 ∧ instant.date.day ≤ 31 := by
  have inCalendar := CalendarDate.exists_ofDays (instant.seconds / 86400)
  have longest : CalendarDate.daysInMonth instant.date.year instant.date.month ≤ 31 := by
    unfold CalendarDate.daysInMonth
    split_ifs <;> decide
  simp only [CalendarDate.exists_, Bool.and_eq_true, decide_eq_true_eq] at inCalendar
  exact ⟨inCalendar.1.1.2, inCalendar.2.trans longest⟩

theorem readWithOffset_chars (plain : instant.HasPlainYear)
    (whole : precision = .millis → instant.nanoseconds % 1000000 = 0) :
    Time.readWithOffset (chars precision instant) = some instant := by
  rcases clock_inRange instant with ⟨hour, minute, second⟩
  rcases date_inRange instant with ⟨month, day⟩
  have ⟨lower, upper⟩ := plain
  have year : ((instant.date.year.toNat : Nat) : Int) = instant.date.year := by omega
  have inSecond : instant.clock.nanoseconds < 1000000000 := Nat.mod_lt _ (by decide)
  have inMillis : precision = .millis → instant.clock.nanoseconds % 1000000 = 0 := by
    intro isMillis
    have wholeMillis := whole isMillis
    simp only [clock]
    omega
  rw [chars_eq, yearText_of_plain plain, clockChars, Time.readWithOffset_fields (by omega)
    (by omega) (by omega) (by omega) (by omega) (by omega)
    (Time.readFraction_fractionText inSecond inMillis), year]
  exact instantOf_clock instant

/-- The text of an instant has no blanks. -/
theorem not_isBlank_of_mem_chars (precision : Precision) (instant : Instant) :
    ∀ char ∈ chars precision instant, Text.isBlank char = false := by
  have digits : ∀ count number, ∀ char ∈ field count number, Text.isBlank char = false :=
    fun _ _ _ member => Text.not_isBlank_of_isDigit (Time.isDigit_of_mem_field member)
  have plus : Text.isBlank '+' = false := by decide
  have dash : Text.isBlank '-' = false := by decide
  have time : Text.isBlank 'T' = false := by decide
  have colon : Text.isBlank ':' = false := by decide
  have point : Text.isBlank '.' = false := by decide
  have zone : Text.isBlank 'Z' = false := by decide
  have year : ∀ char ∈ yearText instant.date.year, Text.isBlank char = false := by
    simp only [yearText]
    split_ifs
    · exact List.forall_mem_cons.mpr ⟨dash, digits _ _⟩
    · exact List.forall_mem_cons.mpr ⟨plus, digits _ _⟩
    · exact digits _ _
  have fraction : ∀ char ∈ fractionText precision instant.clock.nanoseconds,
      Text.isBlank char = false := by
    have places : ∀ count number, ∀ char ∈ '.' :: field count number,
        Text.isBlank char = false :=
      fun count number => List.forall_mem_cons.mpr ⟨point, digits count number⟩
    cases precision with
    | millis => exact places _ _
    | exact =>
        simp only [fractionText]
        split_ifs
        · exact List.forall_mem_nil _
        · exact places _ _
        · exact places _ _
        · exact places _ _
  rw [chars_eq, clockChars]
  simp only [List.forall_mem_append, List.forall_mem_cons]
  exact ⟨year, dash, digits _ _, dash, digits _ _, time, digits _ _, colon, digits _ _, colon,
    digits _ _, fraction, zone, List.forall_mem_nil _⟩

/-- Blanks do not matter to the reader of a text without any. -/
theorem readDate_text_eq (precision : Precision) (instant : Instant) :
    Value.readDate (instant.text precision) =
      (Time.readWithOffset (chars precision instant)
        <|> Time.readDateTime (Time.readChar 'T') (chars precision instant)
        <|> Time.readDateTime (fun rest => some (Text.trimStart rest)) (chars precision instant)
        <|> Time.readMidnight (chars precision instant)) := by
  have trimmed : Text.trim (chars precision instant) = chars precision instant :=
    Text.trim_eq_self (not_isBlank_of_mem_chars precision instant)
  rw [Value.readDate, text, String.toList_ofList, trimmed, Time.readInstant, trimmed]

/-- What is written of an instant is read back as the instant. -/
theorem readDate_text (plain : instant.HasPlainYear)
    (whole : precision = .millis → instant.nanoseconds % 1000000 = 0) :
    Value.readDate (instant.text precision) = some instant := by
  rw [readDate_text_eq, readWithOffset_chars plain whole]
  rfl

/-- What follows the second of a time of day is no digit. -/
theorem exists_fractionText_eq (precision : Precision) (nanoseconds : Nat) :
    ∃ char rest, fractionText precision nanoseconds ++ ['Z'] = char :: rest ∧ ¬char.isDigit := by
  have point : ¬ '.'.isDigit := by decide
  have zone : ¬ 'Z'.isDigit := by decide
  cases precision with
  | millis => exact ⟨_, _, rfl, point⟩
  | exact =>
      simp only [fractionText]
      split_ifs
      · exact ⟨_, _, rfl, zone⟩
      · exact ⟨_, _, rfl, point⟩
      · exact ⟨_, _, rfl, point⟩
      · exact ⟨_, _, rfl, point⟩

/-- The reader of a time of day stops before the mark of universal time. -/
theorem exists_readClock_clockChars
    (whole : precision = .millis → instant.nanoseconds % 1000000 = 0) :
    ∃ clock, Time.readClock (clockChars precision instant) = some (clock, ['Z']) := by
  rcases clock_inRange instant with ⟨hour, minute, second⟩
  have colon : ¬ ':'.isDigit := by decide
  have inSecond : instant.clock.nanoseconds < 1000000000 := Nat.mod_lt _ (by decide)
  have inMillis : precision = .millis → instant.clock.nanoseconds % 1000000 = 0 := by
    intro isMillis
    have wholeMillis := whole isMillis
    simp only [clock]
    omega
  have fraction := Time.readFraction_fractionText inSecond inMillis
  rcases exists_fractionText_eq precision instant.clock.nanoseconds with ⟨char, rest, shape, stops⟩
  rw [shape] at fraction
  rw [clockChars, shape, Time.readClock]
  simp only [↓Time.bind_of_found, Time.readChar_self,
    Time.readField_field (by omega : instant.clock.hour < 100) colon,
    Time.readField_field (by omega : instant.clock.minute < 100) colon,
    Time.readField_field (by omega : instant.clock.second < 100) stops, fraction]
  exact ⟨_, rfl⟩

/-- The text of an instant whose year has a sign is not read at all: such a year is read only
without the mark of universal time. -/
theorem readDate_text_eq_none (signed : ¬instant.HasPlainYear)
    (whole : precision = .millis → instant.nanoseconds % 1000000 = 0) :
    Value.readDate (instant.text precision) = none := by
  rcases exists_yearText_of_signed signed with ⟨sign, isSign, year⟩
  rcases date_inRange instant with ⟨month, day⟩
  rcases exists_readClock_clockChars whole with ⟨clock, isClock⟩
  have mark : ¬ 'T'.isDigit := by decide
  have filled : field 4 instant.date.year.natAbs ≠ [] := Time.field_ne_nil (by decide)
  rcases Time.exists_readDate_of_signed isSign (by omega : instant.date.month < 100)
    (by omega : instant.date.day < 100) mark filled (clockChars precision instant) with
    ⟨date, isDate⟩
  have withOffset : ∀ rest, Time.readWithOffset (sign :: rest) = none := by
    intro rest
    have noDigit : ¬sign.isDigit := by rcases isSign with rfl | rfl <;> decide
    rw [Time.readWithOffset, Time.readExactDigits, List.take_succ_cons,
      List.takeWhile_cons_of_neg noDigit]
    rfl
  have afterBlanks : Text.trimStart ('T' :: clockChars precision instant) =
      'T' :: clockChars precision instant := rfl
  have noClock : Time.readClock ('T' :: clockChars precision instant) = none := by
    have noHour : Time.readField ('T' :: clockChars precision instant) = none := by
      rw [Time.readField, afterBlanks, Time.readDigits, List.take_succ_cons,
        List.takeWhile_cons_of_neg mark]
      rfl
    rw [Time.readClock, noHour]
    rfl
  -- The first form wants a digit at the start; the others stop at the `T` or at the `Z`.
  rw [readDate_text_eq, chars_eq, year, List.cons_append, withOffset, Time.readDateTime,
    Time.readDateTime, Time.readMidnight, isDate]
  simp only [↓Time.bind_of_found, Time.readChar_self, isClock, afterBlanks,
    noClock]
  rfl

/-! ## Texts in milliseconds -/

/-- The instant without what lies below its milliseconds. -/
def inMillis (instant : Instant) : Instant where
  seconds := instant.seconds
  nanoseconds := instant.nanoseconds / 1000000 * 1000000
  valid := by
    rcases instant.valid with ⟨first, last, nanoseconds, leap⟩
    exact ⟨first, last, by omega, by omega⟩

theorem text_inMillis (instant : Instant) :
    instant.inMillis.text .millis = instant.text .millis := by
  have second : instant.inMillis.nanoseconds / 1000000000 = instant.nanoseconds / 1000000000 := by
    simp only [inMillis]
    omega
  have millis : instant.inMillis.nanoseconds % 1000000000 / 1000000 =
      instant.nanoseconds % 1000000000 / 1000000 := by
    simp only [inMillis]
    omega
  simp only [text, chars, fractionText, second, millis]
  rfl

/-- The text of an instant in milliseconds is read as an instant just when its year has no sign,
also where the text drops a part of the second. -/
theorem isSome_readDate_text_iff :
    (Value.readDate (instant.text .millis)).isSome ↔ instant.HasPlainYear := by
  have whole : Precision.millis = .millis → instant.inMillis.nanoseconds % 1000000 = 0 :=
    fun _ => Nat.mul_mod_left _ _
  have sameYear : instant.inMillis.HasPlainYear ↔ instant.HasPlainYear := Iff.rfl
  rw [← text_inMillis, ← sameYear]
  by_cases plain : instant.inMillis.HasPlainYear
  · rw [readDate_text plain whole]
    exact iff_of_true rfl plain
  · rw [readDate_text_eq_none plain whole]
    exact iff_of_false Bool.false_ne_true plain

end Instant

end ApiContract
