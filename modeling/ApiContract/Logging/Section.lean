import ApiContract.Datum.Typed

/-!
# Log sections

What a configuration says about the records of one target: the levels for the console
and for a file, the file, and how long its older contents are kept.
-/

namespace ApiContract.Logging

/-- A log section. -/
structure LogSection where
  consoleLevel : String := ""
  file : String := ""
  fileLevel : String := ""
  maxAgeDays : Option Nat := none
  maxBackups : Option Nat := none
  maxSizeMegabytes : Option Nat := none
  deriving DecidableEq

/-- Sections by the target whose records they govern. -/
abbrev LogSections := Entries LogSection

/-- The target whose section governs the records that no other section governs. -/
def defaultTarget : String := "default"

namespace LogSection

/-- How a section is read. -/
def shape : Typed.Shape LogSection where
  name := "Section"
  start := {}
  fields :=
    [{ name := "console_level"
       presence := .needed
       assign := fun datum item => do pure { item with consoleLevel := ← Typed.string datum } },
     { name := "file"
       presence := .needed
       assign := fun datum item => do pure { item with file := ← Typed.string datum } },
     { name := "file_level"
       assign := fun datum item => do pure { item with fileLevel := ← Typed.string datum } },
     { name := "max_age_days"
       presence := .neededByPlace
       assign := fun datum item => do
        let days ← Typed.optional (Typed.below (twoTo 32) "u32") datum
        pure { item with maxAgeDays := days } },
     { name := "max_backups"
       assign := fun datum item => do
        let count ← Typed.optional (Typed.below (twoTo 64) "usize") datum
        pure { item with maxBackups := count } },
     { name := "max_size_mb"
       assign := fun datum item => do
        let size ← Typed.optional (Typed.below (twoTo 64) "u64") datum
        pure { item with maxSizeMegabytes := size } }]

/-- The section as a datum, its fields in order. -/
def toDatum (item : LogSection) : Datum :=
  .map [("console_level", .string item.consoleLevel), ("file", .string item.file),
    ("file_level", .string item.fileLevel),
    ("max_age_days", .ofOption .ofNat item.maxAgeDays),
    ("max_backups", .ofOption .ofNat item.maxBackups),
    ("max_size_mb", .ofOption .ofNat item.maxSizeMegabytes)]

end LogSection

namespace LogSections

/-- Reads sections; a list for a section may have a surplus of items or not. -/
def read (surplus : Bool) : Typed LogSections :=
  Typed.entries (Typed.record LogSection.shape surplus)

/-- The sections as a datum. -/
def toDatum (sections : LogSections) : Datum :=
  .map (Entries.mapValues LogSection.toDatum sections)

/-- The sections that are used when a configuration has none. -/
def defaults : LogSections :=
  [(defaultTarget,
    { consoleLevel := "info"
      file := "logs/billing-server.log"
      fileLevel := "debug"
      maxAgeDays := some 7
      maxBackups := some 3
      maxSizeMegabytes := some 100 })]

end LogSections

end ApiContract.Logging
