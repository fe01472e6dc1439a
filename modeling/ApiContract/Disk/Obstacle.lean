import ApiContract.Disk.Path
import ApiContract.Text.Utf8

/-!
# Obstacles on a disk

A directory is made together with those around it.  What stands in the way is a plain
file in the place of one of them, or a name that no directory can have.
-/

namespace ApiContract.Disk

/-- Why a directory cannot be made. -/
inductive Obstacle where
  | plainFile
  | belowPlainFile
  | longName
  | zeroChar
  | system (number : Nat)
  deriving DecidableEq

namespace Obstacle

/-- The wording of an obstacle. -/
def message : Obstacle → String
  | .plainFile => "File exists (os error 17)"
  | .belowPlainFile => "Not a directory (os error 20)"
  | .longName => "File name too long (os error 36)"
  | .zeroChar => "file name contained an unexpected NUL byte"
  | .system number => s!"os error {number}"

/-- The obstacle that the number of a system error names. -/
def ofNumber : Nat → Obstacle
  | 17 => .plainFile
  | 20 => .belowPlainFile
  | 36 => .longName
  | number => .system number

end Obstacle

/-- The most bytes that the name of a file has. -/
def longestName : Nat := 255

/-- What keeps a directory from being made, given the plain files that are there. -/
def obstacle? (files : List String) (path : String) : Option Obstacle :=
  let parts := resolved path
  let files := files.map resolved
  if path.toList.contains '\x00' then some .zeroChar
  else if files.any fun file => file.isPrefixOf parts && file ≠ parts then some .belowPlainFile
  else if files.contains parts then some .plainFile
  else if parts.any fun part => longestName < Text.utf8Length part then some .longName
  else none

/-- The path without its last part. -/
def parent (path : String) : String :=
  "/" ++ "/".intercalate (parts path).dropLast

/-- The path names a directory whatever there is on the disk. -/
def endsInDirectory (path : String) : Bool :=
  match ((Text.splitOnChar '/' path.toList).map String.ofList).getLast? with
  | some part => part = "" ∨ part = "." ∨ part = ".."
  | none => false

/-- The path names a directory once there are some plain files and an inner directory. -/
def isDirectory (files : List String) (directory path : String) : Bool :=
  let parts := resolved path
  endsInDirectory path || parts.isPrefixOf (resolved directory) ||
    files.any fun file => parts.isPrefixOf (resolved file) && parts ≠ resolved file

end ApiContract.Disk
