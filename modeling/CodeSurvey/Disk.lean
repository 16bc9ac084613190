/-
Files on disk, by the place where they lie.
-/
import CodeSurvey.Path
import CodeSurvey.Text.Utf8

namespace CodeSurvey

structure Disk where
  files : List (List (List Char) × List UInt8) := []
  /-- Directories that were made for themselves. Others are there for the files below them. -/
  directories : List (List (List Char)) := []
  /-- The path of the directory from which paths start that do not start at the top. -/
  home : List Char := []

namespace Disk

def write (d : Disk) (place : List (List Char)) (bytes : List UInt8) : Disk :=
  { d with files := d.files.filter (·.1 != place) ++ [(place, bytes)] }

def makeDirectory (d : Disk) (place : List (List Char)) : Disk := { d with directories := place :: d.directories }

def placeOf (d : Disk) (p : List Char) : List (List Char) := Path.resolve (Path.join d.home p)

def read? (d : Disk) (place : List (List Char)) : Option (List UInt8) := d.files.lookup place

def nameLimit : Nat := 255

def isTooLong (name : List Char) : Bool := nameLimit < (Text.Utf8.encode name).length

def isBlocked (d : Disk) (place : List (List Char)) : Bool :=
  d.files.any fun f => f.1.isPrefixOf place && f.1.length < place.length

def isDirectory (d : Disk) (place : List (List Char)) : Bool :=
  d.files.any (fun f => place.isPrefixOf f.1 && place.length < f.1.length) || d.directories.any place.isPrefixOf

def below (d : Disk) (place : List (List Char)) : List (List (List Char) × List UInt8) :=
  d.files.filterMap fun f =>
    if place.isPrefixOf f.1 && place.length < f.1.length then some (f.1.drop place.length, f.2) else none

end Disk

end CodeSurvey
