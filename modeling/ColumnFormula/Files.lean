import ColumnFormula.Path
import ColumnFormula.Sheet.Worksheet

namespace ColumnFormula

/-- What a file holds: a text, a spreadsheet with these worksheets, or anything else. -/
inductive File
  | text (content : Text)
  | spreadsheet (worksheets : List Worksheet)
  | binary (content : List UInt8)
deriving DecidableEq

/-- Files at their places, and directories that are there whether they have a file in them or not.
-/
structure Files where
  entries : List (List Text × File) := []
  directories : List (List Text) := []
  /-- The place of the directory at hand. No path from the root leads to the default one. -/
  here : List Text := [['.']]
deriving DecidableEq

namespace Files

def ofList (files : List (Text × File)) : Files :=
  { entries := files.map fun (path, file) => (Path.follow ({} : Files).here path, file) }

/-- Directories that are there. All those above them are there as well. -/
def knownDirectories (files : Files) : List (List Text) :=
  files.here :: (files.directories ++ files.entries.map (·.1.dropLast))

/-- Whether there is a directory at a place. -/
def isDirectory (files : Files) (place : List Text) : Bool :=
  files.knownDirectories.any (place.isPrefixOf ·)

/-- The place that a step leads to. Only from a directory there is a step to somewhere. -/
def step? (files : Files) (place : List Text) (step : Text) : Option (List Text) :=
  if step = Path.root ∨ files.isDirectory place then some (Path.move place step) else none

/-- The place that a path leads to, whether or not there is something there. -/
def place? (files : Files) (path : Text) : Option (List Text) :=
  (Path.steps path).foldlM files.step? files.here

/-- The place that a path of a file leads to. -/
def filePlace? (files : Files) (path : Text) : Option (List Text) :=
  if Path.endsInName path then files.place? path else none

/-- The file at a path. -/
def get? (files : Files) (path : Text) : Option File :=
  (files.filePlace? path).bind fun place => files.entries.lookup place

def read? (files : Files) (path : Text) : Option Text :=
  match files.get? path with
  | some (.text content) => some content
  | _ => none

/-- The files after a text was written at a path. The file may be new, but not its directory. -/
def write? (files : Files) (path content : Text) : Option Files := do
  let place ← files.filePlace? path
  if files.isDirectory place then none
  else some { files with
    entries := (place, .text content) :: files.entries.filter (·.1 ≠ place) }

end Files

end ColumnFormula
