import ColumnFormula.Text.Basic

/-!
Paths of files. Empty steps and steps that stay in place do not count. Links that stand for other
places are not known of.
-/

namespace ColumnFormula.Path

/-- The step up to the directory above. -/
def up : Text := "..".toList

/-- The first step of a path from the root. -/
def root : Text := "/".toList

/-- The steps of a path. -/
def steps (path : Text) : List Text :=
  (if path.head? = some '/' then [root] else [])
    ++ (Text.splitAtEach '/' path).filter fun step => step ≠ [] ∧ step ≠ ['.']

/-- The place that a step from another place leads to. A place is told by the names on the way to
it from the root; above the root there is nothing else. -/
def move (place : List Text) (step : Text) : List Text :=
  if step = root then [] else if step = up then place.dropLast else place ++ [step]

/-- The place that a path leads to from another place. -/
def follow (place : List Text) (path : Text) : List Text := (steps path).foldl move place

def fileName? (path : Text) : Option Text :=
  (steps path).getLast?.filter fun step => step ≠ up ∧ step ≠ root

/-- The part of a file name behind its last dot. A dot in front of all else starts no extension. -/
def extension? (path : Text) : Option Text := do
  let name ← fileName? path
  let behind := (name.reverse.takeWhile (· ≠ '.')).reverse
  if behind.length + 1 < name.length then some behind else none

def hasExtension (path : Text) (extension : String) : Bool :=
  (extension? path).any (Text.sameIgnoringCase extension.toList)

/-- Whether a path can be that of a file: it does not end like the path of a directory. -/
def endsInName (path : Text) : Bool :=
  let ending := (Text.splitAtEach '/' path).getLast?.getD []
  ending ≠ [] && ending ≠ ['.'] && ending ≠ up

end ColumnFormula.Path
