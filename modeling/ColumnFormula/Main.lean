import ColumnFormula.CommandLine.Request

/-!
The program: it looks up the files that a request names, and carries out what the request does. A
spreadsheet is not decoded here, so an import reads a JSON document.
-/

namespace ColumnFormula.Main

open CommandLine

def inputPaths : Request → List Text
  | .convert args => args.config.toList
  | .importWorkbook args => args.input :: args.config.toList
  | _ => []

def outputPath? : Request → Option Text
  | .importWorkbook args => args.output
  | _ => none

/-- The text file at a path, if it can be read, at its place. -/
def readFile (here : List Text) (path : Text) : IO (Option (List Text × File)) := do
  match ← (IO.FS.readFile (String.ofList path)).toBaseIO with
  | .ok content => return some (Path.follow here path, .text content.toList)
  | .error _ => return none

/-- The places that a path passes. -/
def placesOn (here : List Text) (path : Text) : List (List Text) :=
  let steps := Path.steps path
  (List.range (steps.length + 1)).map fun n => (steps.take n).foldl Path.move here

/-- Whether there is a directory at a place, that is, whether one can stay there. -/
def directoryExists (place : List Text) : IO Bool := do
  let path := ['/'].intercalate ([] :: place ++ [['.']])
  match ← (IO.FS.realPath (String.ofList path)).toBaseIO with
  | .ok _ => return true
  | .error _ => return false

/-- The files and directories that a request has to do with. -/
def filesFor (request : Request) : IO Files := do
  let here := Path.follow [] (← IO.currentDir).toString.toList
  let entries ← (inputPaths request).filterMapM (readFile here)
  let paths := inputPaths request ++ (outputPath? request).toList
  let directories ← (paths.flatMap (placesOn here)).filterM directoryExists
  return { entries, directories, here }

/-- Writes the file that a request leaves at its output path. -/
def writeOutput (request : Request) (run : Command.Run) : IO Unit := do
  if run.failure.isNone then
    for path in (outputPath? request).toList do
      for content in (run.files.read? path).toList do
        IO.FS.writeFile (String.ofList path) (String.ofList content)

/-- What is left of a run when its output cannot be written: it fails there. -/
def unwritten (files : Files) (request : Request) : Command.Run :=
  let place := (outputPath? request).map (Path.follow files.here)
  request.run { files with directories := place.toList ++ files.directories }

def report (run : Command.Run) : IO UInt32 := do
  IO.print (String.ofList run.output)
  match run.failure with
  | none => return 0
  | some failure =>
    IO.eprintln ("Error: " ++ String.ofList failure.message)
    return 1

def environment : IO Environment :=
  [tableVariable, configVariable].filterMapM fun name => do
    return (← IO.getEnv (String.ofList name)).map fun value => (name, value.toList)

end ColumnFormula.Main

open ColumnFormula ColumnFormula.Main in
def main (arguments : List String) : IO UInt32 := do
  match CommandLine.Request.parse? (← environment) (arguments.map String.toList) with
  | none =>
    IO.eprint (String.ofList CommandLine.usage)
    return 2
  | some request =>
    let files ← filesFor request
    let run := request.run files
    match ← (writeOutput request run).toBaseIO with
    | .ok _ => report run
    | .error _ => report (unwritten files request)
