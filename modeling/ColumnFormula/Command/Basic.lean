import ColumnFormula.Formats

namespace ColumnFormula

namespace Options

/-- The options of a document, if they have no fault. -/
def load (document : Text) (formats : Formats := .builtIn) : Except Failure Options :=
  match formats.options? document with
  | none => .error .yaml
  | some o =>
    match o.fault? with
    | some fault => .error (.config fault)
    | none => .ok o

/-- The options in the file at a path, or the defaults without a path. -/
def loadFrom (files : Files) (path : Option Text) (formats : Formats := .builtIn) :
    Except Failure Options :=
  match path with
  | none => .ok {}
  | some path =>
    match files.read? path with
    | none => .error .io
    | some document => load document formats

end Options

namespace Command

/-- What a command prints, the files that are there after it, and the failure that stopped it, if
one did. -/
structure Run where
  output : Text
  files : Files
  failure : Option Failure := none

/-- Lines of text, each with its line end. -/
def lines (ls : List Text) : Text := ls.flatMap (· ++ ['\n'])

def line (pieces : List Text) : Text := pieces.flatten

end Command

end ColumnFormula
