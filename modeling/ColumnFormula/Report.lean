import ColumnFormula.Conversion

namespace ColumnFormula

/-- One column of a report. -/
structure Report.Entry where
  column : Text
  result : Conversion
deriving DecidableEq

/-- The columns that were converted, in order. -/
structure Report where
  entries : List Report.Entry := []
deriving DecidableEq

namespace Report

/-- How the conversion of the column went. -/
def Entry.status (e : Entry) : Conversion.Status := e.result.status

/-- The counts of a report. -/
structure Summary where
  total : Nat := 0
  successful : Nat := 0
  withWarnings : Nat := 0
  failed : Nat := 0
deriving DecidableEq

namespace Summary

/-- The counts with one more column. -/
def count (s : Summary) (status : Conversion.Status) : Summary :=
  let s := { s with total := s.total + 1 }
  match status with
  | .success => { s with successful := s.successful + 1 }
  | .warning => { s with withWarnings := s.withWarnings + 1 }
  | .failed => { s with failed := s.failed + 1 }

def merge (s t : Summary) : Summary :=
  ⟨s.total + t.total, s.successful + t.successful, s.withWarnings + t.withWarnings,
    s.failed + t.failed⟩

end Summary

def add (r : Report) (column : Text) (result : Conversion) : Report :=
  ⟨r.entries ++ [⟨column, result⟩]⟩

def withStatus (r : Report) (status : Conversion.Status) : List Entry :=
  r.entries.filter (·.status == status)

def summary (r : Report) : Summary := r.entries.foldl (fun s e => s.count e.status) {}

end Report

end ColumnFormula
