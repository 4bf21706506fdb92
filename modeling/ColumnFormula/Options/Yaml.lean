import ColumnFormula.Options.Basic
import ColumnFormula.Yaml.Parser

namespace ColumnFormula

namespace Yaml

def text? : Yaml → Option Text
  | plain s => some s
  | quoted s => some s
  | _ => none

/-- The texts of a list of scalars; a missing value is an empty list. -/
def texts? : Yaml → Option (List Text)
  | list items => items.mapM text?
  | plain [] => some []
  | _ => none

/-- The natural number of a plain scalar, if it has 32 bits. A minus sign is refused, even before a
zero. -/
def word? : Yaml → Option Nat
  | plain s =>
    let unsigned :=
      match s with
      | '+' :: rest => rest
      | _ => s
    (magnitude? unsigned).filter (· < Nat.pow 2 32)
  | _ => none

def truth? : Yaml → Option Bool
  | plain s => bool? s
  | _ => none

end Yaml

namespace Options

/-- The options with the one of the given name changed. -/
def set? (o : Options) (name : Text) (value : Yaml) : Option Options :=
  match String.ofList name with
  | "table_name" => value.text?.map fun tableName => { o with tableName }
  | "header_rows" => value.word?.map fun headerRows => { o with headerRows }
  | "fallback_column_name" =>
    value.text?.map fun fallbackColumnName => { o with fallbackColumnName }
  | "reserved_words" => value.texts?.map fun reservedWords => { o with reservedWords }
  | "warn_unknown_functions" =>
    value.truth?.map fun warnUnknownFunctions => { o with warnUnknownFunctions }
  | _ => none

/-- The options with some entries of a mapping set; `seen` are the names before them. -/
def setAll? (o : Options) (seen : List Text) : List (Yaml × Yaml) → Option Options
  | [] => some o
  | (key, value) :: entries => do
    let name ← key.text?
    if seen.contains name then none
    else (← o.set? name value).setAll? (name :: seen) entries

/-- The options of a YAML value; a missing value names none. -/
def ofYaml? : Yaml → Option Options
  | .mapping entries => ({} : Options).setAll? [] entries
  | .plain [] => some {}
  | _ => none

/-- The options of a YAML document, not yet checked for faults. -/
def parse? (document : Text) : Option Options := (Yaml.parse? document).bind ofYaml?

end Options

end ColumnFormula
