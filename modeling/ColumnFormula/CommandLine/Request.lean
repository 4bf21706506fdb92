import ColumnFormula.Command.Convert
import ColumnFormula.Command.Import
import ColumnFormula.CommandLine.Arguments

namespace ColumnFormula.CommandLine

/-- The variables of the environment, by name. -/
abbrev Environment := List (Text × Text)

/-- The variable with the table name, for when the option is not given. -/
def tableVariable : Text := "FORMPORT_TABLE".toList

/-- The variable with the path of the options, for when the option is not given. -/
def configVariable : Text := "FORMPORT_CONFIG".toList

/-- A request. -/
inductive Request
  | version
  | help
  | convert (args : Command.ConvertArgs)
  | importWorkbook (args : Command.ImportArgs)
deriving DecidableEq

/-- The table name of the arguments, or else of the environment. -/
def table (environment : Environment) (a : Arguments) : Option Text :=
  a.value? .table <|> environment.lookup tableVariable

/-- The path of the options in the arguments, or else in the environment, where an empty one is
refused. -/
def config? (environment : Environment) (a : Arguments) : Option (Option Text) :=
  match a.value? .config <|> environment.lookup configVariable with
  | some [] => none
  | config => some config

def convertKeys : List Key := [.columns, .table, .config, .verbose, .help]

def importKeys : List Key := [.output, .format, .table, .sheet, .config, .verbose, .help]

/-- The request to convert a formula. Several columns may be given in one value, with commas between
them. -/
def convertRequest? (environment : Environment) (arguments : List Text) : Option Request := do
  let a ← read? convertKeys arguments
  if !a.acceptable || 1 < a.operands.length then none
  else if a.has .help then return .help
  else
    let formula ← a.operands.head?
    let config ← config? environment a
    if a.has .columns then
      return .convert
        { formula, config
          columns := (a.values .columns).flatMap (Text.splitAtEach ',')
          table := table environment a
          verbose := a.has .verbose }
    else none

def importRequest? (environment : Environment) (arguments : List Text) : Option Request := do
  let a ← read? importKeys arguments
  if !a.acceptable || 1 < a.operands.length || a.operands = [[]] then none
  else if a.has .help then return .help
  else
    let input ← a.operands.head?
    let config ← config? environment a
    return .importWorkbook
      { input, config
        output := a.value? .output
        format := (a.value? .format).bind Format.ofName?
        table := table environment a
        sheet := a.value? .sheet
        verbose := a.has .verbose }

def commands : List Text := ["convert".toList, "import".toList, "help".toList]

/-- The request of a command line, `none` for one that is not understood. -/
def Request.parse? (environment : Environment) : List Text → Option Request
  | [] => none
  | first :: rest =>
    if first = "convert".toList then convertRequest? environment rest
    else if first = "import".toList then importRequest? environment rest
    else if first = "help".toList then
      if rest.length ≤ 1 && rest.all (commands.contains ·) then some .help else none
    else
      match first with
      | '-' :: '-' :: name =>
        if name = "version".toList then some .version
        else if name = "help".toList then some .help
        else none
      | '-' :: 'V' :: _ => some .version
      | '-' :: 'h' :: _ => some .help
      | _ => none

def usage : Text :=
  Command.lines
    ["Convert spreadsheet formulas into column formulas.".toList, [],
      "Usage: formport import [OPTIONS] <INPUT>".toList,
      "       formport convert [OPTIONS] --columns <COLUMNS> <FORMULA>".toList, [],
      "Options:".toList,
      "  -o, --output <OUTPUT>    Output file for the import plan".toList,
      "  -f, --format <FORMAT>    Output format: yaml or json".toList,
      "  -t, --table <TABLE>      Table name [env: FORMPORT_TABLE]".toList,
      "  -s, --sheet <SHEET>      Only import this sheet".toList,
      "  -c, --config <CONFIG>    YAML file with options [env: FORMPORT_CONFIG]".toList,
      "      --columns <COLUMNS>  Headers in column order, separated by commas".toList,
      "  -v, --verbose            Show more".toList,
      "  -h, --help               Print help".toList,
      "  -V, --version            Print version".toList]

def Request.run (files : Files) (request : Request) (formats : Formats := .builtIn) : Command.Run :=
  match request with
  | version => { output := "formport 0.3.0\n".toList, files }
  | help => { output := usage, files }
  | convert args => Command.convert files args formats
  | importWorkbook args => Command.importWorkbook files args formats

end ColumnFormula.CommandLine
