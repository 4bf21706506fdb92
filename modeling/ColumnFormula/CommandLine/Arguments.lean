import ColumnFormula.Plan.Render

/-!
The arguments of a command: options with their values, and operands. An option has a name, as in
`--table`, and may have a letter, as in `-t`. Its value is the next argument, or stands behind an
equals sign; a value for a letter may also follow it directly. Letters of options without a value
can be written together. After `--` all arguments are operands.
-/

namespace ColumnFormula

/-- The format with a name. -/
def Format.ofName? (name : Text) : Option Format :=
  if name = "yaml".toList then some .yaml
  else if name = "json".toList then some .json
  else none

namespace CommandLine

/-- The options of the commands. -/
inductive Key
  | output
  | format
  | table
  | sheet
  | config
  | columns
  | verbose
  | help
deriving DecidableEq

namespace Key

def name : Key → Text
  | output => "output".toList
  | format => "format".toList
  | table => "table".toList
  | sheet => "sheet".toList
  | config => "config".toList
  | columns => "columns".toList
  | verbose => "verbose".toList
  | help => "help".toList

/-- The letter of an option: the first of its name, if it has one. -/
def letter? : Key → Option Char
  | columns => none
  | key => key.name.head?

def hasValue : Key → Bool
  | verbose | help => false
  | _ => true

def repeatable : Key → Bool
  | columns => true
  | _ => false

/-- Whether an option accepts a value. A path is not empty. -/
def accepts : Key → Text → Bool
  | output, value | config, value => value ≠ []
  | format, value => (Format.ofName? value).isSome
  | _, _ => true

end Key

/-- An option with its value, which is empty for an option without one. -/
structure Setting where
  key : Key
  value : Text := []
deriving DecidableEq

/-- Arguments that were read. -/
structure Arguments where
  settings : List Setting := []
  operands : List Text := []
deriving DecidableEq

namespace Arguments

def values (a : Arguments) (key : Key) : List Text :=
  (a.settings.filter (·.key = key)).map (·.value)

def value? (a : Arguments) (key : Key) : Option Text := (a.values key).head?

def has (a : Arguments) (key : Key) : Bool := !(a.values key).isEmpty

/-- Whether each option has a value that it accepts, and comes only as often as it may. -/
def acceptable (a : Arguments) : Bool :=
  a.settings.all fun s =>
    s.key.accepts s.value && (s.key.repeatable || (a.values s.key).length = 1)

def withSettings (settings : List Setting) (a : Arguments) : Arguments :=
  { a with settings := settings ++ a.settings }

def withOperand (operand : Text) (a : Arguments) : Arguments :=
  { a with operands := operand :: a.operands }

end Arguments

/-- What a single argument says: it ends the options, is an operand, or has settings, the last of
which may still wait for its value. -/
inductive Argument
  | endOfOptions
  | operand
  | settings (complete : List Setting) (waiting : Option Key)
deriving DecidableEq

/-- The settings of option letters that are written together. -/
def ofLetters? (known : List Key) : List Char → Option Argument
  | [] => some (.settings [] none)
  | letter :: rest => do
    let key ← known.find? (·.letter? = some letter)
    if key.hasValue then
      match rest with
      | [] => return .settings [] (some key)
      | '=' :: value => return .settings [⟨key, value⟩] none
      | value => return .settings [⟨key, value⟩] none
    else if key = .help then return .settings [⟨.help, []⟩] none
    else
      match ← ofLetters? known rest with
      | .settings complete waiting => return .settings (⟨key, []⟩ :: complete) waiting
      | _ => none

/-- The setting of an option that is given by its name. -/
def ofName? (known : List Key) (text : Text) : Option Argument := do
  let name := text.takeWhile (· ≠ '=')
  let key ← known.find? (·.name = name)
  match key.hasValue, text.drop name.length with
  | true, [] => return .settings [] (some key)
  | true, _ :: value => return .settings [⟨key, value⟩] none
  | false, [] => return .settings [⟨key, []⟩] none
  | false, _ :: _ => none

/-- What an argument says where the known options are allowed. A single minus sign is an operand. -/
def Argument.ofText? (known : List Key) : Text → Option Argument
  | ['-', '-'] => some .endOfOptions
  | '-' :: '-' :: text => ofName? known text
  | ['-'] => some .operand
  | '-' :: letters => ofLetters? known letters
  | _ => some .operand

/-- Reads arguments. Nothing after a request for help is read. -/
def read? (known : List Key) : List Text → Option Arguments
  | [] => some {}
  | text :: rest =>
    match Argument.ofText? known text with
    | none => none
    | some .endOfOptions => some { operands := rest }
    | some .operand => (read? known rest).map (·.withOperand text)
    | some (.settings complete none) =>
      if complete.any (·.key = .help) then some { settings := complete }
      else (read? known rest).map (·.withSettings complete)
    | some (.settings complete (some key)) =>
      match rest with
      | [] => none
      | value :: rest =>
        if Argument.ofText? known value = some .operand then
          (read? known rest).map (·.withSettings (complete ++ [⟨key, value⟩]))
        else none

end CommandLine

end ColumnFormula
