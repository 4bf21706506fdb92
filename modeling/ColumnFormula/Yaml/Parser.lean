import ColumnFormula.Yaml.Lexer

namespace ColumnFormula.Yaml

/-- Where a value stands. -/
inductive Place
  /-- Inside brackets, where indentation does not count. -/
  | flow
  /-- Where indentation counts. -/
  | block
  /-- In a block mapping, where the items of a list may stand in the column of the keys. -/
  | entry
deriving DecidableEq

mutual

/-- A value. -/
def node? (fuel : Nat) (place : Place) (tokens : List Token) : Option (Yaml × List Token) :=
  match fuel with
  | 0 => none
  | fuel + 1 =>
    match tokens with
    | .scalar true s :: rest => some (quoted s, rest)
    | .scalar false s :: rest => some (plain s, rest)
    | .flowList :: rest => (flowItems? fuel rest).map fun (items, rest) => (list items, rest)
    | .flowMapping :: rest =>
      (flowEntries? fuel rest).map fun (entries, rest) => (mapping entries, rest)
    | .blockList :: rest =>
      if place = .flow then none
      else (blockItems? fuel rest).map fun (items, rest) => (list items, rest)
    | .blockMapping :: rest =>
      if place = .flow then none
      else (blockEntries? fuel rest).map fun (entries, rest) => (mapping entries, rest)
    | .item :: _ =>
      if place ≠ .entry then none
      else (entryItems? fuel tokens).map fun (items, rest) => (list items, rest)
    | _ => none

/-- A value that may be missing. -/
def nodeOrEmpty? (fuel : Nat) (place : Place) (tokens : List Token) : Option (Yaml × List Token) :=
  match fuel with
  | 0 => none
  | fuel + 1 =>
    if tokens.head?.any Token.isEnd then some (plain [], tokens) else node? fuel place tokens

/-- The value behind the dash of an item. -/
def itemValue? (fuel : Nat) (tokens : List Token) : Option (Yaml × List Token) :=
  match fuel with
  | 0 => none
  | fuel + 1 =>
    if tokens.head? = some .item then some (plain [], tokens) else nodeOrEmpty? fuel .block tokens

def pair? (fuel : Nat) (place : Place) (tokens : List Token) :
    Option ((Yaml × Yaml) × List Token) :=
  match fuel with
  | 0 => none
  | fuel + 1 => do
    let (key, rest) ← nodeOrEmpty? fuel place tokens
    match rest with
    | .value :: rest =>
      let (value, rest) ← nodeOrEmpty? fuel place rest
      return ((key, value), rest)
    | _ => return ((key, plain []), rest)

/-- The items of a list up to its closing bracket. An entry stands for a mapping of its own. -/
def flowItems? (fuel : Nat) (tokens : List Token) : Option (List Yaml × List Token) :=
  match fuel with
  | 0 => none
  | fuel + 1 =>
    match tokens with
    | .flowListEnd :: rest => some ([], rest)
    | _ => do
      let (item, rest) ←
        match tokens with
        | .key :: rest => (pair? fuel .flow rest).map fun (pair, rest) => (mapping [pair], rest)
        | _ => node? fuel .flow tokens
      match rest with
      | .flowListEnd :: rest => return ([item], rest)
      | .comma :: rest =>
        let (items, rest) ← flowItems? fuel rest
        return (item :: items, rest)
      | _ => none

/-- The entries of a mapping up to its closing brace. A value alone is a key. -/
def flowEntries? (fuel : Nat) (tokens : List Token) : Option (List (Yaml × Yaml) × List Token) :=
  match fuel with
  | 0 => none
  | fuel + 1 =>
    match tokens with
    | .flowMappingEnd :: rest => some ([], rest)
    | _ => do
      let (pair, rest) ←
        match tokens with
        | .key :: rest => pair? fuel .flow rest
        | _ => (node? fuel .flow tokens).map fun (key, rest) => ((key, plain []), rest)
      match rest with
      | .flowMappingEnd :: rest => return ([pair], rest)
      | .comma :: rest =>
        let (entries, rest) ← flowEntries? fuel rest
        return (pair :: entries, rest)
      | _ => none

/-- The items of a block list up to its end. -/
def blockItems? (fuel : Nat) (tokens : List Token) : Option (List Yaml × List Token) :=
  match fuel with
  | 0 => none
  | fuel + 1 =>
    match tokens with
    | .blockEnd :: rest => some ([], rest)
    | .item :: rest => do
      let (item, rest) ← itemValue? fuel rest
      let (items, rest) ← blockItems? fuel rest
      return (item :: items, rest)
    | _ => none

/-- The items of a list in the column of the key before it. It ends where no item follows. -/
def entryItems? (fuel : Nat) (tokens : List Token) : Option (List Yaml × List Token) :=
  match fuel with
  | 0 => none
  | fuel + 1 =>
    match tokens with
    | .item :: rest => do
      let (item, rest) ← itemValue? fuel rest
      let (items, rest) ← entryItems? fuel rest
      return (item :: items, rest)
    | _ => some ([], tokens)

/-- The entries of a block mapping up to its end. -/
def blockEntries? (fuel : Nat) (tokens : List Token) :
    Option (List (Yaml × Yaml) × List Token) :=
  match fuel with
  | 0 => none
  | fuel + 1 =>
    match tokens with
    | .blockEnd :: rest => some ([], rest)
    | .key :: rest => do
      let (pair, rest) ← pair? fuel .entry rest
      let (entries, rest) ← blockEntries? fuel rest
      return (pair :: entries, rest)
    | _ => none

end

/-- The value of the first document. A text without tokens holds an empty one, and so does a mark
with nothing behind it. -/
def document? (tokens : List Token) : Option (Yaml × List Token) :=
  let fuel := 4 * tokens.length + 4
  match tokens with
  | [] => some (plain [], [])
  | .documentStart :: rest =>
    if rest.head?.all fun t => t = .documentStart ∨ t = .documentEnd then some (plain [], rest)
    else node? fuel .block rest
  | _ => node? fuel .block tokens

/-- The value of a text that holds one document. -/
def parse? (s : Text) : Option Yaml := do
  let (value, rest) ← document? (← tokens? s)
  if rest.all (· = .documentEnd) then some value else none

end ColumnFormula.Yaml
