import TableSchema.Toml.Value

/-!
TOML documents. A document is a list of lines, each of which opens a table or gives a key its value;
together they make one table. A key is given once, and a table is opened once, but a table that was
only on the way to another may be opened later.
-/

namespace TableSchema.Toml

inductive Line where
  /-- `[path]` -/
  | table (path : List String)
  /-- `[[path]]` -/
  | element (path : List String)
  /-- `path = value` -/
  | pair (path : List String) (value : Json)

/-! ### Lines -/

/-- The rest of a text after the end of a line, where only a comment may stand. -/
def endLine? (cs : List Char) : Option (List Char) :=
  match skipSpace cs with
  | [] => some []
  | '\n' :: rest => some rest
  | '#' :: rest => some (rest.dropWhile (· ≠ '\n'))
  | _ => none

def isTableName (c : Char) : Bool := isBare c && c.toNat < 0x80

def readLine (cs : List Char) : Option (Line × List Char) :=
  match cs with
  | '[' :: '[' :: rest => do
    let (path, rest) ← readKey isTableName (rest.length + 1) rest
    match rest with
    | ']' :: ']' :: rest => return (.element path, ← endLine? rest)
    | _ => none
  | '[' :: rest => do
    let (path, rest) ← readKey isTableName (rest.length + 1) rest
    match rest with
    | ']' :: rest => return (.table path, ← endLine? rest)
    | _ => none
  | cs => do
    let (path, rest) ← readKey isBare (cs.length + 1) cs
    match rest with
    | '=' :: rest => do
      let (value, rest) ← readValue (rest.length + 1) (skipSpace rest)
      return (.pair path value, ← endLine? rest)
    | _ => none

/-- The lines of a text of fewer than `fuel` characters. -/
def readLines : Nat → List Char → Option (List Line)
  | 0, _ => none
  | fuel + 1, cs =>
    match skipLines false cs with
    | [] => some []
    | cs => do
      let (line, rest) ← readLine cs
      return line :: (← readLines fuel rest)

/-! ### Tables -/

/-- A document as far as it has been read: its members, the table that is open, and the tables that
have been made on the way to others and may still be opened. -/
structure Document where
  members : List (String × Json) := []
  current : List String := []
  passed : List (List String) := []

namespace Document

/-- The paths to a path. -/
def ways : List String → List (List String)
  | [] => []
  | [_] => []
  | key :: path => [key] :: (ways path).map (key :: ·)

def has (members : List (String × Json)) (path : List String) : Bool :=
  (insert path .null members).isNone

/-- The tables that are made on the way to a path. -/
def made (d : Document) (path : List String) : List (List String) :=
  (ways path).filter fun way => !has d.members way

def openTable (d : Document) (path : List String) : Option Document :=
  if d.passed.contains path then
    some { d with current := path, passed := d.passed.filter (· ≠ path) }
  else do
    let members ← insert path (.object []) d.members
    return { members, current := path, passed := d.made path ++ d.passed }

/-- An array with one more empty table. -/
def extend : Option Json → Option Json
  | none => some (.array [.object []])
  | some (.array items) => some (.array (items ++ [.object []]))
  | some _ => none

/-- Opens a new table at the end of an array. -/
def openElement (d : Document) (path : List String) : Option Document := do
  let members ← update extend path d.members
  return { members, current := path, passed := d.made path ++ d.passed }

def add (d : Document) : Line → Option Document
  | .table path => d.openTable path
  | .element path => d.openElement path
  | .pair path value => do
    let members ← insert (d.current ++ path) value d.members
    return { d with members }

end Document

def parse? (text : String) : Option (List (String × Json)) := do
  let lines ← readLines (text.length + 1) text.toList
  let d ← lines.foldlM Document.add {}
  return d.members

end TableSchema.Toml
