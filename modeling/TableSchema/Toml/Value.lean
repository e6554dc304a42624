import TableSchema.Json.Reader
import TableSchema.Text.Integer
import TableSchema.Text.Word

/-!
Reading the keys and values of a TOML document. The items of an array are of one kind, numbers are
whole, and there are no dates.
-/

namespace TableSchema.Toml

/-! ### Blanks -/

def isSpace (c : Char) : Bool := c == ' ' || c == '\t'

def skipSpace (cs : List Char) : List Char := cs.dropWhile isSpace

/-- A text without the blanks, line breaks and comments at its front. `comment` says that a comment
has begun. -/
def skipLines (comment : Bool) : List Char → List Char
  | [] => []
  | c :: cs =>
    if c = '\n' then skipLines false cs
    else if comment then skipLines true cs
    else if c = '#' then skipLines true cs
    else if isSpace c then skipLines false cs
    else c :: cs

/-! ### Strings -/

/-- A number of hexadecimal digits and what follows, after the value of those read. -/
def hexDigits? (value : Nat) : Nat → List Char → Option (Nat × List Char)
  | 0, cs => some (value, cs)
  | n + 1, c :: cs => do hexDigits? (16 * value + (← Json.hexValue? c)) n cs
  | _ + 1, [] => none

def charOf? (n : Nat) : Option Char := if n.isValidChar then some (Char.ofNat n) else none

def unescape? : List Char → Option (Char × List Char)
  | 'n' :: rest => some ('\n', rest)
  | 'r' :: rest => some ('\r', rest)
  | 't' :: rest => some ('\t', rest)
  | 'b' :: rest => some ('\x08', rest)
  | 'f' :: rest => some ('\x0c', rest)
  | '0' :: rest => some ('\x00', rest)
  | '"' :: rest => some ('"', rest)
  | '\\' :: rest => some ('\\', rest)
  | 'u' :: rest => do
    let (n, rest) ← hexDigits? 0 4 rest
    return (← charOf? n, rest)
  | 'U' :: rest => do
    let (n, rest) ← hexDigits? 0 8 rest
    return (← charOf? n, rest)
  | _ => none

/-- The characters of a string with escapes after its opening quote. `fuel` bounds their number. -/
def readChars : Nat → List Char → Option (List Char × List Char)
  | 0, _ => none
  | _ + 1, [] => none
  | fuel + 1, c :: cs =>
    if c = '"' then some ([], cs)
    else if c = '\n' then none
    else if c = '\\' then do
      let (d, rest) ← unescape? cs
      let (ds, rest) ← readChars fuel rest
      return (d :: ds, rest)
    else do
      let (ds, rest) ← readChars fuel cs
      return (c :: ds, rest)

def readLiteral : List Char → Option (List Char × List Char)
  | [] => none
  | c :: cs =>
    if c = '\'' then some ([], cs)
    else if c = '\n' then none
    else (readLiteral cs).map fun r => (c :: r.1, r.2)

def readString : List Char → Option (String × List Char)
  | '"' :: cs => (readChars (cs.length + 1) cs).map fun r => (String.ofList r.1, r.2)
  | '\'' :: cs => (readLiteral cs).map fun r => (String.ofList r.1, r.2)
  | _ => none

/-! ### Keys -/

def isBare (c : Char) : Bool := Text.isWord c || c == '-'

def readPart (bare : Char → Bool) (cs : List Char) : Option (String × List Char) :=
  match readString cs with
  | some r => some r
  | none =>
    let name := cs.takeWhile bare
    if name.isEmpty then none else some (String.ofList name, cs.dropWhile bare)

/-- The parts of a dotted key. `fuel` bounds their number. -/
def readKey (bare : Char → Bool) : Nat → List Char → Option (List String × List Char)
  | 0, _ => none
  | fuel + 1, cs => do
    let (part, rest) ← readPart bare (skipSpace cs)
    match skipSpace rest with
    | '.' :: rest => do
      let (parts, rest) ← readKey bare fuel rest
      return (part :: parts, rest)
    | rest => return ([part], rest)

/-! ### Values -/

/-- The number that digits of a base write. There must be one. -/
def ofBase? (base : Nat) (cs : List Char) : Option Nat :=
  if cs.isEmpty then none
  else cs.foldlM (fun n c => do
    let d ← Json.hexValue? c
    if d < base then some (base * n + d) else none) 0

/-- Whether a decimal number begins with a zero that does not count, and is more than zeros. -/
def hasIdleZero (cs : List Char) : Bool := cs.head? == some '0' && cs.any (· != '0')

/-- The value of a number without its sign. Underscores between digits do not count. -/
def natural? (cs : List Char) : Option Nat :=
  let digits := cs.filter (· != '_')
  match digits with
  | '0' :: 'x' :: ds | '0' :: 'X' :: ds => ofBase? 16 ds
  | '0' :: 'o' :: ds | '0' :: 'O' :: ds => ofBase? 8 ds
  | '0' :: 'b' :: ds | '0' :: 'B' :: ds => ofBase? 2 ds
  | ds => if hasIdleZero ds then none else Text.natural? cs

def integer? : List Char → Option Int
  | '-' :: cs => (natural? cs).map fun n => -(n : Int)
  | '+' :: cs => (natural? cs).map Int.ofNat
  | cs => (natural? cs).map Int.ofNat

def wordValue? (cs : List Char) : Option Json :=
  if cs = "true".toList then some (.bool true)
  else if cs = "false".toList then some (.bool false)
  else (integer? cs).map .number

def sameKind : Json → Json → Bool
  | .bool _, .bool _ | .number _, .number _ | .text _, .text _ | .array _, .array _
  | .object _, .object _ => true
  | _, _ => false

def arrayOf? : List Json → Option Json
  | [] => some (.array [])
  | first :: others =>
    if others.all (sameKind first) then some (.array (first :: others)) else none

/-- Gives the value at a path, found through tables and the last tables of arrays. Tables on the way
that are not there are made. The new value comes from the old one, if there is one. -/
def update (f : Option Json → Option Json) :
    List String → List (String × Json) → Option (List (String × Json))
  | [], _ => none
  | [key], members => do
    let old := members.lookup key
    let value ← f old
    match old with
    | some _ => return Json.setMember key value members
    | none => return members ++ [(key, value)]
  | key :: path, members =>
    match members.lookup key with
    | none => do return members ++ [(key, .object (← update f path []))]
    | some (.object inner) => do
      return Json.setMember key (.object (← update f path inner)) members
    | some (.array items) =>
      match items.getLast? with
      | some (.object inner) => do
        let last := Json.object (← update f path inner)
        return Json.setMember key (.array (items.dropLast ++ [last])) members
      | _ => none
    | some _ => none

/-- Puts a value at a path where there is none yet. -/
def insert (path : List String) (value : Json) (members : List (String × Json)) :
    Option (List (String × Json)) :=
  update (fun old => if old.isSome then none else some value) path members

mutual

/-- A value at the front of a text. `fuel` bounds the depth and the number of items. -/
def readValue : Nat → List Char → Option (Json × List Char)
  | 0, _ => none
  | fuel + 1, cs =>
    match cs with
    | '"' :: _ | '\'' :: _ => (readString cs).map fun r => (.text r.1, r.2)
    | '[' :: rest => readItems fuel [] rest
    | '\x7b' :: rest =>
      match skipSpace rest with
      | '\x7d' :: rest => some (.object [], rest)
      | rest => readMembers fuel [] rest
    | cs =>
      let inWord := fun c => Text.isWord c || c == '+' || c == '-' || c == '.'
      (wordValue? (cs.takeWhile inWord)).map (·, cs.dropWhile inWord)

/-- The items of an array after those read, the last one first. Items may be left out. -/
def readItems : Nat → List Json → List Char → Option (Json × List Char)
  | 0, _, _ => none
  | fuel + 1, done, cs =>
    match skipLines false cs with
    | ']' :: rest => (arrayOf? done.reverse).map (·, rest)
    | ',' :: rest => readItems fuel done rest
    | cs => do
      let (item, rest) ← readValue fuel cs
      match skipLines false rest with
      | ',' :: rest => readItems fuel (item :: done) rest
      | ']' :: rest => (arrayOf? (item :: done).reverse).map (·, rest)
      | _ => none

def readMembers : Nat → List (String × Json) → List Char → Option (Json × List Char)
  | 0, _, _ => none
  | fuel + 1, done, cs => do
    let (key, rest) ← readKey isBare (cs.length + 1) cs
    match rest with
    | '=' :: rest => do
      let (value, rest) ← readValue fuel (skipSpace rest)
      let members ← insert key value done
      match skipSpace rest with
      | ',' :: rest => readMembers fuel members rest
      | '\x7d' :: rest => return (.object members, rest)
      | _ => none
    | _ => none

end

end TableSchema.Toml
