import TableSchema.Json.Basic

/-!
Reading JSON text. Numbers are whole, and a key that is written twice keeps its first place and its
last value.
-/

namespace TableSchema.Json

def isSpace (c : Char) : Bool := c == ' ' || c == '\n' || c == '\r' || c == '\t'

def skipSpace (cs : List Char) : List Char := cs.dropWhile isSpace

def hexValue? (c : Char) : Option Nat :=
  let n := c.toNat
  if 0x30 ≤ n && n ≤ 0x39 then some (n - 0x30)
  else if 0x41 ≤ n && n ≤ 0x46 then some (n - 0x37)
  else if 0x61 ≤ n && n ≤ 0x66 then some (n - 0x57)
  else none

/-- Four hexadecimal digits and what follows. -/
def unit? : List Char → Option (Nat × List Char)
  | a :: b :: c :: d :: rest => do
    let a ← hexValue? a
    let b ← hexValue? b
    let c ← hexValue? c
    let d ← hexValue? d
    return (((a * 16 + b) * 16 + c) * 16 + d, rest)
  | _ => none

/-- The character of an escape after its backslash. Two units of a surrogate pair make one. -/
def unescape? : List Char → Option (Char × List Char)
  | 'n' :: rest => some ('\n', rest)
  | 'r' :: rest => some ('\r', rest)
  | 't' :: rest => some ('\t', rest)
  | 'b' :: rest => some ('\x08', rest)
  | 'f' :: rest => some ('\x0c', rest)
  | 'u' :: rest => do
    let (high, rest) ← unit? rest
    if 0xD800 ≤ high && high < 0xDC00 then
      match rest with
      | '\\' :: 'u' :: more => do
        let (low, more) ← unit? more
        return (Char.ofNat (0x10000 + (high - 0xD800) * 0x400 + (low - 0xDC00)), more)
      | _ => none
    else return (Char.ofNat high, rest)
  | c :: rest => if c == '"' || c == '\\' || c == '/' then some (c, rest) else none
  | [] => none

/-- The characters of a string after its opening quote. `fuel` bounds their number. -/
def readChars : Nat → List Char → Option (List Char × List Char)
  | 0, _ => none
  | _ + 1, [] => none
  | fuel + 1, c :: cs =>
    if c == '"' then some ([], cs)
    else if c == '\\' then do
      let (d, rest) ← unescape? cs
      let (ds, rest) ← readChars fuel rest
      return (d :: ds, rest)
    else do
      let (ds, rest) ← readChars fuel cs
      return (c :: ds, rest)

def readText (cs : List Char) : Option (String × List Char) := do
  let (ds, rest) ← readChars (cs.length + 1) cs
  return (String.ofList ds, rest)

def ofAscii (ds : List Char) : Nat := ds.foldl (fun n d => 10 * n + (d.toNat - 0x30)) 0

/-- A whole number. -/
def readNumber (cs : List Char) : Option (Json × List Char) :=
  let (negative, body) := match cs with
    | '-' :: body => (true, body)
    | body => (false, body)
  let ds := body.takeWhile Char.isDigit
  if ds.isEmpty then none
  else
    let n : Int := ofAscii ds
    some (number (if negative then -n else n), body.dropWhile Char.isDigit)

/-- The rest of a text after a fixed word. -/
def dropLiteral? : List Char → List Char → Option (List Char)
  | [], cs => some cs
  | w :: ws, c :: cs => if w == c then dropLiteral? ws cs else none
  | _ :: _, [] => none

/-- The members of an object with one more, which replaces the value of a known key. -/
def setMember (key : String) (value : Json) : List (String × Json) → List (String × Json)
  | [] => [(key, value)]
  | (k, v) :: members =>
    if k == key then (k, value) :: members else (k, v) :: setMember key value members

mutual

/-- A value at the front of a text. `fuel` bounds the depth and the number of items. -/
def readValue : Nat → List Char → Option (Json × List Char)
  | 0, _ => none
  | fuel + 1, cs =>
    match skipSpace cs with
    | '"' :: rest => (readText rest).map fun r => (text r.1, r.2)
    | '[' :: rest =>
      match skipSpace rest with
      | ']' :: rest => some (array [], rest)
      | rest => readItems fuel [] rest
    | '\x7b' :: rest =>
      match skipSpace rest with
      | '\x7d' :: rest => some (object [], rest)
      | rest => readMembers fuel [] rest
    | 'n' :: rest => (dropLiteral? ['u', 'l', 'l'] rest).map (null, ·)
    | 't' :: rest => (dropLiteral? ['r', 'u', 'e'] rest).map (bool true, ·)
    | 'f' :: rest => (dropLiteral? ['a', 'l', 's', 'e'] rest).map (bool false, ·)
    | rest => readNumber rest

/-- The items of an array after those read, the last one first. -/
def readItems : Nat → List Json → List Char → Option (Json × List Char)
  | 0, _, _ => none
  | fuel + 1, done, cs => do
    let (item, rest) ← readValue fuel cs
    match skipSpace rest with
    | ',' :: rest => readItems fuel (item :: done) rest
    | ']' :: rest => return (array (item :: done).reverse, rest)
    | _ => none

def readMembers : Nat → List (String × Json) → List Char → Option (Json × List Char)
  | 0, _, _ => none
  | fuel + 1, done, cs =>
    match skipSpace cs with
    | '"' :: rest => do
      let (key, rest) ← readText rest
      match skipSpace rest with
      | ':' :: rest => do
        let (value, rest) ← readValue fuel rest
        match skipSpace rest with
        | ',' :: rest => readMembers fuel (setMember key value done) rest
        | '\x7d' :: rest => return (object (setMember key value done), rest)
        | _ => none
      | _ => none
    | _ => none

end

def parse? (s : String) : Option Json :=
  match readValue (s.length + 1) s.toList with
  | some (value, rest) => if (skipSpace rest).isEmpty then some value else none
  | none => none

end TableSchema.Json
