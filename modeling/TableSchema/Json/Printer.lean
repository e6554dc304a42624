import TableSchema.Json.Basic

/-!
The written form of a JSON value, on one line or indented. Text is written as it is, save for the
two characters that would end or alter it and the control characters below U+0020.
-/

namespace TableSchema.Json

/-- How the items of an array or object are set: all on one line, or each on a line of its own with
so many spaces for each level. -/
inductive Layout where
  | oneLine
  | indented (width : Nat)

/-- The layout that a number of spaces asks for. None keeps one line; zero or fewer still breaks
lines. -/
def Layout.ofIndent? : Option Int → Layout
  | none => .oneLine
  | some width => .indented width.toNat

def hexDigit (n : Nat) : Char := if n < 10 then Char.ofNat (0x30 + n) else Char.ofNat (0x57 + n)

def escape (c : Char) : List Char :=
  if c == '"' then ['\\', '"']
  else if c == '\\' then ['\\', '\\']
  else if c == '\n' then ['\\', 'n']
  else if c == '\r' then ['\\', 'r']
  else if c == '\t' then ['\\', 't']
  else if c == '\x0c' then ['\\', 'f']
  else if c == '\x08' then ['\\', 'b']
  else if c.toNat < 0x20 then
    ['\\', 'u', '0', '0', hexDigit (c.toNat / 16), hexDigit (c.toNat % 16)]
  else [c]

def quoted (s : String) : List Char := '"' :: s.toList.flatMap escape ++ ['"']

def Layout.lineBreak (layout : Layout) (level : Nat) : List Char :=
  match layout with
  | .oneLine => []
  | .indented width => '\n' :: List.replicate (width * level) ' '

def Layout.separator (layout : Layout) (level : Nat) : List Char :=
  match layout with
  | .oneLine => [',', ' ']
  | .indented _ => ',' :: layout.lineBreak level

/-- Items between brackets, one level below `level`. -/
def Layout.enclose (layout : Layout) (level : Nat) (opening closing : Char)
    (items : List (List Char)) : List Char :=
  if items.isEmpty then [opening, closing]
  else opening :: layout.lineBreak (level + 1) ++
    (layout.separator (level + 1)).intercalate items ++ layout.lineBreak level ++ [closing]

mutual

def print (layout : Layout) (level : Nat) : Json → List Char
  | null => ['n', 'u', 'l', 'l']
  | bool true => ['t', 'r', 'u', 'e']
  | bool false => ['f', 'a', 'l', 's', 'e']
  | number n => (toString n).toList
  | text s => quoted s
  | array items => layout.enclose level '[' ']' (printItems layout (level + 1) items)
  | object members =>
    layout.enclose level '\x7b' '\x7d' (printMembers layout (level + 1) members)

def printItems (layout : Layout) (level : Nat) : List Json → List (List Char)
  | [] => []
  | item :: items => print layout level item :: printItems layout level items

def printMembers (layout : Layout) (level : Nat) : List (String × Json) → List (List Char)
  | [] => []
  | (key, value) :: members =>
    (quoted key ++ [':', ' '] ++ print layout level value) :: printMembers layout level members

end

def render (layout : Layout) (value : Json) : String := String.ofList (print layout 0 value)

end TableSchema.Json
