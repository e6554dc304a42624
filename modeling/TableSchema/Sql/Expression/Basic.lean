/-!
Expressions, and the text they are written with. Spacing and the case of names are canonical: one
space around an operator, functions in capitals, names as spelled.
-/

namespace TableSchema.Sql

structure Ident where
  text : String
  quoted : Bool := false
  deriving DecidableEq, Repr

inductive Expr where
  | string (text : String)
  | national (text : String)
  | number (text : String)
  | bits (digits : String)
  | hex (digits : String)
  /-- A constant or a function without arguments that is written as one word. -/
  | constant (text : String)
  /-- A parameter or a place for one. -/
  | parameter (text : String)
  /-- A column, by the parts of its name. -/
  | column (parts : List Ident)
  | call (name : String) (arguments : List Expr)
  | paren (e : Expr)
  | tuple (items : List Expr)
  | before (operator : String) (e : Expr)
  | between (left : Expr) (operator : String) (right : Expr)
  deriving Repr

namespace Expr

def escapeChar (c : Char) : List Char :=
  if c = '\'' then ['\'', '\'']
  else if c = '\\' then ['\\', '\\']
  else if c = '\n' then ['\\', 'n']
  else if c = '\t' then ['\\', 't']
  else if c = '\r' then ['\\', 'r']
  else if c = '\x08' then ['\\', 'b']
  else if c = '\x07' then ['\\', 'a']
  else if c = '\x0c' then ['\\', 'f']
  else if c = '\x0b' then ['\\', 'v']
  else [c]

def quote (s : String) : String :=
  String.ofList ('\'' :: s.toList.flatMap escapeChar ++ ['\''])

end Expr

/-- A written name: as it is, or between quotes, where a quote is written twice. -/
def Ident.render (i : Ident) : String :=
  if i.quoted then
    String.ofList ('\x60' ::
      i.text.toList.flatMap (fun c => if c = '\x60' then [c, c] else [c]) ++ ['\x60'])
  else i.text

namespace Expr

mutual

def render : Expr → String
  | string text => quote text
  | national text => "N" ++ quote text
  | number text | constant text | parameter text => text
  | bits digits => "b'" ++ digits ++ "'"
  | hex digits => "x'" ++ digits ++ "'"
  | column parts => ".".intercalate (parts.map Ident.render)
  | call name arguments => name ++ "(" ++ ", ".intercalate (renderAll arguments) ++ ")"
  | paren e => "(" ++ render e ++ ")"
  | tuple items => "(" ++ ", ".intercalate (renderAll items) ++ ")"
  | before operator e =>
    let text := render e
    if operator = "-" ∧ text.toList.head? = some '-' then operator ++ " " ++ text
    else operator ++ text
  | between left operator right => render left ++ " " ++ operator ++ " " ++ render right

def renderAll : List Expr → List String
  | [] => []
  | e :: es => render e :: renderAll es

end

/-- The plain text of an expression that is a literal or a name: what a string holds, what a number
is spelled as, the last part of a name. Other expressions have none. -/
def plain : Expr → String
  | string text | national text | number text | bits text | hex text | constant text
  | parameter text => text
  | column parts => (parts.getLast?.map Ident.text).getD ""
  | call name _ => name
  | paren e => plain e
  | _ => ""

end Expr

structure Renderer where
  plain : Expr → String
  render : Expr → String

def Renderer.standard : Renderer where
  plain := Expr.plain
  render := Expr.render

end TableSchema.Sql
