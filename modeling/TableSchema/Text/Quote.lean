/-!
Enclosing quotes.
-/

namespace TableSchema.Text

def isQuote (c : Char) : Bool := c == '\'' || c == '"' || c == '\x60'

/-- A text without its enclosing quotes: the first and the last of at least two characters, when
they are the same quote. -/
def withoutQuotes : List Char → List Char
  | [] => []
  | q :: cs =>
    if isQuote q && cs.getLast? == some q then cs.dropLast else q :: cs

def unquoted (s : String) : String := String.ofList (withoutQuotes s.toList)

end TableSchema.Text
