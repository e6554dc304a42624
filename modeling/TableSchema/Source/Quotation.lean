import TableSchema.Text.Quote

/-!
The quoted regions of a statement. A region runs from a quote to the next one that closes it; a
doubled quote stands for itself, and between single or double quotes a backslash escapes the
character after it, unless that is a line break. A quote that nothing closes is plain text. Where a
doubled quote leads nowhere, its first half closes the region.
-/

namespace TableSchema.Source

/-- The number of characters up to the quote that closes a region, that quote included, in a text
that follows the opening one. -/
def closing? (quote : Char) : List Char → Option Nat
  | [] => none
  | c :: cs =>
    if c = quote then
      match cs with
      | [] => some 1
      | d :: ds => if d = quote then some ((closing? quote ds).elim 1 (· + 2)) else some 1
    else if c = '\\' ∧ quote ≠ '\x60' then
      match cs with
      | [] => none
      | d :: ds => if d = '\n' then none else (closing? quote ds).map (· + 2)
    else (closing? quote cs).map (· + 1)

inductive Segment where
  | plain (cs : List Char)
  | quoted (cs : List Char)
  deriving DecidableEq, Repr

def Segment.text : Segment → List Char
  | plain cs | quoted cs => cs

def consPlain (c : Char) : List Segment → List Segment
  | .plain cs :: rest => .plain (c :: cs) :: rest
  | rest => .plain [c] :: rest

/-- The segments of a text, of which the first `rest` characters belong to a region whose earlier
characters are `done`, the last one first. -/
def segmentsFrom (done : List Char) : Nat → List Char → List Segment
  | _, [] => []
  | 0, c :: cs =>
    if Text.isQuote c then
      match closing? c cs with
      | some (n + 1) => segmentsFrom [c] (n + 1) cs
      | _ => consPlain c (segmentsFrom [] 0 cs)
    else consPlain c (segmentsFrom [] 0 cs)
  | 1, c :: cs => .quoted (c :: done).reverse :: segmentsFrom [] 0 cs
  | n + 2, c :: cs => segmentsFrom (c :: done) (n + 1) cs

/-- The plain and the quoted parts of a text, in order; two plain parts are never neighbours. -/
def segments (cs : List Char) : List Segment := segmentsFrom [] 0 cs

end TableSchema.Source
