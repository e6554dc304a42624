/-!
Line breaks.
-/

namespace TableSchema.Text

/-- A text in which every line break is a line feed. `afterReturn` says that a carriage return
precedes, with which a line feed makes one line break. -/
def unifyFrom (afterReturn : Bool) : List Char → List Char
  | [] => []
  | c :: cs =>
    if c = '\r' then '\n' :: unifyFrom true cs
    else if c = '\n' && afterReturn then unifyFrom false cs
    else c :: unifyFrom false cs

def unifyLines (s : String) : String := String.ofList (unifyFrom false s.toList)

end TableSchema.Text
