import TableSchema.Text.WordTable

/-!
Word characters: letters, numbers and the underscore. A word ends where one of them meets a
character that is none, or the end of the text.
-/

namespace TableSchema.Text

def inRanges (ranges : List (Nat × Nat)) (n : Nat) : Bool :=
  ranges.any fun r => r.1 ≤ n && n ≤ r.2

/-- Letters, numbers and the underscore. -/
def isWord (c : Char) : Bool :=
  if c.toNat < 0x80 then c.isAlphanum || c == '_' else inRanges wordRanges c.toNat

def startsWord (cs : List Char) : Bool := cs.head?.any isWord

end TableSchema.Text
