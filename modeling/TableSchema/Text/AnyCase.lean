import TableSchema.Text.Blank

/-!
Words matched in any letter case. A Latin letter is met by its two cases, and three of them also by
a foreign character of the same case folding: `s` by the long s, `k` by the Kelvin sign, `i` by the
dotted capital and the dotless small i.
-/

namespace TableSchema.Text

/-- Whether `c` is the small letter `letter` in any case. -/
def isLetter (letter c : Char) : Bool :=
  c.toLower == letter || (letter == 's' && c == '\u017F') || (letter == 'k' && c == '\u212A') ||
    (letter == 'i' && (c == '\u0130' || c == '\u0131'))

/-- The rest of a text after a word, which is given in small letters. -/
def dropWord? : List Char → List Char → Option (List Char)
  | [], cs => some cs
  | _ :: _, [] => none
  | w :: ws, c :: cs => if isLetter w c then dropWord? ws cs else none

def dropBlanks? : List Char → Option (List Char)
  | [] => none
  | c :: cs => if isBlank c then some (cs.dropWhile isBlank) else none

end TableSchema.Text
