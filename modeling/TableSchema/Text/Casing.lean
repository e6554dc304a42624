import TableSchema.Text.Word
import TableSchema.Text.CaseTable

/-!
Upper and lower case of whole texts. A character may become several, and the lower case of the
Greek capital sigma depends on where it stands: after a cased character and not before one it takes
its final form.
-/

namespace TableSchema.Text

def CaseRun.image? (run : CaseRun) (n : Nat) : Option Nat :=
  if run.first ≤ n && n ≤ run.last && (n - run.first) % run.step == 0 then
    some (n + run.shift).toNat
  else none

/-- The other case of a character: its expansion, else its image in a run, else itself. -/
def recase (expansions : List (Nat × List Nat)) (runs : List CaseRun) (c : Char) : List Char :=
  match expansions.lookup c.toNat with
  | some image => image.map Char.ofNat
  | none => [((runs.findSome? (·.image? c.toNat)).map Char.ofNat).getD c]

def upperChar (c : Char) : List Char :=
  if c.toNat < 0x80 then [c.toUpper] else recase upperExpansions upperRuns c

/-- The lower case of one character, a capital sigma taken as not final. -/
def lowerChar (c : Char) : List Char :=
  if c.toNat < 0x80 then [c.toLower] else recase lowerExpansions lowerRuns c

/-- Characters that a search for a cased character passes over. -/
def isPassed (c : Char) : Bool :=
  if c.toNat < 0x80 then c == '\'' || c == '.' || c == ':' || c == '^' || c == '\x60'
  else inRanges passedRanges c.toNat

def isCased (c : Char) : Bool :=
  if c.toNat < 0x80 then c.isAlpha else inRanges casedRanges c.toNat

def facesCased (cs : List Char) : Bool := (cs.find? (!isPassed ·)).any isCased

def upper (cs : List Char) : List Char := cs.flatMap upperChar

/-- Lower case of a text that follows the characters of `before`, the nearest one first. -/
def lowerAfter (before : List Char) : List Char → List Char
  | [] => []
  | c :: cs =>
    (if c == '\u03A3' then [if facesCased before && !facesCased cs then '\u03C2' else '\u03C3']
      else lowerChar c) ++ lowerAfter (c :: before) cs

def lower (cs : List Char) : List Char := lowerAfter [] cs

def upperString (s : String) : String := String.ofList (upper s.toList)

/-- Lower case of a string. Names that agree in it are the same name. -/
def lowerString (s : String) : String := String.ofList (lower s.toList)

end TableSchema.Text
