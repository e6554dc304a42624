import TableSchema.Source.Marker
import TableSchema.Source.Quotation
import TableSchema.Text.AnyCase
import TableSchema.Text.Word

/-!
Forms of a statement that are rewritten before it is read as SQL: long names of national strings
become short ones, and modifiers without a clause become checks on a marker. Quoted text is never
rewritten, and each plain part is rewritten on its own.
-/

namespace TableSchema.Source

/-- A form and what it becomes. The words stand with blanks between them; each is one of several,
in small letters. A `kept` word may follow, which stays in front of the replacement. -/
structure Rewrite where
  words : List (List (List Char))
  kept : Option (List Char) := none
  beforeParenthesis : Bool := true
  replacement : List Char

namespace Rewrite

/-- The rest of a text after the words of a form, which end where a word ends. -/
def dropWords? : List (List (List Char)) → List Char → Option (List Char)
  | [], _ => none
  | [word], cs =>
    word.findSome? fun w => (Text.dropWord? w cs).filter fun rest => !Text.startsWord rest
  | word :: words, cs =>
    word.findSome? fun w => do
      let rest ← Text.dropWord? w cs
      let rest ← Text.dropBlanks? rest
      dropWords? words rest

def dropKept? (r : Rewrite) (cs : List Char) : Option (List Char) := do
  let word ← r.kept
  let rest ← Text.dropBlanks? cs
  dropWords? [[word]] rest

def mayPrecede (r : Rewrite) (cs : List Char) : Bool :=
  r.beforeParenthesis || (cs.dropWhile Text.isBlank).head? != some '('

/-- What the form at the front of a text becomes, and the rest of the text after it. -/
def match? (r : Rewrite) (cs : List Char) : Option (List Char × List Char) := do
  let rest ← (dropWords? r.words cs).filter r.mayPrecede
  match r.dropKept? rest with
  | some rest' => return (rest.take (rest.length - rest'.length) ++ r.replacement, rest')
  | none => return (r.replacement, rest)

/-- Replaces each occurrence of the form, from the left. The first `skip` characters belong to an
occurrence; `inWord` says that a word character precedes. -/
def applyFrom (r : Rewrite) (inWord : Bool) : Nat → List Char → List Char
  | _, [] => []
  | skip + 1, c :: cs => applyFrom r (Text.isWord c) skip cs
  | 0, c :: cs =>
    match if inWord then none else r.match? (c :: cs) with
    | some (replacement, rest) =>
      replacement ++ applyFrom r (Text.isWord c) (cs.length - rest.length) cs
    | none => c :: applyFrom r (Text.isWord c) 0 cs

def apply (r : Rewrite) (cs : List Char) : List Char := r.applyFrom false 0 cs

end Rewrite

def word (s : String) : List (List Char) := [s.toList]

/-- The forms, in the order they are replaced. -/
def rewrites : List Rewrite := [
  { words := [word "serial", word "default", word "value"]
    replacement := Marker.serialDefault.check.toList },
  { words := [word "zerofill"]
    kept := some "unsigned".toList
    replacement := (" " ++ Marker.zerofill.check).toList },
  { words := [word "national", word "character" ++ word "char", word "varying"]
    replacement := "NVARCHAR".toList },
  { words := [word "national" ++ word "nchar", word "varchar"]
    replacement := "NVARCHAR".toList },
  { words := [word "nchar", word "varying"]
    replacement := "NVARCHAR".toList },
  { words := [word "national", word "character" ++ word "char"]
    replacement := "NCHAR".toList },
  { words := [word "long", word "varchar"]
    beforeParenthesis := false
    replacement := ("MEDIUMTEXT " ++ Marker.longVarchar.check).toList }]

def rewritePlain (cs : List Char) : List Char := rewrites.foldl (fun cs r => r.apply cs) cs

def Segment.rewrite : Segment → List Char
  | plain cs => rewritePlain cs
  | quoted cs => cs

/-- A statement with every form replaced outside its quoted regions. -/
def rewrite (cs : List Char) : List Char := (segments cs).flatMap Segment.rewrite

def normalize (statement : String) : String := String.ofList (rewrite statement.toList)

end TableSchema.Source
