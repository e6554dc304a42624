import TableSchema.Text.Blank
import TableSchema.Text.Digit

/-!
Integer literals: an optional sign and decimal digits of any script, with blanks allowed around and
single underscores between the digits.
-/

namespace TableSchema.Text

/-- The most digits a literal may have, leading zeros included. -/
def maxDigits : Nat := 4300

/-- The digit values of a literal's body, where `fresh` says that no digit precedes. An underscore
stands between two digits. -/
def digitValues? (fresh : Bool) : List Char → Option (List Nat)
  | [] => if fresh then none else some []
  | c :: cs =>
    match digitValue? c with
    | some d => (digitValues? false cs).map (d :: ·)
    | none => if c == '_' && !fresh then digitValues? true cs else none

def ofDigits (ds : List Nat) : Nat := ds.foldl (fun n d => 10 * n + d) 0

def natural? (cs : List Char) : Option Nat :=
  match digitValues? true cs with
  | some ds => if ds.length ≤ maxDigits then some (ofDigits ds) else none
  | none => none

def integer? (cs : List Char) : Option Int :=
  match trim cs with
  | '-' :: body => (natural? body).map fun n => -(n : Int)
  | '+' :: body => (natural? body).map Int.ofNat
  | body => (natural? body).map Int.ofNat

end TableSchema.Text
