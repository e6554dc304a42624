import TableSchema.Column
import TableSchema.Definition.Node
import TableSchema.Text.AnyCase
import TableSchema.Text.Casing
import TableSchema.Text.Digit
import TableSchema.Text.Quote

/-!
Default values. The text of a `DEFAULT` clause says null, the current time or a literal. What it
says goes to the column once: as soon as the column is known to admit null or not, and at the end
of the definition at the latest.
-/

namespace TableSchema

/-- The value that stands for the current time. -/
def epoch : String := "1970-01-01 00:00:00"

/-- What may follow a name of the current time: blanks, and perhaps a precision in parentheses. -/
def isPrecision (cs : List Char) : Bool :=
  match cs.dropWhile Text.isBlank with
  | [] => true
  | '(' :: cs =>
    ((cs.dropWhile Text.isBlank).dropWhile Text.isDigit).dropWhile Text.isBlank == [')']
  | _ => false

def isCurrentTime (cs : List Char) : Bool :=
  (Text.dropWord? "current_timestamp".toList cs).any isPrecision ||
    (Text.dropWord? "now".toList cs).any isPrecision

/-- The value that the text of a `DEFAULT` clause writes; none is null. -/
def defaultExpression (text : String) : Option String :=
  let cs := Text.trim text.toList
  if Text.upper cs == "NULL".toList then none
  else if isCurrentTime cs then some epoch
  else some (String.ofList (Text.withoutQuotes cs))

/-- What a definition has said of its default so far, and whether that is settled. -/
structure DefaultDecision where
  seen : Option (Option String) := none
  settled : Bool := false
  deriving DecidableEq, Repr

namespace DefaultDecision

def give (d : DefaultDecision) (c : Column) : Column :=
  match d.seen with
  | some value => { c with hasDefault := true, defaultValue := value }
  | none => c

/-- Settles the decision on a column when `observed` is known or when forced to. -/
def settle (force : Bool) (observed : Nullability) (d : DefaultDecision) (c : Column) :
    DefaultDecision × Column :=
  if d.settled then (d, c)
  else if observed = .unspecified then
    if force then ({ d with settled := true }, d.give c) else (d, c)
  else ({ d with settled := true }, d.give { c with nullability := observed })

/-- Takes note of a `DEFAULT` text, and settles if the time has come. -/
def notice (observed : Nullability) (n : Node) (d : DefaultDecision) (c : Column) :
    DefaultDecision × Column :=
  match n with
  | .defaultText t => settle false observed { d with seen := some (defaultExpression t.text) } c
  | _ => (d, c)

end DefaultDecision

inductive DefaultStep where
  | observe (n : Nullability)
  | settle (force : Bool)
  | event (e : Event)
  deriving DecidableEq, Repr

structure DefaultRun where
  column : Column
  observed : Nullability := .unspecified
  decision : DefaultDecision := {}
  deriving DecidableEq, Repr

namespace DefaultRun

def withDecision (r : DefaultRun) (p : DefaultDecision × Column) : DefaultRun :=
  { r with decision := p.1, column := p.2 }

def step (r : DefaultRun) : DefaultStep → DefaultRun
  | .observe n => { r with observed := n }
  | .settle force => r.withDecision (r.decision.settle force r.observed r.column)
  | .event (.enter n) => r.withDecision (r.decision.notice r.observed n r.column)
  | .event (.leave _) => r

end DefaultRun
end TableSchema
