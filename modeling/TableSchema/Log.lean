/-!
Messages to the two output streams. In the informing mode they go to standard output, each on a
line; in the debugging mode to standard error, each behind a header. A mark inside a message is
removed and keeps its line open, and while a line is open a message continues it without a header.
-/

namespace TableSchema.Log

inductive Level where
  | debug
  | info
  | warning
  | error
  | critical
  deriving DecidableEq, Repr

namespace Level

def rank : Level → Nat
  | debug => 0
  | info => 1
  | warning => 2
  | error => 3
  | critical => 4

/-- The name of a level in a header. -/
def name : Level → String
  | debug => "DEBUG"
  | info => "INFO"
  | warning => "WARNING"
  | error => "ERROR"
  | critical => "CRITICAL"

end Level

/-- Where messages go. `initial` is what holds before a mode is chosen: warnings and worse go to
standard error as they are. -/
inductive Mode where
  | initial
  | informing
  | debugging (lineOpen : Bool)
  deriving DecidableEq, Repr

/-- The level from which on messages are written. -/
def Mode.threshold : Mode → Level
  | initial => .warning
  | informing => .info
  | debugging _ => .debug

structure Output where
  out : String := ""
  err : String := ""
  deriving DecidableEq, Repr

def Output.append (a b : Output) : Output := ⟨a.out ++ b.out, a.err ++ b.err⟩

/-- A text without its marks, found from the left, and whether there was one. -/
def removeMarks : List Char → List Char × Bool
  | '[' :: '!' :: 'n' :: ']' :: cs => ((removeMarks cs).1, true)
  | c :: cs =>
    let r := removeMarks cs
    (c :: r.1, r.2)
  | [] => ([], false)

def unmarked (text : String) : String := String.ofList (removeMarks text.toList).1

def isMarked (text : String) : Bool := (removeMarks text.toList).2

/-- The line end of a message, which a mark takes away. -/
def lineEnd (text : String) : String := if isMarked text then "" else "\n"

def header (time : String) (level : Level) : String :=
  time ++ " :: " ++ level.name ++ " :: root :: "

/-- What a mode writes for a message, and the mode after it. -/
def Mode.write (time : String) (level : Level) (text : String) (mode : Mode) : Mode × Output :=
  if level.rank < mode.threshold.rank then (mode, {})
  else
    match mode with
    | initial => (initial, { err := text ++ "\n" })
    | informing => (informing, { out := unmarked text ++ lineEnd text })
    | debugging lineOpen =>
      (debugging (isMarked text),
        { err := (if lineOpen then "" else header time level) ++ unmarked text ++ lineEnd text })

inductive Step where
  | mode (debug : Bool)
  | message (level : Level) (text : String)
  deriving DecidableEq, Repr

/-- One step. Choosing a mode starts it anew, with no line open. -/
def step (time : String) (mode : Mode) : Step → Mode × Output
  | .mode true => (.debugging false, {})
  | .mode false => (.informing, {})
  | .message level text => mode.write time level text

def run (time : String) (mode : Mode) : List Step → List Output
  | [] => []
  | s :: steps =>
    let (mode, output) := step time mode s
    output :: run time mode steps

end TableSchema.Log
