import TableSchema.Text.Integer

/-!
The arguments of the command line. Options of the whole program stand before the first command;
those of a command stand anywhere among its arguments. What is wrong in the part before the first
command is found before anything is done, the rest only when its turn comes.
-/

namespace TableSchema.CommandLine

/-! ### Options -/

/-- An option by its name. A flag has no value. -/
structure OptionSpec where
  name : String
  isFlag : Bool := false
  deriving DecidableEq, Repr

structure GivenOption where
  name : String
  value : Option String := none
  deriving DecidableEq, Repr

/-- The parts of an argument around its first equals sign. -/
def splitValue (argument : String) : String × Option String :=
  let cs := argument.toList
  let name := cs.takeWhile (· ≠ '=')
  (String.ofList name, ((cs.drop name.length).tail?).map String.ofList)

def isOption (argument : String) : Bool :=
  match argument.toList with
  | '-' :: _ :: _ => true
  | _ => false

/-- The options and the other arguments of a list. Unless they may be mixed, options end at the
first other argument. None if an option is unknown, lacks its value or has one too many. -/
def splitOptions? (specs : List OptionSpec) (mixed : Bool) :
    List String → Option (List GivenOption × List String)
  | [] => some ([], [])
  | argument :: rest =>
    if argument = "--" then some ([], rest)
    else if isOption argument then do
      let (name, value) := splitValue argument
      let spec ← specs.find? fun s => s.name = name
      match spec.isFlag, value, rest with
      | true, none, rest => do
        let (options, others) ← splitOptions? specs mixed rest
        return (⟨name, none⟩ :: options, others)
      | true, some _, _ => none
      | false, some value, rest => do
        let (options, others) ← splitOptions? specs mixed rest
        return (⟨name, some value⟩ :: options, others)
      | false, none, value :: rest => do
        let (options, others) ← splitOptions? specs mixed rest
        return (⟨name, some value⟩ :: options, others)
      | false, none, [] => none
    else if mixed then do
      let (options, others) ← splitOptions? specs mixed rest
      return (options, argument :: others)
    else some ([], argument :: rest)

/-- The value of an option; the last one counts. -/
def valueOf? (options : List GivenOption) (name : String) : Option String :=
  (options.reverse.find? fun o => o.name = name).bind GivenOption.value

/-- Which of several options is given last. -/
def lastOf? (options : List GivenOption) (names : List String) : Option String :=
  (options.reverse.find? fun o => names.contains o.name).map GivenOption.name

/-! ### Commands -/

inductive Command where
  | version
  | resolveColumn (definition : String) (table : Option String) (indent : Option Int)
  | parseTable (file : String) (indent : Option Int)
  /-- Arguments that make no command. -/
  | misused (first : String)
  deriving DecidableEq, Repr

structure Invocation where
  configFile : Option String := none
  skipComments : Option Bool := none
  dialect : Option String := none
  debug : Bool := false
  command : Command
  deriving DecidableEq, Repr

def programOptions : List OptionSpec :=
  [⟨"--config-file", false⟩, ⟨"--skip-comments", true⟩, ⟨"--keep-comments", true⟩,
    ⟨"--dialect", false⟩, ⟨"--debug", true⟩]

/-- The number that an option gives, if it is given. None if it is no number. -/
def indentOf? (options : List GivenOption) : Option (Option Int) :=
  match valueOf? options "--indent" with
  | none => some none
  | some value => (Text.integer? value.toList).map some

def commandOf? (first : String) (arguments : List String) : Option Command :=
  match first with
  | "version" => do
    let ([], []) ← splitOptions? [] true arguments | none
    return .version
  | "column" => do
    let ([], "resolve" :: rest) ← splitOptions? [] false arguments | none
    let (options, [definition]) ← splitOptions? [⟨"--table", false⟩, ⟨"--indent", false⟩] true rest
      | none
    return .resolveColumn definition (valueOf? options "--table") (← indentOf? options)
  | "table" => do
    let ([], "parse" :: rest) ← splitOptions? [] false arguments | none
    let (options, [file]) ← splitOptions? [⟨"--indent", false⟩] true rest | none
    return .parseTable file (← indentOf? options)
  | _ => none

def firstWords : List String := ["version", "column", "table"]

/-- What some arguments ask for. None if that cannot be told from the part up to the first word of
the command. -/
def parse? (arguments : List String) : Option Invocation := do
  let (options, first :: rest) ← splitOptions? programOptions false arguments | none
  if !firstWords.contains first then none
  return {
    configFile := valueOf? options "--config-file"
    skipComments := (lastOf? options ["--skip-comments", "--keep-comments"]).map
      (· == "--skip-comments")
    dialect := valueOf? options "--dialect"
    debug := (lastOf? options ["--debug"]).isSome
    command := (commandOf? first rest).getD (.misused first) }

end TableSchema.CommandLine
