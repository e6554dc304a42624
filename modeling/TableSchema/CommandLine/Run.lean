import TableSchema.CommandLine.Arguments
import TableSchema.Configuration
import TableSchema.Ddl
import TableSchema.Encoding
import TableSchema.Json.Printer
import TableSchema.Log

/-!
What the commands do: the messages they write and the code they end with. Files are given with their
texts, so that a run has no effects of its own.
-/

namespace TableSchema.CommandLine

def version : String := "0.3.0"

/-! ### Files -/

/-- The parts of a path that count: those that are neither empty nor a dot. -/
def pathParts (path : String) : List (List Char) :=
  (path.toList.splitOn '/').filter fun part => part != [] && part != ['.']

def shortPath (path : String) : String :=
  let parts := ['/'].intercalate (pathParts path)
  if path.toList.head? = some '/' then String.ofList ('/' :: parts)
  else if parts = [] then "." else String.ofList parts

/-- What a run can read: files by their paths, the path of the default configuration file, and
standard input. -/
structure Surroundings where
  files : List (String × String) := []
  defaultConfiguration : String := "config.toml"
  input : String := ""

def Surroundings.read? (s : Surroundings) (path : String) : Option String :=
  (s.files.find? fun file => shortPath file.1 = shortPath path).map (·.2)

/-- The text of a statement, from a file or, for a dash, from standard input. -/
def Surroundings.statement? (s : Surroundings) (path : String) : Option String :=
  if path = "-" then some s.input else s.read? path

/-- The path of the configuration file, and whether the file must be there. An empty path stands
for the default file. -/
def configurationPath (defaultPath : String) (given : Option String) : String × Bool :=
  match given with
  | none => (shortPath defaultPath, false)
  | some "" => (shortPath defaultPath, true)
  | some path => (shortPath path, true)

def Invocation.paths (defaultPath : String) (i : Invocation) : List String :=
  let configuration := (configurationPath defaultPath i.configFile).1
  match i.command with
  | .parseTable file _ => [configuration, file]
  | .version => []
  | _ => [configuration]

/-! ### Runs -/

inductive Ending where
  | done
  | failed
  | misused
  deriving DecidableEq, Repr

def Ending.code : Ending → Int
  | done => 0
  | failed => -1
  | misused => 2

structure Report where
  messages : List (Log.Level × String) := []
  ending : Ending := .done

namespace Report

def failure (message : String) : Report := ⟨[(.error, "Error: " ++ message)], .failed⟩

/-- The report of some work: a warning for each length that was cut, and then the result as JSON or
the failure. -/
def ofOutcome {α : Type} (indent : Option Int) (encode : α → Json) (o : Outcome DdlError α) :
    Report :=
  let warnings := o.diagnostics.map fun d => (Log.Level.warning, d.message)
  let last : Report := match o.result with
    | .ok a => ⟨[(.info, Json.render (.ofIndent? indent) (encode a))], .done⟩
    | .error e => failure e.message
  ⟨warnings ++ last.messages, last.ending⟩

end Report

/-- The settings of an invocation. Options of the command line override
the configuration file. -/
def Invocation.settings (s : Surroundings) (i : Invocation) :
    Except ConfigurationError Settings := do
  let (path, required) := configurationPath s.defaultConfiguration i.configFile
  let settings ← Settings.load (some path) (s.read? path) required
  return settings.update [("skip_comments", i.skipComments.elim .null .bool),
    ("dialect", .ofText? i.dialect)]

def Command.report (s : Surroundings) (settings : Settings) : Command → Report
  | version => ⟨[(.info, CommandLine.version)], .done⟩
  | resolveColumn definition table indent =>
    if definition.toList.all Text.isBlank then
      .failure "Missing column definition, e.g. \"price DECIMAL(10,2)\"."
    else
      .ofOutcome indent Column.toJson
        (Ddl.column settings definition (table.getD Ddl.defaultTable))
  | parseTable file indent =>
    match s.statement? file with
    | some text => .ofOutcome indent Table.toJson (Ddl.table settings (Text.unifyLines text))
    | none => ⟨[], .misused⟩
  | misused _ => ⟨[], .misused⟩

/-- Whether a command needs no settings. -/
def Command.isVersion : Command → Bool
  | version => true
  | misused first => first = "version"
  | _ => false

def Invocation.report (s : Surroundings) (i : Invocation) : Report :=
  if i.command.isVersion then i.command.report s {}
  else
    match i.settings s with
    | .ok settings => i.command.report s settings
    | .error e => .failure e.message

def Report.output (time : String) (debug : Bool) (r : Report) : Log.Output :=
  (Log.run time .initial (.mode debug :: r.messages.map fun m => .message m.1 m.2)).foldl
    Log.Output.append {}

def run (time : String) (s : Surroundings) (arguments : List String) : Log.Output × Int :=
  match parse? arguments with
  | none => ({}, Ending.misused.code)
  | some i =>
    let r := i.report s
    (r.output time i.debug, r.ending.code)

end TableSchema.CommandLine
