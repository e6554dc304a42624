import TableSchema.ErrorKind
import TableSchema.Settings
import TableSchema.Text.Lines
import TableSchema.Toml.Document

/-!
Settings from a configuration file. They stand in the section `parser`, which may hold nothing but
settings.
-/

namespace TableSchema

inductive ConfigurationError where
  | notFound (path : Option String)
  | malformed (path : String)
  | unknownKeys (path : String) (keys : List String)
  /-- The section is a value of another kind. -/
  | notATable (value : Json)

def ConfigurationError.message : ConfigurationError → String
  | notFound path => "Configuration file not found: " ++ path.getD "None"
  | malformed path => "Invalid configuration file " ++ path ++ ": not a TOML document"
  | unknownKeys path keys =>
    "Unknown keys in [parser] section of " ++ path ++ ": " ++ ", ".intercalate keys
  | notATable value => "'" ++ value.kind ++ "' object is not iterable"

def ConfigurationError.kind : ConfigurationError → ErrorKind
  | notFound _ => .configurationNotFound
  | malformed _ | unknownKeys .. => .invalidFormat
  | notATable _ => .type

namespace Settings

def names : List String := ["skip_comments", "dialect"]

/-- The keys that name no setting, each once and in alphabetical order. -/
def unknownKeys (keys : List String) : List String :=
  ((keys.filter fun key => !names.contains key).eraseDups).mergeSort fun a b => a ≤ b

def textOf? : Json → Option String
  | .text s => some s
  | _ => none

/-- The keys of a section. A text has its characters for keys, and an array the texts in it. -/
def sectionKeys? : Json → Option (List String)
  | .object members => some (members.map (·.1))
  | .text s => some (s.toList.map Char.toString)
  | .array items => items.mapM textOf?
  | _ => none

def ofSection (path : String) (value : Json) : Except ConfigurationError Settings :=
  match sectionKeys? value with
  | none => .error (.notATable value)
  | some keys =>
    match unknownKeys keys, value with
    | [], .object members => .ok (({} : Settings).update members)
    | [], _ => .error (.notATable value)
    | unknown, _ => .error (.unknownKeys path unknown)

def ofText (path text : String) : Except ConfigurationError Settings :=
  match Toml.parse? (Text.unifyLines text) with
  | none => .error (.malformed path)
  | some members => ofSection path ((members.lookup "parser").getD (.object []))

/-- Settings from a file that may be missing. Unless it is required, there are default settings. -/
def load (path : Option String) (text : Option String) (required : Bool) :
    Except ConfigurationError Settings :=
  match path, text with
  | some path, some text => ofText path text
  | path, _ => if required then .error (.notFound path) else .ok {}

end Settings
end TableSchema
