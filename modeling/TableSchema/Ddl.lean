import TableSchema.Settings
import TableSchema.Sql.Outline

/-!
Tables and columns from the text of a statement. The length diagnostics of columns that were
resolved are kept when a later one fails.
-/

namespace TableSchema

inductive DdlError where
  | noReader (language : String)
  | outline (e : Sql.OutlineError)
  | resolve (e : ResolveError)
  | notOneColumn (definition : String) (count : Nat)

def DdlError.message : DdlError → String
  | noReader language => "No column definitions processor for " ++ language
  | outline e => e.message
  | resolve e => e.message
  | notOneColumn definition count =>
    "Expected exactly one column definition in '" ++ definition ++ "', got " ++ toString count

def DdlError.kind : DdlError → ErrorKind
  | outline e => e.kind
  | resolve e => e.kind
  | noReader _ | notOneColumn .. => .parsing

namespace Ddl

/-- Whether a language is SQL, the one language that is read. Letter case does not matter. -/
def isSql (language : String) : Bool :=
  match (Text.lowerString language).toList with
  | c :: rest => Text.upperString c.toString == "S" && rest == ['q', 'l']
  | [] => false

def rules (s : Settings) : Rules := { skipComments := s.skips }

/-- The outline of a text in the dialect that settings choose. -/
def outline (s : Settings) (text : String) (engine : Sql.Engine := .standard) :
    Except DdlError Sql.PartialOutline :=
  match Sql.Dialect.choose s.dialect with
  | .error e => .error (.outline (.dialect e))
  | .ok d => (Sql.outline engine d text).mapError .outline

/-- The table of an outline that may have ended early. -/
def build (s : Settings) (o : Sql.PartialOutline) : Outcome DdlError Table :=
  let built := o.outline.build (rules s)
  let result : Except DdlError Table :=
    match built.result, o.error with
    | .error e, _ => .error (.resolve e)
    | .ok _, some e => .error (.outline e)
    | .ok t, none => .ok t
  ⟨result, built.diagnostics⟩

def table (s : Settings) (text : String) (language : String := "sql")
    (engine : Sql.Engine := .standard) : Outcome DdlError Table :=
  if !isSql language then ⟨.error (.noReader language), []⟩
  else
    match outline s text engine with
    | .error e => ⟨.error e, []⟩
    | .ok o => build s o

/-- The table that single definitions are put into. -/
def defaultTable : String := "cdc_ddl_column"

def createTable (name items : String) : String := "CREATE TABLE " ++ name ++ " (" ++ items ++ ")"

def onlyColumn (definition : String) (t : Table) : Except DdlError Column :=
  match t.columns with
  | [c] => .ok c
  | columns => .error (.notOneColumn definition columns.length)

def column (s : Settings) (definition : String) (name : String := defaultTable)
    (engine : Sql.Engine := .standard) : Outcome DdlError Column :=
  let o := table s (createTable name definition) "sql" engine
  { o with result := o.result.bind (onlyColumn definition) }

end Ddl
end TableSchema
