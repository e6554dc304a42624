import TableSchema.Text.Casing

/-!
Markers. A modifier of a column that standard SQL has no clause for is written as a check on a
column with a reserved name.
-/

namespace TableSchema.Source

/-- A modifier written as a check. -/
inductive Marker where
  | serialDefault
  | zerofill
  | longVarchar
  deriving DecidableEq, Repr

namespace Marker

def name : Marker → String
  | serialDefault => "cdc_ddl_serial_default_value"
  | zerofill => "cdc_ddl_zerofill"
  | longVarchar => "cdc_ddl_long_varchar"

def check (m : Marker) : String := "CHECK (" ++ m.name ++ ")"

/-- The marker with a reserved name, in any letter case. -/
def ofName? (name : String) : Option Marker :=
  [serialDefault, zerofill, longVarchar].find? fun m => m.name == Text.lowerString name

end Marker
end TableSchema.Source
