import TableSchema.Json.Basic
import TableSchema.Table

/-!
Columns and tables as JSON.
-/

namespace TableSchema

/-- The members of a column. An open length or scale is null. -/
def Column.toMembers (c : Column) : List (String × Json) := [
  ("name", .text c.name),
  ("position", .number c.position),
  ("type", .text c.typeName),
  ("jdbc_type", .number c.typeCode),
  ("length", .ofNumber? c.length),
  ("scale", .ofNumber? c.scale),
  ("charset", .ofText? c.charset),
  ("optional", .bool c.isOptional),
  ("unique", .bool c.unique),
  ("auto_incremented", .bool c.autoIncremented),
  ("generated", .bool c.generated),
  ("enum_values", .ofTexts c.values),
  ("comment", .ofText? c.comment),
  ("has_default_value", .bool c.hasDefault),
  ("default_value", .ofText? c.defaultValue)]

def Column.toJson (c : Column) : Json := .object c.toMembers

def Table.toMembers (t : Table) : List (String × Json) := [
  ("table", .text t.id.text),
  ("columns", .array (t.columns.map Column.toJson)),
  ("primary_key", .ofTexts t.primaryKey)]

def Table.toJson (t : Table) : Json := .object t.toMembers

end TableSchema
