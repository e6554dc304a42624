import TableSchema.Resolver

/-!
Outlines of tables, and the tables they make. An outline lists columns in their order, and the keys
of the whole table after them, when every column that they may name is there.
-/

namespace TableSchema

/-- What a statement says of a table. -/
structure Outline where
  id : TableId
  columns : List (String × ColumnDefinition) := []
  keys : List (List String) := []
  deriving DecidableEq, Repr

/-- The result of some work, and the lengths that were cut on the way, failed or not. -/
structure Outcome (ε α : Type) where
  result : Except ε α
  diagnostics : List LengthDiagnostic := []

namespace TableDraft

/-- Adds columns in order, up to the first that cannot be resolved. -/
def define (rules : Rules) (t : TableDraft) :
    List (String × ColumnDefinition) → Outcome ResolveError TableDraft
  | [] => ⟨.ok t, []⟩
  | (name, definition) :: rest =>
    let r := resolveColumn rules name definition (some t)
    match r.result with
    | .ok _ =>
      let o := (r.table.getD t).define rules rest
      ⟨o.result, r.diagnostics ++ o.diagnostics⟩
    | .error e => ⟨.error e, r.diagnostics⟩

/-- Sets table keys in order. The last one remains. -/
def setTableKeys (t : TableDraft) (keys : List (List String)) :
    Except MissingKeyColumn TableDraft :=
  keys.foldlM TableDraft.setTableKey t

end TableDraft

def Outline.build (rules : Rules) (o : Outline) : Outcome ResolveError Table :=
  let defined := TableDraft.define rules { id := o.id } o.columns
  { defined with
    result := do
      let t ← defined.result
      match t.setTableKeys o.keys with
      | .ok t => return t.finish
      | .error e => throw (.missingKeyColumn e) }

end TableSchema
