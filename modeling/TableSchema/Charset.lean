import TableSchema.Text.Quote

/-!
The character set that the clauses of a definition name.
-/

namespace TableSchema

/-- The character set that a collation belongs to: its name up to the first underscore. -/
def charsetOfCollation (collation : String) : String :=
  String.ofList ((Text.withoutQuotes collation.toList).takeWhile (· ≠ '_'))

/-- The character set named by a `CHARACTER SET` clause, else the one that a `COLLATE` clause
implies. An empty name counts as none. -/
def charsetOf (charset collation : Option String) : Option String :=
  match charset.filter (· ≠ ""), collation.filter (· ≠ "") with
  | some charset, _ => some (Text.unquoted charset)
  | none, some collation => some (charsetOfCollation collation)
  | none, none => none

end TableSchema
