/-!
Kinds of failures, as callers tell them apart.
-/

namespace TableSchema

inductive ErrorKind where
  | parsing
  /-- A definition that no statement can contain, such as one with a length that is no number. -/
  | grammarInvariant
  | unsupportedStatement
  | token
  /-- A setting that chooses no dialect. -/
  | value
  | configurationNotFound
  | invalidFormat
  /-- A section that is no table. -/
  | type
  deriving DecidableEq, Repr

/-- The failures that are about the text of a statement: the general kind and the two that are kinds
of it. -/
def ErrorKind.IsParsing : ErrorKind → Prop
  | parsing | grammarInvariant | unsupportedStatement => True
  | token | value | configurationNotFound | invalidFormat | type => False

end TableSchema
