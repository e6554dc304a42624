import TableSchema.Charset
import TableSchema.DataType
import TableSchema.DefaultValue
import TableSchema.ErrorKind
import TableSchema.Table
import TableSchema.Text.Integer

/-!
From a column definition to a column. The resolver receives the steps of a visit and builds the
column from them; with a table at hand it also makes the column a primary key where a clause asks
for it. A step that fails leaves what was done before it.
-/

namespace TableSchema

/-- A length that was cut to the largest one, and the part of the program that did so. -/
structure LengthDiagnostic where
  component : String
  table : Option TableId
  column : String
  attempted : Int
  clamped : Int
  deriving DecidableEq, Repr

/-- The largest length and scale, the largest signed number of 32 bits. -/
def maxLength : Int := 0x7fffffff

/-- The largest number that a literal may write, the largest signed number of 64 bits. -/
def maxLiteral : Int := 0x7fffffffffffffff

def LengthDiagnostic.message (d : LengthDiagnostic) : String :=
  "The length '" ++ toString d.attempted ++ "' of the column `" ++
    (d.table.elim "None" TableId.text) ++ "`.`" ++ d.column ++
    "` is too large to be supported, truncating it to '" ++ toString d.clamped ++ "'"

inductive ResolveError where
  | notANumber (literal column : String)
  | numberTooLarge (literal column : String)
  | scaleTooLarge (literal column : String)
  | notACollection (column type : String)
  | noValueList (type column : String)
  | missingKeyColumn (e : MissingKeyColumn)
  deriving DecidableEq, Repr

def ResolveError.message : ResolveError → String
  | notANumber literal column => "Invalid numeric literal '" ++ literal ++ "' in column " ++ column
  | numberTooLarge literal column =>
    "Numeric literal '" ++ literal ++ "' in column " ++ column ++ " is out of range"
  | scaleTooLarge literal column =>
    "Scale '" ++ literal ++ "' of column " ++ column ++ " is out of range"
  | notACollection column type =>
    "Collection type of column " ++ column ++ " resolved to " ++ type ++ ", expected ENUM or SET"
  | noValueList type column => type ++ " column " ++ column ++ " has no value list"
  | missingKeyColumn e => e.message

def ResolveError.kind : ResolveError → ErrorKind
  | missingKeyColumn e => e.kind
  | notANumber .. | numberTooLarge .. | scaleTooLarge .. | notACollection .. | noValueList .. =>
    .grammarInvariant

/-- What a resolver goes by: whether comments are left out, and what types stand for. -/
structure Rules where
  skipComments : Bool := false
  resolveType : ColumnType → DataType := ColumnType.resolve

/-- A column in the making, its table if there is one, and what is known only for the time of one
definition: the nullability seen, whether the column is to be unique, and the default still to be
decided. -/
structure Resolver where
  column : Column
  table : Option TableDraft := none
  diagnostics : List LengthDiagnostic := []
  observed : Nullability := .unspecified
  promotable : Bool := false
  pending : Option DefaultDecision := none
  deriving DecidableEq, Repr

/-- A step of a resolver. A failure keeps the state it is met in. -/
abbrev Resolving := EStateM ResolveError Resolver

namespace Resolver

def onColumn (f : Column → Column) (r : Resolver) : Resolver := { r with column := f r.column }

/-! ### Numbers -/

def number (column literal : String) : Except ResolveError Int :=
  match Text.integer? literal.toList with
  | none => .error (.notANumber literal column)
  | some n => if n > maxLiteral then .error (.numberTooLarge literal column) else .ok n

def readNumber (literal : String) : Resolving Int := fun r =>
  match number r.column.name literal with
  | .ok n => .ok n r
  | .error e => .error e r

/-- The name under which a resolver reports. -/
def component : String := "ColumnDefinitionResolver"

def clampReport (table : Option TableDraft) (column : String) (n : Int) : LengthDiagnostic where
  component
  table := table.map TableDraft.id
  column
  attempted := n
  clamped := maxLength

/-- A length. One that is too large is cut and reported. -/
def readLength (literal : String) : Resolving Int := do
  let n ← readNumber literal
  if n > maxLength then
    modify fun r => { r with
      diagnostics := r.diagnostics ++ [clampReport r.table r.column.name n] }
    return maxLength
  else return n

def readScale (literal : String) : Resolving Int := do
  let n ← readNumber literal
  if n > maxLength then throw (.scaleTooLarge literal (← get).column.name) else return n

/-- The length that stands for a fraction without a whole part. -/
def fractionLength : Int := 10

/-- The first number of one or two dimensions. Of a fraction only the whole part counts. -/
def readFirst (literal : String) : Resolving Int := do
  let cs := literal.toList
  if cs.contains '.' then
    let whole := String.ofList (cs.takeWhile (· ≠ '.'))
    if whole = "" then return fractionLength
    if (← readNumber whole) = 0 then return fractionLength
    readLength whole
  else readLength literal

def setLength (n : Int) : Resolving Unit :=
  modify (onColumn fun c => { c with length := Column.lengthOf n })

def useLength (d : Option OneDimension) : Resolving Unit := do
  if let some d := d then setLength (← readLength d.literal)

def readDimensions (one : Option OneDimension) (two : Option TwoDimensions)
    (oneOrTwo : Option OneOrTwoDimensions) : Resolving (Option Int × Option Int) := do
  let mut length : Option Int := none
  let mut scale : Option Int := none
  if let some d := one then
    length := some (← readLength d.literal)
  if let some d := two then
    length := some (← readLength d.first)
    scale := some (← readScale d.second)
  if let some d := oneOrTwo then
    length := some (← readFirst d.first)
    if let some second := d.second then
      scale := some (← readScale second)
  return (length, scale)

def useDimensions (one : Option OneDimension) (two : Option TwoDimensions)
    (oneOrTwo : Option OneOrTwoDimensions) : Resolving Unit := do
  let (length, scale) ← readDimensions one two oneOrTwo
  if let some n := length then setLength n
  if let some n := scale then modify (onColumn fun c => { c with scale := some n })

/-! ### Types -/

/-- The width of a set written out: its values and the commas between them. -/
def setWidth (values : List String) : Int := max 0 (2 * values.length - 1)

/-- Sets what the written type gives, and returns the character set it names. `name` is the name
of the resolved type. -/
def useType (t : ColumnType) (name : String) : Resolving (Option String) := do
  match t with
  | .string _ length charset collation =>
    useLength length
    return charsetOf charset collation
  | .longVarchar _ charset collation => return charsetOf charset collation
  | .nationalString _ length | .nationalVarying _ length =>
    useLength length
    return none
  | .dimensioned _ one two oneOrTwo _ _ =>
    useDimensions one two oneOrTwo
    return none
  | .collection _ values charset =>
    if Text.upperString name = "SET" then setLength (setWidth values.values)
    else if Text.upperString name = "ENUM" then setLength 1
    else throw (.notACollection (← get).column.name name)
    return charset
  | .simple .. => return none

/-- The effect of a serial column: it is unique and numbers itself, and admits no null unless a
clause has said so before. -/
def makeSerial (r : Resolver) : Resolver :=
  { r with
    observed := if r.observed = .unspecified then .notNull else r.observed
    promotable := true
    column := { r.column with unique := true, autoIncremented := true, generated := true } }

def useName (t : ColumnType) (name : String) : Resolving Unit := do
  if name = "ENUM" ∨ name = "SET" then
    match t with
    | .collection _ values _ =>
      modify (onColumn fun c => { c with typeName := name, values := values.values })
    | _ => throw (.noValueList name (← get).column.name)
  else if name = "SERIAL" then
    modify (onColumn fun c => { c with typeName := "BIGINT UNSIGNED" })
    modify makeSerial
  else modify (onColumn fun c => { c with typeName := name })

/-- The code, and the length and scale where none is written. National strings have a character
set of their own, and one of fixed length is one character long. -/
def fill (type : DataType) (charset : Option String) (c : Column) : Column :=
  let c := { c with
    typeCode := type.code
    length := c.length <|> type.length
    scale := c.scale <|> type.scale }
  if type.code = TypeCode.nchar then
    { c with charset := some "utf8", length := c.length <|> some 1 }
  else if type.code = TypeCode.nvarchar then { c with charset := some "utf8" }
  else { c with charset := charset }

def resolveType (rules : Rules) (t : ColumnType) : Resolving Unit := do
  let type := rules.resolveType t
  let charset ← useType t type.name
  useName t (Text.upperString type.name)
  modify (onColumn (fill type charset))

/-! ### Steps -/

/-- Adds the column as it stands and makes it the primary key, if there is a table. -/
def makeKey : Resolving Unit := fun r =>
  match r.table with
  | none => .ok () r
  | some t =>
    let t := t.add r.column
    match t.setKey [r.column.name] with
    | .ok t => .ok () { r with table := some t }
    | .error e => .error (.missingKeyColumn e) { r with table := some t }

def enterDefinition (rules : Rules) (t : ColumnType) : Resolving Unit := do
  modify fun r => { r with promotable := false, observed := .unspecified }
  resolveType rules t
  modify fun r => if r.table.isSome then { r with pending := some {} } else r

/-- The end of a definition. A unique column becomes the primary key of a table that has none. -/
def leaveDefinition : Resolving Unit := do
  modify fun r =>
    if r.observed = .unspecified then r
    else r.onColumn fun c => { c with nullability := r.observed }
  let r ← get
  if r.promotable && r.table.any (!·.hasPrimaryKey) then makeKey
  modify fun r =>
    match r.pending with
    | none => r
    | some d => { r with pending := none, column := (d.settle true r.observed r.column).2 }

def apply (rules : Rules) : Node → Resolving Unit
  | .definition d => enterDefinition rules d.type
  | .constraint .uniqueKey => modify fun r => { r with promotable := true }
  | .constraint .primaryKey => do
    modify fun r => { r with
      observed := .notNull, column := { r.column with nullability := .notNull } }
    makeKey
  | .constraint (.comment (some literal)) =>
    if rules.skipComments then return
    else modify (onColumn fun c => { c with comment := some (Text.unquoted literal) })
  | .nullMark m => modify fun r =>
    { r with observed := if m.notNull then .notNull else .nullable }
  | .constraint .autoIncrement =>
    modify (onColumn fun c => { c with autoIncremented := true, generated := true })
  | .constraint .serialDefault => modify makeSerial
  | _ => return

def notice (n : Node) (r : Resolver) : Resolver :=
  match r.pending with
  | none => r
  | some d =>
    let (d, column) := d.notice r.observed n r.column
    { r with pending := some d, column }

def handle (rules : Rules) : Event → Resolving Unit
  | .enter n => do
    apply rules n
    modify (notice n)
  | .leave (.definition _) => leaveDefinition
  | .leave _ => return

/-- Steps one after the other, up to the first that fails. -/
def run (rules : Rules) (events : List Event) : Resolving Unit := events.forM (handle rules)

end Resolver

structure Resolution where
  result : Except ResolveError Column
  table : Option TableDraft
  diagnostics : List LengthDiagnostic

/-- Resolves a definition under a name. With a table, the column is added to it. -/
def resolveColumn (rules : Rules) (name : String) (definition : ColumnDefinition)
    (table : Option TableDraft := none) : Resolution :=
  match Resolver.run rules (Node.definition definition).visit { column := { name }, table } with
  | .ok _ r => ⟨.ok r.column, r.table.map (·.add r.column), r.diagnostics⟩
  | .error e r => ⟨.error e, r.table, r.diagnostics⟩

end TableSchema
