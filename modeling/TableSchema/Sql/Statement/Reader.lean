import TableSchema.Sql.Statement.Column

/-!
Reading statements. A text holds statements with semicolons between them, of which the first one
counts; the others need only be well formed.
-/

namespace TableSchema.Sql.Statement

/-! ### Items -/

def optionalName : Reader Unit := do
  let _ ← Reader.take? Token.isPlain

def index : Reader Unit := do
  if !(← Reader.ahead ["USING"]) && !(← Reader.atSymbol "(") then optionalName
  keyOptions
  Reader.skipParentheses
  keyOptions

def constraintStarts : List String :=
  ["PRIMARY", "UNIQUE", "KEY", "INDEX", "FULLTEXT", "SPATIAL", "FOREIGN", "CHECK", "LIKE"]

/-- A constraint of a table that begins with a word, and the primary key that it sets. -/
def constraintOf : String → Reader (Option (List KeyPart))
  | "PRIMARY" => do
    if !(← Reader.word? "KEY") then failure
    let parts ← keyParts
    keyOptions
    return some parts
  | "UNIQUE" | "FULLTEXT" | "SPATIAL" => do
    let _ ← Reader.oneOf? ["KEY", "INDEX"]
    index
    return none
  | "KEY" | "INDEX" => do
    index
    return none
  | "FOREIGN" => do
    if !(← Reader.word? "KEY") then failure
    if !(← Reader.atSymbol "(") then optionalName
    Reader.skipParentheses
    if ← Reader.word? "REFERENCES" then reference
    return none
  | "CHECK" => do
    let _ ← inParentheses
    let _ ← Reader.word? "ENFORCED"
    return none
  | "LIKE" => do
    let _ ← readTableId
    return none
  | _ => failure

/-- The first of several bare words, if one stands here, in capitals. -/
def start? (ws : List String) : Reader (Option String) := do
  match ← Reader.peek? with
  | some (.word _) => Reader.oneOf? ws
  | _ => return none

def namedConstraint : Reader (Option (Option (List KeyPart))) := do
  match ← start? constraintStarts with
  | some word => return some (← constraintOf word)
  | none => return (← clause).map fun _ => none

/-- A constraint of a table, if one stands here. Under a name there may be several. -/
def constraint? : Reader (Option Item) := do
  if ← Reader.word? "CONSTRAINT" then
    match ← Reader.take? Token.isPlain with
    | none => failure
    | some _ =>
      let keys ← Reader.repeated namedConstraint (← Reader.steps)
      if keys.isEmpty then failure
      return some (.named (keys.filterMap fun key => key))
  match ← start? constraintStarts with
  | some word =>
    match ← constraintOf word with
    | some parts => return some (.primaryKey parts)
    | none => return some .other
  | none => return none

def item (d : Dialect) : Reader (Option Item) := do
  match ← constraint? with
  | some i => return some i
  | none => return (← readColumn d).map .column

/-! ### Creating a table -/

def atQuery : Reader Bool := return (← Reader.ahead ["SELECT"]) || (← Reader.ahead ["WITH"])

def atNestedQuery : Reader Bool := fun ts =>
  match ts with
  | .symbol "(" :: t :: _ =>
    some (t = .symbol "(" || t.isWord "SELECT" || t.isWord "WITH", ts)
  | _ => some (false, ts)

def items (d : Dialect) : Reader (List Item) := do
  if ← atNestedQuery then return []
  if ← Reader.symbol? "(" then
    let items ← Reader.listed (item d) (← Reader.steps)
    Reader.symbol ")"
    return items
  return []

/-- The words of options that need no equals sign. -/
def optionWords : List (List String) :=
  [["CHARACTER", "SET"], ["CHARSET"], ["COLLATE"], ["COMMENT"], ["ENGINE"], ["AUTO_INCREMENT"],
    ["ROW_FORMAT"]]

def tableOption : Reader (Option Unit) := do
  if ← Reader.word? "LIKE" then
    let _ ← readTableId
    return some ()
  let _ ← Reader.word? "DEFAULT"
  if ← Reader.anyWords? optionWords then
    let _ ← Reader.symbol? "="
    match ← Reader.take? Token.isPlain with
    | some _ => return some ()
    | none => failure
  if ← Reader.takeAll? [Token.isPlain, (· == .symbol "=")] then
    match ← Reader.take? Token.isPlain with
    | some _ => return some ()
    | none => failure
  return none

/-- The depth of parentheses after some tokens, if no more are closed than opened. -/
def depthAfter? : Nat → List Token → Option Nat
  | depth, [] => some depth
  | depth, t :: ts =>
    if t = .symbol "(" then depthAfter? (depth + 1) ts
    else if t = .symbol ")" then
      match depth with
      | 0 => none
      | depth + 1 => depthAfter? depth ts
    else depthAfter? depth ts

/-- Skips a query up to the end. Its parentheses must match. -/
def skipQuery : Reader Unit := fun ts =>
  if depthAfter? 0 ts = some 0 then some ((), []) else none

def tableRest : Reader Unit := do
  let _ ← Reader.repeated tableOption (← Reader.steps)
  let _ ← Reader.word? "AS"
  if (← atQuery) || (← Reader.atSymbol "(") then skipQuery

/-- The kind of a statement that is taken as it stands. -/
def commandKind : String := "command"

/-- A statement that has been read up to the tokens that are left. A comma or a parenthesis cannot
be left; with anything else, the whole is taken as it stands. -/
def finish (s : Statement) : Reader Statement := do
  match ← Reader.peek? with
  | none => return s
  | some (.symbol ",") | some (.symbol ")") => failure
  | some _ => return .other commandKind

def creatable : List String :=
  ["TABLE", "VIEW", "INDEX", "DATABASE", "SCHEMA", "FUNCTION", "PROCEDURE", "SEQUENCE", "TRIGGER"]

def create (d : Dialect) : Reader Statement := do
  let _ ← Reader.words? ["OR", "REPLACE"]
  let _ ← Reader.oneOf? ["UNIQUE", "TEMPORARY"]
  match ← Reader.oneOf? creatable with
  | none => return .other commandKind
  | some "TABLE" =>
    let _ ← Reader.words? ["IF", "NOT", "EXISTS"]
    let id ← readTableId
    if ← Reader.takeAll? [Token.isPlain, (· == .symbol "(")] then failure
    let items ← items d
    tableRest
    finish (.createTable id items)
  | some _ => return .other "create"

/-! ### Altering a table -/

def place : Reader Unit := do
  if ← Reader.word? "FIRST" then return
  if ← Reader.word? "AFTER" then
    match ← Reader.take? Token.isPlain with
    | some _ => return
    | none => failure

/-- An addition to a table: none, or what is perhaps a column. -/
def addition (d : Dialect) : Reader (Option (Option ColumnSpec)) := do
  let _ ← Reader.word? "ADD"
  match ← constraint? with
  | some _ => return some none
  | none =>
    let _ ← Reader.word? "COLUMN"
    let _ ← Reader.words? ["IF", "NOT", "EXISTS"]
    match ← readColumn d with
    | some c =>
      place
      return some (some c)
    | none => return none

/-- The words of actions that add nothing. -/
def otherActions : List String := ["ALTER", "DROP", "MODIFY", "RENAME", "SET"]

def alter (d : Dialect) : Reader Statement := do
  if !(← Reader.word? "TABLE") then return .other commandKind
  let _ ← Reader.words? ["IF", "EXISTS"]
  let id ← readTableId
  if ← Reader.ahead ["ADD"] then
    let additions ← Reader.listed (addition d) (← Reader.steps)
    if (← Reader.peek?).isSome || additions.isEmpty then return .other commandKind
    return .alterTable id (additions.filterMap fun a => a)
  if (← Reader.oneOf? otherActions).isSome then return .alterTable id []
  return .other commandKind

/-! ### Statements -/

def otherStarts : List String := ["SELECT", "INSERT", "UPDATE", "DELETE", "DROP"]

/-- A statement. What follows the first word of another statement is not looked at. -/
def statement (d : Dialect) : Reader Statement := do
  match ← Reader.oneOf? ("CREATE" :: "ALTER" :: otherStarts) with
  | some "CREATE" => create d
  | some "ALTER" => alter d
  | some word => return .other (Text.lowerString word)
  | none => failure

def ofTokens? (d : Dialect) (ts : List Token) : Option Statement := (statement d ts).map (·.1)

/-- Pieces of a list of tokens between semicolons. -/
def pieces : List Token → List (List Token)
  | [] => [[]]
  | t :: ts =>
    if t = .symbol ";" then [] :: pieces ts
    else
      match pieces ts with
      | piece :: others => (t :: piece) :: others
      | [] => [[t]]

/-- The first statement of a text. The others may be empty. -/
def read? (d : Dialect) (ts : List Token) : Option Statement :=
  match pieces ts with
  | [] => none
  | first :: others =>
    if others.all fun piece => piece.isEmpty || (ofTokens? d piece).isSome then ofTokens? d first
    else none

end TableSchema.Sql.Statement
