import TableSchema.Sql.Expression.Basic
import TableSchema.Sql.Reader

/-!
Reading expressions. Operators are ranked, a looser one first, and group to the left; where no
expression begins, nothing is read.
-/

namespace TableSchema.Sql.Expr

/-- The ranks of operators: from the loosest to the one below signs. -/
inductive Rank where
  | disjunction
  | conjunction
  | equality
  | comparison
  | membership
  | bits
  | sum
  | product
  deriving DecidableEq, Repr

/-- The rank that binds next tighter; none is tighter than a product. -/
def Rank.next? : Rank → Option Rank
  | disjunction => some conjunction
  | conjunction => some equality
  | equality => some comparison
  | comparison => some membership
  | membership => some bits
  | bits => some sum
  | sum => some product
  | product => none

/-- The operators of a rank: the tokens of each, and how it is written. -/
def Rank.operators : Rank → List (List (Token → Bool) × String)
  | disjunction => [([Token.isWord "OR"], "OR"), ([(· == .symbol "||")], "OR")]
  | conjunction =>
    [([Token.isWord "AND"], "AND"), ([(· == .symbol "&&")], "AND"), ([Token.isWord "XOR"], "XOR")]
  | equality =>
    [([(· == .symbol "=")], "="), ([(· == .symbol "==")], "="), ([(· == .symbol "<>")], "<>"),
      ([(· == .symbol "!=")], "<>"), ([(· == .symbol "<=>")], "<=>")]
  | comparison =>
    ["<=", ">=", "<", ">"].map fun s => ([(· == .symbol s)], s)
  | membership =>
    [([Token.isWord "IS", Token.isWord "NOT"], "IS NOT"), ([Token.isWord "IS"], "IS"),
      ([Token.isWord "NOT", Token.isWord "IN"], "NOT IN"), ([Token.isWord "IN"], "IN"),
      ([Token.isWord "NOT", Token.isWord "LIKE"], "NOT LIKE"), ([Token.isWord "LIKE"], "LIKE"),
      ([Token.isWord "REGEXP"], "REGEXP"), ([Token.isWord "RLIKE"], "RLIKE")]
  | bits =>
    [([(· == .symbol "<"), (· == .symbol "<")], "<<"),
      ([(· == .symbol ">"), (· == .symbol ">")], ">>"), ([(· == .symbol "&")], "&"),
      ([(· == .symbol "|")], "|"), ([(· == .symbol "^")], "^")]
  | sum =>
    [([(· == .symbol "+")], "+"), ([(· == .symbol "-")], "-"), ([(· == .symbol "%")], "%"),
      ([Token.isWord "COLLATE"], "COLLATE")]
  | product =>
    [([(· == .symbol "*")], "*"), ([(· == .symbol "/")], "/"), ([Token.isWord "DIV"], "DIV")]

/-- Takes the first of several operators that stands there, and returns how it is written. -/
def operator? : List (List (Token → Bool) × String) → Reader (Option String)
  | [] => return none
  | (tokens, text) :: others => do
    if ← Reader.takeAll? tokens then return some text
    operator? others

/-- Words that begin no expression and name no table. -/
def reserved : List String :=
  ["AND", "AS", "BETWEEN", "CREATE", "DISTINCT", "DROP", "ELSE", "FROM", "HAVING", "IN", "INSERT",
    "INTO", "IS", "JOIN", "LIKE", "LIMIT", "NOT", "ON", "OR", "PRIMARY", "SELECT", "THEN", "UNION",
    "USING", "VALUES", "WHEN", "WHERE", "WITH", "XOR"]

def isReserved (t : Token) : Bool := reserved.any fun w => t.isWord w

def ident? : Token → Option Ident
  | .word text => some ⟨text, false⟩
  | .name text => some ⟨text, true⟩
  | _ => none

def readParts : Nat → Reader (List Ident)
  | 0 => failure
  | fuel + 1 => do
    if ← Reader.symbol? "." then
      match ← Reader.take? fun t => (ident? t).isSome with
      | some t => return (ident? t).toList ++ (← readParts fuel)
      | none => failure
    return []

def readStrings : Nat → Reader (List String)
  | 0 => failure
  | fuel + 1 => do
    match ← Reader.peek? with
    | some (.string text) =>
      let _ ← Reader.take? fun _ => true
      return text :: (← readStrings fuel)
    | _ => return []

def constant? (w : String) : Option Expr :=
  if ["NULL", "TRUE", "FALSE", "DEFAULT", "CURRENT_DATE"].contains w then some (.constant w)
  else if ["CURRENT_TIMESTAMP", "CURRENT_TIME"].contains w then some (.call w [])
  else none

mutual

def readRank : Nat → Rank → Reader (Option Expr)
  | 0, _ => failure
  | fuel + 1, rank => do
    let left ← match rank.next? with
      | some tighter => readRank fuel tighter
      | none => readSigned fuel
    match left with
    | some left => return some (← readMore fuel rank left)
    | none => return none

/-- The operators of a rank that follow an expression, with their right sides. -/
def readMore : Nat → Rank → Expr → Reader Expr
  | 0, _, _ => failure
  | fuel + 1, rank, left => do
    match ← operator? rank.operators with
    | some operator =>
      let right ← match rank.next? with
        | some tighter => readRank fuel tighter
        | none => readSigned fuel
      match right with
      | some right => readMore fuel rank (.between left operator right)
      | none => failure
    | none =>
      if rank = .membership then
        if ← Reader.word? "BETWEEN" then
          match ← readRank fuel .bits with
          | some low =>
            if ← Reader.word? "AND" then
              match ← readRank fuel .bits with
              | some high => return .between left "BETWEEN" (.between low "AND" high)
              | none => failure
            failure
          | none => failure
      return left

/-- An operand behind its signs. A plus sign has no effect. -/
def readSigned : Nat → Reader (Option Expr)
  | 0 => failure
  | fuel + 1 => do
    if ← Reader.symbol? "+" then return ← readSigned fuel
    if ← Reader.symbol? "-" then
      match ← readSigned fuel with
      | some e => return some (.before "-" e)
      | none => failure
    if ← Reader.symbol? "~" then
      match ← readSigned fuel with
      | some e => return some (.before "~" e)
      | none => failure
    if (← Reader.take? fun t => t.isWord "NOT" || t = .symbol "!").isSome then
      match ← readRank fuel .equality with
      | some e => return some (.before "NOT " e)
      | none => failure
    readOperand fuel

def readOperand : Nat → Reader (Option Expr)
  | 0 => failure
  | fuel + 1 => do
    match ← Reader.peek? with
    | some (.string _) =>
      match ← readStrings (fuel + 1) with
      | [text] => return some (.string text)
      | texts => return some (.call "CONCAT" (texts.map .string))
    | some (.national text) =>
      let _ ← Reader.take? fun _ => true
      return some (.national text)
    | some (.number text) =>
      let _ ← Reader.take? fun _ => true
      return some (.number text)
    | some (.bits digits) =>
      let _ ← Reader.take? fun _ => true
      return some (.bits digits)
    | some (.hex digits) =>
      let _ ← Reader.take? fun _ => true
      return some (.hex digits)
    | some (.symbol ".") =>
      let _ ← Reader.take? fun _ => true
      match ← Reader.peek? with
      | some (.number text) =>
        let _ ← Reader.take? fun _ => true
        return some (.number ("0." ++ text))
      | _ => failure
    | some (.symbol "?") =>
      let _ ← Reader.take? fun _ => true
      return some (.parameter "?")
    | some (.symbol "@") =>
      let _ ← Reader.take? fun _ => true
      match ← Reader.take? fun t => (ident? t).isSome with
      | some t => return some (.parameter ("@" ++ t.text))
      | none => failure
    | some (.symbol "*") =>
      let _ ← Reader.take? fun _ => true
      return some (.constant "*")
    | some (.symbol "(") =>
      let _ ← Reader.take? fun _ => true
      let items ← readList fuel
      Reader.symbol ")"
      match items with
      | [e] => return some (.paren e)
      | items => return some (.tuple items)
    | some (.name text) =>
      let _ ← Reader.take? fun _ => true
      return some (.column (⟨text, true⟩ :: (← readParts (fuel + 1))))
    | some (.word text) =>
      if isReserved (.word text) then return none
      let _ ← Reader.take? fun _ => true
      let capitals := Text.upperString text
      if ← Reader.symbol? "(" then
        let items ← readList fuel
        Reader.symbol ")"
        if capitals = "CURRENT_DATE" then return some (.constant capitals)
        return some (.call capitals items)
      match constant? capitals with
      | some e => return some e
      | none => return some (.column (⟨text, false⟩ :: (← readParts (fuel + 1))))
    | _ => return none

def readList : Nat → Reader (List Expr)
  | 0 => failure
  | fuel + 1 => do
    let first ← readRank fuel .disjunction
    if ← Reader.symbol? "," then return first.toList ++ (← readList fuel)
    return first.toList

end

/-- A bound on the depth to which an expression in the rest of the tokens can go. -/
def depth : Reader Nat := return 12 * (← Reader.steps)

def read (rank : Rank) : Reader (Option Expr) := do readRank (← depth) rank

def readOne : Reader (Option Expr) := do readOperand (← depth)

end TableSchema.Sql.Expr
