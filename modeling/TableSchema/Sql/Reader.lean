import TableSchema.Sql.Token.Basic

/-!
Readers of token lists. A reader takes tokens from the front or fails; one that only asks whether
something stands there ends in a question mark and takes nothing if it does not.
-/

namespace TableSchema.Sql

abbrev Reader := StateT (List Token) Option

namespace Reader

/-- The next token, which stays. -/
def peek? : Reader (Option Token) := fun ts => some (ts.head?, ts)

def take? (p : Token → Bool) : Reader (Option Token) := fun ts =>
  match ts with
  | t :: rest => if p t then some (some t, rest) else some (none, ts)
  | [] => some (none, [])

/-- Takes tokens that satisfy one test each, all or none. -/
def takeAll? (ps : List (Token → Bool)) : Reader Bool := fun ts =>
  if ps.length ≤ ts.length && (ps.zip ts).all (fun p => p.1 p.2) then some (true, ts.drop ps.length)
  else some (false, ts)

def word? (w : String) : Reader Bool := takeAll? [Token.isWord w]

def words? (ws : List String) : Reader Bool := takeAll? (ws.map Token.isWord)

def anyWords? : List (List String) → Reader Bool
  | [] => return false
  | ws :: others => do
    if ← words? ws then return true
    anyWords? others

/-- Takes the first of several words, and returns it in capitals. -/
def oneOf? (ws : List String) : Reader (Option String) := fun ts =>
  match ws.find? fun w => ts.head?.any (Token.reads w) with
  | some w => some (some w, ts.drop 1)
  | none => some (none, ts)

def symbol? (s : String) : Reader Bool := takeAll? [(· == .symbol s)]

def symbol (s : String) : Reader Unit := do
  if ← symbol? s then return
  failure

def atSymbol (s : String) : Reader Bool := return (← peek?) == some (.symbol s)

/-- Whether bare words in a row come next, which stay. -/
def ahead (ws : List String) : Reader Bool := fun ts =>
  some (ws.length ≤ ts.length && (ws.zip ts).all (fun p => p.2.isWord p.1), ts)

/-- A bound on the number of steps that the rest of the tokens can take. -/
def steps : Reader Nat := fun ts => some (ts.length + 1, ts)

/-- Items with commas between them; those that are not there are left out. -/
def listed {α : Type} (item : Reader (Option α)) : Nat → Reader (List α)
  | 0 => failure
  | fuel + 1 => do
    let first ← item
    if ← symbol? "," then return first.toList ++ (← listed item fuel)
    return first.toList

/-- Items one after the other, up to the first that is not there. -/
def repeated {α : Type} (item : Reader (Option α)) : Nat → Reader (List α)
  | 0 => failure
  | fuel + 1 => do
    match ← item with
    | some a => return a :: (← repeated item fuel)
    | none => return []

/-- What is left of a list after the parenthesis that closes the one before it. -/
def dropClosed : Nat → List Token → Option (List Token)
  | _, [] => none
  | depth, t :: ts =>
    if t = .symbol "(" then dropClosed (depth + 1) ts
    else if t = .symbol ")" then
      match depth with
      | 0 => some ts
      | depth + 1 => dropClosed depth ts
    else dropClosed depth ts

/-- Skips what stands in parentheses, which must not be empty. -/
def skipParentheses : Reader Unit := do
  symbol "("
  if ← atSymbol ")" then failure
  fun ts => (dropClosed 0 ts).map fun rest => ((), rest)

end Reader
end TableSchema.Sql
