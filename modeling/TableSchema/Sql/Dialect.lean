import TableSchema.Json.Basic
import TableSchema.Text.Blank

/-!
SQL dialects. A dialect is chosen by name, and options may follow the name after a comma.
-/

namespace TableSchema.Sql

inductive Dialect where
  | mysql
  | postgres
  deriving DecidableEq, Repr

inductive DialectError where
  | unknown (name : String)
  | notAName (value : Json)

/-- The written form of a value that is no name, as far as it is plain. -/
def plainText : Json → String
  | .number n => toString n
  | .bool b => if b then "True" else "False"
  | _ => ""

def DialectError.message : DialectError → String
  | unknown name => "Unknown dialect '" ++ name ++ "'."
  | notAName value =>
    "Invalid dialect type for '" ++ plainText value ++ "': '<class '" ++ value.kind ++ "'>'."

namespace Dialect

/-- The dialect with a name. Blanks around it do not matter, and no name is the first dialect. -/
def ofName? (name : List Char) : Option Dialect :=
  let name := Text.trim name
  if name = [] ∨ name = "mysql".toList then some mysql
  else if name = "postgres".toList then some postgres
  else none

def choose : Json → Except DialectError Dialect
  | .text s =>
    let name := s.toList.takeWhile (· ≠ ',')
    match ofName? name with
    | some d => .ok d
    | none => .error (.unknown (String.ofList name))
  | .null | .bool false | .number 0 | .array [] | .object [] => .ok mysql
  | value => .error (.notAName value)

end Dialect
end TableSchema.Sql
