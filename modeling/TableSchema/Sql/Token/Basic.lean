import TableSchema.Text.Casing

/-!
The tokens of a statement.
-/

namespace TableSchema.Sql

/-- A token. Quoted texts are held without their quotes and with escapes resolved. -/
inductive Token where
  /-- A bare word, as spelled. -/
  | word (text : String)
  /-- A quoted name. -/
  | name (text : String)
  /-- A string. -/
  | string (text : String)
  /-- A string in the national character set. -/
  | national (text : String)
  /-- A number, as spelled. -/
  | number (text : String)
  /-- The digits of a binary number. -/
  | bits (digits : String)
  /-- The digits of a hexadecimal number. -/
  | hex (digits : String)
  /-- An operator or a mark. -/
  | symbol (text : String)
  deriving DecidableEq, Repr

namespace Token

/-- Whether a token is a bare word, in any letter case. The word is given in capitals. -/
def isWord (w : String) : Token → Bool
  | word text => Text.upperString text == w
  | _ => false

/-- Whether a token reads as a word, quoted or not, in any letter case. -/
def reads (w : String) : Token → Bool
  | word text | name text => Text.upperString text == w
  | _ => false

/-- Whether a token can stand as a name where any word can: it is no symbol and not `SELECT`. -/
def isPlain : Token → Bool
  | symbol _ => false
  | t => !t.isWord "SELECT"

def isNumber : Token → Bool
  | number _ => true
  | _ => false

def text : Token → String
  | word t | name t | string t | national t | number t | bits t | hex t | symbol t => t

end Token
end TableSchema.Sql
