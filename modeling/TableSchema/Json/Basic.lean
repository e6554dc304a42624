/-!
JSON values with whole numbers. An object keeps its members in the order they were written.
-/

namespace TableSchema

inductive Json where
  | null
  | bool (b : Bool)
  | number (n : Int)
  | text (s : String)
  | array (items : List Json)
  | object (members : List (String × Json))
  deriving Inhabited

namespace Json

def ofText? (s : Option String) : Json := s.elim null text

def ofNumber? (n : Option Int) : Json := n.elim null number

def ofTexts (l : List String) : Json := array (l.map text)

/-- The name of the kind of a value in messages. -/
def kind : Json → String
  | null => "NoneType"
  | bool _ => "bool"
  | number _ => "int"
  | text _ => "str"
  | array _ => "list"
  | object _ => "dict"

def get? (key : String) : Json → Option Json
  | object members => members.lookup key
  | _ => none

end Json
end TableSchema
