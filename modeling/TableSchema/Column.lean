/-!
Columns, finished or in the making.
-/

namespace TableSchema

/-- What is known of whether a column admits null. -/
inductive Nullability where
  | unspecified
  | nullable
  | notNull
  deriving DecidableEq, Repr, Inhabited

/-- A resolved column. An open length or scale is none. -/
structure Column where
  name : String
  typeName : String := ""
  typeCode : Int := 0
  position : Int := 1
  length : Option Int := none
  scale : Option Int := none
  charset : Option String := none
  nullability : Nullability := .unspecified
  unique : Bool := false
  autoIncremented : Bool := false
  generated : Bool := false
  values : List String := []
  comment : Option String := none
  hasDefault : Bool := false
  defaultValue : Option String := none
  deriving DecidableEq, Repr

namespace Column

def openLength : Int := -1

/-- A length given as a number, which may be the one for an open length. -/
def lengthOf (n : Int) : Option Int := if n = openLength then none else some n

def isOptional (c : Column) : Bool := c.nullability != .notNull

end Column
end TableSchema
