import TableSchema.Json.Basic

/-!
Settings of a run. A configuration file may give them values of any kind, which are kept as given.
-/

namespace TableSchema

/-- Whether a value counts as a yes: it is neither null, false nor zero, and not empty. -/
def Json.holds : Json → Bool
  | null => false
  | bool b => b
  | number n => n != 0
  | text s => s != ""
  | array items => !items.isEmpty
  | object members => !members.isEmpty

structure Settings where
  skipComments : Json := .bool false
  dialect : Json := .text "mysql"

namespace Settings

def skips (s : Settings) : Bool := s.skipComments.holds

/-- Gives one setting a value. Null and unknown names leave the settings as they are. -/
def set (s : Settings) (name : String) : Json → Settings
  | .null => s
  | value =>
    if name = "skip_comments" then { s with skipComments := value }
    else if name = "dialect" then { s with dialect := value }
    else s

def update (s : Settings) (values : List (String × Json)) : Settings :=
  values.foldl (fun s v => s.set v.1 v.2) s

end Settings
end TableSchema
