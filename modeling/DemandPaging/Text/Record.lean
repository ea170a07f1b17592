/-! # Described values

Settings and instructions are described on one line: a record by its name and its fields between
braces, a sequence by its items between brackets, both separated by commas.
-/

namespace DemandPaging.Text

/-- Puts `, ` between the items. -/
def commas (items : List String) : String := String.intercalate ", " items

def sequence (items : List String) : String := "[" ++ commas items ++ "]"

/-- A record with named fields. -/
def record (name : String) (fields : List (String × String)) : String :=
  name ++ " \x7b " ++ commas (fields.map fun field => field.1 ++ ": " ++ field.2) ++ " \x7d"

/-- A record that hides its last fields. -/
def openRecord (name : String) (fields : List (String × String)) : String :=
  name ++ " \x7b " ++ commas ((fields.map fun field => field.1 ++ ": " ++ field.2) ++ [".."]) ++ " \x7d"

end DemandPaging.Text
