import PlatformAudit.Text.Number

/-!
# Values as text

One-line texts of structured values, for people who look into a running audit: a record is its name
with the named fields in braces, a list stands in brackets.
-/

namespace PlatformAudit.Inspect

def list (items : List String) : String :=
  "[" ++ ", ".intercalate items ++ "]"

def numbers (values : List Nat) : String :=
  list (values.map Text.decimal)

def fields (entries : List (String × String)) : String :=
  ", ".intercalate (entries.map fun entry => entry.1 ++ ": " ++ entry.2)

def record (name : String) (entries : List (String × String)) : String :=
  name ++ " \x7b " ++ fields entries ++ " \x7d"

def partialRecord (name : String) (entries : List (String × String)) : String :=
  name ++ " \x7b " ++ fields entries ++ ", .. \x7d"

end PlatformAudit.Inspect
