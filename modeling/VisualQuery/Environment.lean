/-!
# Environments

An environment gives values to some names. It is held as entries `name=value`, so the value of a
name is what follows `name=` in an entry; no name is empty.
-/

namespace VisualQuery

/-- A partial map from names to values. -/
abbrev Environment := String → Option String

namespace Environment

/-- The environment without any variable. -/
def empty : Environment := fun _ => none

/-- What follows a name and its equals sign in an entry. -/
def valueIn? (name : List Char) (entry : String × String) : Option String :=
  ((name ++ ['=']).isPrefixOf? (entry.1.toList ++ '=' :: entry.2.toList)).map String.ofList

/-- The environment that holds the given variables. -/
def ofEntries (entries : List (String × String)) : Environment := fun name =>
  if name.isEmpty then none else entries.findSome? (valueIn? name.toList)

end Environment

end VisualQuery
