/-!
# Names as they are stored

A stored name is not empty and holds no space: each space of a given name
becomes an underscore.
-/

namespace ProxySync

/-- The stored form of a name; an empty name has none. -/
def normalName? (name : String) : Option String :=
  if name.isEmpty then none
  else some (String.ofList (name.toList.map fun c => if c = ' ' then '_' else c))

end ProxySync
