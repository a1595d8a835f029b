/-!
# Paths

A path is a text in which slashes separate names. Empty names and the name `.` add nothing to a
path unless `.` stands first, so `a//b/./` has the same parts as `a/b`. `extension?` reads the part
behind the last dot of the last name, and `join` puts a path behind another one.
-/

namespace LineKin.Path

/-- The texts between the slashes of a path. -/
def pieces (path : String) : List String := (path.toList.splitOn '/').map String.ofList

/-- The path with these texts between its slashes. -/
def ofPieces (pieces : List String) : String := "/".intercalate pieces

/-- Whether a path starts at the root. -/
def isAbsolute (path : String) : Bool := path.toList.head? == some '/'

/-- Whether a piece leads nowhere. -/
def isIdle (piece : String) : Bool := piece == "" || piece == "."

/-- A list of pieces without those at its end that lead nowhere. -/
def dropIdleEnd (pieces : List String) : List String :=
  (pieces.reverse.dropWhile isIdle).reverse

/-- Whether a path ends with a slash. -/
def endsWithSlash (path : String) : Bool := path.toList.getLast? == some '/'

/-- The last name of a path, if the path leads to a name. -/
def fileName? (path : String) : Option String :=
  match (dropIdleEnd (pieces path)).getLast? with
  | some name => if name == ".." then none else some name
  | none => none

/-- The part of the file name behind its last dot, if something stands in front of that dot. -/
def extension? (path : String) : Option String :=
  match fileName? path with
  | none => none
  | some name =>
    match (name.toList.splitOn '.').reverse with
    | last :: before =>
      if before.all List.isEmpty && before.length ≤ 1 then none else some (String.ofList last)
    | [] => none

/-- A path put behind another one. An absolute path replaces what it is put behind. -/
def join (base path : String) : String :=
  if isAbsolute path || base.isEmpty then path
  else if endsWithSlash base then base ++ path
  else base ++ "/" ++ path

end LineKin.Path
