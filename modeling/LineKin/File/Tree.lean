import LineKin.File.Path

/-!
# File trees

A `FileTree` is a file with its bytes or a folder with its entries. A program sees the tree of the
folder that it works in, and a path leads through that tree name by name.

A path ends in one of two ways (`FileTree.Target`): at a folder that it has gone into, or at a name
in a folder, be there something of that name or not. All operations first follow the path to its
target (`target`) and then differ in what they do there: reading wants a file, writing wants anything
but a folder, and creating a folder wants nothing there.

What lies outside of the folder that a program works in is in the tree too: the folder above under
the name `..`, and the root under the name `/`. No entry of a folder has such a name, so the two
never stand in each other's way. Nothing is known about what is outside, so as long as nothing has
been written there, `..` and `/` are folders without entries.

The operations fail for the reasons a file system gives: something is missing, is there already, is
not a folder, is one, or has a name that cannot be had. An operation of several steps may fail when some
of them are done; what it leaves then is an `Attempt`.
-/

namespace LineKin

/-- Why a file system refuses an operation. -/
inductive SystemError where
  /-- Something on the way, or the thing itself, is missing. -/
  | missing
  /-- The thing to create is there already. -/
  | present
  /-- Something on the way is not a folder. -/
  | notFolder
  /-- The thing to read or write is a folder. -/
  | isFolder
  /-- A name, or a whole path, has too many bytes. -/
  | nameTooLong
  /-- There is a NUL character in a path. -/
  | nulInName
  deriving DecidableEq

/-- The words for the error, with its number if it has one. -/
def SystemError.message : SystemError → String
  | missing => "No such file or directory (os error 2)"
  | present => "File exists (os error 17)"
  | notFolder => "Not a directory (os error 20)"
  | isFolder => "Is a directory (os error 21)"
  | nameTooLong => "File name too long (os error 36)"
  | nulInName => "file name contained an unexpected NUL byte"

/-- Files and folders. -/
inductive FileTree where
  /-- A file with its bytes. -/
  | file (content : ByteArray)
  /-- A folder with what is in it, by name. -/
  | folder (entries : List (String × FileTree))

namespace FileTree

/-- The folder without entries. -/
def empty : FileTree := folder []

instance : EmptyCollection FileTree := ⟨empty⟩

/-- Whether this is a folder. -/
def isFolder : FileTree → Bool
  | file _ => false
  | folder _ => true

/-- The name of the root. -/
def rootName : String := "/"

/-- The name of the folder above. -/
def aboveName : String := ".."

/-! ### Entries -/

/-- What has a name in a folder. The root and the folder above are there if nothing is known about
them. -/
def child? : FileTree → String → Option FileTree
  | file _, _ => none
  | folder entries, name =>
    match entries.lookup name with
    | some t => some t
    | none => if name == rootName || name == aboveName then some empty else none

/-- A folder with an entry put in, in place of the one that had its name. -/
def setChild : FileTree → String → FileTree → FileTree
  | file content, _, _ => file content
  | folder entries, name, t => folder ((name, t) :: entries.filter fun entry => entry.1 != name)

/-- The tree with another one put where the names lead. -/
def put : FileTree → List String → FileTree → FileTree
  | _, [], new => new
  | t, name :: names, new => t.setChild name (((t.child? name).getD empty).put names new)

/-! ### Following paths -/

/-- How many bytes a name may have. -/
def nameLimit : Nat := 255

/-- How many bytes a path may have. -/
def pathLimit : Nat := 4095

/-- The folder that a walk has come to, and the way back. -/
structure Location where
  /-- The folder. -/
  here : FileTree
  /-- The names that led to it, each with the folder it was found in; the last one comes first. -/
  trail : List (String × FileTree)

namespace Location

/-- The names that lead to the folder. -/
def names (p : Location) : List String := (p.trail.map (·.1)).reverse

/-- Goes into a folder in this one. -/
def enter (p : Location) (name : String) (t : FileTree) : Location := ⟨t, (name, p.here) :: p.trail⟩

/-- What has a name in the folder, if a file system can look for such a name. -/
def find? (p : Location) (name : String) : Except SystemError (Option FileTree) :=
  if nameLimit < name.utf8ByteSize then .error .nameTooLong else .ok (p.here.child? name)

/-- Goes into the folder above. The root is above itself. -/
def up (p : Location) : Location :=
  match p.trail with
  | (name, above) :: trail =>
    if name == rootName then p
    else if name == aboveName then p.enter aboveName ((p.here.child? aboveName).getD empty)
    else ⟨above, trail⟩
  | [] => p.enter aboveName ((p.here.child? aboveName).getD empty)

/-- One piece of a path further. -/
def step (p : Location) (piece : String) : Except SystemError Location := do
  if piece == "." then .ok p
  else if piece == ".." then .ok p.up
  else
    match ← p.find? piece with
    | some t => if t.isFolder then .ok (p.enter piece t) else .error .notFolder
    | none => .error .missing

end Location

/-- Where a path starts. -/
def start (t : FileTree) (path : String) : Location :=
  let p : Location := ⟨t, []⟩
  if Path.isAbsolute path then p.enter rootName ((t.child? rootName).getD empty) else p

/-- Where a path ends. -/
inductive Target where
  /-- At a folder that it has gone into. -/
  | folder (location : Location)
  /-- At a name in a folder, followed by a slash or not. -/
  | entry (location : Location) (name : String) (slash : Bool)

/-- Whether a file system looks at a path at all. -/
def checkPath (path : String) : Except SystemError Unit :=
  if path.toList.contains '\x00' then .error .nulInName
  else if path.isEmpty then .error .missing
  else if pathLimit < path.utf8ByteSize then .error .nameTooLong
  else .ok ()

/-- Where a path ends. All its pieces but the last must lead into folders; empty ones lead
nowhere. -/
def target (t : FileTree) (path : String) : Except SystemError Target := do
  checkPath path
  match ((Path.pieces path).filter fun piece => piece != "").reverse with
  | [] => .ok (.folder (t.start path))
  | last :: before =>
    let location ← before.reverse.foldlM Location.step (t.start path)
    if last == "." then .ok (.folder location)
    else if last == ".." then .ok (.folder location.up)
    else .ok (.entry location last (Path.endsWithSlash path))

/-- What is at a path. Only a folder is found behind a name with a slash. -/
def get (t : FileTree) (path : String) : Except SystemError FileTree := do
  match ← t.target path with
  | .folder location => .ok location.here
  | .entry location name slash =>
    match ← location.find? name with
    | none => .error .missing
    | some found => if slash && !found.isFolder then .error .notFolder else .ok found

/-! ### Reading and writing -/

/-- The bytes of a file. -/
def read (t : FileTree) (path : String) : Except SystemError ByteArray := do
  match ← t.get path with
  | file content => .ok content
  | folder _ => .error .isFolder

/-- Whether there is something at a path. -/
def pathExists (t : FileTree) (path : String) : Bool := (t.get path).isOk

/-- Whether there is a folder at a path. -/
def isFolderAt (t : FileTree) (path : String) : Bool :=
  match t.get path with
  | .ok found => found.isFolder
  | .error _ => false

/-- The tree with a file's bytes replaced, or with a new file in a folder that is there. -/
def write (t : FileTree) (path : String) (content : ByteArray) : Except SystemError FileTree := do
  match ← t.target path with
  | .folder _ | .entry _ _ true => .error .isFolder
  | .entry location name false =>
    match ← location.find? name with
    | some (folder _) => .error .isFolder
    | _ => .ok (t.put (location.names ++ [name]) (file content))

/-! ### Creating folders -/

/-- The tree with a new folder in a folder that is there. -/
def makeFolder (t : FileTree) (path : String) : Except SystemError FileTree := do
  match ← t.target path with
  | .folder _ => .error .present
  | .entry location name _ =>
    match ← location.find? name with
    | some _ => .error .present
    | none => .ok (t.put (location.names ++ [name]) empty)

/-- The tree with a folder at a path, created if there is none. -/
def ensureFolder (t : FileTree) (path : String) : Except SystemError FileTree :=
  match t.makeFolder path with
  | .error .present => if t.isFolderAt path then .ok t else .error .present
  | other => other

/-- What is left of an operation that may fail on the way. -/
structure Attempt (ε : Type) where
  /-- The tree, with all that was done. -/
  tree : FileTree
  /-- Why it failed, if it did. -/
  failure : Option ε := none

/-- The tree, unless the operation failed. -/
def Attempt.result {ε : Type} (a : Attempt ε) : Except ε FileTree :=
  match a.failure with
  | none => .ok a.tree
  | some e => .error e

/-- Creates a folder where pieces lead, and before that the folders above it that are missing. The
pieces are given from the last one to the first. -/
def tryFolders (t : FileTree) : List String → Attempt SystemError
  | [] => { tree := t }
  | piece :: above =>
    if Path.isIdle piece then t.tryFolders above
    else
      let path := Path.ofPieces (piece :: above).reverse
      match t.ensureFolder path with
      | .ok made => { tree := made }
      | .error .missing =>
        let outer := t.tryFolders above
        match outer.failure with
        | some _ => outer
        | none =>
          match outer.tree.ensureFolder path with
          | .ok made => { tree := made }
          | .error e => { outer with failure := some e }
      | .error e => { tree := t, failure := some e }

/-- Creates the folders on the way to a path. -/
def tryParents (t : FileTree) (path : String) : Attempt SystemError :=
  t.tryFolders (Path.dropIdleEnd (Path.pieces path)).dropLast.reverse

/-- The tree with the folders on the way to a path. -/
def makeParents (t : FileTree) (path : String) : Except SystemError FileTree := (t.tryParents path).result

end FileTree

end LineKin
