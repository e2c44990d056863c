import OvfInspect.Storage.Failure
import OvfInspect.Storage.Path

/-!
# File trees

The files and directories that paths lead to. A path is followed component by component: every
component but the last has to be a directory, and a slash at the end asks for one as well.

Packages are files in plain directories, and trees are made of these: there are no symbolic links in
a tree, so that a step up leads back to the directory before it. Links inside of an archive are
members of it.
-/

namespace OvfInspect.Storage

inductive MemberKind where
  | file (bytes : List UInt8)
  | directory
  | symbolicLink (target : String)
  | hardLink (target : String)
  /-- A member of no known kind. It can be read like a file, but is none. -/
  | unknown (bytes : List UInt8)
  deriving DecidableEq, Repr

structure Member where
  name : String
  kind : MemberKind
  deriving DecidableEq, Repr

/-- What a path can lead to. An archive is a file too, known by the members put into it. -/
inductive Entry where
  | directory
  | file (bytes : List UInt8)
  | archive (members : List Member)
  deriving DecidableEq, Repr

def Entry.isDirectory : Entry → Bool
  | .directory => true
  | _ => false

abbrev Place := List String

/-- The entries of a file system and the directory in which relative paths begin. -/
structure FileTree where
  entries : List (Place × Entry)
  working : Place
  deriving Repr

namespace FileTree

def entryAt? (tree : FileTree) (place : Place) : Option Entry :=
  if place = [] then some .directory else tree.entries.lookup place

def workingPath (tree : FileTree) : String :=
  "/" ++ "/".intercalate tree.working

def nameLimit : Nat := 255

/-- The number of bytes that no path reaches. -/
def pathLimit : Nat := 4096

/-- Follow components from a place. The fault is a code of the system. -/
def follow (tree : FileTree) (place : Place) : List String → Except Int Place
  | [] => .ok place
  | component :: rest =>
    match tree.entryAt? place with
    | none => .error Failure.noEntryCode
    | some .directory =>
      if component = "" ∨ component = "." then tree.follow place rest
      else if component = ".." then tree.follow place.dropLast rest
      else if nameLimit < component.utf8ByteSize then .error Failure.longNameCode
      else tree.follow (place ++ [component]) rest
    | some _ => .error Failure.notDirectoryCode

def locate (tree : FileTree) (path : String) : Except Int (Place × Entry) := do
  if path = "" then .error Failure.noEntryCode
  else if pathLimit ≤ path.utf8ByteSize then .error Failure.longNameCode
  else
    let start := if Path.isAbsolute path then [] else tree.working
    let place ← tree.follow start (Path.components path)
    match tree.entryAt? place with
    | some entry => .ok (place, entry)
    | none => .error Failure.noEntryCode

def hasZero (path : String) : Bool :=
  path.toList.contains '\x00'

def entry? (tree : FileTree) (path : String) : Option Entry :=
  if hasZero path then none
  else match tree.locate path with
    | .ok found => some found.2
    | .error _ => none

def exists? (tree : FileTree) (path : String) : Bool :=
  (tree.entry? path).isSome

def isDirectory (tree : FileTree) (path : String) : Bool :=
  (tree.entry? path).any Entry.isDirectory

def isFile (tree : FileTree) (path : String) : Bool :=
  (tree.entry? path).any fun entry => !entry.isDirectory

def namesAt (tree : FileTree) (place : Place) : List String :=
  let names := tree.entries.filterMap fun entry =>
    if entry.1.dropLast = place then entry.1.getLast? else none
  names.eraseDups.mergeSort fun a b => a ≤ b

def list (tree : FileTree) (path : String) : Except Int (List String) := do
  let (place, entry) ← tree.locate path
  if entry.isDirectory then .ok (tree.namesAt place) else .error Failure.notDirectoryCode

/-! ### Changes -/

def placeOf (tree : FileTree) (path : String) : Place :=
  let start := if Path.isAbsolute path then [] else tree.working
  ((Path.components path).foldl (Path.extend true) start.reverse).reverse

def withDirectories (tree : FileTree) (place : Place) : FileTree :=
  (List.range place.length).foldl (fun tree n =>
    let above := place.take n
    if (tree.entryAt? above).isSome then tree
    else { tree with entries := tree.entries ++ [(above, .directory)] }) tree

def eraseAt (tree : FileTree) (place : Place) : FileTree :=
  { tree with entries := tree.entries.filter fun entry => !(place.isPrefixOf entry.1) }

/-- Put an entry at a path, with the directories on the way. A directory keeps what is in it. -/
def insert (tree : FileTree) (path : String) (entry : Entry) : FileTree :=
  let place := tree.placeOf path
  let tree := tree.withDirectories place
  match entry, tree.entryAt? place with
  | .directory, some .directory => tree
  | _, _ =>
    let tree := tree.eraseAt place
    { tree with entries := tree.entries ++ [(place, entry)] }

def remove (tree : FileTree) (path : String) : FileTree :=
  tree.eraseAt (tree.placeOf path)

def empty (working : Place) : FileTree :=
  (⟨[], working⟩ : FileTree).withDirectories (working ++ [""])

end FileTree

end OvfInspect.Storage
