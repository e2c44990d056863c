import OvfInspect.Storage.Content
import OvfInspect.Storage.Client

/-!
# Local packages

A package is a directory, or an archive with the files in it. In a directory a name is followed as a
path; in an archive it is compared in normal form with the names of the members.
-/

namespace OvfInspect.Storage

def absolutePath (tree : FileTree) (path : String) : Narrated Fault String :=
  if Path.isAbsolute path then pure path
  else do
    .log (.debug ⟨"local", "_absolute", 42⟩
      ("Converting relative path \"" ++ path ++ "\" to an absolute path"))
    pure (Path.absolute tree.workingPath path)

namespace Directory

def packageDirectory (tree : FileTree) (base : String) : Narrated Fault String := do
  let path ← absolutePath tree base
  pure (if tree.isDirectory path then path else Path.parent path)

def listing (tree : FileTree) (directory : String) : Except Fault (List String) :=
  if FileTree.hasZero directory then .error (.path .zeroCharacter)
  else match tree.list directory with
    | .ok names => .ok names
    | .error code => .error (.storage (.ofCode code directory))

/-- The names that come into question: a name in normal form, the base itself if it has the wanted
extension and is no directory, or else every name in the directory with the extension. -/
def candidates (tree : FileTree) (directory base wanted : String) :
    Except Fault (List String) :=
  if !isExtension wanted then .ok [Path.normalize wanted]
  else if !tree.isDirectory base && base.endsWith wanted then .ok [Path.baseName base]
  else (listing tree directory).map fun names => names.filter fun name => name.endsWith wanted

def find (tree : FileTree) (base : String) (wanted : Option String) : Narrated Fault Handle := do
  let directory ← packageDirectory tree base
  let wanted ← needed wanted
  let names ← .ofExcept (candidates tree directory base wanted)
  match names.find? fun name => tree.isFile (Path.join directory name) with
  | some name => do
    .log (.spam ("Found " ++ name ++ " for '" ++ wanted ++ "' in " ++ directory))
    pure ⟨directory, name, Path.join directory name⟩
  | none => .fail (.storage (.notFound (some wanted) directory))

def read (tree : FileTree) (handle : Handle) : Narrated Fault Xml.Content := do
  .log (.verbose ("Reading " ++ handle.path))
  if FileTree.hasZero handle.path then .fail (.path .zeroCharacter)
  else match tree.read handle.path with
    | .ok bytes => pure (.bytes bytes)
    | .error code => .fail (.storage (.ofCode code handle.path))

def join (tree : FileTree) (base name : String) : Narrated Fault String := do
  pure (Path.join (← packageDirectory tree base) name)

def client (tree : FileTree) : Client where
  backend := .directory
  find := find tree
  read := read tree
  join := join tree

end Directory

namespace Archive

def openAt (tree : FileTree) (path : String) : Narrated Fault (Except Damage Holding) := do
  let absolute ← absolutePath tree path
  if FileTree.hasZero absolute then .fail (.path .zeroCharacter)
  else match (tree.entry? absolute).map Entry.opening with
    | some (.opened listing) => pure listing
    | some (.damaged damage) => .fail (.damaged damage)
    | _ => .fail (.storage (.notArchive path))

def answers (wanted name : String) : Bool :=
  if isExtension wanted then name.endsWith wanted
  else Path.normalize name == Path.normalize wanted

/-- The location of a member: its normal name inside the archive. -/
def join (tree : FileTree) (base name : String) : Narrated Fault String := do
  pure (Path.join (← absolutePath tree base) (Path.normalize name))

/-- The first regular member that answers what is wanted. -/
def find (tree : FileTree) (base : String) (wanted : Option String) : Narrated Fault Handle := do
  let wanted ← needed wanted
  let holding ← .ofExcept ((← openAt tree base).mapError .damaged)
  match holding.listing.find? fun member => member.isFile && answers wanted member.name with
  | some member => do
    .log (.debug ⟨"local", "find_file", 179⟩
      ("Found " ++ member.name ++ " for '" ++ wanted ++ "' in TAR file"))
    pure ⟨base, member.name, ← join tree base member.name⟩
  | none => .fail (.storage (.notFound (some wanted) base))

def read (tree : FileTree) (handle : Handle) : Narrated Fault Xml.Content := do
  .log (.verbose ("Reading " ++ handle.name ++ " from " ++ handle.container))
  let listing ← openAt tree handle.container
  match (do (← listing.mapError Unread.ofDamage).readName handle.name) with
  | .ok bytes => pure (.bytes bytes)
  | .error (.unreadable cause) =>
    .fail (.storage (.unreadableMember handle.name handle.container cause))
  | .error (.damaged damage) => .fail (.damaged damage)
  | .error .linkCycle => .fail .linkCycle

def client (tree : FileTree) : Client where
  backend := .archive
  find := find tree
  read := read tree
  join := join tree

end Archive

end OvfInspect.Storage
