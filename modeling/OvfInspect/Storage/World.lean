import OvfInspect.Storage.Local
import OvfInspect.Storage.Web

/-!
# Opening packages

The location of a package decides which client reads it: a web address, an archive, a descriptor
file or a directory.
-/

namespace OvfInspect.Storage

structure World where
  files : FileTree
  web : Web.Table
  /-- How deep elements may be nested that a message shows. -/
  room : Nat

def isRemote (package : String) : Bool :=
  package.startsWith "http://" || package.startsWith "https://"

/-- Whether the path has the extension of a descriptor, in letters of either case. -/
def namesDescriptor (path : String) : Bool :=
  (Xml.lowerAscii path).endsWith ".ovf"

namespace World

def client (world : World) : Backend → Client
  | .none => .abstract
  | .directory => Directory.client world.files
  | .archive => Archive.client world.files
  | .web => Web.client world.web Web.defaultTimeout

def packageDirectory? (world : World) (backend : Backend) (base : String) :
    Option (Narrated Fault String) :=
  match backend with
  | .directory => some (Directory.packageDirectory world.files base)
  | .web => some (.ofExcept (Web.packageDirectory base))
  | _ => none

def backendFor (world : World) (package : String) : Except Fault Backend :=
  if isRemote package then .ok .web
  else match world.files.entry? package with
    | none =>
      let parent := Path.parent package
      .error (.storage (.notFound (some (Path.baseName package))
        (if parent = "" then "." else parent)))
    | some entry =>
      if entry.isDirectory || namesDescriptor package then .ok .directory
      else match entry.opening with
        | .opened _ => .ok .archive
        | .damaged damage => .error (.damaged damage)
        | .refused => .error (.storage (.notArchive package))

def choiceMessage (backend : Backend) (package : String) : String :=
  let kind := match backend with
    | .web => "HTTP"
    | .archive => "TAR"
    | _ => "directory"
  "Using " ++ kind ++ " storage for " ++ package

def openPackage (world : World) (package : String) : Narrated Fault Client := do
  let backend ← .ofExcept (world.backendFor package)
  .log (.verbose (choiceMessage backend package))
  pure (world.client backend)

end World

end OvfInspect.Storage
