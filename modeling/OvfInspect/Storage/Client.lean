import OvfInspect.Fault
import OvfInspect.Narrated
import OvfInspect.Xml.Document

/-!
# Storage clients

A client finds the objects of a package, reads them, and forms their locations. What it looks for is
either a bare extension, which any object with that extension answers, or a name, which only the
object of that name does.
-/

namespace OvfInspect.Storage

structure Handle where
  container : String
  name : String
  path : String
  deriving DecidableEq, Repr

inductive Backend where
  | none
  | directory
  | archive
  | web
  deriving DecidableEq, Repr

def Backend.name : Backend → String
  | none => "StorageClient"
  | directory => "DirectoryStorage"
  | archive => "TarStorage"
  | web => "HTTPStorage"

/-- The operations of a client. A name that is absent can be looked for, but never found, and no
client has a location for it. -/
structure Client where
  backend : Backend
  find : (base : String) → (wanted : Option String) → Narrated Fault Handle
  read : Handle → Narrated Fault Xml.Content
  join : (base name : String) → Narrated Fault String

/-- Whether the text is a bare extension: a point and then letters and digits, perhaps with a line
feed at the very end. -/
def isExtension (wanted : String) : Bool :=
  match wanted.toList with
  | '.' :: rest =>
    let cs := if rest.getLast? = some '\n' then rest.dropLast else rest
    !cs.isEmpty && cs.all Char.isAlphanum
  | _ => false

def needed (wanted : Option String) : Narrated Fault String :=
  match wanted with
  | some name => pure name
  | none => .fail (.absent .suffix)

def Client.abstract : Client where
  backend := .none
  find _ _ := .fail (.notProvided "find_file not implemented")
  read _ := .fail (.notProvided "get_file_content not implemented")
  join _ _ := .fail (.notProvided "join_path not implemented")

def Client.recorded (client : Client) : Client where
  backend := client.backend
  find base wanted := do
    .tell (.called (.find base wanted))
    client.find base wanted
  read handle := do
    .tell (.called (.read handle.path))
    client.read handle
  join base name := do
    .tell (.called (.join base name))
    client.join base name

end OvfInspect.Storage
