import OvfInspect.Storage.Damage

/-!
# Storage failures

Why an object could not be located or read: the failures of the operating system with their codes,
and those that storage itself finds.
-/

namespace OvfInspect.Storage

inductive Unreadable where
  | noMember (name : String)
  /-- The link points at no member that it can reach. -/
  | noTarget (place : String)
  /-- The member is not one that holds content. -/
  | noContent
  /-- The archive or the content of the member is damaged. -/
  | damaged (damage : Damage)
  deriving DecidableEq, Repr

def Unreadable.message : Unreadable → String
  | noMember name => Text.quoted ("filename " ++ Text.quoted name ++ " not found")
  | noTarget place => Text.quoted ("linkname " ++ Text.quoted place ++ " not found")
  | noContent => "'NoneType' object has no attribute 'close'"
  | damaged damage => damage.message

inductive Failure where
  /-- Nothing in the place has the wanted name or extension. -/
  | notFound (wanted : Option String) (place : String)
  /-- The system failed with a code and a reason, at a place if one is known. -/
  | system (code : Int) (reason : String) (place : Option String)
  /-- The path is not an archive. -/
  | notArchive (path : String)
  /-- The member of the archive has no content that can be read. -/
  | unreadableMember (name container : String) (cause : Unreadable)
  | told (text : String)
  deriving DecidableEq, Repr

namespace Failure

def noEntryCode : Int := 2

def transferCode : Int := 5

/-- The code for a path that leads through something that is not a directory. -/
def notDirectoryCode : Int := 20

def longNameCode : Int := 36

def isDirectoryCode : Int := 21

def reasonOf (code : Int) : String :=
  if code = noEntryCode then "No such file or directory"
  else if code = notDirectoryCode then "Not a directory"
  else if code = isDirectoryCode then "Is a directory"
  else if code = longNameCode then "File name too long"
  else "Input/output error"

def ofCode (code : Int) (place : String) : Failure :=
  .system code (reasonOf code) (some place)

def code? : Failure → Option Int
  | notFound _ _ => some noEntryCode
  | system code _ _ => some code
  | _ => none

def notFoundReason (wanted : String) : String :=
  "No object matching '" ++ wanted ++ "' found"

def reason? : Failure → Option String
  | notFound wanted _ => some (notFoundReason (wanted.getD "None"))
  | system _ reason _ => some reason
  | _ => none

def place? : Failure → Option String
  | notFound _ place => some place
  | system _ _ place => place
  | _ => none

/-- What the system says about a failure: its code, its reason and the places in question. -/
def systemText (code reason : String) (places : List String) : String :=
  let head := "[Errno " ++ code ++ "] " ++ reason
  if places.isEmpty then head else head ++ ": " ++ " -> ".intercalate places

def unreadHeading (name container : String) : String :=
  "Unable to read " ++ name ++ " from " ++ container ++ ":"

def message (f : Failure) : String :=
  match f with
  | notArchive path => path ++ " is not a valid TAR file"
  | unreadableMember name container cause => unreadHeading name container ++ " " ++ cause.message
  | told text => text
  | _ =>
    systemText (toString ((f.code?).getD 0)) ((f.reason?).getD "") (f.place?.toList.map Text.quoted)

/-- The failure on one line: place and reason where both are known. -/
def summary (f : Failure) : String :=
  match f.place?, f.reason? with
  | some place, some reason => place ++ ": " ++ reason
  | _, _ => f.message

end Failure

end OvfInspect.Storage
