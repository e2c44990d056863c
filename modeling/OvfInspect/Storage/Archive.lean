import OvfInspect.Storage.FileTree

/-!
# Archives

An archive is a list of members, in which a name may occur more than once. A name leads to the last
member that has it; a link leads on to the member it points at.
-/

namespace OvfInspect.Storage

def Member.isFile (member : Member) : Bool :=
  match member.kind with
  | .file _ => true
  | _ => false

namespace Archive

def withoutSlashes (name : String) : String :=
  String.ofList (name.toList.reverse.dropWhile (· == '/')).reverse

def nameFieldSize : Nat := 100

def fitsNameField (name : String) : Bool :=
  name.length ≤ nameFieldSize && name.toList.all fun c => c.toNat < 128

/-- A text as it comes back out of a field, which a zero ends. Only what fits is put into one. -/
def throughField (text : String) : String :=
  if fitsNameField text then String.ofList (text.toList.takeWhile (· ≠ '\x00')) else text

def storedKind : MemberKind → MemberKind
  | .symbolicLink target => .symbolicLink (throughField target)
  | .hardLink target => .hardLink (throughField target)
  | kind => kind

/-- The member as it comes back out of an archive: slashes at the end of its name are lost when it
is a directory or the name does not fit into its field. -/
def stored (member : Member) : Member :=
  let name := throughField member.name
  let bare := member.kind = .directory || !fitsNameField member.name
  ⟨if bare then withoutSlashes name else name, storedKind member.kind⟩

abbrev Position := Member × List Member

def last? (property : Member → Bool) (members : List Member) : Option Position :=
  match members.reverse.dropWhile fun member => !property member with
  | [] => none
  | member :: earlier => some (member, earlier.reverse)

def named? (members : List Member) (name : String) : Option Position :=
  last? (fun member => member.name == name) members

def namedLike? (members : List Member) (name : String) : Option Position :=
  last? (fun member => Path.normalize member.name == Path.normalize name) members

/-- The place that a symbolic link points at, which is relative to the directory of the link. -/
def linkPlace (link target : String) : String :=
  "/".intercalate ([Path.parent link, target].filter (· ≠ ""))

inductive Unread where
  | unreadable (cause : Unreadable)
  /-- The packing of the archive, or a map in it, is damaged. -/
  | damaged (damage : Damage)
  | linkCycle
  deriving DecidableEq, Repr

def Unread.ofDamage (damage : Damage) : Unread :=
  if damage.isOfArchive then .unreadable (.damaged damage) else .damaged damage

/-- The member itself, or the one that its links lead to. A symbolic link may point anywhere in the
archive, a hard link only at a member before it. A chain of links longer than the archive contains a
cycle. -/
def sourceOf (members : List Member) : (steps : Nat) → Position → Except Unread Position
  | 0, _ => .error .linkCycle
  | steps + 1, (member, earlier) =>
    match member.kind with
    | .symbolicLink target =>
      let place := linkPlace member.name target
      match namedLike? members place with
      | some position => sourceOf members steps position
      | none => .error (.unreadable (.noTarget place))
    | .hardLink target =>
      match namedLike? earlier target with
      | some position => sourceOf members steps position
      | none => .error (.unreadable (.noTarget target))
    | _ => .ok (member, earlier)

def sourceNamed (members : List Member) (name : String) : Except Unread Position :=
  match named? members (withoutSlashes name) with
  | some position => sourceOf members (members.length + 1) position
  | none => .error (.unreadable (.noMember name))

def bytesOf (member : Member) : Except Unread (List UInt8) :=
  match member.kind with
  | .file bytes => .ok bytes
  | .unknown bytes => .ok bytes
  | _ => .error (.unreadable .noContent)

def readName (members : List Member) (name : String) : Except Unread (List UInt8) := do
  bytesOf (← sourceNamed members name).1

end Archive

end OvfInspect.Storage
