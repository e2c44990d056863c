import OvfInspect.Storage.Packing.Packing
import OvfInspect.Storage.Tape.Content
import OvfInspect.Storage.Tape.Writer

/-!
# What files contain

A file is a sequence of bytes, an archive a sequence of members. Each can be taken for the other:
the bytes of an archive are those of its blocks, and a file whose bytes are such blocks, packed or
not, is an archive.
-/

namespace OvfInspect.Storage

/-- An archive that was opened: its members, or a tape and the records of its members. -/
inductive Holding where
  | ofMembers (members : List Member)
  | ofTape (tape : Stream) (records : List Tape.Record)

namespace Holding

def listing : Holding → List Member
  | ofMembers members => members
  | ofTape _ records => records.map Tape.Record.member

def readName (holding : Holding) (name : String) : Except Archive.Unread (List UInt8) :=
  match holding with
  | ofMembers members => Archive.readName members name
  | ofTape tape records => Tape.readName tape records name

end Holding

inductive Opening where
  /-- The file is no archive. -/
  | refused
  /-- The first member is damaged beyond that. -/
  | damaged (damage : Damage)
  /-- The archive is open, though its members may not all be there. -/
  | opened (listing : Except Damage Holding)

def Opening.ofTape (tape : Stream) : Except Damage Opening := do
  return opened ((← Tape.list tape).map (.ofTape tape))

/-- Open bytes, which may be packed in one of several ways. Damage of the kind that only another way
of packing explains has the next one tried. -/
def Opening.ofBytes (bytes : ByteArray) : List Packing → Opening
  | [] => refused
  | packing :: others =>
    match ofTape (packing.unpack bytes) with
    | .ok opening => opening
    | .error damage => if packing.excludes damage then ofBytes bytes others else .damaged damage

def Entry.opening : Entry → Opening
  | .archive members => .opened (.ok (.ofMembers (members.map Archive.stored)))
  | .file bytes => .ofBytes ⟨bytes.toArray⟩ Packing.all
  | .directory => .refused

def Entry.bytes? : Entry → Option (List UInt8)
  | .archive members => some (Tape.bytes members)
  | .file bytes => some bytes
  | .directory => none

def FileTree.read (tree : FileTree) (path : String) : Except Int (List UInt8) := do
  match (← tree.locate path).2.bytes? with
  | some bytes => .ok bytes
  | none => .error Failure.isDirectoryCode

end OvfInspect.Storage
