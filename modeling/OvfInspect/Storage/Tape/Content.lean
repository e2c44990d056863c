import OvfInspect.Storage.Tape.Reader

/-!
# Contents of members

The content of a member lies on the tape in one run, or in pieces between which the file has zeros.
-/

namespace OvfInspect.Storage.Tape

/-- A stretch of a file: where it begins and ends, and its place on the tape unless it is zeros. -/
structure Stretch where
  first : Int
  last : Int
  place : Option Int
  deriving DecidableEq, Repr

def stretches (size : Int) : (place at_ : Int) → List Piece → List Stretch
  | _, at_, [] => if at_ < size then [⟨at_, size, none⟩] else []
  | place, at_, (first, length) :: rest =>
    (if at_ < first then [⟨at_, first, none⟩] else []) ++
      ⟨first, first + length, some place⟩ ::
        stretches size (place + length) (first + length) rest

def Record.stretches (record : Record) : List Stretch :=
  Tape.stretches record.size record.start 0 (record.pieces.getD [(0, record.size)])

def stretchBytes (tape : Stream) (stretch : Stretch) (from_ count : Int) :
    Except Damage (List UInt8) :=
  match stretch.place with
  | none => .ok (List.replicate count.toNat 0)
  | some place =>
    let start := place + (from_ - stretch.first)
    if start < 0 then .error .unreachable
    else
      let bytes := tape.bytes.extract start.toNat (start + count).toNat
      if (bytes.size : Int) < count then .error (tape.ending.getD .missingBytes)
      else .ok bytes.toList

/-- The bytes of a file from a place on. Each run goes to the end of the next stretch that holds the
place, counted in a circle from the last one used. -/
def runs (tape : Stream) (all : List Stretch) (size : Int) :
    (fuel : Nat) → (index : Nat) → (from_ : Int) → Except Damage (List UInt8)
  | 0, _, _ => .ok []
  | fuel + 1, index, from_ =>
    if size ≤ from_ then .ok []
    else
      let turned := all.drop index ++ all.take index
      match turned.findIdx? fun stretch => stretch.first ≤ from_ && from_ < stretch.last with
      | none => .ok []
      | some turn => match turned[turn]? with
        | none => .ok []
        | some stretch => do
          let until_ := min size stretch.last
          let bytes ← stretchBytes tape stretch from_ (until_ - from_)
          return bytes ++ (← runs tape all size fuel ((index + turn) % all.length) until_)

def contentBound : Nat := 1 <<< 32

def Record.content (tape : Stream) (record : Record) : Except Damage (List UInt8) :=
  if (contentBound : Int) ≤ record.size then .error .tooLarge
  else
    let all := record.stretches
    runs tape all record.size all.length 0 0

def Record.kind (record : Record) : MemberKind :=
  if record.letter = hardLinkLetter then .hardLink record.target
  else if record.letter = symbolicLinkLetter then .symbolicLink record.target
  else if record.letter ∈ otherLetters then .directory
  else if isFileLetter record.letter then .file []
  else .unknown []

def Record.member (record : Record) : Member :=
  ⟨record.name, record.kind⟩

def readName (tape : Stream) (records : List Record) (name : String) :
    Except Archive.Unread (List UInt8) := do
  let (member, earlier) ← Archive.sourceNamed (records.map Record.member) name
  match records[earlier.length]?, member.kind with
  | some record, .file _ => (record.content tape).mapError .ofDamage
  | some record, .unknown _ => (record.content tape).mapError .ofDamage
  | _, _ => .error (.unreadable .noContent)

end OvfInspect.Storage.Tape
