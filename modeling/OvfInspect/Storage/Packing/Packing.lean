import OvfInspect.Storage.Packing.Bzip
import OvfInspect.Storage.Packing.Gzip
import OvfInspect.Storage.Packing.Xz

/-!
# Packings

The ways in which the bytes of an archive can be packed.
-/

namespace OvfInspect.Storage

inductive Packing where
  | gzip
  | bzip
  | xz
  | none
  deriving DecidableEq, Repr

namespace Packing

def all : List Packing := [gzip, bzip, xz, none]

def unpack (packing : Packing) (bytes : ByteArray) : Stream :=
  match packing with
  | gzip => Gzip.unpack bytes
  | bzip => Bzip.unpack bytes
  | xz => Xz.unpack bytes
  | none => { bytes }

/-- Whether damage means that the bytes were not packed in this way. -/
def excludes (packing : Packing) (damage : Damage) : Bool :=
  damage.isOfArchive || match packing, damage with
    | gzip, .gzip _ => true
    | gzip, .unreachable => true
    | bzip, .bzip => true
    | bzip, .packingEnded => true
    | bzip, .unreachable => true
    | xz, .xz _ => true
    | xz, .packingEnded => true
    | _, _ => false

end Packing

end OvfInspect.Storage
