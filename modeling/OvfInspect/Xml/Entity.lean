import OvfInspect.Xml.Lexeme

/-!
# Entities and their weight

An entity stands for text, which may refer to further entities. The weight of an entity is the number
of bytes that are read when it is expanded, once for each time a text occurs. A document whose
entities weigh far more than the document itself is refused, so that a short text cannot stand for a
huge one.
-/

namespace OvfInspect.Xml

structure Entity where
  name : String
  text : Option (List Char)
  deriving DecidableEq, Repr

def byteCount (cs : List Char) : Nat :=
  cs.foldl (fun n c => n + c.utf8Size) 0

/-- The entities that a text refers to, outside of comments, instructions and literal sections. Each
round uses up a character, so their number bounds the rounds. -/
def referencesOf (alphabet : Alphabet) : (fuel : Nat) → List Char → List String
  | 0, _ => []
  | fuel + 1, cs =>
    let skip := fun (mark rest : List Char) =>
      referencesOf alphabet fuel (((until? mark rest).map Prod.snd).getD [])
    match cs with
    | [] => []
    | '<' :: '!' :: '-' :: '-' :: rest => skip ['-', '-', '>'] rest
    | '<' :: '!' :: '[' :: rest => skip [']', ']', '>'] rest
    | '<' :: '?' :: rest => skip ['?', '>'] rest
    | '&' :: rest =>
      match reference? alphabet rest with
      | some (.entity name, rest) => name :: referencesOf alphabet fuel rest
      | some (.char _, rest) => referencesOf alphabet fuel rest
      | none => referencesOf alphabet fuel rest
    | _ :: rest => referencesOf alphabet fuel rest

abbrev Weights := List (String × Nat)

structure Burden where
  name : String
  bytes : Nat
  references : List String
  deriving DecidableEq, Repr

/-- The burden of an entity among the declared ones. What is not declared has no weight. -/
def Entity.burden (declared : List String) (entity : Entity) : Burden :=
  let text := entity.text.getD []
  ⟨entity.name, byteCount text,
    (referencesOf .standard text.length text).filter fun name => declared.contains name⟩

def Burden.weight? (known : Weights) (burden : Burden) : Option Nat :=
  burden.references.foldlM (fun n name => (known.lookup name).map (n + ·)) burden.bytes

def settleOnce (known : Weights) (burdens : List Burden) : Weights × List Burden :=
  burdens.foldl (fun (known, left) burden =>
    match burden.weight? known with
    | some weight => ((burden.name, weight) :: known, left)
    | none => (known, left ++ [burden])) (known, [])

def settle : (rounds : Nat) → Weights → List Burden → Weights
  | 0, known, _ => known
  | rounds + 1, known, burdens =>
    let (known, left) := settleOnce known burdens
    if left.isEmpty ∨ left.length = burdens.length then known else settle rounds known left

/-- The weights of entities. One that leads back to itself has none. -/
def weightsOf (entities : List Entity) : Weights :=
  let burdens := entities.map (Entity.burden (entities.map Entity.name))
  settle burdens.length [] burdens

def freeWeight : Nat := 8 * 1024 * 1024

/-- How often a document may stand for its own size beyond that. -/
def weightFactor : Nat := 100

def isTolerable (bytes weight : Nat) : Bool :=
  bytes + weight < freeWeight || bytes + weight ≤ weightFactor * bytes

end OvfInspect.Xml
