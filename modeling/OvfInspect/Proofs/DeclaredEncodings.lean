import OvfInspect.Proofs.Decoding
import OvfInspect.Proofs.Reading

/-!
# Declared encodings

A document of bytes may declare its encoding. Whether that encoding can be used is decided before the
document is read, and a refusal is no matter of how the document is formed. `parse_refused_iff` shows
that a declared encoding is the only cause of such a refusal, and `parse_other_faults` that parsing a
descriptor has no other fault beside a malformed document and one nested too deep for its message.
-/

namespace OvfInspect

namespace Xml

/-! ### What a document declares -/

/-- The characters begin with a declaration that names the encoding. -/
def NamesEncoding (cs : List Char) (name : String) : Prop :=
  (splitDeclaration? (unifyLineEnds cs)).bind (·.1.encoding) = some name

instance (cs : List Char) (name : String) : Decidable (NamesEncoding cs name) :=
  inferInstanceAs (Decidable (_ = _))

/-- The characters among which the declaration of a document is looked for. The declared encoding is not
known before, so that each byte counts as one character, or each unit of two bytes. -/
def openingChars (bytes : List UInt8) : List Char :=
  match Family.ofBytes bytes with
  | .oneByte mark => latinChars (bytes.drop mark)
  | .twoByte order mark => (ofUnits order (bytes.drop mark)).1

/-- The document declares the encoding. -/
def DeclaresEncoding (bytes : List UInt8) (name : String) : Prop :=
  NamesEncoding (openingChars bytes) name

instance (bytes : List UInt8) (name : String) : Decidable (DeclaresEncoding bytes name) :=
  inferInstanceAs (Decidable (NamesEncoding _ _))

theorem namesEncoding_iff {cs : List Char} {name : String} :
    NamesEncoding cs name ↔
      ∃ standalone rest, splitDeclaration? (unifyLineEnds cs) = some (⟨some name, standalone⟩, rest) := by
  unfold NamesEncoding
  rcases splitDeclaration? (unifyLineEnds cs) with _ | ⟨⟨encoding, standalone⟩, rest⟩ <;> simp

/-- The encoding cannot be used, for a reason other than what is written in the document. -/
def Unusable (name : String) (refusal : Refusal) : Prop :=
  Decoder.ofName name = .error refusal ∧ refusal ≠ .illFormed

instance (name : String) (refusal : Refusal) : Decidable (Unusable name refusal) :=
  match h : Decoder.ofName name with
  | .ok _ => isFalse (by simp [Unusable, h])
  | .error reason => decidable_of_iff (reason = refusal ∧ refusal ≠ .illFormed) (by simp [Unusable, h])

/-! ### Which refusals are those of a declared encoding -/

variable {refusal : Refusal}

theorem declaredDecoder_error_iff {bytes : List UInt8} :
    declaredDecoder bytes = .error refusal ↔
      ∃ name, NamesEncoding (latinChars bytes) name ∧ Decoder.ofName name = .error refusal := by
  unfold declaredDecoder
  simp only [namesEncoding_iff]
  constructor
  · intro refused
    split at refused
    · next name standalone rest split =>
      exact ⟨name, ⟨standalone, rest, split⟩, refused⟩
    · cases refused
  · rintro ⟨name, ⟨standalone, rest, split⟩, refused⟩
    rw [split]
    exact refused

theorem bind_refused_iff {α β : Type} {x : Except Refusal α} {f : α → Except Refusal β}
    (never : ∀ a, f a ≠ .error refusal) : (x >>= f) = .error refusal ↔ x = .error refusal := by
  refine bind_error_iff.trans ⟨?_, .inl⟩
  rintro (refused | ⟨a, -, refused⟩)
  · exact refused
  · exact absurd refused (never a)

theorem decodeOneByte_refused_iff {bytes : List UInt8} (other : refusal ≠ .illFormed) :
    decodeOneByte bytes = .error refusal ↔ declaredDecoder bytes = .error refusal := by
  unfold decodeOneByte
  refine bind_refused_iff fun decoder failed => ?_
  dsimp only at failed
  -- Once the decoder is known, bytes without a meaning are the only way to fail.
  split at failed
  · cases failed
  · exact other (Except.error.inj failed).symm

theorem declaredOrder_refused_iff {cs : List Char} (other : refusal ≠ .illFormed) :
    declaredOrder cs = .error refusal ↔
      ∃ name, NamesEncoding cs name ∧ Decoder.ofName name = .error refusal := by
  unfold declaredOrder
  simp only [namesEncoding_iff]
  split
  · next name standalone rest split =>
    -- Only an encoding of two-byte units has an order, and any other is found ill-formed.
    rw [bind_refused_iff fun decoder failed => ?_]
    · constructor
      · intro refused
        exact ⟨name, ⟨standalone, rest, split⟩, refused⟩
      · rintro ⟨name', ⟨_, _, split'⟩, refused⟩
        cases split.symm.trans split'
        exact refused
    · split at failed
      · cases failed
      · exact other (Except.error.inj failed).symm
  · next undeclared =>
    constructor
    · intro refused
      cases refused
    · rintro ⟨name, ⟨standalone, rest, split⟩, -⟩
      exact absurd split (undeclared name standalone rest)

theorem decodeTwoByte_refused_iff {order : ByteOrder} {trusted : Bool} {bytes : List UInt8}
    (other : refusal ≠ .illFormed) :
    decodeTwoByte order trusted bytes = .error refusal ↔
      trusted = false ∧ declaredOrder (ofUnits order bytes).1 = .error refusal := by
  have agrees : ∀ x : Except Refusal (Option ByteOrder), (do
      let declared ← x
      if (ofUnits order bytes).2 && declared.all (· == order) then
        .ok ⟨(ofUnits order bytes).1, .extended⟩
      else .error .illFormed : Except Refusal Script) = .error refusal ↔ x = .error refusal := by
    refine fun x => bind_refused_iff fun declared failed => ?_
    split at failed
    · cases failed
    · exact other (Except.error.inj failed).symm
  cases trusted with
  | true =>
    refine (agrees (pure none)).trans ⟨?_, ?_⟩
    · rintro ⟨⟩
    · rintro ⟨⟨⟩, -⟩
  | false => exact (agrees _).trans (and_iff_right rfl).symm

theorem script_refused_iff {bytes : List UInt8} (other : refusal ≠ .illFormed) :
    (Content.bytes bytes).script = .error refusal ↔
      ∃ name, DeclaresEncoding bytes name ∧ Decoder.ofName name = .error refusal := by
  unfold Content.script DeclaresEncoding openingChars
  dsimp only
  cases Family.ofBytes bytes with
  | oneByte mark =>
    dsimp only
    rw [if_neg (by decide), decodeOneByte_refused_iff other, declaredDecoder_error_iff]
  | twoByte order mark =>
    dsimp only
    rw [decodeTwoByte_refused_iff other, declaredOrder_refused_iff other]
    exact and_iff_right rfl

theorem script_text_ne {s : String} (other : refusal ≠ .illFormed) :
    (Content.text s).script ≠ .error refusal := by
  intro refused
  unfold Content.script at refused
  dsimp only at refused
  split at refused
  · exact absurd ((decodeTwoByte_refused_iff other).1 refused).1 (by decide)
  · rw [if_pos rfl] at refused
    split at refused
    · cases refused
    · exact other (Except.error.inj refused).symm

theorem parse_error_iff_script {content : Content} (other : refusal ≠ .illFormed) :
    parse content = .error refusal ↔ content.script = .error refusal := by
  unfold parse
  refine bind_refused_iff fun script failed => ?_
  split at failed
  · cases failed
  · exact other (Except.error.inj failed).symm

/-- A document is refused for another reason than its form just if it consists of bytes and declares an
encoding that cannot be used. -/
theorem parse_refused_iff {content : Content} :
    (parse content = .error refusal ∧ refusal ≠ .illFormed) ↔
      ∃ bytes name, content = .bytes bytes ∧ DeclaresEncoding bytes name ∧ Unusable name refusal := by
  constructor
  · rintro ⟨refused, other⟩
    rw [parse_error_iff_script other] at refused
    cases content with
    | text s => exact absurd refused (script_text_ne other)
    | bytes bytes =>
      obtain ⟨name, declared, unusable⟩ := (script_refused_iff other).1 refused
      exact ⟨bytes, name, rfl, declared, unusable, other⟩
  · rintro ⟨bytes, name, rfl, declared, unusable, other⟩
    exact ⟨(parse_error_iff_script other).2 ((script_refused_iff other).2 ⟨name, declared, unusable⟩), other⟩

end Xml

/-! ### Parsing descriptors -/

variable {room : Nat}

/-- A fault that says that the document is malformed. -/
def Fault.isMalformed : Fault → Bool
  | .defect (.malformed _) => true
  | _ => false

/-- Parsing succeeds or finds the document malformed, unless its encoding is refused or there is no room for
the message. -/
theorem parse_other_iff {content : Xml.Content} {fault : Fault} (other : fault.isMalformed = false) :
    (Descriptor.parse room content).result = .error fault ↔
      (∃ refusal, fault = .document refusal ∧ Xml.parse content = .error refusal ∧ refusal ≠ .illFormed) ∨
      fault = .tooDeep ∧ ∃ root, Xml.parse content = .ok root ∧ DeepAmbiguity room root := by
  rw [← parse_tooDeep_iff]
  cases parsed : Xml.parse content with
  | error refusal => cases refusal <;> grind [Descriptor.parse, Narrated.fail, Fault.isMalformed]
  | ok root =>
    rw [parse_result_of_root parsed, treeOutcome, mapError_error_iff, mapError_error_iff]
    constructor
    · rintro ⟨cause, failed, rfl⟩
      refine .inr ⟨?_, cause, failed, ?_⟩
      all_goals
        by_contra shown
        rw [Malformed.fault_of_ne_tooDeep shown] at other
        cases other
    · rintro (⟨_, _, ⟨⟩, _⟩ | ⟨rfl, failed⟩)
      exact failed

/-- Bytes are parsed to a descriptor or are malformed, unless the document declares an encoding that cannot
be used, or has several sections where only one may be and one of them is nested too deep for the message.
Then parsing always fails: with the refusal of that encoding, or for the depth. -/
theorem parse_other_faults (room : Nat) (bytes : List UInt8) (fault : Fault)
    (other : fault.isMalformed = false) : (Descriptor.parse room (.bytes bytes)).result = .error fault ↔
      (∃ name refusal, fault = .document refusal ∧ Xml.DeclaresEncoding bytes name ∧
        Xml.Unusable name refusal) ∨
      fault = .tooDeep ∧ ∃ root, Xml.parse (.bytes bytes) = .ok root ∧ DeepAmbiguity room root := by
  rw [parse_other_iff other]
  refine or_congr_left ⟨?_, ?_⟩
  · rintro ⟨refusal, rfl, refused⟩
    obtain ⟨_, name, ⟨⟩, declared, unusable⟩ := Xml.parse_refused_iff.1 refused
    exact ⟨name, refusal, rfl, declared, unusable⟩
  · rintro ⟨name, refusal, rfl, declared, unusable⟩
    exact ⟨refusal, rfl, Xml.parse_refused_iff.2 ⟨bytes, name, rfl, declared, unusable⟩⟩

/-- A document that declares an encoding by a name that no encoding has. -/
def nowhereEncoded : List UInt8 :=
  Xml.encodeUtf8 "<?xml version='1.0' encoding='nowhere'?><E/>".toList

/-- One of two sections of references has an element inside of it. -/
def deepDocument : List Char :=
  "<E><References/><References><A/></References></E>".toList

theorem exists_deepAmbiguity :
    ∃ root, Xml.parse (.bytes (Xml.encodeUtf8 deepDocument)) = .ok root ∧ DeepAmbiguity 1 root := by
  have deep : (Xml.parse (.bytes (Xml.encodeUtf8 deepDocument))).toOption.any
      (fun root => decide (DeepAmbiguity 1 root)) = true := by decide +kernel
  obtain ⟨root, parsed, deep⟩ := (Option.any_eq_true _ _).1 deep
  exact ⟨root, toOption_eq_some_iff.1 parsed, of_decide_eq_true deep⟩

/-- An encoding that no one knows is refused, and with room for one level only a section of two is too deep. -/
theorem parse_other_faults_nowhere :
    (Descriptor.parse 900 (.bytes nowhereEncoded)).result = .error (.document (.unknownEncoding "nowhere")) ∧
    (Descriptor.parse 1 (.bytes (Xml.encodeUtf8 deepDocument))).result = .error .tooDeep :=
  ⟨(parse_other_faults 900 nowhereEncoded _ rfl).2
      (.inl ⟨"nowhere", .unknownEncoding "nowhere", rfl, by decide +kernel, by decide +kernel⟩),
    (parse_other_faults 1 (Xml.encodeUtf8 deepDocument) _ rfl).2 (.inr ⟨rfl, exists_deepAmbiguity⟩)⟩

end OvfInspect
