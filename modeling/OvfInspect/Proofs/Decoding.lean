import OvfInspect.Xml.Document

/-!
# Decoding documents

A document that is encoded in UTF-8, and neither shows nor declares anything else, has the characters
that were encoded.
-/

namespace OvfInspect.Xml

/-- The bytes of characters in the encoding of one to four bytes. -/
def encodeUtf8 (cs : List Char) : List UInt8 :=
  cs.flatMap String.utf8EncodeChar

theorem decodeUtf8?_encodeUtf8 (cs : List Char) : decodeUtf8? (encodeUtf8 cs) = some cs := by
  have bytes : (⟨(encodeUtf8 cs).toArray⟩ : ByteArray) = (String.ofList cs).toByteArray := by
    rw [String.toByteArray_ofList]
    exact ByteArray.ext (List.data_toByteArray).symm
  have decoded : String.fromUTF8? (String.ofList cs).toByteArray = some (String.ofList cs) :=
    dif_pos (String.ofList cs).isValidUTF8
  rw [decodeUtf8?, bytes, decoded, Option.map_some, String.toList_ofList]

/-- The text declares no encoding, or its declaration is at fault. -/
def Undeclared (bytes : List UInt8) : Prop :=
  (splitDeclaration? (unifyLineEnds (latinChars bytes))).bind (·.1.encoding) = none

instance (bytes : List UInt8) : Decidable (Undeclared bytes) :=
  inferInstanceAs (Decidable (_ = none))

theorem declaredDecoder_of_undeclared {bytes : List UInt8} (h : Undeclared bytes) :
    declaredDecoder bytes = .ok .utf8 := by
  unfold declaredDecoder
  split
  · next name _ rest split =>
    rw [Undeclared, split] at h
    cases h
  · rfl

theorem script_encodeUtf8 {cs : List Char} (oneByte : Family.ofBytes (encodeUtf8 cs) = .oneByte 0)
    (undeclared : Undeclared (encodeUtf8 cs)) :
    (Content.bytes (encodeUtf8 cs)).script = .ok { chars := cs } := by
  unfold Content.script
  dsimp only
  rw [oneByte]
  dsimp only
  rw [List.drop_zero, if_neg (by decide), decodeOneByte, declaredDecoder_of_undeclared undeclared]
  simp only [bind, Except.bind, decodeUtf8?_encodeUtf8, Option.map_some]

theorem parse_encodeUtf8 {cs : List Char} {root : Element}
    (oneByte : Family.ofBytes (encodeUtf8 cs) = .oneByte 0)
    (undeclared : Undeclared (encodeUtf8 cs)) (legal : cs.all isXmlChar = true)
    (formed : ofChars? .standard cs = some root) : parse (.bytes (encodeUtf8 cs)) = .ok root := by
  unfold parse
  rw [script_encodeUtf8 oneByte undeclared]
  simp only [bind, Except.bind, legal?, legal, if_true, Option.bind_some, formed]

end OvfInspect.Xml
