import OvfInspect.Xml.Element

/-!
# Elements as text

An element is written with all namespace declarations on the outermost element, sorted by prefix,
then its attributes in document order. An element without content is written as one tag. The
character data after the element is included.
-/

namespace OvfInspect.Xml

def usualPrefixes : List (String × String) :=
  [("http://www.w3.org/XML/1998/namespace", "xml"),
   ("http://www.w3.org/1999/xhtml", "html"),
   ("http://www.w3.org/1999/02/22-rdf-syntax-ns#", "rdf"),
   ("http://schemas.xmlsoap.org/wsdl/", "wsdl"),
   ("http://www.w3.org/2001/XMLSchema", "xs"),
   ("http://www.w3.org/2001/XMLSchema-instance", "xsi"),
   ("http://purl.org/dc/elements/1.1/", "dc")]

mutual

def Element.names : Element → List Name
  | ⟨name, attributes, _, children, _⟩ =>
    name :: attributes.map Prod.fst ++ namesOfAll children

def namesOfAll : List Element → List Name
  | [] => []
  | e :: rest => e.names ++ namesOfAll rest

end

abbrev Prefixes := List (String × String)

/-- Give the name's namespace a prefix unless it has one. The prefix of XML itself needs no
declaration. -/
def Prefixes.cover (declared : Prefixes) (name : Name) : Prefixes :=
  if name.space = "" || (declared.lookup name.space).isSome then declared
  else match usualPrefixes.lookup name.space with
    | some "xml" => declared
    | some usual => declared ++ [(name.space, usual)]
    | none => declared ++ [(name.space, "ns" ++ toString declared.length)]

def Element.prefixes (e : Element) : Prefixes :=
  e.names.foldl Prefixes.cover []

def Name.written (declared : Prefixes) (name : Name) : String :=
  if name.space = "" then name.word
  else ((declared.lookup name.space).getD "xml") ++ ":" ++ name.word

def escapedDataChar : Char → String
  | '&' => "&amp;"
  | '<' => "&lt;"
  | '>' => "&gt;"
  | c => String.singleton c

def escapedValueChar : Char → String
  | '"' => "&quot;"
  | '\r' => "&#13;"
  | '\n' => "&#10;"
  | '\t' => "&#09;"
  | c => escapedDataChar c

def escapedData (s : String) : String :=
  String.join (s.toList.map escapedDataChar)

def escapedValue (s : String) : String :=
  String.join (s.toList.map escapedValueChar)

def writtenAttribute (name value : String) : String :=
  " " ++ name ++ "=\"" ++ escapedValue value ++ "\""

def Prefixes.written (declared : Prefixes) : String :=
  String.join <| (declared.mergeSort fun a b => a.2 ≤ b.2).map fun entry =>
    writtenAttribute ("xmlns:" ++ entry.2) entry.1

mutual

/-- The element as text, where `declarations` stand in its first tag. -/
def Element.write (declared : Prefixes) (declarations : String) : Element → String
  | ⟨name, attributes, text, children, tail⟩ =>
    let tag := name.written declared
    let start := "<" ++ tag ++ declarations ++
      String.join (attributes.map fun entry =>
        writtenAttribute (entry.1.written declared) entry.2)
    let inner := escapedData text ++ writeAll declared children
    (if text = "" && children.isEmpty then start ++ " />"
     else start ++ ">" ++ inner ++ "</" ++ tag ++ ">") ++ escapedData tail

def writeAll (declared : Prefixes) : List Element → String
  | [] => ""
  | e :: rest => e.write declared "" ++ writeAll declared rest

end

def Element.render (e : Element) : String :=
  e.write e.prefixes e.prefixes.written

end OvfInspect.Xml
