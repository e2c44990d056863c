import OvfInspect.Number.Natural
import OvfInspect.Number.Shortest
import OvfInspect.Text.Quoted

/-!
# Values

What options, records of the log and reports are made of: values whose kind is known only when they
are given. A value has a plain text and a quoted one, in which texts stand between quotes.
-/

namespace OvfInspect

inductive Value where
  | absent
  | flag (b : Bool)
  | number (n : Int)
  | real (b : Number.Binary)
  | text (s : String)
  | list (xs : List Value)
  | record (fields : List (String × Value))
  /-- Something else, of which only its text is known. -/
  | object (shown : String)
  deriving Repr, Inhabited

namespace Value

def ofText? : Option String → Value
  | none => absent
  | some s => text s

def texts (xs : List String) : Value :=
  list (xs.map text)

mutual

def quoted : Value → String
  | absent => "None"
  | flag b => if b then "True" else "False"
  | number n => toString n
  | real b => b.text
  | text s => Text.quoted s
  | list xs => "[" ++ ", ".intercalate (quotedAll xs) ++ "]"
  | record fields => "\x7b" ++ ", ".intercalate (quotedFields fields) ++ "\x7d"
  | object s => s

def quotedAll : List Value → List String
  | [] => []
  | value :: rest => value.quoted :: quotedAll rest

def quotedFields : List (String × Value) → List String
  | [] => []
  | (name, value) :: rest => (Text.quoted name ++ ": " ++ value.quoted) :: quotedFields rest

end

def plain : Value → String
  | text s => s
  | value => value.quoted

def quotedRow (values : List Value) : String :=
  match values with
  | [value] => "(" ++ value.quoted ++ ",)"
  | values => "(" ++ ", ".intercalate (quotedAll values) ++ ")"

/-- Values as a plain text: nothing, the only value, or all of them in parentheses. -/
def plainRow (values : List Value) : String :=
  match values with
  | [] => ""
  | [value] => value.plain
  | values => quotedRow values

def isAbsent : Value → Bool
  | absent => true
  | _ => false

/-- What the value lists: the values of a list, the characters of a text, or the names of a record. -/
def elements? : Value → Option (List Value)
  | list xs => some xs
  | text s => some (s.toList.map fun c => text (String.singleton c))
  | record fields => some (fields.map fun field => text field.1)
  | _ => none

def text? : Value → Option String
  | text s => some s
  | _ => none

/-- Whether the value counts as something: it is not absent, false, zero or empty. -/
def isSomething : Value → Bool
  | absent => false
  | flag b => b
  | number n => n ≠ 0
  | real b => b.size ≠ 0
  | text s => s ≠ ""
  | list xs => !xs.isEmpty
  | record fields => !fields.isEmpty
  | object _ => true

def whole? : Value → Option Int
  | flag b => some (if b then 1 else 0)
  | number n => some n
  | _ => none

def rational? : Value → Option Rat
  | real b => some b.value
  | value => value.whole?.map fun n => (n : Rat)

mutual

def writable : Value → Bool
  | number n => Number.writable n
  | list xs => writableAll xs
  | record fields => writableFields fields
  | _ => true

def writableAll : List Value → Bool
  | [] => true
  | value :: rest => value.writable && writableAll rest

def writableFields : List (String × Value) → Bool
  | [] => true
  | (_, value) :: rest => value.writable && writableFields rest

end

mutual

/-- Whether two values are the same. Numbers are compared by what they count, flags among them, and
records without regard to the order of their fields. -/
def same : Value → Value → Bool
  | absent, absent => true
  | text s, text t => s == t
  | object s, object t => s == t
  | list xs, list ys => sameAll xs ys
  | record fields, record others =>
    fields.length == others.length && sameFields fields others
  | a, b => match a.rational?, b.rational? with
    | some p, some q => p == q
    | _, _ => false

def sameAll : List Value → List Value → Bool
  | [], [] => true
  | a :: rest, b :: others => a.same b && sameAll rest others
  | _, _ => false

def sameFields : List (String × Value) → List (String × Value) → Bool
  | [], _ => true
  | (name, value) :: rest, others =>
    (match others.lookup name with
      | some other => value.same other
      | none => false) && sameFields rest others

end

end Value

end OvfInspect
