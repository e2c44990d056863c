/-!
# Forms

A form is a list of named fields, some of which must be filled. Values are given by position or by
name; a field that is left out keeps its default, which is nothing or an empty list.
-/

namespace OvfInspect

/-- How a field is filled when no value is given for it. -/
inductive FieldDefault where
  | required
  | nothing
  | emptyList
  deriving DecidableEq, Repr

structure Field where
  name : String
  default : FieldDefault
  deriving DecidableEq, Repr

abbrev Form := List Field

namespace Form

inductive Misfit where
  /-- There are more values than fields. -/
  | tooMany
  | filledTwice (name : String)
  /-- A name is not that of a field. -/
  | unknown (name : String)
  | leftOut (name : String)
  deriving DecidableEq, Repr

/-- A filled form: for each field its value, or none for the default. -/
abbrev Filled (α : Type) := List (Field × Option α)

variable {α : Type}

def fillInOrder : Form → List α → Except Misfit (Filled α)
  | _ :: _, [] => .ok []
  | [], [] => .ok []
  | [], _ :: _ => .error .tooMany
  | field :: form, a :: values => do
    return (field, some a) :: (← fillInOrder form values)

def fillNamed (filled : Filled α) (entry : String × α) : Except Misfit (Filled α) :=
  match filled.find? fun cell => cell.1.name == entry.1 with
  | none => .error (.unknown entry.1)
  | some (_, some _) => .error (.filledTwice entry.1)
  | some (_, none) => .ok <| filled.map fun cell =>
      if cell.1.name == entry.1 then (cell.1, some entry.2) else cell

def fill (form : Form) (values : List α) (named : List (String × α)) :
    Except Misfit (Filled α) := do
  let first ← form.fillInOrder values
  let rest : Filled α := (form.drop first.length).map fun field => (field, none)
  let filled ← named.foldlM fillNamed (first ++ rest)
  match filled.find? fun cell => cell.1.default == .required && cell.2.isNone with
  | some cell => .error (.leftOut cell.1.name)
  | none => .ok filled

def unknownNames (form : Form) (named : List (String × α)) : List String :=
  (named.map Prod.fst).filter fun name => !(form.any fun field => field.name == name)

def replace (filled : Filled α) (named : List (String × α)) : Filled α :=
  filled.map fun cell => match named.lookup cell.1.name with
    | some a => (cell.1, some a)
    | none => cell

end Form

def Field.optional (name : String) : Field := ⟨name, .nothing⟩

def Field.mandatory (name : String) : Field := ⟨name, .required⟩

def Field.repeated (name : String) : Field := ⟨name, .emptyList⟩

def descriptorForms : List (String × Form) :=
  [("Descriptor", [.optional "references", .optional "annotation", .optional "virtual_system",
      .optional "disk_section"]),
   ("ReferencesSection", [.optional "required", .optional "info", .repeated "files"]),
   ("AnnotationSection", [.optional "required", .optional "info", .optional "annotation"]),
   ("DiskSection", [.optional "required", .optional "info", .repeated "disks"]),
   ("VirtualSystem", [.optional "id", .optional "info", .optional "name",
      .repeated "virtual_hardware"]),
   ("VirtualHardwareSection", [.repeated "items"]),
   ("File", [.mandatory "id", .mandatory "href", .optional "size"]),
   ("VirtualDisk", [.mandatory "disk_id", .mandatory "file_ref", .optional "capacity",
      .optional "capacity_allocation_units"]),
   ("ResourceAllocationSettingData", [.optional "resource_type", .optional "instance_id",
      .optional "parent", .optional "address_on_parent", .repeated "host_resource",
      .optional "virtual_quantity", .optional "virtual_quantity_units",
      .optional "allocation_units", .optional "element_name"])]

end OvfInspect
