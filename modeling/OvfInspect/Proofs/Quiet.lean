import OvfInspect.Proofs.Loading
import OvfInspect.Proofs.Reading

/-!
# Quiet computations

A quiet computation puts nothing before the user itself: it logs no errors, makes requests and calls
clients. Together with that go the faults that it can end with. Reading a descriptor and resolving its
disks are quiet; they even do nothing but log.
-/

namespace OvfInspect

/-- Whether the event neither prints nor asks, and is not the message of an error. -/
def Event.isSilent : Event → Bool
  | .logged entry => !decide (Log.Level.error ≤ entry.level)
  | .printed _ => false
  | .prompted _ => false
  | _ => true

/-- The computation does nothing but silent events, and a fault of it is one of those. -/
structure Quiet {ε α : Type} (faults : ε → Prop) (x : Narrated ε α) : Prop where
  silent : ∀ event ∈ x.events, event.isSilent = true
  faulty : ∀ e, x.result = .error e → faults e

namespace Quiet

variable {ε ε' α β : Type} {faults : ε → Prop} {x : Narrated ε α}

theorem pure (a : α) : Quiet faults (Pure.pure a : Narrated ε α) where
  silent _ member := nomatch member
  faulty _ h := nomatch h

theorem fail {e : ε} (h : faults e) : Quiet faults (.fail e : Narrated ε α) where
  silent _ member := nomatch member
  faulty _ same := Except.error.inj same ▸ h

theorem ofExcept {result : Except ε α} (h : ∀ e, result = .error e → faults e) :
    Quiet faults (.ofExcept result) where
  silent _ member := nomatch member
  faulty := h

theorem tell {event : Event} (h : event.isSilent = true) : Quiet faults (.tell event) where
  silent _ member := List.mem_singleton.1 member ▸ h
  faulty _ h := nomatch h

theorem log (entry : Log.Entry) (mild : (Event.logged entry).isSilent = true := by rfl) :
    Quiet faults (.log entry) :=
  tell mild

theorem bind {f : α → Narrated ε β} (hx : Quiet faults x)
    (hf : ∀ a, x.result = .ok a → Quiet faults (f a)) : Quiet faults (x >>= f) := by
  cases result : x.result with
  | error e =>
    rw [Narrated.bind_of_error result]
    exact ⟨hx.silent, fun e' same => Except.error.inj same ▸ hx.faulty e result⟩
  | ok a =>
    rw [Narrated.bind_of_ok result]
    refine ⟨fun event member => ?_, (hf a result).faulty⟩
    rcases List.mem_append.1 member with member | member
    · exact hx.silent event member
    · exact (hf a result).silent event member

theorem log_bind {entry : Log.Entry} {f : Unit → Narrated ε β} (h : Quiet faults (f ()))
    (mild : (Event.logged entry).isSilent = true := by rfl) : Quiet faults (.log entry >>= f) :=
  (log entry mild).bind fun _ _ => h

theorem mapFault {faults' : ε' → Prop} {f : ε → ε'} (hx : Quiet faults x)
    (h : ∀ e, faults e → faults' (f e)) : Quiet faults' (x.mapFault f) where
  silent := hx.silent
  faulty e' same := by
    cases result : x.result with
    | ok a =>
      rw [Narrated.result_mapFault, result] at same
      cases same
    | error e =>
      rw [Narrated.result_mapFault, result] at same
      exact Except.error.inj same ▸ h e (hx.faulty e result)

theorem attempt {faults' : ε' → Prop} (hx : Quiet faults x) :
    Quiet faults' (x.attempt : Narrated ε' (Except ε α)) where
  silent := hx.silent
  faulty _ h := nomatch h

theorem sharpen {faults' : ε → Prop} (hx : Quiet faults x)
    (h : ∀ e, x.result = .error e → faults e → faults' e) : Quiet faults' x :=
  ⟨hx.silent, fun e result => h e result (hx.faulty e result)⟩

theorem mono {faults' : ε → Prop} (hx : Quiet faults x) (h : ∀ e, faults e → faults' e) :
    Quiet faults' x :=
  hx.sharpen fun e _ => h e

theorem orElse {faults' : ε' → Prop} {handler : ε → Narrated ε' α} (hx : Quiet faults x)
    (h : ∀ e, x.result = .error e → Quiet faults' (handler e)) : Quiet faults' (x.orElse handler) := by
  unfold Narrated.orElse
  cases result : x.result with
  | ok a => exact ⟨hx.silent, nofun⟩
  | error e =>
    refine ⟨fun event member => ?_, (h e result).faulty⟩
    rcases List.mem_append.1 member with member | member
    · exact hx.silent event member
    · exact (h e result).silent event member

theorem mapM {f : α → Narrated ε β} {xs : List α} (h : ∀ a ∈ xs, Quiet faults (f a)) :
    Quiet faults (xs.mapM f) := by
  induction xs with
  | nil => exact pure []
  | cons a xs ih =>
    obtain ⟨first, rest⟩ := List.forall_mem_cons.1 h
    rw [List.mapM_cons]
    exact first.bind fun _ _ => (ih rest).bind fun _ _ => pure _

theorem forM {f : α → Narrated ε Unit} {xs : List α} (h : ∀ a ∈ xs, Quiet faults (f a)) :
    Quiet faults (xs.forM f) := by
  induction xs with
  | nil => exact pure ()
  | cons a xs ih =>
    obtain ⟨first, rest⟩ := List.forall_mem_cons.1 h
    exact first.bind fun _ _ => ih rest

end Quiet

/-- Nothing is said about the faults. -/
def anyFault {ε : Type} (_ : ε) : Prop := True

/-! ### Computations that only log -/

/-- All that the computation tells is messages, and none of an error. -/
def Logs {ε α : Type} (x : Narrated ε α) : Prop :=
  ∀ event ∈ x.events, event.isSilent = true ∧ ∃ entry, event = .logged entry

namespace Logs

variable {ε ε' α β : Type} {x : Narrated ε α}

theorem pure (a : α) : Logs (Pure.pure a : Narrated ε α) := nofun

theorem fail (e : ε) : Logs (.fail e : Narrated ε α) := nofun

theorem ofExcept (result : Except ε α) : Logs (.ofExcept result) := nofun

theorem log (entry : Log.Entry) (mild : (Event.logged entry).isSilent = true := by rfl) :
    Logs (.log entry : Narrated ε Unit) := by
  intro event member
  obtain rfl := List.mem_singleton.1 member
  exact ⟨mild, entry, rfl⟩

theorem bind {f : α → Narrated ε β} (hx : Logs x) (hf : ∀ a, Logs (f a)) : Logs (x >>= f) := by
  cases result : x.result with
  | error e =>
    rw [Narrated.bind_of_error result]
    exact hx
  | ok a =>
    rw [Narrated.bind_of_ok result]
    intro event member
    exact (List.mem_append.1 member).elim (hx event) (hf a event)

theorem log_bind {entry : Log.Entry} {f : Unit → Narrated ε β} (h : Logs (f ()))
    (mild : (Event.logged entry).isSilent = true := by rfl) : Logs (.log entry >>= f) :=
  (log entry mild).bind fun _ => h

theorem mapFault {f : ε → ε'} (hx : Logs x) : Logs (x.mapFault f) := hx

theorem mapM {f : α → Narrated ε β} (h : ∀ a, Logs (f a)) (xs : List α) : Logs (xs.mapM f) := by
  induction xs with
  | nil => exact pure []
  | cons a xs ih =>
    rw [List.mapM_cons]
    exact (h a).bind fun _ => ih.bind fun _ => pure _

theorem quiet (h : Logs x) : Quiet anyFault x where
  silent event member := (h event member).1
  faulty _ _ := trivial

end Logs

/-! ### Reading descriptors -/

section Reading

open Xml Reading

variable (e : Element) (tag : String)

theorem logs_findAll {ε : Type} : Logs (e.findAll tag : Narrated ε (List Element)) :=
  .log_bind (.pure _)

theorem logs_find : Logs (e.find tag) := by
  refine (logs_findAll e tag).bind fun found => ?_
  split
  · exact .pure _
  · exact .pure _
  · exact .fail _

theorem logs_childText : Logs (Reading.childText e tag) :=
  ((logs_find e tag).bind fun _ => .pure _).mapFault

theorem logs_child : Logs (child e tag) :=
  (logs_find e tag).mapFault

theorem logs_sectionHead : Logs (sectionHead e) :=
  (Logs.ofExcept _).bind fun _ => (logs_childText e "Info").bind fun _ => .pure _

theorem logs_sectionOf {α : Type} {read : Element → Reading α} (h : ∀ e, Logs (read e)) :
    Logs (sectionOf e tag read) := by
  refine (logs_child e tag).bind fun found => ?_
  split
  · exact .log_bind (.pure _)
  · exact (h _).bind fun _ => .pure _

theorem logs_childNumber : Logs (childNumber e tag) :=
  (logs_childText e tag).bind fun _ => .ofExcept _

theorem logs_references : Logs (References.read e) := by
  refine (logs_sectionHead e).bind fun _ => ?_
  refine (logs_findAll e "File").bind fun _ => ?_
  refine (Logs.ofExcept _).bind fun _ => ?_
  exact .log_bind (.pure _)

theorem logs_annotation : Logs ( Annotation.read e) :=
  (logs_sectionHead e).bind fun _ => (logs_childText e "Annotation").bind fun _ => .pure _

theorem logs_diskSection : Logs (DiskSection.read e) :=
  (logs_sectionHead e).bind fun _ => (logs_findAll e "Disk").bind fun _ => .log_bind (.pure _)

theorem logs_item : Logs (Item.read e) := by
  refine (logs_findAll e "HostResource").bind fun _ => ?_
  refine (logs_childNumber e "ResourceType").bind fun _ => ?_
  refine (logs_childText e "InstanceID").bind fun _ => ?_
  refine (logs_childText e "Parent").bind fun _ => ?_
  refine (logs_childText e "AddressOnParent").bind fun _ => ?_
  refine (logs_childNumber e "VirtualQuantity").bind fun _ => ?_
  refine (logs_childText e "VirtualQuantityUnits").bind fun _ => ?_
  refine (logs_childText e "AllocationUnits").bind fun _ => ?_
  exact (logs_childText e "ElementName").bind fun _ => .pure _

theorem logs_readAny : Logs (Item.readAny e) := by
  unfold Item.readAny
  split
  · exact (logs_item e).bind fun _ => .pure _
  · exact .log_bind (.pure _)

theorem logs_hardwareSection : Logs (HardwareSection.read e) :=
  (Logs.mapM logs_readAny _).bind fun _ => .log_bind (.pure _)

theorem logs_virtualSystem : Logs (VirtualSystem.read e) := by
  refine (logs_findAll e "VirtualHardwareSection").bind fun _ => ?_
  refine (Logs.mapM logs_hardwareSection _).bind fun _ => ?_
  refine (logs_childText e "Info").bind fun _ => ?_
  exact (logs_childText e "Name").bind fun _ => .pure _

theorem logs_readFrom : Logs ( Annotation.readFrom e) := by
  refine (logs_sectionOf e _ logs_annotation).bind fun ofPackage => ?_
  refine (logs_child e "VirtualSystem").bind fun system => ?_
  split
  · exact logs_sectionOf _ _ logs_annotation
  · exact .pure _

theorem logs_ofRoot : Logs (Descriptor.ofRoot e) := by
  refine .log_bind ?_
  refine (logs_readFrom e).bind fun _ => ?_
  refine (logs_sectionOf e _ logs_references).bind fun _ => ?_
  refine (logs_sectionOf e _ logs_virtualSystem).bind fun _ => ?_
  exact (logs_sectionOf e _ logs_diskSection).bind fun _ => .pure _

end Reading

theorem logs_parse (room : Nat) (content : Xml.Content) : Logs (Descriptor.parse room content) := by
  unfold Descriptor.parse
  split
  · exact (logs_ofRoot _).mapFault
  · exact .fail _
  · exact .fail _

/-- A document is malformed, it has an encoding that cannot be read, or sections of it are nested too deep to
be shown. -/
inductive ParseFault (room : Nat) (content : Xml.Content) : Fault → Prop
  | malformed (cause : Malformed) : ParseFault room content (.defect (.malformed cause))
  | encoding {refusal : Xml.Refusal} (refused : Xml.parse content = .error refusal)
      (other : refusal ≠ .illFormed) : ParseFault room content (.document refusal)
  | tooDeep {root : Xml.Element} (parsed : Xml.parse content = .ok root) (deep : DeepAmbiguity room root) :
      ParseFault room content .tooDeep

theorem quiet_parse (room : Nat) (content : Xml.Content) :
    Quiet (ParseFault room content) (Descriptor.parse room content) := by
  refine ⟨(logs_parse room content).quiet.silent, fun fault failed => ?_⟩
  cases parsed : Xml.parse content with
  | error refusal =>
    unfold Descriptor.parse at failed
    rw [parsed] at failed
    cases refusal with
    | illFormed =>
      obtain rfl := Except.error.inj failed
      exact .malformed .illFormed
    | _ =>
      obtain rfl := Except.error.inj failed
      exact .encoding parsed nofun
  | ok root =>
    by_cases tooDeep : fault = .tooDeep
    · obtain ⟨root, parsed, deep⟩ := parse_tooDeep_iff.1 (tooDeep ▸ failed)
      exact tooDeep ▸ .tooDeep parsed deep
    · obtain ⟨cause, -, rfl⟩ := mapError_error_iff.1 (parse_result_of_root parsed ▸ failed)
      exact Malformed.fault_of_ne_tooDeep tooDeep ▸ .malformed cause

/-! ### Resolving disks -/

theorem logs_descriptorHardware (d : Option Descriptor) : Logs (descriptorHardware d) := by
  refine (Logs.ofExcept _).bind fun system => ?_
  unfold hardwareOf
  dsimp only
  split
  · exact .fail _
  · exact .pure _
  · exact .log_bind (.pure _)

theorem logs_scaled (n : Nat) (shift : Int) : Logs (scaled n shift) := by
  unfold scaled
  split
  · exact .pure _
  · dsimp only
    split
    · exact .log_bind (.pure _)
    · exact .pure _

theorem logs_capacityInGb (capacity : Amount) (units : Option String) : Logs (capacityInGb capacity units) :=
  (Logs.ofExcept _).bind fun _ => (Logs.ofExcept _).bind fun _ => logs_scaled _ _

theorem logs_diskInfo (disks : List Disk) (files : List FileReference) (item : Item) :
    Logs (diskInfo disks files item) := by
  refine (Logs.ofExcept _).bind fun id => ?_
  split
  · exact .fail _
  · split
    · exact .fail _
    · exact (logs_capacityInGb _ _).bind fun _ => .log_bind (.pure _)

theorem logs_diskInfos (hardware : Option HardwareSection) (sec : Option DiskSection)
    (files : Option (List FileReference)) : Logs (diskInfos hardware sec files) := by
  unfold diskInfos
  split
  · exact .fail _
  · dsimp only
    split
    · exact .fail _
    · split
      · exact .fail _
      · split
        · exact .fail _
        · exact .mapM (logs_diskInfo _ _) _

theorem Fault.isInput_of_isDefect {fault : Fault} (h : fault.isDefect = true) : fault.isInput = true := by
  cases fault with
  | defect => rfl
  | _ => cases h

theorem quiet_descriptorHardware (d : Descriptor) :
    Quiet (fun fault => fault.isDefect = true) (descriptorHardware (some d)) := by
  refine (Quiet.ofExcept fun fault failed => ?_).bind fun system _ => ?_
  · unfold virtualSystemOf at failed
    dsimp only at failed
    split at failed
    · obtain rfl := Except.error.inj failed
      rfl
    · cases failed
  · unfold hardwareOf
    dsimp only
    split
    · exact .fail rfl
    · exact .pure _
    · exact .log_bind (.pure _)

theorem quiet_scaled {faults : Fault → Prop} (n : Nat) (shift : Int) : Quiet faults (scaled n shift) := by
  unfold scaled
  split
  · exact .pure _
  · dsimp only
    split
    · exact .log_bind (.pure _)
    · exact .pure _

/-- The units of one of the disks have an exponent with too many digits. -/
def Overlong (disks : List Disk) (fault : Fault) : Prop :=
  ∃ disk ∈ disks, AllocationUnit.read disk.capacityUnits = .error fault ∧
    ∃ n, fault = .number (.tooManyDigits n)

theorem read_error {units : Option String} {fault : Fault}
    (refused : AllocationUnit.read units = .error fault) :
    fault = .unsupported (.allocationUnits units) ∨ ∃ n, fault = .number (.tooManyDigits n) := by
  unfold AllocationUnit.read at refused
  dsimp only at refused
  split at refused
  · exact .inl (Except.error.inj refused).symm
  · split at refused
    · exact .inr ⟨_, (Except.error.inj refused).symm⟩
    · split at refused
      · cases refused
      · exact .inl (Except.error.inj refused).symm

theorem quiet_inUnitsOf (base : Nat) (amount : Amount) (units : Option String) :
    Quiet (fun fault => fault.isInput = true ∨ amount.natural = .error .unwritable ∧ fault = .unwritable ∨
      AllocationUnit.read units = .error fault ∧ ∃ n, fault = .number (.tooManyDigits n))
      (amount.inUnitsOf base units) := by
  refine (Quiet.ofExcept fun fault refused => ?_).bind fun n _ => ?_
  · unfold Amount.counted at refused
    split at refused
    · cases refused
    · next unwritable =>
      obtain rfl := Except.error.inj refused
      exact .inr (.inl ⟨unwritable, rfl⟩)
    · obtain rfl := Except.error.inj refused
      exact .inl rfl
  · refine (Quiet.ofExcept fun fault refused => ?_).bind fun unit _ => quiet_scaled _ _
    rcases read_error refused with rfl | digits
    · exact .inl rfl
    · exact .inr (.inr ⟨refused, digits⟩)

/-- A text is there already, and need not be written. -/
theorem natural_ofText_ne (text : Option String) : (Amount.ofText text).natural ≠ .error .unwritable := by
  intro unwritable
  cases text with
  | none => cases unwritable
  | some s =>
    rw [Amount.ofText, Amount.natural, mapError_error_iff] at unwritable
    obtain ⟨_, -, ⟨⟩⟩ := unwritable

theorem quiet_capacityInGb {disk : Disk} {disks : List Disk} (member : disk ∈ disks) :
    Quiet (fun fault => fault.isInput = true ∨ Overlong disks fault)
      (capacityInGb (.ofText disk.capacity) disk.capacityUnits) := by
  refine (quiet_inUnitsOf 30 _ _).mono fun fault => Or.imp_right ?_
  rintro (⟨unwritable, -⟩ | refused)
  · exact absurd unwritable (natural_ofText_ne _)
  · exact ⟨disk, member, refused⟩

theorem quiet_diskInfo (disks : List Disk) (files : List FileReference) (item : Item) :
    Quiet (fun fault => fault.isInput = true ∨ Overlong disks fault) (diskInfo disks files item) := by
  refine (Quiet.ofExcept fun fault failed => ?_).bind fun id _ => ?_
  · unfold Item.diskId at failed
    split at failed
    · cases failed
    · obtain rfl := Except.error.inj failed
      exact .inl rfl
  · split
    · exact .fail (.inl rfl)
    · next disk found =>
      split
      · exact .fail (.inl rfl)
      · obtain ⟨before, after, split, -⟩ := diskById?_iff.1 found
        exact (quiet_capacityInGb (by rw [split]; simp)).bind fun _ _ => .log_bind (.pure _)

theorem quiet_diskInfos (h : HardwareSection) (sec : Option DiskSection)
    (files : Option (List FileReference)) :
    Quiet (fun fault => fault.isInput = true ∨ Overlong ((sec.map DiskSection.disks).getD []) fault)
      (diskInfos (some h) sec files) := by
  unfold diskInfos
  dsimp only
  split
  · exact .fail (.inl rfl)
  · split
    · exact .fail (.inl rfl)
    · split
      · exact .fail (.inl rfl)
      · exact .mapM fun item _ => quiet_diskInfo _ _ item

end OvfInspect
