import OvfInspect.Proofs.LocatedDisks
import OvfInspect.Proofs.Quiet
import OvfInspect.Proofs.UnitTexts

/-!
# Faults of resolution

The processors, the memory and the disks of a descriptor that was read are resolved, or there is a fault
of the input. `resolution_faults` says so with its one exception, which is an exponent of a unit that has
too many digits.
-/

namespace OvfInspect

open Xml Reading

/-! ### What is exceptional -/

/-- The first entry with a property. -/
def IsFirst {α : Type} (p : α → Prop) (xs : List α) (a : α) : Prop :=
  ∃ before after, xs = before ++ a :: after ∧ p a ∧ ∀ x ∈ before, ¬ p x

/-- The first memory item has a quantity, and the exponent of its units has so many digits. -/
def MemoryTooLong (hardware : HardwareSection) (count : Nat) : Prop :=
  ∃ item, IsFirst (fun item : Item => item.resourceType = some 4) hardware.items item ∧
    item.virtualQuantity ≠ none ∧ AllocationUnit.TooLong item.allocationUnits count

/-- The item leads to a file through a disk whose capacity is a number, and the exponent of its units has
so many digits. -/
def LeadsTooLong (disks : List Disk) (files : List FileReference) (item : Item) (count : Nat) : Prop :=
  ∃ id disk reference file n, item.Names id ∧ DiskOf disks id disk ∧ disk.fileRef = some reference ∧
    FileOf files reference file ∧ (Amount.ofText disk.capacity).natural = .ok n ∧
    AllocationUnit.TooLong disk.capacityUnits count

/-- The first disk item that is not joined leads to such a disk. -/
def DisksTooLong (d : Descriptor) (hardware : HardwareSection) (count : Nat) : Prop :=
  ∃ sec files before item after, d.diskSection = some sec ∧ d.files = some files ∧
    hardware.diskItems = before ++ item :: after ∧
    (∀ other ∈ before, ∃ info, Joins sec.disks files other info) ∧
    LeadsTooLong sec.disks files item count

variable {room : Nat} {d : Descriptor} {system : VirtualSystem} {hardware : HardwareSection} {fault : Fault}

/-! ### Numbers of a descriptor -/

theorem exists_readNatural {field : String} {text : Option String} {n : Int}
    (read : optionalNumber field text = .ok (some n)) :
    ∃ s m, Number.readNatural s = .ok m ∧ n = (m : Int) := by
  unfold optionalNumber at read
  split at read
  · cases read
  · split at read
    · cases read
    · split at read
      · next m isRead => exact ⟨_, m, isRead, (Option.some.inj (Except.ok.inj read)).symm⟩
      · cases read

theorem exists_readFrom {content : Content} (parsed : (Descriptor.parse room content).result = .ok d) :
    ∃ root, d.ReadFrom root := by
  cases isRoot : Xml.parse content with
  | error refusal =>
    unfold Descriptor.parse at parsed
    rw [isRoot] at parsed
    cases refusal <;> cases parsed
  | ok root =>
    rw [parse_result_of_root isRoot, treeOutcome_ok_iff, ofRoot_ok_iff] at parsed
    exact ⟨root, parsed⟩

theorem quantity_of_parse {content : Content} (parsed : (Descriptor.parse room content).result = .ok d)
    (isSystem : d.virtualSystem = some system) (isFirst : system.hardware.head? = some hardware)
    {item : Item} (member : item ∈ hardware.items) {n : Int} (quantity : item.virtualQuantity = some n) :
    ∃ s m, Number.readNatural s = .ok m ∧ n = (m : Int) := by
  obtain ⟨root, readFrom⟩ := exists_readFrom parsed
  have systems := readFrom.virtualSystem
  rw [isSystem] at systems
  obtain ⟨systemElement, -, readsSystem⟩ := exists_of_forall₂ systems (List.mem_singleton_self _)
  obtain ⟨hardwareElement, -, readsHardware⟩ :=
    exists_of_forall₂ readsSystem.hardware (List.mem_of_head? isFirst)
  obtain ⟨itemElement, -, readsItem⟩ := exists_of_forall₂ readsHardware.items member
  obtain ⟨text, -, read⟩ := readsItem.virtualQuantity
  exact exists_readNatural (quantity ▸ read)

theorem natural_of_parse {content : Content} (parsed : (Descriptor.parse room content).result = .ok d)
    (isSystem : d.virtualSystem = some system) (isFirst : system.hardware.head? = some hardware)
    {item : Item} (member : item ∈ hardware.items) {n : Int} (quantity : item.virtualQuantity = some n) :
    (Amount.number n).natural = .ok n.toNat := by
  obtain ⟨_, m, isRead, rfl⟩ := quantity_of_parse parsed isSystem isFirst member quantity
  exact Amount.natural_number (writable_of_readNatural isRead) (Int.natCast_nonneg m)

/-! ### Units and amounts -/

/-- A fault that is not of the input can only come from the exponent. -/
theorem read_other_iff {units : Option String} (other : fault.isInput = false) :
    AllocationUnit.read units = .error fault ↔
      ∃ count, AllocationUnit.TooLong units count ∧ fault = .number (.tooManyDigits count) := by
  constructor
  · intro refused
    rcases read_error refused with rfl | ⟨count, rfl⟩
    · cases other
    · exact ⟨count, AllocationUnit.read_tooManyDigits_iff.1 refused, rfl⟩
  · rintro ⟨count, tooLong, rfl⟩
    exact AllocationUnit.read_tooManyDigits_iff.2 tooLong

theorem quantityInMb_error_iff {n : Int} {units : Option String}
    (natural : (Amount.number n).natural = .ok n.toNat) :
    (quantityInMb (.number n) units).result = .error fault ↔ AllocationUnit.read units = .error fault := by
  unfold quantityInMb Amount.inUnitsOf Amount.counted
  rw [natural]
  simp only [Narrated.result_bind, Narrated.result_ofExcept]
  cases AllocationUnit.read units with
  | error cause => simp [Except.bind]
  | ok unit =>
    obtain ⟨scale, done⟩ := result_scaled n.toNat ((unit.exponent : Int) - 20)
    simp [Except.bind, done]

/-! ### Processors and memory -/

theorem itemsOf_eq_cons_iff (kind : ResourceKind) {item : Item} :
    (∃ rest, hardware.itemsOf kind = item :: rest) ↔
      IsFirst (fun item : Item => item.resourceType = some (kind.code : Int)) hardware.items item := by
  unfold HardwareSection.itemsOf IsFirst
  simp only [List.filter_eq_cons_iff, beq_iff_eq]
  constructor
  · rintro ⟨_, before, after, split, earlier, isKind, -⟩
    exact ⟨before, after, split, isKind, earlier⟩
  · rintro ⟨before, after, split, isKind, earlier⟩
    exact ⟨_, before, after, split, earlier, isKind, rfl⟩

theorem cpuCount_isInput (failed : (cpuCount (some hardware)).result = .error fault) :
    fault.isInput = true := by
  unfold cpuCount at failed
  dsimp only at failed
  split at failed
  · cases failed
    rfl
  · split at failed <;> cases failed
    rfl

theorem memoryTooLong_iff {count : Nat} : MemoryTooLong hardware count ↔
    ∃ item rest, hardware.itemsOf .memory = item :: rest ∧ item.virtualQuantity ≠ none ∧
      AllocationUnit.TooLong item.allocationUnits count := by
  constructor
  · rintro ⟨item, isFirst, quantity, tooLong⟩
    obtain ⟨rest, items⟩ := (itemsOf_eq_cons_iff .memory).2 isFirst
    exact ⟨item, rest, items, quantity, tooLong⟩
  · rintro ⟨item, rest, items, quantity, tooLong⟩
    exact ⟨item, (itemsOf_eq_cons_iff .memory).1 ⟨rest, items⟩, quantity, tooLong⟩

theorem memoryInMb_other_iff (natural : ∀ item ∈ hardware.items, ∀ n, item.virtualQuantity = some n →
      (Amount.number n).natural = .ok n.toNat) (other : fault.isInput = false) : (memoryInMb (some hardware)).result = .error fault ↔
      ∃ count, MemoryTooLong hardware count ∧ fault = .number (.tooManyDigits count) := by
  unfold memoryInMb
  simp only [memoryTooLong_iff]
  cases items : hardware.itemsOf .memory with
  | nil =>
    constructor
    · intro failed
      cases failed
      cases other
    · rintro ⟨_, ⟨_, _, none, _⟩, _⟩
      cases none
  | cons item rest =>
    dsimp only
    -- Only the first item counts on either side.
    have first (P : Item → Prop) : (∃ other more, item :: rest = other :: more ∧ P other) ↔ P item := by
      simp
    simp only [first]
    cases quantity : item.virtualQuantity with
    | none =>
      constructor
      · intro failed
        cases failed
        cases other
      · rintro ⟨_, ⟨some, _⟩, _⟩
        exact absurd rfl some
    | some n =>
      have member : item ∈ hardware.items := List.mem_of_mem_filter (items ▸ List.mem_cons_self)
      have failed_iff : (quantityInMb (.number n) item.allocationUnits).result = .error fault ↔
          ∃ count, AllocationUnit.TooLong item.allocationUnits count ∧ fault = .number (.tooManyDigits count) := by
        rw [quantityInMb_error_iff (natural item member n quantity), read_other_iff other]
      rw [Narrated.result_bind, bind_error_iff]
      simp only [Narrated.result_log_bind, Narrated.result_pure, reduceCtorEq, and_false, exists_false, or_false,
        failed_iff, ne_eq, not_false_eq_true, true_and]

/-! ### Disks -/

theorem unjoined_other_iff {disks : List Disk} {files : List FileReference} {item : Item}
    (other : fault.isInput = false) : Unjoined disks files item fault ↔
      ∃ count, LeadsTooLong disks files item count ∧ fault = .number (.tooManyDigits count) := by
  constructor
  · intro unjoined
    cases unjoined with
    | units named found refers stored counted refused =>
      obtain ⟨count, tooLong, isNumber⟩ := (read_other_iff other).1 refused
      exact ⟨count, ⟨_, _, _, _, _, named, found, refers, stored, counted, tooLong⟩, isNumber⟩
    | _ => cases other
  · rintro ⟨count, ⟨_, _, _, _, _, named, found, refers, stored, counted, tooLong⟩, rfl⟩
    exact .units named found refers stored counted (AllocationUnit.read_tooManyDigits_iff.2 tooLong)

theorem isDefect_of_other (other : fault.isInput = false) : fault.isDefect = false := by
  cases fault with
  | defect _ => cases other
  | _ => rfl

/-- Without a section of disks or a list of files the fault is one of the descriptor. -/
theorem sections_of_noDefect {sec : Option DiskSection} {files : Option (List FileReference)}
    (failed : (diskInfos (some hardware) sec files).result = .error fault) (noDefect : fault.isDefect = false) :
    ∃ disks listing, sec = some disks ∧ files = some listing := by
  unfold diskInfos at failed
  dsimp only at failed
  split at failed
  · cases failed
    cases noDefect
  · next someDisks =>
    cases sec with
    | none => exact absurd rfl someDisks
    | some disks =>
      cases files with
      | none =>
        cases failed
        cases noDefect
      | some listing => exact ⟨disks, listing, rfl, rfl⟩

theorem diskInfos_other_iff (other : fault.isInput = false) :
    (diskInfos (some hardware) d.diskSection d.files).result = .error fault ↔
      ∃ count, DisksTooLong d hardware count ∧ fault = .number (.tooManyDigits count) := by
  constructor
  · intro failed
    obtain ⟨sec, files, isSection, isFiles⟩ := sections_of_noDefect failed (isDefect_of_other other)
    rw [isSection, isFiles, diskInfos_error_iff] at failed
    cases failed with
    | item _ split earlier first =>
      obtain ⟨count, tooLong, isNumber⟩ := (unjoined_other_iff other).1 first
      exact ⟨count, ⟨sec, files, _, _, _, isSection, isFiles, split, earlier, tooLong⟩, isNumber⟩
    | _ => cases other
  · rintro ⟨count, ⟨sec, files, before, item, after, isSection, isFiles, split, earlier, tooLong⟩, isNumber⟩
    have someDisks : sec.disks ≠ [] := by
      obtain ⟨_, _, _, _, _, _, ⟨front, back, shape, -⟩, -⟩ := tooLong
      simp [shape]
    rw [isSection, isFiles, diskInfos_error_iff]
    exact .item someDisks split earlier ((unjoined_other_iff other).2 ⟨count, tooLong, isNumber⟩)

/-- Resolving what is in a descriptor ends with faults of the input only, whatever its texts are, unless
the exponent of a unit that is needed has more digits than can be read. -/
theorem resolution_faults {content : Content} (parsed : (Descriptor.parse room content).result = .ok d)
    (isSystem : d.virtualSystem = some system) (isFirst : system.hardware.head? = some hardware) :
    (∀ fault, (cpuCount (some hardware)).result = .error fault → fault.isInput = true) ∧
    (∀ fault, fault.isInput = false → ((memoryInMb (some hardware)).result = .error fault ↔
      ∃ count, MemoryTooLong hardware count ∧ fault = .number (.tooManyDigits count))) ∧
    ∀ fault, fault.isInput = false →
      ((diskInfos (some hardware) d.diskSection d.files).result = .error fault ↔
        ∃ count, DisksTooLong d hardware count ∧ fault = .number (.tooManyDigits count)) := by
  refine ⟨fun _ => cpuCount_isInput, fun _ => memoryInMb_other_iff ?_, fun _ => diskInfos_other_iff⟩
  intro item member n quantity
  exact natural_of_parse parsed isSystem isFirst member quantity

def kibibyteDocument : List Char :=
  ["<E><VirtualSystem><VirtualHardwareSection>", "<Item><ResourceType>4</ResourceType>",
    "<VirtualQuantity>1</VirtualQuantity>", "<AllocationUnits>byte*2^10</AllocationUnits></Item>",
    "</VirtualHardwareSection></VirtualSystem></E>"].flatMap String.toList

/-- Hardware with one unit of memory. -/
def memoryOf (units : List Char) : HardwareSection :=
  ⟨[{ resourceType := some 4, virtualQuantity := some 1, allocationUnits := some (String.ofList units) }]⟩

theorem memoryTooLong_of_digits {count : Nat} (long : Number.maxDigits < count) :
    MemoryTooLong (memoryOf ("byte*2^".toList ++ List.replicate count '9')) count := by
  refine ⟨_, ⟨[], [], rfl, rfl, by simp⟩, by simp, List.replicate count '9', ?_, List.length_replicate, long⟩
  refine ⟨"byte".toList, [], [], [], [], [], [], ?_, by simp, by decide, ?_, ?_⟩
  · rw [Option.getD_some, String.toList_ofList]
    simp
  · rw [Ne, List.replicate_eq_nil_iff]
    omega
  · intro c member
    rw [List.eq_of_mem_replicate member]
    decide

theorem not_tooLong {units : Option String} {digits : List Char}
    (isExponent : AllocationUnit.exponentDigits? (units.getD "").toList = some digits)
    (short : digits.length ≤ Number.maxDigits) (count : Nat) : ¬ AllocationUnit.TooLong units count := by
  rintro ⟨digits', spelled, rfl, long⟩
  rw [← AllocationUnit.exponentDigits?_iff, isExponent] at spelled
  obtain rfl := Option.some.inj spelled
  exact Nat.not_lt.2 short long

/-- A unit that is not supported is a fault of the input, and one with too many digits is not. -/
theorem resolution_faults_kibibytes :
    (∃ fault, (memoryInMb (some (memoryOf "byte*2^10".toList))).result = .error fault ∧
      fault.isInput = true) ∧
    (memoryInMb (some (memoryOf ("byte*2^".toList ++ List.replicate 4301 '9')))).result =
      .error (.number (.tooManyDigits 4301)) := by
  constructor
  · have parsed : (Descriptor.parse 900 (.bytes (Xml.encodeUtf8 kibibyteDocument))).result =
        .ok { virtualSystem := some { hardware := [memoryOf "byte*2^10".toList] } } :=
      Package.parse_of_formed (by decide +kernel) (by decide +kernel) (by decide +kernel) (by decide +kernel)
    have failed : (memoryInMb (some (memoryOf "byte*2^10".toList))).result.toOption = none := by
      decide +kernel
    cases result : (memoryInMb (some (memoryOf "byte*2^10".toList))).result with
    | ok n =>
      rw [result] at failed
      cases failed
    | error fault =>
      refine ⟨fault, rfl, ?_⟩
      by_contra other
      rw [Bool.not_eq_true] at other
      obtain ⟨count, tooLong, -⟩ := ((resolution_faults parsed rfl rfl).2.1 fault other).1 result
      obtain ⟨item, rest, items, -, tooLong⟩ := memoryTooLong_iff.1 tooLong
      obtain ⟨rfl, -⟩ := List.cons.inj items
      have ten : AllocationUnit.exponentDigits? ((some (String.ofList "byte*2^10".toList)).getD "").toList =
          some ['1', '0'] := by decide +kernel
      exact not_tooLong ten (by decide) count tooLong
  · rw [memoryInMb_other_iff _ rfl]
    · exact ⟨4301, memoryTooLong_of_digits (by decide), rfl⟩
    · intro item member n quantity
      obtain rfl := List.mem_singleton.1 member
      obtain rfl := Option.some.inj quantity
      exact Amount.natural_number (by decide +kernel) (by decide)

end OvfInspect
