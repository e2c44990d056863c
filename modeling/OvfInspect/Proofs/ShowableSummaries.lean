import OvfInspect.Proofs.LoadingCalls
import OvfInspect.Proofs.ResolutionFaults
import OvfInspect.Proofs.SizeBounds
import OvfInspect.Proofs.Summaries

/-!
# Summaries that can be made

A summary can be made of most descriptors, but not of all. `summary_made_iff` says for which: the units
that are read and the numbers that are shown have few enough digits, and in full detail every file has an
identifier and a size for which there is a unit.
-/

namespace OvfInspect

open Storage Storage.Path Xml Reading

namespace Package

/-! ### What is known of the hardware -/

/-- Something with a property is known, or nothing is, unless there is a fault that is not of the input. -/
theorem exists_known_iff {α : Type} {x : Narrated Fault α} {operation : String} (P : α → Prop) :
    (∃ known, (ifKnown operation x).result = .ok known ∧ ∀ a, known = some a → P a) ↔
      (∀ fault, x.result = .error fault → fault.isInput = true) ∧ ∀ a, x.result = .ok a → P a := by
  simp only [ifKnown_ok_iff]
  cases x.result with
  | ok a => simp
  | error fault => simp

variable {room : Nat} {tree : FileTree} {client : Client} {package : String} {d : Descriptor} {detail : Detail}
  {hardware : HardwareSection} {known : Facts}

theorem facts_of_no_hardware {fault : Fault} (failed : (descriptorHardware (some d)).result = .error fault) :
    (facts package d).result = .ok {} := by
  have isDefect : fault.isDefect = true := (quiet_descriptorHardware d).faulty fault failed
  have attempted : ((descriptorHardware (some d)).attempt : Narrated Fault _).result = .ok (.error fault) :=
    congrArg Except.ok failed
  unfold facts
  rw [Narrated.result_bind, attempted]
  dsimp only [Except.bind]
  rw [if_pos isDefect]
  rfl

/-! ### Lines that can be made -/

theorem exists_written_iff {n : Int} : (∃ text, written n = .ok text) ↔ Number.writable n = true := by
  unfold written
  split <;> simp_all

theorem factLines_ok_iff : (∃ about, factLines known = .ok about) ↔
    (∀ n, known.cpus = some n → Number.writable n = true) ∧
      ∀ n : Nat, known.memoryInMb = some n → Number.writable n = true := by
  have cpus : (∃ text, shownCpus known = .ok text) ↔
      ∀ n, known.cpus = some n → Number.writable n = true := by
    unfold shownCpus
    cases known.cpus <;> simp [exists_written_iff]
  have memory : (∃ text, shownMemory known = .ok text) ↔
      ∀ n : Nat, known.memoryInMb = some n → Number.writable n = true := by
    unfold shownMemory
    cases known.memoryInMb <;> simp [map_ok_iff, exists_written_iff]
  rw [← cpus, ← memory]
  simp only [factLines_eq, bind_ok_iff]
  constructor
  · rintro ⟨_, text, isText, text', isText', -⟩
    exact ⟨⟨text, isText⟩, text', isText'⟩
  · rintro ⟨⟨text, isText⟩, text', isText'⟩
    exact ⟨_, text, isText, text', isText', rfl⟩

/-- The client joins all names. -/
def JoinsAll (client : Client) : Prop :=
  ∀ base name, ∃ location, (client.join base name).result = .ok location

theorem joinsAll_directory (tree : FileTree) : JoinsAll (Directory.client tree) := by
  intro base name
  exact ⟨_, Directory.join_ok_iff.2
    ⟨_, Narrated.bind_ok_iff.2 ⟨_, result_absolutePath tree base, rfl⟩, rfl⟩⟩

theorem joinsAll_archive (tree : FileTree) : JoinsAll (Archive.client tree) := by
  intro base name
  exact ⟨_, Archive.join_ok_iff.2 ⟨_, result_absolutePath tree base, rfl⟩⟩

theorem diskLines_ok_iff (joins : JoinsAll client) {width : Nat} {disk : DiskInfo}
    (located : disk.location ≠ none) :
    (∃ lines, (diskLines client package detail width disk).result = .ok lines) ↔
      Number.writable disk.sizeInGb = true := by
  obtain ⟨location, isLocation⟩ := Option.ne_none_iff_exists'.1 located
  have found : diskLocation disk = .ok location := by
    unfold diskLocation
    rw [isLocation]
  obtain ⟨path, joined⟩ := joins package location
  rw [← exists_written_iff]
  unfold diskLines
  simp only [Narrated.bind_ok_iff, Narrated.result_ofExcept, found]
  constructor
  · rintro ⟨_, _, -, size, isSize, -⟩
    exact ⟨size, isSize⟩
  · rintro ⟨size, isSize⟩
    by_cases isFull : detail = .full
    · simp only [if_pos isFull, Narrated.bind_ok_iff, Narrated.pure_ok_iff]
      exact ⟨_, location, rfl, size, isSize, path, joined, rfl⟩
    · simp only [if_neg isFull, Narrated.pure_ok_iff]
      exact ⟨_, location, rfl, size, isSize, rfl⟩

theorem disksLines_ok_iff (joins : JoinsAll client)
    (located : ∀ disks, known.disks = some disks → ∀ disk ∈ disks, disk.location ≠ none) :
    (∃ lines, (disksLines client package detail known).result = .ok lines) ↔
      ∀ disks, known.disks = some disks → detail ≠ .brief →
        ∀ disk ∈ disks, Number.writable disk.sizeInGb = true := by
  unfold disksLines
  cases isKnown : known.disks with
  | none => simp
  | some disks =>
    dsimp only
    by_cases isBrief : detail = .brief
    · simp [isBrief]
    · have located := located disks isKnown
      have found : ∃ locations, disks.mapM diskLocation = .ok locations := by
        simp only [mapM_ok_iff, exists_forall₂_iff]
        intro disk member
        obtain ⟨location, isLocation⟩ := Option.ne_none_iff_exists'.1 (located disk member)
        refine ⟨location, ?_⟩
        unfold diskLocation
        rw [isLocation]
      obtain ⟨locations, found⟩ := found
      have each (width : Nat) :
          (∃ lines, (disks.mapM (diskLines client package detail width)).result = .ok lines) ↔
          ∀ disk ∈ disks, Number.writable disk.sizeInGb = true := by
        simp only [Narrated.result_mapM, mapM_ok_iff, exists_forall₂_iff]
        exact forall₂_congr fun disk member => diskLines_ok_iff joins (located disk member)
      rw [if_neg isBrief]
      simp only [Narrated.bind_ok_iff, Narrated.result_ofExcept, found, Narrated.pure_ok_iff]
      constructor
      · rintro ⟨_, _, -, entries, made, -⟩ disks' same -
        obtain rfl := Option.some.inj same
        exact (each _).1 ⟨entries, made⟩
      · intro writable
        obtain ⟨entries, made⟩ := (each _).2 (writable disks rfl isBrief)
        exact ⟨_, locations, rfl, entries, made, rfl⟩

/-- The file has an identifier and a size, if any, for which there is a unit. -/
structure Listable (file : FileReference) : Prop where
  identified : file.id ≠ none
  counted : ∀ n, file.size = some n → n < Number.beyondUnits

theorem fileLine_ok_iff {file : FileReference} (located : file.href ≠ none)
    (nonneg : ∀ n, file.size = some n → 0 ≤ n) : (∃ line, fileLine file = .ok line) ↔ Listable file := by
  have size : (∃ text, shownSize file = .ok text) ↔ ∀ n, file.size = some n → n < Number.beyondUnits := by
    unfold shownSize
    cases isSize : file.size with
    | none => simp
    | some n =>
      obtain ⟨m, rfl⟩ := Int.eq_ofNat_of_zero_le (nonneg n isSize)
      simp only [mapError_ok_iff, Option.some.injEq, forall_eq', Nat.cast_lt, Int.cast_natCast]
      exact Size.render_ok_iff m
  obtain ⟨href, isHref⟩ := Option.ne_none_iff_exists'.1 located
  rw [fileLine_eq, isHref]
  simp only [bind_ok_iff]
  cases isId : file.id with
  | none =>
    refine iff_of_false ?_ fun listable => listable.identified isId
    rintro ⟨_, _, -, made⟩
    cases made
  | some id =>
    constructor
    · rintro ⟨_, text, isText, -⟩
      exact ⟨by simp [isId], size.1 ⟨text, isText⟩⟩
    · intro listable
      obtain ⟨text, isText⟩ := size.2 listable.counted
      exact ⟨_, text, isText, rfl⟩

theorem fileLines_ok_iff (located : ∀ file ∈ listed d, file.href ≠ none)
    (nonneg : ∀ file ∈ listed d, ∀ n, file.size = some n → 0 ≤ n) :
    (∃ lines, fileLines detail d = .ok lines) ↔ (detail = .full → ∀ file ∈ listed d, Listable file) := by
  have each (files : List FileReference) (same : listed d = files) :
      (∃ lines, files.mapM fileLine = .ok lines) ↔ ∀ file ∈ files, Listable file := by
    subst same
    simp only [mapM_ok_iff, exists_forall₂_iff]
    exact forall₂_congr fun file member => fileLine_ok_iff (located file member) (nonneg file member)
  unfold fileLines
  by_cases isFull : detail = .full
  · subst isFull
    cases isFiles : d.files with
    | none =>
      have nothing : listed d = [] := by
        rw [listed, isFiles]
        rfl
      simp [nothing]
    | some files =>
      have same : listed d = files := by
        rw [listed, isFiles]
        rfl
      have entries := each files same
      rw [same, ← entries]
      constructor
      · rintro ⟨_, made⟩ -
        obtain ⟨lines, made, -⟩ := bind_ok_iff.1 made
        exact ⟨lines, made⟩
      · intro made
        obtain ⟨lines, made⟩ := made rfl
        exact ⟨_, bind_ok_iff.2 ⟨lines, made, rfl⟩⟩
  · refine iff_of_true ⟨[], ?_⟩ fun same => absurd same isFull
    split
    · exact absurd rfl isFull
    · rfl

/-- The facts are known, and the lines about them can be made. -/
def ShowsFacts (client : Client) (package : String) (detail : Detail) (x : Narrated Fault Facts) : Prop :=
  ∃ known, x.result = .ok known ∧ (∃ about, factLines known = .ok about) ∧
    ∃ disks, (disksLines client package detail known).result = .ok disks

theorem summary_ok_iff {columns : Int} :
    (∃ text, (summary client columns detail package d).result = .ok text) ↔
    ShowsFacts client package detail (facts package d) ∧ ∃ files, fileLines detail d = .ok files := by
  constructor
  · rintro ⟨text, made⟩
    obtain ⟨known, about, disks, files, isKnown, isAbout, areDisks, areFiles, -⟩ := summary_ok made
    exact ⟨⟨known, isKnown, ⟨about, isAbout⟩, disks, areDisks⟩, files, areFiles⟩
  · rintro ⟨⟨known, isKnown, ⟨about, isAbout⟩, disks, areDisks⟩, files, areFiles⟩
    unfold summary summaryLines
    simp only [Narrated.bind_ok_iff, Narrated.pure_ok_iff, Narrated.result_ofExcept]
    exact ⟨_, _, ⟨known, isKnown, about, isAbout, disks, areDisks, files, areFiles, rfl⟩, rfl⟩

/-! ### Summaries of what was read -/

/-- What is needed of the first hardware section: the units and numbers of its memory and disks have few enough
digits. The sizes of disks are not shown in a brief summary. -/
structure Resolvable (detail : Detail) (d : Descriptor) (hardware : HardwareSection) : Prop where
  memory : ∀ count, ¬ MemoryTooLong hardware count
  megabytes : ∀ n : Nat, (memoryInMb (some hardware)).result = .ok n → Number.writable n = true
  disks : ∀ count, ¬ DisksTooLong d hardware count
  gigabytes : ∀ infos, (diskInfos (some hardware) d.diskSection d.files).result = .ok infos →
    detail ≠ .brief → ∀ info ∈ infos, Number.writable info.sizeInGb = true

/-- Nothing keeps the descriptor from being shown. -/
structure Showable (detail : Detail) (d : Descriptor) : Prop where
  hardware : ∀ system hardware, d.virtualSystem = some system → system.hardware.head? = some hardware →
    Resolvable detail d hardware
  files : detail = .full → ∀ file ∈ listed d, Listable file

theorem inputOnly_iff {α : Type} {x : Narrated Fault α} {TooLong : Nat → Prop}
    (others : ∀ fault, fault.isInput = false → (x.result = .error fault ↔
      ∃ count, TooLong count ∧ fault = .number (.tooManyDigits count))) :
    (∀ fault, x.result = .error fault → fault.isInput = true) ↔ ∀ count, ¬ TooLong count := by
  constructor
  · intro isInput count tooLong
    cases isInput _ ((others _ rfl).2 ⟨count, tooLong, rfl⟩)
  · intro short fault failed
    by_contra notInput
    obtain ⟨count, tooLong, -⟩ := (others fault (Bool.not_eq_true _ ▸ notInput)).1 failed
    exact short count tooLong

theorem cpuCount_ok {n : Int} (counted : (cpuCount (some hardware)).result = .ok n) :
    ∃ item ∈ hardware.items, item.virtualQuantity = some n := by
  unfold cpuCount at counted
  dsimp only at counted
  split at counted
  · cases counted
  · next item rest items =>
    split at counted
    · cases counted
    · next m quantity =>
      obtain rfl := Except.ok.inj counted
      exact ⟨item, List.mem_of_mem_filter (items ▸ List.mem_cons_self), quantity⟩

theorem factsOf_shown_iff (located : ∀ file ∈ listed d, file.href ≠ none) (joins : JoinsAll client) :
    ShowsFacts client package detail (factsOf d hardware) ↔
    (∃ known, (ifKnown "get_number_of_cpus" (cpuCount (some hardware))).result = .ok known ∧
      ∀ n, known = some n → Number.writable n = true) ∧
    (∃ known, (ifKnown "get_memory_in_mb" (memoryInMb (some hardware))).result = .ok known ∧
      ∀ n : Nat, known = some n → Number.writable n = true) ∧
    ∃ known, (ifKnown "get_disk_infos" (diskInfos (some hardware) d.diskSection d.files)).result = .ok known ∧
      ∀ infos, known = some infos → detail ≠ .brief →
        ∀ info ∈ infos, Number.writable info.sizeInGb = true := by
  have found {known : Facts} (areDisks : (ifKnown "get_disk_infos"
      (diskInfos (some hardware) d.diskSection d.files)).result = .ok known.disks) :
      ∀ disks, known.disks = some disks → ∀ disk ∈ disks, disk.location ≠ none := by
    intro disks isKnown disk member
    rw [isKnown] at areDisks
    rcases ifKnown_ok_iff.1 areDisks with ⟨infos, joined, same⟩ | ⟨_, _, _, none⟩
    · obtain rfl := Option.some.inj same
      obtain ⟨file, isListed, location⟩ := diskInfos_location joined member
      rw [location]
      exact located file isListed
    · cases none
  constructor
  · rintro ⟨known, isKnown, about, disks⟩
    obtain ⟨areCpus, isMemory, areDisks⟩ := factsOf_ok_iff.1 isKnown
    obtain ⟨cpus, memory⟩ := factLines_ok_iff.1 about
    exact ⟨⟨_, areCpus, cpus⟩, ⟨_, isMemory, memory⟩, _, areDisks,
      (disksLines_ok_iff joins (found areDisks)).1 disks⟩
  · rintro ⟨⟨cpus, areCpus, cpusShown⟩, ⟨memory, isMemory, memoryShown⟩, disks, areDisks, disksShown⟩
    exact ⟨⟨cpus, memory, disks⟩, factsOf_ok_iff.2 ⟨areCpus, isMemory, areDisks⟩,
      factLines_ok_iff.2 ⟨cpusShown, memoryShown⟩,
      (disksLines_ok_iff joins (@found ⟨cpus, memory, disks⟩ areDisks)).2 disksShown⟩

theorem resolvable_iff {content : Content} {system : VirtualSystem}
    (parsed : (Descriptor.parse room content).result = .ok d) (isSystem : d.virtualSystem = some system)
    (isFirst : system.hardware.head? = some hardware) (located : ∀ file ∈ listed d, file.href ≠ none)
    (joins : JoinsAll client) :
    ShowsFacts client package detail (factsOf d hardware) ↔ Resolvable detail d hardware := by
  have cpus : ∀ n, (cpuCount (some hardware)).result = .ok n → Number.writable n = true := by
    intro n counted
    obtain ⟨item, member, quantity⟩ := cpuCount_ok counted
    obtain ⟨s, m, isRead, rfl⟩ := quantity_of_parse parsed isSystem isFirst member quantity
    exact writable_of_readNatural isRead
  have memory := inputOnly_iff fun fault => @memoryInMb_other_iff hardware fault
    fun item member n quantity => natural_of_parse parsed isSystem isFirst member quantity
  have disks := inputOnly_iff fun fault => @diskInfos_other_iff d hardware fault
  rw [factsOf_shown_iff located joins, exists_known_iff, exists_known_iff, exists_known_iff, memory, disks]
  constructor
  · rintro ⟨-, ⟨short, megabytes⟩, short', gigabytes⟩
    exact ⟨short, megabytes, short', gigabytes⟩
  · rintro ⟨short, megabytes, short', gigabytes⟩
    exact ⟨⟨fun _ => cpuCount_isInput, cpus⟩, ⟨short, megabytes⟩, short', gigabytes⟩

theorem size_of_parse {content : Content} (parsed : (Descriptor.parse room content).result = .ok d)
    {file : FileReference} (isListed : file ∈ listed d) {n : Int} (size : file.size = some n) : 0 ≤ n := by
  obtain ⟨root, readFrom⟩ := exists_readFrom parsed
  unfold listed Descriptor.files at isListed
  cases isReferences : d.references with
  | none =>
    rw [isReferences] at isListed
    cases isListed
  | some references =>
    have sections := readFrom.references
    rw [isReferences] at isListed sections
    obtain ⟨element, -, reads⟩ := exists_of_forall₂ sections (List.mem_singleton_self _)
    obtain ⟨child, -, readsFile⟩ := exists_of_forall₂ reads.files isListed
    obtain ⟨_, m, -, rfl⟩ := exists_readNatural (size ▸ readsFile.size)
    exact Int.natCast_nonneg m

/-- A summary of a descriptor that was read, whose files all have a location, can be made for a local package
just if the descriptor is showable. -/
theorem summary_made_iff {content : Content} (parsed : (Descriptor.parse room content).result = .ok d)
    (located : ∀ file ∈ listed d, file.href ≠ none)
    (isLocal : client = Directory.client tree ∨ client = Archive.client tree) (columns : Int) (detail : Detail)
    (package : String) :
    (∃ text, (summary client columns detail package d).result = .ok text) ↔ Showable detail d := by
  have joins : JoinsAll client := by
    rcases isLocal with rfl | rfl
    · exact joinsAll_directory tree
    · exact joinsAll_archive tree
  have files := @fileLines_ok_iff d detail located fun file isListed n size => size_of_parse parsed isListed size
  rw [summary_ok_iff, files]
  cases isHardware : (descriptorHardware (some d)).result with
  | ok hardware =>
    obtain ⟨system, isSystem, isFirst⟩ := descriptorHardware_ok isHardware
    have known : ShowsFacts client package detail (facts package d) ↔ Resolvable detail d hardware := by
      unfold ShowsFacts
      rw [facts_of_hardware isHardware]
      exact resolvable_iff parsed isSystem isFirst located joins
    rw [known]
    constructor
    · rintro ⟨resolvable, listable⟩
      refine ⟨fun system' hardware' isSystem' isFirst' => ?_, listable⟩
      obtain rfl := Option.some.inj (isSystem.symm.trans isSystem')
      obtain rfl := Option.some.inj (isFirst.symm.trans isFirst')
      exact resolvable
    · intro showable
      exact ⟨showable.hardware system hardware isSystem isFirst, showable.files⟩
  | error fault =>
    have nothing : ShowsFacts client package detail (facts package d) :=
      ⟨{}, facts_of_no_hardware isHardware, ⟨_, rfl⟩, _, rfl⟩
    refine ⟨fun ⟨_, listable⟩ => ⟨fun system hardware isSystem isFirst => ?_, listable⟩,
      fun showable => ⟨nothing, showable.files⟩⟩
    cases isHardware.symm.trans (descriptorHardware_ok_iff.2 ⟨system, isSystem, isFirst⟩)

/-- A document that lists one file, with such attributes besides its location. -/
def fileDocument (attributes : String) : List UInt8 :=
  encodeUtf8 ("<E><References><File href='a' ".toList ++ attributes.toList ++ "/></References></E>".toList)

def fileDescriptor (id : Option String) (size : Option Int) : Descriptor where
  references := some ⟨none, none, [⟨id, some "a", size⟩]⟩

/-- In full detail a file without an identifier is not shown, and the largest size that is shown ends just below
the first that has no unit. -/
theorem summary_made_iff_file :
    let made (detail : Detail) (d : Descriptor) : Prop := ∃ text,
      (summary (Directory.client ⟨[], []⟩) 80 detail "p.ovf" d).result = .ok text
    (¬ made .full (fileDescriptor none none) ∧ made .standard (fileDescriptor none none)) ∧
    ¬ made .full (fileDescriptor (some "f") (some 1237940039285380206179647488)) ∧
    made .full (fileDescriptor (some "f") (some 1237940039285380206179647487)) := by
  intro made
  have iff {attributes : String} {id : Option String} {size : Option Int}
      (parsed : (Descriptor.parse 900 (.bytes (fileDocument attributes))).result = .ok (fileDescriptor id size))
      (detail : Detail) : made detail (fileDescriptor id size) ↔ Showable detail (fileDescriptor id size) :=
    summary_made_iff parsed (List.forall_mem_singleton.2 (Option.some_ne_none "a")) (.inl rfl) 80 detail "p.ovf"
  have nameless : (Descriptor.parse 900 (.bytes (fileDocument ""))).result = .ok (fileDescriptor none none) :=
    parse_of_formed (by decide +kernel) (by decide +kernel) (by decide +kernel) (by decide +kernel)
  have huge : (Descriptor.parse 900 (.bytes (fileDocument "id='f' size='1237940039285380206179647488'"))).result =
      .ok (fileDescriptor (some "f") (some 1237940039285380206179647488)) :=
    parse_of_formed (by decide +kernel) (by decide +kernel) (by decide +kernel) (by decide +kernel)
  have large : (Descriptor.parse 900 (.bytes (fileDocument "id='f' size='1237940039285380206179647487'"))).result =
      .ok (fileDescriptor (some "f") (some 1237940039285380206179647487)) :=
    parse_of_formed (by decide +kernel) (by decide +kernel) (by decide +kernel) (by decide +kernel)
  rw [iff nameless, iff nameless, iff huge, iff large]
  refine ⟨⟨fun showable => ?_, nofun, nofun⟩, fun showable => ?_, nofun, fun _ => ?_⟩
  · exact (showable.files rfl _ (List.mem_singleton_self _)).identified rfl
  · have counted := (showable.files rfl _ (List.mem_singleton_self _)).counted _ rfl
    exact absurd counted (by decide)
  · refine List.forall_mem_singleton.2 ⟨nofun, fun n isSize => ?_⟩
    obtain rfl := Option.some.inj isSize
    decide

end Package

end OvfInspect
