import OvfInspect.Command.Run
import OvfInspect.Proofs.StorageFaults

/-!
# Listing disks

The disks of a package are resolved quietly, and only then printed line by line. `printDisks_listing`
says what is printed in each case, and with which faults it can end.
-/

namespace OvfInspect

open Storage

variable {world : World} {package : String} {client : Client}

/-! ### Faults of a package -/

namespace Package

/-- The document of the package is read as this descriptor. -/
def Describes (room : Nat) (client : Client) (package : String) (d : Descriptor) : Prop :=
  ∃ handle content, (client.find package (some descriptorSuffix)).result = .ok handle ∧
    (client.read handle).result = .ok content ∧ (Descriptor.parse room content).result = .ok d

theorem Describes.result_load {room : Nat} {d : Descriptor} (h : Describes room client package d) :
    (load room client package).result = (validate client (some d) package).result := by
  obtain ⟨handle, content, found, isRead, parsed⟩ := h
  rw [Package.result_load, found, Except.bind, isRead, Except.bind, parsed]
  rfl

/-- A call of storage ends with the fault when the package is opened, its document is looked up or read,
or a listed file is looked up. That such a file is not there is none of these faults. -/
inductive Stops (world : World) (package : String) : Fault → Prop
  | opening {fault : Fault} (failed : (world.openPackage package).result = .error fault) :
      Stops world package fault
  | finding {client : Client} {fault : Fault} (opened : (world.openPackage package).result = .ok client)
      (failed : (client.find package (some descriptorSuffix)).result = .error fault) :
      Stops world package fault
  | reading {client : Client} {handle : Handle} {fault : Fault}
      (opened : (world.openPackage package).result = .ok client)
      (found : (client.find package (some descriptorSuffix)).result = .ok handle)
      (failed : (client.read handle).result = .error fault) : Stops world package fault
  | checking {client : Client} {d : Descriptor} {file : FileReference} {fault : Fault}
      (opened : (world.openPackage package).result = .ok client)
      (described : Describes world.room client package d) (isListed : file ∈ listed d)
      (failed : (client.find package file.href).result = .error fault)
      (other : fault.isStorage = false) : Stops world package fault

/-- What makes a package invalid: it does not exist, its document is malformed, a file of it is missing,
there is no hardware, or the disks cannot be joined. -/
inductive Invalid (world : World) (package : String) : Fault → Prop
  | missing (isLocal : isRemote package = false) (absent : world.files.exists? package = false) :
      Invalid world package (.input (.packageMissing package))
  | malformed {client : Client} {handle : Handle} {content : Xml.Content} {cause : Malformed}
      (opened : (world.openPackage package).result = .ok client)
      (found : (client.find package (some descriptorSuffix)).result = .ok handle)
      (isRead : (client.read handle).result = .ok content)
      (failed : (Descriptor.parse world.room content).result = .error (.defect (.malformed cause))) :
      Invalid world package (.defect (.malformed cause))
  | incomplete {client : Client} {d : Descriptor} {file : FileReference} {failure : Failure}
      (opened : (world.openPackage package).result = .ok client)
      (described : Describes world.room client package d) (isListed : file ∈ listed d)
      (notFound : (client.find package file.href).result = .error (.storage failure)) :
      Invalid world package (.defect (.notInPackage file.href package failure))
  | noHardware {client : Client} {d : Descriptor} {fault : Fault}
      (opened : (world.openPackage package).result = .ok client)
      (loaded : (load world.room client package).result = .ok d)
      (failed : (descriptorHardware (some d)).result = .error fault) : Invalid world package fault
  | unjoined {client : Client} {d : Descriptor} {hardware : HardwareSection} {fault : Fault}
      (opened : (world.openPackage package).result = .ok client)
      (loaded : (load world.room client package).result = .ok d)
      (isHardware : (descriptorHardware (some d)).result = .ok hardware)
      (failed : (diskInfos (some hardware) d.diskSection d.files).result = .error fault)
      (isInput : fault.isInput = true) : Invalid world package fault

theorem Invalid.isInput {fault : Fault} (h : Invalid world package fault) : fault.isInput = true := by
  cases h with
  | noHardware _ _ failed => exact Fault.isInput_of_isDefect ((quiet_descriptorHardware _).faulty fault failed)
  | unjoined _ _ _ _ isInput => exact isInput
  | _ => rfl

/-- A fault that is neither the input's nor one of storage: a listed file has no location, the document
has an encoding that cannot be read or several sections with no room to show them, the exponent of some units
has too many digits, links lead round in a circle, or the working directory cannot be spelled. -/
inductive Unforeseen (world : World) (package : String) : Fault → Prop
  | unnamed {client : Client} {d : Descriptor} {file : FileReference}
      (opened : (world.openPackage package).result = .ok client)
      (described : Describes world.room client package d) (isListed : file ∈ listed d) (none : file.href = none) :
      Unforeseen world package (.absent .suffix)
  | encoding {client : Client} {handle : Handle} {content : Xml.Content} {refusal : Xml.Refusal}
      (opened : (world.openPackage package).result = .ok client)
      (found : (client.find package (some descriptorSuffix)).result = .ok handle)
      (isRead : (client.read handle).result = .ok content)
      (refused : Xml.parse content = .error refusal) (other : refusal ≠ .illFormed) :
      Unforeseen world package (.document refusal)
  | tooDeep {client : Client} {handle : Handle} {content : Xml.Content} {root : Xml.Element}
      (opened : (world.openPackage package).result = .ok client)
      (found : (client.find package (some descriptorSuffix)).result = .ok handle)
      (isRead : (client.read handle).result = .ok content)
      (parsed : Xml.parse content = .ok root) (deep : DeepAmbiguity world.room root) :
      Unforeseen world package .tooDeep
  | exponent {client : Client} {d : Descriptor} {fault : Fault}
      (opened : (world.openPackage package).result = .ok client)
      (described : Describes world.room client package d)
      (overlong : Overlong ((d.diskSection.map DiskSection.disks).getD []) fault) :
      Unforeseen world package fault
  | linkCycle (isArchive : world.backendFor package = .ok .archive)
      (stops : Stops world package .linkCycle) : Unforeseen world package .linkCycle
  | zeroCharacter (unspelled : Unspelled world.files)
      (stops : Stops world package (.path .zeroCharacter)) :
      Unforeseen world package (.path .zeroCharacter)

theorem Unforeseen.other {fault : Fault} (h : Unforeseen world package fault) :
    fault.isInput = false ∧ fault.isStorage = false ∧ ∀ damage, fault ≠ .damaged damage := by
  cases h with
  | exponent _ _ overlong =>
    obtain ⟨-, -, -, n, rfl⟩ := overlong
    exact ⟨rfl, rfl, nofun⟩
  | _ => exact ⟨rfl, rfl, nofun⟩

/-- The faults with which a package is not resolved. -/
inductive ResolvingFault (world : World) (package : String) : Fault → Prop
  | unreadable {failure : Failure} (stops : Stops world package (.storage failure)) :
      ResolvingFault world package (.storage failure)
  | invalid {fault : Fault} (h : Invalid world package fault) : ResolvingFault world package fault
  | damaged {damage : Damage} (stops : Stops world package (.damaged damage)) :
      ResolvingFault world package (.damaged damage)
  | unforeseen {fault : Fault} (h : Unforeseen world package fault) :
      ResolvingFault world package fault

theorem resolvingFault_of_client (opened : (world.openPackage package).result = .ok client)
    {fault : Fault} (stops : Stops world package fault)
    (h : ClientFault world.files client.backend fault) : ResolvingFault world package fault := by
  have chosen := World.backendFor_of_opened opened
  cases h with
  | storage failure => exact .unreadable stops
  | zeroCharacter unspelled => exact .unforeseen (.zeroCharacter unspelled stops)
  | damaged _ damage => exact .damaged stops
  | linkCycle isArchive => exact .unforeseen (.linkCycle (by rw [chosen, isArchive]) stops)

variable {d : Descriptor}

theorem quiet_check (opened : (world.openPackage package).result = .ok client)
    (described : Describes world.room client package d) {file : FileReference} (isListed : file ∈ listed d) :
    Quiet (ResolvingFault world package) (check client package file) := by
  have lookup := World.quiet_find opened file.href
  refine lookup.attempt.bind fun outcome attempted => ?_
  have outcome := Except.ok.inj attempted
  split
  · exact .log _
  · exact .fail (.invalid (.incomplete opened described isListed outcome))
  · next fault notStorage =>
    have other : fault.isStorage = false := by
      cases fault with
      | storage failure => exact (notStorage failure rfl).elim
      | _ => rfl
    refine .fail ?_
    cases lookup.faulty fault outcome with
    | client h =>
      exact resolvingFault_of_client opened (.checking opened described isListed outcome other) h
    | unnamed none => exact .unforeseen (.unnamed opened described isListed none)

theorem check_unnamed (opened : (world.openPackage package).result = .ok client) {file : FileReference}
    (none : file.href = none) : (check client package file).result = .error (.absent .suffix) := by
  have attempted : (client.find package file.href).result = .error (.absent .suffix) := by
    rw [none]
    exact World.find_none opened
  unfold check Narrated.attempt
  rw [Narrated.result_bind, attempted]
  rfl

/-- The first file without a location ends the check if all files before it are found. -/
theorem validate_unnamed (opened : (world.openPackage package).result = .ok client)
    {before after : List FileReference} {file : FileReference}
    (isFiles : d.files = some (before ++ file :: after))
    (found : ∀ file ∈ before, ∃ handle, (client.find package file.href).result = .ok handle)
    (none : file.href = none) :
    (validate client (some d) package).result = .error (.absent .suffix) := by
  have stopped : ((before ++ file :: after).forM (check client package)).result =
      .error (.absent .suffix) := by
    clear isFiles
    induction before with
    | nil =>
      rw [List.nil_append, Narrated.result_forM_cons, check_unnamed opened none]
      rfl
    | cons first before ih =>
      obtain ⟨isFound, rest⟩ := List.forall_mem_cons.1 found
      rw [List.cons_append, Narrated.result_forM_cons, check_ok_iff.2 isFound, Except.bind, ih rest]
  unfold validate
  simp only [isFiles, Narrated.result_bind, stopped]
  rfl

theorem quiet_validate (opened : (world.openPackage package).result = .ok client)
    (described : Describes world.room client package d) :
    Quiet (ResolvingFault world package) (validate client (some d) package) := by
  unfold validate
  dsimp only
  split
  · exact .log_bind (.pure _)
  · next files isFiles =>
    refine (Quiet.forM fun file member => ?_).bind fun _ _ => .pure _
    exact quiet_check opened described (by rw [listed, isFiles]; exact member)

theorem quiet_content (opened : (world.openPackage package).result = .ok client) :
    Quiet (ResolvingFault world package) (content client package) := by
  refine ((World.quiet_find opened _).sharpen fun fault failed h => ?_).bind fun handle found => ?_
  · cases h with
    | client h => exact resolvingFault_of_client opened (.finding opened failed) h
    | unnamed none => cases none
  · refine ((World.quiet_read opened found).sharpen fun fault failed h => ?_).bind fun _ _ => .pure _
    exact resolvingFault_of_client opened (.reading opened found failed) h

theorem content_ok {handle : Handle} {document : Xml.Content}
    (h : (content client package).result = .ok (handle, document)) :
    (client.find package (some descriptorSuffix)).result = .ok handle ∧
      (client.read handle).result = .ok document := by
  obtain ⟨handle', found, h⟩ := Narrated.bind_ok_iff.1 h
  obtain ⟨document', isRead, h⟩ := Narrated.bind_ok_iff.1 h
  obtain ⟨rfl, rfl⟩ := Prod.mk.inj (Narrated.pure_ok_iff.1 h)
  exact ⟨found, isRead⟩

theorem quiet_load (opened : (world.openPackage package).result = .ok client) :
    Quiet (ResolvingFault world package) (load world.room client package) := by
  refine (quiet_content opened).bind fun read isContent => ?_
  obtain ⟨found, isRead⟩ := content_ok isContent
  refine .log_bind ?_
  refine ((quiet_parse world.room read.2).sharpen fun fault failed h => ?_).bind fun d parsed => ?_
  · cases h with
    | malformed cause => exact .invalid (.malformed opened found isRead failed)
    | encoding refused other => exact .unforeseen (.encoding opened found isRead refused other)
    | tooDeep parsed deep => exact .unforeseen (.tooDeep opened found isRead parsed deep)
  · exact quiet_validate opened ⟨read.1, read.2, found, isRead, parsed⟩

theorem describes_of_load {room : Nat} (loaded : (load room client package).result = .ok d) :
    Describes room client package d := by
  obtain ⟨handle, document, found, isRead, parsed, -⟩ := load_ok_iff.1 loaded
  exact ⟨handle, document, found, isRead, parsed⟩

theorem location_of_load (opened : (world.openPackage package).result = .ok client)
    (loaded : (load world.room client package).result = .ok d) {file : FileReference} (isListed : file ∈ listed d) :
    file.href ≠ none := by
  obtain ⟨-, -, -, -, -, found⟩ := load_ok_iff.1 loaded
  obtain ⟨handle, isFound⟩ := found file isListed
  intro none
  rw [none, World.find_none opened] at isFound
  cases isFound

theorem quiet_loadWithDisks (opened : (world.openPackage package).result = .ok client) :
    Quiet (ResolvingFault world package) (loadWithDisks world.room client package) := by
  refine (quiet_load opened).bind fun d loaded => ?_
  refine ((quiet_descriptorHardware d).sharpen fun fault failed _ => ?_).bind
    fun hardware isHardware => ?_
  · exact .invalid (.noHardware opened loaded failed)
  refine ((quiet_diskInfos hardware d.diskSection d.files).sharpen fun fault failed h => ?_).bind
    fun infos joined => ?_
  · rcases h with isInput | overlong
    · exact .invalid (.unjoined opened loaded isHardware failed isInput)
    · exact .unforeseen (.exponent opened (describes_of_load loaded) overlong)
  · refine (Quiet.mapM fun info member => ?_).bind fun _ _ => .pure _
    obtain ⟨file, isListed, same⟩ := diskInfos_location joined member
    unfold locate
    split
    · next none => exact absurd (same.symm.trans none) (location_of_load opened loaded isListed)
    · exact (World.quiet_join opened _).bind fun _ _ => .pure _

/-- The disk is what the item is joined to, at its place in the package. -/
def Attaches (client : Client) (package : String) (disks : List Disk) (files : List FileReference)
    (item : Item) (located : LocatedDisk) : Prop :=
  ∃ info href, Joins disks files item info ∧ info.location = some href ∧
    (client.join package href).result = .ok located.location ∧ located.sizeInGb = info.sizeInGb

/-- There is one disk for each disk item of the first hardware section, in the order of the items. -/
def DisksOf (client : Client) (package : String) (d : Descriptor) (disks : List LocatedDisk) : Prop :=
  ∃ system hardware sec files, d.virtualSystem = some system ∧
    system.hardware.head? = some hardware ∧ d.diskSection = some sec ∧ d.files = some files ∧
    List.Forall₂ (Attaches client package sec.disks files) hardware.diskItems disks

theorem descriptorHardware_ok {hardware : HardwareSection}
    (h : (descriptorHardware (some d)).result = .ok hardware) :
    ∃ system, d.virtualSystem = some system ∧ system.hardware.head? = some hardware := by
  obtain ⟨system, isSystem, h⟩ := Narrated.bind_ok_iff.1 h
  have isSystem : virtualSystemOf (some d) = .ok system := isSystem
  unfold virtualSystemOf at isSystem
  dsimp only at isSystem
  split at isSystem
  · cases isSystem
  · next system' isSystem' =>
    obtain rfl := Except.ok.inj isSystem
    refine ⟨system', isSystem', ?_⟩
    unfold hardwareOf at h
    dsimp only at h
    split at h
    · cases h
    · next only isOnly =>
      obtain rfl := Narrated.pure_ok_iff.1 h
      rw [isOnly]
      rfl
    · next first _ _ isFirst =>
      rw [Narrated.result_log_bind, Narrated.pure_ok_iff] at h
      rw [isFirst, h]
      rfl

theorem attaches_of_locate {disks : List Disk} {files : List FileReference} {items : List Item}
    {infos : List DiskInfo} {located : List LocatedDisk}
    (joined : List.Forall₂ (Joins disks files) items infos)
    (found : List.Forall₂ (fun info disk => (locate client package info).result = .ok disk) infos
      located) : List.Forall₂ (Attaches client package disks files) items located := by
  induction joined generalizing located with
  | nil =>
    cases found
    exact .nil
  | cons first _ ih =>
    obtain _ | ⟨found, rest⟩ := found
    obtain ⟨href, location, isJoined, size⟩ := locate_ok_iff.1 found
    exact .cons ⟨_, href, first, location, isJoined, size⟩ (ih rest)

theorem disksOf_loadWithDisks {room : Nat} {disks : List LocatedDisk}
    (loaded : (loadWithDisks room client package).result = .ok (d, disks)) :
    DisksOf client package d disks := by
  obtain ⟨-, hardware, infos, isHardware, joined, located⟩ := loadWithDisks_ok_iff.1 loaded
  obtain ⟨system, isSystem, isFirst⟩ := descriptorHardware_ok isHardware
  obtain ⟨sec, files, isSection, isFiles⟩ := diskInfos_ok_sections joined
  rw [isSection, isFiles, diskInfos_ok_iff] at joined
  exact ⟨system, hardware, sec, files, isSystem, isFirst, isSection, isFiles,
    attaches_of_locate joined.2.2 located⟩

end Package

/-! ### Printing -/

namespace Command

open Package

/-- The line for a disk. -/
def lineOf (disk : LocatedDisk) : String :=
  disk.location ++ " " ++ toString disk.sizeInGb ++ " GB"

/-- The size of the disk has not too many digits to be written. -/
def Writable (disk : LocatedDisk) : Prop :=
  Number.writable disk.sizeInGb = true

instance (disk : LocatedDisk) : Decidable (Writable disk) :=
  inferInstanceAs (Decidable (_ = true))

theorem diskLine_of_writable {disk : LocatedDisk} (h : Writable disk) :
    diskLine disk = .ok (lineOf disk) := by
  have size : written disk.sizeInGb = .ok (toString disk.sizeInGb) := if_pos h
  rw [diskLine, size]
  rfl

theorem diskLine_of_not_writable {disk : LocatedDisk} (h : ¬ Writable disk) :
    diskLine disk = .error .unwritable := by
  have size : written disk.sizeInGb = .error .unwritable := if_neg h
  rw [diskLine, size]
  rfl

/-- What prints the disks. -/
def printAll (disks : List LocatedDisk) : Narrated Fault Unit :=
  disks.forM fun disk => do printLine (← .ofExcept (diskLine disk))

theorem printAll_cons_of_writable {disk : LocatedDisk} (h : Writable disk) (disks : List LocatedDisk) :
    printAll (disk :: disks) =
      ⟨.printed (lineOf disk) :: (printAll disks).events, (printAll disks).result⟩ := by
  have first : (do printLine (← .ofExcept (diskLine disk)) : Narrated Fault Unit) =
      printLine (lineOf disk) := by
    rw [diskLine_of_writable h]
    rfl
  change (do printLine (← .ofExcept (diskLine disk)) : Narrated Fault Unit) >>=
    (fun _ => printAll disks) = _
  rw [first]
  rfl

theorem printAll_of_writable {disks : List LocatedDisk} (h : ∀ disk ∈ disks, Writable disk) :
    printAll disks = ⟨disks.map fun disk => .printed (lineOf disk), .ok ()⟩ := by
  induction disks with
  | nil => rfl
  | cons disk disks ih =>
    obtain ⟨first, rest⟩ := List.forall_mem_cons.1 h
    rw [printAll_cons_of_writable first, ih rest]
    rfl

theorem printAll_of_not_writable {before after : List LocatedDisk} {disk : LocatedDisk}
    (h : ∀ disk ∈ before, Writable disk) (stuck : ¬ Writable disk) :
    printAll (before ++ disk :: after) =
      ⟨before.map fun disk => .printed (lineOf disk), .error .unwritable⟩ := by
  induction before with
  | nil =>
    change (do printLine (← .ofExcept (diskLine disk)) : Narrated Fault Unit) >>=
      (fun _ => printAll after) = _
    rw [diskLine_of_not_writable stuck]
    rfl
  | cons first before ih =>
    obtain ⟨writable, rest⟩ := List.forall_mem_cons.1 h
    rw [List.cons_append, printAll_cons_of_writable writable, ih rest]
    rfl

theorem writable_or_split (disks : List LocatedDisk) : (∀ disk ∈ disks, Writable disk) ∨
    ∃ before disk after, disks = before ++ disk :: after ∧ (∀ disk ∈ before, Writable disk) ∧
      ¬ Writable disk := by
  induction disks with
  | nil => exact .inl (by simp)
  | cons disk disks ih =>
    by_cases first : Writable disk
    · rcases ih with rest | ⟨before, stuck, after, rfl, rest, notWritable⟩
      · exact .inl (List.forall_mem_cons.2 ⟨first, rest⟩)
      · exact .inr ⟨disk :: before, stuck, after, rfl, List.forall_mem_cons.2 ⟨first, rest⟩, notWritable⟩
    · exact .inr ⟨[], disk, disks, rfl, by simp, first⟩

/-- The computation prints just these lines, and asks nothing. -/
def Prints (x : Narrated Fault Unit) (lines : List String) : Prop :=
  ∃ before, (∀ event ∈ before, event.isSilent = true) ∧ x.events = before ++ lines.map .printed

/-- All that is done before a line is printed. -/
def resolve (world : World) (package : String) : Narrated Fault (List LocatedDisk) := do
  let client ← openPackage world package
  let (_, found) ← Package.loadWithDisks world.room client package
  .log (.info ⟨"disks", "run", 50⟩
    ("Resolved " ++ toString found.length ++ " disk(s) in " ++ package))
  pure found

theorem printDisks_eq (world : World) (package : String) :
    printDisks world package = resolve world package >>= printAll := by
  simp only [printDisks, resolve, printAll, bind_assoc, pure_bind]

theorem opened_of_openPackage (h : (openPackage world package).result = .ok client) :
    (world.openPackage package).result = .ok client := by
  obtain ⟨client', opened, same⟩ := Narrated.bind_ok_iff.1 h
  rw [Narrated.result_log_bind, Narrated.pure_ok_iff] at same
  rwa [← same]

theorem checkPackage_of_opened {client : Client}
    (opened : (world.openPackage package).result = .ok client) :
    world.checkPackage package = .ok () := by
  obtain ⟨backend, isBackend, -⟩ := World.openPackage_ok_iff.1 opened
  have isThere : (isRemote package || world.files.exists? package) = true := by
    unfold World.backendFor at isBackend
    split at isBackend
    · next remote => rw [remote, Bool.true_or]
    · split at isBackend
      · cases isBackend
      · next entry found => rw [FileTree.exists?, found, Option.isSome_some, Bool.or_true]
  rw [World.checkPackage, if_pos isThere]

/-- A package that is not opened cannot be read, or it is a damaged archive. -/
theorem quiet_openPackage (world : World) (package : String) :
    Quiet (fun fault => Stops world package fault ∧ (fault.isStorage = true ∨ ∃ damage, fault = .damaged damage))
      (openPackage world package) :=
  (World.quiet_openPackage.sharpen fun _ failed chosen => ⟨.opening failed, World.backendFor_error chosen⟩).bind
    fun _ _ => .log_bind (.pure _)

theorem quiet_resolve (world : World) (package : String) :
    Quiet (ResolvingFault world package) (resolve world package) := by
  refine ((quiet_openPackage world package).mono fun fault stopped => ?_).bind fun client opened => ?_
  · obtain ⟨stops, storage | ⟨damage, rfl⟩⟩ := stopped
    · cases fault with
      | storage failure => exact .unreadable stops
      | _ => cases storage
    · exact .damaged stops
  · exact (quiet_loadWithDisks (opened_of_openPackage opened)).bind fun _ _ => .log_bind (.pure _)

theorem resolve_ok_iff {disks : List LocatedDisk} : (resolve world package).result = .ok disks ↔
    ∃ client d, (world.openPackage package).result = .ok client ∧
      (loadWithDisks world.room client package).result = .ok (d, disks) := by
  unfold resolve openPackage
  simp only [bind_assoc, Narrated.bind_ok_iff, Narrated.result_log_bind, Narrated.pure_ok_iff]
  constructor
  · rintro ⟨client, opened, client', rfl, ⟨d, found⟩, loaded, rfl⟩
    exact ⟨_, d, opened, loaded⟩
  · rintro ⟨client, d, opened, loaded⟩
    exact ⟨client, opened, client, rfl, (d, disks), loaded, rfl⟩

theorem resolve_error_of_load (opened : (world.openPackage package).result = .ok client) {fault : Fault}
    (failed : (load world.room client package).result = .error fault) :
    (resolve world package).result = .error fault := by
  unfold resolve openPackage loadWithDisks
  simp only [Narrated.result_bind, opened, Except.bind, Narrated.result_log, Narrated.result_pure, failed]

/-- The outcome of listing the disks of a package: all are printed, or those before one whose size
cannot be written, or none for a fault of the package. -/
inductive Listing (world : World) (package : String) : List String → Except Fault Unit → Prop
  | listed {client : Client} {d : Descriptor} {disks : List LocatedDisk}
      (opened : (world.openPackage package).result = .ok client)
      (loaded : (loadWithDisks world.room client package).result = .ok (d, disks))
      (writable : ∀ disk ∈ disks, Writable disk) :
      Listing world package (disks.map lineOf) (.ok ())
  | cutShort {client : Client} {d : Descriptor} {before after : List LocatedDisk} {disk : LocatedDisk}
      (opened : (world.openPackage package).result = .ok client)
      (loaded : (loadWithDisks world.room client package).result = .ok (d, before ++ disk :: after))
      (writable : ∀ disk ∈ before, Writable disk) (stuck : ¬ Writable disk) :
      Listing world package (before.map lineOf) (.error .unwritable)
  | failed {fault : Fault} (h : ResolvingFault world package fault) :
      Listing world package [] (.error fault)

theorem printDisks_listing (world : World) (package : String) :
    ∃ lines, Prints (printDisks world package) lines ∧
      Listing world package lines (printDisks world package).result := by
  have quiet := quiet_resolve world package
  rw [printDisks_eq]
  cases resolved : (resolve world package).result with
  | error fault =>
    rw [Narrated.bind_of_error resolved]
    exact ⟨[], ⟨_, quiet.silent, (List.append_nil _).symm⟩, .failed (quiet.faulty fault resolved)⟩
  | ok disks =>
    obtain ⟨client, d, opened, loaded⟩ := resolve_ok_iff.1 resolved
    rw [Narrated.bind_of_ok resolved]
    rcases writable_or_split disks with writable | ⟨before, disk, after, rfl, writable, stuck⟩
    · rw [printAll_of_writable writable]
      exact ⟨disks.map lineOf, ⟨_, quiet.silent, by simp [Function.comp_def]⟩, .listed opened loaded writable⟩
    · rw [printAll_of_not_writable writable stuck]
      exact ⟨before.map lineOf, ⟨_, quiet.silent, by simp [Function.comp_def]⟩,
        .cutShort opened loaded writable stuck⟩

end Command

end OvfInspect
