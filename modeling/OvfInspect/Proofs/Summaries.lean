import OvfInspect.Proofs.DisksListing

/-!
# Summaries of packages

A summary is made quietly, and its parts stand in a fixed order. It shows what could be resolved of the
hardware; that something could not is no fault.
-/

namespace OvfInspect

open Storage

namespace Package

variable {world : World} {package : String} {client : Client} {d : Descriptor} {detail : Detail}

/-! ### Making a summary -/

/-- The faults with which a summary is not made: a number has too many digits, or a file that it shows has no
location, no identifier or a size without a unit. -/
inductive Unshowable (detail : Detail) : Fault → Prop
  | exponent (count : Nat) : Unshowable detail (.number (.tooManyDigits count))
  | tooLong : Unshowable detail .unwritable
  | nowhere : Unshowable detail (.absent .href)
  | nameless (isFull : detail = .full) : Unshowable detail (.absent .identifier)
  | huge (isFull : detail = .full) (refusal : Size.Refusal) : Unshowable detail (.size refusal)

theorem quiet_cpuCount (hardware : HardwareSection) :
    Quiet (fun fault => fault.isInput = true) (cpuCount (some hardware)) := by
  unfold cpuCount
  dsimp only
  split
  · exact .fail rfl
  · split
    · exact .fail rfl
    · exact .log_bind (.pure _)

theorem quiet_memoryInMb (hardware : HardwareSection) :
    Quiet (fun fault => fault.isInput = true ∨ Unshowable detail fault) (memoryInMb (some hardware)) := by
  unfold memoryInMb
  dsimp only
  split
  · exact .fail (.inl rfl)
  · split
    · exact .fail (.inl rfl)
    · refine ((quiet_inUnitsOf 20 _ _).mono fun fault => Or.imp_right ?_).bind fun _ _ => .log_bind (.pure _)
      rintro (⟨-, rfl⟩ | ⟨-, count, rfl⟩)
      · exact .tooLong
      · exact .exponent count

theorem quiet_ifKnown {α : Type} {faults : Fault → Prop} {x : Narrated Fault α} (operation : String)
    (quiet : Quiet (fun fault => fault.isInput = true ∨ faults fault) x) : Quiet faults (ifKnown operation x) := by
  have mapped : Quiet (fun fault => fault.isInput = true ∨ faults fault) (some <$> x) := by
    rw [map_eq_pure_bind]
    exact quiet.bind fun _ _ => .pure _
  refine mapped.orElse fun fault failed => ?_
  split
  · exact .log_bind (.pure _)
  · next notInput => exact .fail ((mapped.faulty fault failed).resolve_left notInput)

theorem quiet_facts (package : String) (d : Descriptor) : Quiet (Unshowable detail) (facts package d) := by
  have hardware := quiet_descriptorHardware d
  refine hardware.attempt.bind fun outcome attempted => ?_
  have outcome := Except.ok.inj attempted
  split
  · next section' =>
    refine (quiet_ifKnown _ ((quiet_cpuCount section').mono fun _ => .inl)).bind fun _ _ => ?_
    refine (quiet_ifKnown _ (quiet_memoryInMb section')).bind fun _ _ => ?_
    refine (quiet_ifKnown _ ?_).bind fun _ _ => .pure _
    refine (quiet_diskInfos section' d.diskSection d.files).mono fun fault => Or.imp_right ?_
    rintro ⟨-, -, -, count, rfl⟩
    exact .exponent count
  · next fault =>
    rw [if_pos (hardware.faulty fault outcome)]
    exact .log_bind (.pure _)

/-! ### The lines of a summary -/

def shownCpus (known : Facts) : Except Fault String :=
  match known.cpus with
  | some n => written n
  | none => .ok unknown

def shownMemory (known : Facts) : Except Fault String :=
  match known.memoryInMb with
  | some n => (written n).map (· ++ " MB")
  | none => .ok unknown

theorem factLines_eq (known : Facts) : factLines known =
    (shownCpus known).bind fun cpus => (shownMemory known).bind fun memory =>
      .ok ["CPUs:    " ++ cpus, "Memory:  " ++ memory] := by
  obtain ⟨cpus, memory, disks⟩ := known
  cases cpus <;> cases memory <;> rfl

theorem written_error {n : Int} {fault : Fault} (failed : written n = .error fault) : fault = .unwritable := by
  unfold written at failed
  split at failed
  · cases failed
  · exact (Except.error.inj failed).symm

theorem factLines_error {known : Facts} {fault : Fault} (failed : factLines known = .error fault) :
    fault = .unwritable := by
  rw [factLines_eq, bind_error_iff] at failed
  rcases failed with failed | ⟨cpus, -, failed⟩
  · unfold shownCpus at failed
    split at failed
    · exact written_error failed
    · cases failed
  rcases bind_error_iff.1 failed with failed | ⟨memory, -, failed⟩
  · unfold shownMemory at failed
    split at failed
    · exact written_error (map_error_iff.1 failed)
    · cases failed
  · cases failed

theorem diskLocation_error {disk : DiskInfo} {fault : Fault} (failed : diskLocation disk = .error fault) :
    fault = .absent .href := by
  unfold diskLocation at failed
  split at failed
  · cases failed
  · exact (Except.error.inj failed).symm

def shownSize (file : FileReference) : Except Fault String :=
  match file.size with
  | some bytes => (Size.render bytes 0).mapError Fault.size
  | none => .ok "unknown size"

theorem fileLine_eq (file : FileReference) : fileLine file = (shownSize file).bind fun size =>
    match file.id, file.href with
    | some id, some href => .ok ("  " ++ Text.padRight 10 id ++ " " ++ Text.padRight 20 href ++ " " ++
        Text.padLeft 10 size)
    | none, _ => .error (.absent .identifier)
    | _, none => .error (.absent .href) := by
  obtain ⟨id, href, size⟩ := file
  cases size <;> rfl

theorem fileLine_error {file : FileReference} {fault : Fault} (failed : fileLine file = .error fault) :
    Unshowable .full fault := by
  rw [fileLine_eq, bind_error_iff] at failed
  rcases failed with failed | ⟨size, -, failed⟩
  · unfold shownSize at failed
    split at failed
    · obtain ⟨refusal, -, rfl⟩ := mapError_error_iff.1 failed
      exact .huge rfl refusal
    · cases failed
  · split at failed
    · cases failed
    · obtain rfl := Except.error.inj failed
      exact .nameless rfl
    · obtain rfl := Except.error.inj failed
      exact .nowhere

theorem fileLines_error {fault : Fault} (failed : fileLines detail d = .error fault) :
    Unshowable detail fault := by
  unfold fileLines at failed
  split at failed
  · rcases bind_error_iff.1 failed with failed | ⟨lines, -, failed⟩
    · obtain ⟨_, file, _, -, -, failed⟩ := mapM_error_iff.1 failed
      exact fileLine_error failed
    · cases failed
  · cases failed

theorem quiet_diskLines (opened : (world.openPackage package).result = .ok client) (width : Nat)
    (disk : DiskInfo) : Quiet (Unshowable detail) (diskLines client package detail width disk) := by
  refine (Quiet.ofExcept fun fault failed => ?_).bind fun location _ => ?_
  · rw [diskLocation_error failed]
    exact .nowhere
  refine (Quiet.ofExcept fun fault failed => ?_).bind fun size _ => ?_
  · rw [written_error failed]
    exact .tooLong
  dsimp only
  split
  · exact (World.quiet_join opened location).bind fun _ _ => .pure _
  · exact .pure _

theorem quiet_disksLines (opened : (world.openPackage package).result = .ok client) (known : Facts) :
    Quiet (Unshowable detail) (disksLines client package detail known) := by
  unfold disksLines
  split
  · exact .pure _
  · next disks _ =>
    dsimp only
    split
    · exact .pure _
    · refine (Quiet.ofExcept fun fault failed => ?_).bind fun locations _ => ?_
      · obtain ⟨_, disk, _, -, -, failed⟩ := mapM_error_iff.1 failed
        rw [diskLocation_error failed]
        exact .nowhere
      · exact (Quiet.mapM fun disk _ => quiet_diskLines opened _ disk).bind fun _ _ => .pure _

theorem quiet_summary (opened : (world.openPackage package).result = .ok client) (detail : Detail) (columns : Int)
    (d : Descriptor) :
    Quiet (Unshowable detail) (summary client columns detail package d) := by
  refine Quiet.bind ?_ fun lines _ => .pure _
  refine (quiet_facts package d).bind fun known _ => ?_
  refine (Quiet.ofExcept fun fault failed => ?_).bind fun about _ => ?_
  · rw [factLines_error failed]
    exact .tooLong
  refine (quiet_disksLines opened known).bind fun disks _ => ?_
  exact (Quiet.ofExcept fun fault failed => fileLines_error failed).bind fun files _ => .pure _

/-! ### What a summary shows -/

theorem ifKnown_ok_iff {α : Type} {x : Narrated Fault α} {operation : String} {known : Option α} :
    (ifKnown operation x).result = .ok known ↔
    (∃ a, x.result = .ok a ∧ known = some a) ∨
      ∃ fault, x.result = .error fault ∧ fault.isInput = true ∧ known = none := by
  have mapped : (some <$> x).result = x.result.map some := by
    rw [map_eq_pure_bind, Narrated.result_bind]
    cases x.result <;> rfl
  unfold ifKnown Narrated.orElse
  rw [mapped]
  cases x.result with
  | ok a => simp [Except.map, @eq_comm _ known]
  | error fault =>
    dsimp only [Except.map]
    by_cases isInput : fault.isInput = true
    · rw [if_pos isInput, Narrated.result_log_bind, Narrated.pure_ok_iff]
      simp [isInput, @eq_comm _ known]
    · rw [if_neg isInput]
      simp [isInput]

theorem facts_of_hardware {hardware : HardwareSection}
    (isHardware : (descriptorHardware (some d)).result = .ok hardware) :
    (facts package d).result = (factsOf d hardware).result := by
  unfold facts
  rw [Narrated.result_bind]
  have attempted : ((descriptorHardware (some d)).attempt : Narrated Fault _).result = .ok (.ok hardware) :=
    congrArg Except.ok isHardware
  rw [attempted]
  rfl

theorem factsOf_ok_iff {hardware : HardwareSection} {known : Facts} : (factsOf d hardware).result = .ok known ↔
    (ifKnown "get_number_of_cpus" (cpuCount (some hardware))).result = .ok known.cpus ∧
    (ifKnown "get_memory_in_mb" (memoryInMb (some hardware))).result = .ok known.memoryInMb ∧
    (ifKnown "get_disk_infos" (diskInfos (some hardware) d.diskSection d.files)).result = .ok known.disks := by
  unfold factsOf
  simp only [Narrated.bind_ok_iff, Narrated.pure_ok_iff]
  constructor
  · rintro ⟨_, cpus, _, memory, _, disks, rfl⟩
    exact ⟨cpus, memory, disks⟩
  · rintro ⟨cpus, memory, disks⟩
    exact ⟨_, cpus, _, memory, _, disks, rfl⟩

theorem disks_of_facts {hardware : HardwareSection} {infos : List DiskInfo} {known : Facts}
    (isHardware : (descriptorHardware (some d)).result = .ok hardware)
    (joined : (diskInfos (some hardware) d.diskSection d.files).result = .ok infos)
    (isKnown : (facts package d).result = .ok known) : known.disks = some infos := by
  rw [facts_of_hardware isHardware] at isKnown
  obtain ⟨-, -, areDisks⟩ := factsOf_ok_iff.1 isKnown
  rcases ifKnown_ok_iff.1 areDisks with ⟨infos', joined', isDisks⟩ | ⟨fault, failed, -, -⟩
  · obtain rfl := Except.ok.inj (joined.symm.trans joined')
    exact isDisks
  · cases joined.symm.trans failed

theorem summary_ok {columns : Int} {text : String}
    (made : (summary client columns detail package d).result = .ok text) :
    ∃ known about disks files, (facts package d).result = .ok known ∧ factLines known = .ok about ∧
      (disksLines client package detail known).result = .ok disks ∧ fileLines detail d = .ok files ∧
      text = "\n".intercalate
        (titleLines columns package ++ annotationLines detail d ++ about ++ disks ++ files) := by
  obtain ⟨lines, made, isText⟩ := Narrated.bind_ok_iff.1 made
  obtain ⟨known, isKnown, made⟩ := Narrated.bind_ok_iff.1 made
  obtain ⟨about, isAbout, made⟩ := Narrated.bind_ok_iff.1 made
  obtain ⟨disks, areDisks, made⟩ := Narrated.bind_ok_iff.1 made
  obtain ⟨files, areFiles, made⟩ := Narrated.bind_ok_iff.1 made
  obtain rfl := Narrated.pure_ok_iff.1 made
  exact ⟨known, about, disks, files, isKnown, isAbout, areDisks, areFiles, (Narrated.pure_ok_iff.1 isText).symm⟩

end Package

end OvfInspect
