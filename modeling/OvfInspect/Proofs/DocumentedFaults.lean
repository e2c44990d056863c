import OvfInspect.Proofs.DeclaredEncodings
import OvfInspect.Proofs.LoadingCalls
import OvfInspect.Proofs.ResolutionFaults

/-!
# Documented faults of loading with disks

Whoever loads a package with its disks is told to expect defects of the descriptor and failures of storage.
`loading_undocumented` lists what else can happen while storage itself has no other faults: an encoding that
cannot be used, several sections that there is no room to show, a value that is well-formed but not supported,
an exponent with too many digits, and a disk without a location.
-/

namespace OvfInspect.Package

open Storage

/-- The operations of the client fail with failures of storage only. -/
structure FailsAsStorage (client : Client) : Prop where
  find : ∀ base wanted fault, (client.find base wanted).result = .error fault → fault.isStorage = true
  read : ∀ handle fault, (client.read handle).result = .error fault → fault.isStorage = true
  join : ∀ base name fault, (client.join base name).result = .error fault → fault.isStorage = true

/-- A fault that callers are told of: a defect of the descriptor or its package, or a failure of storage. -/
def IsDocumented (fault : Fault) : Prop :=
  fault.isDefect = true ∨ fault.isStorage = true

instance (fault : Fault) : Decidable (IsDocumented fault) :=
  inferInstanceAs (Decidable (_ ∨ _))

section Faults

variable (room : Nat) (storage : Nat → Client) (package : String)

/-- The package has the descriptor, and storage finds all its files. -/
def Complete (d : Descriptor) : Prop :=
  ∃ handle content, Opens storage package handle content ∧ (Descriptor.parse room content).result = .ok d ∧
    ∀ entry ∈ (listed d).zipIdx 2, Finds storage package entry

/-- The disks of the first hardware section are not known, because of the fault. -/
def DisksUnresolved (d : Descriptor) (fault : Fault) : Prop :=
  ∃ system hardware sec files, d.virtualSystem = some system ∧ system.hardware.head? = some hardware ∧
    d.diskSection = some sec ∧ d.files = some files ∧ Unresolved hardware sec.disks files fault

/-- The faults that callers are not told of. -/
inductive Undocumented : Fault → Prop
  | encoding {handle : Handle} {bytes : List UInt8} {name : String} {refusal : Xml.Refusal}
      (opens : Opens storage package handle (.bytes bytes)) (declared : Xml.DeclaresEncoding bytes name)
      (unusable : Xml.Unusable name refusal) : Undocumented (.document refusal)
  | tooDeep {handle : Handle} {content : Xml.Content} {root : Xml.Element}
      (opens : Opens storage package handle content) (parsed : Xml.parse content = .ok root)
      (deep : DeepAmbiguity room root) : Undocumented .tooDeep
  | unsupported {d : Descriptor} {value : UnsupportedValue} (complete : Complete room storage package d)
      (unresolved : DisksUnresolved d (.unsupported value)) : Undocumented (.unsupported value)
  | exponent {d : Descriptor} {system : VirtualSystem} {hardware : HardwareSection} {count : Nat}
      (complete : Complete room storage package d) (isSystem : d.virtualSystem = some system)
      (isFirst : system.hardware.head? = some hardware) (tooLong : DisksTooLong d hardware count) :
      Undocumented (.number (.tooManyDigits count))
  | unlocated {d : Descriptor} {infos : List DiskInfo} {info : DiskInfo} {n : Nat}
      {before after : List (DiskInfo × Nat)} (complete : Complete room storage package d)
      (resolved : Resolves d infos)
      (split : infos.zipIdx (2 + (listed d).length) = before ++ (info, n) :: after)
      (earlier : ∀ entry ∈ before, ∃ disk, Places storage package entry disk)
      (nowhere : info.location = none) : Undocumented (.absent .href)

end Faults

variable {room : Nat} {storage : Nat → Client} {client : Client} {package : String} {d : Descriptor} {fault : Fault}

/-! ### Loading -/

theorem check_error_isDefect (failing : FailsAsStorage client) {file : FileReference}
    (failed : (check client package file).result = .error fault) : fault.isDefect = true := by
  cases found : (client.find package file.href).result with
  | ok handle =>
    rw [check_ok_iff.2 ⟨handle, found⟩] at failed
    cases failed
  | error cause =>
    have isStorage := failing.find _ _ _ found
    cases cause with
    | storage failure =>
      rw [check_of_missing found] at failed
      cases failed
      rfl
    | _ => cases isStorage

theorem checks_ok_iff {entries : List (FileReference × Nat)} :
    (entries.forM fun entry => check (storage entry.2) package entry.1).result = .ok () ↔
      ∀ entry ∈ entries, Finds storage package entry := by
  simp only [Narrated.forM_ok_iff, check_ok_iff]
  rfl

theorem checks_error_isDefect (failing : ∀ n, FailsAsStorage (storage n))
    {entries : List (FileReference × Nat)}
    (failed : (entries.forM fun entry => check (storage entry.2) package entry.1).result = .error fault) :
    fault.isDefect = true := by
  rw [Narrated.forM_eq_mapM, Narrated.result_bind, Narrated.result_mapM] at failed
  rcases bind_error_iff.1 failed with failed | ⟨_, -, failed⟩
  · obtain ⟨-, entry, -, -, -, failed⟩ := mapM_error_iff.1 failed
    exact check_error_isDefect (failing entry.2) failed
  · cases failed

theorem validateThrough_ok_iff {d' : Descriptor} : (validateThrough storage package d).result = .ok d' ↔
    d = d' ∧ ∀ entry ∈ (listed d).zipIdx 2, Finds storage package entry := by
  unfold validateThrough listed
  cases d.files with
  | none =>
    dsimp only
    rw [Narrated.result_log_bind, Narrated.pure_ok_iff]
    simp
  | some files =>
    dsimp only [Option.getD_some]
    rw [Narrated.bind_ok_iff, ← checks_ok_iff]
    simp only [Narrated.pure_ok_iff]
    exact ⟨fun ⟨_, passed, same⟩ => ⟨same, passed⟩, fun ⟨same, passed⟩ => ⟨(), passed, same⟩⟩

theorem validateThrough_error_isDefect (failing : ∀ n, FailsAsStorage (storage n))
    (failed : (validateThrough storage package d).result = .error fault) : fault.isDefect = true := by
  unfold validateThrough at failed
  cases isFiles : d.files with
  | none =>
    rw [isFiles] at failed
    cases failed
  | some files =>
    rw [isFiles] at failed
    dsimp only at failed
    rw [Narrated.result_bind] at failed
    rcases bind_error_iff.1 failed with failed | ⟨_, -, failed⟩
    · exact checks_error_isDefect failing failed
    · cases failed

theorem loadThrough_ok_iff :
    (loadThrough room storage package).result = .ok d ↔ Complete room storage package d := by
  unfold loadThrough Complete
  simp only [Narrated.bind_ok_iff, Narrated.result_log_bind, validateThrough_ok_iff]
  constructor
  · rintro ⟨handle, found, content, isRead, _, parsed, rfl, all⟩
    exact ⟨handle, content, ⟨found, isRead⟩, parsed, all⟩
  · rintro ⟨handle, content, ⟨found, isRead⟩, parsed, all⟩
    exact ⟨handle, found, content, isRead, d, parsed, rfl, all⟩

/-- While storage fails as it should, only a declared encoding and sections that there is no room to show
make loading fail in another way than callers are told. -/
theorem loadThrough_undocumented_iff (failing : ∀ n, FailsAsStorage (storage n))
    (undocumented : ¬ IsDocumented fault) : (loadThrough room storage package).result = .error fault ↔
      (∃ handle bytes name refusal, fault = .document refusal ∧
        Opens storage package handle (.bytes bytes) ∧ Xml.DeclaresEncoding bytes name ∧
        Xml.Unusable name refusal) ∨
      ∃ handle content root, fault = .tooDeep ∧ Opens storage package handle content ∧
        Xml.parse content = .ok root ∧ DeepAmbiguity room root := by
  have notMalformed : fault.isMalformed = false := by
    cases fault with
    | defect defect => exact absurd (.inl rfl) undocumented
    | _ => rfl
  unfold loadThrough
  simp only [Narrated.result_bind, bind_error_iff, Narrated.result_log, reduceCtorEq, false_or,
    true_and, exists_const, parse_other_iff notMalformed]
  constructor
  · rintro (failed | ⟨handle, found, failed | ⟨content, isRead, parsed | ⟨d, -, failed⟩⟩⟩)
    · exact absurd (.inr ((failing 0).find _ _ _ failed)) undocumented
    · exact absurd (.inr ((failing 1).read _ _ failed)) undocumented
    · rcases parsed with ⟨refusal, rfl, refused⟩ | ⟨rfl, root, parsed, deep⟩
      · obtain ⟨bytes, name, rfl, declared, unusable⟩ := Xml.parse_refused_iff.1 refused
        exact .inl ⟨handle, bytes, name, refusal, rfl, ⟨found, isRead⟩, declared, unusable⟩
      · exact .inr ⟨handle, content, root, rfl, ⟨found, isRead⟩, parsed, deep⟩
    · exact absurd (.inl (validateThrough_error_isDefect failing failed)) undocumented
  · rintro (⟨handle, bytes, name, refusal, rfl, ⟨found, isRead⟩, declared, unusable⟩ |
      ⟨handle, content, root, rfl, ⟨found, isRead⟩, parsed, deep⟩)
    · refine .inr ⟨handle, found, .inr ⟨.bytes bytes, isRead, .inl (.inl ⟨refusal, rfl, ?_⟩)⟩⟩
      exact Xml.parse_refused_iff.2 ⟨bytes, name, rfl, declared, unusable⟩
    · exact .inr ⟨handle, found, .inr ⟨content, isRead, .inl (.inr ⟨rfl, root, parsed, deep⟩)⟩⟩

/-! ### Resolving and locating disks -/

theorem unjoined_cases {disks : List Disk} {files : List FileReference} {item : Item}
    (unjoined : Unjoined disks files item fault) (noDefect : fault.isDefect = false) :
    (∃ value, fault = .unsupported value) ∨ ∃ count, fault = .number (.tooManyDigits count) := by
  cases unjoined with
  | hostResource _ => exact .inl ⟨_, rfl⟩
  | capacity _ _ _ _ _ => exact .inl ⟨_, rfl⟩
  | units _ _ _ _ _ refused => exact (read_error refused).imp_left fun same => ⟨_, same⟩
  | _ => cases noDefect

theorem unresolved_cases {hardware : HardwareSection} {disks : List Disk} {files : List FileReference}
    (unresolved : Unresolved hardware disks files fault) (noDefect : fault.isDefect = false) :
    (∃ value, fault = .unsupported value) ∨ ∃ count, fault = .number (.tooManyDigits count) := by
  cases unresolved with
  | item _ _ _ first => exact unjoined_cases first noDefect
  | _ => cases noDefect

theorem resolution_error_iff (noDefect : fault.isDefect = false) :
    (resolution d).result = .error fault ↔ DisksUnresolved d fault := by
  unfold resolution DisksUnresolved
  rw [Narrated.result_bind, bind_error_iff]
  simp only [descriptorHardware_ok_iff]
  constructor
  · rintro (failed | ⟨hardware, ⟨system, isSystem, isFirst⟩, failed⟩)
    · rw [(quiet_descriptorHardware d).faulty fault failed] at noDefect
      cases noDefect
    · obtain ⟨sec, files, isSection, isFiles⟩ := sections_of_noDefect failed noDefect
      rw [isSection, isFiles, diskInfos_error_iff] at failed
      exact ⟨system, hardware, sec, files, isSystem, isFirst, isSection, isFiles, failed⟩
  · rintro ⟨system, hardware, sec, files, isSystem, isFirst, isSection, isFiles, unresolved⟩
    refine .inr ⟨hardware, ⟨system, isSystem, isFirst⟩, ?_⟩
    rw [isSection, isFiles, diskInfos_error_iff]
    exact unresolved

/-- Of the exponents that are too long, that of the first disk item which is not joined is reached. -/
theorem resolution_exponent_iff {count : Nat} :
    (resolution d).result = .error (.number (.tooManyDigits count)) ↔
      ∃ system hardware, d.virtualSystem = some system ∧ system.hardware.head? = some hardware ∧
        DisksTooLong d hardware count := by
  unfold resolution
  rw [Narrated.result_bind, bind_error_iff]
  simp only [descriptorHardware_ok_iff]
  constructor
  · rintro (failed | ⟨hardware, ⟨system, isSystem, isFirst⟩, failed⟩)
    · cases (quiet_descriptorHardware d).faulty _ failed
    · obtain ⟨_, tooLong, ⟨⟩⟩ := (diskInfos_other_iff rfl).1 failed
      exact ⟨system, hardware, isSystem, isFirst, tooLong⟩
  · rintro ⟨system, hardware, isSystem, isFirst, tooLong⟩
    exact .inr ⟨hardware, ⟨system, isSystem, isFirst⟩, (diskInfos_other_iff rfl).2 ⟨count, tooLong, rfl⟩⟩

/-- While storage fails as it should, a disk without a location is what else there is. -/
theorem locate_undocumented_iff (failing : FailsAsStorage client) (undocumented : ¬ IsDocumented fault)
    {info : DiskInfo} : (locate client package info).result = .error fault ↔
      info.location = none ∧ fault = .absent .href := by
  cases location : info.location with
  | none =>
    unfold locate
    rw [location]
    exact ⟨fun failed => ⟨rfl, (Except.error.inj failed).symm⟩,
      fun ⟨_, same⟩ => congrArg Except.error same.symm⟩
  | some href =>
    rw [locate_error_iff location]
    constructor
    · intro failed
      exact absurd (.inr (failing.join _ _ _ failed)) undocumented
    · rintro ⟨⟨⟩, -⟩

/-! ### Loading with disks -/

theorem loadWithDisksThrough_error_iff : (loadWithDisksThrough room storage package).result = .error fault ↔
    (loadThrough room storage package).result = .error fault ∨ ∃ d, Complete room storage package d ∧
      ((resolution d).result = .error fault ∨ ∃ infos, Resolves d infos ∧
        ((infos.zipIdx (2 + (listed d).length)).mapM fun entry =>
          (locate (storage entry.2) package entry.1).result) = .error fault) := by
  unfold loadWithDisksThrough
  simp only [Narrated.result_bind, bind_error_iff, Narrated.result_mapM, Narrated.result_pure, reduceCtorEq,
    and_false, exists_false, or_false, loadThrough_ok_iff, resolution_ok_iff]

/-- While storage has no faults but its failures, loading with disks has just these faults beside defects of
the descriptor and those failures. It is so too where storage answers in another way each time it is asked;
where it does not, the steps for such storage are those of loading with disks. -/
theorem loading_undocumented (room : Nat) (package : String) :
    (∀ storage : Nat → Client, (∀ n, FailsAsStorage (storage n)) → ∀ fault, ¬ IsDocumented fault →
      ((loadWithDisksThrough room storage package).result = .error fault ↔ Undocumented room storage package fault)) ∧
    ∀ client, loadWithDisksThrough room (fun _ => client) package = loadWithDisks room client package := by
  refine ⟨fun storage failing fault undocumented => ?_, fun client => loadWithDisksThrough_const room client package⟩
  have noDefect : fault.isDefect = false := by
    rw [← Bool.not_eq_true]
    exact fun isDefect => undocumented (.inl isDefect)
  rw [loadWithDisksThrough_error_iff]
  constructor
  · rintro (failed | ⟨d, complete, failed | ⟨infos, resolved, failed⟩⟩)
    · rcases (loadThrough_undocumented_iff failing undocumented).1 failed with
        ⟨handle, bytes, name, refusal, rfl, opens, declared, unusable⟩ |
        ⟨handle, content, root, rfl, opens, parsed, deep⟩
      · exact .encoding opens declared unusable
      · exact .tooDeep opens parsed deep
    · have unresolved := (resolution_error_iff noDefect).1 failed
      obtain ⟨_, _, _, _, _, _, _, _, cause⟩ := id unresolved
      rcases unresolved_cases cause noDefect with ⟨value, rfl⟩ | ⟨count, rfl⟩
      · exact .unsupported complete unresolved
      · obtain ⟨system, hardware, isSystem, isFirst, tooLong⟩ := resolution_exponent_iff.1 failed
        exact .exponent complete isSystem isFirst tooLong
    · obtain ⟨before, ⟨info, n⟩, after, split, earlier, failed⟩ := mapM_error_iff.1 failed
      obtain ⟨nowhere, rfl⟩ := (locate_undocumented_iff (failing n) undocumented).1 failed
      exact .unlocated complete resolved split
        (fun entry member => (earlier entry member).imp fun _ located => locate_ok_iff.1 located) nowhere
  · intro found
    cases found with
    | encoding opens declared unusable =>
      exact .inl ((loadThrough_undocumented_iff failing undocumented).2
        (.inl ⟨_, _, _, _, rfl, opens, declared, unusable⟩))
    | tooDeep opens parsed deep =>
      exact .inl ((loadThrough_undocumented_iff failing undocumented).2
        (.inr ⟨_, _, _, rfl, opens, parsed, deep⟩))
    | unsupported complete unresolved =>
      exact .inr ⟨_, complete, .inl ((resolution_error_iff noDefect).2 unresolved)⟩
    | exponent complete isSystem isFirst tooLong =>
      exact .inr ⟨_, complete, .inl (resolution_exponent_iff.2 ⟨_, _, isSystem, isFirst, tooLong⟩)⟩
    | @unlocated d infos info n before after complete resolved split earlier nowhere =>
      refine .inr ⟨d, complete, .inr ⟨infos, resolved,
        mapM_error_iff.2 ⟨before, (info, n), after, split, ?_, ?_⟩⟩⟩
      · exact fun entry member => (earlier entry member).imp fun _ places => locate_ok_iff.2 places
      · exact (locate_undocumented_iff (failing n) undocumented).2 ⟨nowhere, rfl⟩

/-! ### A disk item that names no disk -/

theorem failsAsStorage_of_serves (serves : Serves client) : FailsAsStorage client where
  find base wanted fault failed := by
    obtain ⟨failure, rfl⟩ := (serves.find base wanted).failing fault failed
    rfl
  read handle fault failed := by
    obtain ⟨failure, rfl⟩ := (serves.read handle).failing fault failed
    rfl
  join base name fault failed := by
    obtain ⟨failure, rfl⟩ := (serves.join base name).failing fault failed
    rfl

def elsewhereDocument : List Char :=
  ["<E><References/><DiskSection><Disk/></DiskSection>", "<VirtualSystem><VirtualHardwareSection>",
    "<Item><ResourceType>17</ResourceType>", "<HostResource>elsewhere</HostResource></Item>",
    "</VirtualHardwareSection></VirtualSystem></E>"].flatMap String.toList

def elsewhereItem : Item :=
  { resourceType := some 17, hostResource := ["elsewhere"] }

def elsewhereDescriptor : Descriptor where
  references := some ⟨none, none, []⟩
  diskSection := some ⟨none, none, [⟨none, none, none, none⟩]⟩
  virtualSystem := some { hardware := [⟨[elsewhereItem]⟩] }

/-- Storage that holds only a document. -/
def documentStorage (document : List Char) : Client :=
  Table.client ⟨[".ovf"], [], .ok (.bytes (Xml.encodeUtf8 document))⟩

/-- The value that is not supported and the encoding that cannot be used leave loading as they are, and so does
a list of which there are two and that is too deep. -/
theorem loading_undocumented_elsewhere :
    (loadWithDisks 900 (documentStorage elsewhereDocument) "p").result =
      .error (.unsupported (.hostResource (some "elsewhere"))) ∧
    (loadWithDisks 900 (documentStorage "<?xml version='1.0' encoding='nowhere'?><E/>".toList) "p").result =
      .error (.document (.unknownEncoding "nowhere")) ∧
    (loadWithDisks 1 (documentStorage deepDocument) "p").result = .error .tooDeep := by
  have failing (document : List Char) : ∀ _ : Nat, FailsAsStorage (documentStorage document) :=
    fun _ => failsAsStorage_of_serves (serves_table _)
  have opens (document : List Char) : Opens (fun _ => documentStorage document) "p" ⟨"p", ".ovf", "p/.ovf"⟩
      (.bytes (Xml.encodeUtf8 document)) := ⟨rfl, rfl⟩
  rw [← loadWithDisksThrough_const, ← loadWithDisksThrough_const, ← loadWithDisksThrough_const]
  refine ⟨?_, ?_, ?_⟩
  · have parsed : (Descriptor.parse 900 (.bytes (Xml.encodeUtf8 elsewhereDocument))).result = .ok elsewhereDescriptor :=
      parse_of_formed (by decide +kernel) (by decide +kernel) (by decide +kernel) (by decide +kernel)
    have complete : Complete 900 (fun _ => documentStorage elsewhereDocument) "p" elsewhereDescriptor :=
      ⟨_, _, opens _, parsed, nofun⟩
    have unnamed : ∀ id, ¬ elsewhereItem.Names id := by
      intro id named
      have none : elsewhereItem.hostResource.head?.bind diskIdOf? = none := by decide
      cases none.symm.trans (names_iff.1 named)
    have unresolved : DisksUnresolved elsewhereDescriptor (.unsupported (.hostResource (some "elsewhere"))) :=
      ⟨_, _, _, _, rfl, rfl, rfl, rfl,
        @Unresolved.item _ _ _ [] [] elsewhereItem _ nofun rfl nofun (.hostResource unnamed)⟩
    exact ((loading_undocumented 900 "p").1 _ (failing _) _ (by decide)).2 (.unsupported complete unresolved)
  · have declared : Xml.DeclaresEncoding
        (Xml.encodeUtf8 "<?xml version='1.0' encoding='nowhere'?><E/>".toList) "nowhere" := by decide +kernel
    have unusable : Xml.Unusable "nowhere" (.unknownEncoding "nowhere") := by decide +kernel
    exact ((loading_undocumented 900 "p").1 _ (failing _) _ (by decide)).2 (.encoding (opens _) declared unusable)
  · obtain ⟨root, parsed, deep⟩ := exists_deepAmbiguity
    exact ((loading_undocumented 1 "p").1 _ (failing _) _ (by decide)).2 (.tooDeep (opens _) parsed deep)

end OvfInspect.Package
