import OvfInspect.Package.Loader
import OvfInspect.Proofs.DiskJoin

/-!
# What a loaded package has

A package is loaded only if every file that its descriptor lists is found. The location of a disk is
made from the location of such a file.
-/

namespace OvfInspect.Package

open Storage

variable {room : Nat} {client : Client} {package : String} {d : Descriptor}

theorem check_ok_iff {file : FileReference} : (check client package file).result = .ok () ↔
    ∃ handle, (client.find package file.href).result = .ok handle := by
  unfold check
  rw [Narrated.bind_ok_iff]
  constructor
  · rintro ⟨outcome, attempted, checked⟩
    cases outcome with
    | ok handle => exact ⟨handle, Except.ok.inj attempted⟩
    | error fault => cases fault <;> cases checked
  · rintro ⟨handle, found⟩
    refine ⟨.ok handle, ?_, rfl⟩
    rw [← found]
    rfl

/-- The files that a descriptor lists. -/
def listed (d : Descriptor) : List FileReference :=
  d.files.getD []

theorem validate_ok_iff {d' : Descriptor} : (validate client (some d) package).result = .ok d' ↔
    d = d' ∧ ∀ file ∈ listed d, ∃ handle, (client.find package file.href).result = .ok handle := by
  unfold validate listed
  dsimp only
  cases d.files with
  | none =>
    rw [Narrated.result_log_bind, Narrated.pure_ok_iff]
    simp
  | some files =>
    simp only [Narrated.bind_ok_iff, Narrated.pure_ok_iff, Option.getD_some, ← check_ok_iff,
      ← Narrated.forM_ok_iff]
    exact ⟨fun ⟨_, checked, same⟩ => ⟨same, checked⟩, fun ⟨same, checked⟩ => ⟨(), checked, same⟩⟩

theorem result_load (room : Nat) (client : Client) (package : String) : (load room client package).result =
    (client.find package (some descriptorSuffix)).result.bind fun handle =>
      (client.read handle).result.bind fun content =>
        (Descriptor.parse room content).result.bind fun d => (validate client (some d) package).result := by
  unfold load content
  simp only [Narrated.result_bind, Narrated.result_pure, Narrated.result_log]
  cases (client.find package (some descriptorSuffix)).result with
  | error fault => rfl
  | ok handle => cases isRead : (client.read handle).result <;> simp only [Except.bind, isRead]

/-- A package is loaded if its descriptor is found, read and parsed and all its files are found. -/
theorem load_ok_iff : (load room client package).result = .ok d ↔
    ∃ handle content, (client.find package (some descriptorSuffix)).result = .ok handle ∧
      (client.read handle).result = .ok content ∧ (Descriptor.parse room content).result = .ok d ∧
      ∀ file ∈ listed d, ∃ handle, (client.find package file.href).result = .ok handle := by
  unfold load content
  simp only [Narrated.bind_ok_iff, Narrated.pure_ok_iff, Narrated.result_log_bind, validate_ok_iff]
  constructor
  · rintro ⟨_, ⟨handle, lookup, content, read, rfl⟩, parsed, isParsed, rfl, found⟩
    exact ⟨handle, content, lookup, read, isParsed, found⟩
  · rintro ⟨handle, content, lookup, read, isParsed, found⟩
    exact ⟨_, ⟨handle, lookup, content, read, rfl⟩, d, isParsed, rfl, found⟩

theorem diskInfos_ok_sections {h : HardwareSection} {sec : Option DiskSection}
    {files : Option (List FileReference)} {infos : List DiskInfo}
    (joined : (diskInfos (some h) sec files).result = .ok infos) :
    ∃ disks listing, sec = some disks ∧ files = some listing := by
  unfold diskInfos at joined
  dsimp only at joined
  split at joined
  · cases joined
  · next someDisks =>
    cases sec with
    | none => exact absurd rfl someDisks
    | some disks =>
      cases files with
      | none => cases joined
      | some listing => exact ⟨disks, listing, rfl, rfl⟩

theorem diskInfos_location {h : HardwareSection} {infos : List DiskInfo}
    (joined : (diskInfos (some h) d.diskSection d.files).result = .ok infos) {info : DiskInfo}
    (member : info ∈ infos) : ∃ file ∈ listed d, info.location = file.href := by
  obtain ⟨disks, files, someDisks, someFiles⟩ := diskInfos_ok_sections joined
  rw [someDisks, someFiles, diskInfos_ok_iff] at joined
  obtain ⟨item, -, -, disk, reference, file, -, -, -, stored, same, -⟩ :=
    exists_of_forall₂ joined.2.2 member
  obtain ⟨before, after, split, -, -⟩ := stored
  refine ⟨file, ?_, same⟩
  rw [listed, someFiles, Option.getD_some, split]
  simp

theorem locate_ok_iff {disk : DiskInfo} {located : LocatedDisk} :
    (locate client package disk).result = .ok located ↔
      ∃ href, disk.location = some href ∧
        (client.join package href).result = .ok located.location ∧
        located.sizeInGb = disk.sizeInGb := by
  unfold locate
  cases location : disk.location with
  | none => simp
  | some href =>
    simp only [Narrated.bind_ok_iff, Narrated.pure_ok_iff, Option.some.injEq, exists_eq_left']
    constructor
    · rintro ⟨path, joined, rfl⟩
      exact ⟨joined, rfl⟩
    · rintro ⟨joined, size⟩
      exact ⟨located.location, joined, by rw [← size]⟩

theorem loadWithDisks_ok_iff {disks : List LocatedDisk} :
    (loadWithDisks room client package).result = .ok (d, disks) ↔
      (load room client package).result = .ok d ∧
      ∃ hardware infos, (descriptorHardware (some d)).result = .ok hardware ∧
        (diskInfos (some hardware) d.diskSection d.files).result = .ok infos ∧
        List.Forall₂ (fun info disk => (locate client package info).result = .ok disk) infos disks := by
  unfold loadWithDisks
  simp only [Narrated.bind_ok_iff, Narrated.pure_ok_iff, Narrated.result_mapM, mapM_ok_iff,
    Prod.mk.injEq]
  constructor
  · rintro ⟨_, isLoaded, hardware, isHardware, infos, joined, _, located, rfl, rfl⟩
    exact ⟨isLoaded, hardware, infos, isHardware, joined, located⟩
  · rintro ⟨isLoaded, hardware, infos, isHardware, joined, located⟩
    exact ⟨d, isLoaded, hardware, isHardware, infos, joined, disks, located, rfl, rfl⟩

/-- Every disk of a package is located by the location of a listed file that was found. -/
theorem loadWithDisks_found {disks : List LocatedDisk}
    (loaded : (loadWithDisks room client package).result = .ok (d, disks)) :
    ∀ disk ∈ disks, ∃ file ∈ listed d, ∃ href handle, file.href = some href ∧
      (client.find package (some href)).result = .ok handle ∧
      (client.join package href).result = .ok disk.location := by
  obtain ⟨isLoaded, hardware, infos, -, joined, located⟩ := loadWithDisks_ok_iff.1 loaded
  obtain ⟨-, -, -, -, -, found⟩ := load_ok_iff.1 isLoaded
  intro disk member
  obtain ⟨info, isInfo, located⟩ := exists_of_forall₂ located member
  obtain ⟨href, location, path, -⟩ := locate_ok_iff.1 located
  obtain ⟨file, isListed, same⟩ := diskInfos_location joined isInfo
  obtain ⟨handle, lookup⟩ := found file isListed
  rw [← same, location] at lookup
  exact ⟨file, isListed, href, handle, by rw [← same, location], lookup, path⟩

end OvfInspect.Package
