import Mathlib.Data.List.DropRight
import OvfInspect.Proofs.DirectoryLookup

/-!
# Confinement to the package directory

In a directory a name is followed as a path, which may be absolute or take steps up. Such a name leads
to a file outside of the package unless it comes back down into the directory. `confinement` says
exactly which names stay inside: of what is looked up, of what a descriptor lists, and of its disks.
-/

namespace OvfInspect.Storage.FileTree

open Storage.Path

theorem destination_of_absolute (tree : FileTree) {path : String} (absolute : isAbsolute path = true) :
    tree.destination path = normalComponents path := by
  rw [normalComponents_of_absolute absolute, destination, startOf, if_pos absolute]

end OvfInspect.Storage.FileTree

namespace OvfInspect.Storage.Path

variable {directory name path : String}

/-- In normal form the path goes on from the directory by at least one name. -/
def Below (directory path : String) : Prop :=
  ∃ rest, rest ≠ [] ∧ normalComponents path = normalComponents directory ++ rest

theorem below_iff : Below directory path ↔
    normalComponents directory <+: normalComponents path ∧
      normalComponents directory ≠ normalComponents path := by
  constructor
  · rintro ⟨rest, someName, split⟩
    rw [split]
    refine ⟨List.prefix_append _ rest, fun same => someName ?_⟩
    simpa using same
  · rintro ⟨⟨rest, split⟩, differs⟩
    refine ⟨rest, ?_, split.symm⟩
    rintro rfl
    rw [List.append_nil] at split
    exact differs split

instance (directory path : String) : Decidable (Below directory path) :=
  decidable_of_iff _ below_iff.symm

/-- The names that lead below a directory. Steps up have to be made good by the names that they leave
out. -/
inductive LeadsBelow (directory name : String) : Prop where
  | relative (n : Nat) (rest : List String) (isRelative : isAbsolute name = false)
      (normal : normalComponents name = List.replicate n ".." ++ (normalComponents directory).rtake n ++ rest)
      (someName : rest ≠ []) (noStepUp : ".." ∉ rest) : LeadsBelow directory name
  | absolute (isAbsolute : isAbsolute name = true) (below : Below directory name) :
      LeadsBelow directory name

/-! ### Steps up -/

theorem foldl_step_replicate_up (n : Nat) (place : List String) :
    (List.replicate n "..").foldl step place = place.rdrop n := by
  induction n generalizing place with
  | zero => exact (List.rdrop_zero place).symm
  | succ n ih =>
    have up : step place ".." = place.dropLast := rfl
    rw [List.replicate_succ, List.foldl_cons, ih, up, List.rdrop, List.rdrop, List.dropLast_eq_take,
      List.take_take, List.length_take]
    congr 1
    omega

section Directory

variable (absolute : isAbsolute directory = true)
include absolute

theorem named_normalComponents : Named (normalComponents directory) := by
  rw [normalComponents_of_absolute absolute]
  exact named_foldl_step named_nil _

theorem normalComponents_join (relative : isAbsolute name = false) :
    normalComponents (join directory name) = (components name).foldl step (normalComponents directory) := by
  rw [normalComponents_of_absolute (isAbsolute_join absolute name), foldl_step_join directory relative,
    normalComponents_of_absolute absolute]

theorem normalComponents_join_normalize (name : String) :
    normalComponents (join directory (normalize name)) = normalComponents (join directory name) := by
  have anyTree : FileTree := ⟨[], []⟩
  rw [← anyTree.destination_of_absolute (isAbsolute_join absolute _),
    ← anyTree.destination_of_absolute (isAbsolute_join absolute _),
    FileTree.destination_join_normalize absolute]

theorem below_join_of_relative (relative : isAbsolute name = false) :
    Below directory (join directory name) ↔ ∃ n rest, rest ≠ [] ∧ ".." ∉ rest ∧
      normalComponents name = List.replicate n ".." ++ (normalComponents directory).rtake n ++ rest := by
  have place := named_normalComponents absolute
  have joined := normalComponents_join absolute relative
  rw [← foldl_step_normalComponents (by rw [relative]; exact nofun)] at joined
  have whole (n : Nat) : (normalComponents directory).rdrop n ++ (normalComponents directory).rtake n =
    normalComponents directory := List.take_append_drop _ _
  constructor
  · rintro ⟨rest, someName, below⟩
    obtain ⟨n, names, normal, named⟩ := exists_normalComponents_eq relative
    rw [joined, normal, List.foldl_append, foldl_step_replicate_up, foldl_step_of_named named] at below
    have same : (normalComponents directory).rdrop n ++ names =
        (normalComponents directory).rdrop n ++ ((normalComponents directory).rtake n ++ rest) := by
      rw [below, ← List.append_assoc, whole]
    have back := List.append_cancel_left same
    refine ⟨n, rest, someName, fun up => ?_, by rw [normal, back, List.append_assoc]⟩
    exact (named ".." (by rw [back]; exact List.mem_append_right _ up)).2 rfl
  · rintro ⟨n, rest, someName, noStepUp, normal⟩
    have named : Named ((normalComponents directory).rtake n ++ rest) := by
      intro c member
      rcases List.mem_append.1 member with inside | inRest
      · exact place c (List.mem_of_mem_drop inside)
      · have inName : c ∈ normalComponents name := by
          rw [normal]
          exact List.mem_append_right _ inRest
        exact ⟨isProper_of_mem_normalComponents inName, fun up => noStepUp (up ▸ inRest)⟩
    refine ⟨rest, someName, ?_⟩
    rw [joined, normal, List.append_assoc, List.foldl_append, foldl_step_replicate_up,
      foldl_step_of_named named, ← List.append_assoc, whole]

/-- A path made in the directory is below it just if its name leads there. -/
theorem below_join_iff : Below directory (join directory name) ↔ LeadsBelow directory name := by
  constructor
  · intro below
    cases isAbsolute' : isAbsolute name with
    | true =>
      rw [join_of_absolute directory isAbsolute'] at below
      exact .absolute isAbsolute' below
    | false =>
      obtain ⟨n, rest, someName, noStepUp, normal⟩ := (below_join_of_relative absolute isAbsolute').1 below
      exact .relative n rest isAbsolute' normal someName noStepUp
  · rintro (⟨n, rest, isRelative, normal, someName, noStepUp⟩ | ⟨isAbsolute', below⟩)
    · exact (below_join_of_relative absolute isRelative).2 ⟨n, rest, someName, noStepUp, normal⟩
    · rwa [join_of_absolute directory isAbsolute']

theorem below_join_normalize_iff :
    Below directory (join directory (normalize name)) ↔ LeadsBelow directory name := by
  rw [← below_join_iff absolute, Below, Below, normalComponents_join_normalize absolute]

theorem leadsBelow_of_name (noSlash : '/' ∉ name.toList) (isName : isProper name = true)
    (notUp : name ≠ "..") : LeadsBelow directory name := by
  have relative := isAbsolute_of_noSlash noSlash
  refine (below_join_iff absolute).1 ⟨[name], List.cons_ne_nil _ _, ?_⟩
  rw [normalComponents_join absolute relative, components_of_noSlash noSlash]
  exact step_of_name _ isName notUp

end Directory

end OvfInspect.Storage.Path

namespace OvfInspect.Storage

open Storage.Path

/-! ### What is found -/

variable {tree : FileTree} {base wanted : String} {handle : Handle}

namespace Directory

theorem result_join (tree : FileTree) (base name : String) :
    (join tree base name).result = .ok (Path.join (directoryOf tree base) name) :=
  join_ok_iff.2 ⟨_, result_packageDirectory tree base, rfl⟩

theorem noSlash_of_find (spelled : tree.Spelled) (found : (find tree base (some wanted)).result = .ok handle)
    (isExtension : isExtension wanted = true) :
    '/' ∉ handle.name.toList ∧ handle.name.endsWith wanted = true := by
  obtain ⟨names, -, isNames, member, -, -⟩ := find_ok found
  rw [candidates, if_neg (by rw [isExtension]; decide)] at isNames
  split at isNames
  · next itself =>
    obtain rfl := Except.ok.inj isNames
    rw [List.mem_singleton.1 member]
    have noSlash := Package.slash_not_mem_extension isExtension
    rw [Bool.and_eq_true] at itself
    exact ⟨slash_not_mem_baseName base, (baseName_endsWith noSlash).2 itself.2⟩
  · obtain ⟨listed, isListed, rfl⟩ := map_ok_iff.1 isNames
    obtain ⟨inListed, ending⟩ := List.mem_filter.1 member
    unfold listing at isListed
    split at isListed
    · cases isListed
    · split at isListed
      · next names list =>
        obtain rfl := Except.ok.inj isListed
        obtain ⟨-, rfl⟩ := FileTree.list_ok list
        obtain ⟨entry, there⟩ := FileTree.mem_namesAt_iff.1 inListed
        exact ⟨spelled.entries _ (FileTree.mem_entries there) _ (by simp), ending⟩
      · cases isListed

/-- What is found, and what its name is joined to, is below the directory just if the name leads
there. Without steps up every relative name does, and so does an extension. -/
structure Confined (tree : FileTree) (base wanted directory : String) (handle : Handle) : Prop where
  path : Below directory handle.path ↔ LeadsBelow directory wanted
  location : ∃ location, (join tree base wanted).result = .ok location ∧
    (Below directory location ↔ LeadsBelow directory wanted)
  plain : isAbsolute wanted = false → ".." ∉ normalComponents wanted → LeadsBelow directory wanted

/-- A name that neither is absolute nor goes up leads below the directory, unless it is the directory
itself. -/
theorem leadsBelow_of_isFile {directory : String}
    (file : tree.isFile (Path.join directory (normalize wanted)) = true)
    (relative : isAbsolute wanted = false) (noStepUp : ".." ∉ normalComponents wanted) :
    LeadsBelow directory wanted := by
  refine .relative 0 (normalComponents wanted) relative ?_ ?_ noStepUp
  · rw [List.rtake_zero]
    rfl
  · intro here
    have point : normalize wanted = "." := by
      rw [Path.normalize, here, leadingSlashes_of_relative relative]
      rfl
    rw [point] at file
    obtain ⟨before, parts, -⟩ := components_join directory (by decide +kernel : isAbsolute "." = false)
    have single : components "." = ["."] := by decide
    rw [single] at parts
    obtain ⟨⟨-, -, -, passable⟩, entry, there, isFile⟩ := FileTree.isFile_iff.1 file
    have isDirectory := (passable before "." [] parts).1
    rw [FileTree.destination, parts, List.foldl_append, List.foldl_cons, List.foldl_nil,
      step_of_not_proper _ (by decide), isDirectory] at there
    obtain rfl := Option.some.inj there
    cases isFile

theorem confined (spelled : tree.Spelled) (found : (find tree base (some wanted)).result = .ok handle) :
    Confined tree base wanted (directoryOf tree base) handle := by
  have absolute := isAbsolute_directoryOf tree base
  obtain ⟨names, isDirectory, isNames, member, path, file⟩ := find_ok found
  rw [result_packageDirectory] at isDirectory
  rw [← Except.ok.inj isDirectory] at isNames path
  rw [path] at file
  have location : ∃ location, (join tree base wanted).result = .ok location ∧
      (Below (directoryOf tree base) location ↔ LeadsBelow (directoryOf tree base) wanted) :=
    ⟨_, result_join tree base wanted, below_join_iff absolute⟩
  cases isExtension : isExtension wanted with
  | false =>
    rw [candidates, isExtension] at isNames
    obtain rfl := Except.ok.inj isNames
    rw [List.mem_singleton.1 member] at path file
    exact ⟨by rw [path]; exact below_join_normalize_iff absolute, location, leadsBelow_of_isFile file⟩
  | true =>
    obtain ⟨-, isName, notUp⟩ := Package.components_of_extension isExtension
    obtain ⟨noSlash, ending⟩ := noSlash_of_find spelled found isExtension
    obtain ⟨isName', notUp'⟩ := isName_of_endsWith_extension isExtension ending
    have leads := leadsBelow_of_name absolute (Package.slash_not_mem_extension isExtension) isName notUp
    have leads' := leadsBelow_of_name absolute noSlash isName' notUp'
    exact ⟨by rw [path, below_join_iff absolute]; exact iff_of_true leads' leads, location, fun _ _ => leads⟩

end Directory

end OvfInspect.Storage

namespace OvfInspect.Package

open Storage Storage.Path

variable {room : Nat} {tree : FileTree}

/-- What is confined to the directory of a package, and what is not. -/
structure Confinement (tree : FileTree) (package directory : String) : Prop where
  found : ∀ wanted handle, (Directory.find tree package (some wanted)).result = .ok handle →
    Directory.Confined tree package wanted directory handle
  /-- A listed file that is accepted was found, and lies below the directory if its name leads there. -/
  accepted : ∀ d d', (validate (Directory.client tree) (some d) package).result = .ok d' →
    ∀ file ∈ listed d, ∃ href handle, file.href = some href ∧
      (Directory.find tree package (some href)).result = .ok handle ∧
      (Below directory handle.path ↔ LeadsBelow directory href)
  located : ∀ room d disks, (loadWithDisks room (Directory.client tree) package).result = .ok (d, disks) →
    ∀ disk ∈ disks, ∃ href, Lists d href ∧ disk.location = join directory href ∧
      (Below directory disk.location ↔ LeadsBelow directory href)

/-- A package in a directory is confined to it as far as the names lead below it that are looked up
and that its descriptor lists. -/
theorem confinement (spelled : tree.Spelled) (package : String) :
    Confinement tree package (Directory.directoryOf tree package) where
  found _ _ found := Directory.confined spelled found
  accepted d d' valid file isListed := by
    obtain ⟨-, allFound⟩ := validate_ok_iff.1 valid
    obtain ⟨handle, found⟩ := allFound file isListed
    have found' : (Directory.find tree package file.href).result = .ok handle := found
    cases isHref : file.href with
    | none =>
      rw [isHref, Directory.find_none] at found'
      cases found'
    | some href =>
      rw [isHref] at found'
      exact ⟨href, handle, rfl, found', (Directory.confined spelled found').path⟩
  located _ d disks loaded disk member := by
    obtain ⟨file, isListed, href, handle, isHref, -, joined⟩ := loadWithDisks_found loaded disk member
    have joined' : (Directory.join tree package href).result = .ok disk.location := joined
    rw [Directory.result_join] at joined'
    have location := (Except.ok.inj joined').symm
    refine ⟨href, ⟨file, isListed, isHref⟩, location, ?_⟩
    rw [location]
    exact below_join_iff (Directory.isAbsolute_directoryOf tree package)

/-! ### A package that reaches out -/

/-- A document with a disk that is not in the directory. -/
def outwardDocument : List Char :=
  ["<E><References>", "<File id='f' href='../secret'/>", "</References><DiskSection>",
    "<Disk diskId='d' fileRef='f' ", "capacity='1' ", "capacityAllocationUnits=", "'byte * 2^30'/>",
    "</DiskSection><VirtualSystem>", "<VirtualHardwareSection>",
    "<Item><ResourceType>17</ResourceType>", "<HostResource>ovf:/disk/d</HostResource></Item>",
    "</VirtualHardwareSection>", "</VirtualSystem></E>"].flatMap String.toList

def outwardHardware : HardwareSection :=
  ⟨[{ resourceType := some 17, hostResource := ["ovf:/disk/d"] }]⟩

def outwardDescriptor : Descriptor where
  references := some ⟨none, none, [⟨some "f", some "../secret", none⟩]⟩
  diskSection := some ⟨none, none, [⟨some "d", some "f", some "1", some "byte * 2^30"⟩]⟩
  virtualSystem := some { hardware := [outwardHardware] }

def outwardFiles : FileTree :=
  ⟨[(["pkg"], .directory), (["pkg", "p.ovf"], .file (Xml.encodeUtf8 outwardDocument)),
    (["pkg", "disk"], .file []), (["secret"], .file [])], []⟩

theorem parse_outward :
    (Descriptor.parse room (.bytes (Xml.encodeUtf8 outwardDocument))).result = .ok outwardDescriptor :=
  parse_of_formed (by decide +kernel) (by decide +kernel) (by decide +kernel) (by decide +kernel)

theorem find_outward :
    (Directory.find outwardFiles "pkg/p.ovf" (some "disk")).result = .ok ⟨"/pkg", "disk", "/pkg/disk"⟩ ∧
    (Directory.find outwardFiles "pkg/p.ovf" (some "../secret")).result =
      .ok ⟨"/pkg", "../secret", "/pkg/../secret"⟩ :=
  ⟨toOption_eq_some_iff.1 (by decide +kernel), toOption_eq_some_iff.1 (by decide +kernel)⟩

theorem found_outward : ∀ file ∈ listed outwardDescriptor, ∃ handle,
    ((Directory.client outwardFiles).find "pkg/p.ovf" file.href).result = .ok handle := by
  rintro file (_ | ⟨_, ⟨⟩⟩)
  exact ⟨_, find_outward.2⟩

theorem loadWithDisks_outward : (loadWithDisks room (Directory.client outwardFiles) "pkg/p.ovf").result =
    .ok (outwardDescriptor, [⟨"/pkg/../secret", 1⟩]) := by
  have descriptor : ((Directory.client outwardFiles).find "pkg/p.ovf" (some descriptorSuffix)).result =
      .ok ⟨"/pkg", "p.ovf", "/pkg/p.ovf"⟩ := toOption_eq_some_iff.1 (by decide +kernel)
  have content : ((Directory.client outwardFiles).read ⟨"/pkg", "p.ovf", "/pkg/p.ovf"⟩).result =
      .ok (.bytes (Xml.encodeUtf8 outwardDocument)) := toOption_eq_some_iff.1 (by decide +kernel)
  have joined : (diskInfos (some outwardHardware) outwardDescriptor.diskSection
      outwardDescriptor.files).result = .ok [⟨some "../secret", 1⟩] :=
    toOption_eq_some_iff.1 (by decide +kernel)
  have located : (locate (Directory.client outwardFiles) "pkg/p.ovf" ⟨some "../secret", 1⟩).result =
      .ok ⟨"/pkg/../secret", 1⟩ := toOption_eq_some_iff.1 (by decide +kernel)
  exact loadWithDisks_ok_iff.2 ⟨load_ok_iff.2 ⟨_, _, descriptor, content, parse_outward, found_outward⟩,
    outwardHardware, _, rfl, joined, .cons located .nil⟩

theorem spelled_outwardFiles : outwardFiles.Spelled := by
  refine ⟨?_, nofun⟩
  simp [outwardFiles]

/-- The file is accepted and the disk is located outside of the directory, while another file is in it. -/
theorem confinement_outward : outwardFiles.Spelled ∧
    (validate (Directory.client outwardFiles) (some outwardDescriptor) "pkg/p.ovf").result =
      .ok outwardDescriptor ∧
    (loadWithDisks 900 (Directory.client outwardFiles) "pkg/p.ovf").result =
      .ok (outwardDescriptor, [⟨"/pkg/../secret", 1⟩]) ∧
    (LeadsBelow "/pkg" "disk" ∧ Below "/pkg" "/pkg/disk") ∧
    ¬ LeadsBelow "/pkg" "../secret" ∧ ¬ Below "/pkg" "/pkg/../secret" := by
  have confinement := confinement spelled_outwardFiles "pkg/p.ovf"
  have root : Directory.directoryOf outwardFiles "pkg/p.ovf" = "/pkg" := by decide +kernel
  rw [root] at confinement
  have inner := confinement.found _ _ find_outward.1
  have outer := confinement.found _ _ find_outward.2
  have leads := inner.plain (by decide +kernel) (by decide +kernel)
  have outside : ¬ Below "/pkg" "/pkg/../secret" := by decide +kernel
  exact ⟨spelled_outwardFiles, validate_ok_iff.2 ⟨rfl, found_outward⟩, loadWithDisks_outward,
    ⟨leads, inner.path.2 leads⟩, fun leads => outside (outer.path.2 leads), outside⟩

end OvfInspect.Package
