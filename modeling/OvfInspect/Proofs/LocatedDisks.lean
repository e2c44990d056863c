import OvfInspect.Proofs.Decoding
import OvfInspect.Proofs.Loading
import OvfInspect.Proofs.Lookup
import OvfInspect.Proofs.Reading

/-!
# Whether located disks exist

The location of a disk spells the name of a file as the descriptor does, while the file was looked up
by its normal name or by an extension. `located_disks_exist` says when the location leads to a file.
-/

namespace OvfInspect.Package

open Storage Storage.Path

/-! ### Names that are extensions -/

theorem chars_of_extension {name : String} (h : isExtension name = true) :
    ∃ rest, name.toList = '.' :: rest ∧ (∀ c ∈ rest, c ≠ '/' ∧ c ≠ '.') ∧ rest ≠ [] := by
  unfold isExtension at h
  split at h
  · next rest start =>
    refine ⟨rest, start, ?_⟩
    have alphanumeric {c : Char} (h : c.isAlphanum = true) : c ≠ '/' ∧ c ≠ '.' := by
      constructor <;> rintro rfl <;> revert h <;> decide
    dsimp only at h
    split at h
    · next lineFeed =>
      obtain ⟨line, rfl⟩ : ∃ line, rest = line ++ ['\n'] := List.getLast?_eq_some_iff.1 lineFeed
      rw [List.dropLast_concat, Bool.and_eq_true, List.all_eq_true] at h
      refine ⟨?_, by simp⟩
      intro c member
      rcases List.mem_append.1 member with member | member
      · exact alphanumeric (h.2 c member)
      · rw [List.mem_singleton.1 member]
        decide
    · rw [Bool.and_eq_true, List.all_eq_true] at h
      refine ⟨fun c member => alphanumeric (h.2 c member), ?_⟩
      rintro rfl
      exact absurd h.1 (by decide)
  · cases h

theorem slash_not_mem_extension {name : String} (h : isExtension name = true) : '/' ∉ name.toList := by
  obtain ⟨rest, start, plain, -⟩ := chars_of_extension h
  rw [start, List.mem_cons, not_or]
  exact ⟨by decide, fun member => (plain _ member).1 rfl⟩

theorem components_of_extension {name : String} (h : isExtension name = true) :
    components name = [name] ∧ isProper name = true ∧ name ≠ ".." := by
  obtain ⟨rest, start, plain, nonempty⟩ := chars_of_extension h
  refine ⟨?_, ?_, ?_⟩
  · rw [components, List.splitOn_eq_singleton (slash_not_mem_extension h), List.map_singleton,
      String.ofList_toList]
  · have notEmpty : name ≠ "" := by
      rintro rfl
      cases start
    have notPoint : name ≠ "." := by
      rintro rfl
      exact nonempty (List.cons.inj start).2.symm
    simp [isProper, notEmpty, notPoint]
  · rintro rfl
    obtain rfl : ['.'] = rest := (List.cons.inj start).2
    exact (plain '.' List.mem_cons_self).2 rfl

theorem isAbsolute_of_extension {name : String} (h : isExtension name = true) :
    isAbsolute name = false := by
  obtain ⟨rest, start, -⟩ := chars_of_extension h
  rw [← Bool.not_eq_true, isAbsolute_iff, start]
  rintro ⟨_, same⟩
  cases same

/-- The directory holds a file of exactly this name. -/
def HoldsFile (tree : FileTree) (directory name : String) : Prop :=
  ∃ entry, tree.entryAt? (tree.destination directory ++ [name]) = some entry ∧
    entry.isDirectory = false

variable {room : Nat} {tree : FileTree} {directory href : String}

theorem isFile_join_extension (absolute : isAbsolute directory = true) (h : isExtension href = true) :
    tree.isFile (join directory href) = true ↔
      tree.Walkable (join directory href) ∧ HoldsFile tree directory href := by
  obtain ⟨single, isName, notUp⟩ := components_of_extension h
  have place : tree.destination (join directory href) = tree.destination directory ++ [href] := by
    unfold FileTree.destination FileTree.startOf
    rw [isAbsolute_join absolute, absolute, foldl_step_join directory (isAbsolute_of_extension h),
      single, List.foldl_cons, List.foldl_nil, step, if_neg (by rw [isName]; decide), if_neg notUp]
  rw [FileTree.isFile_iff, place]
  rfl

/-- A path is that of a relative name in a directory if it is made from the name, or is the whole
path as an absolute name. -/
theorem join_eq_join_iff {name other : String} (absolute : isAbsolute directory = true)
    (relative : isAbsolute name = false) :
    join directory name = join directory other ↔ other = name ∨ other = join directory name := by
  constructor
  · intro same
    cases otherAbsolute : isAbsolute other with
    | true =>
      rw [join_of_absolute directory otherAbsolute] at same
      exact Or.inr same.symm
    | false =>
      obtain ⟨before, joined⟩ := exists_join_eq directory
      rw [joined name relative, joined other otherAbsolute, ← String.toList_inj, String.toList_append,
        String.toList_append] at same
      exact Or.inl (String.toList_inj.1 (List.append_cancel_left same)).symm
  · rintro (rfl | rfl)
    · rfl
    · rw [join_of_absolute directory (isAbsolute_join absolute name)]

/-! ### Located disks -/

def Lists (d : Descriptor) (href : String) : Prop :=
  ∃ file ∈ listed d, file.href = some href

/-- The location spells the name inside the package directory. It leads to a file if it can be
walked, and if the directory holds that very name in case it looks like an extension; so it does
for every plain spelling within the limits of the system. -/
structure LocatedInDirectory (tree : FileTree) (directory href location : String) : Prop where
  spelled : location = join directory href
  isFile_iff : tree.isFile location = true ↔
    tree.Walkable location ∧ (isExtension href = true → HoldsFile tree directory href)
  plain : isExtension href = false → FileTree.Plain href → FileTree.hasZero location = false →
    location.utf8ByteSize < FileTree.pathLimit → tree.isFile location = true

/-- The location is that of the normal name inside the archive. It is that of a regular member, if
one has that very name in case it looks like an extension. -/
structure LocatedInArchive (holding : Holding) (archive href location : String) : Prop where
  normal : location = join archive (normalize href)
  isMember_iff : (∃ member ∈ holding.listing, member.isFile = true ∧
      location = join archive (normalize member.name)) ↔
    (isExtension href = true → ∃ member ∈ holding.listing, member.isFile = true ∧
      (normalize member.name = normalize href ∨ normalize member.name = location))

theorem locatedInDirectory {package : String} {handle : Handle} {location : String}
    (found : (Directory.find tree package (some href)).result = .ok handle)
    (joined : (Directory.join tree package href).result = .ok location) :
    ∃ directory, (Directory.packageDirectory tree package).result = .ok directory ∧
      LocatedInDirectory tree directory href location := by
  obtain ⟨directory, isDirectory, rfl⟩ := Directory.join_ok_iff.1 joined
  have absolute := Directory.isAbsolute_packageDirectory isDirectory
  refine ⟨directory, isDirectory, rfl, ?_, ?_⟩
  · cases extension : isExtension href with
    | true =>
      rw [isFile_join_extension absolute extension]
      simp
    | false =>
      have file := Directory.isFile_of_find isDirectory found extension
      rw [FileTree.isFile_iff_of_destination
        (FileTree.destination_join_normalize absolute href).symm file]
      simp
  · intro extension plain noZero short
    exact FileTree.isFile_join_of_plain absolute plain noZero short
      (Directory.isFile_of_find isDirectory found extension)

theorem locatedInArchive {package : String} {handle : Handle} {location : String}
    (found : (Archive.find tree package (some href)).result = .ok handle)
    (joined : (Archive.join tree package href).result = .ok location) :
    ∃ archive holding, (absolutePath tree package).result = .ok archive ∧
      (Archive.openAt tree package).result = .ok (.ok holding) ∧
      LocatedInArchive holding archive href location := by
  obtain ⟨archive, isArchive, rfl⟩ := Archive.join_ok_iff.1 joined
  obtain ⟨holding, isOpened, member, isMember, isFile, answered, -⟩ := Archive.find_ok found
  have absolute := isAbsolute_of_absolutePath isArchive
  refine ⟨archive, holding, isArchive, isOpened, rfl, ?_⟩
  cases extension : isExtension href with
  | true =>
    have relative : isAbsolute (normalize href) = false := by
      rw [isAbsolute_normalize, isAbsolute_of_extension extension]
    simp only [join_eq_join_iff absolute relative, true_implies]
  | false =>
    rw [Archive.answers, if_neg (by rw [extension]; decide), beq_iff_eq] at answered
    simp only [Bool.false_eq_true, false_implies, iff_true]
    exact ⟨member, isMember, isFile, by rw [answered]⟩

/-! ### A package of two spellings -/

/-- A document with two disks in one file, which is spelled first with an empty component and then
through a directory. -/
def spelledDocument : List Char :=
  ["<E><References>", "<File id='f' href='.//a'/>", "<File id='g' href='x/../a'/>",
    "</References><DiskSection>",
    "<Disk diskId='d' fileRef='f' ", "capacity='1' ", "capacityAllocationUnits=", "'byte * 2^30'/>",
    "<Disk diskId='e' fileRef='g' ", "capacity='1' ", "capacityAllocationUnits=", "'byte * 2^30'/>",
    "</DiskSection><VirtualSystem>", "<VirtualHardwareSection>",
    "<Item><ResourceType>17</ResourceType>", "<HostResource>ovf:/disk/d</HostResource></Item>",
    "<Item><ResourceType>17</ResourceType>", "<HostResource>ovf:/disk/e</HostResource></Item>",
    "</VirtualHardwareSection>", "</VirtualSystem></E>"].flatMap String.toList

def spelledHardware : HardwareSection :=
  ⟨[{ resourceType := some 17, hostResource := ["ovf:/disk/d"] },
    { resourceType := some 17, hostResource := ["ovf:/disk/e"] }]⟩

def spelledDescriptor : Descriptor where
  references := some ⟨none, none, [⟨some "f", some ".//a", none⟩, ⟨some "g", some "x/../a", none⟩]⟩
  diskSection := some ⟨none, none, [⟨some "d", some "f", some "1", some "byte * 2^30"⟩,
    ⟨some "e", some "g", some "1", some "byte * 2^30"⟩]⟩
  virtualSystem := some { hardware := [spelledHardware] }

/-- The directory through which the second name goes does not exist. -/
def spelledFiles : FileTree :=
  ⟨[(["p.ovf"], .file (Xml.encodeUtf8 spelledDocument)), (["a"], .file [])], []⟩

def spelledWorld : World := ⟨spelledFiles, [], 900⟩

def spelledClient : Client := Directory.client spelledFiles

def spelledDisks : List LocatedDisk := [⟨"/.//a", 1⟩, ⟨"/x/../a", 1⟩]

theorem parse_of_formed {cs : List Char} {d : Descriptor}
    (oneByte : Xml.Family.ofBytes (Xml.encodeUtf8 cs) = .oneByte 0)
    (undeclared : Xml.Undeclared (Xml.encodeUtf8 cs)) (legal : cs.all Xml.isXmlChar = true)
    (formed : ((Xml.ofChars? .standard cs).map fun root =>
      (Descriptor.ofRoot root).result.toOption) = some (some d)) :
    (Descriptor.parse room (.bytes (Xml.encodeUtf8 cs))).result = .ok d := by
  obtain ⟨root, formed, read⟩ := Option.map_eq_some_iff.1 formed
  rw [parse_result_of_root (Xml.parse_encodeUtf8 oneByte undeclared legal formed), treeOutcome_ok_iff]
  exact toOption_eq_some_iff.1 read

theorem parse_spelled :
    (Descriptor.parse room (.bytes (Xml.encodeUtf8 spelledDocument))).result = .ok spelledDescriptor :=
  parse_of_formed (by decide +kernel) (by decide +kernel) (by decide +kernel) (by decide +kernel)

theorem load_spelled : (load room spelledClient "/p.ovf").result = .ok spelledDescriptor := by
  have descriptor : (spelledClient.find "/p.ovf" (some descriptorSuffix)).result =
      .ok ⟨"/", "p.ovf", "/p.ovf"⟩ := toOption_eq_some_iff.1 (by decide +kernel)
  have content : (spelledClient.read ⟨"/", "p.ovf", "/p.ovf"⟩).result =
      .ok (.bytes (Xml.encodeUtf8 spelledDocument)) := toOption_eq_some_iff.1 (by decide +kernel)
  have found : ∀ file ∈ listed spelledDescriptor, (spelledClient.find "/p.ovf" file.href).result.toOption =
      some ⟨"/", "a", "/a"⟩ := by decide +kernel
  exact load_ok_iff.2 ⟨_, _, descriptor, content, parse_spelled,
    fun file member => ⟨_, toOption_eq_some_iff.1 (found file member)⟩⟩

theorem loadWithDisks_spelled :
    (loadWithDisks room spelledClient "/p.ovf").result = .ok (spelledDescriptor, spelledDisks) := by
  have joined : (diskInfos (some spelledHardware) spelledDescriptor.diskSection
      spelledDescriptor.files).result = .ok [⟨some ".//a", 1⟩, ⟨some "x/../a", 1⟩] :=
    toOption_eq_some_iff.1 (by decide +kernel)
  have first : (locate spelledClient "/p.ovf" ⟨some ".//a", 1⟩).result = .ok ⟨"/.//a", 1⟩ :=
    toOption_eq_some_iff.1 (by decide +kernel)
  have second : (locate spelledClient "/p.ovf" ⟨some "x/../a", 1⟩).result = .ok ⟨"/x/../a", 1⟩ :=
    toOption_eq_some_iff.1 (by decide +kernel)
  exact loadWithDisks_ok_iff.2 ⟨load_spelled, spelledHardware, _, rfl, joined,
    .cons first (.cons second .nil)⟩

theorem openPackage_spelled : (spelledWorld.openPackage "/p.ovf").result = .ok spelledClient := by
  have chosen : spelledWorld.backendFor "/p.ovf" = .ok .directory :=
    toOption_eq_some_iff.1 (by decide +kernel)
  exact World.openPackage_ok_iff.2 ⟨.directory, chosen, rfl⟩

/-! ### Every located disk -/

/-- Every disk of a local package is located by the name of a listed file. Its location is that of a
file but for the spellings that cannot be walked, and for names that look like an extension. -/
theorem located_disks_exist {world : World} {package : String} {client : Client} {d : Descriptor}
    {disks : List LocatedDisk} (opened : (world.openPackage package).result = .ok client)
    (loaded : (loadWithDisks room client package).result = .ok (d, disks)) :
    ∀ disk ∈ disks, ∃ href, Lists d href ∧
      (client.backend = .directory → ∃ directory,
        (Directory.packageDirectory world.files package).result = .ok directory ∧
        LocatedInDirectory world.files directory href disk.location) ∧
      (client.backend = .archive → ∃ archive holding,
        (absolutePath world.files package).result = .ok archive ∧
        (Archive.openAt world.files package).result = .ok (.ok holding) ∧
        LocatedInArchive holding archive href disk.location) := by
  intro disk member
  obtain ⟨file, isListed, href, handle, isHref, found, joined⟩ := loadWithDisks_found loaded disk member
  obtain ⟨backend, -, opened⟩ := Narrated.bind_ok_iff.1 opened
  rw [Narrated.result_log_bind, Narrated.pure_ok_iff] at opened
  subst opened
  refine ⟨href, ⟨file, isListed, isHref⟩, ?_, ?_⟩
  · intro isDirectory
    cases backend with
    | directory => exact locatedInDirectory found joined
    | none => cases isDirectory
    | archive => cases isDirectory
    | web => cases isDirectory
  · intro isArchive
    cases backend with
    | archive => exact locatedInArchive found joined
    | none => cases isArchive
    | directory => cases isArchive
    | web => cases isArchive

/-- Both disks are located by listed files, and just the location of the second is that of no file. -/
theorem located_disks_exist_spelled :
    (spelledWorld.openPackage "/p.ovf").result = .ok spelledClient ∧
    (loadWithDisks 900 spelledClient "/p.ovf").result = .ok (spelledDescriptor, spelledDisks) ∧
    (∀ disk ∈ spelledDisks, ∃ href, Lists spelledDescriptor href ∧ ∃ directory,
      (Directory.packageDirectory spelledFiles "/p.ovf").result = .ok directory ∧
      LocatedInDirectory spelledFiles directory href disk.location) ∧
    spelledDisks.map (fun disk => spelledFiles.isFile disk.location) = [true, false] := by
  refine ⟨openPackage_spelled, loadWithDisks_spelled, ?_, by decide +kernel⟩
  intro disk member
  obtain ⟨href, isListed, located, -⟩ :=
    located_disks_exist openPackage_spelled (@loadWithDisks_spelled 900) disk member
  exact ⟨href, isListed, located rfl⟩

end OvfInspect.Package
