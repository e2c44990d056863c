import OvfInspect.Proofs.HeldFiles
import OvfInspect.Proofs.LocatedDisks

/-!
# Packages in a directory and in an archive

The same files make the same package, whether they are in a directory or in an archive: it is loaded
with equal descriptors and disks of equal sizes, or with faults of one kind. `backends_agree` says so
for every descriptor whose names stay inside the package.
-/

namespace OvfInspect

namespace Package

open Storage

/-! ### Files of a package -/

/-- Faults of one kind: they are equal, or both are that a file of one name is not in the package. -/
inductive SameKind : Fault → Fault → Prop
  | refl (fault : Fault) : SameKind fault fault
  | notInPackage (href : Option String) (package package' : String) (cause cause' : Failure) :
    SameKind (.defect (.notInPackage href package cause)) (.defect (.notInPackage href package' cause'))

/-- Both look-ups find something, or storage fails in both, or no name is given to them. -/
inductive SameLookup : Except Fault Handle → Except Fault Handle → Prop
  | found (handle handle' : Handle) : SameLookup (.ok handle) (.ok handle')
  | missing (failure failure' : Failure) :
    SameLookup (.error (.storage failure)) (.error (.storage failure'))
  | unnamed : SameLookup (.error (.absent .suffix)) (.error (.absent .suffix))

theorem sameLookup_of_finds {answered : Prop} {x y : Except Fault Handle} (hx : Finds answered x)
    (hy : Finds answered y) : SameLookup x y := by
  rcases hx with ⟨isAnswered, handle, rfl⟩ | ⟨notAnswered, failure, rfl⟩
  · rcases hy with ⟨-, handle', rfl⟩ | ⟨notAnswered, -⟩
    · exact .found handle handle'
    · exact absurd isAnswered notAnswered
  · rcases hy with ⟨isAnswered, -⟩ | ⟨-, failure', rfl⟩
    · exact absurd isAnswered notAnswered
    · exact .missing failure failure'

variable {room : Nat} {client client' : Client} {package package' : String}

theorem check_agrees {file : FileReference}
    (same : SameLookup (client.find package file.href).result (client'.find package' file.href).result) :
    Agree SameKind (· = ·) (check client package file).result (check client' package' file).result := by
  unfold check
  rw [Narrated.result_bind, Narrated.result_bind]
  unfold Narrated.attempt
  generalize (client.find package file.href).result = x at same ⊢
  generalize (client'.find package' file.href).result = y at same ⊢
  cases same with
  | found handle handle' => exact .ok rfl
  | missing failure failure' => exact .error (.notInPackage _ _ _ _ _)
  | unnamed => exact .error (.refl _)

theorem forM_check_agrees {files : List FileReference} (same : ∀ file ∈ files, SameLookup
    (client.find package file.href).result (client'.find package' file.href).result) :
    Agree SameKind (· = ·) (files.forM (check client package)).result
      (files.forM (check client' package')).result := by
  induction files with
  | nil => exact .ok rfl
  | cons file files ih =>
    obtain ⟨first, rest⟩ := List.forall_mem_cons.1 same
    rw [Narrated.result_forM_cons, Narrated.result_forM_cons]
    exact (check_agrees first).bind fun _ _ _ => ih rest

theorem validate_agrees {d : Descriptor} (same : ∀ file ∈ listed d, SameLookup
    (client.find package file.href).result (client'.find package' file.href).result) :
    Agree SameKind (· = ·) (validate client (some d) package).result
      (validate client' (some d) package').result := by
  unfold validate
  unfold listed at same
  dsimp only
  cases files : d.files with
  | none => exact .ok rfl
  | some files' =>
    rw [files] at same
    dsimp only
    rw [Narrated.result_bind, Narrated.result_bind]
    exact (forM_check_agrees same).bind fun _ _ _ => .ok rfl

/-- Packages whose documents are the same are loaded with outcomes that agree, if the files that the
document lists are there in both or in none. -/
theorem load_agrees_of_content {handle handle' : Handle} {content : Xml.Content}
    (found : (client.find package (some descriptorSuffix)).result = .ok handle)
    (found' : (client'.find package' (some descriptorSuffix)).result = .ok handle')
    (isRead : (client.read handle).result = .ok content)
    (isRead' : (client'.read handle').result = .ok content)
    (same : ∀ d, (Descriptor.parse room content).result = .ok d → ∀ file ∈ listed d, SameLookup
      (client.find package file.href).result (client'.find package' file.href).result) :
    Agree SameKind (· = ·) (load room client package).result (load room client' package').result := by
  rw [result_load, result_load, found, found', Except.bind, Except.bind, isRead, isRead', Except.bind,
    Except.bind]
  cases parsed : (Descriptor.parse room content).result with
  | error fault => exact .error (.refl fault)
  | ok d => exact validate_agrees (same d parsed)

/-! ### Disks of a package -/

theorem locate_agrees (joined : ∀ name, ∃ location, (client.join package name).result = .ok location)
    (joined' : ∀ name, ∃ location, (client'.join package' name).result = .ok location)
    (disk : DiskInfo) : Agree SameKind (fun x y => x.sizeInGb = y.sizeInGb)
      (locate client package disk).result (locate client' package' disk).result := by
  unfold locate
  cases disk.location with
  | none => exact .error (.refl _)
  | some href =>
    obtain ⟨location, isJoined⟩ := joined href
    obtain ⟨location', isJoined'⟩ := joined' href
    dsimp only
    rw [Narrated.result_bind, Narrated.result_bind, isJoined, isJoined']
    exact .ok rfl

theorem loadWithDisks_agrees_of_load
    (loaded : Agree SameKind (· = ·) (load room client package).result (load room client' package').result)
    (joined : ∀ name, ∃ location, (client.join package name).result = .ok location)
    (joined' : ∀ name, ∃ location, (client'.join package' name).result = .ok location) :
    Agree SameKind
      (fun x y => x.1 = y.1 ∧ x.2.map LocatedDisk.sizeInGb = y.2.map LocatedDisk.sizeInGb)
      (loadWithDisks room client package).result (loadWithDisks room client' package').result := by
  unfold loadWithDisks
  simp only [Narrated.result_bind, Narrated.result_mapM]
  refine loaded.bind ?_
  rintro d _ rfl
  refine (Agree.refl .refl _).bind ?_
  rintro hardware _ rfl
  refine (Agree.refl .refl _).bind ?_
  rintro disks _ rfl
  have same (disk disk' : DiskInfo) (equal : disk = disk') : Agree SameKind
      (fun x y => x.sizeInGb = y.sizeInGb) (locate client package disk).result
      (locate client' package' disk').result := by
    subst equal
    exact locate_agrees joined joined' disk
  exact (Agree.mapM (forall₂_self (fun _ => rfl) disks) same).bind fun _ _ located =>
    .ok ⟨rfl, map_eq_map_of_forall₂ located id⟩

/-! ### The two backends -/

variable {tree tree' : FileTree} {base base' directory : String} {holding : Holding} {files : Files}

theorem sameLookup_of_holds (flat : Flat descriptorSuffix files)
    (inDirectory : Directory.Holds tree base directory files)
    (inArchive : Archive.Holds tree' base' holding files) {wanted : Option String}
    (inside : ∀ name, wanted = some name → Path.Inside name) :
    SameLookup (Directory.find tree base wanted).result (Archive.find tree' base' wanted).result := by
  cases wanted with
  | none =>
    rw [Directory.find_none]
    exact .unnamed
  | some name =>
    exact sameLookup_of_finds (inDirectory.finds flat fun _ => inside name rfl) inArchive.finds

/-- The descriptor and the sizes of the disks do not depend on whether the files of a package are in a
directory or in an archive, and neither does the kind of the fault when there is one. -/
theorem backends_agree (flat : Flat descriptorSuffix files)
    (inDirectory : Directory.Holds tree base directory files)
    (inArchive : Archive.Holds tree' base' holding files)
    (inside : ∀ file ∈ files, file.1.endsWith descriptorSuffix = true → ∀ d,
      (Descriptor.parse room (.bytes file.2)).result = .ok d → ∀ reference ∈ listed d, ∀ href,
        reference.href = some href → Path.Inside href) :
    Agree SameKind (· = ·) (load room (Directory.client tree) base).result
      (load room (Archive.client tree') base').result ∧
    Agree SameKind
      (fun x y => x.1 = y.1 ∧ x.2.map LocatedDisk.sizeInGb = y.2.map LocatedDisk.sizeInGb)
      (loadWithDisks room (Directory.client tree) base).result
      (loadWithDisks room (Archive.client tree') base').result := by
  have isExtension : isExtension descriptorSuffix = true := by decide
  obtain ⟨file, inFiles, ending, found, isRead⟩ := inDirectory.find_one flat isExtension
  obtain ⟨file', inFiles', ending', handle', found', isRead'⟩ := inArchive.find_one flat isExtension
  have same : file' = file := by
    obtain ⟨one, isOne⟩ := flat.one
    have single {file : String × List UInt8} (inFiles : file ∈ files)
        (ending : file.1.endsWith descriptorSuffix = true) : file = one := by
      rw [← List.mem_singleton, ← isOne, List.mem_filter]
      exact ⟨inFiles, ending⟩
    rw [single inFiles ending, single inFiles' ending']
  rw [same] at isRead'
  have loaded : Agree SameKind (· = ·) (load room (Directory.client tree) base).result
      (load room (Archive.client tree') base').result := by
    apply load_agrees_of_content
    · exact found
    · exact found'
    · exact isRead
    · exact isRead'
    · intro d parsed reference isListed
      exact sameLookup_of_holds flat inDirectory inArchive
        fun href isHref => inside file inFiles ending d parsed reference isListed href isHref
  refine ⟨loaded, loadWithDisks_agrees_of_load loaded ?_ ?_⟩
  · exact fun name => ⟨_, Directory.join_ok_iff.2 ⟨_, inDirectory.packageDirectory_eq flat, rfl⟩⟩
  · exact fun name => ⟨_, Archive.join_ok_iff.2 ⟨_, result_absolutePath tree' base', rfl⟩⟩

/-- The descriptor of a package of two spellings, and the file that both of them name. -/
def twoFiles : Files :=
  [("p.ovf", Xml.encodeUtf8 spelledDocument), ("a", [])]

def packedFiles : FileTree :=
  ⟨[(["t.ova"], .archive (Archive.membersOf twoFiles).reverse)], []⟩

theorem flat_twoFiles : Flat descriptorSuffix twoFiles where
  distinct := by decide +kernel
  name := by
    rintro file (_ | ⟨_, _ | ⟨_, ⟨⟩⟩⟩)
    · exact ⟨by decide, by decide, by decide, by decide⟩
    · exact ⟨by decide, by decide, by decide, by decide⟩
  one := ⟨("p.ovf", Xml.encodeUtf8 spelledDocument), by decide +kernel⟩

theorem spelledFiles_holds : Directory.Holds spelledFiles "/" "/" twoFiles where
  given := by decide +kernel
  absolute := toOption_eq_some_iff.1 (by decide +kernel)
  list := by
    have located : spelledFiles.locate "/" = .ok ([], .directory) :=
      toOption_eq_some_iff.1 (by decide +kernel)
    refine ⟨spelledFiles.namesAt [], ?_, (List.mergeSort_perm _ _).trans ?_⟩
    · rw [FileTree.list, located]
      rfl
    · decide +kernel
  file := by
    rintro file (_ | ⟨_, _ | ⟨_, ⟨⟩⟩⟩)
    · exact ⟨by decide +kernel, toOption_eq_some_iff.1 (by decide +kernel)⟩
    · exact ⟨by decide +kernel, toOption_eq_some_iff.1 (by decide +kernel)⟩

theorem packedFiles_holds : Archive.Holds packedFiles "/t.ova"
    (.ofMembers (Archive.membersOf twoFiles).reverse) twoFiles :=
  have isArchive : (absolutePath packedFiles "/t.ova").result = .ok "/t.ova" :=
    toOption_eq_some_iff.1 (by decide +kernel)
  Archive.holds_of_perm flat_twoFiles (List.reverse_perm _) isArchive (by decide +kernel)

theorem load_packed :
    (load room (Archive.client packedFiles) "/t.ova").result = .ok spelledDescriptor := by
  have descriptor : ((Archive.client packedFiles).find "/t.ova" (some descriptorSuffix)).result =
      .ok ⟨"/t.ova", "p.ovf", "/t.ova/p.ovf"⟩ := toOption_eq_some_iff.1 (by decide +kernel)
  have content : ((Archive.client packedFiles).read ⟨"/t.ova", "p.ovf", "/t.ova/p.ovf"⟩).result =
      .ok (.bytes (Xml.encodeUtf8 spelledDocument)) := toOption_eq_some_iff.1 (by decide +kernel)
  have found : ∀ file ∈ listed spelledDescriptor,
      ((Archive.client packedFiles).find "/t.ova" file.href).result.toOption =
        some ⟨"/t.ova", "a", "/t.ova/a"⟩ := by decide +kernel
  exact load_ok_iff.2 ⟨_, _, descriptor, content, parse_spelled,
    fun file member => ⟨_, toOption_eq_some_iff.1 (found file member)⟩⟩

/-- The package that is loaded from the archive is loaded from the directory too. -/
theorem backends_agree_spelled :
    Flat descriptorSuffix twoFiles ∧ Directory.Holds spelledFiles "/" "/" twoFiles ∧
    Archive.Holds packedFiles "/t.ova" (.ofMembers (Archive.membersOf twoFiles).reverse) twoFiles ∧
    (load 900 (Archive.client packedFiles) "/t.ova").result = .ok spelledDescriptor ∧
    (load 900 (Directory.client spelledFiles) "/").result = .ok spelledDescriptor := by
  refine ⟨flat_twoFiles, spelledFiles_holds, packedFiles_holds, load_packed, ?_⟩
  have inside : ∀ file ∈ twoFiles, file.1.endsWith descriptorSuffix = true → ∀ d,
      (Descriptor.parse 900 (.bytes file.2)).result = .ok d → ∀ reference ∈ listed d, ∀ href,
        reference.href = some href → Path.Inside href := by
    rintro file (_ | ⟨_, _ | ⟨_, ⟨⟩⟩⟩) ending d parsed reference isListed href isHref
    · obtain rfl := Except.ok.inj (parse_spelled.symm.trans parsed)
      rcases isListed with _ | ⟨_, _ | ⟨_, ⟨⟩⟩⟩
      · obtain rfl := Option.some.inj isHref
        exact ⟨by decide +kernel, by decide +kernel⟩
      · obtain rfl := Option.some.inj isHref
        exact ⟨by decide +kernel, by decide +kernel⟩
    · exact absurd ending (by decide +kernel)
  obtain ⟨loaded, -⟩ := backends_agree flat_twoFiles spelledFiles_holds packedFiles_holds inside
  rw [load_packed] at loaded
  generalize (load 900 (Directory.client spelledFiles) "/").result = result at loaded ⊢
  cases loaded with
  | ok same => rw [same]

end Package

end OvfInspect
