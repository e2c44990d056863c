import OvfInspect.Proofs.AbsolutePaths
import OvfInspect.Proofs.Decoding
import OvfInspect.Proofs.Loading

/-!
# Packages named by their descriptor

A package can be named by a descriptor file in a directory. The client for the directory is chosen by
the extension in letters of either case, while the file itself comes into question only with the
extension in small letters. `named_descriptor_loaded` says which document is loaded in the end.
-/

namespace OvfInspect.Storage

open Storage.Path

variable {tree : FileTree} {path base directory : String}

theorem isName_of_namesDescriptor (h : namesDescriptor path = true) :
    isProper (baseName path) = true ∧ baseName path ≠ ".." := by
  obtain ⟨before, same⟩ := endsWith_iff.1 h
  rw [Xml.lowerAscii, ← String.toList_inj, String.toList_ofList, String.toList_append,
    List.map_eq_append_iff] at same
  obtain ⟨front, last, split, -, lower⟩ := same
  refine isName_baseName split ?_ ?_
  · intro slash
    have lowered := List.mem_map_of_mem (f := Char.toLower) slash
    rw [lower] at lowered
    exact absurd lowered (by decide)
  · have length := congrArg List.length lower
    rw [List.length_map] at length
    rw [length]
    decide

theorem baseName_endsWith {ending : String} (noSlash : '/' ∉ ending.toList) :
    (baseName path).endsWith ending = true ↔ path.endsWith ending = true := by
  rw [endsWith_iff, endsWith_iff]
  constructor
  · rintro ⟨before, same⟩
    refine ⟨String.ofList (splitLast path).1 ++ before, ?_⟩
    rw [String.append_assoc, ← same, head_append_baseName]
  · rintro ⟨before, rfl⟩
    have kept : ending.toList.reverse.takeWhile (· ≠ '/') = ending.toList.reverse := by
      rw [List.takeWhile_eq_self_iff]
      intro c member
      exact decide_eq_true fun same => noSlash (same ▸ List.mem_reverse.1 member)
    refine ⟨baseName before, ?_⟩
    rw [← String.toList_inj, String.toList_append, baseName, baseName, String.toList_ofList,
      String.toList_ofList, splitLast, splitLast, String.toList_append, List.reverse_append,
      List.takeWhile_append, kept, if_pos rfl, List.reverse_append, List.reverse_reverse]

namespace FileTree

theorem exists_read_of_isFile (file : tree.isFile path = true) : ∃ entry bytes,
    tree.entryAt? (tree.destination path) = some entry ∧ entry.bytes? = some bytes ∧
      tree.read path = .ok bytes := by
  obtain ⟨⟨-, nonempty, short, passable⟩, entry, there, isFile⟩ := isFile_iff.1 file
  have located := locate_ok_iff.2 ⟨⟨nonempty, short, passable⟩, rfl, there⟩
  obtain ⟨bytes, some⟩ : ∃ bytes, entry.bytes? = some bytes := by
    cases entry with
    | directory => cases isFile
    | file bytes => exact ⟨bytes, rfl⟩
    | archive members => exact ⟨_, rfl⟩
  exact ⟨entry, bytes, there, some, by simp only [read, located, bind, Except.bind, some]⟩

theorem exists_read_of_destination {other : String} (file : tree.isFile path = true)
    (otherFile : tree.isFile other = true) (same : tree.destination path = tree.destination other) :
    ∃ bytes, tree.read path = .ok bytes ∧ tree.read other = .ok bytes := by
  obtain ⟨entry, bytes, there, content, isRead⟩ := exists_read_of_isFile file
  obtain ⟨entry', bytes', there', content', isRead'⟩ := exists_read_of_isFile otherFile
  rw [same, there'] at there
  obtain rfl := Option.some.inj there
  obtain rfl := Option.some.inj (content'.symm.trans content)
  exact ⟨bytes', isRead, isRead'⟩

theorem not_isDirectory_of_destination {other : String} (file : tree.isFile path = true)
    (same : tree.destination other = tree.destination path) : tree.isDirectory other = false := by
  obtain ⟨-, entry, there, isFile⟩ := isFile_iff.1 file
  rw [isDirectory, ← Bool.not_eq_true, Option.any_eq_true]
  rintro ⟨entry', found, isDirectory⟩
  obtain ⟨-, there'⟩ := entry?_eq_some_iff.1 found
  rw [same, there] at there'
  obtain rfl := Option.some.inj there'
  rw [isFile] at isDirectory
  cases isDirectory

theorem exists_destination_eq (tree : FileTree) (isName : isProper (baseName path) = true)
    (notUp : baseName path ≠ "..") : ∃ before, tree.destination path = before ++ [baseName path] := by
  obtain ⟨before, split, -⟩ := exists_components_eq path
  refine ⟨before.foldl step (tree.startOf path), ?_⟩
  rw [destination, split, List.foldl_append]
  exact step_of_name _ isName notUp

end FileTree

namespace Directory

theorem packageDirectory_of_file {absolute : String} (file : tree.isFile path = true)
    (isAbsolute : (absolutePath tree path).result = .ok absolute)
    (same : tree.destination absolute = tree.destination path) :
    (packageDirectory tree path).result = .ok (parent absolute) := by
  unfold packageDirectory
  rw [Narrated.result_bind, isAbsolute]
  simp only [Except.bind, Narrated.result_pure, FileTree.not_isDirectory_of_destination file same]
  rfl

end Directory

theorem World.openPackage_directory {world : World} {client : Client}
    (file : world.files.isFile path = true) (opened : (world.openPackage path).result = .ok client)
    (chosen : client.backend = .directory) :
    client = Directory.client world.files ∧ namesDescriptor path = true := by
  obtain ⟨backend, isBackend, rfl⟩ := openPackage_ok_iff.1 opened
  obtain ⟨entry, found, isFile⟩ := (Option.any_eq_true _ _).1 file
  cases backend with
  | none => cases chosen
  | archive => cases chosen
  | web => cases chosen
  | directory =>
    refine ⟨rfl, ?_⟩
    unfold backendFor at isBackend
    split at isBackend
    · cases isBackend
    · rw [found] at isBackend
      dsimp only at isBackend
      split at isBackend
      · next named => simpa [(Bool.not_eq_true' _).mp isFile] using named
      · split at isBackend <;> cases isBackend

end OvfInspect.Storage

namespace OvfInspect.Package

open Storage Storage.Path

/-- What is loaded for a package is the document at the path: its bytes are parsed, and then the files
that the descriptor lists are looked up. -/
def LoadedFrom (room : Nat) (tree : FileTree) (client : Client) (package path : String) : Prop :=
  ∃ bytes, tree.read path = .ok bytes ∧ (load room client package).result =
    (Descriptor.parse room (.bytes bytes)).result.bind fun d => (validate client (some d) package).result

variable {room : Nat} {tree : FileTree} {path package directory : String} {client : Client}

theorem load_of_not_found {fault : Fault}
    (h : (Directory.find tree package (some descriptorSuffix)).result = .error fault) :
    (load room (Directory.client tree) package).result = .error fault := by
  have h' : ((Directory.client tree).find package (some descriptorSuffix)).result = .error fault := h
  rw [result_load, h']
  rfl

theorem loadedFrom_of_find {handle : Handle} {bytes : List UInt8}
    (found : (Directory.find tree package (some descriptorSuffix)).result = .ok handle)
    (file : tree.isFile handle.path = true) (isRead : tree.read handle.path = .ok bytes)
    (same : tree.read path = .ok bytes) : LoadedFrom room tree (Directory.client tree) package path := by
  have found' : ((Directory.client tree).find package (some descriptorSuffix)).result = .ok handle := found
  have content : ((Directory.client tree).read handle).result = .ok (.bytes bytes) :=
    Directory.read_of_isFile file isRead
  refine ⟨bytes, same, ?_⟩
  rw [result_load, found', Except.bind, content]
  rfl

/-- The first of the names that is that of a file with the extension of a descriptor. -/
def firstDescriptor (tree : FileTree) (directory : String) (names : List String) : Option String :=
  (names.filter fun name => name.endsWith descriptorSuffix).find? fun name =>
    tree.isFile (join directory name)

theorem find_named (file : tree.isFile path = true)
    (isDirectory : (Directory.packageDirectory tree path).result = .ok directory)
    (extension : path.endsWith descriptorSuffix = true) :
    (Directory.find tree path (some descriptorSuffix)).result =
      if tree.isFile (join directory (baseName path)) then
        .ok ⟨directory, baseName path, join directory (baseName path)⟩
      else .error (.storage (.notFound (some descriptorSuffix) directory)) := by
  have isExtension : isExtension descriptorSuffix = true := by decide
  have notDirectory := FileTree.not_isDirectory_of_destination file rfl
  rw [Directory.result_find isDirectory, Directory.candidates, isExtension, notDirectory, extension]
  simp only [Bool.not_true, Bool.not_false, Bool.false_eq_true, if_false, Bool.and_self, if_true,
    Except.bind, List.find?_cons, List.find?_nil]
  cases tree.isFile (join directory (baseName path)) <;> rfl

theorem find_other (isDirectory : (Directory.packageDirectory tree path).result = .ok directory)
    (extension : path.endsWith descriptorSuffix = false) :
    (Directory.find tree path (some descriptorSuffix)).result =
      (Directory.listing tree directory).bind fun names =>
        match firstDescriptor tree directory names with
        | some name => .ok ⟨directory, name, join directory name⟩
        | none => .error (.storage (.notFound (some descriptorSuffix) directory)) := by
  have isExtension : isExtension descriptorSuffix = true := by decide
  rw [Directory.result_find isDirectory, Directory.candidates, isExtension, extension, Bool.and_false,
    if_neg (by decide), if_neg (by decide)]
  cases Directory.listing tree directory <;> rfl

theorem join_endsWith {name ending : String} (directory : String) (h : name.endsWith ending = true) :
    (join directory name).endsWith ending = true := by
  obtain ⟨before, rfl⟩ := endsWith_iff.1 h
  rw [endsWith_iff]
  unfold join
  split
  · exact ⟨before, rfl⟩
  · split
    · exact ⟨directory ++ before, by rw [String.append_assoc]⟩
    · exact ⟨directory ++ "/" ++ before, by rw [@String.append_assoc (directory ++ "/")]⟩

/-- A name with the extension does not lead to a file whose name lacks it. -/
theorem destination_ne {name : String} (isName : isProper (baseName path) = true)
    (notUp : baseName path ≠ "..") (extension : path.endsWith descriptorSuffix = false)
    (ending : name.endsWith descriptorSuffix = true) :
    tree.destination (join directory name) ≠ tree.destination path := by
  have noSlash : '/' ∉ descriptorSuffix.toList := by decide
  have joined := join_endsWith directory ending
  obtain ⟨before, split⟩ := endsWith_iff.1 joined
  have chars : (join directory name).toList = before.toList ++ descriptorSuffix.toList := by
    rw [split, String.toList_append]
  obtain ⟨isName', notUp'⟩ := isName_baseName chars noSlash (by decide)
  obtain ⟨front, there⟩ := FileTree.exists_destination_eq tree isName notUp
  obtain ⟨front', there'⟩ := FileTree.exists_destination_eq tree isName' notUp'
  intro same
  rw [there, there'] at same
  have sameName : baseName (join directory name) = baseName path :=
    List.singleton_inj.1 (List.append_inj' same rfl).2
  rw [← baseName_endsWith noSlash, sameName, baseName_endsWith noSlash, extension] at joined
  cases joined

/-- A descriptor with the extension in small letters is loaded, if the path it is looked up by is not
too long. -/
theorem loadedFrom_named {absolutePath : String} (file : tree.isFile path = true)
    (absolute : tree.Absolute path absolutePath) (isName : isProper (baseName path) = true)
    (isDirectory : (Directory.packageDirectory tree path).result = .ok (parent absolutePath))
    (extension : path.endsWith descriptorSuffix = true)
    (short : (join (parent absolutePath) (baseName path)).utf8ByteSize < FileTree.pathLimit) :
    LoadedFrom room tree (Directory.client tree) path path := by
  have isFile := FileTree.isFile_join_parent absolute file isName short
  have same : tree.destination (join (parent absolutePath) (baseName path)) = tree.destination path := by
    rw [← absolute.baseName_eq, FileTree.destination_join_parent absolute.isAbsolute,
      absolute.destination_eq]
  obtain ⟨bytes, isRead, isRead'⟩ := FileTree.exists_read_of_destination isFile file same
  have found := find_named file isDirectory extension
  rw [if_pos isFile] at found
  exact loadedFrom_of_find found isFile isRead isRead'

theorem load_named_of_long (file : tree.isFile path = true)
    (isDirectory : (Directory.packageDirectory tree path).result = .ok directory)
    (extension : path.endsWith descriptorSuffix = true)
    (long : FileTree.pathLimit ≤ (join directory (baseName path)).utf8ByteSize) :
    (load room (Directory.client tree) path).result =
      .error (.storage (.notFound (some descriptorSuffix) directory)) := by
  apply load_of_not_found
  rw [find_named file isDirectory extension, if_neg]
  intro isFile
  obtain ⟨⟨-, -, short, -⟩, -⟩ := FileTree.isFile_iff.1 isFile
  omega

section Other

variable {names : List String}
  (isDirectory : (Directory.packageDirectory tree path).result = .ok directory)
  (extension : path.endsWith descriptorSuffix = false)
include isDirectory extension

theorem load_of_unlisted {fault : Fault} (failed : Directory.listing tree directory = .error fault) :
    (load room (Directory.client tree) path).result = .error fault := by
  apply load_of_not_found
  rw [find_other isDirectory extension, failed]
  rfl

theorem load_of_no_other (listed : Directory.listing tree directory = .ok names)
    (none : firstDescriptor tree directory names = none) :
    (load room (Directory.client tree) path).result =
      .error (.storage (.notFound (some descriptorSuffix) directory)) := by
  apply load_of_not_found
  rw [find_other isDirectory extension, listed, Except.bind, none]

/-- In place of a descriptor with capital letters in its extension, the first other one is loaded. -/
theorem loadedFrom_other {name : String} (isName : isProper (baseName path) = true)
    (notUp : baseName path ≠ "..") (listed : Directory.listing tree directory = .ok names)
    (first : firstDescriptor tree directory names = some name) :
    LoadedFrom room tree (Directory.client tree) path (join directory name) ∧
      tree.destination (join directory name) ≠ tree.destination path := by
  have found := find_other isDirectory extension
  rw [listed, Except.bind, first] at found
  have isFile : tree.isFile (join directory name) = true := by simpa using List.find?_some first
  have ending := (List.mem_filter.1 (List.mem_of_find?_eq_some first)).2
  obtain ⟨bytes, isRead, -⟩ := FileTree.exists_read_of_destination isFile isFile rfl
  exact ⟨loadedFrom_of_find found isFile isRead isRead, destination_ne isName notUp extension ending⟩

end Other

/-- What is loaded for a descriptor file is its own document if its name ends in the extension in small
letters, unless the absolute path of the file is too long. With capital letters it is the document of
the first other file in the directory that ends so, if there is one. -/
theorem named_descriptor_loaded {world : World} (rooted : world.files.Rooted)
    (file : world.files.isFile path = true) (opened : (world.openPackage path).result = .ok client)
    (chosen : client.backend = .directory) :
    ∃ directory, (Directory.packageDirectory world.files path).result = .ok directory ∧
      (path.endsWith descriptorSuffix = true →
        (isAbsolute path = true ∨ (join directory (baseName path)).utf8ByteSize < FileTree.pathLimit →
          LoadedFrom room world.files client path path) ∧
        (FileTree.pathLimit ≤ (join directory (baseName path)).utf8ByteSize →
          (load room client path).result =
            .error (.storage (.notFound (some descriptorSuffix) directory)))) ∧
      (path.endsWith descriptorSuffix = false →
        match Directory.listing world.files directory with
        | .error fault => (load room client path).result = .error fault
        | .ok names => match firstDescriptor world.files directory names with
          | none => (load room client path).result =
              .error (.storage (.notFound (some descriptorSuffix) directory))
          | some name => LoadedFrom room world.files client path (join directory name) ∧
              world.files.destination (join directory name) ≠ world.files.destination path) := by
  obtain ⟨rfl, descriptor⟩ := World.openPackage_directory file opened chosen
  obtain ⟨isName, notUp⟩ := isName_of_namesDescriptor descriptor
  have absolute := FileTree.absolute_of_isFile rooted file isName notUp
  have isAbsolute' := result_absolutePath world.files path
  have isDirectory := Directory.packageDirectory_of_file file isAbsolute' absolute.destination_eq
  refine ⟨_, isDirectory, fun extension => ⟨fun within => ?_, ?_⟩, ?_⟩
  · refine loadedFrom_named file absolute isName isDirectory extension ?_
    rcases within with isAbsolute | short
    · rw [if_pos isAbsolute]
      obtain ⟨⟨-, -, short, -⟩, -⟩ := FileTree.isFile_iff.1 file
      exact lt_of_le_of_lt (FileTree.utf8ByteSize_join_parent_le path) short
    · exact short
  · exact load_named_of_long file isDirectory extension
  · intro extension
    split
    · next failed => exact load_of_unlisted isDirectory extension failed
    · next names listed =>
      split
      · next none => exact load_of_no_other isDirectory extension listed none
      · next first => exact loadedFrom_other isDirectory extension isName notUp listed first

/-- Two descriptors in the working directory, of which one has the extension in capital letters. -/
def capitalFiles : FileTree :=
  ⟨[(["d"], .directory), (["d", "VM.OVF"], .file (Xml.encodeUtf8 ['<', 'A', '/', '>'])),
    (["d", "other.ovf"], .file (Xml.encodeUtf8 ['<', 'B', '/', '>']))], ["d"]⟩

def capitalWorld : World := ⟨capitalFiles, [], 900⟩

theorem rooted_capitalFiles : capitalFiles.Rooted where
  named := by
    rintro name (_ | ⟨_, ⟨⟩⟩)
    exact ⟨by decide, by decide⟩
  spelled := by
    rintro name (_ | ⟨_, ⟨⟩⟩)
    exact ⟨by decide, by decide⟩
  passable := FileTree.passable_cons.2 ⟨⟨by decide +kernel, by decide⟩, FileTree.passable_nil⟩

theorem openPackage_capital {path : String} (h : path = "VM.OVF" ∨ path = "/d/other.ovf") :
    (capitalWorld.openPackage path).result = .ok (Directory.client capitalFiles) := by
  have chosen : capitalWorld.backendFor path = .ok .directory := by
    rcases h with rfl | rfl <;> exact toOption_eq_some_iff.1 (by decide +kernel)
  exact World.openPackage_ok_iff.2 ⟨.directory, chosen, rfl⟩

theorem listing_capital : Directory.listing capitalFiles "/d" = .ok ["VM.OVF", "other.ovf"] := by
  have located : capitalFiles.locate "/d" = .ok (["d"], .directory) :=
    toOption_eq_some_iff.1 (by decide +kernel)
  have names : capitalFiles.namesAt ["d"] = ["VM.OVF", "other.ovf"] := by
    unfold FileTree.namesAt
    exact List.mergeSort_of_pairwise (by decide +kernel)
  rw [Directory.listing, if_neg (by decide), FileTree.list, located]
  simp only [bind, Except.bind, Entry.isDirectory, if_true, names]

/-- Whichever of the two is named, the document of the second is loaded. -/
theorem named_descriptor_loaded_capital :
    capitalFiles.Rooted ∧ capitalFiles.isFile "VM.OVF" = true ∧
    capitalFiles.isFile "/d/other.ovf" = true ∧
    LoadedFrom 900 capitalFiles (Directory.client capitalFiles) "VM.OVF" "/d/other.ovf" ∧
    capitalFiles.destination "/d/other.ovf" ≠ capitalFiles.destination "VM.OVF" ∧
    LoadedFrom 900 capitalFiles (Directory.client capitalFiles) "/d/other.ovf" "/d/other.ovf" := by
  have capital : capitalFiles.isFile "VM.OVF" = true := by decide +kernel
  have small : capitalFiles.isFile "/d/other.ovf" = true := by decide +kernel
  refine ⟨rooted_capitalFiles, capital, small, ?_⟩
  have rooted : capitalWorld.files.Rooted := rooted_capitalFiles
  obtain ⟨directory, isDirectory, -, other⟩ :=
    named_descriptor_loaded rooted capital (openPackage_capital (.inl rfl)) rfl
  obtain ⟨_, -, itself, -⟩ :=
    named_descriptor_loaded rooted small (openPackage_capital (.inr rfl)) rfl
  have root : (Directory.packageDirectory capitalFiles "VM.OVF").result = .ok "/d" :=
    toOption_eq_some_iff.1 (by decide +kernel)
  obtain rfl := Except.ok.inj (root.symm.trans isDirectory)
  have first : firstDescriptor capitalFiles "/d" ["VM.OVF", "other.ovf"] = some "other.ovf" := by
    decide +kernel
  have path : join "/d" "other.ovf" = "/d/other.ovf" := by decide +kernel
  have loaded := other (by decide +kernel)
  simp only [capitalWorld, listing_capital, first, path] at loaded
  exact ⟨loaded.1, loaded.2, (itself (by decide +kernel)).1 (.inl (by decide +kernel))⟩

end OvfInspect.Package
