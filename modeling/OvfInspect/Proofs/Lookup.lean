import Mathlib.Data.List.TakeWhile
import OvfInspect.Proofs.Following
import OvfInspect.Storage.World

/-!
# Looking up in local packages

The directory and the archive of a local package have absolute paths. What is found there by a name is
a regular file with the same normal name.
-/

namespace OvfInspect.Storage

open Storage.Path

/-! ### Absolute paths -/

/-- What is dropped at the end of a list leaves its first element if something is left. -/
theorem exists_cons_reverse_dropWhile {α : Type} {p : α → Bool} {c : α} {cs : List α}
    (kept : ∃ x ∈ c :: cs, p x = false) :
    ∃ rest, ((c :: cs).reverse.dropWhile p).reverse = c :: rest := by
  have start : ((c :: cs).reverse.dropWhile p).reverse <+: c :: cs := by
    have suffix := List.dropWhile_suffix (l := (c :: cs).reverse) p
    rwa [← List.reverse_prefix, List.reverse_reverse] at suffix
  cases shape : ((c :: cs).reverse.dropWhile p).reverse with
  | nil =>
    obtain ⟨x, member, refused⟩ := kept
    rw [List.reverse_eq_nil_iff, List.dropWhile_eq_nil_iff] at shape
    rw [shape x (List.mem_reverse.2 member)] at refused
    cases refused
  | cons first rest =>
    rw [shape, List.cons_prefix_cons] at start
    rw [start.1]
    exact ⟨rest, rfl⟩

theorem isAbsolute_parent {path : String} (h : isAbsolute path = true) :
    isAbsolute (parent path) = true := by
  obtain ⟨cs, slash⟩ := isAbsolute_iff.1 h
  obtain ⟨head, split⟩ : ∃ head, (splitLast path).1 = '/' :: head := by
    unfold splitLast
    rw [slash]
    exact exists_cons_reverse_dropWhile ⟨'/', List.mem_cons_self, by decide⟩
  unfold parent
  dsimp only
  rw [split, isAbsolute_iff]
  split
  · exact ⟨head, String.toList_ofList⟩
  · next someName =>
    rw [String.toList_ofList]
    apply exists_cons_reverse_dropWhile
    simpa using someName

theorem result_absolutePath (tree : FileTree) (path : String) : (absolutePath tree path).result =
    .ok (if isAbsolute path then path else absolute tree.workingPath path) := by
  unfold absolutePath
  split <;> rfl

variable {tree : FileTree} {base : String}

theorem isAbsolute_of_absolutePath {path : String}
    (h : (absolutePath tree base).result = .ok path) : isAbsolute path = true := by
  rw [result_absolutePath] at h
  obtain rfl := Except.ok.inj h
  split
  · next absolute => exact absolute
  · next relative =>
    have working : isAbsolute tree.workingPath = true :=
      isAbsolute_append (isAbsolute_iff.2 ⟨[], rfl⟩) _
    rw [absolute, if_neg relative, isAbsolute_normalize]
    exact isAbsolute_join working base

namespace Directory

theorem isAbsolute_packageDirectory {directory : String}
    (h : (packageDirectory tree base).result = .ok directory) : isAbsolute directory = true := by
  obtain ⟨path, isPath, h⟩ := Narrated.bind_ok_iff.1 h
  obtain rfl := Narrated.pure_ok_iff.1 h
  have absolute := isAbsolute_of_absolutePath isPath
  split
  · exact absolute
  · exact isAbsolute_parent absolute

theorem join_ok_iff {name location : String} : (join tree base name).result = .ok location ↔
    ∃ directory, (packageDirectory tree base).result = .ok directory ∧
      location = Path.join directory name := by
  refine Narrated.bind_ok_iff.trans ?_
  simp only [Narrated.pure_ok_iff, @eq_comm String location]

/-- What is found is a file of the package directory, and one of the candidates. -/
theorem find_ok {wanted : String} {handle : Handle}
    (h : (find tree base (some wanted)).result = .ok handle) :
    ∃ names, (packageDirectory tree base).result = .ok handle.container ∧
      candidates tree handle.container base wanted = .ok names ∧ handle.name ∈ names ∧
      handle.path = Path.join handle.container handle.name ∧ tree.isFile handle.path = true := by
  obtain ⟨directory, isDirectory, h⟩ := Narrated.bind_ok_iff.1 h
  obtain ⟨_, same, h⟩ := Narrated.bind_ok_iff.1 h
  obtain rfl := Narrated.pure_ok_iff.1 same
  obtain ⟨names, isNames, h⟩ := Narrated.bind_ok_iff.1 h
  split at h
  · next name found =>
    obtain rfl := Narrated.pure_ok_iff.1 h
    have isFile := List.find?_some found
    exact ⟨names, isDirectory, isNames, List.mem_of_find?_eq_some found, rfl, isFile⟩
  · cases h

theorem isFile_of_find {directory wanted : String} {handle : Handle}
    (isDirectory : (packageDirectory tree base).result = .ok directory)
    (h : (find tree base (some wanted)).result = .ok handle) (isName : isExtension wanted = false) :
    tree.isFile (Path.join directory (normalize wanted)) = true := by
  obtain ⟨names, container, isNames, member, path, isFile⟩ := find_ok h
  obtain rfl := Except.ok.inj (isDirectory.symm.trans container)
  rw [candidates, if_pos (by rw [isName]; rfl)] at isNames
  obtain rfl := Except.ok.inj isNames
  rwa [path, List.mem_singleton.1 member] at isFile

theorem result_find {directory : String}
    (isDirectory : (packageDirectory tree base).result = .ok directory) (wanted : String) :
    (find tree base (some wanted)).result =
      (candidates tree directory base wanted).bind fun names =>
        match names.find? fun name => tree.isFile (Path.join directory name) with
        | some name => .ok ⟨directory, name, Path.join directory name⟩
        | none => .error (.storage (.notFound (some wanted) directory)) := by
  unfold find needed
  simp only [Narrated.result_bind, isDirectory, Narrated.result_pure, Narrated.result_ofExcept]
  change (candidates tree directory base wanted).bind _ = _
  congr 1
  funext names
  cases names.find? fun name => tree.isFile (Path.join directory name) <;> rfl

theorem find_none (tree : FileTree) (base : String) :
    (find tree base none).result = .error (.absent .suffix) := by
  unfold find packageDirectory
  simp only [Narrated.result_bind, result_absolutePath]
  rfl

theorem read_of_isFile {handle : Handle} {bytes : List UInt8} (file : tree.isFile handle.path = true)
    (isRead : tree.read handle.path = .ok bytes) : (read tree handle).result = .ok (.bytes bytes) := by
  obtain ⟨⟨noZero, -⟩, -⟩ := FileTree.isFile_iff.1 file
  unfold read
  rw [Narrated.result_log_bind, if_neg (by rw [noZero]; decide), isRead]
  rfl

end Directory

namespace Archive

theorem join_ok_iff {name location : String} : (join tree base name).result = .ok location ↔
    ∃ archive, (absolutePath tree base).result = .ok archive ∧
      location = Path.join archive (normalize name) := by
  refine Narrated.bind_ok_iff.trans ?_
  simp only [Narrated.pure_ok_iff, @eq_comm String location]

theorem find_ok {wanted : String} {handle : Handle}
    (h : (find tree base (some wanted)).result = .ok handle) :
    ∃ holding, (openAt tree base).result = .ok (.ok holding) ∧
      ∃ member ∈ holding.listing, member.isFile = true ∧ answers wanted member.name = true ∧
        handle.name = member.name := by
  obtain ⟨_, same, h⟩ := Narrated.bind_ok_iff.1 h
  obtain rfl := Narrated.pure_ok_iff.1 same
  obtain ⟨opened, isOpened, h⟩ := Narrated.bind_ok_iff.1 h
  obtain ⟨holding, isHolding, chosen⟩ := Narrated.bind_ok_iff.1 h
  rw [Narrated.result_ofExcept, mapError_ok_iff] at isHolding
  rw [isHolding] at isOpened
  split at chosen
  · next member found =>
    rw [Narrated.result_log_bind] at chosen
    obtain ⟨path, -, isHandle⟩ := Narrated.bind_ok_iff.1 chosen
    obtain rfl := Narrated.pure_ok_iff.1 isHandle
    have suits := List.find?_some found
    rw [Bool.and_eq_true] at suits
    exact ⟨holding, isOpened, member, List.mem_of_find?_eq_some found, suits.1, suits.2, rfl⟩
  · cases chosen

end Archive

/-! ### Opened packages -/

theorem World.openPackage_ok_iff {world : World} {package : String} {client : Client} :
    (world.openPackage package).result = .ok client ↔
      ∃ backend, world.backendFor package = .ok backend ∧ client = world.client backend := by
  unfold World.openPackage
  rw [Narrated.bind_ok_iff]
  refine exists_congr fun backend => and_congr_right fun _ => ?_
  rw [Narrated.result_log_bind, Narrated.pure_ok_iff]
  exact eq_comm

end OvfInspect.Storage
