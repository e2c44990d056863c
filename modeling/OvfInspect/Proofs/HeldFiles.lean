import OvfInspect.Proofs.AbsolutePaths
import OvfInspect.Proofs.ArchiveReading

/-!
# The same files in a directory and in an archive

Files with plain names can be the whole content of a directory, or the members of an archive. A name
that stays inside the package is found in the one just if it is found in the other.
-/

namespace OvfInspect.Storage.Path

/-- What can name a file in a directory: a single component that names something in it. -/
structure IsName (name : String) : Prop where
  noSlash : '/' ∉ name.toList
  noZero : FileTree.hasZero name = false
  proper : isProper name = true
  notUp : name ≠ ".."

/-- The normal form neither is absolute nor goes up. -/
structure Inside (name : String) : Prop where
  relative : isAbsolute (normalize name) = false
  noStepUp : (normalize name).startsWith ".." = false

theorem IsName.relative {name : String} (h : IsName name) : isAbsolute name = false :=
  isAbsolute_of_noSlash h.noSlash

theorem leadingSlashes_of_relative {name : String} (relative : isAbsolute name = false) :
    leadingSlashes name = "" := by
  rw [leadingSlashes, relative]
  rfl

theorem IsName.normalize {name : String} (h : IsName name) : normalize name = name := by
  have single : normalComponents name = [name] := by
    rw [normalComponents, components_of_noSlash h.noSlash, List.foldl_cons, List.foldl_nil, extend,
      if_neg (by rw [h.proper]; decide), if_neg h.notUp]
    rfl
  rw [normalize_of_names (by rw [single]; exact List.cons_ne_nil _ _), single,
    leadingSlashes_of_relative h.relative, String.intercalate_singleton, String.empty_append]

/-- Steps up stand before the names that a relative path goes down to. -/
def Climbs (before : List String) : Prop :=
  ∃ names n, before = names ++ List.replicate n ".." ∧ ".." ∉ names

theorem climbs_extend {before : List String} (h : Climbs before) (c : String) :
    Climbs (extend false before c) := by
  obtain ⟨names, n, rfl, noUp⟩ := h
  unfold extend
  split
  · exact ⟨names, n, rfl, noUp⟩
  · split
    · cases names with
      | nil =>
        cases n with
        | zero => exact ⟨[], 1, rfl, by simp⟩
        | succ n => exact ⟨[], n + 2, rfl, by simp⟩
      | cons last rest =>
        rw [List.mem_cons, not_or] at noUp
        simp only [List.cons_append, if_neg (Ne.symm noUp.1)]
        exact ⟨rest, n, rfl, noUp.2⟩
    · next notUp =>
      refine ⟨c :: names, n, rfl, ?_⟩
      rw [List.mem_cons, not_or]
      exact ⟨Ne.symm notUp, noUp⟩

theorem climbs_foldl_extend (cs before : List String) (h : Climbs before) :
    Climbs (cs.foldl (extend false) before) := by
  induction cs generalizing before with
  | nil => exact h
  | cons c cs ih => exact ih _ (climbs_extend h c)

theorem exists_normalComponents_eq {name : String} (relative : isAbsolute name = false) :
    ∃ n names, normalComponents name = List.replicate n ".." ++ names ∧ Named names := by
  obtain ⟨names, n, split, noUp⟩ : Climbs ((components name).foldl (extend false) []) :=
    climbs_foldl_extend _ _ ⟨[], 0, rfl, by simp⟩
  have normal : normalComponents name = List.replicate n ".." ++ names.reverse := by
    rw [normalComponents, relative, split, List.reverse_append, List.reverse_replicate]
  refine ⟨n, names.reverse, normal, fun c member => ⟨?_, ?_⟩⟩
  · apply isProper_of_mem_normalComponents
    rw [normal]
    exact List.mem_append_right _ member
  · rintro rfl
    exact noUp (List.mem_reverse.1 member)

theorem startsWith_iff {path start : String} : path.startsWith start = true ↔ ∃ rest, path = start ++ rest := by
  rw [String.startsWith_string_iff]
  constructor
  · rintro ⟨rest, same⟩
    exact ⟨String.ofList rest, by rw [← String.toList_inj, String.toList_append, String.toList_ofList, same]⟩
  · rintro ⟨rest, rfl⟩
    exact ⟨rest.toList, String.toList_append.symm⟩

theorem Inside.named {name : String} (h : Inside name) : Named (normalComponents name) := by
  have relative : isAbsolute name = false := by rw [← isAbsolute_normalize]; exact h.relative
  obtain ⟨n, names, normal, named⟩ := exists_normalComponents_eq relative
  cases n with
  | zero =>
    rw [normal]
    exact named
  | succ n =>
    have up : (normalize name).startsWith ".." = true := by
      rw [normalize_of_names (by rw [normal]; simp [List.replicate_succ]), normal,
        leadingSlashes_of_relative relative, String.empty_append, List.replicate_succ,
        List.cons_append, startsWith_iff]
      cases List.replicate n ".." ++ names with
      | nil => exact ⟨"", by simp⟩
      | cons next rest =>
        exact ⟨"/" ++ "/".intercalate (next :: rest),
          by rw [String.intercalate_cons_cons, String.append_assoc]⟩
    rw [h.noStepUp] at up
    cases up

end OvfInspect.Storage.Path

namespace OvfInspect.Storage

open Storage.Path

/-- The files of a package, by their names. -/
abbrev Files := List (String × List UInt8)

/-- Files that can be together in a directory, exactly one of them with the extension. -/
structure Flat (extension : String) (files : Files) : Prop where
  distinct : (files.map Prod.fst).Nodup
  name : ∀ file ∈ files, IsName file.1
  one : ∃ file, files.filter (fun file => file.1.endsWith extension) = [file]

/-- Whether one of the files answers a wanted name or extension. -/
def Answered (files : Files) (wanted : String) : Prop :=
  ∃ file ∈ files, Archive.answers wanted file.1 = true

/-- The outcome of a look-up: something is found, or storage tells that there is nothing. -/
def Finds (answered : Prop) (result : Except Fault Handle) : Prop :=
  answered ∧ (∃ handle, result = .ok handle) ∨
    ¬ answered ∧ ∃ failure, result = .error (.storage failure)

variable {tree : FileTree} {base directory extension name wanted : String} {files : Files}

theorem Flat.ne_nil (flat : Flat extension files) : files ≠ [] := by
  rintro rfl
  obtain ⟨file, one⟩ := flat.one
  cases one

/-! ### Directories -/

namespace FileTree

theorem mem_entries {place : Place} {entry : Entry}
    (there : tree.entryAt? (place ++ [name]) = some entry) : (place ++ [name], entry) ∈ tree.entries := by
  rw [entryAt?, if_neg (by simp)] at there
  obtain ⟨before, after, split, -⟩ := List.lookup_eq_some_iff.1 there
  rw [split]
  simp

theorem mem_namesAt {place : Place} {entry : Entry}
    (there : tree.entryAt? (place ++ [name]) = some entry) : name ∈ tree.namesAt place := by
  rw [namesAt, List.mem_mergeSort, List.mem_eraseDups, List.mem_filterMap]
  exact ⟨_, mem_entries there, by simp⟩

theorem destination_join (absolute : isAbsolute directory = true) (relative : isAbsolute name = false) :
    tree.destination (join directory name) = (components name).foldl step (tree.destination directory) := by
  unfold destination startOf
  rw [isAbsolute_join absolute, absolute, foldl_step_join directory relative]

theorem destination_join_name (absolute : isAbsolute directory = true) (isName : IsName name) :
    tree.destination (join directory name) = tree.destination directory ++ [name] := by
  rw [destination_join absolute isName.relative, components_of_noSlash isName.noSlash, List.foldl_cons,
    List.foldl_nil, step_of_name _ isName.proper isName.notUp]

theorem list_ok {names : List String} (h : tree.list directory = .ok names) :
    tree.locate directory = .ok (tree.destination directory, .directory) ∧
      names = tree.namesAt (tree.destination directory) := by
  obtain ⟨⟨place, entry⟩, located, h⟩ := bind_ok_iff.1 h
  obtain ⟨-, rfl, -⟩ := locate_ok_iff.1 located
  cases entry with
  | directory => exact ⟨located, (Except.ok.inj h).symm⟩
  | file _ => cases h
  | archive _ => cases h

end FileTree

namespace Directory

/-- The package is a directory that lists just these files, and each is there by its name. -/
structure Holds (tree : FileTree) (base directory : String) (files : Files) : Prop where
  given : tree.isDirectory base = true
  absolute : (absolutePath tree base).result = .ok directory
  list : ∃ names, tree.list directory = .ok names ∧ names.Perm (files.map Prod.fst)
  file : ∀ file ∈ files, tree.isFile (Path.join directory file.1) = true ∧
    tree.read (Path.join directory file.1) = .ok file.2

variable (holds : Holds tree base directory files)
include holds

theorem Holds.isAbsolute : isAbsolute directory = true :=
  isAbsolute_of_absolutePath holds.absolute

theorem Holds.entryAt? : tree.entryAt? (tree.destination directory) = some .directory := by
  obtain ⟨names, isListed, -⟩ := holds.list
  exact (FileTree.locate_ok_iff.1 (FileTree.list_ok isListed).1).2.2

theorem Holds.exists_file {entry : Entry}
    (there : tree.entryAt? (tree.destination directory ++ [name]) = some entry) :
    ∃ file ∈ files, file.1 = name := by
  obtain ⟨names, isListed, same⟩ := holds.list
  obtain ⟨-, rfl⟩ := FileTree.list_ok isListed
  exact List.mem_map.1 (same.subset (FileTree.mem_namesAt there))

variable (flat : Flat extension files)
include flat

theorem Holds.not_directory :
    tree.entryAt? (tree.destination directory ++ [name]) ≠ some .directory := by
  intro there
  obtain ⟨file, member, rfl⟩ := holds.exists_file there
  obtain ⟨-, entry, found, isFile⟩ := FileTree.isFile_iff.1 (holds.file file member).1
  rw [FileTree.destination_join_name holds.isAbsolute (flat.name file member), there] at found
  obtain rfl := Option.some.inj found
  cases isFile

/-- A name of several components leads nowhere: the first would have to be a directory. -/
theorem Holds.not_passable (inside : Inside name) {first second : String} {rest : List String}
    (normal : normalComponents name = first :: second :: rest) :
    ¬ FileTree.Passable tree (tree.startOf (Path.join directory (normalize name)))
      (components (Path.join directory (normalize name))) := by
  intro passable
  have absolute := holds.isAbsolute
  obtain ⟨before, parts, sameNames⟩ := components_join directory inside.relative
  have passed := FileTree.passable_filter passable
  rw [parts, List.filter_append, sameNames, filter_components_normalize, normal] at passed
  have start : tree.startOf (Path.join directory (normalize name)) = [] :=
    if_pos (isAbsolute_join absolute _)
  have place : tree.destination directory = (components directory).foldl step [] := by
    rw [FileTree.destination, FileTree.startOf, if_pos absolute]
  obtain ⟨isDirectory, -⟩ :=
    passed ((components directory).filter isProper ++ [first]) second rest (by simp)
  have isFirst : isProper first = true ∧ first ≠ ".." := inside.named first (by rw [normal]; simp)
  rw [start, List.foldl_append, foldl_step_filter, List.foldl_cons, List.foldl_nil,
    step_of_name _ isFirst.1 isFirst.2, ← place] at isDirectory
  exact holds.not_directory flat isDirectory

/-- A name that stays inside leads to a file just if its normal form is the name of one. -/
theorem Holds.isFile_iff (inside : Inside name) :
    tree.isFile (Path.join directory (normalize name)) = true ↔ ∃ file ∈ files, file.1 = normalize name := by
  have absolute := holds.isAbsolute
  constructor
  · intro isFile
    obtain ⟨⟨-, -, -, passable⟩, entry, there, notDirectory⟩ := FileTree.isFile_iff.1 isFile
    have relative : Path.isAbsolute name = false := by rw [← isAbsolute_normalize]; exact inside.relative
    rw [FileTree.destination_join absolute inside.relative, ← foldl_step_filter,
      filter_components_normalize, foldl_step_of_named inside.named] at there
    cases normal : normalComponents name with
    | nil =>
      rw [normal, List.append_nil, holds.entryAt?] at there
      obtain rfl := Option.some.inj there
      cases notDirectory
    | cons first rest =>
      cases rest with
      | nil =>
        rw [normal] at there
        rw [normalize_of_names (by rw [normal]; exact List.cons_ne_nil _ _), normal,
          leadingSlashes_of_relative relative, String.empty_append, String.intercalate_singleton]
        exact holds.exists_file there
      | cons second rest => exact absurd passable (holds.not_passable flat inside normal)
  · rintro ⟨file, member, same⟩
    rw [← same]
    exact (holds.file file member).1

theorem Holds.hasZero_eq_false : FileTree.hasZero directory = false := by
  obtain ⟨file, member⟩ := List.exists_mem_of_ne_nil _ flat.ne_nil
  obtain ⟨⟨noZero, -⟩, -⟩ := FileTree.isFile_iff.1 (holds.file file member).1
  unfold Path.join at noZero
  rw [if_neg (by rw [(flat.name file member).relative]; decide)] at noZero
  split at noZero
  · rw [FileTree.hasZero_append, Bool.or_eq_false_iff] at noZero
    exact noZero.1
  · rw [FileTree.hasZero_append, FileTree.hasZero_append, Bool.or_eq_false_iff,
      Bool.or_eq_false_iff] at noZero
    exact noZero.1.1

theorem Holds.packageDirectory_eq : (packageDirectory tree base).result = .ok directory := by
  obtain ⟨names, isListed, -⟩ := holds.list
  have isDirectory : tree.isDirectory directory = true := by
    rw [FileTree.isDirectory, FileTree.entry?, if_neg (by rw [holds.hasZero_eq_false flat]; decide),
      (FileTree.list_ok isListed).1]
    rfl
  unfold packageDirectory
  rw [Narrated.result_bind, holds.absolute]
  simp only [Except.bind, Narrated.result_pure, isDirectory]
  rfl

theorem Holds.candidates_eq (isExtension : isExtension wanted = true) :
    ∃ names, candidates tree directory base wanted = .ok names ∧
      names.Perm ((files.map Prod.fst).filter fun name => name.endsWith wanted) := by
  obtain ⟨names, isListed, same⟩ := holds.list
  have listed : listing tree directory = .ok names := by
    rw [listing, if_neg (by rw [holds.hasZero_eq_false flat]; decide), isListed]
  refine ⟨names.filter fun name => name.endsWith wanted, ?_, same.filter _⟩
  rw [candidates, isExtension, holds.given, listed]
  rfl

theorem Holds.find_of_extension (isExtension : isExtension wanted = true) :
    ∃ names : List String,
      names.Perm ((files.map Prod.fst).filter fun name => name.endsWith wanted) ∧
      (find tree base (some wanted)).result = match names with
        | name :: _ => .ok ⟨directory, name, Path.join directory name⟩
        | [] => .error (.storage (.notFound (some wanted) directory)) := by
  obtain ⟨names, isNames, same⟩ := holds.candidates_eq flat isExtension
  refine ⟨names, same, ?_⟩
  rw [result_find (holds.packageDirectory_eq flat), isNames, Except.bind]
  cases names with
  | nil => rfl
  | cons name rest =>
    obtain ⟨file, member, rfl⟩ := List.mem_map.1 (List.mem_of_mem_filter (same.subset List.mem_cons_self))
    have first : (file.1 :: rest).find? (fun name => tree.isFile (Path.join directory name)) =
        some file.1 := List.find?_cons_of_pos (holds.file file member).1
    rw [first]

theorem Holds.find_one (isExtension : Storage.isExtension extension = true) :
    ∃ file ∈ files, file.1.endsWith extension = true ∧
      (find tree base (some extension)).result =
        .ok ⟨directory, file.1, Path.join directory file.1⟩ ∧
      (read tree ⟨directory, file.1, Path.join directory file.1⟩).result = .ok (.bytes file.2) := by
  obtain ⟨file, one⟩ := flat.one
  obtain ⟨member, ending⟩ := List.mem_filter.1 (one ▸ List.mem_singleton_self file)
  obtain ⟨names, same, found⟩ := holds.find_of_extension flat isExtension
  have single : (files.map Prod.fst).filter (fun name => name.endsWith extension) = [file.1] := by
    rw [List.filter_map]
    exact congrArg (List.map Prod.fst) one
  rw [single, List.perm_singleton] at same
  rw [same] at found
  obtain ⟨isFile, isRead⟩ := holds.file file member
  exact ⟨file, member, ending, found, read_of_isFile isFile isRead⟩

theorem Holds.finds (inside : Storage.isExtension wanted = false → Inside wanted) :
    Finds (Answered files wanted) (find tree base (some wanted)).result := by
  cases isExtension : Storage.isExtension wanted with
  | true =>
    have answers (name : String) : Archive.answers wanted name = name.endsWith wanted := by
      rw [Archive.answers, if_pos isExtension]
    obtain ⟨names, same, found⟩ := holds.find_of_extension flat isExtension
    rw [found]
    cases names with
    | nil =>
      refine Or.inr ⟨?_, _, rfl⟩
      rintro ⟨file, member, answered⟩
      have kept : file.1 ∈ (files.map Prod.fst).filter fun name => name.endsWith wanted := by
        rw [List.mem_filter, ← answers]
        exact ⟨List.mem_map_of_mem member, answered⟩
      rw [List.nil_perm.1 same] at kept
      cases kept
    | cons name rest =>
      obtain ⟨inNames, ending⟩ := List.mem_filter.1 (same.subset List.mem_cons_self)
      obtain ⟨file, member, rfl⟩ := List.mem_map.1 inNames
      exact Or.inl ⟨⟨file, member, by rw [answers]; exact ending⟩, _, rfl⟩
  | false =>
    have answers {file : String × List UInt8} (member : file ∈ files) :
        Archive.answers wanted file.1 = true ↔ file.1 = normalize wanted := by
      rw [Archive.answers, if_neg (by rw [isExtension]; decide), (flat.name file member).normalize,
        beq_iff_eq]
    have answered : Answered files wanted ↔ tree.isFile (Path.join directory (normalize wanted)) = true := by
      rw [holds.isFile_iff flat (inside isExtension)]
      exact exists_congr fun file => and_congr_right answers
    have only : candidates tree directory base wanted = .ok [normalize wanted] := by
      rw [candidates, isExtension]
      rfl
    rw [result_find (holds.packageDirectory_eq flat), only, Except.bind, answered]
    by_cases isFile : tree.isFile (Path.join directory (normalize wanted)) = true
    · have first : [normalize wanted].find? (fun name => tree.isFile (Path.join directory name)) =
          some (normalize wanted) := List.find?_cons_of_pos isFile
      rw [first]
      exact Or.inl ⟨isFile, _, rfl⟩
    · have none : [normalize wanted].find? (fun name => tree.isFile (Path.join directory name)) = none :=
        List.find?_cons_of_neg isFile
      rw [none]
      exact Or.inr ⟨isFile, _, rfl⟩

end Directory

/-! ### Archives -/

namespace Archive

/-- The package is an archive of just these files: its members are regular, have the names of the files
in any order, and can be read. -/
structure Holds (tree : FileTree) (base : String) (holding : Holding) (files : Files) : Prop where
  isOpened : (openAt tree base).result = .ok (.ok holding)
  regular : ∀ member ∈ holding.listing, member.isFile = true
  names : (holding.listing.map Member.name).Perm (files.map Prod.fst)
  content : ∀ file ∈ files, holding.readName file.1 = .ok file.2

section

variable {holding : Holding} (holds : Holds tree base holding files)
include holds

theorem Holds.exists_file {member : Member} (h : member ∈ holding.listing) :
    ∃ file ∈ files, file.1 = member.name :=
  List.mem_map.1 (holds.names.subset (List.mem_map_of_mem h))

theorem Holds.exists_member {file : String × List UInt8} (h : file ∈ files) :
    ∃ member ∈ holding.listing, member.name = file.1 :=
  List.mem_map.1 (holds.names.symm.subset (List.mem_map_of_mem h))

theorem Holds.finds : Finds (Answered files wanted) (find tree base (some wanted)).result := by
  rw [result_find holds.isOpened (result_absolutePath tree base)]
  split
  · next member found =>
    obtain ⟨file, inFiles, same⟩ := holds.exists_file (List.mem_of_find?_eq_some found)
    have suited := List.find?_some found
    rw [suits, Bool.and_eq_true] at suited
    exact Or.inl ⟨⟨file, inFiles, by rw [same]; exact suited.2⟩, _, rfl⟩
  · next none =>
    refine Or.inr ⟨?_, _, rfl⟩
    rintro ⟨file, inFiles, answered⟩
    obtain ⟨member, listed, same⟩ := holds.exists_member inFiles
    refine List.find?_eq_none.1 none member listed ?_
    rw [suits, Bool.and_eq_true, same]
    exact ⟨holds.regular member listed, answered⟩

theorem Holds.find_one (flat : Flat extension files) (isExtension : isExtension extension = true) :
    ∃ file ∈ files, file.1.endsWith extension = true ∧ ∃ handle,
      (find tree base (some extension)).result = .ok handle ∧
      (read tree handle).result = .ok (.bytes file.2) := by
  obtain ⟨file, one⟩ := flat.one
  obtain ⟨inFiles, ending⟩ := List.mem_filter.1 (one ▸ List.mem_singleton_self file)
  have answers (name : String) : Archive.answers extension name = name.endsWith extension := by
    rw [Archive.answers, if_pos isExtension]
  have found := result_find holds.isOpened (result_absolutePath tree base) extension
  split at found
  · next member chosen =>
    obtain ⟨file', inFiles', same⟩ := holds.exists_file (List.mem_of_find?_eq_some chosen)
    have suited := List.find?_some chosen
    rw [suits, Bool.and_eq_true, answers, ← same] at suited
    have sameFile : file' = file := by
      rw [← List.mem_singleton, ← one, List.mem_filter]
      exact ⟨inFiles', suited.2⟩
    refine ⟨file, inFiles, ending, _, found, (read_ok_iff holds.isOpened).2 ⟨file.2, rfl, ?_⟩⟩
    rw [← same, sameFile]
    exact holds.content file inFiles
  · next none =>
    obtain ⟨member, listed, same⟩ := holds.exists_member inFiles
    refine absurd ?_ (List.find?_eq_none.1 none member listed)
    rw [suits, Bool.and_eq_true, same, answers]
    exact ⟨holds.regular member listed, ending⟩

end

/-! ### Archives of members -/

theorem withoutSlashes_of_noSlash (noSlash : '/' ∉ name.toList) : withoutSlashes name = name := by
  have kept : name.toList.reverse.dropWhile (· == '/') = name.toList.reverse := by
    rw [List.dropWhile_eq_self_iff]
    intro nonempty isSlash
    have member := List.mem_reverse.1 (List.getElem_mem nonempty)
    rw [beq_iff_eq.1 isSlash] at member
    exact noSlash member
  rw [withoutSlashes, kept, List.reverse_reverse, String.ofList_toList]

theorem throughField_of_noZero (noZero : FileTree.hasZero name = false) : throughField name = name := by
  unfold throughField
  split
  · have kept : name.toList.takeWhile (· ≠ '\x00') = name.toList := by
      rw [List.takeWhile_eq_self_iff]
      intro c member
      refine decide_eq_true ?_
      rintro rfl
      rw [FileTree.hasZero, List.contains_eq_mem, decide_eq_false_iff_not] at noZero
      exact noZero member
    rw [kept, String.ofList_toList]
  · rfl

theorem stored_file {bytes : List UInt8} (isName : IsName name) :
    stored ⟨name, .file bytes⟩ = ⟨name, .file bytes⟩ := by
  rw [stored]
  simp only [throughField_of_noZero isName.noZero, withoutSlashes_of_noSlash isName.noSlash, storedKind,
    ite_self]

/-- The members that hold the files, in their order. -/
def membersOf (files : Files) : List Member :=
  files.map fun file => ⟨file.1, .file file.2⟩

variable {members : List Member} (flat : Flat extension files) (same : members.Perm (membersOf files))
include flat same

theorem readName_of_mem {file : String × List UInt8} (inFiles : file ∈ files) :
    (Holding.ofMembers members).readName file.1 = .ok file.2 := by
  have member : ⟨file.1, .file file.2⟩ ∈ members := same.mem_iff.2 (List.mem_map_of_mem inFiles)
  obtain ⟨before, after, split⟩ := List.append_of_mem member
  have distinct : (members.map Member.name).Nodup := by
    rw [(same.map Member.name).nodup_iff, membersOf, List.map_map]
    exact flat.distinct
  have others : ∀ other ∈ after, (other.name == file.1) = false := by
    intro other later
    rw [split, List.map_append, List.map_cons, List.nodup_append, List.nodup_cons] at distinct
    rw [beq_eq_false_iff_ne]
    intro sameName
    refine distinct.2.1.1 (List.mem_map.2 ⟨other, later, sameName⟩)
  have bare := withoutSlashes_of_noSlash (flat.name file inFiles).noSlash
  refine readsAs_iff.1 ⟨(⟨file.1, .file file.2⟩, before), _, ⟨?_, after, split, ?_⟩, ⟨.refl, rfl⟩, rfl⟩
  · rw [bare]
    exact beq_self_eq_true file.1
  · rw [bare]
    exact others

/-- An archive whose members are the files in any order holds them. -/
theorem holds_of_perm {archive : String} (isArchive : (absolutePath tree base).result = .ok archive)
    (there : tree.entry? archive = some (.archive members)) :
    Holds tree base (.ofMembers members) files := by
  have inFiles {member : Member} (h : member ∈ members) :
      ∃ file ∈ files, (⟨file.1, .file file.2⟩ : Member) = member :=
    List.mem_map.1 (same.mem_iff.1 h)
  have stored : members.map stored = members := by
    refine (List.map_congr_left fun member listed => ?_).trans (List.map_id members)
    obtain ⟨file, inside, rfl⟩ := inFiles listed
    exact stored_file (flat.name file inside)
  refine ⟨?_, ?_, ?_, fun file => readName_of_mem flat same⟩
  · rw [openAt_of_archive isArchive there, stored]
  · intro member listed
    obtain ⟨file, -, rfl⟩ := inFiles listed
    rfl
  · rw [Holding.listing, (same.map Member.name).congr_left, membersOf, List.map_map]
    rfl

end Archive

end OvfInspect.Storage
