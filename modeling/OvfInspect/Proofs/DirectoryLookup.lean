import OvfInspect.Proofs.BuiltTrees
import OvfInspect.Proofs.HeldFiles
import OvfInspect.Proofs.LocatedDisks
import OvfInspect.Proofs.NamedDescriptor

/-!
# Looking up in directories

In the directory of a package a name is looked up as a path, and an extension among the names that the
directory lists, unless the package is given by a file that has it. `directory_lookup` says in all cases
what is found, what is told when nothing is, and that the file that is found can be read.
-/

namespace OvfInspect.Storage.Path

/-- The path is made of these names, from the root or from the working directory. -/
structure MadeOf (path : String) (names : List String) : Prop where
  someName : names ≠ []
  named : Named names
  components_eq : components path = if isAbsolute path then "" :: names else names

/-- A path without empty components and without steps that stay or go up. -/
def Straight (path : String) : Prop :=
  ∃ names, MadeOf path names

theorem filter_of_named {names : List String} (named : Named names) : names.filter isProper = names :=
  List.filter_eq_self.2 fun name member => (named name member).1

theorem Straight.isName_baseName {path : String} (straight : Straight path) :
    isProper (baseName path) = true ∧ baseName path ≠ ".." := by
  obtain ⟨names, someName, named, parts⟩ := straight
  obtain ⟨before, last, rfl⟩ := (List.eq_nil_or_concat names).resolve_left someName
  have isLast : baseName path = last := by
    split at parts
    · have parts' : components path = ("" :: before) ++ [last] := by simpa using parts
      exact baseName_eq_of_components parts'
    · exact baseName_eq_of_components (by simpa using parts)
  rw [isLast]
  exact named last (by simp)

theorem utf8ByteSize_intercalate_le {names others : List String} (kept : names.Sublist others) :
    ("/".intercalate names).utf8ByteSize ≤ ("/".intercalate others).utf8ByteSize := by
  induction kept with
  | slnil => exact Nat.le_refl _
  | @cons names others next _ ih =>
    refine Nat.le_trans ih ?_
    rcases others with _ | ⟨first, others⟩
    · exact Nat.zero_le _
    · rw [String.intercalate_cons_cons, String.utf8ByteSize_append]
      omega
  | @cons_cons names others next kept ih =>
    rcases names with _ | ⟨first, names⟩ <;> rcases others with _ | ⟨other, others⟩
    · exact Nat.le_refl _
    · rw [String.intercalate_singleton, String.intercalate_cons_cons, String.utf8ByteSize_append,
        String.utf8ByteSize_append]
      omega
    · cases kept
    · rw [String.intercalate_cons_cons, String.intercalate_cons_cons, String.utf8ByteSize_append,
        String.utf8ByteSize_append, String.utf8ByteSize_append, String.utf8ByteSize_append]
      omega

theorem isName_of_endsWith_extension {name extension : String} (isExtension : isExtension extension = true)
    (ending : name.endsWith extension = true) : isProper name = true ∧ name ≠ ".." := by
  obtain ⟨rest, start, plain, someLetter⟩ := Package.chars_of_extension isExtension
  obtain ⟨before, rfl⟩ := endsWith_iff.1 ending
  obtain ⟨front, c, rfl⟩ := (List.eq_nil_or_concat rest).resolve_left someLetter
  rw [List.concat_eq_append] at start plain
  have notPoint : c ≠ '.' := (plain c (by simp)).2
  have differs (other : String) (ended : other.toList.getLast? ≠ some c) : before ++ extension ≠ other := by
    rintro rfl
    rw [String.toList_append, start] at ended
    exact ended (by rw [← List.cons_append, ← List.append_assoc, List.getLast?_concat])
  have notEmpty := differs "" (by simp)
  have notHere := differs "." (by simp [notPoint.symm])
  exact ⟨by simp [isProper, notEmpty, notHere], differs ".." (by simp [notPoint.symm])⟩

theorem filter_components_join_parent (path : String) :
    (components (join (parent path) (baseName path))).filter isProper =
      (components path).filter isProper := by
  obtain ⟨before, joined, names⟩ := components_join (parent path) (isAbsolute_baseName path)
  obtain ⟨before', split, names'⟩ := exists_components_eq path
  rw [joined, split, List.filter_append, List.filter_append, names, names', filter_components_parent,
    components_of_noSlash (slash_not_mem_baseName path)]

end OvfInspect.Storage.Path

namespace OvfInspect.Storage.FileTree

open Storage.Path

variable {tree : FileTree} {path other directory name : String}

/-- The path itself if it is absolute, and else its absolute form. -/
def absoluteForm (tree : FileTree) (path : String) : String :=
  if isAbsolute path then path else absolute tree.workingPath path

theorem isAbsolute_absoluteForm (tree : FileTree) (path : String) : isAbsolute (tree.absoluteForm path) = true :=
  isAbsolute_of_absolutePath (result_absolutePath tree path)

theorem isDirectory_iff : tree.isDirectory path = true ↔
    Walkable tree path ∧ tree.entryAt? (tree.destination path) = some .directory := by
  rw [isDirectory, Option.any_eq_true]
  constructor
  · rintro ⟨entry, found, isDirectory⟩
    cases entry with
    | directory => exact entry?_eq_some_iff.1 found
    | file _ => cases isDirectory
    | archive _ => cases isDirectory
  · exact fun there => ⟨.directory, entry?_eq_some_iff.2 there, rfl⟩

/-! ### Paths made of names -/

theorem passable_append {start : Place} {cs ds : List String} :
    Passable tree start (cs ++ ds) ↔ Passable tree start cs ∧ Passable tree (cs.foldl step start) ds := by
  induction cs generalizing start with
  | nil => simp [passable_nil]
  | cons c cs ih =>
    rw [List.cons_append, passable_cons, passable_cons, ih, List.foldl_cons]
    exact and_assoc.symm

theorem named_startOf (rooted : tree.Rooted) (path : String) : Named (tree.startOf path) := by
  unfold startOf
  split
  · exact named_nil
  · exact rooted.named

theorem named_destination (rooted : tree.Rooted) (path : String) : Named (tree.destination path) :=
  named_foldl_step (named_startOf rooted path) _

variable {names : List String}

theorem destination_of_madeOf (madeOf : MadeOf path names) :
    tree.destination path = tree.startOf path ++ names := by
  have kept := filter_of_named madeOf.named
  unfold destination
  rw [madeOf.components_eq, ← foldl_step_filter]
  split
  · rw [List.filter_cons_of_neg (by decide), kept, foldl_step_of_named madeOf.named]
  · rw [kept, foldl_step_of_named madeOf.named]

/-- An absolute path that leads through all the names of another path leads to the same place. -/
structure Follows (tree : FileTree) (path other : String) : Prop where
  isAbsolute : isAbsolute other = true
  names_eq : (components other).filter isProper = tree.destination path

theorem follows_absoluteForm (rooted : tree.Rooted) (straight : Straight path) :
    tree.Follows path (tree.absoluteForm path) := by
  refine ⟨isAbsolute_absoluteForm tree path, ?_⟩
  obtain ⟨names, madeOf⟩ := straight
  unfold absoluteForm
  split
  · next absolute =>
    rw [destination_of_madeOf madeOf, startOf, if_pos absolute, madeOf.components_eq, if_pos absolute,
      List.filter_cons_of_neg (by decide), filter_of_named madeOf.named]
    rfl
  · next relative =>
    rw [Path.absolute, if_neg relative, filter_components_normalize,
      normalComponents_join_workingPath rooted (Bool.eq_false_iff.2 relative)]

section Follows

variable (follows : tree.Follows path other)
include follows

theorem Follows.join_parent : tree.Follows path (join (parent other) (baseName other)) :=
  ⟨isAbsolute_join (isAbsolute_parent follows.isAbsolute) _,
    (filter_components_join_parent other).trans follows.names_eq⟩

theorem Follows.destination_eq (rooted : tree.Rooted) : tree.destination other = tree.destination path := by
  have start : tree.startOf other = [] := if_pos follows.isAbsolute
  rw [destination, start, ← foldl_step_filter, follows.names_eq,
    foldl_step_of_named (named_destination rooted path)]
  rfl

theorem Follows.sublist (madeOf : MadeOf path names) : (components path).Sublist (components other) := by
  have filtered : names.Sublist ((components other).filter isProper) := by
    rw [follows.names_eq, destination_of_madeOf madeOf]
    exact List.sublist_append_right _ names
  rw [madeOf.components_eq]
  split
  · obtain ⟨rest, slash⟩ := isAbsolute_iff.1 follows.isAbsolute
    have first : components other = "" :: components (String.ofList rest) := by
      rw [← String.ofList_toList (s := other), slash, ← List.singleton_append, String.ofList_append]
      exact components_append_slash "" _
    rw [first] at filtered ⊢
    rw [List.filter_cons_of_neg (by decide)] at filtered
    exact (filtered.trans List.filter_sublist).cons_cons ""
  · exact filtered.trans List.filter_sublist

theorem Follows.passable (rooted : tree.Rooted) (madeOf : MadeOf path names)
    (passable : Passable tree (tree.startOf other) (components other)) :
    Passable tree (tree.startOf path) (components path) := by
  have start : tree.startOf other = [] := if_pos follows.isAbsolute
  have whole := passable_filter passable
  rw [start, follows.names_eq, destination_of_madeOf madeOf, passable_append,
    foldl_step_of_named (named_startOf rooted path), List.nil_append] at whole
  rw [madeOf.components_eq]
  split
  · next absolute =>
    have root : tree.startOf path = [] := if_pos absolute
    rw [root] at whole ⊢
    exact passable_cons.2 ⟨⟨rfl, by decide⟩, whole.2⟩
  · exact whole.2

/-- If the absolute path can be walked, so can the path, which is no longer. -/
theorem Follows.walkable (rooted : tree.Rooted) (straight : Straight path)
    (walkable : Walkable tree other) : Walkable tree path := by
  obtain ⟨names, madeOf⟩ := straight
  have kept := follows.sublist madeOf
  refine ⟨?_, ?_, ?_, follows.passable rooted madeOf walkable.passable⟩
  · rw [← intercalate_components path, hasZero_intercalate]
    exact fun c member => hasZero_of_mem_components walkable.noZero (kept.subset member)
  · rintro rfl
    have single : [""] = names := by
      have parts := madeOf.components_eq
      rwa [if_neg (by decide)] at parts
    cases (madeOf.named "" (by rw [← single]; exact List.mem_cons_self)).1
  · have shorter := utf8ByteSize_intercalate_le kept
    rw [intercalate_components, intercalate_components] at shorter
    exact Nat.lt_of_le_of_lt shorter walkable.short

theorem Follows.isDirectory (rooted : tree.Rooted) (straight : Straight path)
    (isDirectory : tree.isDirectory other = true) : tree.isDirectory path = true := by
  obtain ⟨walkable, there⟩ := isDirectory_iff.1 isDirectory
  rw [follows.destination_eq rooted] at there
  exact isDirectory_iff.2 ⟨follows.walkable rooted straight walkable, there⟩

end Follows

theorem baseName_absoluteForm (rooted : tree.Rooted) (isName : isProper (baseName path) = true)
    (notUp : baseName path ≠ "..") : baseName (tree.absoluteForm path) = baseName path := by
  unfold absoluteForm
  split
  · rfl
  · next relative =>
    obtain ⟨before, last⟩ := exists_destination_eq tree isName notUp
    have normal := normalComponents_join_workingPath rooted (Bool.eq_false_iff.2 relative)
    obtain ⟨front, parts⟩ := exists_components_normalize (by rw [normal, last]; simp)
    rw [normal, last, ← List.append_assoc] at parts
    rw [Path.absolute, if_neg relative]
    exact baseName_eq_of_components parts

end OvfInspect.Storage.FileTree

namespace OvfInspect.Storage

open Storage.Path

variable {tree : FileTree} {base directory wanted name : String}

namespace FileTree

variable {path : String}

theorem mem_namesAt_iff {place : Place} :
    name ∈ tree.namesAt place ↔ ∃ entry, tree.entryAt? (place ++ [name]) = some entry := by
  refine ⟨fun listed => ?_, fun ⟨entry, there⟩ => mem_namesAt there⟩
  rw [namesAt, List.mem_mergeSort, List.mem_eraseDups, List.mem_filterMap] at listed
  obtain ⟨⟨at', entry⟩, member, chosen⟩ := listed
  split at chosen
  · next inside =>
    have whole : at' = place ++ [name] := by
      rw [← inside]
      exact (List.dropLast_append_getLast? name chosen).symm
    rw [entryAt?, if_neg (by simp), ← Option.ne_none_iff_exists', ← whole, Ne, List.lookup_eq_none_iff]
    intro absent
    have differs := absent _ member
    rw [bne_self_eq_false] at differs
    cases differs
  · cases chosen

theorem pairwise_namesAt (tree : FileTree) (place : Place) : (tree.namesAt place).Pairwise (· ≤ ·) := by
  have sorted (names : List String) :
      (names.mergeSort fun a b => a ≤ b).Pairwise fun a b => decide (a ≤ b) = true :=
    List.pairwise_mergeSort (fun a b c h h' => by simpa using String.le_trans (by simpa using h) (by simpa using h'))
      (fun a b => by simpa using String.le_total a b) names
  exact (sorted _).imp of_decide_eq_true

theorem list_of_isDirectory (h : tree.isDirectory path = true) :
    tree.list path = .ok (tree.namesAt (tree.destination path)) := by
  obtain ⟨⟨-, nonempty, short, passable⟩, there⟩ := isDirectory_iff.1 h
  rw [list, locate_ok_iff.2 ⟨⟨nonempty, short, passable⟩, rfl, there⟩]
  rfl

theorem exists_list_error (noZero : hasZero path = false) (h : tree.isDirectory path = false) :
    ∃ code, tree.list path = .error code := by
  cases listed : tree.list path with
  | error code => exact ⟨code, rfl⟩
  | ok names =>
    obtain ⟨⟨nonempty, short, passable⟩, -, there⟩ := locate_ok_iff.1 (list_ok listed).1
    rw [isDirectory_iff.2 ⟨⟨noZero, nonempty, short, passable⟩, there⟩] at h
    cases h

end FileTree

namespace Directory

/-- The directory of a package: the given path itself if it leads to one, and else its parent. -/
def directoryOf (tree : FileTree) (base : String) : String :=
  if tree.isDirectory (tree.absoluteForm base) then tree.absoluteForm base
  else parent (tree.absoluteForm base)

theorem result_packageDirectory (tree : FileTree) (base : String) :
    (packageDirectory tree base).result = .ok (directoryOf tree base) := by
  unfold packageDirectory
  rw [Narrated.result_bind, result_absolutePath]
  rfl

theorem isAbsolute_directoryOf (tree : FileTree) (base : String) : isAbsolute (directoryOf tree base) = true :=
  isAbsolute_packageDirectory (result_packageDirectory tree base)

/-- The outcome when a single name comes into question. -/
def single (tree : FileTree) (directory wanted name : String) : Except Fault Handle :=
  if tree.isFile (Path.join directory name) then .ok ⟨directory, name, Path.join directory name⟩
  else .error (.storage (.notFound (some wanted) directory))

/-- There is a file of the name directly in the directory, which has the extension and can be reached. -/
structure Offers (tree : FileTree) (directory wanted name : String) : Prop where
  ending : name.endsWith wanted = true
  there : ∃ entry, tree.entryAt? (tree.destination directory ++ [name]) = some entry ∧
    entry.isDirectory = false
  walkable : tree.Walkable (Path.join directory name)

/-- The least of the names on offer is found, if there is one. -/
def FindsLeast (tree : FileTree) (directory wanted : String) (result : Except Fault Handle) : Prop :=
  (∃ name, Offers tree directory wanted name ∧ (∀ other, Offers tree directory wanted other → name ≤ other) ∧
    result = .ok ⟨directory, name, Path.join directory name⟩) ∨
  (∀ name, ¬ Offers tree directory wanted name) ∧
    result = .error (.storage (.notFound (some wanted) directory))

/-- Whether the extension is looked for among the names that the directory lists. -/
structure Searched (tree : FileTree) (base wanted : String) : Prop where
  isExtension : isExtension wanted = true
  notItself : ¬ (tree.isDirectory base = false ∧ base.endsWith wanted = true)

/-- What looking up in the directory of a package comes to. -/
structure Outcome (tree : FileTree) (base wanted directory : String) (result : Except Fault Handle) :
    Prop where
  /-- A name is followed as a path. -/
  byName : isExtension wanted = false → result = single tree directory wanted (normalize wanted)
  /-- A file that has the extension stands for its package. -/
  itself : isExtension wanted = true → tree.isDirectory base = false → base.endsWith wanted = true →
    result = single tree directory wanted (baseName base)
  regular : Straight base → tree.isDirectory base = false →
    (tree.isFile (Path.join directory (baseName base)) = true ↔ tree.isFile base = true ∧
      (isAbsolute base = true ∨
        (Path.join directory (baseName base)).utf8ByteSize < FileTree.pathLimit))
  least : Searched tree base wanted → tree.isDirectory directory = true →
    FindsLeast tree directory wanted result
  unlisted : Searched tree base wanted → tree.isDirectory directory = false →
    FileTree.hasZero directory = false →
      ∃ code, result = .error (.storage (.ofCode code directory))
  /-- A zero character is told without the directory. -/
  unspelled : Searched tree base wanted → FileTree.hasZero directory = true →
    result = .error (.path .zeroCharacter)
  readable : ∀ handle, result = .ok handle →
    handle.container = directory ∧ handle.path = Path.join directory handle.name ∧
      ∃ entry bytes, tree.entryAt? (tree.destination handle.path) = some entry ∧
        entry.bytes? = some bytes ∧ (read tree handle).result = .ok (.bytes bytes)

theorem result_find_single {only : String}
    (candidate : candidates tree (directoryOf tree base) base wanted = .ok [only]) :
    (find tree base (some wanted)).result = single tree (directoryOf tree base) wanted only := by
  rw [result_find (result_packageDirectory tree base), candidate, Except.bind, List.find?_cons,
    List.find?_nil, single]
  cases tree.isFile (Path.join (directoryOf tree base) only) <;> rfl

theorem Searched.candidates_eq (searched : Searched tree base wanted) (directory : String) :
    candidates tree directory base wanted =
      (listing tree directory).map fun names => names.filter fun name => name.endsWith wanted := by
  have other : (!tree.isDirectory base && base.endsWith wanted) = false := by
    rw [Bool.eq_false_iff, Ne, Bool.and_eq_true, Bool.not_eq_true']
    exact searched.notItself
  rw [candidates, searched.isExtension, other]
  rfl

theorem offers_iff (spelled : tree.Spelled) (absolute : isAbsolute directory = true)
    (isExtension : isExtension wanted = true) : Offers tree directory wanted name ↔
      name ∈ (tree.namesAt (tree.destination directory)).filter (fun name => name.endsWith wanted) ∧
        tree.isFile (Path.join directory name) = true := by
  rw [List.mem_filter, FileTree.mem_namesAt_iff, FileTree.isFile_iff]
  have place {entry : Entry} (ending : name.endsWith wanted = true)
      (there : tree.entryAt? (tree.destination directory ++ [name]) = some entry) :
      tree.destination (Path.join directory name) = tree.destination directory ++ [name] := by
    obtain ⟨isName, notUp⟩ := isName_of_endsWith_extension isExtension ending
    have noSlash := spelled.entries _ (FileTree.mem_entries there) name (by simp)
    rw [FileTree.destination_join absolute (isAbsolute_of_noSlash noSlash), components_of_noSlash noSlash]
    exact step_of_name _ isName notUp
  constructor
  · rintro ⟨ending, ⟨entry, there, isFile⟩, walkable⟩
    exact ⟨⟨⟨entry, there⟩, ending⟩, walkable, entry, by rw [place ending there, there], isFile⟩
  · rintro ⟨⟨⟨entry, there⟩, ending⟩, walkable, entry', there', isFile⟩
    rw [place ending there] at there'
    exact ⟨ending, ⟨entry', there', isFile⟩, walkable⟩

/-- Among names in order the first that is a file is the least. -/
theorem findsLeast_namesAt (spelled : tree.Spelled) (absolute : isAbsolute directory = true)
    (isExtension : isExtension wanted = true) :
    FindsLeast tree directory wanted
      (match ((tree.namesAt (tree.destination directory)).filter fun name => name.endsWith wanted).find?
          fun name => tree.isFile (Path.join directory name) with
        | some name => .ok ⟨directory, name, Path.join directory name⟩
        | none => .error (.storage (.notFound (some wanted) directory))) := by
  have offers {name : String} := @offers_iff tree directory wanted name spelled absolute isExtension
  split
  · next name found =>
    have sorted := (FileTree.pairwise_namesAt tree (tree.destination directory)).filter
      fun name => name.endsWith wanted
    have isFile := List.find?_some found
    have offered := offers.2 ⟨List.mem_of_find?_eq_some found, isFile⟩
    obtain ⟨-, before, after, split, refused⟩ := List.find?_eq_some_iff_append.1 found
    refine .inl ⟨name, offered, fun other offersOther => ?_, rfl⟩
    obtain ⟨member, isFile'⟩ := offers.1 offersOther
    rw [split] at sorted member
    rcases List.mem_append.1 member with earlier | notEarlier
    · have isOther := refused other earlier
      rw [isFile'] at isOther
      cases isOther
    · rcases List.mem_cons.1 notEarlier with rfl | later
      · exact String.le_refl _
      · exact (List.pairwise_cons.1 (List.pairwise_append.1 sorted).2.1).1 other later
  · next none =>
    refine .inr ⟨fun name offersName => ?_, rfl⟩
    obtain ⟨member, isFile⟩ := offers.1 offersName
    exact List.find?_eq_none.1 none name member isFile

/-- The directory and the base name of a file given by names lead to it, within the limits of the system. -/
theorem isFile_join_directoryOf (rooted : tree.Rooted) (straight : Straight base)
    (notDirectory : tree.isDirectory base = false) :
    tree.isFile (Path.join (directoryOf tree base) (baseName base)) = true ↔ tree.isFile base = true ∧
      (isAbsolute base = true ∨
        (Path.join (directoryOf tree base) (baseName base)).utf8ByteSize < FileTree.pathLimit) := by
  obtain ⟨isName, notUp⟩ := straight.isName_baseName
  have follows := FileTree.follows_absoluteForm rooted straight
  have sameName := FileTree.baseName_absoluteForm rooted isName notUp
  have directory : directoryOf tree base = parent (tree.absoluteForm base) := by
    refine if_neg fun isDirectory => ?_
    rw [follows.isDirectory rooted straight isDirectory] at notDirectory
    cases notDirectory
  rw [directory]
  constructor
  · intro file
    have joined := follows.join_parent
    rw [sameName] at joined
    obtain ⟨walkable, entry, there, isFile⟩ := FileTree.isFile_iff.1 file
    rw [joined.destination_eq rooted] at there
    exact ⟨FileTree.isFile_iff.2 ⟨joined.walkable rooted straight walkable, entry, there, isFile⟩,
      .inr walkable.short⟩
  · rintro ⟨file, within⟩
    refine FileTree.isFile_join_parent (FileTree.absolute_of_isFile rooted file isName notUp) file isName ?_
    rcases within with absolute | short
    · obtain ⟨⟨-, -, short, -⟩, -⟩ := FileTree.isFile_iff.1 file
      have same : tree.absoluteForm base = base := if_pos absolute
      rw [same]
      exact Nat.lt_of_le_of_lt (FileTree.utf8ByteSize_join_parent_le base) short
    · exact short

/-- Whatever is looked up, the outcome is that of a path, of the file that stands for the package, or
of the least name that the directory offers. -/
theorem directory_lookup (rooted : tree.Rooted) (spelled : tree.Spelled) (base wanted : String) :
    Outcome tree base wanted (directoryOf tree base) (find tree base (some wanted)).result where
  byName isName := result_find_single (by rw [candidates, isName]; rfl)
  itself isExtension notDirectory ending :=
    result_find_single (by rw [candidates, isExtension, notDirectory, ending]; rfl)
  regular := isFile_join_directoryOf rooted
  least searched isDirectory := by
    have noZero := (FileTree.isDirectory_iff.1 isDirectory).1.noZero
    rw [result_find (result_packageDirectory tree base), searched.candidates_eq, listing,
      if_neg (by rw [noZero]; decide), FileTree.list_of_isDirectory isDirectory]
    exact findsLeast_namesAt spelled (isAbsolute_directoryOf tree base) searched.isExtension
  unlisted searched notDirectory noZero := by
    obtain ⟨code, failed⟩ := FileTree.exists_list_error noZero notDirectory
    refine ⟨code, ?_⟩
    rw [result_find (result_packageDirectory tree base), searched.candidates_eq, listing,
      if_neg (by rw [noZero]; decide), failed]
    rfl
  unspelled searched zero := by
    rw [result_find (result_packageDirectory tree base), searched.candidates_eq, listing, if_pos zero]
    rfl
  readable handle found := by
    obtain ⟨names, isDirectory, -, -, path, file⟩ := find_ok found
    rw [result_packageDirectory] at isDirectory
    obtain ⟨entry, bytes, there, some, isRead⟩ := FileTree.exists_read_of_isFile file
    have container := (Except.ok.inj isDirectory).symm
    exact ⟨container, container ▸ path, entry, bytes, there, some, read_of_isFile file isRead⟩

/-- A package with a directory and two files that have the extension of a descriptor. -/
def mixedFiles : FileTree :=
  ⟨[(["w"], .directory), (["w", "pkg"], .directory), (["w", "pkg", "c.ovf"], .file [67]),
    (["w", "pkg", "b.ovf"], .file [66]), (["w", "pkg", "a.ovf"], .directory)], ["w"]⟩

theorem offers_mixed {name : String} (offers : Offers mixedFiles "/w/pkg" ".ovf" name) :
    name = "b.ovf" ∨ name = "c.ovf" := by
  obtain ⟨entry, there, isFile⟩ := offers.there
  have place : mixedFiles.destination "/w/pkg" = ["w", "pkg"] := by decide +kernel
  rw [place] at there
  have listed : name = "c.ovf" ∨ name = "b.ovf" ∨ name = "a.ovf" := by
    simpa [mixedFiles] using List.mem_map_of_mem (f := Prod.fst) (FileTree.mem_entries there)
  rcases listed with rfl | rfl | rfl
  · exact .inr rfl
  · exact .inl rfl
  · have isDirectory : mixedFiles.entryAt? (["w", "pkg"] ++ ["a.ovf"]) = some .directory := by decide +kernel
    obtain rfl := Option.some.inj (isDirectory.symm.trans there)
    cases isFile

theorem spelled_mixedFiles : mixedFiles.Spelled := by
  refine ⟨?_, ?_⟩ <;> simp [mixedFiles]

theorem rooted_mixedFiles : mixedFiles.Rooted where
  named := by simp [mixedFiles, Named, isProper]
  spelled := by simp [mixedFiles, FileTree.hasZero]
  passable := FileTree.passable_cons.2 ⟨⟨by decide, by decide⟩, FileTree.passable_nil⟩

/-- The directory among the names is passed over, and a named file stands for the package. A zero
character is told as such. -/
theorem directory_lookup_mixed : mixedFiles.Rooted ∧ mixedFiles.Spelled ∧
    (find mixedFiles "pkg" (some ".ovf")).result = .ok ⟨"/w/pkg", "b.ovf", "/w/pkg/b.ovf"⟩ ∧
    (read mixedFiles ⟨"/w/pkg", "b.ovf", "/w/pkg/b.ovf"⟩).result = .ok (.bytes [66]) ∧
    (find mixedFiles "pkg/c.ovf" (some ".ovf")).result = .ok ⟨"/w/pkg", "c.ovf", "/w/pkg/c.ovf"⟩ ∧
    (find mixedFiles "pkg\x00x/y" (some ".ovf")).result = .error (.path .zeroCharacter) := by
  have root : directoryOf mixedFiles "pkg" = "/w/pkg" := by decide +kernel
  have root' : directoryOf mixedFiles "pkg/c.ovf" = "/w/pkg" := by decide +kernel
  have outcome := directory_lookup rooted_mixedFiles spelled_mixedFiles "pkg" ".ovf"
  have outcome' := directory_lookup rooted_mixedFiles spelled_mixedFiles "pkg/c.ovf" ".ovf"
  rw [root] at outcome
  rw [root'] at outcome'
  have found : (find mixedFiles "pkg" (some ".ovf")).result = .ok ⟨"/w/pkg", "b.ovf", "/w/pkg/b.ovf"⟩ := by
    have path : Path.join "/w/pkg" "b.ovf" = "/w/pkg/b.ovf" := by decide +kernel
    have isFile : mixedFiles.isFile (Path.join "/w/pkg" "b.ovf") = true := by decide +kernel
    have offers : Offers mixedFiles "/w/pkg" ".ovf" "b.ovf" :=
      ⟨by decide +kernel, ⟨.file [66], by decide +kernel, rfl⟩, (FileTree.isFile_iff.1 isFile).1⟩
    rcases outcome.least ⟨by decide, by decide +kernel⟩ (by decide +kernel) with
      ⟨name, offered, isLeast, found⟩ | ⟨none, -⟩
    · rcases offers_mixed offered with rfl | rfl
      · rwa [path] at found
      · exact absurd (isLeast _ offers) (by decide +kernel)
    · exact absurd offers (none _)
  refine ⟨rooted_mixedFiles, spelled_mixedFiles, found, ?_, ?_, ?_⟩
  · obtain ⟨-, -, entry, bytes, there, some, isRead⟩ := outcome.readable _ found
    have there' : mixedFiles.entryAt? (mixedFiles.destination "/w/pkg/b.ovf") = Option.some (.file [66]) := by
      decide +kernel
    obtain rfl := Option.some.inj (there'.symm.trans there)
    obtain rfl := Option.some.inj some
    exact isRead
  · have notDirectory : mixedFiles.isDirectory "pkg/c.ovf" = false := by decide +kernel
    have straight : Straight "pkg/c.ovf" :=
      ⟨["pkg", "c.ovf"], ⟨by simp, by simp [Named, isProper], by decide +kernel⟩⟩
    have isFile := (outcome'.regular straight notDirectory).2
      ⟨by decide +kernel, .inr (by decide +kernel)⟩
    rw [outcome'.itself (by decide) notDirectory (by decide +kernel), single, if_pos isFile]
    exact toOption_eq_some_iff.1 (by decide +kernel)
  · exact (directory_lookup rooted_mixedFiles spelled_mixedFiles "pkg\x00x/y" ".ovf").unspelled
      ⟨by decide, by decide +kernel⟩ (by decide +kernel)

end Directory

end OvfInspect.Storage
