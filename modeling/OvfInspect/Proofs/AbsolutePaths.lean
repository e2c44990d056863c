import OvfInspect.Proofs.Lookup

/-!
# Absolute paths

The absolute form of a path leads where the path does, and every name on its way is there if the path
can be walked. A file is found again by its base name in the parent of that form, as
`isFile_join_parent` says, unless the form is longer than the system allows.
-/

namespace OvfInspect.Storage.Path

/-! ### The last component -/

theorem components_of_noSlash {name : String} (h : '/' ∉ name.toList) : components name = [name] := by
  rw [components, List.splitOn_eq_singleton h, List.map_singleton, String.ofList_toList]

theorem isAbsolute_of_noSlash {name : String} (h : '/' ∉ name.toList) : isAbsolute name = false := by
  rw [← Bool.not_eq_true, isAbsolute_iff]
  rintro ⟨rest, start⟩
  exact h (by rw [start]; exact List.mem_cons_self)

theorem intercalate_components (path : String) : "/".intercalate (components path) = path := by
  rw [← String.toList_inj, String.toList_intercalate, components, List.map_map]
  simp [Function.comp_def]

theorem slash_not_mem_baseName (path : String) : '/' ∉ (baseName path).toList := by
  rw [baseName, splitLast, String.toList_ofList, List.mem_reverse]
  intro member
  have kept := List.mem_takeWhile_imp member
  simp at kept

theorem splitLast_append (path : String) : (splitLast path).1 ++ (splitLast path).2 = path.toList := by
  unfold splitLast
  rw [← List.reverse_append, List.takeWhile_append_dropWhile, List.reverse_reverse]

theorem head_append_baseName (path : String) :
    String.ofList (splitLast path).1 ++ baseName path = path := by
  rw [baseName, ← String.ofList_append, splitLast_append, String.ofList_toList]

theorem head_cases (path : String) : (splitLast path).1 = [] ∨
    ∃ before : String, String.ofList (splitLast path).1 = before ++ "/" := by
  unfold splitLast
  dsimp only
  cases rest : path.toList.reverse.dropWhile (· ≠ '/') with
  | nil => exact Or.inl rfl
  | cons slash rest' =>
    right
    have isSlash : slash = '/' := by
      have refused := List.head?_dropWhile_not (fun c => decide (c ≠ '/')) path.toList.reverse
      rw [rest] at refused
      simpa using refused
    refine ⟨String.ofList rest'.reverse, ?_⟩
    rw [isSlash, List.reverse_cons, String.ofList_append]

theorem exists_components_eq (path : String) :
    ∃ before, components path = before ++ [baseName path] ∧
      before.filter isProper = (components (String.ofList (splitLast path).1)).filter isProper := by
  have base := components_of_noSlash (slash_not_mem_baseName path)
  have whole := head_append_baseName path
  rcases head_cases path with none | ⟨before, head⟩
  · rw [none, String.ofList_nil, String.empty_append] at whole
    refine ⟨[], ?_, by rw [none]; rfl⟩
    calc components path = components (baseName path) := congrArg components whole.symm
      _ = [baseName path] := base
  · rw [head] at whole
    refine ⟨components before, ?_, ?_⟩
    · calc components path = components (before ++ "/" ++ baseName path) := congrArg components whole.symm
        _ = components before ++ [baseName path] := by rw [components_append_slash, base]
    · have ended := components_append_slash before ""
      rw [String.append_empty] at ended
      rw [head, ended, List.filter_append]
      exact (List.append_nil _).symm

theorem baseName_eq_of_components {path name : String} {before : List String}
    (h : components path = before ++ [name]) : baseName path = name := by
  obtain ⟨before', h', -⟩ := exists_components_eq path
  rw [h'] at h
  exact List.singleton_inj.1 (List.append_inj' h rfl).2

theorem baseName_append {before last : String} (noSlash : '/' ∉ last.toList) :
    baseName (before ++ "/" ++ last) = last :=
  baseName_eq_of_components (by rw [components_append_slash, components_of_noSlash noSlash])

theorem exists_append_of_slash {path : String} (slash : '/' ∈ path.toList) :
    ∃ before, path = before ++ "/" ++ baseName path := by
  have whole := head_append_baseName path
  rcases head_cases path with none | ⟨before, head⟩
  · rw [none, String.ofList_nil, String.empty_append] at whole
    rw [← whole] at slash
    exact absurd slash (slash_not_mem_baseName path)
  · exact ⟨before, by rw [← head, whole]⟩

theorem filter_components_append_slashes (path : String) (n : Nat) :
    (components (path ++ String.ofList (List.replicate n '/'))).filter isProper =
      (components path).filter isProper := by
  induction n with
  | zero => rw [List.replicate_zero, String.ofList_nil, String.append_empty]
  | succ n ih =>
    have last : path ++ String.ofList (List.replicate (n + 1) '/') =
        path ++ String.ofList (List.replicate n '/') ++ "/" ++ "" := by
      rw [← String.toList_inj]
      simp [List.replicate_succ']
    rw [last, components_append_slash, List.filter_append, ih]
    exact List.append_nil _

/-- The parent of a path is what stands up to the last slash, but for slashes at the end. -/
theorem exists_parent_append (path : String) :
    ∃ n, parent path ++ String.ofList (List.replicate n '/') = String.ofList (splitLast path).1 := by
  unfold parent
  dsimp only
  split
  · exact ⟨0, by rw [List.replicate_zero, String.ofList_nil, String.append_empty]⟩
  · generalize (splitLast path).1 = head
    have slashes : head.reverse.takeWhile (· == '/') =
        List.replicate (head.reverse.takeWhile (· == '/')).length '/' := by
      rw [List.eq_replicate_iff]
      exact ⟨rfl, fun c member => by simpa using List.mem_takeWhile_imp member⟩
    refine ⟨(head.reverse.takeWhile (· == '/')).length, ?_⟩
    rw [← String.ofList_append, ← List.reverse_replicate, ← slashes, ← List.reverse_append,
      List.takeWhile_append_dropWhile, List.reverse_reverse]

theorem filter_components_parent (path : String) : (components (parent path)).filter isProper =
    (components (String.ofList (splitLast path).1)).filter isProper := by
  obtain ⟨n, same⟩ := exists_parent_append path
  rw [← same, filter_components_append_slashes]

theorem ne_empty_of_isAbsolute {path : String} (absolute : isAbsolute path = true) : path ≠ "" := by
  rintro rfl
  obtain ⟨rest, slash⟩ := isAbsolute_iff.1 absolute
  cases slash

theorem isAbsolute_baseName (path : String) : isAbsolute (baseName path) = false :=
  isAbsolute_of_noSlash (slash_not_mem_baseName path)

/-- The base name in the parent of a path spells the path with fewer slashes. -/
theorem exists_join_parent_eq (path : String) : ∃ more : Nat, ∃ before after,
    join (parent path) (baseName path) = before ++ after ∧
      path = before ++ String.ofList (List.replicate more '/') ++ after := by
  obtain ⟨n, slashes⟩ := exists_parent_append path
  have whole := head_append_baseName path
  rw [← slashes] at whole
  unfold join
  rw [if_neg (by rw [isAbsolute_baseName]; decide)]
  split
  · exact ⟨n, parent path, baseName path, rfl, whole.symm⟩
  · next noSlash =>
    rw [Bool.or_eq_true, decide_eq_true_iff, endsWith_iff, not_or] at noSlash
    cases n with
    | zero =>
      rw [List.replicate_zero, String.ofList_nil, String.append_empty] at slashes
      rcases head_cases path with none | ⟨before, ended⟩
      · rw [none] at slashes
        exact absurd slashes noSlash.1
      · exact absurd ⟨before, slashes.trans ended⟩ noSlash.2
    | succ n =>
      refine ⟨n, parent path ++ "/", baseName path, rfl, ?_⟩
      have first : String.ofList (List.replicate (n + 1) '/') =
          "/" ++ String.ofList (List.replicate n '/') := by
        rw [List.replicate_succ, ← List.singleton_append, String.ofList_append]
      rw [@String.append_assoc (parent path), ← first, whole]

/-- A path that ends in enough characters without a slash has a name as its base name. -/
theorem isName_baseName {path : String} {before last : List Char} (split : path.toList = before ++ last)
    (noSlash : '/' ∉ last) (long : 2 < last.length) :
    isProper (baseName path) = true ∧ baseName path ≠ ".." := by
  have length : 2 < (baseName path).length := by
    have kept : last.reverse.takeWhile (· ≠ '/') = last.reverse := by
      rw [List.takeWhile_eq_self_iff]
      intro c member
      exact decide_eq_true fun same => noSlash (same ▸ List.mem_reverse.1 member)
    rw [baseName, splitLast, split, List.reverse_append, List.takeWhile_append, kept]
    simp
    omega
  refine ⟨?_, ?_⟩
  · have nonempty : baseName path ≠ "" := by
      intro same
      rw [same] at length
      exact absurd length (by decide)
    have notPoint : baseName path ≠ "." := by
      intro same
      rw [same] at length
      exact absurd length (by decide)
    simp [isProper, nonempty, notPoint]
  · intro same
    rw [same] at length
    exact absurd length (by decide)

/-! ### Absolute normal forms -/

/-- Every component names something below the place before it. -/
def Named (names : List String) : Prop :=
  ∀ name ∈ names, isProper name = true ∧ name ≠ ".."

theorem named_nil : Named [] := by
  simp [Named]

theorem step_of_name (place : List String) {c : String} (isName : isProper c = true) (notUp : c ≠ "..") :
    step place c = place ++ [c] := by
  rw [step, if_neg (by rw [isName]; decide), if_neg notUp]

theorem named_step {place : List String} (named : Named place) (c : String) : Named (step place c) := by
  unfold step
  split
  · exact named
  · next isName =>
    split
    · exact fun name member => named name (List.dropLast_subset _ member)
    · next notUp =>
      intro name member
      rcases List.mem_append.1 member with member | member
      · exact named name member
      · rw [List.mem_singleton.1 member]
        exact ⟨by simpa using isName, notUp⟩

theorem named_foldl_step {place : List String} (named : Named place) (cs : List String) :
    Named (cs.foldl step place) := by
  induction cs generalizing place with
  | nil => exact named
  | cons c cs ih => exact ih (named_step named c)

theorem foldl_step_of_named {names : List String} (named : Named names) (base : List String) :
    names.foldl step base = base ++ names := by
  induction names generalizing base with
  | nil => exact (List.append_nil _).symm
  | cons name names ih =>
    obtain ⟨⟨isName, notUp⟩, rest⟩ := List.forall_mem_cons.1 named
    rw [List.foldl_cons, step_of_name base isName notUp, ih rest, List.append_assoc]
    rfl

theorem reverse_extend_true {before : List String} (named : Named before.reverse) (c : String) :
    (extend true before c).reverse = step before.reverse c := by
  unfold extend step
  split
  · rfl
  · split
    · cases before with
      | nil => rfl
      | cons last rest =>
        have notUp : last ≠ ".." := (named last (by simp)).2
        dsimp only
        rw [if_neg notUp, List.reverse_cons, List.dropLast_concat]
    · rw [List.reverse_cons]

theorem normalComponents_of_absolute {path : String} (absolute : isAbsolute path = true) :
    normalComponents path = (components path).foldl step [] := by
  have places : ∀ (cs before : List String), Named before.reverse →
      (cs.foldl (extend true) before).reverse = cs.foldl step before.reverse := by
    intro cs
    induction cs with
    | nil => exact fun before _ => rfl
    | cons c cs ih =>
      intro before named
      have extended := reverse_extend_true named c
      rw [List.foldl_cons, List.foldl_cons, ih _ (by rw [extended]; exact named_step named c), extended]
  rw [normalComponents, absolute]
  exact places _ [] named_nil

theorem normalize_of_names {path : String} (someName : normalComponents path ≠ []) :
    normalize path = leadingSlashes path ++ "/".intercalate (normalComponents path) := by
  unfold normalize
  dsimp only
  rw [if_neg]
  intro empty
  have names : components ("/".intercalate (normalComponents path)) = normalComponents path :=
    components_intercalate someName fun _ => slash_not_mem_normalComponent
  rw [(String.append_eq_empty_iff.1 empty).2] at names
  have inside : "" ∈ normalComponents path := by
    rw [← names]
    decide
  cases isProper_of_mem_normalComponents inside

/-- The components of a normal form end with the normal components, if there are any. -/
theorem exists_components_normalize {path : String} (someName : normalComponents path ≠ []) :
    ∃ before, components (normalize path) = before ++ normalComponents path := by
  have names : components ("/".intercalate (normalComponents path)) = normalComponents path :=
    components_intercalate someName fun _ => slash_not_mem_normalComponent
  have slash (rest : String) : components ("/" ++ rest) = "" :: components rest :=
    components_append_slash "" rest
  rw [normalize_of_names someName]
  rcases leadingSlashes_cases path with ⟨none, -⟩ | ⟨one | two, -⟩
  · exact ⟨[], by rw [none, String.empty_append, names]; rfl⟩
  · exact ⟨[""], by rw [one, slash, names]; rfl⟩
  · refine ⟨["", ""], ?_⟩
    rw [two, show ("//" : String) = "/" ++ "/" from rfl, String.append_assoc, slash, slash, names]
    rfl

end OvfInspect.Storage.Path

namespace OvfInspect.Storage.FileTree

open Storage.Path

variable {tree : FileTree} {path : String}

theorem hasZero_append (s t : String) : hasZero (s ++ t) = (hasZero s || hasZero t) := by
  simp [hasZero, String.toList_append, Bool.decide_or]

theorem destination_join_parent (absolute : isAbsolute path = true) :
    tree.destination (join (parent path) (baseName path)) = tree.destination path := by
  obtain ⟨before, split, names⟩ := exists_components_eq path
  have base := components_of_noSlash (slash_not_mem_baseName path)
  unfold destination startOf
  rw [isAbsolute_join (isAbsolute_parent absolute), absolute,
    foldl_step_join _ (isAbsolute_baseName path), base, ← foldl_step_filter (components (parent path)),
    filter_components_parent, ← names, foldl_step_filter, split, List.foldl_append]

/-- The names on the way to a place that is there, and on from it, are there. -/
theorem passable_foldl_step {place : Place} {cs : List String} (named : Named place)
    (rooted : Passable tree [] place) (passable : Passable tree place cs) :
    Passable tree [] (cs.foldl step place) := by
  induction cs generalizing place with
  | nil => exact rooted
  | cons c cs ih =>
    obtain ⟨⟨isDirectory, short⟩, rest⟩ := passable_cons.1 passable
    refine ih (named_step named c) ?_ rest
    unfold step
    split
    · exact rooted
    · split
      · intro before d after same
        obtain ⟨last, whole⟩ := List.dropLast_prefix place
        exact rooted before d (after ++ last) (by rw [← whole, same]; simp)
      · intro before d after same
        rcases List.eq_nil_or_concat after with rfl | ⟨between, e, rfl⟩
        · obtain ⟨rfl, rfl⟩ := List.concat_inj.1 (by simpa using same)
          rw [foldl_step_of_named named]
          exact ⟨isDirectory, short⟩
        · have whole : place ++ [c] = (before ++ d :: between) ++ [e] := by simpa using same
          exact rooted before d between (List.append_inj' whole rfl).1

/-! ### Absolute paths of files -/

/-- The working directory and those on the way to it are there, by names that paths can spell. -/
structure Rooted (tree : FileTree) : Prop where
  named : Named tree.working
  spelled : ∀ name ∈ tree.working, '/' ∉ name.toList ∧ hasZero name = false
  passable : Passable tree [] tree.working

theorem filter_components_workingPath (rooted : tree.Rooted) :
    (components tree.workingPath).filter isProper = tree.working := by
  have slash : components tree.workingPath = "" :: components ("/".intercalate tree.working) :=
    components_append_slash "" _
  rw [slash]
  cases names : tree.working with
  | nil => rfl
  | cons name rest =>
    rw [← names, components_intercalate (by rw [names]; exact List.cons_ne_nil _ _)
      fun name member => (rooted.spelled name member).1]
    exact List.filter_eq_self.2 fun name member => (rooted.named name member).1

theorem isAbsolute_workingPath (tree : FileTree) : isAbsolute tree.workingPath = true :=
  isAbsolute_append (isAbsolute_iff.2 ⟨[], rfl⟩) _

/-- The absolute form of a relative path has the names of the place that the path leads to. -/
theorem normalComponents_join_workingPath (rooted : tree.Rooted) (relative : isAbsolute path = false) :
    normalComponents (join tree.workingPath path) = tree.destination path := by
  rw [normalComponents_of_absolute (isAbsolute_join (isAbsolute_workingPath tree) path), foldl_step_join _ relative,
    ← foldl_step_filter (components tree.workingPath), filter_components_workingPath rooted,
    foldl_step_of_named rooted.named, destination, startOf, relative]
  rfl

theorem hasZero_intercalate {names : List String} :
    hasZero ("/".intercalate names) = false ↔ ∀ name ∈ names, hasZero name = false := by
  induction names with
  | nil => simp [hasZero]
  | cons name names ih =>
    rw [List.forall_mem_cons, ← ih]
    cases names with
    | nil => simp [hasZero]
    | cons next names =>
      have slash : hasZero "/" = false := by decide
      rw [String.intercalate_cons_cons, hasZero_append, hasZero_append, slash, Bool.or_false,
        Bool.or_eq_false_iff]

theorem hasZero_of_mem_components {c : String} (noZero : hasZero path = false) (member : c ∈ components path) :
    hasZero c = false := by
  rw [← intercalate_components path, hasZero_intercalate] at noZero
  exact noZero c member

theorem hasZero_normalize {names : List String} (same : normalComponents path = names)
    (noZero : ∀ name ∈ names, hasZero name = false) : hasZero (normalize path) = false := by
  have normal : hasZero (leadingSlashes path ++ "/".intercalate (normalComponents path)) = false := by
    rw [hasZero_append, same, hasZero_intercalate.2 noZero, Bool.or_false]
    rcases leadingSlashes_cases path with ⟨none, -⟩ | ⟨one | two, -⟩
    · rw [none]; rfl
    · rw [one]; decide
    · rw [two]; decide
  unfold Path.normalize
  dsimp only
  split
  · decide
  · exact normal

theorem mem_foldl_step {name : String} {cs place : List String} (member : name ∈ cs.foldl step place) :
    name ∈ place ∨ name ∈ cs := by
  induction cs generalizing place with
  | nil => exact Or.inl member
  | cons c cs ih =>
    rcases ih member with inPlace | inRest
    · unfold step at inPlace
      split at inPlace
      · exact Or.inl inPlace
      · split at inPlace
        · exact Or.inl (List.dropLast_subset _ inPlace)
        · rcases List.mem_append.1 inPlace with inPlace | last
          · exact Or.inl inPlace
          · rw [List.mem_singleton.1 last]
            exact Or.inr List.mem_cons_self
    · exact Or.inr (List.mem_cons_of_mem _ inRest)

/-- An absolute path that leads where another path does: it ends in the same name, and all names on
its way are there. -/
structure Absolute (tree : FileTree) (path other : String) : Prop where
  isAbsolute : isAbsolute other = true
  baseName_eq : baseName other = baseName path
  noZero : hasZero other = false
  passable : Passable tree [] ((components other).filter isProper)
  destination_eq : tree.destination other = tree.destination path

/-- The absolute path of a file leads to it, be it within the limits of the system or not. -/
theorem absolute_of_isFile (rooted : tree.Rooted) (file : tree.isFile path = true)
    (isName : isProper (baseName path) = true) (notUp : baseName path ≠ "..") :
    Absolute tree path (if isAbsolute path then path else Path.absolute tree.workingPath path) := by
  obtain ⟨⟨noZero, -, -, passable⟩, -⟩ := isFile_iff.1 file
  split
  · next absolute =>
    rw [startOf, if_pos absolute] at passable
    exact ⟨absolute, rfl, noZero, passable_filter passable, rfl⟩
  · next relative =>
    have start : tree.startOf path = tree.working := if_neg relative
    have normal := normalComponents_join_workingPath rooted (Bool.eq_false_iff.2 relative)
    have absolute : isAbsolute (normalize (join tree.workingPath path)) = true := by
      rw [isAbsolute_normalize, isAbsolute_join (isAbsolute_workingPath tree)]
    rw [Path.absolute, if_neg relative]
    refine ⟨absolute, ?_, hasZero_normalize normal ?_, ?_, ?_⟩
    · obtain ⟨before, split, -⟩ := exists_components_eq path
      have last : tree.destination path = before.foldl step tree.working ++ [baseName path] := by
        rw [destination, start, split, List.foldl_append]
        exact step_of_name _ isName notUp
      have someName : normalComponents (join tree.workingPath path) ≠ [] := by
        rw [normal, last]
        simp
      obtain ⟨front, parts⟩ := exists_components_normalize someName
      rw [normal, last, ← List.append_assoc] at parts
      exact baseName_eq_of_components parts
    · intro name member
      rcases mem_foldl_step member with inWorking | inPath
      · rw [start] at inWorking
        exact (rooted.spelled name inWorking).2
      · exact hasZero_of_mem_components noZero inPath
    · rw [filter_components_normalize, normal, destination, start]
      rw [start] at passable
      exact passable_foldl_step rooted.named rooted.passable passable
    · have there : Named (tree.destination path) := by
        rw [destination, start]
        exact named_foldl_step rooted.named _
      rw [destination, startOf, if_pos absolute, ← foldl_step_filter, filter_components_normalize,
        normal, foldl_step_of_named there]
      rfl

/-- A file is there by its base name in the parent of its absolute path, if that is within the limits
of the system. -/
theorem isFile_join_parent {other : String} (absolute : Absolute tree path other)
    (file : tree.isFile path = true) (isName : isProper (baseName path) = true)
    (short : (join (parent other) (baseName path)).utf8ByteSize < pathLimit) :
    tree.isFile (join (parent other) (baseName path)) = true := by
  rw [← absolute.baseName_eq] at isName short ⊢
  have parentAbsolute := isAbsolute_parent absolute.isAbsolute
  have same := (destination_join_parent absolute.isAbsolute).trans absolute.destination_eq
  refine (isFile_iff_of_destination same file).2 ⟨?_, ?_, short, ?_⟩
  · have noZero := absolute.noZero
    obtain ⟨more, before, after, joined, whole⟩ := exists_join_parent_eq other
    rw [whole, hasZero_append, hasZero_append, Bool.or_eq_false_iff, Bool.or_eq_false_iff] at noZero
    rw [joined, hasZero_append, noZero.1.1, noZero.2]
    rfl
  · exact ne_empty_of_isAbsolute (isAbsolute_join parentAbsolute _)
  · obtain ⟨start, parts, names⟩ := components_join (parent other) (isAbsolute_baseName other)
    obtain ⟨start', parts', names'⟩ := exists_components_eq other
    have passable := absolute.passable
    rw [parts', List.filter_append, names', ← filter_components_parent, ← names,
      ← List.filter_append] at passable
    rw [components_of_noSlash (slash_not_mem_baseName other)] at parts
    rw [startOf, if_pos (isAbsolute_join parentAbsolute _), parts]
    apply passable_of_filter _ passable
    intro c last
    rw [List.getLast?_concat, Option.mem_some] at last
    rw [← last]
    exact isName

/-- The base name in the parent spells an absolute path at most as long as the path. -/
theorem utf8ByteSize_join_parent_le (path : String) :
    (join (parent path) (baseName path)).utf8ByteSize ≤ path.utf8ByteSize := by
  obtain ⟨more, before, after, joined, whole⟩ := exists_join_parent_eq path
  have size := congrArg String.utf8ByteSize whole
  rw [String.utf8ByteSize_append, String.utf8ByteSize_append] at size
  rw [joined, String.utf8ByteSize_append]
  omega

end OvfInspect.Storage.FileTree
