import OvfInspect.Proofs.Paths
import OvfInspect.Proofs.Traversal
import OvfInspect.Storage.FileTree

/-!
# Following paths

Where a path leads depends on its components alone; whether it can be walked there depends on the
directories on the way and the limits of the system. Paths that lead to one place reach the same entry
as far as they can be walked.
-/

namespace OvfInspect.Storage.FileTree

open Storage.Path

variable {tree : FileTree} {start place : Place} {path : String}

/-- Before each of the components there is a directory, and no component is too long. -/
def Passable (tree : FileTree) (start : Place) (components : List String) : Prop :=
  ∀ before c after, components = before ++ c :: after →
    tree.entryAt? (before.foldl step start) = some .directory ∧ c.utf8ByteSize ≤ nameLimit

theorem passable_nil : Passable tree start [] := by
  intro before c after h
  cases before <;> cases h

theorem passable_cons {c : String} {rest : List String} : Passable tree start (c :: rest) ↔
    (tree.entryAt? start = some .directory ∧ c.utf8ByteSize ≤ nameLimit) ∧
      Passable tree (step start c) rest := by
  constructor
  · intro passable
    refine ⟨passable [] c rest rfl, ?_⟩
    intro before d after h
    exact passable (c :: before) d after (by rw [h]; rfl)
  · rintro ⟨first, passable⟩ before d after h
    cases before with
    | nil =>
      obtain ⟨rfl, rfl⟩ := List.cons.inj h
      exact first
    | cons _ before =>
      obtain ⟨rfl, same⟩ := List.cons.inj h
      exact passable before d after same

theorem follow_cons_ok_iff {c : String} {rest : List String} :
    tree.follow start (c :: rest) = .ok place ↔
      (tree.entryAt? start = some .directory ∧ c.utf8ByteSize ≤ nameLimit) ∧
        tree.follow (step start c) rest = .ok place := by
  rw [follow]
  cases found : tree.entryAt? start with
  | none => simp
  | some entry =>
    cases entry with
    | file _ => simp
    | archive _ => simp
    | directory =>
      dsimp only
      by_cases improper : c = "" ∨ c = "."
      · rw [if_pos improper]
        have stays : step start c = start := by
          apply step_of_not_proper
          rcases improper with rfl | rfl <;> rfl
        have short : c.utf8ByteSize ≤ nameLimit := by
          rcases improper with rfl | rfl <;> decide
        simp [stays, short]
      · rw [if_neg improper]
        rw [not_or] at improper
        have isName : isProper c = true := by simp [isProper, improper]
        by_cases up : c = ".."
        · subst up
          have short : "..".utf8ByteSize ≤ nameLimit := by decide
          have stepUp : step start ".." = start.dropLast := rfl
          simp [stepUp, short]
        · have down : step start c = start ++ [c] := by
            rw [step, if_neg (by rw [isName]; decide), if_neg up]
          rw [if_neg up, down]
          split
          · next long => simp [Nat.not_le.2 long]
          · next short => simp [Nat.not_lt.1 short]

theorem follow_ok_iff {components : List String} : tree.follow start components = .ok place ↔
    place = components.foldl step start ∧ Passable tree start components := by
  induction components generalizing start with
  | nil =>
    rw [follow, List.foldl_nil, Except.ok.injEq, eq_comm]
    exact (and_iff_left passable_nil).symm
  | cons c rest ih =>
    rw [follow_cons_ok_iff, ih, passable_cons, List.foldl_cons]
    exact and_left_comm

/-! ### Whole paths -/

/-- Where a path begins. -/
def startOf (tree : FileTree) (path : String) : Place :=
  if isAbsolute path then [] else tree.working

/-- Where a path leads if all its steps can be taken. -/
def destination (tree : FileTree) (path : String) : Place :=
  (components path).foldl step (tree.startOf path)

/-- The path fits the limits of the system, and what stands before each slash is a directory. -/
structure Walkable (tree : FileTree) (path : String) : Prop where
  noZero : hasZero path = false
  nonempty : path ≠ ""
  short : path.utf8ByteSize < pathLimit
  passable : Passable tree (tree.startOf path) (components path)

theorem locate_ok_iff {entry : Entry} : tree.locate path = .ok (place, entry) ↔
    (path ≠ "" ∧ path.utf8ByteSize < pathLimit ∧
      Passable tree (tree.startOf path) (components path)) ∧
      place = tree.destination path ∧ tree.entryAt? place = some entry := by
  unfold locate
  split
  · next empty => simp [empty]
  · next nonempty =>
    split
    · next long => simp [Nat.not_lt.2 long]
    · next short =>
      refine bind_ok_iff.trans ?_
      simp only [follow_ok_iff]
      constructor
      · rintro ⟨reached, ⟨same, passable⟩, h⟩
        split at h
        · next found entry' =>
          obtain ⟨rfl, rfl⟩ := Prod.mk.inj (Except.ok.inj h)
          exact ⟨⟨nonempty, Nat.not_le.1 short, passable⟩, same, entry'⟩
        · cases h
      · rintro ⟨⟨-, -, passable⟩, same, found⟩
        refine ⟨place, ⟨same, passable⟩, ?_⟩
        rw [found]

theorem entry?_eq_some_iff {entry : Entry} : tree.entry? path = some entry ↔
    Walkable tree path ∧ tree.entryAt? (tree.destination path) = some entry := by
  unfold entry?
  constructor
  · intro h
    split at h
    · cases h
    · next noZero =>
      split at h
      · next found located =>
        obtain rfl := Option.some.inj h
        obtain ⟨⟨nonempty, short, passable⟩, reached, there⟩ := locate_ok_iff.1 located
        rw [reached] at there
        exact ⟨⟨Bool.eq_false_iff.2 noZero, nonempty, short, passable⟩, there⟩
      · cases h
  · rintro ⟨⟨noZero, nonempty, short, passable⟩, there⟩
    rw [if_neg (by rw [noZero]; decide), locate_ok_iff.2 ⟨⟨nonempty, short, passable⟩, rfl, there⟩]

theorem isFile_iff : tree.isFile path = true ↔ Walkable tree path ∧
    ∃ entry, tree.entryAt? (tree.destination path) = some entry ∧ entry.isDirectory = false := by
  unfold isFile
  rw [Option.any_eq_true]
  simp only [entry?_eq_some_iff, Bool.not_eq_true', and_assoc, exists_and_left]

/-- A path that leads to a file by another way leads to a file just if it can be walked. -/
theorem isFile_iff_of_destination {other : String} (same : tree.destination path = tree.destination other)
    (file : tree.isFile other = true) : tree.isFile path = true ↔ Walkable tree path := by
  obtain ⟨-, entry, found, isFile⟩ := isFile_iff.1 file
  rw [isFile_iff, same]
  exact and_iff_left ⟨entry, found, isFile⟩

theorem destination_join_normalize {directory : String} (h : isAbsolute directory = true)
    (name : String) :
    tree.destination (join directory (normalize name)) = tree.destination (join directory name) := by
  have fromRoot (name : String) : tree.startOf (join directory name) = [] :=
    if_pos (isAbsolute_join h name)
  unfold destination
  rw [fromRoot, fromRoot]
  cases absolute : isAbsolute name with
  | true =>
    rw [join_of_absolute directory absolute,
      join_of_absolute directory (by rw [isAbsolute_normalize, absolute])]
    exact foldl_step_normalize fun _ => rfl
  | false =>
    rw [foldl_step_join directory absolute,
      foldl_step_join directory (by rw [isAbsolute_normalize, absolute])]
    apply foldl_step_normalize
    rw [absolute]
    intro h
    cases h

/-! ### Names without steps up -/

theorem passable_filter {components : List String} (passable : Passable tree start components) :
    Passable tree start (components.filter isProper) := by
  induction components generalizing start with
  | nil => exact passable_nil
  | cons c rest ih =>
    obtain ⟨first, passable⟩ := passable_cons.1 passable
    rw [List.filter_cons]
    split
    · exact passable_cons.2 ⟨first, ih passable⟩
    · next improper =>
      rw [step_of_not_proper _ (Bool.eq_false_iff.2 improper)] at passable
      exact ih passable

/-- On a way that ends in a name, the components that are no names ask for nothing more. -/
theorem passable_of_filter {components : List String}
    (last : ∀ c ∈ components.getLast?, isProper c = true)
    (passable : Passable tree start (components.filter isProper)) :
    Passable tree start components := by
  induction components generalizing start with
  | nil => exact passable_nil
  | cons c rest ih =>
    have lastOfRest : ∀ c ∈ rest.getLast?, isProper c = true := by
      intro d isLast
      apply last
      rw [List.getLast?_cons, Option.mem_def.1 isLast]
      rfl
    rw [List.filter_cons] at passable
    split at passable
    · obtain ⟨first, passable⟩ := passable_cons.1 passable
      exact passable_cons.2 ⟨first, ih lastOfRest passable⟩
    · next improper =>
      have passableRest := ih lastOfRest passable
      refine passable_cons.2 ⟨?_, ?_⟩
      · cases rest with
        | nil => exact absurd (last c rfl) improper
        | cons next rest =>
          refine ⟨(passable_cons.1 passableRest).1.1, ?_⟩
          have isEmpty : c = "" ∨ c = "." := by
            simpa [isProper, Classical.or_iff_not_imp_left] using improper
          rcases isEmpty with rfl | rfl <;> decide
      · rwa [step_of_not_proper _ (Bool.eq_false_iff.2 improper)]

/-- A spelling of a name that takes no step up and ends in a name. -/
structure Plain (name : String) : Prop where
  noStepUp : ".." ∉ components name
  last : ∀ c ∈ (components name).getLast?, isProper c = true

theorem filter_components_join_normalize {name : String} (directory : String) (plain : Plain name) :
    (components (join directory (normalize name))).filter isProper =
      (components (join directory name)).filter isProper := by
  have names : (components (normalize name)).filter isProper = (components name).filter isProper := by
    rw [filter_components_normalize, normalComponents_of_noStepUp plain.noStepUp]
  cases absolute : isAbsolute name with
  | true =>
    rw [join_of_absolute directory absolute,
      join_of_absolute directory (by rw [isAbsolute_normalize, absolute]), names]
  | false =>
    obtain ⟨before, joined, same⟩ := components_join directory absolute
    obtain ⟨before', joined', same'⟩ :=
      components_join directory (by rw [isAbsolute_normalize, absolute] : isAbsolute (normalize name) = false)
    rw [joined, joined', List.filter_append, List.filter_append, same, same', names]

theorem getLast?_components_join {name : String} (directory : String) (plain : Plain name) :
    ∀ c ∈ (components (join directory name)).getLast?, isProper c = true := by
  cases absolute : isAbsolute name with
  | true =>
    rw [join_of_absolute directory absolute]
    exact plain.last
  | false =>
    obtain ⟨before, joined, -⟩ := components_join directory absolute
    have nonempty : components name ≠ [] := by simp [components, List.splitOn_ne_nil]
    rw [joined, List.getLast?_append_of_ne_nil _ nonempty]
    exact plain.last

/-- A file that is there by its normal name is there by every plain spelling of the name that the
limits of the system allow. -/
theorem isFile_join_of_plain {directory name : String} (absolute : isAbsolute directory = true)
    (plain : Plain name) (noZero : hasZero (join directory name) = false)
    (short : (join directory name).utf8ByteSize < pathLimit)
    (file : tree.isFile (join directory (normalize name)) = true) :
    tree.isFile (join directory name) = true := by
  have fromRoot (name : String) : tree.startOf (join directory name) = [] :=
    if_pos (isAbsolute_join absolute name)
  refine (isFile_iff_of_destination (destination_join_normalize absolute name).symm file).2
    ⟨noZero, ?_, short, ?_⟩
  · intro empty
    obtain ⟨rest, slash⟩ := isAbsolute_iff.1 (isAbsolute_join absolute name)
    rw [empty] at slash
    cases slash
  · obtain ⟨⟨-, -, -, passable⟩, -⟩ := isFile_iff.1 file
    rw [fromRoot] at passable ⊢
    apply passable_of_filter (getLast?_components_join directory plain)
    rw [← filter_components_join_normalize directory plain]
    exact passable_filter passable

end OvfInspect.Storage.FileTree
