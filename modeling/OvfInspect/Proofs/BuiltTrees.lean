import OvfInspect.Proofs.Paths
import OvfInspect.Storage.FileTree

/-!
# Trees as they are built

A tree comes from an empty one as entries are put in at paths and removed. No name in it has a slash,
since paths are taken apart at their slashes.
-/

namespace OvfInspect.Storage.FileTree

open Storage.Path

/-- No name in the tree has a slash in it. -/
structure Spelled (tree : FileTree) : Prop where
  entries : ∀ entry ∈ tree.entries, ∀ name ∈ entry.1, '/' ∉ name.toList
  working : ∀ name ∈ tree.working, '/' ∉ name.toList

/-- The trees that come from an empty one as entries are put in and removed. -/
inductive Built (working : Place) : FileTree → Prop where
  | empty : Built working (FileTree.empty working)
  | insert {tree : FileTree} (path : String) (entry : Entry) : Built working tree →
      Built working (tree.insert path entry)
  | remove {tree : FileTree} (path : String) : Built working tree → Built working (tree.remove path)

variable {tree : FileTree} {place working : Place}

theorem Spelled.add (spelled : tree.Spelled) (plain : ∀ name ∈ place, '/' ∉ name.toList) (entry : Entry) :
    ({ tree with entries := tree.entries ++ [(place, entry)] } : FileTree).Spelled := by
  refine ⟨fun added member => ?_, spelled.working⟩
  rcases List.mem_append.1 member with before | last
  · exact spelled.entries added before
  · rw [List.mem_singleton.1 last]
    exact plain

theorem Spelled.eraseAt (spelled : tree.Spelled) (place : Place) : (tree.eraseAt place).Spelled :=
  ⟨fun entry member => spelled.entries entry (List.mem_filter.1 member).1, spelled.working⟩

theorem Spelled.withDirectories (spelled : tree.Spelled) (plain : ∀ name ∈ place, '/' ∉ name.toList) :
    (tree.withDirectories place).Spelled := by
  unfold FileTree.withDirectories
  induction List.range place.length generalizing tree with
  | nil => exact spelled
  | cons n ns ih =>
    apply ih
    dsimp only
    split
    · exact spelled
    · exact spelled.add (fun name member => plain name (List.mem_of_mem_take member)) _

theorem Spelled.placeOf (spelled : tree.Spelled) (path : String) :
    ∀ name ∈ tree.placeOf path, '/' ∉ name.toList := by
  intro name member
  rcases mem_foldl_extend (List.mem_reverse.1 member) with inStart | inPath | rfl
  · rw [List.mem_reverse] at inStart
    split at inStart
    · cases inStart
    · exact spelled.working name inStart
  · exact slash_not_mem_component inPath
  · decide

theorem Spelled.insert (spelled : tree.Spelled) (path : String) (entry : Entry) :
    (tree.insert path entry).Spelled := by
  have plain := spelled.placeOf path
  have within := spelled.withDirectories plain
  unfold FileTree.insert
  dsimp only
  split
  · exact within
  · exact (within.eraseAt _).add plain _

/-- However a tree is built, paths can spell its names. -/
theorem Built.spelled (built : Built working tree) (plain : ∀ name ∈ working, '/' ∉ name.toList) :
    tree.Spelled := by
  induction built with
  | empty =>
    have none : (⟨[], working⟩ : FileTree).Spelled := ⟨nofun, plain⟩
    refine none.withDirectories fun name member => ?_
    rcases List.mem_append.1 member with inWorking | last
    · exact plain name inWorking
    · rw [List.mem_singleton.1 last]
      decide
  | insert path entry _ spelled => exact spelled.insert path entry
  | remove path _ spelled => exact spelled.eraseAt _

end OvfInspect.Storage.FileTree
