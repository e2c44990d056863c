import OvfInspect.Proofs.LineEnds
import OvfInspect.Proofs.SameDisks

/-!
# Levels of detail

More detail adds lines to a summary and takes none away. `detail_adds_lines` says so of all three levels:
where the fullest summary can be made the others can, and the lines about processors, memory and the number
of disks are in each of them.
-/

namespace OvfInspect

namespace Text

/-! ### Lines of joined texts -/

/-- What stands between the line feeds of a text. -/
def fedLines (s : String) : List String :=
  (s.toList.splitOn '\n').map String.ofList

/-- A way to tell the lines of a text apart in which a line feed ends a line. It may make an empty line of
what stands before the line feed, but it changes no line. -/
def TellsLines (linesOf : String → List String) : Prop :=
  ∀ s, ∃ empty, ∀ t, linesOf (s ++ "\n" ++ t) = linesOf s ++ empty ++ linesOf t

theorem tellsLines_fedLines : TellsLines fedLines := by
  refine fun s => ⟨[], fun t => ?_⟩
  have lineFeed : "\n".toList = ['\n'] := rfl
  unfold fedLines
  rw [String.toList_append, String.toList_append, lineFeed, List.append_assoc, List.singleton_append,
    List.splitOn_append_cons_self, List.map_append, List.append_nil]

/-- Before a line feed the lines are the same, but for an empty one at the end. A carriage return that
stands last belongs to the line feed. -/
theorem exists_linesFrom_append_lineFeed (line cs : List Char) : ∃ empty, ∀ rest,
    linesFrom line (cs ++ '\n' :: rest) = linesFrom line cs ++ empty ++ linesFrom [] rest := by
  have behind {c : Char} {r : List Char} (unpaired : ∀ others, c = '\r' → r = '\n' :: others → False)
      (open' : ¬ (c = '\r' ∧ r = [])) (rest others : List Char) :
      c = '\r' → r ++ '\n' :: rest = '\n' :: others → False := by
    intro isReturn same
    cases r with
    | nil => exact open' ⟨isReturn, rfl⟩
    | cons d r =>
      obtain ⟨rfl, -⟩ := List.cons.inj same
      exact unpaired r isReturn rfl
  induction line, cs using linesFrom.induct with
  | case1 line isEmpty =>
    obtain rfl := List.isEmpty_iff.1 isEmpty
    exact ⟨[[]], fun rest => linesFrom_lineFeed [] rest⟩
  | case2 line notEmpty =>
    refine ⟨[], fun rest => ?_⟩
    rw [linesFrom, if_neg notEmpty]
    exact linesFrom_lineFeed line rest
  | case3 line r ih =>
    obtain ⟨empty, same⟩ := ih
    refine ⟨empty, fun rest => ?_⟩
    rw [List.cons_append, List.cons_append, linesFrom_pair, linesFrom_pair, same]
    rfl
  | case4 line c r unpaired isEnd ih =>
    by_cases last : c = '\r' ∧ r = []
    · obtain ⟨rfl, rfl⟩ := last
      exact ⟨[], linesFrom_pair line⟩
    · obtain ⟨empty, same⟩ := ih
      refine ⟨empty, fun rest => ?_⟩
      rw [List.cons_append, linesFrom_cons line (behind unpaired last rest), if_pos isEnd,
        linesFrom_cons line unpaired, if_pos isEnd, same]
      rfl
  | case5 line c r unpaired notEnd ih =>
    have last : ¬ (c = '\r' ∧ r = []) := by
      rintro ⟨rfl, -⟩
      exact notEnd (by decide)
    obtain ⟨empty, same⟩ := ih
    refine ⟨empty, fun rest => ?_⟩
    rw [List.cons_append, linesFrom_cons line (behind unpaired last rest), if_neg notEnd,
      linesFrom_cons line unpaired, if_neg notEnd, same]

theorem tellsLines_lines : TellsLines lines := by
  intro s
  obtain ⟨empty, same⟩ := exists_linesFrom_append_lineFeed [] s.toList
  refine ⟨empty.map String.ofList, fun t => ?_⟩
  have lineFeed : "\n".toList = ['\n'] := rfl
  unfold lines
  rw [String.toList_append, String.toList_append, lineFeed, List.append_assoc, List.singleton_append, same,
    List.map_append, List.map_append]

/-- Of a text that is joined from more pieces, the lines of the text of fewer are a part. -/
theorem TellsLines.sublist {linesOf : String → List String} (tells : TellsLines linesOf) {pieces more : List String}
    (part : pieces.Sublist more) (some : pieces ≠ []) :
    (linesOf ("\n".intercalate pieces)).Sublist (linesOf ("\n".intercalate more)) := by
  induction part with
  | slnil => exact absurd rfl some
  | @cons pieces more piece part ih =>
    have others : more ≠ [] := fun none => some (List.sublist_nil.1 (none ▸ part))
    obtain ⟨empty, same⟩ := tells piece
    rw [String.intercalate_cons_of_ne_nil others, same]
    exact (ih some).trans (List.sublist_append_right _ _)
  | @cons_cons pieces more piece part ih =>
    obtain ⟨empty, same⟩ := tells piece
    by_cases single : pieces = []
    · subst single
      rw [String.intercalate_singleton]
      by_cases others : more = []
      · rw [others, String.intercalate_singleton]
      · rw [String.intercalate_cons_of_ne_nil others, same, List.append_assoc]
        exact List.sublist_append_left _ _
    · have others : more ≠ [] := fun none => single (List.sublist_nil.1 (none ▸ part))
      rw [String.intercalate_cons_of_ne_nil single, String.intercalate_cons_of_ne_nil others, same, same]
      exact (ih single).append_left _

end Text

namespace Package

open Storage Text

variable {client : Client} {package : String} {d : Descriptor} {columns : Int}

/-! ### The lines of each level -/

theorem annotationLines_standard (d : Descriptor) : annotationLines .standard d = annotationLines .full d := by
  unfold annotationLines
  cases d.annotation.bind Annotation.annotation <;> rfl

theorem annotationLines_brief (d : Descriptor) : annotationLines .brief d = [] := rfl

/-- In full detail the line for a disk is followed by another, which the standard leaves out. -/
theorem diskLines_of_full {width : Nat} {disk : DiskInfo} {entry : List String}
    (made : (diskLines client package .full width disk).result = .ok entry) :
    ∃ line place, entry = [line, place] ∧ (diskLines client package .standard width disk).result = .ok [line] := by
  obtain ⟨location, isLocation, made⟩ := Narrated.bind_ok_iff.1 made
  obtain ⟨size, isSize, made⟩ := Narrated.bind_ok_iff.1 made
  rw [if_pos rfl] at made
  obtain ⟨place, -, made⟩ := Narrated.bind_ok_iff.1 made
  refine ⟨_, _, (Narrated.pure_ok_iff.1 made).symm, ?_⟩
  exact Narrated.bind_ok_iff.2 ⟨location, isLocation, Narrated.bind_ok_iff.2 ⟨size, isSize, rfl⟩⟩

theorem entries_of_full {width : Nat} {disks : List DiskInfo} {entries : List (List String)}
    (made : List.Forall₂ (fun disk entry => (diskLines client package .full width disk).result = .ok entry)
      disks entries) :
    ∃ lines, List.Forall₂ (fun disk entry => (diskLines client package .standard width disk).result = .ok entry)
      disks lines ∧ lines.flatten.Sublist entries.flatten := by
  induction made with
  | nil => exact ⟨[], .nil, .slnil⟩
  | cons first _ ih =>
    obtain ⟨line, place, rfl, isLine⟩ := diskLines_of_full first
    obtain ⟨lines, areLines, part⟩ := ih
    exact ⟨[line] :: lines, .cons isLine areLines, (part.cons place).cons_cons line⟩

theorem disksLines_of_full {known : Facts} {full : List String}
    (made : (disksLines client package .full known).result = .ok full) :
    ∃ disks entries places, Unbroken disks ∧ full = ("Disks:   " ++ disks) :: places ∧ entries.Sublist places ∧
      (disksLines client package .standard known).result = .ok (("Disks:   " ++ disks) :: entries) ∧
      (disksLines client package .brief known).result = .ok ["Disks:   " ++ disks] := by
  unfold disksLines at made ⊢
  cases isKnown : known.disks with
  | none =>
    rw [isKnown] at made
    exact ⟨unknown, [], [], unbroken_unknown, (Narrated.pure_ok_iff.1 made).symm, .slnil, rfl, rfl⟩
  | some disks =>
    rw [isKnown] at made
    obtain ⟨locations, areLocations, made⟩ := Narrated.bind_ok_iff.1 made
    obtain ⟨entries, areEntries, made⟩ := Narrated.bind_ok_iff.1 made
    rw [Narrated.result_mapM, mapM_ok_iff] at areEntries
    obtain ⟨lines, areLines, part⟩ := entries_of_full areEntries
    rw [← mapM_ok_iff, ← Narrated.result_mapM] at areLines
    refine ⟨toString disks.length, lines.flatten, entries.flatten, unbroken_digits _,
      (Narrated.pure_ok_iff.1 made).symm, part, ?_, rfl⟩
    exact Narrated.bind_ok_iff.2 ⟨locations, areLocations, Narrated.bind_ok_iff.2 ⟨lines, areLines, rfl⟩⟩

theorem summary_of_parts {detail : Detail} {known : Facts} {about disks files : List String}
    (isKnown : (facts package d).result = .ok known) (isAbout : factLines known = .ok about)
    (areDisks : (disksLines client package detail known).result = .ok disks)
    (areFiles : fileLines detail d = .ok files) :
    (summary client columns detail package d).result = .ok ("\n".intercalate
      (titleLines columns package ++ annotationLines detail d ++ about ++ disks ++ files)) := by
  unfold summary summaryLines
  simp only [Narrated.bind_ok_iff, Narrated.pure_ok_iff, Narrated.result_ofExcept]
  exact ⟨_, ⟨known, isKnown, about, isAbout, disks, areDisks, files, areFiles, rfl⟩, rfl⟩

/-! ### More detail -/

/-- The lines of a text are among those of another, in their order, both when only a line feed ends a line and
when every line end does. -/
structure Within (text more : String) : Prop where
  lineFeeds : (fedLines text).Sublist (fedLines more)
  lineEnds : (lines text).Sublist (lines more)

theorem within_of_sublist {pieces more : List String} (part : pieces.Sublist more) (some : pieces ≠ []) :
    Within ("\n".intercalate pieces) ("\n".intercalate more) :=
  ⟨tellsLines_fedLines.sublist part some, tellsLines_lines.sublist part some⟩

/-- The summary has the lines about processors, memory and the number of disks behind its title and
annotation. -/
def ShowsHardware (columns : Int) (package : String) (detail : Detail) (d : Descriptor)
    (cpus memory disks text : String) : Prop :=
  ∃ more, text = "\n".intercalate (titleLines columns package ++ annotationLines detail d ++
    ["CPUs:    " ++ cpus, "Memory:  " ++ memory, "Disks:   " ++ disks] ++ more)

/-- Where the fullest summary can be made the others can. Its lines are those of the standard one and more,
and the lines of that are those of the brief one and more; all three say the same of the hardware. -/
theorem detail_adds_lines {full : String} (made : (summary client columns .full package d).result = .ok full) :
    ∃ brief standard, (summary client columns .brief package d).result = .ok brief ∧
      (summary client columns .standard package d).result = .ok standard ∧
      Within brief standard ∧ Within standard full ∧
      ∃ cpus memory disks, Unbroken cpus ∧ Unbroken memory ∧ Unbroken disks ∧
        ShowsHardware columns package .brief d cpus memory disks brief ∧
        ShowsHardware columns package .standard d cpus memory disks standard ∧
        ShowsHardware columns package .full d cpus memory disks full := by
  obtain ⟨known, about, block, files, isKnown, isAbout, areDisks, areFiles, rfl⟩ := summary_ok made
  obtain ⟨cpus, memory, areCpus, isMemory, rfl⟩ := factLines_ok isAbout
  obtain ⟨disks, entries, places, isCount, rfl, part, areStandard, areBrief⟩ := disksLines_of_full areDisks
  have shows {detail : Detail} (more files : List String) : ShowsHardware columns package detail d cpus memory disks
      ("\n".intercalate (titleLines columns package ++ annotationLines detail d ++
        ["CPUs:    " ++ cpus, "Memory:  " ++ memory] ++ ("Disks:   " ++ disks) :: more ++ files)) :=
    ⟨more ++ files, by simp only [List.append_assoc, List.cons_append, List.nil_append]⟩
  refine ⟨_, _, summary_of_parts isKnown isAbout areBrief rfl, summary_of_parts isKnown isAbout areStandard rfl,
    ?_, ?_, cpus, memory, disks, areCpus, isMemory, isCount, shows [] [], shows entries [], shows places files⟩
  · have front : (titleLines columns package ++ annotationLines .brief d).Sublist
        (titleLines columns package ++ annotationLines .standard d) := by
      rw [annotationLines_brief]
      exact (List.nil_sublist _).append_left _
    have block : ["Disks:   " ++ disks].Sublist (("Disks:   " ++ disks) :: entries) :=
      (List.nil_sublist entries).cons_cons _
    exact within_of_sublist (((front.append (.refl _)).append block).append (.refl _)) (List.cons_ne_nil _ _)
  · rw [annotationLines_standard]
    have rest : (("Disks:   " ++ disks) :: entries).Sublist (("Disks:   " ++ disks) :: places) := part.cons_cons _
    exact within_of_sublist ((rest.append_left _).append (List.nil_sublist files)) (List.cons_ne_nil _ _)

/-- A package whose annotation has a line that looks like one about processors. -/
def annotatedDescriptor : Descriptor where
  references := some ⟨none, none, [⟨some "f", some "disk.vmdk", some 2048⟩]⟩
  annotation := some ⟨none, none, some "first\nCPUs:    9"⟩
  virtualSystem := some ⟨none, none, none, [⟨[{ resourceType := some 3, virtualQuantity := some 2 },
    { resourceType := some 17, hostResource := ["ovf:/disk/d"] }]⟩]⟩
  diskSection := some ⟨none, none, [⟨some "d", some "f", some "3", some "byte * 2^30"⟩]⟩

theorem detail_adds_lines_annotated :
    let shown (detail : Detail) := (summary (Archive.client ⟨[], []⟩) 5 detail "/p.ova" annotatedDescriptor).result
    let brief := "----\n/p.ova\n----\nCPUs:    2\nMemory:  unknown\nDisks:   1"
    let full := "----\n/p.ova\n----\nAnnotation: first\nCPUs:    9\nCPUs:    2\nMemory:  unknown\nDisks:   1\n" ++
      "  disk.vmdk     3 GB\n    /p.ova/disk.vmdk\nFiles:   1\n  f          disk.vmdk                 2 KiB"
    shown .full = .ok full ∧ shown .brief = .ok brief ∧
      ∃ standard, shown .standard = .ok standard ∧ Within brief standard ∧ Within standard full := by
  intro shown brief full
  have made : shown .full = .ok full := toOption_eq_some_iff.1 (by decide +kernel)
  have isBrief : shown .brief = .ok brief := toOption_eq_some_iff.1 (by decide +kernel)
  obtain ⟨brief', standard, isBrief', isStandard, fewer, more, -⟩ := detail_adds_lines made
  obtain rfl := Except.ok.inj (isBrief.symm.trans isBrief')
  exact ⟨made, isBrief, standard, isStandard, fewer, more⟩

end Package

end OvfInspect
