import OvfInspect.Proofs.IsolatedPackages

/-!
# The disks of a summary

The summary of a package shows the disks that the disks command lists, in the same order and with the
same sizes and locations. `same_disks` says so; it also says that disks which the summary shows as unknown
are not listed.
-/

namespace OvfInspect

open Storage Text

/-! ### Texts of lines -/

def Unbroken (text : String) : Prop :=
  '\n' ∉ text.toList

instance (text : String) : Decidable (Unbroken text) :=
  inferInstanceAs (Decidable ('\n' ∉ text.toList))

theorem unbroken_append {text more : String} (h : Unbroken text) (h' : Unbroken more) : Unbroken (text ++ more) := by
  unfold Unbroken
  rw [String.toList_append, List.mem_append]
  exact fun member => member.elim h h'

theorem unbroken_digits (n : Nat) : Unbroken (toString n) := by
  intro member
  have digit : ('\n').isDigit = true := Nat.isDigit_of_mem_toDigits (by omega) (by omega) (Nat.toList_repr ▸ member)
  cases digit

theorem unbroken_number (n : Int) : Unbroken (toString n) := by
  cases n with
  | ofNat n => exact unbroken_digits n
  | negSucc n =>
    exact unbroken_append (by decide) (unbroken_digits (n + 1))

theorem eq_of_append_lineFeed {line line' rest rest' : List Char} (h' : '\n' ∉ line')
    (longer : ∃ more, line' = line ++ more ∧ '\n' :: rest = more ++ '\n' :: rest') :
    line = line' ∧ rest = rest' := by
  obtain ⟨more, rfl, follows⟩ := longer
  cases more with
  | nil =>
    rw [List.append_nil]
    exact ⟨rfl, (List.cons.inj follows).2⟩
  | cons c more =>
    -- The line feed behind the shorter line would be in the longer one.
    obtain ⟨rfl, -⟩ := List.cons.inj follows
    exact absurd (by simp) h'

/-- A line and what follows it can be told apart. -/
theorem line_inj {line line' rest rest' : String} (h : Unbroken line) (h' : Unbroken line')
    (same : line ++ "\n" ++ rest = line' ++ "\n" ++ rest') : line = line' ∧ rest = rest' := by
  have chars := congrArg String.toList same
  simp only [String.toList_append, List.append_assoc] at chars
  have parts : line.toList = line'.toList ∧ rest.toList = rest'.toList := by
    rcases List.append_eq_append_iff.1 chars with longer | longer
    · exact eq_of_append_lineFeed h' longer
    · obtain ⟨same, same'⟩ := eq_of_append_lineFeed h longer
      exact ⟨same.symm, same'.symm⟩
  exact ⟨String.toList_inj.1 parts.1, String.toList_inj.1 parts.2⟩

theorem exists_intercalate_cons (line : String) (lines : List String) :
    ∃ rest, "\n".intercalate (line :: lines) = line ++ rest := by
  cases lines with
  | nil => exact ⟨"", by rw [String.intercalate_singleton, String.append_empty]⟩
  | cons next lines => exact ⟨_, String.intercalate_cons_cons.trans String.append_assoc⟩

namespace Package

variable {world : World} {package : String} {client : Client} {d : Descriptor} {detail : Detail} {columns : Int}

/-! ### The disks of a summary -/

/-- The lines about one disk: its size stands in the first, and its location in the other, which only full
detail has. -/
def EntryOf (detail : Detail) (width : Nat) (disk : LocatedDisk) (entry : List String) : Prop :=
  ∃ href, entry = ("  " ++ padRight width href ++ " " ++ padLeft 5 (toString disk.sizeInGb) ++ " GB") ::
    if detail = .full then ["    " ++ disk.location] else []

/-- The lines about disks: their number, and an entry for each of them unless the summary is brief. -/
inductive BlockOf (detail : Detail) (disks : List LocatedDisk) : List String → Prop
  | brief (isBrief : detail = .brief) : BlockOf detail disks ["Disks:   " ++ toString disks.length]
  | entries {width : Nat} {entries : List (List String)} (notBrief : detail ≠ .brief)
      (each : List.Forall₂ (EntryOf detail width) disks entries) :
      BlockOf detail disks (("Disks:   " ++ toString disks.length) :: entries.flatten)

theorem written_ok {n : Int} {text : String} (isText : written n = .ok text) : text = toString n := by
  unfold written at isText
  split at isText
  · exact (Except.ok.inj isText).symm
  · cases isText

theorem entryOf_diskLines {info : DiskInfo} {disk : LocatedDisk} {width : Nat} {entry : List String}
    (located : (locate client package info).result = .ok disk)
    (made : (diskLines client package detail width info).result = .ok entry) : EntryOf detail width disk entry := by
  obtain ⟨href, isHref, joined, size⟩ := locate_ok_iff.1 located
  have isLocation : diskLocation info = .ok href := by
    rw [diskLocation, isHref]
  obtain ⟨location, found, made⟩ := Narrated.bind_ok_iff.1 made
  obtain rfl := Except.ok.inj (found.symm.trans isLocation)
  obtain ⟨text, isText, made⟩ := Narrated.bind_ok_iff.1 made
  rw [Narrated.result_ofExcept] at isText
  obtain rfl := written_ok isText
  refine ⟨location, ?_⟩
  rw [size]
  by_cases isFull : detail = .full
  · dsimp only at made
    rw [if_pos isFull] at made ⊢
    obtain ⟨place, isPlace, made⟩ := Narrated.bind_ok_iff.1 made
    obtain rfl := Except.ok.inj (isPlace.symm.trans joined)
    exact (Narrated.pure_ok_iff.1 made).symm
  · dsimp only at made
    rw [if_neg isFull] at made ⊢
    exact (Narrated.pure_ok_iff.1 made).symm

theorem forall₂_entries {infos : List DiskInfo} {disks : List LocatedDisk} {width : Nat}
    {entries : List (List String)}
    (located : List.Forall₂ (fun info disk => (locate client package info).result = .ok disk) infos disks)
    (made : List.Forall₂ (fun info entry => (diskLines client package detail width info).result = .ok entry)
      infos entries) : List.Forall₂ (EntryOf detail width) disks entries := by
  induction located generalizing entries with
  | nil =>
    cases made
    exact .nil
  | cons first _ ih =>
    obtain _ | ⟨firstMade, rest⟩ := made
    exact .cons (entryOf_diskLines first firstMade) (ih rest)

theorem blockOf_disksLines {known : Facts} {infos : List DiskInfo} {disks : List LocatedDisk}
    {block : List String} (isKnown : known.disks = some infos)
    (located : List.Forall₂ (fun info disk => (locate client package info).result = .ok disk) infos disks)
    (made : (disksLines client package detail known).result = .ok block) : BlockOf detail disks block := by
  unfold disksLines at made
  rw [isKnown] at made
  dsimp only at made
  rw [located.length_eq] at made
  by_cases isBrief : detail = .brief
  · rw [if_pos isBrief] at made
    obtain rfl := Narrated.pure_ok_iff.1 made
    exact .brief isBrief
  · rw [if_neg isBrief] at made
    obtain ⟨locations, -, made⟩ := Narrated.bind_ok_iff.1 made
    obtain ⟨entries, each, made⟩ := Narrated.bind_ok_iff.1 made
    obtain rfl := Narrated.pure_ok_iff.1 made
    rw [Narrated.result_mapM, mapM_ok_iff] at each
    exact .entries isBrief (forall₂_entries located each)

/-! ### The text of a summary -/

/-- The text is a summary of the package, with these lines about its disks. -/
def ShowsDisks (world : World) (columns : Int) (detail : Detail) (package : String) (block : List String)
    (text : String) : Prop :=
  ∃ client d cpus memory files, (world.openPackage package).result = .ok client ∧
    Describes world.room client package d ∧ Unbroken cpus ∧ Unbroken memory ∧ text = "\n".intercalate
      (titleLines columns package ++ annotationLines detail d ++
        ["CPUs:    " ++ cpus, "Memory:  " ++ memory] ++ block ++ files)

theorem Describes.unique {room : Nat} {d' : Descriptor} (h : Describes room client package d)
    (h' : Describes room client package d') :
    d = d' := by
  obtain ⟨handle, content, found, isRead, parsed⟩ := h
  obtain ⟨handle', content', found', isRead', parsed'⟩ := h'
  obtain rfl := Except.ok.inj (found.symm.trans found')
  obtain rfl := Except.ok.inj (isRead.symm.trans isRead')
  exact Except.ok.inj (parsed.symm.trans parsed')

theorem unbroken_unknown : Unbroken unknown := by
  decide

theorem factLines_ok {known : Facts} {about : List String} (made : factLines known = .ok about) :
    ∃ cpus memory, Unbroken cpus ∧ Unbroken memory ∧ about = ["CPUs:    " ++ cpus, "Memory:  " ++ memory] := by
  rw [factLines_eq] at made
  obtain ⟨cpus, areCpus, made⟩ := ok_of_bind made
  obtain ⟨memory, isMemory, made⟩ := ok_of_bind made
  refine ⟨cpus, memory, ?_, ?_, (Except.ok.inj made).symm⟩
  · unfold shownCpus at areCpus
    split at areCpus
    · rw [written_ok areCpus]
      exact unbroken_number _
    · obtain rfl := Except.ok.inj areCpus
      exact unbroken_unknown
  · unfold shownMemory at isMemory
    split at isMemory
    · obtain ⟨text, isText, rfl⟩ := map_ok_iff.1 isMemory
      rw [written_ok isText]
      exact unbroken_append (unbroken_number _) (by decide)
    · obtain rfl := Except.ok.inj isMemory
      exact unbroken_unknown

theorem shows_of_summary {columns : Int} {text : String} (opened : (world.openPackage package).result = .ok client)
    (described : Describes world.room client package d)
    (made : (summary client columns detail package d).result = .ok text) :
    ∃ known block, (facts package d).result = .ok known ∧
      (disksLines client package detail known).result = .ok block ∧
      ShowsDisks world columns detail package block text := by
  obtain ⟨known, about, block, files, isKnown, isAbout, isBlock, -, isText⟩ := summary_ok made
  obtain ⟨cpus, memory, areCpus, isMemory, rfl⟩ := factLines_ok isAbout
  exact ⟨known, block, isKnown, isBlock, client, d, cpus, memory, files, opened, described, areCpus, isMemory, isText⟩

theorem number_ne_unknown (n : Nat) (rest rest' : String) : toString n ++ rest ≠ "unknown" ++ rest' := by
  intro same
  have chars := congrArg String.toList same
  rw [String.toList_append, String.toList_append] at chars
  have digits : (toString n).toList = Nat.toDigits 10 n := Nat.toList_repr
  cases isDigits : Nat.toDigits 10 n with
  | nil => exact Nat.toDigits_ne_nil isDigits
  | cons c others =>
    rw [digits, isDigits] at chars
    obtain ⟨rfl, -⟩ := List.cons.inj chars
    have digit : ('u').isDigit = true :=
      Nat.isDigit_of_mem_toDigits (by omega) (by omega) (isDigits ▸ List.mem_cons_self)
    cases digit

/-- A summary with a number of disks has another text than one in which they are unknown. -/
theorem number_of_unknown {before : List String} (some : before ≠ []) {cpus cpus' memory memory' : String}
    (areLines : Unbroken cpus ∧ Unbroken memory) (areLines' : Unbroken cpus' ∧ Unbroken memory') (n : Nat)
    (rest rest' : List String) :
    "\n".intercalate (before ++ ["CPUs:    " ++ cpus, "Memory:  " ++ memory] ++
        (("Disks:   " ++ toString n) :: rest)) ≠
      "\n".intercalate (before ++ ["CPUs:    " ++ cpus', "Memory:  " ++ memory'] ++
        (("Disks:   " ++ unknown) :: rest')) := by
  intro same
  have cpusLabel : Unbroken "CPUs:    " := by decide
  have memoryLabel : Unbroken "Memory:  " := by decide
  simp only [List.append_assoc, List.cons_append, List.nil_append] at same
  rw [String.intercalate_append_of_ne_nil some (List.cons_ne_nil _ _),
    String.intercalate_append_of_ne_nil some (List.cons_ne_nil _ _), String.append_right_inj] at same
  simp only [String.intercalate_cons_cons] at same
  -- The texts may differ in the two facts before the disks: these lines are cut off, whatever they say.
  obtain ⟨-, same⟩ := line_inj (unbroken_append cpusLabel areLines.1) (unbroken_append cpusLabel areLines'.1) same
  obtain ⟨-, same⟩ := line_inj (unbroken_append memoryLabel areLines.2) (unbroken_append memoryLabel areLines'.2) same
  obtain ⟨more, isMore⟩ := exists_intercalate_cons ("Disks:   " ++ toString n) rest
  obtain ⟨more', isMore'⟩ := exists_intercalate_cons ("Disks:   " ++ unknown) rest'
  rw [isMore, isMore', String.append_assoc, String.append_assoc, String.append_right_inj] at same
  exact number_ne_unknown n more more' same

theorem not_unknown_of_number {columns : Int} {n : Nat} {entries : List String} {text : String}
    (shows : ShowsDisks world columns detail package (("Disks:   " ++ toString n) :: entries) text) :
    ¬ ShowsDisks world columns detail package ["Disks:   " ++ unknown] text := by
  intro unknowns
  obtain ⟨client, d, cpus, memory, files, opened, described, areCpus, isMemory, isText⟩ := shows
  obtain ⟨client', d', cpus', memory', files', opened', described', areCpus', isMemory', isText'⟩ := unknowns
  obtain rfl := Except.ok.inj (opened.symm.trans opened')
  obtain rfl := described.unique described'
  have titled : titleLines columns package ++ annotationLines detail d ≠ [] := nofun
  refine number_of_unknown titled ⟨areCpus, isMemory⟩ ⟨areCpus', isMemory'⟩ n
    (entries ++ files) files' ?_
  simpa only [List.append_assoc, List.cons_append, List.nil_append] using isText.symm.trans isText'

theorem blockOf_cons {disks : List LocatedDisk} {block : List String} (isBlock : BlockOf detail disks block) :
    ∃ entries, block = ("Disks:   " ++ toString disks.length) :: entries := by
  cases isBlock with
  | brief => exact ⟨[], rfl⟩
  | entries => exact ⟨_, rfl⟩

end Package

namespace Command

open Package

variable {world : World} {package : String} {client : Client} {d : Descriptor}

/-! ### The two commands -/

theorem listed_of_ok (listed : (printDisks world package).result = .ok ()) :
    ∃ client d disks, (world.openPackage package).result = .ok client ∧
      (loadWithDisks world.room client package).result = .ok (d, disks) ∧
      Narrated.printed (printDisks world package).events = disks.map lineOf := by
  obtain ⟨lines, ⟨before, silent, isEvents⟩, listing⟩ := printDisks_listing world package
  rw [listed] at listing
  cases listing with
  | @listed client d disks opened loaded _ =>
    refine ⟨client, d, disks, opened, loaded, ?_⟩
    rw [← printed_visible, isEvents, visible_append, visible_of_silent silent, List.nil_append, printed_visible]
    exact (List.filterMap_map ..).trans List.filterMap_some

theorem run_info_of_loaded (console : Console) (opened : (world.openPackage package).result = .ok client)
    (loaded : (load world.room client package).result = .ok d) (detail : Detail) (answers : List Answer) :
    let told := (((Command.info (.texts [package]) detail).run world console).run answers).1
    told.result = (summary client console.columns detail package d).result.map (fun _ => ()) ∧
      Narrated.printed told.events = (summary client console.columns detail package d).result.toOption.toList := by
  obtain ⟨x, isDescribed, result, seen⟩ := describe_of_loaded console opened loaded detail
  have alone : describeAll world console detail [package] = .silent x := by
    have step : describeAll world console detail [package] = describe world console detail package >>= fun _ => pure () :=
      rfl
    rw [step, isDescribed]
    exact (Dialogue.silent_bind x fun _ => pure ()).trans (congrArg _ bind_pure_unit)
  rw [run_texts (List.cons_ne_nil _ _), alone]
  refine ⟨result, ?_⟩
  change Narrated.printed x.events = _
  rw [← printed_visible, seen]
  exact (List.filterMap_map ..).trans List.filterMap_some

/-- The summary of a package whose disks are listed has an entry for each of them. -/
theorem summary_of_listed {disks : List LocatedDisk} {columns : Int} {detail : Detail} {text : String}
    (opened : (world.openPackage package).result = .ok client)
    (loaded : (loadWithDisks world.room client package).result = .ok (d, disks))
    (made : (summary client columns detail package d).result = .ok text) :
    ∃ block, ShowsDisks world columns detail package block text ∧ BlockOf detail disks block := by
  obtain ⟨isLoaded, hardware, infos, isHardware, joined, located⟩ := loadWithDisks_ok_iff.1 loaded
  obtain ⟨known, block, isKnown, isBlock, shows⟩ := shows_of_summary opened (describes_of_load isLoaded) made
  have disksKnown := disks_of_facts isHardware joined isKnown
  exact ⟨block, shows, blockOf_disksLines disksKnown located isBlock⟩

theorem info_of_listed (console : Console) (listed : (printDisks world package).result = .ok ())
    (detail : Detail) (answers : List Answer) :
    let told := (((Command.info (.texts [package]) detail).run world console).run answers).1
    ∃ (disks : List LocatedDisk) (made : Except Fault String),
      Narrated.printed (printDisks world package).events = disks.map lineOf ∧
      told.result = made.map (fun _ => ()) ∧ Narrated.printed told.events = made.toOption.toList ∧
      ∀ text, made = .ok text →
        ∃ block, ShowsDisks world console.columns detail package block text ∧ BlockOf detail disks block := by
  obtain ⟨client, d, disks, opened, loaded, lines⟩ := listed_of_ok listed
  obtain ⟨isLoaded, -⟩ := loadWithDisks_ok_iff.1 loaded
  obtain ⟨result, seen⟩ := run_info_of_loaded console opened isLoaded detail answers
  exact ⟨disks, _, lines, result, seen, fun text made => summary_of_listed opened loaded made⟩

/-- Whatever the consoles, the summary of a package whose disks are listed shows just these disks. If it shows
that they are unknown, they are not listed. -/
theorem same_disks (world : World) (package : String) (detail : Detail) (console console' : Console)
    (answers answers' : List Answer) :
    let listing := (((Command.disks (some package)).run world console).run answers).1
    let told := (((Command.info (.texts [package]) detail).run world console').run answers').1
    (listing.result = .ok () → told.result = .ok () → ∃ disks block text,
      Narrated.printed listing.events = disks.map lineOf ∧ Narrated.printed told.events = [text] ∧
      ShowsDisks world console'.columns detail package block text ∧ BlockOf detail disks block) ∧
    ∀ text ∈ Narrated.printed told.events,
      ShowsDisks world console'.columns detail package ["Disks:   " ++ unknown] text →
      ∃ fault, listing.result = .error fault := by
  intro listing told
  have isListing : listing = printDisks world package := rfl
  rw [isListing]
  constructor
  · intro listed completed
    obtain ⟨disks, made, lines, result, seen, shown⟩ := info_of_listed console' listed detail answers'
    cases made with
    | error fault => cases completed.symm.trans result
    | ok text =>
      obtain ⟨block, shows, isBlock⟩ := shown text rfl
      exact ⟨disks, block, text, lines, seen, shows, isBlock⟩
  · intro text member unknowns
    cases listed : (printDisks world package).result with
    | error fault => exact ⟨fault, rfl⟩
    | ok done =>
      obtain ⟨disks, made, -, -, seen, shown⟩ := info_of_listed console' listed detail answers'
      rw [seen] at member
      obtain ⟨block, shows, isBlock⟩ := shown text (toOption_eq_some_iff.1 (Option.mem_toList.1 member))
      obtain ⟨entries, rfl⟩ := blockOf_cons isBlock
      exact absurd unknowns (not_unknown_of_number shows)

/-- The summary of two disks shows both, and the disks of an empty package are neither known nor listed. -/
theorem same_disks_spelled :
    (∃ disks block text, disks.map lineOf = ["/.//a 1 GB", "/x/../a 1 GB"] ∧
      Narrated.printed (((Command.info (.texts ["/p.ovf"]) .full).run spelledWorld
        (Terminal.console 80 true)).run []).1.events = [text] ∧
      ShowsDisks spelledWorld 80 .full "/p.ovf" block text ∧ BlockOf .full disks block) ∧
    ∃ text fault, Narrated.printed (((Command.info (.texts ["/good.ovf"]) .brief).run mixedWorld
        (Terminal.console 80 true)).run []).1.events = [text] ∧
      ShowsDisks mixedWorld 80 .brief "/good.ovf" ["Disks:   " ++ unknown] text ∧
      (((Command.disks (some "/good.ovf")).run mixedWorld (Terminal.console 80 true)).run []).1.result =
        .error fault := by
  constructor
  · obtain ⟨agree, -⟩ := same_disks spelledWorld "/p.ovf" .full (Terminal.console 80 true)
      (Terminal.console 80 true) [] []
    have writable : ∀ disk ∈ spelledDisks, Writable disk := by decide +kernel
    have resolved : (resolve spelledWorld "/p.ovf").result = .ok spelledDisks :=
      resolve_ok_iff.2 ⟨_, _, openPackage_spelled, loadWithDisks_spelled⟩
    have listed : (printDisks spelledWorld "/p.ovf").result = .ok () := by
      rw [printDisks_eq, Narrated.bind_of_ok resolved, printAll_of_writable writable]
    obtain ⟨client, d, disks, opened, loaded, expected⟩ := listed_of_ok listed
    obtain rfl := Except.ok.inj (openPackage_spelled.symm.trans opened)
    obtain ⟨-, rfl⟩ := Prod.mk.inj (Except.ok.inj (loadWithDisks_spelled.symm.trans loaded))
    obtain ⟨result, -⟩ := run_info_of_loaded (Terminal.console 80 true) openPackage_spelled load_spelled .full []
    have made : (summary spelledClient (Terminal.console 80 true).columns .full "/p.ovf"
        spelledDescriptor).result.toOption.isSome = true := by
      decide +kernel
    obtain ⟨shown, made⟩ := Option.isSome_iff_exists.1 made
    rw [toOption_eq_some_iff.1 made] at result
    obtain ⟨disks, block, text, lines, seen, shows, isBlock⟩ := agree listed result
    exact ⟨disks, block, text, (lines.symm.trans expected).trans (by decide +kernel), seen, shows, isBlock⟩
  · obtain ⟨-, fails⟩ := same_disks mixedWorld "/good.ovf" .brief (Terminal.console 80 true)
      (Terminal.console 80 true) [] []
    have opened := @openPackage_mixed "/good.ovf" (by decide +kernel)
    obtain ⟨-, seen⟩ := run_info_of_loaded (Terminal.console 80 true) opened load_mixed_good .brief []
    have made : (summary (Directory.client mixedFiles) (Terminal.console 80 true).columns .brief "/good.ovf"
        {}).result.toOption.isSome = true := by
      decide +kernel
    obtain ⟨text, made⟩ := Option.isSome_iff_exists.1 made
    rw [made] at seen
    obtain ⟨known, block, isKnown, isBlock, shows⟩ :=
      shows_of_summary opened (describes_of_load load_mixed_good) (toOption_eq_some_iff.1 made)
    have noFacts : (facts "/good.ovf" {}).result = .ok ⟨none, none, none⟩ := rfl
    obtain rfl := Except.ok.inj (noFacts.symm.trans isKnown)
    obtain rfl := Narrated.pure_ok_iff.1 isBlock
    obtain ⟨fault, failed⟩ := fails text (by rw [seen]; exact List.mem_singleton_self _) shows
    exact ⟨text, fault, seen, shows, failed⟩

end Command

end OvfInspect
