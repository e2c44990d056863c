import OvfInspect.Proofs.Descriptions
import OvfInspect.Proofs.DisksRun

/-!
# Packages described together

The info command describes packages one after the other. What a user sees of each is what would be seen
if it were alone, up to the first package whose fault ends the run: `info_isolates` says so, and which
faults those are.
-/

namespace OvfInspect

open Storage

/-! ### Dialogues in sequence -/

namespace Dialogue

variable {α : Type} {f : α → Dialogue Unit}

theorem unasked_forM (unasked : ∀ a, (f a).Unasked) (xs : List α) : (xs.forM f).Unasked := by
  induction xs with
  | nil => exact unasked_silent _
  | cons x xs ih => exact (unasked x).bind fun _ => ih

theorem told_forM (unasked : ∀ a, (f a).Unasked) (xs : List α) :
    (xs.forM f).told = xs.forM fun a => (f a).told := by
  induction xs with
  | nil => rfl
  | cons x xs ih =>
    have next := told_bind (unasked x) fun _ => unasked_forM unasked xs
    rw [ih] at next
    exact next

end Dialogue

namespace Command

open Package

variable {world : World} {console : Console} {response : Bool} {detail : Detail} {package : String}
  {packages reached left : List String} {alone : String → Except Fault Unit} {outcome : Except Fault Unit}

/-! ### The info command for a list -/

theorem packageNames_texts (packages : List String) : packageNames (.texts packages) = packages := by
  change (packages.map Value.text).filterMap Value.text? = packages
  rw [List.filterMap_map]
  exact List.filterMap_some

theorem run_texts (some : packages ≠ []) (detail : Detail) :
    (Command.info (.texts packages) detail).run world console = describeAll world console detail packages := by
  have isSomething : (Value.texts packages).isSomething = true := by
    cases packages with
    | nil => exact absurd rfl some
    | cons => rfl
  unfold run problem?
  dsimp only
  rw [if_pos isSomething]
  change describeAll world console detail (packageNames (.texts packages)) = _
  rw [packageNames_texts]

/-- What is done for packages that are described after another one. -/
def following (world : World) (console : Console) (detail : Detail) (packages : List String) :
    Narrated Fault Unit :=
  packages.forM fun package => do
    printLine ""
    (describe world console detail package).told

theorem unasked_after (steady : console.Steady response) (package : String) :
    (do printLine ""
        describe world console detail package : Dialogue Unit).Unasked :=
  (Dialogue.unasked_silent (printLine "")).bind fun _ => unasked_describe steady detail

theorem unasked_describeAll (steady : console.Steady response) (detail : Detail) (packages : List String) :
    (describeAll world console detail packages).Unasked := by
  cases packages with
  | nil => exact Dialogue.unasked_silent _
  | cons first others =>
    exact (unasked_describe steady detail).bind fun _ => Dialogue.unasked_forM (unasked_after steady) others

theorem told_describeAll (steady : console.Steady response) (detail : Detail) (first : String)
    (others : List String) : (describeAll world console detail (first :: others)).told =
      (describe world console detail first).told >>= fun _ => following world console detail others := by
  refine (Dialogue.told_bind (unasked_describe steady detail) fun _ =>
    Dialogue.unasked_forM (unasked_after steady) others).trans ?_
  congr 1
  funext _
  rw [Dialogue.told_forM (unasked_after steady)]
  rfl

/-! ### One after the other -/

/-- All packages are reached, or the last one that is reached ends the run. -/
inductive Ends (alone : String → Except Fault Unit) : List String → List String → Except Fault Unit → Prop
  | all {reached : List String} (fine : ∀ package ∈ reached, alone package = .ok ()) :
      Ends alone reached [] (.ok ())
  | first {before left : List String} {package : String} {fault : Fault}
      (fine : ∀ package ∈ before, alone package = .ok ()) (failed : alone package = .error fault) :
      Ends alone (before ++ [package]) left (.error fault)

theorem Ends.cons (fine : alone package = .ok ()) (ends : Ends alone reached left outcome) :
    Ends alone (package :: reached) left outcome := by
  cases ends with
  | all others => exact .all (List.forall_mem_cons.2 ⟨fine, others⟩)
  | first others failed =>
    rw [← List.cons_append]
    exact .first (List.forall_mem_cons.2 ⟨fine, others⟩) failed

theorem Ends.stops {fault : Fault} {others : List String} (ends : Ends alone reached left outcome)
    (failed : alone package = .error fault) (split : package :: others = reached ++ left) :
    reached = [package] ∧ outcome = .error fault := by
  cases ends with
  | all fine =>
    rw [List.append_nil] at split
    cases failed.symm.trans (fine package (by rw [← split]; exact List.mem_cons_self))
  | @first before _ last _ fine failed' =>
    cases before with
    | nil =>
      obtain ⟨rfl, -⟩ := List.cons.inj split
      exact ⟨rfl, failed'.symm.trans failed⟩
    | cons other before =>
      obtain ⟨rfl, -⟩ := List.cons.inj split
      cases failed.symm.trans (fine package List.mem_cons_self)

theorem ends_cons {x rest : Narrated Fault Unit} {shown : String → List Event} (same : x.result = alone package)
    (others : ∃ reached left, packages = reached ++ left ∧ Ends alone reached left rest.result ∧
      visible rest.events = reached.flatMap shown) :
    ∃ reached left, packages = reached ++ left ∧ Ends alone (package :: reached) left (x >>= fun _ => rest).result ∧
      visible (x >>= fun _ => rest).events = visible x.events ++ reached.flatMap shown := by
  cases result : x.result with
  | ok done =>
    obtain ⟨reached, left, split, ends, seen⟩ := others
    rw [Narrated.bind_of_ok result, visible_append, seen]
    exact ⟨reached, left, split, ends.cons (same.symm.trans result), rfl⟩
  | error fault =>
    have ends : Ends alone ([] ++ [package]) packages (.error fault) := .first nofun (same.symm.trans result)
    rw [Narrated.bind_of_error result]
    exact ⟨[], packages, rfl, ends, by simp⟩

theorem following_ends (world : World) (console : Console) (detail : Detail) (packages : List String) :
    ∃ reached left, packages = reached ++ left ∧
      Ends (fun package => (describe world console detail package).told.result) reached left
        (following world console detail packages).result ∧
      visible (following world console detail packages).events =
        reached.flatMap fun package => .printed "" :: visible (describe world console detail package).told.events := by
  induction packages with
  | nil => exact ⟨[], [], rfl, .all nofun, rfl⟩
  | cons package packages ih =>
    have same : (printLine "" >>= fun _ => (describe world console detail package).told).result =
        (describe world console detail package).told.result := rfl
    obtain ⟨reached, left, split, ends, seen⟩ := ends_cons same ih
    exact ⟨package :: reached, left, congrArg (package :: ·) split, ends, seen⟩

theorem intercalate_cons {α : Type} (separator first : List α) (others : List (List α)) :
    separator.intercalate (first :: others) = first ++ others.flatMap fun other => separator ++ other := by
  induction others generalizing first with
  | nil => simp
  | cons other others ih => simp [ih]

/-- What the info command does for packages, if no answer is given. -/
def informed (world : World) (console : Console) (detail : Detail) (packages : List String) :
    Narrated Fault Unit :=
  ((Command.info (.texts packages) detail).run world console).told

theorem informed_single (steady : console.Steady response) (detail : Detail) (package : String) :
    informed world console detail [package] = (describe world console detail package).told := by
  unfold informed
  rw [run_texts (List.cons_ne_nil _ _), told_describeAll steady]
  exact bind_pure_unit

/-- With a console that gives one answer to everything, no answers are needed. The user sees of each package
what is seen of it alone, with an empty line between two packages, up to the first package whose fault ends
the run. Alone, a package that cannot be read, parsed or validated shows one message and no text. -/
theorem info_isolates (world : World) (steady : console.Steady response) (some : packages ≠ [])
    (detail : Detail) (answers : List Answer) :
    ((Command.info (.texts packages) detail).run world console).run answers =
      (informed world console detail packages, answers) ∧
    (∃ reached left, packages = reached ++ left ∧
      Ends (fun package => (informed world console detail [package]).result) reached left
        (informed world console detail packages).result ∧
      visible (informed world console detail packages).events = [.printed ""].intercalate
        (reached.map fun package => visible (informed world console detail [package]).events)) ∧
    ∀ package, Apart world response console.columns detail package
      (visible (informed world console detail [package]).events)
      (informed world console detail [package]).result := by
  refine ⟨?_, ?_, fun package => ?_⟩
  · have unasked : (describeAll world console detail packages).Unasked := unasked_describeAll steady detail packages
    rw [← run_texts some] at unasked
    exact unasked.run answers
  · simp only [informed_single steady]
    cases packages with
    | nil => exact absurd rfl some
    | cons first others =>
      have same : (describe world console detail first).told.result =
          (fun package => (describe world console detail package).told.result) first := rfl
      obtain ⟨reached, left, split, ends, seen⟩ := ends_cons same (following_ends world console detail others)
      unfold informed
      rw [run_texts some, told_describeAll steady, seen]
      refine ⟨first :: reached, left, congrArg (first :: ·) split, ends, ?_⟩
      rw [List.map_cons, intercalate_cons, List.flatMap_map]
      rfl
  · rw [informed_single steady]
    exact describe_apart steady detail

/-- A package that lists a file without a location, and one that lists none. -/
def mixedFiles : FileTree :=
  ⟨[(["bad.ovf"], .file (Xml.encodeUtf8 Session.unnamedDocument)),
    (["good.ovf"], .file (Xml.encodeUtf8 "<E/>".toList))], []⟩

def mixedWorld : World := ⟨mixedFiles, [], 900⟩

theorem openPackage_mixed {package : String}
    (isDirectory : (mixedWorld.backendFor package).toOption = some .directory) :
    (mixedWorld.openPackage package).result = .ok (Directory.client mixedFiles) :=
  World.openPackage_ok_iff.2 ⟨.directory, toOption_eq_some_iff.1 isDirectory, rfl⟩

theorem load_mixed_bad : (load mixedWorld.room (Directory.client mixedFiles) "/bad.ovf").result = .error (.absent .suffix) := by
  have described : Describes mixedWorld.room (Directory.client mixedFiles) "/bad.ovf" Session.unnamedDescriptor := by
    refine ⟨⟨"/", "bad.ovf", "/bad.ovf"⟩, _, ?_, ?_, Session.parse_unnamed⟩
    · exact toOption_eq_some_iff.1 (by decide +kernel)
    · exact toOption_eq_some_iff.1 (by decide +kernel)
  have isFiles : Session.unnamedDescriptor.files = some ([] ++ ⟨some "f", none, none⟩ :: []) := rfl
  rw [described.result_load]
  exact validate_unnamed (openPackage_mixed (by decide +kernel)) isFiles nofun rfl

theorem load_mixed_good : (load mixedWorld.room (Directory.client mixedFiles) "/good.ovf").result = .ok {} := by
  have parsed : (Descriptor.parse mixedWorld.room (.bytes (Xml.encodeUtf8 "<E/>".toList))).result = .ok {} :=
    parse_of_formed (by decide +kernel) (by decide +kernel) (by decide +kernel) (by decide +kernel)
  refine load_ok_iff.2 ⟨⟨"/", "good.ovf", "/good.ovf"⟩, _, ?_, ?_, parsed, nofun⟩
  · exact toOption_eq_some_iff.1 (by decide +kernel)
  · exact toOption_eq_some_iff.1 (by decide +kernel)

/-- A package is described alone, and is not reached behind one that ends the run. -/
theorem info_isolates_mixed :
    (Terminal.console 80 true).Steady true ∧
    (informed mixedWorld (Terminal.console 80 true) .standard ["/good.ovf"]).result = .ok () ∧
    (informed mixedWorld (Terminal.console 80 true) .standard ["/bad.ovf", "/good.ovf"]).result =
      .error (.absent .suffix) ∧
    visible (informed mixedWorld (Terminal.console 80 true) .standard ["/bad.ovf", "/good.ovf"]).events = [] := by
  have steady := Terminal.steady 80
  have good : (informed mixedWorld (Terminal.console 80 true) .standard ["/good.ovf"]).result = .ok () := by
    rw [informed_single steady, result_describe steady,
      result_prepare steady (openPackage_mixed (by decide +kernel)), load_mixed_good]
    rfl
  have bad : (informed mixedWorld (Terminal.console 80 true) .standard ["/bad.ovf"]).result =
      .error (.absent .suffix) := by
    rw [informed_single steady, result_describe steady,
      result_prepare steady (openPackage_mixed (by decide +kernel)), load_mixed_bad]
    rfl
  have some : ["/bad.ovf", "/good.ovf"] ≠ [] := List.cons_ne_nil _ _
  obtain ⟨-, ⟨reached, left, split, ends, seen⟩, apart⟩ :=
    info_isolates mixedWorld steady some .standard []
  obtain ⟨rfl, failed⟩ := ends.stops bad split
  have shown := apart "/bad.ovf"
  rw [bad] at shown
  rw [List.map_singleton, List.intercalate_singleton, shown.nothing] at seen
  exact ⟨steady, good, failed, seen⟩

end Command

end OvfInspect
