import OvfInspect.Proofs.DisksListing
import OvfInspect.Proofs.LineReading
import OvfInspect.Proofs.LocatedDisks
import OvfInspect.Session

/-!
# Runs of the disks command

A run of the disks command ends in one of three ways that are documented, unless the package is one
of those that `Departure` lists. `disks_run_ends` shows this for every session, after whatever it has
run before.
-/

namespace OvfInspect

open Storage CommandLine Command

/-! ### What is put out -/

/-- What of it reaches the output. -/
def Shown.text : Shown → String
  | .output text => text
  | .question text => text
  | .complaint _ => ""

def outputOf (shown : List Shown) : String :=
  String.join (shown.map Shown.text)

/-- All that a turn puts out. -/
def Turn.output {α : Type} (turn : Turn α) : String :=
  outputOf turn.shown

/-- The lines one after the other. -/
def lineByLine (lines : List String) : String :=
  String.join (lines.map fun line => line ++ "\n")

theorem outputOf_append (shown more : List Shown) :
    outputOf (shown ++ more) = outputOf shown ++ outputOf more := by
  rw [outputOf, List.map_append, String.join_append]
  rfl

theorem outputOf_output (text : String) : outputOf [.output text] = text := by
  rw [outputOf, List.map_singleton, String.join_cons, String.join_nil, String.append_empty]
  rfl

theorem lineByLine_cons (line : String) (lines : List String) :
    lineByLine (line :: lines) = line ++ "\n" ++ lineByLine lines :=
  String.join_cons

variable {around : Surroundings} {package : String} {session : Session}

namespace Session

theorem outputOf_logged (stamp : Log.Stamp) (entry : Log.Entry) :
    outputOf (session.shownOf stamp (.logged entry)) = "" := by
  unfold shownOf outputOf
  rw [List.map_map]
  induction session.logger.lines stamp entry with
  | nil => rfl
  | cons line lines ih =>
    rw [List.map_cons, String.join_cons, ih]
    rfl

theorem outputOf_silent {stamp : Log.Stamp} {event : Event} (h : event.isSilent = true) :
    outputOf (session.shownOf stamp event) = "" := by
  cases event with
  | logged entry => exact outputOf_logged stamp entry
  | requested request => rfl
  | called call => rfl
  | printed line => cases h
  | prompted question => cases h

theorem outputOf_shownAll_cons {stamp : Log.Stamp} (event : Event) (events : List Event) :
    outputOf (session.shownAll stamp (event :: events)) =
      outputOf (session.shownOf stamp event) ++ outputOf (session.shownAll stamp events) := by
  rw [shownAll, List.flatMap_cons, outputOf_append]
  rfl

theorem outputOf_prints {stamp : Log.Stamp} {x : Narrated Fault Unit} {lines : List String}
    (h : Prints x lines) : outputOf (session.shownAll stamp x.events) = lineByLine lines := by
  obtain ⟨before, silent, isEvents⟩ := h
  rw [isEvents]
  clear isEvents
  induction before with
  | nil =>
    induction lines with
    | nil => rfl
    | cons line lines ih =>
      rw [List.nil_append] at ih ⊢
      rw [List.map_cons, outputOf_shownAll_cons, ih, lineByLine_cons]
      rfl
  | cons event before ih =>
    obtain ⟨first, rest⟩ := List.forall_mem_cons.1 silent
    rw [List.cons_append, outputOf_shownAll_cons, outputOf_silent first, ih rest, String.empty_append]

end Session

/-! ### Settings -/

namespace Command

theorem take_disks (world : World) (options : Options) (kept : Option String) :
    (disks kept).take world options =
      match (do acceptPackage world (← options.value "package")) with
      | .ok accepted => (.ok (), disks accepted)
      | .error fault => (.error fault, disks kept) := by
  change takeEach world options ["package"] (disks kept) = _
  unfold takeEach
  cases options.value "package" with
  | error fault => rfl
  | ok value =>
    have given : (disks kept).give world "package" value =
        (acceptPackage world value).map disks := by
      unfold give
      dsimp only
      rw [if_pos rfl]
      cases acceptPackage world value <;> rfl
    dsimp only [bind, Except.bind]
    rw [given]
    cases acceptPackage world value <;> rfl

theorem acceptPackage_text (world : World) (package : String) : acceptPackage world (.text package) =
    (world.checkPackage package).map fun _ => some package := by
  unfold acceptPackage
  rw [if_neg (fun isAbsent => nomatch isAbsent)]
  change (do world.checkPackage package; pure (Value.text package).text?) = _
  cases world.checkPackage package <;> rfl

/-- The package is checked, and its disks are printed. -/
def requested (world : World) (package : String) : Narrated Fault Unit := do
  .ofExcept (world.checkPackage package)
  printDisks world package

end Command

/-! ### Turns -/

namespace Session

variable {kept : Option String} {line : Line} {answers : List Answer}

theorem value_package (objects : ObjectTexts) (force : Bool) :
    (optionsOf objects line ⟨.disks, [], [package]⟩ force).value "package" = .ok (.text package) := by
  unfold Options.value
  have found : (optionsOf objects line ⟨.disks, [], [package]⟩ force).lookup "package" =
      some (.text package) := rfl
  rw [found]

/-- The command is configured with the package and run, and its end is put before the user. -/
theorem perform_disks (isDisks : session.disks = .disks kept) (around : Surroundings) (line : Line)
    (package : String) (answers : List Answer) : ∃ entry,
    (session.perform around line ⟨.disks, [], [package]⟩ answers).shown =
      session.shownAll around.stamp (.logged entry :: (requested around.world package).events) ++
        (endingOf .disks (requested around.world package).result).1 ∧
    (session.perform around line ⟨.disks, [], [package]⟩ answers).ending =
      (endingOf .disks (requested around.world package).result).2 := by
  have taken := take_disks around.world
    (optionsOf around.objects line ⟨.disks, [], [package]⟩ session.force) kept
  rw [value_package] at taken
  change _ = match acceptPackage around.world (.text package) with
    | .ok accepted => _
    | .error fault => _ at taken
  rw [acceptPackage_text] at taken
  refine ⟨.spam ("Configuring " ++ (Command.disks kept).name ++ " from " ++
    (optionsOf around.objects line ⟨.disks, [], [package]⟩ session.force).shown), ?_⟩
  unfold perform command requested configure
  dsimp only
  rw [isDisks, taken]
  cases around.world.checkPackage package with
  | error fault => exact ⟨rfl, rfl⟩
  | ok _ => exact ⟨rfl, rfl⟩

/-- The line puts out what is printed for the package and what the user sees of its end. -/
theorem runLine_disks (isDisks : session.disks = .disks kept) (flags : List Flag) {lines : List String}
    (prints : Prints (requested around.world package) lines) (answers : List Answer) :
    let turn := session.runLine around ⟨flags, some ⟨.disks, [], [package]⟩⟩ answers
    let atEnd := endingOf .disks (requested around.world package).result
    turn.output = lineByLine lines ++ outputOf atEnd.1 ∧ turn.ending = atEnd.2 := by
  dsimp only
  unfold runLine
  dsimp only
  generalize isReady : setVerbosity _ _ = ready
  have isDisks : ready.disks = .disks kept := isReady ▸ isDisks
  obtain ⟨entry, shown, ending⟩ :=
    perform_disks isDisks around ⟨flags, some ⟨.disks, [], [package]⟩⟩ package answers
  refine ⟨?_, ending⟩
  rw [Turn.output, shown, outputOf_append, logEntry, outputOf_logged, String.empty_append,
    outputOf_append, outputOf_shownAll_cons, outputOf_logged, String.empty_append,
    outputOf_prints prints]

/-- The sessions that can be reached from a new one. -/
inductive Reached : Session → Prop
  | started {owner : Nat} {columns : Int} {logger : Log.Logger} {session : Session}
      (h : start owner columns logger = .ok session) : Reached session
  | ran {session : Session} (h : Reached session) (around : Surroundings) (words : List String)
      (answers : List Answer) : Reached (session.run around words answers).session
  | verbosity {session : Session} (h : Reached session) (level : Log.Level) :
      Reached (session.setVerbosity level)
  | quiet {session : Session} (h : Reached session) : Reached session.resetLogging

/-- The disks command of the session is one. -/
def KeepsDisks (session : Session) : Prop :=
  ∃ kept, session.disks = .disks kept

theorem disks_resetLogging (session : Session) : session.resetLogging.disks = session.disks := by
  unfold resetLogging
  split <;> rfl

theorem keepsDisks_perform {order : Order} (h : session.KeepsDisks) :
    (session.perform around line order answers).session.KeepsDisks := by
  obtain ⟨kept, isDisks⟩ := h
  obtain ⟨verb, flags, operands⟩ := order
  cases verb with
  | info => exact ⟨kept, isDisks⟩
  | disks =>
    unfold perform command configure
    dsimp only
    rw [isDisks, take_disks]
    split
    · next accepted _ => exact ⟨accepted, rfl⟩
    · exact ⟨kept, rfl⟩

theorem keepsDisks_run {words : List String} (h : session.KeepsDisks) :
    (session.run around words answers).session.KeepsDisks := by
  unfold run
  split
  · next line _ =>
    unfold runLine
    obtain ⟨flags, order⟩ := line
    change KeepsDisks (resetLogging _)
    unfold KeepsDisks
    rw [disks_resetLogging]
    cases order with
    | none => exact h
    | some order => exact keepsDisks_perform h
  · exact h

theorem Reached.keepsDisks (h : Reached session) : session.KeepsDisks := by
  induction h with
  | started h =>
    unfold start at h
    split at h
    · cases h
    · obtain rfl := Except.ok.inj h
      exact ⟨none, rfl⟩
  | ran _ _ _ _ ih => exact keepsDisks_run ih
  | verbosity _ _ ih => exact ih
  | quiet _ ih => rwa [KeepsDisks, disks_resetLogging]

end Session

/-! ### Ends of a run -/

variable {world : World} {verb : Verb} {fault : Fault}

namespace Command

theorem requested_listing (world : World) (package : String) :
    ∃ lines, Prints (requested world package) lines ∧
      Listing world package lines (requested world package).result := by
  unfold requested
  cases checked : world.checkPackage package with
  | ok _ => exact printDisks_listing world package
  | error fault =>
    obtain ⟨missing, isLocal, absent⟩ : fault = .input (.packageMissing package) ∧
        isRemote package = false ∧ world.files.exists? package = false := by
      unfold World.checkPackage at checked
      split at checked
      · cases checked
      · next notThere =>
        rw [Bool.not_eq_true, Bool.or_eq_false_iff] at notThere
        exact ⟨(Except.error.inj checked).symm, notThere⟩
    subst missing
    exact ⟨[], ⟨[], nofun, rfl⟩, .failed (.invalid (.missing isLocal absent))⟩

theorem requested_of_opened {client : Client}
    (opened : (world.openPackage package).result = .ok client) :
    requested world package = resolve world package >>= printAll := by
  rw [requested, checkPackage_of_opened opened, printDisks_eq]
  rfl

theorem requested_of_loaded {client : Client} {d : Descriptor}
    {disks : List Package.LocatedDisk} (opened : (world.openPackage package).result = .ok client)
    (loaded : (Package.loadWithDisks world.room client package).result = .ok (d, disks))
    (writable : ∀ disk ∈ disks, Writable disk) : (requested world package).result = .ok () := by
  rw [requested_of_opened opened, Narrated.bind_of_ok (resolve_ok_iff.2 ⟨client, d, opened, loaded⟩),
    printAll_of_writable writable]

theorem requested_of_load_error {client : Client}
    (opened : (world.openPackage package).result = .ok client)
    (failed : (Package.load world.room client package).result = .error fault) :
    (requested world package).result = .error fault := by
  rw [requested_of_opened opened, Narrated.bind_of_error (resolve_error_of_load opened failed)]

end Command

/-- The documented ends of a run that lists the disks of a package, with what is put out: the disks
are listed, or storage cannot be read, or the input is refused. -/
inductive Documented (world : World) (words : List String) (package : String) :
    String → Ending Nat → Prop
  | listed {client : Client} {d : Descriptor} {disks : List Package.LocatedDisk}
      (opened : (world.openPackage package).result = .ok client)
      (loaded : (Package.loadWithDisks world.room client package).result = .ok (d, disks))
      (ofPackage : Package.DisksOf client package d disks) :
      Documented world words package (lineByLine (disks.map lineOf)) (.value 0)
  | unreadable {failure : Failure} (stops : Package.Stops world package (.storage failure))
      (failed : (requested world package).result = .error (.storage failure)) :
      Documented world words package (failure.summary ++ "\n") (.value 1)
  | badPacking {damage : Damage} (stops : Package.Stops world package (.damaged damage))
      (ofSystem : damage.isOfSystem = true)
      (failed : (requested world package).result = .error (.damaged damage)) :
      Documented world words package (damage.message ++ "\n") (.value 1)
  | misused {flag other : Flag}
      (excluded : Line.read words = .error (.misuse .program (.conflict flag other))) :
      Documented world words package "" (.exit 2)
  | refused {fault : Fault} (invalid : Package.Invalid world package fault)
      (failed : (requested world package).result = .error fault) :
      Documented world words package "" (.exit 2)

/-- The other ends: the packing of an archive stops too early, which is taken for an interruption by
the user; an archive has other damage; there is a fault that nothing foresees; or the size of a disk
has too many digits, which shows when the disks before it have been printed. -/
inductive Departure (world : World) (package : String) : String → Ending Nat → Prop
  | cutPacking (stops : Package.Stops world package (.damaged .packingEnded))
      (failed : (requested world package).result = .error (.damaged .packingEnded)) :
      Departure world package "" (.value 1)
  | damaged {damage : Damage} (stops : Package.Stops world package (.damaged damage))
      (other : damage.isOfSystem = false)
      (failed : (requested world package).result = .error (.damaged damage)) :
      Departure world package "" (.fault (.damaged damage))
  | unforeseen {fault : Fault} (unforeseen : Package.Unforeseen world package fault)
      (failed : (requested world package).result = .error fault) :
      Departure world package "" (.fault fault)
  | unwritable {client : Client} {d : Descriptor} {before after : List Package.LocatedDisk}
      {disk : Package.LocatedDisk} (opened : (world.openPackage package).result = .ok client)
      (loaded : (Package.loadWithDisks world.room client package).result = .ok (d, before ++ disk :: after))
      (writable : ∀ disk ∈ before, Writable disk) (stuck : ¬ Writable disk) :
      Departure world package (lineByLine (before.map lineOf)) (.fault .unwritable)

namespace Session

theorem endingOf_input (verb : Verb) (h : fault.isInput = true) :
    outputOf (endingOf verb (.error fault)).1 = "" ∧ (endingOf verb (.error fault)).2 = .exit 2 := by
  cases fault with
  | unsupported => exact ⟨rfl, rfl⟩
  | input => exact ⟨rfl, rfl⟩
  | defect => exact ⟨rfl, rfl⟩
  | _ => cases h

theorem endingOf_damaged {damage : Damage} (notCut : damage ≠ .packingEnded) :
    endingOf verb (.error (.damaged damage)) =
      if damage.isOfSystem then ([.output (damage.message ++ "\n")], .value 1)
      else ([], .fault (.damaged damage)) := by
  cases damage with
  | packingEnded => exact absurd rfl notCut
  | _ => rfl

theorem endingOf_unforeseen (h : Package.Unforeseen world package fault) :
    endingOf verb (.error fault) = ([], .fault fault) := by
  cases h with
  | exponent _ _ overlong =>
    obtain ⟨-, -, -, n, rfl⟩ := overlong
    rfl
  | _ => rfl

theorem ends_of_listing {words lines : List String}
    (listing : Listing world package lines (requested world package).result) :
    let shown := lineByLine lines ++ outputOf (endingOf .disks (requested world package).result).1
    let ending := (endingOf .disks (requested world package).result).2
    Documented world words package shown ending ∨ Departure world package shown ending := by
  generalize result : (requested world package).result = outcome at listing
  dsimp only
  cases listing with
  | listed opened loaded _ =>
    change Documented world words package (_ ++ "") _ ∨ _
    rw [String.append_empty]
    exact .inl (.listed opened loaded (Package.disksOf_loadWithDisks loaded))
  | cutShort opened loaded writable stuck =>
    change _ ∨ Departure world package (_ ++ "") _
    rw [String.append_empty]
    exact .inr (.unwritable opened loaded writable stuck)
  | failed faulty =>
    rw [show lineByLine [] = "" from rfl, String.empty_append]
    cases faulty with
    | @unreadable failure stops =>
      left
      have summary : outputOf (endingOf .disks (.error (.storage failure))).1 = failure.summary ++ "\n" :=
        outputOf_output _
      rw [summary]
      exact .unreadable stops result
    | invalid invalid =>
      obtain ⟨nothing, ending⟩ := endingOf_input .disks invalid.isInput
      rw [nothing, ending]
      exact .inl (.refused invalid result)
    | @damaged damage stops =>
      by_cases cut : damage = .packingEnded
      · subst cut
        exact .inr (.cutPacking stops result)
      · rw [endingOf_damaged cut]
        cases ofSystem : damage.isOfSystem with
        | true =>
          rw [if_pos rfl, outputOf_output]
          exact .inl (.badPacking stops ofSystem result)
        | false =>
          rw [if_neg Bool.false_ne_true]
          exact .inr (.damaged stops ofSystem result)
    | unforeseen unforeseen =>
      rw [endingOf_unforeseen unforeseen]
      exact .inr (.unforeseen unforeseen result)

theorem ends_listed {words : List String} {line : Line} {client : Client} {d : Descriptor}
    {disks : List Package.LocatedDisk} {text : String} {ending : Ending Nat}
    (isRead : Line.read words = .ok line) (opened : (world.openPackage package).result = .ok client)
    (loaded : (Package.loadWithDisks world.room client package).result = .ok (d, disks))
    (writable : ∀ disk ∈ disks, Writable disk)
    (ends : Documented world words package text ending ∨ Departure world package text ending) :
    text = lineByLine (disks.map lineOf) ∧ ending = .value 0 := by
  have done := requested_of_loaded opened loaded writable
  rcases ends with documented | departure
  · cases documented with
    | listed opened' loaded' _ =>
      obtain rfl := Except.ok.inj (opened.symm.trans opened')
      obtain ⟨rfl, rfl⟩ := Prod.mk.inj (Except.ok.inj (loaded.symm.trans loaded'))
      exact ⟨rfl, rfl⟩
    | misused excluded => cases isRead.symm.trans excluded
    | unreadable _ failed => cases done.symm.trans failed
    | badPacking _ _ failed => cases done.symm.trans failed
    | refused _ failed => cases done.symm.trans failed
  · cases departure with
    | unwritable opened' loaded' _ stuck =>
      obtain rfl := Except.ok.inj (opened.symm.trans opened')
      obtain ⟨-, rfl⟩ := Prod.mk.inj (Except.ok.inj (loaded.symm.trans loaded'))
      exact absurd (writable _ (by simp)) stuck
    | cutPacking _ failed => cases done.symm.trans failed
    | damaged _ _ failed => cases done.symm.trans failed
    | unforeseen _ failed => cases done.symm.trans failed

/-- A package that is not loaded for a fault that nothing foresees ends the run with that fault. -/
theorem ends_unforeseen {words : List String} {line : Line} {client : Client} {text : String}
    {ending : Ending Nat} (isRead : Line.read words = .ok line)
    (opened : (world.openPackage package).result = .ok client)
    (failed : (Package.load world.room client package).result = .error fault)
    (unforeseen : Package.Unforeseen world package fault)
    (ends : Documented world words package text ending ∨ Departure world package text ending) :
    text = "" ∧ ending = .fault fault := by
  have stopped := requested_of_load_error opened failed
  have unloaded {client : Client} {loaded : Descriptor × List Package.LocatedDisk}
      (opened' : (world.openPackage package).result = .ok client) :
      (Package.loadWithDisks world.room client package).result ≠ .ok loaded := fun isLoaded =>
    nomatch (resolve_ok_iff.2 ⟨client, _, opened', isLoaded⟩).symm.trans
      (resolve_error_of_load opened failed)
  obtain ⟨notInput, notStorage, notDamaged⟩ := unforeseen.other
  rcases ends with documented | departure
  · cases documented with
    | listed opened' loaded _ => exact absurd loaded (unloaded opened')
    | misused excluded => cases isRead.symm.trans excluded
    | unreadable _ failed' =>
      obtain rfl := Except.error.inj (stopped.symm.trans failed')
      cases notStorage
    | badPacking _ _ failed' => exact absurd (Except.error.inj (stopped.symm.trans failed')) (notDamaged _)
    | refused invalid failed' =>
      obtain rfl := Except.error.inj (stopped.symm.trans failed')
      cases notInput.symm.trans invalid.isInput
  · cases departure with
    | unwritable opened' loaded => exact absurd loaded (unloaded opened')
    | cutPacking _ failed' => exact absurd (Except.error.inj (stopped.symm.trans failed')) (notDamaged _)
    | damaged _ _ failed' => exact absurd (Except.error.inj (stopped.symm.trans failed')) (notDamaged _)
    | unforeseen _ failed' =>
      obtain rfl := Except.error.inj (stopped.symm.trans failed')
      exact ⟨rfl, rfl⟩

/-- A run that lists the disks of a package ends as documented, but for the packages of `Departure`. -/
theorem disks_run_ends (reached : Reached session) {options : List String}
    (isOption : ∀ word ∈ options, IsOption word) (operand : package.startsWith "-" = false)
    (around : Surroundings) (answers : List Answer) :
    let turn := session.run around (options ++ ["disks", package]) answers
    Documented around.world (options ++ ["disks", package]) package turn.output turn.ending ∨
      Departure around.world package turn.output turn.ending := by
  dsimp only
  have named : Verb.ofName? "disks" = some .disks := by decide +kernel
  rcases read_package isOption named (by decide +kernel) operand with ⟨flags, isRead⟩ | ⟨flag, other, excluded⟩
  · obtain ⟨kept, isDisks⟩ := reached.keepsDisks
    obtain ⟨lines, prints, listing⟩ := requested_listing around.world package
    obtain ⟨shown, ending⟩ := runLine_disks isDisks flags prints answers
    rw [run, isRead]
    dsimp only
    rw [shown, ending]
    exact ends_of_listing listing
  · rw [run, excluded]
    exact .inl (.misused excluded)

/-- A document that lists a file without a location. -/
def unnamedDocument : List Char :=
  ["<E><References>", "<File id='f'/>", "</References></E>"].flatMap String.toList

def unnamedDescriptor : Descriptor where
  references := some ⟨none, none, [⟨some "f", none, none⟩]⟩

def unnamedFiles : FileTree :=
  ⟨[(["p.ovf"], .file (Xml.encodeUtf8 unnamedDocument))], []⟩

def unnamedWorld : World := ⟨unnamedFiles, [], 900⟩

theorem parse_unnamed {room : Nat} :
    (Descriptor.parse room (.bytes (Xml.encodeUtf8 unnamedDocument))).result = .ok unnamedDescriptor :=
  Package.parse_of_formed (by decide +kernel) (by decide +kernel) (by decide +kernel)
    (by decide +kernel)

theorem openPackage_unnamed :
    (unnamedWorld.openPackage "/p.ovf").result = .ok (Directory.client unnamedFiles) := by
  have chosen : unnamedWorld.backendFor "/p.ovf" = .ok .directory :=
    toOption_eq_some_iff.1 (by decide +kernel)
  exact World.openPackage_ok_iff.2 ⟨.directory, chosen, rfl⟩

theorem describes_unnamed :
    Package.Describes unnamedWorld.room (Directory.client unnamedFiles) "/p.ovf" unnamedDescriptor := by
  have descriptor : ((Directory.client unnamedFiles).find "/p.ovf"
      (some Package.descriptorSuffix)).result = .ok ⟨"/", "p.ovf", "/p.ovf"⟩ :=
    toOption_eq_some_iff.1 (by decide +kernel)
  have content : ((Directory.client unnamedFiles).read ⟨"/", "p.ovf", "/p.ovf"⟩).result =
      .ok (.bytes (Xml.encodeUtf8 unnamedDocument)) := toOption_eq_some_iff.1 (by decide +kernel)
  exact ⟨_, _, descriptor, content, parse_unnamed⟩

theorem load_unnamed : (Package.load unnamedWorld.room (Directory.client unnamedFiles) "/p.ovf").result =
    .error (.absent .suffix) := by
  have isFiles : unnamedDescriptor.files = some ([] ++ ⟨some "f", none, none⟩ :: []) := rfl
  rw [describes_unnamed.result_load]
  exact Package.validate_unnamed openPackage_unnamed isFiles nofun rfl

theorem unforeseen_unnamed : Package.Unforeseen unnamedWorld "/p.ovf" (.absent .suffix) :=
  .unnamed openPackage_unnamed describes_unnamed (List.mem_singleton.2 rfl) rfl

/-- The run of a line in a session that has just begun. -/
def freshRun (world : World) (words : List String) : Turn Nat :=
  run ⟨world, false, default, default⟩ words [] { owner := 0, columns := 80 }

/-- The disks of two spellings are listed, and the file without a location ends a run with a fault that
nothing foresees. -/
theorem disks_run_ends_spelled :
    ((freshRun Package.spelledWorld ["-q", "disks", "/p.ovf"]).output =
        "/.//a 1 GB\n/x/../a 1 GB\n" ∧
      (freshRun Package.spelledWorld ["-q", "disks", "/p.ovf"]).ending = .value 0) ∧
    (freshRun unnamedWorld ["disks", "/p.ovf"]).output = "" ∧
    (freshRun unnamedWorld ["disks", "/p.ovf"]).ending = .fault (.absent .suffix) := by
  have reached : Reached { owner := 0, columns := 80 } := @Reached.started 0 80 {} _ rfl
  have isOption : ∀ word ∈ ["-q"], IsOption word := by
    refine List.forall_mem_singleton.2 ⟨[⟨'q', "quiet", .quieter, "Log less (repeatable)"⟩], ?_, ?_⟩
    · decide +kernel
    · exact List.forall_mem_singleton.2 (.inr (.inl rfl))
  have noOption : ∀ word ∈ [], IsOption word := nofun
  have operand : "/p.ovf".startsWith "-" = false := by decide +kernel
  have spelled := disks_run_ends reached isOption operand ⟨Package.spelledWorld, false, default, default⟩ []
  have unnamed := disks_run_ends reached noOption operand ⟨unnamedWorld, false, default, default⟩ []
  have isRead : Line.read ["-q", "disks", "/p.ovf"] = .ok
      ⟨[⟨'q', "quiet", .quieter, "Log less (repeatable)"⟩], some ⟨.disks, [], ["/p.ovf"]⟩⟩ :=
    toOption_eq_some_iff.1 (by decide +kernel)
  have isRead' : Line.read ["disks", "/p.ovf"] = .ok ⟨[], some ⟨.disks, [], ["/p.ovf"]⟩⟩ :=
    toOption_eq_some_iff.1 (by decide +kernel)
  have writable : ∀ disk ∈ Package.spelledDisks, Writable disk := by decide +kernel
  constructor
  · exact ends_listed isRead Package.openPackage_spelled Package.loadWithDisks_spelled writable spelled
  · exact ends_unforeseen isRead' openPackage_unnamed load_unnamed unforeseen_unnamed unnamed

end Session

end OvfInspect
