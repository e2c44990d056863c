import OvfInspect.Proofs.IndependentRuns
import OvfInspect.Proofs.IsolatedPackages
import OvfInspect.Proofs.LoadingCalls
import OvfInspect.Proofs.NamedDescriptor
import OvfInspect.Proofs.SameDisks

/-!
# Packages shown although a file is missing

With force a package that lacks a file is shown all the same. `forced_info_same` compares the run with
one where all files are in place: the output and the end are the same, and no question is asked.
-/

namespace OvfInspect

open Storage Storage.Path CommandLine

/-! ### One descriptor in two file trees -/

namespace Storage

variable {tree tree' : FileTree} {path : String} {world : World}

/-- Two file trees that hold the same bytes at a path. A relative path begins in the same directory. -/
structure SameFile (tree tree' : FileTree) (path : String) : Prop where
  rooted : tree.Rooted
  rooted' : tree'.Rooted
  file : tree.isFile path = true
  file' : tree'.isFile path = true
  bytes : tree.read path = tree'.read path
  place : isAbsolute path = true ∨ tree.working = tree'.working

theorem namesDescriptor_of_endsWith (extension : path.endsWith ".ovf" = true) :
    namesDescriptor path = true := by
  obtain ⟨before, rfl⟩ := endsWith_iff.1 extension
  have lowered : Xml.lowerAscii (before ++ ".ovf") = Xml.lowerAscii before ++ ".ovf" := by
    rw [← String.toList_inj, String.toList_append, Xml.lowerAscii, Xml.lowerAscii, String.toList_ofList,
      String.toList_ofList, String.toList_append, List.map_append]
    rfl
  exact endsWith_iff.2 ⟨_, lowered⟩

theorem World.openPackage_named (isLocal : isRemote path = false) (file : world.files.isFile path = true)
    (extension : path.endsWith ".ovf" = true) :
    (world.openPackage path).result = .ok (Directory.client world.files) := by
  obtain ⟨entry, found, -⟩ := (Option.any_eq_true _ _).1 file
  have chosen : world.backendFor path = .ok .directory := by
    unfold backendFor
    rw [isLocal, found, namesDescriptor_of_endsWith extension]
    simp
  exact openPackage_ok_iff.2 ⟨.directory, chosen, rfl⟩

namespace Directory

theorem packageDirectory_named (rooted : tree.Rooted) (file : tree.isFile path = true)
    (isName : isProper (baseName path) = true) (notUp : baseName path ≠ "..") :
    packageDirectory tree path = (do
      let absolute ← absolutePath tree path
      pure (parent absolute)) := by
  have notDirectory := FileTree.not_isDirectory_of_destination file
    (FileTree.absolute_of_isFile rooted file isName notUp).destination_eq
  unfold packageDirectory absolutePath
  by_cases isAbsolute : isAbsolute path = true
  · rw [if_pos isAbsolute] at notDirectory
    simp only [if_pos isAbsolute, pure_bind, notDirectory, Bool.false_eq_true, if_false]
  · rw [if_neg isAbsolute] at notDirectory
    simp only [if_neg isAbsolute, bind_assoc, pure_bind, notDirectory, Bool.false_eq_true, if_false]

theorem absolutePath_eq (same : SameFile tree tree' path) :
    absolutePath tree path = absolutePath tree' path := by
  unfold absolutePath FileTree.workingPath
  rcases same.place with isAbsolute | working
  · rw [if_pos isAbsolute, if_pos isAbsolute]
  · rw [working]

theorem join_eq (same : SameFile tree tree' path) (isName : isProper (baseName path) = true)
    (notUp : baseName path ≠ "..") : join tree path = join tree' path := by
  funext name
  unfold join
  rw [packageDirectory_named same.rooted same.file isName notUp,
    packageDirectory_named same.rooted' same.file' isName notUp, absolutePath_eq same]

end Directory

end Storage

namespace Package

variable {room : Nat} {tree tree' : FileTree} {world : World} {path package : String} {client other : Client}
  {d d' : Descriptor}

def loadFrom (world : World) (package : String) : Narrated Fault Descriptor := do
  load world.room (← world.openPackage package) package

theorem result_loadFrom (opened : (world.openPackage package).result = .ok client) :
    (loadFrom world package).result = (load world.room client package).result := by
  rw [loadFrom, Narrated.result_bind, opened]
  rfl

theorem read_of_describes (rooted : tree.Rooted) (file : tree.isFile path = true)
    (extension : path.endsWith descriptorSuffix = true) (described : Describes room (Directory.client tree) path d) :
    ∃ bytes, tree.read path = .ok bytes ∧ (Descriptor.parse room (.bytes bytes)).result = .ok d := by
  obtain ⟨isName, notUp⟩ := isName_of_namesDescriptor (namesDescriptor_of_endsWith extension)
  have absolute := FileTree.absolute_of_isFile rooted file isName notUp
  have isDirectory := Directory.packageDirectory_of_file file (result_absolutePath tree path)
    absolute.destination_eq
  generalize (if isAbsolute path then path else Path.absolute tree.workingPath path) = other
    at absolute isDirectory
  have same : tree.destination (join (parent other) (baseName path)) = tree.destination path := by
    rw [← absolute.baseName_eq, FileTree.destination_join_parent absolute.isAbsolute, absolute.destination_eq]
  obtain ⟨handle, content, found, isRead, parsed⟩ := described
  have named := find_named file isDirectory extension
  have found' : (Directory.find tree path (some descriptorSuffix)).result = .ok handle := found
  by_cases isFile : tree.isFile (join (parent other) (baseName path)) = true
  · rw [if_pos isFile, found'] at named
    have isPath : handle.path = join (parent other) (baseName path) :=
      congrArg Handle.path (Except.ok.inj named)
    rw [← isPath] at isFile same
    obtain ⟨bytes, isBytes, isBytes'⟩ := FileTree.exists_read_of_destination isFile file same
    have isRead' : ((Directory.client tree).read handle).result = .ok (.bytes bytes) :=
      Directory.read_of_isFile isFile isBytes
    obtain rfl := Except.ok.inj (isRead'.symm.trans isRead)
    exact ⟨bytes, isBytes', parsed⟩
  · rw [if_neg isFile, found'] at named
    cases named

theorem describes_same (same : SameFile tree tree' path) (extension : path.endsWith descriptorSuffix = true)
    {room' : Nat} (described : Describes room (Directory.client tree) path d)
    (described' : Describes room' (Directory.client tree') path d') : d = d' := by
  obtain ⟨bytes, isRead, parsed⟩ := read_of_describes same.rooted same.file extension described
  obtain ⟨bytes', isRead', parsed'⟩ := read_of_describes same.rooted' same.file' extension described'
  have sameBytes := isRead.symm.trans (same.bytes.trans isRead')
  obtain rfl := Except.ok.inj sameBytes
  exact Except.ok.inj (parsed.symm.trans ((parse_ok_iff_of_room room).1 parsed'))

theorem summary_of_join (same : client.join package = other.join package) (columns : Int) (detail : Detail)
    (d : Descriptor) : summary client columns detail package d = summary other columns detail package d := by
  have sameDisk : diskLines client package detail = diskLines other package detail := by
    funext width disk
    rw [diskLines, diskLines, same]
  have sameDisks : disksLines client package detail = disksLines other package detail := by
    funext facts
    rw [disksLines, disksLines, sameDisk]
  rw [summary, summary, summaryLines, summaryLines, sameDisks]

end Package

/-! ### Describing with force -/

namespace Command

open Package

variable {world : World} {console : Console} {package : String} {client : Client} {d : Descriptor}

/-- The package has the descriptor, and it is loaded unless a file is missing. -/
structure Forceable (room : Nat) (client : Client) (package : String) (d : Descriptor) : Prop where
  described : Describes room client package d
  outcome : (load room client package).result = .ok d ∨
    ∃ fault, (load room client package).result = .error fault ∧ fault.isIncomplete = true

theorem forceable_of_load {room : Nat} (loaded : (load room client package).result = .ok d) :
    Forceable room client package d :=
  ⟨describes_of_load loaded, .inl loaded⟩

theorem exists_forceable {fault : Fault} (opened : (world.openPackage package).result = .ok client)
    (failed : (load world.room client package).result = .error fault) (incomplete : fault.isIncomplete = true) :
    ∃ d, Forceable world.room client package d := by
  rcases unloaded_cases true opened failed with ⟨d, _, _, _, described, -⟩ | ⟨complete, -⟩
  · exact ⟨d, described, .inr ⟨fault, failed, incomplete⟩⟩
  · cases incomplete.symm.trans complete

theorem prepare_of_forceable (steady : console.Steady true)
    (opened : (world.openPackage package).result = .ok client) (forceable : Forceable world.room client package d) :
    (prepare world console package).told.result = .ok (client, d) := by
  rw [result_prepare steady opened]
  rcases forceable.outcome with loaded | ⟨fault, failed, incomplete⟩
  · rw [loaded]
    rfl
  · rw [failed, told_afterLoading_incomplete steady incomplete, Narrated.result_bind, steady.answer]
    change (loadUnchecked world.room client package).result.map _ = _
    rw [loadUnchecked_of_describes forceable.described]
    rfl

/-- The summary is printed, if it can be made, whether or not a file is missing. -/
theorem describe_of_forceable (steady : console.Steady true)
    (opened : (world.openPackage package).result = .ok client) (forceable : Forceable world.room client package d)
    (detail : Detail) :
    (describe world console detail package).told.result =
        (summary client console.columns detail package d).result.map (fun _ => ()) ∧
      visible (describe world console detail package).told.events =
        (summary client console.columns detail package d).result.toOption.toList.map .printed := by
  rw [result_describe steady, visible_describe steady, prepare_of_forceable steady opened forceable]
  exact afterPreparing_ok opened console.columns detail d

/-! ### The settings of the info command -/

theorem ofValue_word (detail : Detail) : Detail.ofValue (.ofText? detail.word?) = .ok detail := by
  cases detail <;> rfl

theorem take_info {options : Options} {packages : Value} {detail : Detail}
    (isPackages : options.value "package_list" = .ok packages)
    (accepted : acceptPackages world packages = .ok packages)
    (isDetail : options.value "verbosity" = .ok (.ofText? detail.word?)) (held : Value) (kept : Detail) :
    (info held kept).take world options = (.ok (), info packages detail) := by
  have given : (info held kept).give world "package_list" packages = .ok (info packages kept) := by
    unfold give
    dsimp only
    rw [if_pos rfl, accepted]
    rfl
  have given' : (info packages kept).give world "verbosity" (.ofText? detail.word?) =
      .ok (info packages detail) := by
    unfold give
    dsimp only
    rw [if_neg (by decide), if_pos rfl, ofValue_word]
    rfl
  change takeEach world options ["package_list", "verbosity"] _ = _
  simp only [takeEach, isPackages, isDetail, given, given', bind, Except.bind]

theorem acceptPackages_single (isThere : world.checkPackage package = .ok ()) :
    acceptPackages world (.texts [package]) = .ok (.texts [package]) := by
  have checked : [Value.text package].forM world.checkNamed = .ok () := by
    change (world.checkPackage package >>= fun _ => pure ()) = _
    rw [isThere]
    rfl
  change (do
    [Value.text package].forM world.checkNamed
    return Value.texts [package]) = _
  rw [checked]
  rfl

theorem started_info {response : Bool} {options : Options} {detail kept : Detail} {held : Value}
    (steady : console.Steady response)
    (taken : (info held kept).take world options = (.ok (), info (.texts [package]) detail)) :
    ∃ events, visible events = visible (describe world console detail package).told.events ∧
      (info held kept).started world options console =
        .silent ⟨events, (describe world console detail package).told.result⟩ := by
  have run : (info (.texts [package]) detail).run world console =
      .silent (describe world console detail package).told := by
    have unasked : (describeAll world console detail [package]).Unasked :=
      unasked_describeAll steady detail [package]
    rw [← run_texts (List.cons_ne_nil _ _)] at unasked
    rw [unasked]
    exact congrArg Dialogue.silent (informed_single steady detail package)
  refine ⟨.logged (.spam ("Configuring " ++ (info held kept).name ++ " from " ++ options.shown)) :: _, rfl, ?_⟩
  unfold started configure
  rw [taken]
  exact Dialogue.silent_bind_of_ok rfl run

end Command

/-! ### What is put out -/

namespace Session

open Command Package

variable {session other : Session} {around around' : Surroundings} {line : Line} {flags : List Flag}
  {package path : String} {client : Client} {d : Descriptor} {words : List String} {answers : List Answer}

theorem unasked_logged {stamp : Log.Stamp} {question : String} {entry : Log.Entry} :
    .question question ∉ session.shownOf stamp (.logged entry) := by
  simp [shownOf]

theorem output_of_visible {events : List Event} {lines : List String}
    (seen : visible events = lines.map .printed) (session : Session) (stamp : Log.Stamp) :
    outputOf (session.shownAll stamp events) = lineByLine lines ∧
      ∀ question, .question question ∉ session.shownAll stamp events := by
  -- An event is silent and shows complaints at most, or it is the first of the lines.
  induction events generalizing lines with
  | nil =>
    obtain rfl := List.map_eq_nil_iff.1 seen.symm
    exact ⟨rfl, fun _ => List.not_mem_nil⟩
  | cons event events ih =>
    have split : session.shownAll stamp (event :: events) =
        session.shownOf stamp event ++ session.shownAll stamp events := List.flatMap_cons
    simp only [split, outputOf_append, List.mem_append, not_or]
    by_cases silent : event.isSilent = true
    · have rest : visible events = lines.map .printed := by
        rw [← seen, visible, visible, List.filter_cons_of_neg (by rw [silent]; decide)]
      obtain ⟨output, unasked⟩ := ih rest
      rw [outputOf_silent silent, output, String.empty_append]
      refine ⟨rfl, fun question => ⟨?_, unasked question⟩⟩
      cases event with
      | logged entry => exact unasked_logged
      | requested request => exact List.not_mem_nil
      | called call => exact List.not_mem_nil
      | printed line => cases silent
      | prompted question => cases silent
    · rw [visible, List.filter_cons_of_pos (by simpa using silent)] at seen
      obtain ⟨line, lines, rfl, rfl, rest⟩ := List.map_eq_cons_iff.1 seen.symm
      obtain ⟨output, unasked⟩ := ih rest.symm
      rw [output, lineByLine_cons]
      exact ⟨rfl, fun question => ⟨by simp [shownOf], unasked question⟩⟩

theorem unasked_endingOf (verb : Verb) (outcome : Except Fault Unit) (question : String) :
    .question question ∉ (endingOf verb outcome).1 := by
  unfold endingOf aborted
  split
  case h_6 | h_7 => split <;> simp
  all_goals simp

/-! ### Runs of the info command -/

def KeepsInfo (session : Session) : Prop :=
  ∃ held kept, session.info = .info held kept

theorem keepsInfo_of_serves (serves : Serves session other) (h : other.KeepsInfo) : session.KeepsInfo := by
  obtain ⟨held, kept, isInfo⟩ := h
  have blank : session.info.blank = other.info.blank := serves.blank .info
  rw [isInfo] at blank
  cases command : session.info with
  | info held' kept' => exact ⟨held', kept', command⟩
  | _ =>
    rw [command] at blank
    cases blank

theorem Reached.keepsInfo (reached : Reached session) : session.KeepsInfo := by
  induction reached with
  | started started =>
    unfold start at started
    split at started
    · cases started
    · obtain rfl := Except.ok.inj started
      exact ⟨.absent, .standard, rfl⟩
  | ran _ around words answers ih => exact keepsInfo_of_serves (apply_serves _ (.run around words answers)) ih
  | verbosity _ level ih => exact keepsInfo_of_serves (setVerbosity_serves level _) ih
  | quiet _ ih => exact keepsInfo_of_serves (resetLogging_serves _) ih

theorem steady_of_force (agrees : session.force = true) : session.console.Steady true := by
  rw [console, agrees]
  exact Terminal.steady session.columns

/-- The turn tells a summary or why there is none, without any answer of the user. -/
structure Tells (turn : Turn Nat) (made : Except Fault String) (answers : List Answer) : Prop where
  output : turn.output = lineByLine made.toOption.toList ++ outputOf (endingOf .info (made.map fun _ => ())).1
  ending : turn.ending = (endingOf .info (made.map fun _ => ())).2
  unread : turn.answers = answers
  unasked : ∀ question, .question question ∉ turn.shown

theorem perform_of_started {order : Order} {ran : Narrated Fault Unit × List Answer}
    (isRan : ((session.command order.verb).started around.world (optionsOf around.objects line order session.force)
      session.console).run answers = ran) :
    let turn := session.perform around line order answers
    turn.shown = session.shownAll around.stamp ran.1.events ++ (endingOf order.verb ran.1.result).1 ∧
      turn.ending = (endingOf order.verb ran.1.result).2 ∧ turn.answers = ran.2 := by
  subst isRan
  exact ⟨rfl, rfl, rfl⟩

theorem perform_info (keeps : session.KeepsInfo) (agrees : session.force = true)
    (isThere : around.world.checkPackage package = .ok ()) (line : Line) (flags : List Flag)
    (answers : List Answer) :
    let order : Order := ⟨.info, flags, [package]⟩
    let described := (describe around.world session.console (detailOf order) package).told
    let turn := session.perform around line order answers
    ∃ events, visible events = visible described.events ∧
      turn.shown = session.shownAll around.stamp events ++ (endingOf .info described.result).1 ∧
      turn.ending = (endingOf .info described.result).2 ∧ turn.answers = answers := by
  intro order described turn
  obtain ⟨held, kept, isInfo⟩ := keeps
  have steady := steady_of_force agrees
  have taken : (Command.info held kept).take around.world (optionsOf around.objects line order session.force) =
      (.ok (), .info (.texts [package]) (detailOf order)) :=
    take_info rfl (acceptPackages_single isThere) rfl held kept
  obtain ⟨events, seen, started⟩ := started_info steady taken
  have isCommand : session.command order.verb = .info held kept := isInfo
  have isRan : ((session.command order.verb).started around.world (optionsOf around.objects line order session.force)
      session.console).run answers = (⟨events, described.result⟩, answers) := by
    rw [isCommand, started]
    rfl
  exact ⟨events, seen, perform_of_started isRan⟩

/-- A run with force tells the summary of its package, whether or not a file is missing. -/
theorem tells_of_forceable (reached : Reached session) (isRead : Line.read words = .ok line)
    (isOrder : line.order = some ⟨.info, flags, [package]⟩) (agrees : forced around line = true)
    (opened : (around.world.openPackage package).result = .ok client)
    (forceable : Forceable around.world.room client package d) (answers : List Answer) :
    Tells (session.run around words answers)
      (summary client session.columns (detailOf ⟨.info, flags, [package]⟩) package d).result answers := by
  rw [run_of_ok isRead]
  unfold runLine
  rw [isOrder, agrees]
  -- What was run before matters for the kind of the command only, as its settings are given anew.
  dsimp only
  generalize isReady : setVerbosity _ _ = ready
  have keeps : ready.KeepsInfo := isReady ▸ keepsInfo_of_serves
    ((setVerbosity_serves _ _).trans (force_serves true session)) reached.keepsInfo
  have isColumns : ready.columns = session.columns := isReady ▸ rfl
  have isForce : ready.force = true := isReady ▸ rfl
  have steady := steady_of_force isForce
  obtain ⟨events, same, shown, ending, unread⟩ :=
    perform_info keeps isForce (checkPackage_of_opened opened) line flags answers
  obtain ⟨result, seen⟩ :=
    describe_of_forceable steady opened forceable (detailOf ⟨.info, flags, [package]⟩)
  rw [show ready.console.columns = session.columns from congrArg Nat.cast isColumns] at result seen
  rw [result] at shown ending
  obtain ⟨output, unasked⟩ := output_of_visible (same.trans seen) ready around.stamp
  refine ⟨?_, ending, unread, fun question => ?_⟩
  · rw [Turn.output, shown, outputOf_append, logEntry, outputOf_logged, String.empty_append, outputOf_append,
      output]
  · rw [shown, List.mem_append, List.mem_append, not_or, not_or]
    exact ⟨unasked_logged, unasked question, unasked_endingOf .info _ question⟩

end Session

/-- A run with force does not show whether all files of its package are in place. The package is named by its
descriptor, which is the same in two file trees. In the first a file is missing, and in the second the package
is loaded. Both runs put out the same and end in the same way, ask nothing and use up no answers. -/
theorem forced_info_same {session other : Session} (reached : session.Reached) (reached' : other.Reached)
    (sameColumns : session.columns = other.columns) {around around' : Surroundings} {path : String}
    (isLocal : isRemote path = false) (extension : path.endsWith ".ovf" = true)
    (same : SameFile around.world.files around'.world.files path) {href : Option String} {place : String}
    {cause : Failure} {d : Descriptor}
    (incomplete : (Package.loadFrom around.world path).result = .error (.defect (.notInPackage href place cause)))
    (valid : (Package.loadFrom around'.world path).result = .ok d) {words : List String} {line : Line}
    {flags : List Flag} (isRead : Line.read words = .ok line)
    (isOrder : line.order = some ⟨.info, flags, [path]⟩) (agrees : Session.forced around line = true)
    (agrees' : Session.forced around' line = true) (answers answers' : List Answer) :
    let turn := session.run around words answers
    let turn' := other.run around' words answers'
    turn.output = turn'.output ∧ turn.ending = turn'.ending ∧
      (turn.answers = answers ∧ turn'.answers = answers') ∧
      ∀ question, .question question ∉ turn.shown ∧ .question question ∉ turn'.shown := by
  have opened := World.openPackage_named isLocal same.file extension
  have opened' := World.openPackage_named isLocal same.file' extension
  rw [Package.result_loadFrom opened] at incomplete
  rw [Package.result_loadFrom opened'] at valid
  obtain ⟨d', forceable⟩ := Command.exists_forceable opened incomplete rfl
  have forceable' := Command.forceable_of_load valid
  obtain rfl := Package.describes_same same extension forceable.described forceable'.described
  have tells := Session.tells_of_forceable reached isRead isOrder agrees opened forceable answers
  have tells' := Session.tells_of_forceable reached' isRead isOrder agrees' opened' forceable' answers'
  obtain ⟨isName, notUp⟩ := isName_of_namesDescriptor (namesDescriptor_of_endsWith extension)
  have sameJoin : (Directory.client around.world.files).join path =
      (Directory.client around'.world.files).join path := Directory.join_eq same isName notUp
  rw [sameColumns, Package.summary_of_join sameJoin] at tells
  exact ⟨tells.output.trans tells'.output.symm, tells.ending.trans tells'.ending.symm,
    ⟨tells.unread, tells'.unread⟩, fun question => ⟨tells.unasked question, tells'.unasked question⟩⟩

/-- A document that lists one file. -/
def singleDocument : List UInt8 :=
  Xml.encodeUtf8 (["<E><References>", "<File id='f' href='a'/>", "</References></E>"].flatMap String.toList)

def singleDescriptor : Descriptor where
  references := some ⟨none, none, [⟨some "f", some "a", none⟩]⟩

/-- The document with what else is beside it. -/
def singleFiles (others : List (Place × Entry)) : FileTree :=
  ⟨(["p.ovf"], .file singleDocument) :: others, []⟩

def listedFile : List (Place × Entry) :=
  [(["a"], .file [])]

def singleWorld (others : List (Place × Entry)) : World :=
  ⟨singleFiles others, [], 900⟩

theorem rooted_single (others : List (Place × Entry)) : (singleFiles others).Rooted where
  named := nofun
  spelled := nofun
  passable := FileTree.passable_nil

theorem parse_single : (Descriptor.parse 900 (.bytes singleDocument)).result = .ok singleDescriptor :=
  Package.parse_of_formed (by decide +kernel) (by decide +kernel) (by decide +kernel) (by decide +kernel)

theorem sameFile_single :
    SameFile (singleFiles []) (singleFiles listedFile) "/p.ovf" where
  rooted := rooted_single _
  rooted' := rooted_single _
  file := by decide +kernel
  file' := by decide +kernel
  bytes := by
    have isRead : (singleFiles []).read "/p.ovf" = .ok singleDocument := toOption_eq_some_iff.1 (by decide +kernel)
    have isRead' : (singleFiles listedFile).read "/p.ovf" = .ok singleDocument :=
      toOption_eq_some_iff.1 (by decide +kernel)
    rw [isRead, isRead']
  place := .inl (by decide +kernel)

theorem describes_single {others : List (Place × Entry)}
    (found : (Directory.find (singleFiles others) "/p.ovf" (some Package.descriptorSuffix)).result.toOption =
      some ⟨"/", "p.ovf", "/p.ovf"⟩)
    (isRead : (Directory.read (singleFiles others) ⟨"/", "p.ovf", "/p.ovf"⟩).result.toOption =
      some (.bytes singleDocument)) :
    Package.Describes (singleWorld others).room (Directory.client (singleFiles others)) "/p.ovf" singleDescriptor :=
  ⟨_, _, toOption_eq_some_iff.1 found, toOption_eq_some_iff.1 isRead, parse_single⟩

theorem load_single_lacking : (Package.loadFrom (singleWorld []) "/p.ovf").result =
    .error (.defect (.notInPackage (some "a") "/p.ovf" (.notFound (some "a") "/"))) := by
  have opened : ((singleWorld []).openPackage "/p.ovf").result = .ok (Directory.client (singleFiles [])) :=
    World.openPackage_named (by decide +kernel) sameFile_single.file (by decide +kernel)
  have described : Package.Describes (singleWorld []).room (Directory.client (singleFiles [])) "/p.ovf" singleDescriptor :=
    describes_single (by decide +kernel) (by decide +kernel)
  have isDirectory : (Directory.packageDirectory (singleFiles []) "/p.ovf").result = .ok "/" :=
    toOption_eq_some_iff.1 (by decide +kernel)
  have names : Directory.candidates (singleFiles []) "/" "/p.ovf" "a" = .ok ["a"] :=
    toOption_eq_some_iff.1 (by decide +kernel)
  have missing : ((Directory.client (singleFiles [])).find "/p.ovf" (some "a")).result =
      .error (.storage (.notFound (some "a") "/")) := by
    have absent : (["a"].find? fun name => (singleFiles []).isFile (join "/" name)) = none := by decide +kernel
    refine (Directory.result_find isDirectory "a").trans ?_
    rw [names, Except.bind, absent]
  have checked : (Package.check (Directory.client (singleFiles [])) "/p.ovf"
      ⟨some "f", some "a", none⟩).result = _ := Package.check_of_missing missing
  rw [Package.result_loadFrom opened, described.result_load]
  change ((do [_].forM (Package.check (Directory.client (singleFiles [])) "/p.ovf"); pure singleDescriptor :
    Narrated Fault Descriptor)).result = _
  rw [Narrated.result_bind, Narrated.result_forM_cons, checked]
  rfl

theorem load_single_whole :
    (Package.loadFrom (singleWorld listedFile) "/p.ovf").result = .ok singleDescriptor := by
  have opened : ((singleWorld listedFile).openPackage "/p.ovf").result =
      .ok (Directory.client (singleFiles listedFile)) :=
    World.openPackage_named (by decide +kernel) sameFile_single.file' (by decide +kernel)
  have described : Package.Describes (singleWorld listedFile).room (Directory.client (singleFiles listedFile)) "/p.ovf" singleDescriptor :=
    describes_single (by decide +kernel) (by decide +kernel)
  have found : ((Directory.client (singleFiles listedFile)).find "/p.ovf" (some "a")).result =
      .ok ⟨"/", "a", "/a"⟩ := toOption_eq_some_iff.1 (by decide +kernel)
  rw [Package.result_loadFrom opened, described.result_load]
  exact Package.validate_ok_iff.2 ⟨rfl, List.forall_mem_singleton.2 ⟨_, found⟩⟩

/-- Whether the listed file is missing is not seen in full detail. -/
theorem forced_info_same_single :
    let turn := Session.run ⟨singleWorld [], true, default, default⟩ ["-f", "info", "-v", "/p.ovf"] [.typed "n"]
      { owner := 0, columns := 80 }
    let turn' := Session.run ⟨singleWorld listedFile, false, default, default⟩ ["-f", "info", "-v", "/p.ovf"] []
      { owner := 0, columns := 80 }
    (Package.loadFrom (singleWorld []) "/p.ovf").result =
      .error (.defect (.notInPackage (some "a") "/p.ovf" (.notFound (some "a") "/"))) ∧
    (Package.loadFrom (singleWorld listedFile) "/p.ovf").result = .ok singleDescriptor ∧
    turn.output = turn'.output ∧ turn.ending = turn'.ending ∧
      (turn.answers = [.typed "n"] ∧ turn'.answers = []) ∧
      ∀ question, .question question ∉ turn.shown ∧ .question question ∉ turn'.shown := by
  have reached : Session.Reached { owner := 0, columns := 80 } := @Session.Reached.started 0 80 {} _ rfl
  have isRead : Line.read ["-f", "info", "-v", "/p.ovf"] = .ok
      ⟨[⟨'f', "force", .force, "Answer 'yes' to any confirmation prompt"⟩],
        some ⟨.info, [⟨'v', "verbose", .full, "Verbose output (longer)"⟩], ["/p.ovf"]⟩⟩ :=
    toOption_eq_some_iff.1 (by decide +kernel)
  have same := @forced_info_same _ _ reached reached rfl ⟨singleWorld [], true, default, default⟩
    ⟨singleWorld listedFile, false, default, default⟩ "/p.ovf" (by decide +kernel) (by decide +kernel) sameFile_single
    _ _ _ _ load_single_lacking load_single_whole _ _ _ isRead rfl rfl rfl [.typed "n"] []
  exact ⟨load_single_lacking, load_single_whole, same⟩

end OvfInspect
