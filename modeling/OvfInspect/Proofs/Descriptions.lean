import OvfInspect.Proofs.Summaries

/-!
# Describing one package

A console that gives one answer to everything needs no user. With such a console a package is described,
or it is set aside with a message, or the fault is left to others: `describe_apart` says when.
-/

namespace OvfInspect

open Storage

/-! ### What a user sees -/

/-- The events that a user sees: lines, questions and the messages of errors. -/
def visible (events : List Event) : List Event :=
  events.filter fun event => !event.isSilent

theorem visible_append (events more : List Event) : visible (events ++ more) = visible events ++ visible more :=
  List.filter_append events more

theorem visible_of_silent {events : List Event} (silent : ∀ event ∈ events, event.isSilent = true) :
    visible events = [] := by
  apply List.filter_eq_nil_iff.2
  intro event member
  simp [silent event member]

theorem printed_visible (events : List Event) : Narrated.printed (visible events) = Narrated.printed events := by
  unfold Narrated.printed visible
  rw [List.filterMap_filter]
  congr 1
  funext event
  cases event with
  | logged entry => exact ite_self none
  | _ => rfl

/-! ### Dialogues that need no answers -/

namespace Dialogue

variable {α β : Type} {d : Dialogue α} {f : α → Dialogue β}

/-- What happens without any answer. -/
def told (d : Dialogue α) : Narrated Fault α :=
  (d.run []).1

def Unasked (d : Dialogue α) : Prop :=
  d = silent d.told

theorem Unasked.run (unasked : Unasked d) (answers : List Answer) : d.run answers = (d.told, answers) :=
  congrArg (fun d => d.run answers) unasked

theorem unasked_silent (x : Narrated Fault α) : Unasked (silent x) := rfl

theorem silent_bind (x : Narrated Fault α) (f : α → Narrated Fault β) :
    (silent x >>= fun a => silent (f a)) = silent (x >>= f) := by
  rcases x with ⟨events, fault | a⟩ <;> rfl

theorem silent_bind_of_ok {x : Narrated Fault α} {a : α} {y : Narrated Fault β} (found : x.result = .ok a)
    (next : f a = silent y) : (silent x >>= f) = silent (x >>= fun _ => y) := by
  rcases x with ⟨events, fault | b⟩
  · cases found
  · obtain rfl := Except.ok.inj found
    have steps : (silent ⟨events, .ok b⟩ >>= f) = ⟨fun answers =>
        (⟨events ++ ((f b).run answers).1.events, ((f b).run answers).1.result⟩, ((f b).run answers).2)⟩ := rfl
    rw [steps, next]
    rfl

theorem bind_eq (unasked : Unasked d) (next : ∀ a, Unasked (f a)) :
    (d >>= f) = silent (d.told >>= fun a => (f a).told) := by
  have same : f = fun a => silent (f a).told := funext next
  rw [← silent_bind, ← same, ← unasked]

theorem told_bind (unasked : Unasked d) (next : ∀ a, Unasked (f a)) :
    (d >>= f).told = d.told >>= fun a => (f a).told := by
  rw [bind_eq unasked next]
  rfl

theorem Unasked.bind (unasked : Unasked d) (next : ∀ a, Unasked (f a)) : Unasked (d >>= f) := by
  rw [bind_eq unasked next]
  exact unasked_silent _

theorem Unasked.attempt (unasked : Unasked d) : Unasked d.attempt := by
  rw [unasked]
  exact unasked_silent d.told.attempt

end Dialogue

/-- A console that gives one answer to everything, without the user. -/
structure Console.Steady (console : Console) (response : Bool) : Prop where
  unasked : ∀ prompt, (console.confirm prompt).Unasked
  quiet : ∀ prompt, Quiet (fun _ => False) (console.confirm prompt).told
  answer : ∀ prompt, (console.confirm prompt).told.result = .ok response

theorem quiet_agree {faults : Fault → Prop} (prompt : String) : Quiet faults (agree prompt) :=
  .log_bind (.pure _)

theorem SilentConsole.steady (settings : SilentConsole) :
    settings.console.Steady (settings.force || settings.response) := by
  obtain ⟨force, response, columns⟩ := settings
  cases force with
  | false => exact ⟨fun _ => rfl, fun _ => .pure _, fun _ => rfl⟩
  | true => exact ⟨fun _ => rfl, fun _ => quiet_agree _, fun _ => rfl⟩

theorem Terminal.steady (columns : Nat) : (Terminal.console columns true).Steady true :=
  ⟨fun _ => rfl, fun _ => quiet_agree _, fun _ => rfl⟩

namespace Command

open Package

variable {world : World} {package : String} {client : Client} {d : Descriptor} {console : Console}
  {response : Bool} {room : Nat}

/-! ### Loading for a summary -/

/-- The descriptor that is shown: the package is loaded, or a file is missing and the answer is to go on. -/
inductive Accepts (room : Nat) (response : Bool) (client : Client) (package : String) (d : Descriptor) : Prop
  | complete (loaded : (load room client package).result = .ok d) : Accepts room response client package d
  | incomplete {file : FileReference} {failure : Failure} (agreed : response = true)
      (described : Describes room client package d) (isListed : file ∈ listed d)
      (notFound : (client.find package file.href).result = .error (.storage failure)) :
      Accepts room response client package d

/-- The descriptor of the package cannot be read, parsed or validated. -/
inductive Unusable (world : World) (response : Bool) (package : String) : Fault → Prop
  | unreadable {failure : Failure} (stops : Stops world package (.storage failure)) :
      Unusable world response package (.storage failure)
  | malformed {client : Client} {handle : Handle} {content : Xml.Content} {cause : Malformed}
      (opened : (world.openPackage package).result = .ok client)
      (found : (client.find package (some descriptorSuffix)).result = .ok handle)
      (isRead : (client.read handle).result = .ok content)
      (failed : (Descriptor.parse world.room content).result = .error (.defect (.malformed cause))) :
      Unusable world response package (.defect (.malformed cause))
  | incomplete {client : Client} {d : Descriptor} {file : FileReference} {failure : Failure}
      (declined : response = false) (opened : (world.openPackage package).result = .ok client)
      (described : Describes world.room client package d) (isListed : file ∈ listed d)
      (notFound : (client.find package file.href).result = .error (.storage failure)) :
      Unusable world response package (.defect (.notInPackage file.href package failure))

/-- The faults with which a package is not prepared for its summary. The last two kinds are not foreseen. -/
inductive PreparingFault (world : World) (response : Bool) (package : String) : Fault → Prop
  | unusable {fault : Fault} (h : Unusable world response package fault) :
      PreparingFault world response package fault
  | damaged {damage : Damage} (stops : Stops world package (.damaged damage)) :
      PreparingFault world response package (.damaged damage)
  | unforeseen {fault : Fault} (h : Unforeseen world package fault) :
      PreparingFault world response package fault

theorem unloaded_cases (response : Bool) (opened : (world.openPackage package).result = .ok client) {fault : Fault}
    (failed : (load world.room client package).result = .error fault) :
    (∃ d file failure, fault = .defect (.notInPackage file.href package failure) ∧
      Describes world.room client package d ∧ file ∈ listed d ∧
      (client.find package file.href).result = .error (.storage failure)) ∨
    fault.isIncomplete = false ∧ PreparingFault world response package fault := by
  cases (quiet_load opened).faulty fault failed with
  | unreadable stops => exact .inr ⟨rfl, .unusable (.unreadable stops)⟩
  | damaged stops => exact .inr ⟨rfl, .damaged stops⟩
  | unforeseen unforeseen =>
    refine .inr ⟨?_, .unforeseen unforeseen⟩
    cases fault with
    | defect => cases unforeseen.other.1
    | _ => rfl
  | invalid invalid =>
    cases invalid with
    | missing isLocal absent =>
      have isThere := checkPackage_of_opened opened
      rw [World.checkPackage, isLocal, absent] at isThere
      cases isThere
    | malformed opened found isRead parsed => exact .inr ⟨rfl, .unusable (.malformed opened found isRead parsed)⟩
    | incomplete opened' described isListed notFound =>
      obtain rfl := Except.ok.inj (opened.symm.trans opened')
      exact .inl ⟨_, _, _, rfl, described, isListed, notFound⟩
    -- The other faults are those of packages that are loaded.
    | noHardware opened' loaded =>
      obtain rfl := Except.ok.inj (opened.symm.trans opened')
      cases failed.symm.trans loaded
    | unjoined opened' loaded =>
      obtain rfl := Except.ok.inj (opened.symm.trans opened')
      cases failed.symm.trans loaded

theorem loadUnchecked_of_describes (described : Describes room client package d) :
    (loadUnchecked room client package).result = .ok d := by
  obtain ⟨handle, content, found, isRead, parsed⟩ := described
  unfold loadUnchecked Package.content
  simp only [Narrated.result_bind, Narrated.result_pure, found, isRead, parsed, Except.bind]

def afterLoading (room : Nat) (console : Console) (client : Client) (package : String) :
    Except Fault Descriptor → Dialogue Descriptor
  | .ok descriptor => pure descriptor
  | .error fault =>
    if fault.isIncomplete then
      console.confirm (incompletePrompt fault) >>= fun agreed =>
        .silent (if agreed then loadUnchecked room client package else .fail fault)
    else .silent (.fail fault)

theorem loadOrAsk_eq (room : Nat) (console : Console) (client : Client) (package : String) :
    loadOrAsk room console client package =
      (Dialogue.silent (load room client package)).attempt >>= afterLoading room console client package := by
  unfold loadOrAsk
  congr 1
  funext outcome
  cases outcome with
  | ok d => rfl
  | error fault =>
    unfold afterLoading
    dsimp only
    split
    · congr 1
      funext agreed
      cases agreed <;> rfl
    · rfl

theorem unasked_afterLoading (steady : console.Steady response) (outcome : Except Fault Descriptor) :
    (afterLoading room console client package outcome).Unasked := by
  unfold afterLoading
  split
  · exact Dialogue.unasked_silent _
  · split
    · exact (steady.unasked _).bind fun _ => Dialogue.unasked_silent _
    · exact Dialogue.unasked_silent _

theorem quiet_loadUnchecked {faults : Fault → Prop} (opened : (world.openPackage package).result = .ok client)
    (described : Describes world.room client package d) : Quiet faults (loadUnchecked world.room client package) := by
  have silent : Quiet anyFault (loadUnchecked world.room client package) :=
    ((quiet_content opened).mono fun _ _ => trivial).bind fun _ _ => (logs_parse _ _).quiet
  refine ⟨silent.silent, fun fault failed => ?_⟩
  cases failed.symm.trans (loadUnchecked_of_describes described)

theorem told_afterLoading_incomplete (steady : console.Steady response) {fault : Fault}
    (incomplete : fault.isIncomplete = true) : (afterLoading room console client package (.error fault)).told =
      (console.confirm (incompletePrompt fault)).told >>= fun agreed =>
        if agreed then loadUnchecked room client package else .fail fault := by
  unfold afterLoading
  dsimp only
  rw [if_pos incomplete]
  exact Dialogue.told_bind (steady.unasked _) fun _ => Dialogue.unasked_silent _

theorem told_afterLoading_other {fault : Fault} (complete : fault.isIncomplete = false) :
    (afterLoading room console client package (.error fault)).told = .fail fault := by
  unfold afterLoading
  dsimp only
  rw [complete]
  rfl

theorem quiet_afterLoading (steady : console.Steady response)
    (opened : (world.openPackage package).result = .ok client) :
    Quiet (PreparingFault world response package)
      (afterLoading world.room console client package (load world.room client package).result).told := by
  cases loaded : (load world.room client package).result with
  | ok d => exact .pure d
  | error fault =>
    rcases unloaded_cases response opened loaded with
      ⟨d, file, failure, rfl, described, isListed, notFound⟩ | ⟨complete, faulty⟩
    · rw [told_afterLoading_incomplete steady rfl]
      refine ((steady.quiet _).mono fun _ => False.elim).bind fun agreed isAnswer => ?_
      obtain rfl := Except.ok.inj ((steady.answer _).symm.trans isAnswer)
      cases response with
      | true => exact quiet_loadUnchecked opened described
      | false => exact .fail (.unusable (.incomplete rfl opened described isListed notFound))
    · rw [told_afterLoading_other complete]
      exact .fail faulty

/-- The descriptor that is shown is that of the package, whose files may be missing only by consent. -/
theorem accepts_afterLoading (steady : console.Steady response)
    (opened : (world.openPackage package).result = .ok client)
    (shown : (afterLoading world.room console client package (load world.room client package).result).told.result = .ok d) :
    Accepts world.room response client package d := by
  cases loaded : (load world.room client package).result with
  | ok d' =>
    rw [loaded] at shown
    obtain rfl := Except.ok.inj shown
    exact .complete loaded
  | error fault =>
    rw [loaded] at shown
    rcases unloaded_cases response opened loaded with
      ⟨d', file, failure, rfl, described, isListed, notFound⟩ | ⟨complete, -⟩
    · rw [told_afterLoading_incomplete steady rfl, Narrated.result_bind, steady.answer] at shown
      cases response with
      | true =>
        obtain rfl := Except.ok.inj ((loadUnchecked_of_describes described).symm.trans shown)
        exact .incomplete rfl described isListed notFound
      | false => cases shown
    · rw [told_afterLoading_other complete] at shown
      cases shown

theorem unasked_loadOrAsk (steady : console.Steady response) : (loadOrAsk room console client package).Unasked := by
  rw [loadOrAsk_eq]
  exact (Dialogue.unasked_silent _).attempt.bind (unasked_afterLoading steady)

theorem told_loadOrAsk (steady : console.Steady response) : (loadOrAsk room console client package).told =
    (load room client package).attempt >>= fun outcome => (afterLoading room console client package outcome).told := by
  rw [loadOrAsk_eq]
  exact Dialogue.told_bind (Dialogue.unasked_silent _).attempt (unasked_afterLoading steady)

theorem unasked_prepare (steady : console.Steady response) : (prepare world console package).Unasked :=
  (Dialogue.unasked_silent _).bind fun _ => (unasked_loadOrAsk steady).bind fun _ => Dialogue.unasked_silent _

theorem told_prepare (steady : console.Steady response) : (prepare world console package).told =
    openPackage world package >>= fun client =>
      (loadOrAsk world.room console client package).told >>= fun d => pure (client, d) := by
  have next (client : Client) : (do return (client, ← loadOrAsk world.room console client package) :
      Dialogue (Client × Descriptor)).Unasked :=
    (unasked_loadOrAsk steady).bind fun _ => Dialogue.unasked_silent _
  refine (Dialogue.told_bind (Dialogue.unasked_silent (openPackage world package)) next).trans ?_
  congr 1
  funext client
  exact Dialogue.told_bind (unasked_loadOrAsk steady) fun d => Dialogue.unasked_silent (pure (client, d))

theorem quiet_prepare (steady : console.Steady response) :
    Quiet (PreparingFault world response package) (prepare world console package).told := by
  rw [told_prepare steady]
  refine ((quiet_openPackage world package).mono fun fault stopped => ?_).bind fun client opened => ?_
  · obtain ⟨stops, storage | ⟨damage, rfl⟩⟩ := stopped
    · cases fault with
      | storage failure => exact .unusable (.unreadable stops)
      | _ => cases storage
    · exact .damaged stops
  · have opened := opened_of_openPackage opened
    rw [told_loadOrAsk steady]
    refine Quiet.bind ((quiet_load opened).attempt.bind fun outcome attempted => ?_) fun _ _ => .pure _
    obtain rfl := Except.ok.inj attempted
    exact quiet_afterLoading steady opened

theorem accepts_of_prepare (steady : console.Steady response)
    (prepared : (prepare world console package).told.result = .ok (client, d)) :
    (world.openPackage package).result = .ok client ∧ Accepts world.room response client package d := by
  rw [told_prepare steady, Narrated.bind_ok_iff] at prepared
  obtain ⟨client', opened, prepared⟩ := prepared
  obtain ⟨d', shown, same⟩ := Narrated.bind_ok_iff.1 prepared
  obtain ⟨rfl, rfl⟩ := Prod.mk.inj (Narrated.pure_ok_iff.1 same)
  have opened := opened_of_openPackage opened
  rw [told_loadOrAsk steady, Narrated.result_bind] at shown
  exact ⟨opened, accepts_afterLoading steady opened shown⟩

theorem openPackage_of_opened (opened : (world.openPackage package).result = .ok client) :
    (openPackage world package).result = .ok client := by
  simp only [openPackage, Narrated.result_bind, opened, Except.bind, Narrated.result_log, Narrated.result_pure]

theorem result_prepare (steady : console.Steady response) (opened : (world.openPackage package).result = .ok client) :
    (prepare world console package).told.result =
      (afterLoading world.room console client package (load world.room client package).result).told.result.map fun d => (client, d) := by
  have attempted : ((load world.room client package).attempt : Narrated Fault _).result = .ok (load world.room client package).result :=
    rfl
  rw [told_prepare steady, Narrated.result_bind, openPackage_of_opened opened]
  simp only [Except.bind, told_loadOrAsk steady, Narrated.result_bind, Narrated.result_pure, attempted]
  cases (afterLoading world.room console client package (load world.room client package).result).told.result <;> rfl

/-! ### Describing -/

/-- The message about a package that is not described. -/
def unableEntry (package : String) (fault : Fault) : Log.Entry :=
  .error ⟨"info", "run", 138⟩ ("Unable to display information for " ++ package ++ ": " ++ fault.message)

/-- What a user sees of one package, and how describing it ends: its summary is printed, or it is set aside
with one message that names it, or there is a fault that ends the run. -/
inductive Apart (world : World) (response : Bool) (columns : Int) (detail : Detail) (package : String) :
    List Event → Except Fault Unit → Prop
  | described {client : Client} {d : Descriptor} {text : String}
      (opened : (world.openPackage package).result = .ok client) (accepted : Accepts world.room response client package d)
      (isSummary : (summary client columns detail package d).result = .ok text) :
      Apart world response columns detail package [.printed text] (.ok ())
  | setAside {fault : Fault} (unusable : Unusable world response package fault) :
      Apart world response columns detail package [.logged (unableEntry package fault)] (.ok ())
  | damaged {damage : Damage} (stops : Stops world package (.damaged damage)) :
      Apart world response columns detail package [] (.error (.damaged damage))
  | unforeseen {fault : Fault} (h : Unforeseen world package fault) :
      Apart world response columns detail package [] (.error fault)
  | unshowable {client : Client} {d : Descriptor} {fault : Fault}
      (opened : (world.openPackage package).result = .ok client) (accepted : Accepts world.room response client package d)
      (failed : (summary client columns detail package d).result = .error fault)
      (cause : Unshowable detail fault) : Apart world response columns detail package [] (.error fault)

theorem Apart.nothing {columns : Int} {detail : Detail} {seen : List Event} {fault : Fault}
    (apart : Apart world response columns detail package seen (.error fault)) : seen = [] := by
  cases apart <;> rfl

def afterPreparing (columns : Int) (detail : Detail) (package : String) :
    Except Fault (Client × Descriptor) → Narrated Fault Unit
  | .ok (client, descriptor) => do printLine (← summary client columns detail package descriptor)
  | .error fault =>
    if fault.isDefect || fault.isStorage then .log (unableEntry package fault) else .fail fault

theorem describe_eq (world : World) (console : Console) (detail : Detail) (package : String) :
    describe world console detail package = (prepare world console package).attempt >>= fun outcome =>
      .silent (afterPreparing console.columns detail package outcome) := by
  unfold describe
  congr 1
  funext outcome
  rcases outcome with fault | ⟨client, d⟩
  · unfold afterPreparing
    dsimp only
    split <;> rfl
  · rfl

theorem unasked_describe (steady : console.Steady response) (detail : Detail) :
    (describe world console detail package).Unasked := by
  rw [describe_eq]
  exact (unasked_prepare steady).attempt.bind fun _ => Dialogue.unasked_silent _

theorem told_describe (steady : console.Steady response) (detail : Detail) :
    (describe world console detail package).told = (prepare world console package).told.attempt >>=
      afterPreparing console.columns detail package := by
  rw [describe_eq]
  exact Dialogue.told_bind (unasked_prepare steady).attempt fun _ => Dialogue.unasked_silent _

theorem result_describe (steady : console.Steady response) (detail : Detail) :
    (describe world console detail package).told.result =
      (afterPreparing console.columns detail package (prepare world console package).told.result).result := by
  rw [told_describe steady, Narrated.result_bind]
  rfl

theorem Unusable.logged {fault : Fault} (unusable : Unusable world response package fault) :
    (fault.isDefect || fault.isStorage) = true := by
  cases unusable <;> rfl

theorem not_logged_of_unforeseen {fault : Fault} (unforeseen : Unforeseen world package fault) :
    (fault.isDefect || fault.isStorage) = false := by
  obtain ⟨notInput, notStorage, -⟩ := unforeseen.other
  have notDefect : fault.isDefect = false := by
    by_contra isDefect
    rw [Fault.isInput_of_isDefect (Bool.eq_true_of_not_eq_false isDefect)] at notInput
    cases notInput
  rw [notDefect, notStorage]
  rfl

theorem afterPreparing_ok (opened : (world.openPackage package).result = .ok client) (columns : Int)
    (detail : Detail) (d : Descriptor) :
    (afterPreparing columns detail package (.ok (client, d))).result =
        (summary client columns detail package d).result.map (fun _ => ()) ∧
      visible (afterPreparing columns detail package (.ok (client, d))).events =
        (summary client columns detail package d).result.toOption.toList.map .printed := by
  have quiet := quiet_summary opened detail columns d
  change (summary client columns detail package d >>= printLine).result = _ ∧
    visible (summary client columns detail package d >>= printLine).events = _
  cases made : (summary client columns detail package d).result with
  | ok text =>
    rw [Narrated.bind_of_ok made, visible_append, visible_of_silent quiet.silent]
    exact ⟨rfl, rfl⟩
  | error fault =>
    rw [Narrated.bind_of_error made, visible_of_silent quiet.silent]
    exact ⟨rfl, rfl⟩

theorem afterPreparing_apart (steady : console.Steady response) (detail : Detail) :
    let outcome := (prepare world console package).told.result
    Apart world response console.columns detail package
      (visible (afterPreparing console.columns detail package outcome).events)
      (afterPreparing console.columns detail package outcome).result := by
  dsimp only
  cases prepared : (prepare world console package).told.result with
  | ok loaded =>
    obtain ⟨client, d⟩ := loaded
    obtain ⟨opened, accepted⟩ := accepts_of_prepare steady prepared
    obtain ⟨result, seen⟩ := afterPreparing_ok opened console.columns detail d
    rw [result, seen]
    cases made : (summary client console.columns detail package d).result with
    | ok text => exact .described opened accepted made
    | error fault =>
      exact .unshowable opened accepted made ((quiet_summary opened detail console.columns d).faulty fault made)
  | error fault =>
    unfold afterPreparing
    dsimp only
    cases (quiet_prepare steady).faulty fault prepared with
    | unusable unusable =>
      rw [unusable.logged]
      exact .setAside unusable
    | damaged stops => exact .damaged stops
    | unforeseen unforeseen =>
      rw [not_logged_of_unforeseen unforeseen]
      exact .unforeseen unforeseen

theorem visible_describe (steady : console.Steady response) (detail : Detail) :
    visible (describe world console detail package).told.events =
      visible (afterPreparing console.columns detail package (prepare world console package).told.result).events := by
  have attempted : ((prepare world console package).told.attempt : Narrated Fault _).result =
      .ok (prepare world console package).told.result := rfl
  have silent : visible (prepare world console package).told.events = [] :=
    visible_of_silent (quiet_prepare steady).silent
  rw [told_describe steady, Narrated.bind_of_ok attempted, visible_append]
  change visible (prepare world console package).told.events ++ _ = _
  rw [silent, List.nil_append]

/-- A package is described, set aside or ends the run. -/
theorem describe_apart (steady : console.Steady response) (detail : Detail) :
    Apart world response console.columns detail package
      (visible (describe world console detail package).told.events)
      (describe world console detail package).told.result := by
  rw [visible_describe steady, result_describe steady]
  exact afterPreparing_apart steady detail

/-! ### Loaded packages -/

theorem prepare_of_loaded (console : Console) (opened : (world.openPackage package).result = .ok client)
    (loaded : (load world.room client package).result = .ok d) : ∃ x : Narrated Fault (Client × Descriptor),
      prepare world console package = .silent x ∧ Quiet (ResolvingFault world package) x ∧
        x.result = .ok (client, d) := by
  -- Nothing is known of the console, so it is shown that none of its questions is reached.
  have isOpened := openPackage_of_opened opened
  have attempted : ((load world.room client package).attempt : Narrated Fault _).result = .ok (.ok d) :=
    congrArg Except.ok loaded
  have asked : loadOrAsk world.room console client package =
      .silent ((load world.room client package).attempt >>= fun _ => pure d) := by
    rw [loadOrAsk_eq]
    exact Dialogue.silent_bind_of_ok attempted rfl
  have next : (do return (client, ← loadOrAsk world.room console client package) : Dialogue (Client × Descriptor)) =
      .silent (((load world.room client package).attempt >>= fun _ => pure d) >>= fun d => pure (client, d)) := by
    rw [asked]
    exact Dialogue.silent_bind _ fun d => pure (client, d)
  refine ⟨openPackage world package >>= fun _ =>
    ((load world.room client package).attempt >>= fun _ => pure d) >>= fun d => pure (client, d),
    Dialogue.silent_bind_of_ok isOpened next, ?_, ?_⟩
  · have unopened : ∀ fault, (openPackage world package).result ≠ .error fault := by
      intro fault failed
      cases failed.symm.trans isOpened
    refine Quiet.bind ⟨(quiet_openPackage world package).silent, fun fault failed => absurd failed (unopened fault)⟩
      fun _ _ => ?_
    exact ((quiet_load opened).attempt.bind fun _ _ => .pure _).bind fun _ _ => .pure _
  · rw [Narrated.result_bind, isOpened]
    simp only [Except.bind, Narrated.result_bind, attempted, Narrated.result_pure]

/-- A loaded package is described whatever the console: its summary is printed, if it can be made. -/
theorem describe_of_loaded (console : Console) (opened : (world.openPackage package).result = .ok client)
    (loaded : (load world.room client package).result = .ok d) (detail : Detail) : ∃ x : Narrated Fault Unit,
      describe world console detail package = .silent x ∧
      x.result = (summary client console.columns detail package d).result.map (fun _ => ()) ∧
      visible x.events =
        (summary client console.columns detail package d).result.toOption.toList.map .printed := by
  obtain ⟨x, prepared, quiet, done⟩ := prepare_of_loaded console opened loaded
  have attempted : (x.attempt : Narrated Fault _).result = .ok (.ok (client, d)) := congrArg Except.ok done
  obtain ⟨result, seen⟩ := afterPreparing_ok opened console.columns detail d
  refine ⟨x.attempt >>= afterPreparing console.columns detail package, ?_, ?_, ?_⟩
  · rw [describe_eq, prepared]
    exact Dialogue.silent_bind x.attempt (afterPreparing console.columns detail package)
  · rw [Narrated.result_bind, attempted]
    exact result
  · have silent : visible x.events = [] := visible_of_silent quiet.silent
    rw [Narrated.bind_of_ok attempted, visible_append]
    change visible x.events ++ _ = _
    rw [silent, List.nil_append]
    exact seen

end Command

end OvfInspect
