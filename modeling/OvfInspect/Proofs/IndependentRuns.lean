import OvfInspect.Proofs.History
import OvfInspect.Proofs.Surroundings

/-!
# Runs and what was run before them

A run sets anew all that it reads of its session, so nothing of an earlier run is left in it.
`runs_independent` compares a session after any history with one that has just begun: the user sees the
same of the next run, and it ends in the same way. Times and texts of objects, which some messages show, are
what the surroundings of the two runs may differ in.
-/

namespace OvfInspect

open CommandLine Log Command
open Storage (World)

/-! ### Settings given anew -/

namespace Command

variable {command other : Command} {world : World} {options : Options}

/-- The same command before any setting. -/
def blank : Command → Command
  | plain => plain
  | reader _ => reader none
  | disks _ => disks none
  | info _ _ => info .absent .standard

theorem name_of_blank (same : command.blank = other.blank) : command.name = other.name := by
  have named (command : Command) : command.blank.name = command.name := by
    cases command <;> rfl
  rw [← named command, ← named other, same]

/-- The outcome and the command, if they do not depend on what the command held before. -/
structure TakesAs (taken expected : Except Fault Unit × Command) : Prop where
  outcome : taken.1 = expected.1
  settings : taken.1 = .ok () → taken.2 = expected.2

theorem TakesAs.refl (taken : Except Fault Unit × Command) : TakesAs taken taken :=
  ⟨rfl, fun _ => rfl⟩

theorem TakesAs.of_error (fault : Fault) (command other : Command) :
    TakesAs (.error fault, command) (.error fault, other) :=
  ⟨rfl, nofun⟩

variable {name : String} {names : List String}

theorem takeEach_cons (gives : ∀ value,
    (∃ fault, command.give world name value = .error fault ∧ other.give world name value = .error fault) ∨
      ∃ changed changed', command.give world name value = .ok changed ∧
        other.give world name value = .ok changed' ∧
        TakesAs (takeEach world options names changed) (takeEach world options names changed')) :
    TakesAs (takeEach world options (name :: names) command) (takeEach world options (name :: names) other) := by
  unfold takeEach
  cases options.value name with
  | error fault => exact .of_error fault command other
  | ok value =>
    simp only [bind, Except.bind]
    rcases gives value with ⟨fault, given, given'⟩ | ⟨changed, changed', given, given', rest⟩
    · rw [given, given']
      exact .of_error fault command other
    · rw [given, given']
      exact rest

theorem takeEach_last
    (gives : ∀ value, command.give world name value = other.give world name value) :
    TakesAs (takeEach world options [name] command) (takeEach world options [name] other) := by
  apply takeEach_cons
  intro value
  rw [gives]
  cases other.give world name value with
  | error fault => exact .inl ⟨fault, rfl, rfl⟩
  | ok changed => exact .inr ⟨changed, changed, rfl, rfl, .refl _⟩

theorem take_blank (world : World) (options : Options) (command : Command) :
    TakesAs (command.take world options) (command.blank.take world options) := by
  cases command with
  | plain => exact .refl _
  | reader held => exact takeEach_last fun value => by simp [give, blank]
  | disks held => exact takeEach_last fun value => by simp [give, blank]
  | info held detail =>
    -- After the packages the commands still differ in the detail, which is taken next.
    apply takeEach_cons
    intro value
    unfold blank give
    cases acceptPackages world value with
    | error fault => exact .inl ⟨fault, by simp [bind, Except.bind]⟩
    | ok packages =>
      refine .inr ⟨info packages detail, info packages .standard, rfl, rfl, ?_⟩
      exact takeEach_last fun value => by simp [give]

theorem take_alike (same : command.blank = other.blank) (world : World) (options : Options) :
    TakesAs (command.take world options) (other.take world options) := by
  have taken := take_blank world options command
  have taken' := take_blank world options other
  rw [same] at taken
  refine ⟨taken.outcome.trans taken'.outcome.symm, fun done => ?_⟩
  have done' : (other.take world options).1 = .ok () := by
    rw [taken'.outcome, ← taken.outcome, done]
  exact (taken.settings done).trans (taken'.settings done').symm

theorem given_of_ok {α : Type} {x : Except Fault α} {f : α → Command} {changed : Command}
    (given : (do return f (← x)) = .ok changed) : ∃ a, changed = f a := by
  cases x with
  | error fault => cases given
  | ok a => exact ⟨a, (Except.ok.inj given).symm⟩

theorem blank_of_give {value : Value} {changed : Command} (given : command.give world name value = .ok changed) :
    changed.blank = command.blank := by
  have unchanged {held : Command} (given : pure held = Except.ok (ε := Fault) changed) : changed = held :=
    (Except.ok.inj given).symm
  unfold give at given
  cases command with
  | plain => rw [unchanged given]
  | reader held =>
    dsimp only at given
    split at given
    · obtain ⟨_, rfl⟩ := given_of_ok given
      rfl
    · rw [unchanged given]
  | disks held =>
    dsimp only at given
    split at given
    · obtain ⟨_, rfl⟩ := given_of_ok given
      rfl
    · rw [unchanged given]
  | info held detail =>
    dsimp only at given
    split at given
    · obtain ⟨_, rfl⟩ := given_of_ok given
      rfl
    · split at given
      · obtain ⟨_, rfl⟩ := given_of_ok given
        rfl
      · rw [unchanged given]

theorem blank_takeEach (world : World) (options : Options) (names : List String) (command : Command) :
    (takeEach world options names command).2.blank = command.blank := by
  induction names generalizing command with
  | nil => rfl
  | cons name names ih =>
    unfold takeEach
    cases options.value name with
    | error fault => rfl
    | ok value =>
      simp only [bind, Except.bind]
      cases given : command.give world name value with
      | error fault => rfl
      | ok changed => exact (ih changed).trans (blank_of_give given)

def started (world : World) (options : Options) (console : Console) (command : Command) : Dialogue Unit := do
  let (configured, ready) := command.configure world options
  configured
  ready.run world console

/-- A command that is configured and run does the same, whatever it held before. -/
theorem started_alike (same : command.blank = other.blank) (world : World) (options : Options)
    (console : Console) : command.started world options console = other.started world options console := by
  have taken := take_alike same world options
  unfold started configure
  rw [name_of_blank same]
  generalize command.take world options = result at taken
  generalize other.take world options = result' at taken
  obtain ⟨outcome, configured⟩ := result
  obtain ⟨outcome', configured'⟩ := result'
  obtain ⟨rfl, settings⟩ := taken
  cases outcome with
  | ok _ =>
    obtain rfl : configured = configured' := settings rfl
    rfl
  | error fault => rfl

end Command

/-! ### Turns that look alike -/

/-- The user sees the same, the ends are the same, and so are the answers that are left. -/
structure Turn.Alike {α : Type} (turn other : Turn α) : Prop where
  shown : turn.shown = other.shown
  ending : turn.ending = other.ending
  answers : turn.answers = other.answers

theorem Turn.Alike.trans {α : Type} {turn other third : Turn α} (alike : turn.Alike other)
    (further : other.Alike third) : turn.Alike third :=
  ⟨alike.shown.trans further.shown, alike.ending.trans further.ending, alike.answers.trans further.answers⟩

theorem Turn.Alike.related {α : Type} {R : Shown → Shown → Prop} {turn other third : Turn α}
    (alike : turn.Alike other) (related : other.Related R third) : turn.Related R third :=
  ⟨alike.shown ▸ related.shown, alike.ending.trans related.ending, alike.answers.trans related.answers⟩

theorem Turn.Related.alike {α : Type} {turn other : Turn α} (related : turn.Related Eq other) :
    turn.Alike other :=
  ⟨List.forall₂_eq_eq_eq ▸ related.shown, related.ending, related.answers⟩

namespace Session

/-- The width is the same, and so are the commands, whatever they hold. -/
structure Serves (session other : Session) : Prop where
  columns : session.columns = other.columns
  blank : ∀ verb, (session.command verb).blank = (other.command verb).blank

/-- Sessions that a command cannot tell apart. -/
structure Alike (session other : Session) : Prop where
  serves : Serves session other
  force : session.force = other.force
  lines : ∀ stamp entry, session.logger.lines stamp entry = other.logger.lines stamp entry

variable {session other : Session} {around : Surroundings} {line : Line} {order : Order}
  {answers : List Answer}

theorem Alike.shownOf (alike : Alike session other) (stamp : Log.Stamp) :
    session.shownOf stamp = other.shownOf stamp := by
  funext event
  cases event with
  | logged entry => rw [Session.shownOf, Session.shownOf, alike.lines]
  | _ => rfl

theorem Alike.shownAll (alike : Alike session other) (stamp : Log.Stamp) (events : List Event) :
    session.shownAll stamp events = other.shownAll stamp events := by
  rw [Session.shownAll, Session.shownAll, alike.shownOf]

theorem Alike.console (alike : Alike session other) : session.console = other.console := by
  rw [Session.console, Session.console, alike.serves.columns, alike.force]

theorem perform_alike (alike : Alike session other) (around : Surroundings) (line : Line) (order : Order)
    (answers : List Answer) :
    (session.perform around line order answers).Alike (other.perform around line order answers) := by
  have same := started_alike (alike.serves.blank order.verb) around.world
    (optionsOf around.objects line order other.force) other.console
  unfold started at same
  dsimp only at same
  unfold perform
  dsimp only
  rw [alike.force, alike.console, same]
  exact ⟨by rw [alike.shownAll], rfl, rfl⟩

/-! ### What acts keep -/

theorem Serves.refl (session : Session) : Serves session session :=
  ⟨rfl, fun _ => rfl⟩

theorem Serves.trans {third : Session} (serves : Serves session other) (further : Serves other third) :
    Serves session third :=
  ⟨serves.columns.trans further.columns, fun verb => (serves.blank verb).trans (further.blank verb)⟩

theorem Serves.symm (serves : Serves session other) : Serves other session :=
  ⟨serves.columns.symm, fun verb => (serves.blank verb).symm⟩

theorem force_serves (agrees : Bool) (session : Session) : Serves { session with force := agrees } session :=
  ⟨rfl, fun verb => by cases verb <;> rfl⟩

theorem setVerbosity_serves (level : Level) (session : Session) : Serves (session.setVerbosity level) session :=
  ⟨rfl, fun verb => by cases verb <;> rfl⟩

theorem resetLogging_serves (session : Session) : Serves session.resetLogging session := by
  unfold resetLogging
  split
  · exact ⟨rfl, fun verb => by cases verb <;> rfl⟩
  · exact .refl session

theorem perform_serves (session : Session) (around : Surroundings) (line : Line) (order : Order)
    (answers : List Answer) : Serves (session.perform around line order answers).session session := by
  have blank := blank_takeEach around.world (optionsOf around.objects line order session.force)
    (session.command order.verb).settingNames (session.command order.verb)
  refine ⟨(perform_frame session around line order answers).2.1, fun verb => ?_⟩
  unfold perform keep configure take
  dsimp only
  cases isVerb : order.verb with
  | disks =>
    rw [isVerb] at blank
    cases verb with
    | disks => exact blank
    | info => rfl
  | info =>
    rw [isVerb] at blank
    cases verb with
    | disks => rfl
    | info => exact blank

theorem runLine_serves (session : Session) (around : Surroundings) (line : Line) (answers : List Answer) :
    Serves (session.runLine around line answers).session session := by
  have ready : Serves ({ session with force := forced around line }.setVerbosity
      (Level.adjusted line.loudness)) session :=
    (setVerbosity_serves _ _).trans (force_serves _ session)
  unfold runLine
  apply (resetLogging_serves _).trans
  cases line.order with
  | none => exact ready
  | some order => exact (perform_serves _ around line order answers).trans ready

theorem apply_serves (session : Session) (act : Act) : Serves (act.apply session) session := by
  cases act with
  | run around words answers =>
    rw [Act.apply, run]
    cases Line.read words with
    | ok line => exact runLine_serves session around line answers
    | error stop => exact .refl session
  | read words answers =>
    rw [Act.apply, read]
    cases Line.read words <;> exact .refl session
  | adjust delta => exact setVerbosity_serves (Level.adjusted delta) session
  | verbosity level => exact setVerbosity_serves level session
  | reset => exact resetLogging_serves session
  | confirm => exact .refl session
  | force agrees => exact force_serves agrees session

theorem after_serves (session : Session) (acts : List Act) : Serves (session.after acts) session := by
  induction acts using List.reverseRecOn with
  | nil => exact .refl session
  | append_singleton acts act ih =>
    rw [after_append_singleton]
    exact (apply_serves _ act).trans ih

/-! ### Runs -/

variable {owner owner' : Nat} {others : List Handler} {set set' : Option Level}

theorem lines_setVerbosity (attends : Attends owner others set session) (level : Level) (stamp : Log.Stamp)
    (entry : Entry) : (session.setVerbosity level).logger.lines stamp entry =
      (Logger.mk level (others ++ [⟨0, level, level⟩])).lines stamp entry := by
  have handlers := (setVerbosity_attends attends level).handlers
  change _ = others ++ [⟨session.owner, level, level⟩] at handlers
  have isLevel : (session.setVerbosity level).logger.level = level := rfl
  unfold Logger.lines Logger.effective
  rw [handlers, isLevel]
  by_cases urgent : level ≤ entry.level <;> simp [urgent]

theorem setVerbosity_alike (serves : Serves session other) (sameForce : session.force = other.force)
    (attends : Attends owner others set session) (attends' : Attends owner' others set' other) (level : Level) :
    Alike (session.setVerbosity level) (other.setVerbosity level) := by
  refine ⟨?_, sameForce, fun stamp entry => ?_⟩
  · exact ((setVerbosity_serves level session).trans serves).trans (setVerbosity_serves level other).symm
  · rw [lines_setVerbosity attends, lines_setVerbosity attends']

theorem stopped_alike {α : Type} (sameColumns : session.columns = other.columns) (stop : Stop)
    (answers : List Answer) :
    (session.stopped stop answers : Turn α).Alike (other.stopped stop answers) := by
  refine ⟨?_, rfl, rfl⟩
  rw [stopped, stopped, sameColumns]

theorem runLine_alike (serves : Serves session other) (attends : Attends owner others set session)
    (attends' : Attends owner' others set' other) (around : Surroundings) (line : Line)
    (answers : List Answer) :
    (session.runLine around line answers).Alike (other.runLine around line answers) := by
  have agreed : Serves { session with force := forced around line } { other with force := forced around line } :=
    ((force_serves _ session).trans serves).trans (force_serves _ other).symm
  have ready := setVerbosity_alike agreed rfl (force_attends attends _) (force_attends attends' _)
    (Level.adjusted line.loudness)
  have announced := congrFun (ready.shownOf around.stamp)
    (.logged (verbosityEntry (Level.adjusted line.loudness)))
  unfold runLine
  cases line.order with
  | none =>
    have stopped := stopped_alike (α := Nat) ready.serves.columns (.misuse .program .noCommand) answers
    exact ⟨congrArg₂ (· ++ ·) announced stopped.shown, stopped.ending, stopped.answers⟩
  | some order =>
    have performed := perform_alike ready around line order answers
    exact ⟨congrArg₂ (· ++ ·) announced performed.shown, performed.ending, performed.answers⟩

theorem run_alike (serves : Serves session other) (attends : Attends owner others set session)
    (attends' : Attends owner' others set' other) (around : Surroundings) (words : List String)
    (answers : List Answer) :
    (session.run around words answers).Alike (other.run around words answers) := by
  unfold run
  cases Line.read words with
  | ok line => exact runLine_alike serves attends attends' around line answers
  | error stop => exact stopped_alike serves.columns stop answers

variable {columns : Int} {logger logger' : Logger} {fresh fresh' : Session}

theorem start_serves (started : start owner columns logger = .ok fresh)
    (started' : start owner' columns logger' = .ok fresh') : Serves fresh fresh' := by
  unfold start at started started'
  split at started
  · cases started
  · next wide =>
    rw [if_neg wide] at started'
    obtain rfl := Except.ok.inj started
    obtain rfl := Except.ok.inj started'
    exact ⟨rfl, fun verb => by cases verb <;> rfl⟩

theorem logger_of_start (started : start owner columns logger = .ok fresh) : fresh.logger = logger := by
  unfold start at started
  split at started
  · cases started
  · obtain rfl := Except.ok.inj started
    rfl

/-- After whatever it was asked to do, a session runs a line as a new session does: the user sees the same,
the run ends in the same way, and the same answers are left. If the new session runs at another time, or has
its objects at other places, then log lines may show that, and they do not where less is shown than for
debugging. -/
theorem runs_independent (started : start owner columns logger = .ok fresh)
    (started' : start owner' columns logger' = .ok fresh') (sameOthers : logger'.handlers = logger.handlers)
    (foreign : ∀ handler ∈ logger.handlers, handler.owner ≠ owner ∧ handler.owner ≠ owner')
    (acts : List Act) (around : Surroundings) (words : List String) (answers : List Answer) :
    let turn := (fresh.after acts).run around words answers
    turn.Alike (fresh'.run around words answers) ∧
    ∀ around' : Surroundings, around.world = around'.world → around.interactive = around'.interactive →
      turn.Related (SameButContext around around') (fresh'.run around' words answers) ∧
      ((∀ line, Line.read words = .ok line → ¬ Level.adjusted line.loudness ≤ .debug) →
        (∀ handler ∈ logger.handlers, ¬ handler.verbosity ≤ .debug) →
        turn.Alike (fresh'.run around' words answers)) := by
  have attends := after_attends started (fun handler member => (foreign handler member).1) acts
  have attends' := start_attends started' fun handler member => (foreign handler (sameOthers ▸ member)).2
  have sameHandlers : fresh'.logger.handlers = logger.handlers := by
    rw [logger_of_start started', sameOthers]
  rw [sameOthers] at attends'
  have serves := (after_serves fresh acts).trans (start_serves started started')
  have alike := run_alike serves attends attends' around words answers
  refine ⟨alike, fun around' sameWorld sameTerminal => ?_⟩
  obtain ⟨related, equal⟩ := run_related fresh' sameWorld sameTerminal words answers
  refine ⟨alike.related related, fun quiet handlers => ?_⟩
  exact alike.trans (equal quiet fun handler member => handlers handler (sameHandlers ▸ member)).alike

/-- A summary and a change of verbosity leave nothing behind, beside the handler of another owner. So it is also
at another time. -/
theorem runs_independent_summary :
    let logger : Logger := ⟨⟨0⟩, [⟨7, .warning, .warning⟩]⟩
    let fresh : Session := { owner := 1, columns := 80, logger }
    let around : Surroundings := ⟨⟨⟨[], []⟩, [], 900⟩, true, ⟨"12:00:00.000", default⟩, default⟩
    let later : Surroundings := { around with stamp := ⟨"12:00:01.000", default⟩ }
    let acts : List Act := [.run around ["-vvf", "info", "-v", "http://host/p.ovf"] [], .verbosity .debug]
    start 1 80 logger = .ok fresh ∧ start 2 80 logger = .ok { fresh with owner := 2 } ∧
    ((fresh.after acts).run around ["disks", "/p.ovf"] [.interrupt]).Alike
      (({ fresh with owner := 2 } : Session).run around ["disks", "/p.ovf"] [.interrupt]) ∧
    ((fresh.after acts).run around ["disks", "/p.ovf"] [.interrupt]).Alike
      (({ fresh with owner := 2 } : Session).run later ["disks", "/p.ovf"] [.interrupt]) := by
  intro logger fresh around later acts
  have started : start 1 80 logger = .ok fresh := rfl
  have started' : start 2 80 logger = .ok { fresh with owner := 2 } := rfl
  have foreign : ∀ handler ∈ logger.handlers, handler.owner ≠ 1 ∧ handler.owner ≠ 2 := by decide
  obtain ⟨alike, others⟩ := runs_independent started started' rfl foreign acts around ["disks", "/p.ovf"]
    [.interrupt]
  have handlers : ∀ handler ∈ logger.handlers, ¬ handler.verbosity ≤ .debug := by decide
  have quiet : ∀ line, Line.read ["disks", "/p.ovf"] = .ok line → ¬ Level.adjusted line.loudness ≤ .debug := by
    intro line isRead
    have plain : (Line.read ["disks", "/p.ovf"]).toOption.all
        (fun line => decide ¬ Level.adjusted line.loudness ≤ .debug) = true := by decide +kernel
    rw [isRead] at plain
    exact of_decide_eq_true plain
  exact ⟨started, started', alike, (others later rfl rfl).2 quiet handlers⟩

end Session

end OvfInspect
