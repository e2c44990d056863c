import OvfInspect.Proofs.Traversal
import OvfInspect.Session

/-!
# Runs at other times

A log line may show when it was written, the line at which the logging facility issued it, and texts that
stand for the objects of the session. Nothing else of a run depends on these: `run_related` compares two runs
of a line in surroundings that differ in them.
-/

namespace OvfInspect

open CommandLine Log Command

/-! ### Settings -/

namespace Command

variable {world : Storage.World} {options options' : Options}

theorem takeEach_congr {names : List String} (same : ∀ name ∈ names, options.value name = options'.value name)
    (command : Command) : takeEach world options names command = takeEach world options' names command := by
  induction names generalizing command with
  | nil => rfl
  | cons name names ih =>
    obtain ⟨first, rest⟩ := List.forall_mem_cons.1 same
    unfold takeEach
    rw [first]
    simp only [ih rest]

theorem settingNames_own (command : Command) :
    ∀ name ∈ command.settingNames, name ≠ "subparser" ∧ name ≠ "command" := by
  cases command <;> simp [settingNames]

/-- What is logged when a command is configured. -/
def configuring (command : Command) (options : Options) : Entry :=
  .spam ("Configuring " ++ command.name ++ " from " ++ options.shown)

/-- The command that has taken its settings is run, unless one of them was refused. -/
def pursued (world : Storage.World) (console : Console) (taken : Except Fault Unit × Command) : Dialogue Unit := do
  Narrated.ofExcept taken.1
  taken.2.run world console

end Command

/-! ### Entries and what is shown of them -/

/-- The same entry, or those of a command that is configured by one line with other texts for objects. -/
inductive SameEntry (objects objects' : ObjectTexts) : Entry → Entry → Prop
  | refl (entry : Entry) : SameEntry objects objects' entry entry
  | configuring (command : Command) (line : Line) (order : Order) (force : Bool) :
      SameEntry objects objects' (configuring command (Session.optionsOf objects line order force))
        (configuring command (Session.optionsOf objects' line order force))

/-- The same thing, or the line for one entry of the log. -/
inductive SameButContext (around around' : Surroundings) : Shown → Shown → Prop
  | refl (thing : Shown) : SameButContext around around' thing thing
  | logged {entry entry' : Entry} (same : SameEntry around.objects around'.objects entry entry')
      (verbosity : Level) : SameButContext around around'
        (.complaint ((entry.record around.stamp).render verbosity ++ "\n"))
        (.complaint ((entry'.record around'.stamp).render verbosity ++ "\n"))

/-- The turns end alike and leave the same answers, and what the user sees in them is related one by one. -/
structure Turn.Related {α : Type} (related : Shown → Shown → Prop) (turn other : Turn α) : Prop where
  shown : List.Forall₂ related turn.shown other.shown
  ending : turn.ending = other.ending
  answers : turn.answers = other.answers

variable {objects objects' : ObjectTexts} {entry entry' : Entry}

theorem SameEntry.level_eq (same : SameEntry objects objects' entry entry') : entry.level = entry'.level := by
  cases same <;> rfl

/-- Messages that show objects are of the lowest level. -/
theorem SameEntry.eq_of_urgent (same : SameEntry objects objects' entry entry') (urgent : ¬ entry.level ≤ .debug) :
    entry = entry' := by
  cases same with
  | refl => rfl
  | configuring =>
    have quiet : Level.spam ≤ Level.debug := by decide
    exact absurd quiet urgent

theorem render_congr {verbosity : Level} (terse : ¬ verbosity ≤ .debug) (stamp stamp' : Stamp) (entry : Entry) :
    (entry.record stamp).render verbosity = (entry.record stamp').render verbosity := by
  have origin : (entry.source.origin stamp).unit = (entry.source.origin stamp').unit ∧
      (entry.source.origin stamp).function = (entry.source.origin stamp').function := by
    cases entry.source <;> exact ⟨rfl, rfl⟩
  unfold Record.render context Entry.record
  simp only [if_neg terse, origin]

namespace Session

variable {around around' : Surroundings}

theorem shownOf_logged (session : Session) (stamp : Stamp) (entry : Entry) :
    session.shownOf stamp (.logged entry) =
      if session.logger.effective ≤ entry.level then
        (session.logger.handlers.filter fun handler => handler.threshold ≤ entry.level).map fun handler =>
          .complaint ((entry.record stamp).render handler.verbosity ++ "\n")
      else [] := by
  unfold shownOf Logger.lines
  dsimp only
  split
  · exact List.map_map
  · rfl

theorem shownOf_sameButContext (session : Session)
    (same : SameEntry around.objects around'.objects entry entry') :
    List.Forall₂ (SameButContext around around') (session.shownOf around.stamp (.logged entry))
      (session.shownOf around'.stamp (.logged entry')) := by
  rw [shownOf_logged, shownOf_logged, same.level_eq]
  split
  · rw [List.forall₂_map_left_iff, List.forall₂_map_right_iff, List.forall₂_same]
    exact fun handler _ => .logged same handler.verbosity
  · exact .nil

/-- The session shows less than for debugging, and so does every handler beside its own. -/
structure Terse (session : Session) : Prop where
  effective : ¬ session.logger.effective ≤ .debug
  handlers : ∀ handler ∈ session.logger.handlers, ¬ handler.verbosity ≤ .debug

theorem Terse.shownOf_eq {session : Session} (terse : Terse session)
    (same : SameEntry around.objects around'.objects entry entry') :
    session.shownOf around.stamp (.logged entry) = session.shownOf around'.stamp (.logged entry') := by
  rw [shownOf_logged, shownOf_logged, same.level_eq]
  split
  · next urgent =>
    have above : ¬ entry.level ≤ .debug := by
      rw [same.level_eq]
      exact fun quiet => terse.effective (Int.le_trans urgent quiet)
    obtain rfl := same.eq_of_urgent above
    apply List.map_congr_left
    intro handler member
    rw [render_congr (terse.handlers handler (List.mem_of_mem_filter member))]
  · rfl

/-! ### Runs -/

variable {session : Session} {related : Shown → Shown → Prop}

/-- What the session shows in both surroundings is related, one by one. -/
structure Relates (related : Shown → Shown → Prop) (around around' : Surroundings) (session : Session) : Prop where
  refl : ∀ thing, related thing thing
  logged : ∀ entry entry', SameEntry around.objects around'.objects entry entry' →
    List.Forall₂ related (session.shownOf around.stamp (.logged entry))
      (session.shownOf around'.stamp (.logged entry'))

theorem relates_sameButContext (around around' : Surroundings) (session : Session) :
    Relates (SameButContext around around') around around' session :=
  ⟨.refl, fun _ _ => shownOf_sameButContext session⟩

theorem Terse.relates (terse : Terse session) (around around' : Surroundings) :
    Relates Eq around around' session :=
  ⟨fun _ => rfl, fun _ _ same => terse.shownOf_eq same ▸ forall₂_self (fun _ => rfl) _⟩

theorem Relates.same (relates : Relates related around around' session) (things : List Shown) :
    List.Forall₂ related things things :=
  forall₂_self relates.refl things

theorem Relates.shownAll (relates : Relates related around around' session) (events : List Event) :
    List.Forall₂ related (session.shownAll around.stamp events) (session.shownAll around'.stamp events) := by
  induction events with
  | nil => exact .nil
  | cons event events ih =>
    refine List.rel_append ?_ ih
    cases event with
    | logged entry => exact relates.logged entry entry (.refl entry)
    | _ => exact relates.same _

theorem value_optionsOf (objects objects' : ObjectTexts) (line : Line) (order : Order) (force : Bool)
    {name : String} (other : name ≠ "subparser" ∧ name ≠ "command") :
    (optionsOf objects line order force).value name = (optionsOf objects' line order force).value name := by
  have absent (objects : ObjectTexts) : List.lookup name
      [("subparser", Value.object (objects.reader order.verb)),
        ("command", .object (objects.command order.verb))] = none := by
    rw [List.lookup_cons, List.lookup_cons, beq_false_of_ne other.1, beq_false_of_ne other.2]
    rfl
  unfold Options.value optionsOf
  simp only [List.lookup_append, absent]

/-- A command that is configured and run, with the entry it logs first apart from the rest. -/
theorem perform_eq (session : Session) (around : Surroundings) (line : Line) (order : Order)
    (answers : List Answer) :
    session.perform around line order answers =
      let command := session.command order.verb
      let options := optionsOf around.objects line order session.force
      let taken := command.take around.world options
      let told := (pursued around.world session.console taken).run answers
      { session := session.keep taken.2 order.verb
        shown := session.shownAll around.stamp (.logged (command.configuring options) :: told.1.events) ++
          (endingOf order.verb told.1.result).1
        ending := (endingOf order.verb told.1.result).2
        answers := told.2 } := by
  unfold perform configure pursued
  dsimp only
  generalize (session.command order.verb).take around.world _ = taken
  obtain ⟨outcome, command⟩ := taken
  cases outcome <;> rfl

theorem perform_related (relates : Relates related around around' session)
    (sameWorld : around.world = around'.world) (line : Line) (order : Order) (answers : List Answer) :
    (session.perform around line order answers).Related related (session.perform around' line order answers) := by
  have taken : (session.command order.verb).take around.world
        (optionsOf around.objects line order session.force) =
      (session.command order.verb).take around.world (optionsOf around'.objects line order session.force) :=
    takeEach_congr (fun name member => value_optionsOf _ _ line order _ (settingNames_own _ name member)) _
  rw [perform_eq, perform_eq]
  dsimp only
  rw [← sameWorld, ← taken]
  refine ⟨List.rel_append (List.rel_append ?_ (relates.shownAll _)) (relates.same _), rfl, rfl⟩
  exact relates.logged _ _ (.configuring _ line order session.force)

theorem runLine_related {line : Line}
    (relates : Relates related around around'
      (setVerbosity (Level.adjusted line.loudness) { session with force := forced around line }))
    (sameWorld : around.world = around'.world) (sameTerminal : around.interactive = around'.interactive)
    (answers : List Answer) :
    (session.runLine around line answers).Related related (session.runLine around' line answers) := by
  have sameForce : forced around line = forced around' line := by
    rw [forced, forced, sameTerminal]
  have announced := relates.logged _ _ (.refl (verbosityEntry (Level.adjusted line.loudness)))
  unfold runLine
  rw [← sameForce]
  cases line.order with
  | none => exact ⟨List.rel_append announced (relates.same _), rfl, rfl⟩
  | some order =>
    obtain ⟨shown, ending, left⟩ := perform_related relates sameWorld line order answers
    exact ⟨List.rel_append announced shown, ending, left⟩

/-- A session with less than debugging, beside handlers of that kind, is terse while a line is run. -/
theorem terse_setVerbosity {level : Level} (quiet : ¬ level ≤ .debug)
    (handlers : ∀ handler ∈ session.logger.handlers, ¬ handler.verbosity ≤ .debug) :
    Terse (session.setVerbosity level) := by
  constructor
  · have effective : (session.setVerbosity level).logger.effective = level := by
      refine if_neg fun (unset : level = ⟨0⟩) => quiet ?_
      rw [unset]
      decide
    rwa [effective]
  · intro handler member
    unfold setVerbosity at member
    dsimp only at member
    split at member
    · obtain ⟨other, isOther, rfl⟩ := List.mem_map.1 member
      split
      · exact quiet
      · exact handlers other isOther
    · rcases List.mem_append.1 member with isOther | isOwn
      · exact handlers handler isOther
      · obtain rfl := List.mem_singleton.1 isOwn
        exact quiet

/-- In surroundings that differ in the context of messages only, a run ends alike and shows the same but for
that context. Where less is shown than for debugging, there is no difference at all. -/
theorem run_related (session : Session) (sameWorld : around.world = around'.world)
    (sameTerminal : around.interactive = around'.interactive) (words : List String) (answers : List Answer) :
    (session.run around words answers).Related (SameButContext around around')
        (session.run around' words answers) ∧
    ((∀ line, Line.read words = .ok line → ¬ Level.adjusted line.loudness ≤ .debug) →
      (∀ handler ∈ session.logger.handlers, ¬ handler.verbosity ≤ .debug) →
      (session.run around words answers).Related Eq (session.run around' words answers)) := by
  unfold run
  cases Line.read words with
  | error stop =>
    exact ⟨⟨(relates_sameButContext around around' session).same _, rfl, rfl⟩,
      fun _ _ => ⟨forall₂_self (fun _ => rfl) _, rfl, rfl⟩⟩
  | ok line =>
    refine ⟨runLine_related (relates_sameButContext around around' _) sameWorld sameTerminal answers, ?_⟩
    intro quiet handlers
    have terse : Terse (setVerbosity (Level.adjusted line.loudness)
        { session with force := forced around line }) := terse_setVerbosity (quiet line rfl) handlers
    exact runLine_related (terse.relates around around') sameWorld sameTerminal answers

end Session

end OvfInspect
