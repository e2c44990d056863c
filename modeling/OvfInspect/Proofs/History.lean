import Mathlib.Data.List.Induction
import OvfInspect.Proofs.Traversal
import OvfInspect.Proofs.Verbosity
import OvfInspect.Session

/-!
# The log of a session and its history

A session is asked to do one thing after the other. Whatever that is and however it ends, the logger has at
most one handler of the session, and this one shows what was asked for last. `log_follows_history` says so,
and what level is asked for.
-/

namespace OvfInspect

open CommandLine Log

/-- What a session can be asked to do. -/
inductive Act where
  | run (around : Surroundings) (words : List String) (answers : List Answer)
  | read (words : List String) (answers : List Answer)
  | adjust (delta : Int)
  | verbosity (level : Level)
  | reset
  | confirm (around : Surroundings) (prompt : String) (answers : List Answer)
  | force (agrees : Bool)

namespace Act

/-- The session after the act, however the act ends. -/
def apply (session : Session) : Act → Session
  | run around words answers => (session.run around words answers).session
  | read words answers => (session.read words answers).session
  | adjust delta => session.adjustVerbosity delta
  | verbosity level => session.setVerbosity level
  | reset => session.resetLogging
  | confirm around prompt answers => (session.confirm around prompt answers).session
  | force agrees => { session with force := agrees }

/-- The level that the act sets. A run sets one as soon as its line is read. -/
def level? : Act → Option Level
  | run _ words _ => match Line.read words with
    | .ok line => some (Level.adjusted line.loudness)
    | .error _ => none
  | adjust delta => some (Level.adjusted delta)
  | verbosity level => some level
  | _ => none

end Act

def lastLevel (acts : List Act) : Option Level :=
  (acts.filterMap Act.level?).getLast?

namespace Session

def after (session : Session) (acts : List Act) : Session :=
  acts.foldl Act.apply session

theorem after_append_singleton (session : Session) (acts : List Act) (act : Act) :
    session.after (acts ++ [act]) = act.apply (session.after acts) := by
  simp [after]

theorem lastLevel_append_singleton (acts : List Act) (act : Act) :
    lastLevel (acts ++ [act]) = act.level?.or (lastLevel acts) := by
  unfold lastLevel
  rw [List.filterMap_append, List.getLast?_append]
  cases level : act.level? <;> simp [level]

/-- The logger has at most one handler of the session. The session knows of a handler just when that is
attached, and the handler and the logger then have the level that was set last. -/
structure Consistent (set : Option Level) (session : Session) : Prop where
  atMostOne : (session.logger.handlers.filter fun handler => handler.owner = session.owner).length ≤ 1
  attached : ∀ handler, session.handler = some handler ↔
    handler ∈ session.logger.handlers ∧ handler.owner = session.owner
  level : ∀ handler, session.handler = some handler → ∃ level, set = some level ∧
    handler.threshold = level ∧ handler.verbosity = level ∧ session.logger.level = level

/-- The session has no handler, and none of the logger is its own. -/
def Detached (session : Session) : Prop :=
  session.handler = none ∧ ∀ handler ∈ session.logger.handlers, handler.owner ≠ session.owner

/-- The session has its handler behind those of others, with the level that was set. -/
structure Attends (owner : Nat) (others : List Handler) (set : Option Level) (session : Session) : Prop where
  handlers : session.logger.handlers = others ++ session.handler.toList
  sameOwner : session.owner = owner
  foreign : ∀ handler ∈ others, handler.owner ≠ owner
  level : ∀ handler, session.handler = some handler → ∃ level, set = some level ∧
    handler = ⟨owner, level, level⟩ ∧ session.logger.level = level

variable {session : Session} {owner : Nat} {others : List Handler} {set : Option Level} {level : Level}
  {around : Surroundings} {line : Line} {answers : List Answer} {order : Order}

theorem Attends.own {handler : Handler} (attends : Attends owner others set session)
    (isHandler : session.handler = some handler) : handler.owner = owner := by
  obtain ⟨level, -, rfl, -⟩ := attends.level handler isHandler
  rfl

/-! ### What acts do to the log -/

theorem setVerbosity_attends (attends : Attends owner others set session) (level : Level) :
    Attends owner others (some level) (session.setVerbosity level) := by
  refine ⟨?_, attends.sameOwner, attends.foreign, ?_⟩
  · unfold setVerbosity
    dsimp only
    cases isHandler : session.handler with
    | none =>
      have before : session.logger.handlers = others := by
        rw [attends.handlers, isHandler, Option.toList_none, List.append_nil]
      simp [Logger.attach, before]
    | some handler =>
      have before : session.logger.handlers = others ++ [handler] := by
        rw [attends.handlers, isHandler, Option.toList_some]
      have kept : others.map (fun other => if other.owner = owner then
          (⟨owner, level, level⟩ : Handler) else other) = others := by
        rw [List.map_congr_left fun other member => if_neg (attends.foreign other member),
          List.map_id']
      simp [Logger.exchange, before, attends.sameOwner, attends.own isHandler, kept]
  · intro handler isHandler
    obtain rfl := Option.some.inj isHandler
    exact ⟨level, rfl, by rw [attends.sameOwner], rfl⟩

theorem resetLogging_attends (attends : Attends owner others set session) :
    Attends owner others set session.resetLogging ∧ session.resetLogging.handler = none := by
  unfold resetLogging
  cases isHandler : session.handler with
  | none => exact ⟨attends, isHandler⟩
  | some handler =>
    rw [if_pos Option.isSome_some]
    refine ⟨⟨?_, attends.sameOwner, attends.foreign, nofun⟩, rfl⟩
    have kept : others.filter (fun other => decide (other.owner ≠ owner)) = others :=
      List.filter_eq_self.2 fun other member => decide_eq_true (attends.foreign other member)
    simp [Logger.detach, attends.handlers, isHandler, attends.sameOwner, attends.own isHandler] at kept ⊢
    exact kept

theorem force_attends (attends : Attends owner others set session) (agrees : Bool) :
    Attends owner others set { session with force := agrees } :=
  ⟨attends.handlers, attends.sameOwner, attends.foreign, attends.level⟩

/-- A command of the session may change its settings, and nothing else of the session. -/
theorem perform_frame (session : Session) (around : Surroundings) (line : Line) (order : Order)
    (answers : List Answer) :
    let after := (session.perform around line order answers).session
    after.owner = session.owner ∧ after.columns = session.columns ∧ after.handler = session.handler ∧
      after.logger = session.logger := by
  unfold perform keep
  dsimp only
  cases order.verb <;> exact ⟨rfl, rfl, rfl, rfl⟩

theorem runLine_attends (attends : Attends owner others set session) (around : Surroundings) (line : Line)
    (answers : List Answer) :
    Attends owner others (some (Level.adjusted line.loudness)) (session.runLine around line answers).session ∧
      (session.runLine around line answers).session.handler = none := by
  have ready := setVerbosity_attends (force_attends attends (forced around line)) (Level.adjusted line.loudness)
  unfold runLine
  dsimp only
  cases line.order with
  | none => exact resetLogging_attends ready
  | some order =>
    apply resetLogging_attends
    obtain ⟨sameOwner, -, sameHandler, sameLogger⟩ := perform_frame _ around line order answers
    exact ⟨by rw [sameHandler, sameLogger, ready.handlers], sameOwner.trans ready.sameOwner, ready.foreign,
      by rw [sameHandler, sameLogger]; exact ready.level⟩

theorem run_of_ok {words : List String} (isRead : Line.read words = .ok line) (around : Surroundings)
    (answers : List Answer) (session : Session) :
    session.run around words answers = session.runLine around line answers := by
  rw [run, isRead]

theorem apply_attends (attends : Attends owner others set session) (act : Act) :
    Attends owner others (act.level?.or set) (act.apply session) := by
  cases act with
  | run around words answers =>
    cases isRead : Line.read words with
    | ok line =>
      rw [Act.apply, run_of_ok isRead, Act.level?, isRead]
      exact (runLine_attends attends around line answers).1
    | error stop =>
      rw [Act.apply, run, Act.level?, isRead]
      exact attends
  | read words answers =>
    rw [Act.apply, read]
    cases Line.read words <;> exact attends
  | adjust delta => exact setVerbosity_attends attends (Level.adjusted delta)
  | verbosity level => exact setVerbosity_attends attends level
  | reset => exact (resetLogging_attends attends).1
  | confirm => exact attends
  | force agrees => exact force_attends attends agrees

/-! ### Histories -/

variable {columns : Int} {logger : Logger} {fresh : Session}

theorem start_attends (started : start owner columns logger = .ok fresh)
    (foreign : ∀ handler ∈ logger.handlers, handler.owner ≠ owner) :
    Attends owner logger.handlers none fresh := by
  unfold start at started
  split at started
  · cases started
  · obtain rfl := Except.ok.inj started
    exact ⟨(List.append_nil _).symm, rfl, foreign, nofun⟩

/-- Whatever a new session was asked to do, its handler is behind those of others, with the level set last. -/
theorem after_attends (started : start owner columns logger = .ok fresh)
    (foreign : ∀ handler ∈ logger.handlers, handler.owner ≠ owner) (acts : List Act) :
    Attends owner logger.handlers (lastLevel acts) (fresh.after acts) := by
  -- The level set last is that of the act at the end, so the acts are taken from behind.
  induction acts using List.reverseRecOn with
  | nil => exact start_attends started foreign
  | append_singleton acts act ih =>
    rw [after_append_singleton, lastLevel_append_singleton]
    exact apply_attends ih act

theorem Attends.consistent (attends : Attends owner others set session) : Consistent set session := by
  have none : (others.filter fun handler => handler.owner = session.owner) = [] := by
    apply List.filter_eq_nil_iff.2
    intro handler member
    rw [attends.sameOwner]
    exact fun same => attends.foreign handler member (of_decide_eq_true same)
  refine ⟨?_, fun handler => ⟨fun isHandler => ?_, fun ⟨member, own⟩ => ?_⟩, fun handler isHandler => ?_⟩
  · rw [attends.handlers, List.filter_append, none, List.nil_append]
    apply Nat.le_trans (List.length_filter_le _ _)
    cases session.handler <;> simp
  · rw [attends.handlers, attends.sameOwner, attends.own isHandler]
    simp [isHandler]
  · rw [attends.handlers] at member
    rcases List.mem_append.1 member with member | member
    · exact absurd (own.trans attends.sameOwner) (attends.foreign handler member)
    · exact Option.mem_toList.1 member
  · obtain ⟨level, isSet, rfl, sameLevel⟩ := attends.level handler isHandler
    exact ⟨level, isSet, rfl, rfl, sameLevel⟩

theorem Attends.detached (attends : Attends owner others set session) (none : session.handler = none) :
    Detached session := by
  refine ⟨none, fun handler member => ?_⟩
  rw [attends.handlers, none, Option.toList_none, List.append_nil] at member
  rw [attends.sameOwner]
  exact attends.foreign handler member

/-! ### Levels of runs -/

theorem runLine_level (session : Session) (around : Surroundings) (line : Line) (answers : List Answer) :
    (session.runLine around line answers).session.logger.level = Level.adjusted line.loudness := by
  have kept (other : Session) : other.resetLogging.logger.level = other.logger.level := by
    unfold resetLogging
    split <;> rfl
  unfold runLine
  dsimp only
  rw [kept]
  cases line.order with
  | none => rfl
  | some order =>
    dsimp only
    rw [(perform_frame _ around line order answers).2.2.2]
    rfl

/-- What a session logs follows from what it was asked to do, however that ended. The handler of the session
has the level that was set last, and a run takes it away. A wish for more messages moves along the ladder. -/
theorem log_follows_history (started : start owner columns logger = .ok fresh)
    (foreign : ∀ handler ∈ logger.handlers, handler.owner ≠ owner) :
    (∀ acts, Consistent (lastLevel acts) (fresh.after acts)) ∧
    (∀ acts around line answers, Detached ((fresh.after acts).runLine around line answers).session) ∧
    (∀ acts delta, Level.Selects delta ((fresh.after acts).adjustVerbosity delta).logger.level) ∧
    (∀ acts acts' delta delta', delta ≤ delta' →
      ((fresh.after acts').adjustVerbosity delta').logger.level ≤
        ((fresh.after acts).adjustVerbosity delta).logger.level) ∧
    ∀ acts around options gifts words line answers, List.Forall₂ Spells options gifts →
      (∀ flag ∈ gifts.flatten, flag.IsListed) → Line.read words = .ok line → line.flags = [] →
      let after := ((fresh.after acts).run around (options ++ words) answers).session
      (uses .quieter gifts.flatten = 0 →
        after.logger.level = Level.adjusted (uses .louder gifts.flatten)) ∧
      (uses .louder gifts.flatten = 0 →
        after.logger.level = Level.adjusted (-(uses .quieter gifts.flatten))) := by
  have attends := after_attends started foreign
  refine ⟨fun acts => (attends acts).consistent, fun acts around line answers => ?_,
    fun _ delta => Level.selects_adjusted delta, fun _ _ _ _ more => Level.adjusted_mono more, ?_⟩
  · obtain ⟨ended, none⟩ := runLine_attends (attends acts) around line answers
    exact ended.detached none
  · intro acts around options gifts words line answers spelled isListed isRead noFlags
    have ofOneDirection (oneWay : OneDirection gifts.flatten) :
        ((fresh.after acts).run around (options ++ words) answers).session.logger.level =
          Level.adjusted (uses .louder gifts.flatten - uses .quieter gifts.flatten) := by
      have whole := read_spelled spelled isListed oneWay isRead noFlags
      rw [run_of_ok whole, runLine_level]
      rfl
    refine ⟨fun none => ?_, fun none => ?_⟩
    · rw [ofOneDirection (.inl none), none]
      simp
    · rw [ofOneDirection (.inr none), none]
      simp

/-- A session beside that of another owner, which is asked for more messages in two ways. -/
theorem log_follows_history_louder :
    let louder : Flag := ⟨'v', "verbose", .louder, "Log more (repeatable)"⟩
    let around : Surroundings := ⟨⟨⟨[], []⟩, [], 900⟩, false, default, default⟩
    let fresh : Session := { owner := 1, columns := 80, logger := ⟨⟨0⟩, [⟨7, .warning, .warning⟩]⟩ }
    let spelled := fresh.run around ["-vv", "--verbose", "disks", "/p.ovf"] []
    start 1 80 ⟨⟨0⟩, [⟨7, .warning, .warning⟩]⟩ = .ok fresh ∧
    Consistent (some .error) (fresh.after [.adjust 2, .run around ["disks"] [], .verbosity .error]) ∧
    spelled.session.logger.level = Level.adjusted 3 ∧ uses .louder [louder, louder, louder] = 3 := by
  intro louder around fresh spelled
  have started : start 1 80 ⟨⟨0⟩, [⟨7, .warning, .warning⟩]⟩ = .ok fresh := rfl
  have foreign : ∀ handler ∈ [(⟨7, .warning, .warning⟩ : Handler)], handler.owner ≠ 1 := by decide
  have isListed : ∀ flag ∈ [louder, louder, louder], flag.IsListed := by
    intro flag member
    obtain rfl : flag = louder := by simpa using member
    exact ⟨by decide, .inr (.inr rfl)⟩
  have isSpelled : List.Forall₂ Spells ["-vv", "--verbose"] [[louder, louder], [louder]] :=
    .cons (.letters (List.cons_ne_nil louder [louder])) (.cons (.word louder) .nil)
  have isRead : Line.read ["disks", "/p.ovf"] = .ok ⟨[], some ⟨.disks, [], ["/p.ovf"]⟩⟩ :=
    toOption_eq_some_iff.1 (by decide +kernel)
  obtain ⟨consistent, -, -, -, runs⟩ := log_follows_history started foreign
  have last : lastLevel [.adjust 2, .run around ["disks"] [], .verbosity .error] = some .error := by
    decide +kernel
  have told := runs [] around _ _ ["disks", "/p.ovf"] _ [] isSpelled isListed isRead rfl
  exact ⟨started, last ▸ consistent _, told.1 rfl, rfl⟩

end Session

end OvfInspect
