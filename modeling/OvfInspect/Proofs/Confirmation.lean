import OvfInspect.Session

/-!
# Confirmation

A session at a terminal puts a question again until an answer decides it, and leaves the answers after
that one to whatever is asked next. `confirm_decided` says what is shown and what is used up; a session
that agrees by itself asks nothing.
-/

namespace OvfInspect

namespace Terminal

/-! ### Answers that decide -/

/-- An answer as it is understood: without the blanks around it, in small letters. Only the capitals of
the letters of yes and no turn into these, so other alphabets make no difference. -/
def word (text : String) : String :=
  (Text.trim text).toLower

/-- The answers that decide a question, and what they decide. -/
inductive Decides : Answer → Except Fault Bool → Prop
  | yes {text : String} (h : word text ∈ ["", "y", "yes"]) : Decides (.typed text) (.ok true)
  | no {text : String} (h : word text ∈ ["n", "no"]) : Decides (.typed text) (.ok false)
  | interrupt : Decides .interrupt (.error .interrupted)

/-- An answer that decides nothing. -/
def Unclear (answer : Answer) : Prop :=
  ∀ outcome, ¬ Decides answer outcome

theorem decision?_eq (text : String) : decision? text = if word text ∈ ["", "y", "yes"] then some true
    else if word text ∈ ["n", "no"] then some false else none := rfl

theorem decision?_eq_some_iff {text : String} {agreed : Bool} :
    decision? text = some agreed ↔ Decides (.typed text) (.ok agreed) := by
  rw [decision?_eq]
  constructor
  · intro decided
    split at decided
    · next isYes =>
      obtain rfl := Option.some.inj decided
      exact .yes isYes
    · split at decided
      · next isNo =>
        obtain rfl := Option.some.inj decided
        exact .no isNo
      · cases decided
  · intro decides
    cases decides with
    | yes isYes => exact if_pos isYes
    | no isNo =>
      -- The words for yes and no are different ones.
      have notYes : word text ∉ ["", "y", "yes"] := by
        simp only [List.mem_cons, List.not_mem_nil, or_false] at isNo
        rcases isNo with same | same <;> rw [same] <;> decide
      rw [if_neg notYes, if_pos isNo]

theorem decision?_of_unclear {text : String} (unclear : Unclear (.typed text)) : decision? text = none :=
  Option.eq_none_iff_forall_ne_some.2 fun agreed decided => unclear (.ok agreed) (decision?_eq_some_iff.1 decided)

theorem unclear_typed_iff {text : String} :
    Unclear (.typed text) ↔ word text ∉ ["", "y", "yes", "n", "no"] := by
  constructor
  · intro unclear member
    rcases List.mem_append.1 (show word text ∈ ["", "y", "yes"] ++ ["n", "no"] from member) with isYes | isNo
    · exact unclear _ (.yes isYes)
    · exact unclear _ (.no isNo)
  · intro other outcome decides
    cases decides with
    | yes isYes => exact other (List.mem_append_left ["n", "no"] isYes)
    | no isNo => exact other (List.mem_append_right ["", "y", "yes"] isNo)

/-! ### Asking -/

variable {question : String} {answer : Answer} {outcome : Except Fault Bool}

theorem ask_of_decides (decides : Decides answer outcome) (rest : List Answer) :
    ask question (answer :: rest) = (⟨[.prompted question], outcome⟩, rest) := by
  cases decides with
  | yes isYes =>
    rw [ask, decision?_eq_some_iff.2 (.yes isYes)]
    rfl
  | no isNo =>
    rw [ask, decision?_eq_some_iff.2 (.no isNo)]
    rfl
  | interrupt => rfl

/-- An unclear answer is used up, and the question is put again to those that follow. -/
theorem ask_of_unclear (unclear : Unclear answer) (rest : List Answer) :
    ask question (answer :: rest) =
      (⟨.prompted question :: .printed complaint :: (ask question rest).1.events, (ask question rest).1.result⟩,
        (ask question rest).2) := by
  cases answer with
  | interrupt => exact absurd .interrupt (unclear _)
  | typed text =>
    rw [ask, decision?_of_unclear unclear]
    rfl

theorem ask_append_of_unclear {unclear : List Answer} (h : ∀ a ∈ unclear, Unclear a) (rest : List Answer) :
    ask question (unclear ++ rest) =
      (⟨(List.replicate unclear.length [.prompted question, .printed complaint]).flatten ++
          (ask question rest).1.events, (ask question rest).1.result⟩, (ask question rest).2) := by
  induction unclear with
  | nil => rfl
  | cons answer unclear ih =>
    obtain ⟨first, others⟩ := List.forall_mem_cons.1 h
    rw [List.cons_append, ask_of_unclear first, ih others]
    rfl

end Terminal

/-! ### Confirmation in a session -/

namespace Session

open Terminal

/-- What the user sees of a question to which so many unclear answers come before the last one. -/
def asked (question : String) (unclear : Nat) : List Shown :=
  (List.replicate unclear [.question question, .output (complaint ++ "\n")]).flatten ++ [.question question]

variable {session : Session}

theorem shownAll_asked (session : Session) (stamp : Log.Stamp) (question : String) (unclear : Nat) :
    session.shownAll stamp ((List.replicate unclear [.prompted question, .printed complaint]).flatten ++
      [.prompted question]) = asked question unclear := by
  induction unclear with
  | zero => rfl
  | succ n ih =>
    rw [asked] at ih ⊢
    rw [List.replicate_succ, List.flatten_cons, List.append_assoc, shownAll, List.flatMap_append, ← shownAll,
      ← shownAll, ih]
    rfl

/-- The end of a turn that comes to a value or a fault. -/
def endOf {α : Type} : Except Fault α → Ending α
  | .ok a => .value a
  | .error fault => .fault fault

theorem confirm_eq {around : Surroundings} {prompt : String} {answers left : List Answer}
    {told : Narrated Fault Bool} (confirmed : (session.console.confirm prompt).run answers = (told, left)) :
    session.confirm around prompt answers =
      ⟨session, session.shownAll around.stamp told.events, endOf told.result, left⟩ := by
  unfold confirm
  rw [confirmed]
  obtain ⟨events, result⟩ := told
  cases result <;> rfl

theorem run_confirm_of_asking (asking : session.force = false) (prompt : String) (answers : List Answer) :
    (session.console.confirm prompt).run answers =
      ask (Terminal.question (session.columns - 1) prompt) answers := by
  have asks : session.console.confirm prompt = ⟨ask (Terminal.question (session.columns - 1) prompt)⟩ :=
    if_neg (by rw [asking]; decide)
  rw [asks]

theorem run_confirm_of_agreeing (agrees : session.force = true) (prompt : String) (answers : List Answer) :
    (session.console.confirm prompt).run answers = (agree prompt, answers) := by
  have silent : session.console.confirm prompt = .silent (agree prompt) := if_pos agrees
  rw [silent, Dialogue.silent]

/-- What the log says when a session agrees by itself. -/
def agreement (prompt : String) : Log.Entry :=
  .warning ⟨"ui", "confirm", 84⟩ ("Automatically agreeing to '" ++ prompt ++ "'")

/-- The first answer that decides a question is the last that is used up. The question is put once for it
and once for every answer before, each of which is complained about; if no answer decides, it is put once
more and the input ends. A session that agrees by itself puts no question and uses up nothing. -/
theorem confirm_decided (around : Surroundings) (prompt : String) (session : Session) :
    let question := Terminal.question (session.columns - 1) prompt
    (session.force = false → ∀ unclear : List Answer, (∀ a ∈ unclear, Unclear a) →
      (∀ answer outcome rest, Decides answer outcome →
        session.confirm around prompt (unclear ++ answer :: rest) =
          ⟨session, asked question unclear.length, endOf outcome, rest⟩) ∧
      session.confirm around prompt unclear =
        ⟨session, asked question unclear.length, .fault .inputEnded, []⟩) ∧
    (session.force = true → ∀ answers, session.confirm around prompt answers =
      ⟨session, session.logEntry around (agreement prompt), .value true, answers⟩) := by
  intro question
  refine ⟨fun asking unclear h => ⟨fun answer outcome rest decides => ?_, ?_⟩, fun agrees answers => ?_⟩
  · rw [confirm_eq (run_confirm_of_asking asking prompt _), ask_append_of_unclear h, ask_of_decides decides,
      shownAll_asked]
  · have ended : ask question (unclear ++ []) = _ := ask_append_of_unclear h []
    rw [List.append_nil] at ended
    rw [confirm_eq (run_confirm_of_asking asking prompt _), ended]
    exact congrArg (Turn.mk session · _ _) (shownAll_asked session around.stamp question unclear.length)
  · rw [confirm_eq (run_confirm_of_agreeing agrees prompt answers)]
    exact congrArg (Turn.mk session · _ _) (List.append_nil _)

/-- On a terminal of two columns, an answer that is not understood and then a no leave the yes behind them. -/
theorem confirm_decided_second :
    let around : Surroundings := ⟨⟨⟨[], []⟩, [], 900⟩, true, default, default⟩
    let session : Session := { owner := 0, columns := 2, force := false }
    let answers := [.typed "perhaps", .typed "\u00a0No\n", .typed "y"]
    (session.confirm around "a b\nc" answers).shown =
      [.question "a\nb\nc [y] ", .output "Please enter 'y' or 'n'\n", .question "a\nb\nc [y] "] ∧
    (session.confirm around "a b\nc" answers).ending = .value false ∧
    (session.confirm around "a b\nc" answers).answers = [.typed "y"] ∧
    (session.confirm around "a b\nc" (answers.take 1)).ending = .fault .inputEnded ∧
    ({ session with force := true }.confirm around "a b\nc" answers).answers = answers := by
  intro around session answers
  have unclear : ∀ a ∈ [Answer.typed "perhaps"], Unclear a :=
    List.forall_mem_singleton.2 (unclear_typed_iff.2 (by decide +kernel))
  have decides : Decides (.typed "\u00a0No\n") (.ok false) := .no (by decide +kernel)
  obtain ⟨asks, -⟩ := confirm_decided around "a b\nc" session
  obtain ⟨decided, ended⟩ := asks rfl _ unclear
  obtain ⟨-, agrees⟩ := confirm_decided around "a b\nc" { session with force := true }
  have second := decided _ _ [.typed "y"] decides
  refine ⟨?_, congrArg Turn.ending second, congrArg Turn.answers second, congrArg Turn.ending ended,
    congrArg Turn.answers (agrees rfl answers)⟩
  exact (congrArg Turn.shown second).trans (by decide +kernel)

end Session

end OvfInspect
