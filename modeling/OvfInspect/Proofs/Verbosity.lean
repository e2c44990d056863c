import Mathlib.Data.List.TakeWhile
import OvfInspect.Log.Level
import OvfInspect.Proofs.LineReading

/-!
# Verbosity

A wish for more or fewer messages moves along the ladder of levels and stops at its ends. How the flags for
it are put into words makes no difference: `read_spelled` says that a line in front of which options are
spelled is read with just these options.
-/

namespace OvfInspect.Log.Level

/-! ### Rungs -/

theorem length_ladder : ladder.length = 8 := rfl

/-- The rung that is so many steps from the default one, or the end of the ladder in that direction. -/
def rung (delta : Int) : Nat :=
  (max 0 (min (3 + delta) 7)).toNat

theorem rung_lt (delta : Int) : rung delta < ladder.length := by
  rw [length_ladder, rung]
  omega

theorem ladder_rung (delta : Int) : ladder[rung delta]? = some (adjusted delta) := by
  have same : (max 0 (min ((defaultRung : Int) + delta) ((ladder.length : Int) - 1))).toNat = rung delta := by
    rw [length_ladder, rung, defaultRung]
    omega
  unfold adjusted
  dsimp only
  rw [same, List.getElem?_eq_getElem (rung_lt delta), Option.getD_some]

/-- The level is that of the rung three and `delta` steps from the quietest, or at the end of the ladder. -/
inductive Selects (delta : Int) (level : Level) : Prop
  | rung (low : 0 ≤ 3 + delta) (high : 3 + delta < ladder.length)
      (isLevel : ladder[(3 + delta).toNat]? = some level) : Selects delta level
  | quietest (low : 3 + delta < 0) (isLevel : ladder.head? = some level) : Selects delta level
  | noisiest (high : (ladder.length : Int) ≤ 3 + delta) (isLevel : ladder.getLast? = some level) :
      Selects delta level

theorem selects_adjusted (delta : Int) : Selects delta (adjusted delta) := by
  have onRung := ladder_rung delta
  by_cases low : 3 + delta < 0
  · have first : rung delta = 0 := by
      rw [rung]
      omega
    rw [first] at onRung
    exact .quietest low onRung
  by_cases high : 3 + delta < ladder.length
  · have same : rung delta = (3 + delta).toNat := by
      rw [length_ladder] at high
      rw [rung]
      omega
    rw [same] at onRung
    exact .rung (by omega) high onRung
  · have last : rung delta = 7 := by
      rw [length_ladder] at high
      rw [rung]
      omega
    rw [last] at onRung
    exact .noisiest (by omega) onRung

theorem ladder_descends : ∀ i j : Fin ladder.length, i ≤ j → ladder.get j ≤ ladder.get i := by
  decide

theorem adjusted_mono {delta delta' : Int} (more : delta ≤ delta') : adjusted delta' ≤ adjusted delta := by
  have further : rung delta ≤ rung delta' := by
    unfold rung
    omega
  have onLadder (steps : Int) : ladder.get ⟨rung steps, rung_lt steps⟩ = adjusted steps := by
    have found := ladder_rung steps
    rw [List.getElem?_eq_getElem (rung_lt steps)] at found
    exact Option.some.inj found
  have below := ladder_descends ⟨rung delta, rung_lt delta⟩ ⟨rung delta', rung_lt delta'⟩ further
  rwa [onLadder, onLadder] at below

end OvfInspect.Log.Level

namespace OvfInspect.CommandLine

variable {topic : Topic} {word : String} {flag : Flag} {given before : List Flag}

/-! ### Spellings -/

/-- The word of a dash and the letters of flags. -/
def cluster (flags : List Flag) : String :=
  String.ofList ('-' :: flags.map Flag.letter)

/-- The word gives flags by their letters, or one flag by its word. -/
inductive Spells : String → List Flag → Prop
  | letters {flags : List Flag} (some : flags ≠ []) : Spells (cluster flags) flags
  | word (flag : Flag) : Spells flag.long [flag]

theorem toList_short (flag : Flag) : flag.short.toList = ['-', flag.letter] := by
  simp [Flag.short]

theorem toList_long (flag : Flag) : flag.long.toList = '-' :: '-' :: flag.word.toList := by
  simp [Flag.long]

theorem toList_cluster (flags : List Flag) : (cluster flags).toList = '-' :: flags.map Flag.letter := by
  rw [cluster, String.toList_ofList]

theorem flagOf?_of_mem (topic : Topic) : ∀ flag ∈ topic.flags,
    topic.flagOf? flag.short = some flag ∧ topic.flagOf? flag.long = some flag ∧
      topic.flagOfLetter? flag.letter = some flag ∧ flag.letter ≠ '-' ∧ flag.letter ≠ '=' := by
  rcases topic with _ | (_ | _) <;> decide +kernel

theorem letters_of_mem (flag : Flag) (isFlag : ∀ other ∈ given, other ∈ topic.flags) :
    letters topic flag (given.map Flag.letter) = .ok (flag :: given) := by
  induction given generalizing flag with
  | nil => rfl
  | cons next given ih =>
    obtain ⟨isNext, rest⟩ := List.forall_mem_cons.1 isFlag
    have found := (flagOf?_of_mem topic next isNext).2.2.1
    simp only [List.map_cons, letters, found, ih next rest]
    rfl

theorem flagOf?_cluster {next : Flag} (isFlag : flag ∈ topic.flags) :
    topic.flagOf? (cluster (flag :: next :: given)) = none := by
  have noDash := (flagOf?_of_mem topic flag isFlag).2.2.2.1
  apply List.find?_eq_none.2
  intro other _ same
  rw [Bool.or_eq_true, beq_iff_eq, beq_iff_eq] at same
  rcases same with same | same
  · have lists := congrArg String.toList same
    rw [toList_cluster, toList_short] at lists
    simp at lists
  · have lists := congrArg String.toList same
    rw [toList_cluster, toList_long] at lists
    simp only [List.map_cons, List.cons.injEq] at lists
    exact noDash lists.2.1

theorem classify_long (isFlag : flag ∈ topic.flags) : classify topic flag.long = .ok (.flags [flag]) := by
  have dash : flag.long.startsWith "-" = true := by
    rw [String.startsWith_string_iff, toList_long]
    exact ⟨_, rfl⟩
  unfold classify
  rw [dash, (flagOf?_of_mem topic flag isFlag).2.1]
  rfl

theorem partial?_of_letter {letter : Char} {following : List Char}
    (parts : word.toList = '-' :: letter :: following) (noDash : letter ≠ '-')
    (found : topic.flagOfLetter? letter = some flag) :
    partial? topic word = .ok (Word.ofLetters topic flag following) := by
  unfold partial?
  rw [parts]
  split
  · next same => exact absurd (List.cons.inj (List.cons.inj same).2).1 noDash
  · next same =>
    obtain ⟨rfl, rfl⟩ := List.cons.inj (List.cons.inj same).2
    rw [found]
  · next other => exact absurd rfl (other letter following)

theorem splitArgument?_cluster (isFlag : ∀ flag ∈ given, flag ∈ topic.flags) :
    splitArgument? (cluster given).toList = none := by
  have kept : (cluster given).toList.dropWhile (· ≠ '=') = [] := by
    rw [List.dropWhile_eq_nil_iff, toList_cluster]
    intro c member
    rcases List.mem_cons.1 member with rfl | member
    · decide
    · obtain ⟨flag, isGiven, rfl⟩ := List.mem_map.1 member
      exact decide_eq_true (flagOf?_of_mem topic flag (isFlag flag isGiven)).2.2.2.2
  rw [splitArgument?, kept]

theorem classify_cluster (some : given ≠ []) (isFlag : ∀ flag ∈ given, flag ∈ topic.flags) :
    classify topic (cluster given) = .ok (.flags given) := by
  have dash : (cluster given).startsWith "-" = true := by
    rw [String.startsWith_string_iff, toList_cluster]
    exact ⟨_, rfl⟩
  unfold classify
  rw [dash, if_neg (by decide)]
  rcases given with _ | ⟨flag, _ | ⟨next, given⟩⟩
  · exact absurd rfl some
  · have isShort : cluster [flag] = flag.short := by
      rw [← String.toList_inj, toList_cluster, toList_short]
      rfl
    rw [isShort, (flagOf?_of_mem topic flag (isFlag flag (List.mem_singleton_self flag))).1]
  · obtain ⟨first, rest⟩ := List.forall_mem_cons.1 isFlag
    obtain ⟨-, -, found, noDash, -⟩ := flagOf?_of_mem topic flag first
    rw [flagOf?_cluster first, splitArgument?_cluster isFlag]
    dsimp only
    rw [partial?_of_letter (toList_cluster _) noDash found, Word.ofLetters, letters_of_mem flag rest]

/-- Among the options of the program. -/
def Flag.IsListed (flag : Flag) : Prop :=
  flag ∈ Topic.flags .program ∧ flag.IsOption

theorem Spells.gives (spells : Spells word given) (isListed : ∀ flag ∈ given, flag.IsListed) :
    Gives word given := by
  refine ⟨?_, fun flag member => (isListed flag member).2⟩
  cases spells with
  | letters some => exact classify_cluster some fun flag member => (isListed flag member).1
  | word flag => exact classify_long (isListed flag (List.mem_singleton_self flag)).1

/-! ### Options in front of a line -/

variable {options words strangers left : List String} {gifts : List (List Flag)} {line : Line}
  {classified : List Word} {rest : List (String × Word)}

def uses (wish : Wish) (flags : List Flag) : Nat :=
  flags.countP fun flag => flag.wish == wish

/-- Not both of more and fewer messages are wished for. -/
def OneDirection (flags : List Flag) : Prop :=
  uses .quieter flags = 0 ∨ uses .louder flags = 0

theorem wish_ne_of_unused {wish : Wish} {flags : List Flag} (unused : uses wish flags = 0)
    (inside : flag ∈ flags) : flag.wish ≠ wish := by
  simpa using List.countP_eq_zero.1 unused flag inside

theorem unused_of_append {wish : Wish} {flags more : List Flag} (unused : uses wish (flags ++ more) = 0) :
    uses wish flags = 0 := by
  rw [uses, List.countP_append] at unused
  rw [uses]
  omega

theorem excludes_of_oneDirection {flags : List Flag} (isOption : ∀ flag ∈ flags, flag.IsOption)
    (oneWay : OneDirection flags) {other : Flag} (inside : flag ∈ flags) (inside' : other ∈ flags) :
    other.wish.excludes flag.wish = false := by
  have first := isOption flag inside
  have second := isOption other inside'
  unfold Flag.IsOption at first second
  rcases oneWay with none | none
  · have notQuieter := wish_ne_of_unused none inside
    have notQuieter' := wish_ne_of_unused none inside'
    rcases first with h | h | h <;> rcases second with h' | h' | h' <;> simp_all [Wish.excludes]
  · have notLouder := wish_ne_of_unused none inside
    have notLouder' := wish_ne_of_unused none inside'
    rcases first with h | h | h <;> rcases second with h' | h' | h' <;> simp_all [Wish.excludes]

theorem give_of_oneDirection (isOption : ∀ flag ∈ before ++ given, flag.IsOption)
    (oneWay : OneDirection (before ++ given)) : give topic before given = .ok (before ++ given) := by
  induction given generalizing before with
  | nil =>
    rw [List.append_nil]
    rfl
  | cons flag given ih =>
    have inside : flag ∈ before ++ flag :: given := by simp
    have noConflict : (before.find? fun other => other.wish.excludes flag.wish) = none := by
      apply List.find?_eq_none.2
      intro other member
      have free := excludes_of_oneDirection isOption oneWay inside (List.mem_append_left _ member)
      rw [free]
      exact Bool.false_ne_true
    have shifted : before ++ [flag] ++ given = before ++ flag :: given := by simp
    have taken : give topic (before ++ [flag]) given = .ok (before ++ [flag] ++ given) :=
      ih (by rwa [shifted]) (by rwa [shifted])
    rw [shifted] at taken
    rw [give, noConflict]
    rcases isOption flag inside with wish | wish | wish <;> rw [wish] <;> exact taken

theorem readWords_spelled (given : List.Forall₂ Gives options gifts)
    (isOption : ∀ flag ∈ before ++ gifts.flatten, flag.IsOption)
    (oneWay : OneDirection (before ++ gifts.flatten)) :
    readWords before strangers (options.zip (gifts.map .flags) ++ rest) =
      readWords (before ++ gifts.flatten) strangers rest := by
  induction given generalizing before with
  | nil => simp
  | @cons word flags _ gifts _ _ ih =>
    rw [List.flatten_cons, ← List.append_assoc] at isOption oneWay ⊢
    have taken : give .program before flags = .ok (before ++ flags) := by
      apply give_of_oneDirection fun flag member => isOption flag (List.mem_append_left _ member)
      exact oneWay.imp unused_of_append unused_of_append
    rw [List.map_cons, List.zip_cons_cons, List.cons_append, readWords, taken]
    exact ih isOption oneWay

theorem give_append {topic : Topic} {taken : List Flag} (h : give topic before given = .ok taken) :
    taken = before ++ given := by
  induction given generalizing before with
  | nil =>
    rw [List.append_nil]
    exact (Except.ok.inj h).symm
  | cons flag given ih =>
    rw [give] at h
    split at h
    · cases h
    · split at h
      · cases h
      · cases h
      · have more := ih h
        rwa [List.append_assoc] at more

/-- The command is read from the other words, whatever flags were given before. -/
theorem readWords_operand {name text : String} (isRead :
    readWords before strangers ((text, .operand name) :: rest) = .ok (line, left)) :
    line.flags = before ∧ ∀ flags,
      readWords flags strangers ((text, .operand name) :: rest) = .ok (⟨flags, line.order⟩, left) := by
  rw [readWords] at isRead
  dsimp only at isRead
  cases named : Verb.ofName? name with
  | none =>
    rw [named] at isRead
    cases isRead
  | some verb =>
    rw [named] at isRead
    dsimp only at isRead
    cases ordered : readOrder verb (rest.map Prod.fst) with
    | error stop =>
      rw [ordered] at isRead
      cases isRead
    | ok order =>
      rw [ordered] at isRead
      obtain ⟨rfl, rfl⟩ := Prod.mk.inj (Except.ok.inj isRead)
      refine ⟨rfl, fun flags => ?_⟩
      rw [readWords]
      dsimp only
      rw [named]
      dsimp only
      rw [ordered]
      rfl

/-- A line has the flags from before and its own. If it has none of its own it can be read with others. -/
theorem readWords_frame (isRead : readWords before strangers rest = .ok (line, left)) :
    ∃ own, line.flags = before ++ own ∧
      (own = [] → ∀ flags, readWords flags strangers rest = .ok (⟨flags, line.order⟩, left)) := by
  induction rest generalizing before strangers with
  | nil =>
    obtain ⟨rfl, rfl⟩ := Prod.mk.inj (Except.ok.inj isRead)
    exact ⟨[], (List.append_nil _).symm, fun _ _ => rfl⟩
  | cons entry rest ih =>
    obtain ⟨text, word⟩ := entry
    cases word with
    | operand name =>
      obtain ⟨same, other⟩ := readWords_operand isRead
      exact ⟨[], by rw [same, List.append_nil], fun _ => other⟩
    | divider =>
      -- A divider with words behind it is itself taken for the name of a command.
      by_cases last : rest.isEmpty = true
      · have done (flags : List Flag) : readWords flags strangers ((text, .divider) :: rest) =
            .ok (⟨flags, none⟩, strangers ++ [text]) := by
          rw [readWords]
          exact if_pos last
        obtain ⟨rfl, rfl⟩ := Prod.mk.inj (Except.ok.inj ((done before).symm.trans isRead))
        exact ⟨[], (List.append_nil _).symm, fun _ => done⟩
      · have more (flags : List Flag) : readWords flags strangers ((text, .divider) :: rest) =
            readWords flags strangers ((text, .operand text) :: rest) := by
          rw [readWords, readWords]
          exact if_neg last
        rw [more] at isRead
        obtain ⟨same, other⟩ := readWords_operand isRead
        exact ⟨[], by rw [same, List.append_nil], fun _ flags => (more flags).trans (other flags)⟩
    | flags given =>
      rw [readWords] at isRead
      cases result : give .program before given with
      | error stop =>
        rw [result] at isRead
        cases isRead
      | ok taken =>
        rw [result] at isRead
        obtain rfl := give_append result
        obtain ⟨own, same, other⟩ := ih isRead
        refine ⟨given ++ own, by rw [same, List.append_assoc], fun none flags => ?_⟩
        obtain ⟨rfl, rfl⟩ := List.append_eq_nil_iff.1 none
        exact other rfl flags
    | refused misuse => cases isRead
    | stranger other =>
      rw [readWords] at isRead
      obtain ⟨own, same, other⟩ := ih isRead
      refine ⟨own, same, fun none flags => ?_⟩
      rw [readWords]
      exact other none flags

theorem gives_of_spelled (spelled : List.Forall₂ Spells options gifts)
    (isListed : ∀ flag ∈ gifts.flatten, flag.IsListed) : List.Forall₂ Gives options gifts := by
  induction spelled with
  | nil => exact .nil
  | cons first _ ih =>
    rw [List.flatten_cons, List.forall_mem_append] at isListed
    exact .cons (first.gives isListed.1) (ih isListed.2)

/-- A line in front of which options are spelled is read with just these options, if they go in one
direction. -/
theorem read_spelled (spelled : List.Forall₂ Spells options gifts)
    (isListed : ∀ flag ∈ gifts.flatten, flag.IsListed) (oneWay : OneDirection gifts.flatten)
    (isRead : Line.read words = .ok line) (noFlags : line.flags = []) :
    Line.read (options ++ words) = .ok ⟨gifts.flatten, line.order⟩ := by
  have given := gives_of_spelled spelled isListed
  have isOption : ∀ flag ∈ [] ++ gifts.flatten, flag.IsOption := fun flag member => (isListed flag member).2
  have sameLength : options.length = (gifts.map Word.flags).length := by
    rw [List.length_map]
    exact given.length_eq
  unfold Line.read at isRead ⊢
  cases isWords : classifyAll .program words with
  | error misuse =>
    rw [isWords] at isRead
    cases isRead
  | ok classified =>
    rw [isWords] at isRead
    rw [classifyAll_append given isWords]
    dsimp only [Except.mapError, bind, Except.bind] at isRead ⊢
    rw [List.zip_append sameLength, readWords_spelled given isOption oneWay]
    cases isLine : readWords [] [] (words.zip classified) with
    | error stop =>
      rw [isLine] at isRead
      cases isRead
    | ok outcome =>
      obtain ⟨line', left⟩ := outcome
      rw [isLine] at isRead
      dsimp only at isRead
      obtain ⟨own, same, other⟩ := readWords_frame isLine
      by_cases known : left.isEmpty = true
      · rw [if_pos known] at isRead
        obtain rfl := Except.ok.inj isRead
        rw [other (by rw [← noFlags, same, List.nil_append])]
        exact if_pos known
      · rw [if_neg known] at isRead
        cases isRead

end OvfInspect.CommandLine
