import OvfInspect.Proofs.IndependentRuns
import OvfInspect.Proofs.SkippedValidation

/-!
# Settings that are refused

A command that is configured takes its settings one after the other, up to the first that does not fit, and
keeps those that it took before. With a single setting that is all or nothing. Of the two settings of the
info command the first stays when only the second is refused, as `configure_up_to_refusal` says.
-/

namespace OvfInspect

open Storage (World)

/-- A remote package may be there. A local one has to be. -/
def Storage.World.Admits (world : World) (package : String) : Prop :=
  isRemote package = true ∨ world.files.exists? package = true

namespace Command

/-! ### Options that fit and options that do not -/

/-- The options that a setting takes. -/
inductive Fits (world : World) : (name : String) → Option Value → Prop
  | noPackage : Fits world "package" (some .absent)
  | package {package : String} (admitted : world.Admits package) : Fits world "package" (some (.text package))
  | packages {value : Value} {packages : List String} (lists : value.elements? = some (packages.map .text))
      (admitted : ∀ package ∈ packages, world.Admits package) : Fits world "package_list" (some value)
  | detail (detail : Detail) : Fits world "verbosity" (some (.ofText? detail.word?))

/-- The values that name no package, and the fault. -/
inductive Misnames (world : World) : Value → Fault → Prop
  | missing {package : String} (missing : ¬ world.Admits package) :
      Misnames world (.text package) (.input (.packageMissing package))
  | noText {value : Value} (noText : ∀ package, value ≠ .text package) :
      Misnames world value (.missingOption "package")

/-- The options that a setting refuses, and the fault. In a list the first value that names no package is to
blame, wherever it stands. -/
inductive Refuses (world : World) : (name : String) → Option Value → Fault → Prop
  | lacking {name : String} : Refuses world name none (.missingOption name)
  | package {value : Value} {fault : Fault} (given : value ≠ .absent) (misnamed : Misnames world value fault) :
      Refuses world "package" (some value) fault
  | packages {value item : Value} {before : List String} {after : List Value} {fault : Fault}
      (lists : value.elements? = some (before.map .text ++ item :: after))
      (admitted : ∀ package ∈ before, world.Admits package) (misnamed : Misnames world item fault) :
      Refuses world "package_list" (some value) fault
  | noList {value : Value} (noList : value.elements? = none) :
      Refuses world "package_list" (some value) (.absent .packages)
  | detail {value : Value} (unknown : ∀ detail : Detail, value ≠ .ofText? detail.word?) :
      Refuses world "verbosity" (some value) (.input .badVerbosity)

variable {world : World} {options : Options} {command changed configured : Command} {name : String}
  {names : List String} {fault : Fault}

theorem checkNamed_cases (world : World) (value : Value) :
    (∃ package, value = .text package ∧ world.Admits package ∧ world.checkNamed value = .ok ()) ∨
      ∃ fault, Misnames world value fault ∧ world.checkNamed value = .error fault := by
  cases value with
  | text package =>
    change (∃ other, _ ∧ _ ∧ world.checkPackage package = _) ∨ ∃ fault, _ ∧ world.checkPackage package = _
    unfold World.checkPackage
    split
    · next admitted => exact .inl ⟨package, rfl, Bool.or_eq_true_iff.1 admitted, rfl⟩
    · next missing => exact .inr ⟨_, .missing (mt Bool.or_eq_true_iff.2 missing), rfl⟩
  | absent | flag | number | real | list | record | object => exact .inr ⟨_, .noText nofun, rfl⟩

theorem forM_checkNamed_cases (world : World) (items : List Value) :
    (∃ packages : List String, items = packages.map .text ∧ (∀ package ∈ packages, world.Admits package) ∧
        items.forM world.checkNamed = .ok ()) ∨
      ∃ (before : List String) (item : Value) (after : List Value) (fault : Fault),
        items = before.map .text ++ item :: after ∧ (∀ package ∈ before, world.Admits package) ∧
          Misnames world item fault ∧ items.forM world.checkNamed = .error fault := by
  induction items with
  | nil => exact .inl ⟨[], rfl, nofun, rfl⟩
  | cons item items ih =>
    have unfolded : (item :: items).forM world.checkNamed =
        world.checkNamed item >>= fun _ => items.forM world.checkNamed := rfl
    rw [unfolded]
    rcases checkNamed_cases world item with ⟨package, rfl, admitted, checked⟩ | ⟨fault, misnamed, checked⟩
    · rw [checked]
      rcases ih with ⟨packages, rfl, others, rest⟩ | ⟨before, item, after, fault, rfl, others, misnamed, rest⟩
      · exact .inl ⟨package :: packages, rfl, List.forall_mem_cons.2 ⟨admitted, others⟩, rest⟩
      · exact .inr ⟨package :: before, item, after, fault, rfl, List.forall_mem_cons.2 ⟨admitted, others⟩,
          misnamed, rest⟩
    · rw [checked]
      exact .inr ⟨[], item, items, fault, rfl, nofun, misnamed, rfl⟩

theorem acceptPackage_cases (world : World) (value : Value) :
    (∃ package, value = .ofText? package ∧ Fits world "package" (some value) ∧
        acceptPackage world value = .ok package) ∨
      ∃ fault, Refuses world "package" (some value) fault ∧ acceptPackage world value = .error fault := by
  by_cases absent : value = .absent
  · subst absent
    exact .inl ⟨none, rfl, .noPackage, rfl⟩
  · have unfolded : acceptPackage world value = world.checkNamed value >>= fun _ => pure value.text? := by
      cases value <;> first | rfl | exact absurd rfl absent
    rw [unfolded]
    rcases checkNamed_cases world value with ⟨package, rfl, admitted, checked⟩ | ⟨fault, misnamed, checked⟩
    · rw [checked]
      exact .inl ⟨some package, rfl, .package admitted, rfl⟩
    · rw [checked]
      exact .inr ⟨fault, .package absent misnamed, rfl⟩

theorem acceptPackages_cases (world : World) (value : Value) :
    (Fits world "package_list" (some value) ∧ acceptPackages world value = .ok value) ∨
      ∃ fault, Refuses world "package_list" (some value) fault ∧ acceptPackages world value = .error fault := by
  unfold acceptPackages
  cases lists : value.elements? with
  | none => exact .inr ⟨_, .noList lists, rfl⟩
  | some items =>
    dsimp only
    rcases forM_checkNamed_cases world items with
      ⟨packages, rfl, admitted, checked⟩ | ⟨before, item, after, fault, rfl, admitted, misnamed, checked⟩
    · rw [checked]
      exact .inl ⟨.packages lists admitted, rfl⟩
    · rw [checked]
      exact .inr ⟨fault, .packages lists admitted misnamed, rfl⟩

theorem ofValue_cases (world : World) (value : Value) :
    (∃ detail : Detail, value = .ofText? detail.word? ∧ Fits world "verbosity" (some value) ∧
        Detail.ofValue value = .ok detail) ∨
      ∃ fault, Refuses world "verbosity" (some value) fault ∧ Detail.ofValue value = .error fault := by
  by_cases known : ∃ detail : Detail, value = .ofText? detail.word?
  · obtain ⟨detail, rfl⟩ := known
    exact .inl ⟨detail, rfl, .detail detail, ofValue_word detail⟩
  · refine .inr ⟨_, .detail (not_exists.1 known), ?_⟩
    cases value with
    | text word =>
      have unknown : Detail.ofWord? (some word) = none := by
        apply List.find?_eq_none.2
        intro detail _ isWord
        exact known ⟨detail, by rw [eq_of_beq isWord]; rfl⟩
      unfold Detail.ofValue
      dsimp only
      rw [unknown]
    | absent => exact absurd ⟨.standard, rfl⟩ known
    | flag | number | real | list | record | object => rfl

theorem given_of_fits {option : Option Value} (fits : Fits world name option) : ∃ value, option = some value := by
  cases fits <;> exact ⟨_, rfl⟩

/-! ### Settings taken one after the other -/

/-- The command holds the options under these names, and all else as it was. -/
structure Took (options : Options) (names : List String) (command configured : Command) : Prop where
  kind : configured.blank = command.blank
  taken : ∀ name ∈ names, configured.setting? name = options.lookup name
  kept : ∀ name ∉ names, configured.setting? name = command.setting? name

theorem Took.refl (options : Options) (command : Command) : Took options [] command command :=
  ⟨rfl, nofun, fun _ _ => rfl⟩

theorem Took.cons (first : Took options [name] command changed) (others : Took options names changed configured) :
    Took options (name :: names) command configured := by
  refine ⟨others.kind.trans first.kind, ?_, ?_⟩
  · intro other member
    by_cases later : other ∈ names
    · exact others.taken other later
    · obtain rfl : other = name := (List.mem_cons.1 member).resolve_right later
      rw [others.kept other later, first.taken other List.mem_cons_self]
  · intro other foreign
    rw [List.mem_cons, not_or] at foreign
    rw [others.kept other foreign.2, first.kept other (mt List.mem_singleton.1 foreign.1)]

theorem settingNames_of_blank (same : changed.blank = command.blank) :
    changed.settingNames = command.settingNames := by
  have named (command : Command) : command.blank.settingNames = command.settingNames := by
    cases command <;> rfl
  rw [← named changed, ← named command, same]

theorem setting?_foreign (foreign : name ∉ command.settingNames) : command.setting? name = none := by
  cases command <;> simp [settingNames] at foreign <;> simp [setting?, foreign]

theorem ofText?_inj {text other : Option String} (same : some (Value.ofText? text) = some (Value.ofText? other)) :
    text = other := by
  cases text <;> cases other <;> cases same <;> rfl

theorem setting?_of_own (kind : changed.blank = command.blank)
    (own : name ∈ command.settingNames → changed.setting? name = command.setting? name) :
    changed.setting? name = command.setting? name := by
  by_cases isOwn : name ∈ command.settingNames
  · exact own isOwn
  · rw [setting?_foreign isOwn, setting?_foreign (settingNames_of_blank kind ▸ isOwn)]

theorem eq_of_settings (kind : changed.blank = command.blank)
    (same : ∀ name ∈ command.settingNames, changed.setting? name = command.setting? name) : changed = command := by
  cases command with
  | plain => cases changed with
    | plain => rfl
    | _ => cases kind
  | reader held => cases changed with
    | reader package => rw [ofText?_inj (same "package" List.mem_cons_self)]
    | _ => cases kind
  | disks held => cases changed with
    | disks package => rw [ofText?_inj (same "package" List.mem_cons_self)]
    | _ => cases kind
  | info held detail => cases changed with
    | info packages chosen =>
      have sameList : packages = held := Option.some.inj (same "package_list" List.mem_cons_self)
      have sameWord : chosen.word? = detail.word? := ofText?_inj (same "verbosity" (by simp [settingNames]))
      have sameDetail : chosen = detail := by
        rw [← Option.some_inj, ← Detail.ofWord?_word? chosen, sameWord, Detail.ofWord?_word?]
      rw [sameList, sameDetail]
    | _ => cases kind

theorem give_foreign (foreign : name ∉ command.settingNames) (world : World) (value : Value) :
    command.give world name value = .ok command := by
  cases command <;> simp [settingNames] at foreign <;> simp [give, foreign, pure, Except.pure]

/-- A value that is given for a setting of the command replaces this one alone, or it is refused. -/
theorem give_cases (own : name ∈ command.settingNames) (world : World) (value : Value) :
    (∃ changed, command.give world name value = .ok changed ∧ Fits world name (some value) ∧
        changed.setting? name = some value ∧
        ∀ other ∈ command.settingNames, other ≠ name → changed.setting? other = command.setting? other) ∨
      ∃ fault, command.give world name value = .error fault ∧ Refuses world name (some value) fault := by
  cases command with
  | plain => cases own
  | reader held =>
    obtain rfl := List.mem_singleton.1 own
    rcases acceptPackage_cases world value with ⟨package, rfl, fits, accepted⟩ | ⟨fault, refuses, accepted⟩
    · exact .inl ⟨reader package, by simp [give, accepted], fits, rfl, by simp [settingNames]⟩
    · exact .inr ⟨fault, by simp [give, accepted], refuses⟩
  | disks held =>
    obtain rfl := List.mem_singleton.1 own
    rcases acceptPackage_cases world value with ⟨package, rfl, fits, accepted⟩ | ⟨fault, refuses, accepted⟩
    · exact .inl ⟨disks package, by simp [give, accepted], fits, rfl, by simp [settingNames]⟩
    · exact .inr ⟨fault, by simp [give, accepted], refuses⟩
  | info held detail =>
    rcases List.mem_pair.1 own with rfl | rfl
    · rcases acceptPackages_cases world value with ⟨fits, accepted⟩ | ⟨fault, refuses, accepted⟩
      · exact .inl ⟨info value detail, by simp [give, accepted], fits, rfl, by simp [settingNames, setting?]⟩
      · exact .inr ⟨fault, by simp [give, accepted], refuses⟩
    · rcases ofValue_cases world value with ⟨chosen, rfl, fits, accepted⟩ | ⟨fault, refuses, accepted⟩
      · exact .inl ⟨info held chosen, by simp [give, accepted], fits, rfl, by simp [settingNames, setting?]⟩
      · exact .inr ⟨fault, by simp [give, accepted], refuses⟩

/-- What comes of taking settings in turn: all of them are held, or those before the first that is refused. -/
inductive Outcome (world : World) (options : Options) (command : Command) (names : List String) :
    Except Fault Unit → Command → Prop
  | whole {configured : Command} (fits : ∀ name ∈ names, Fits world name (options.lookup name))
      (took : Took options names command configured) : Outcome world options command names (.ok ()) configured
  | stopped {before : List String} {name : String} {after : List String} {fault : Fault} {configured : Command}
      (order : names = before ++ name :: after) (fits : ∀ name ∈ before, Fits world name (options.lookup name))
      (refuses : Refuses world name (options.lookup name) fault)
      (took : Took options before command configured) :
      Outcome world options command names (.error fault) configured

theorem Outcome.cons {outcome : Except Fault Unit} (fits : Fits world name (options.lookup name))
    (first : Took options [name] command changed) (others : Outcome world options changed names outcome configured) :
    Outcome world options command (name :: names) outcome configured := by
  cases others with
  | whole fit took => exact .whole (List.forall_mem_cons.2 ⟨fits, fit⟩) (first.cons took)
  | stopped order fit refuses took =>
    exact .stopped (congrArg (name :: ·) order) (List.forall_mem_cons.2 ⟨fits, fit⟩) refuses (first.cons took)

theorem takeEach_outcome (own : ∀ name ∈ names, name ∈ command.settingNames) (world : World) (options : Options) :
    Outcome world options command names (takeEach world options names command).1
      (takeEach world options names command).2 := by
  induction names generalizing command with
  | nil => exact .whole (List.forall_mem_nil _) (.refl options command)
  | cons name names ih =>
    obtain ⟨isOwn, areOwn⟩ := List.forall_mem_cons.1 own
    unfold takeEach Options.value
    cases among : options.lookup name with
    | none => exact .stopped rfl (List.forall_mem_nil _) (among ▸ .lacking) (.refl options command)
    | some value =>
      dsimp only [bind, Except.bind]
      rcases give_cases isOwn world value with ⟨changed, given, fits, held, kept⟩ | ⟨fault, given, refuses⟩
      · rw [given]
        have kind := blank_of_give given
        have first : Took options [name] command changed := by
          refine ⟨kind, ?_, ?_⟩
          · intro other isName
            rw [List.mem_singleton.1 isName, held, among]
          · intro other different
            exact setting?_of_own kind fun isOwn => kept other isOwn (mt List.mem_singleton.2 different)
        exact .cons (among ▸ fits) first (ih (settingNames_of_blank kind ▸ areOwn))
      · rw [given]
        exact .stopped rfl (List.forall_mem_nil _) (among ▸ refuses) (.refl options command)

theorem configure_outcome (command : Command) (world : World) (options : Options) :
    Outcome world options command command.settingNames (command.configure world options).1.result
      (command.configure world options).2 :=
  takeEach_outcome (fun _ member => member) world options

theorem Took.eq_of_nil (took : Took options [] command configured) : configured = command :=
  eq_of_settings took.kind fun name _ => took.kept name List.not_mem_nil

/-- A refusal changes nothing, unless the packages of an info command were taken before it. -/
theorem eq_or_info_of_error {outcome : Except Fault Unit}
    (ended : Outcome world options command command.settingNames outcome configured) (failed : outcome = .error fault) :
    configured = command ∨ ∃ held packages detail, command = info held detail ∧ configured = info packages detail ∧
      options.lookup "package_list" = some packages ∧ Fits world "package_list" (some packages) ∧
      Refuses world "verbosity" (options.lookup "verbosity") fault := by
  cases ended with
  | whole => cases failed
  | @stopped before name after _ _ order fits refuses took =>
    obtain rfl := Except.error.inj failed
    cases before with
    | nil => exact .inl took.eq_of_nil
    | cons first others =>
      -- Only an info command has a setting before another one.
      cases command with
      | plain => cases order
      | reader held => simp [settingNames] at order
      | disks held => simp [settingNames] at order
      | info held detail =>
        obtain ⟨rfl, rest⟩ := List.cons.inj order
        obtain ⟨rfl, rfl⟩ : others = [] ∧ name = "verbosity" := by
          cases others with
          | nil => exact ⟨rfl, (List.cons.inj rest).1.symm⟩
          | cons => simp at rest
        have fit := fits "package_list" List.mem_cons_self
        obtain ⟨packages, among⟩ := given_of_fits fit
        refine .inr ⟨held, packages, detail, rfl, eq_of_settings took.kind ?_, among, among ▸ fit, refuses⟩
        intro other own
        rcases List.mem_pair.1 own with rfl | rfl
        · exact (took.taken "package_list" List.mem_cons_self).trans among
        · exact took.kept "verbosity" (by decide)

/-! ### Commands that were changed before -/

/-- A command is given one setting or several, with the files as they are at that time. -/
inductive Change where
  | set (world : World) (name : String) (value : Value)
  | configure (world : World) (options : Options)

namespace Change

def apply (command : Command) : Change → Command
  | set world name value => (command.give world name value).toOption.getD command
  | configure world options => (command.configure world options).2

/-- The value is among those that the change gives, and it fits. -/
inductive Offers : Change → (name : String) → Value → Prop
  | set {world : World} {name : String} {value : Value} (fits : Fits world name (some value)) :
      Offers (.set world name value) name value
  | configure {world : World} {options : Options} {name : String} {value : Value}
      (among : options.lookup name = some value) (fits : Fits world name (some value)) :
      Offers (.configure world options) name value

end Change

def after (command : Command) (changes : List Change) : Command :=
  changes.foldl Change.apply command

theorem Took.held_or_among {value : Value} (took : Took options names command configured)
    (fits : ∀ name ∈ names, Fits world name (options.lookup name)) (held : configured.setting? name = some value) :
    command.setting? name = some value ∨ (Change.configure world options).Offers name value := by
  by_cases member : name ∈ names
  · have among := (took.taken name member).symm.trans held
    exact .inr (.configure among (among ▸ fits name member))
  · exact .inl ((took.kept name member).symm.trans held)

theorem Outcome.held_or_among {outcome : Except Fault Unit} {value : Value}
    (ended : Outcome world options command names outcome configured) (held : configured.setting? name = some value) :
    command.setting? name = some value ∨ (Change.configure world options).Offers name value := by
  cases ended with
  | whole fits took => exact took.held_or_among fits held
  | stopped _ fits _ took => exact took.held_or_among fits held

theorem held_of_give {given value : Value} {other : String} (accepted : command.give world other given = .ok changed)
    (held : changed.setting? name = some value) :
    command.setting? name = some value ∨ (Change.set world other given).Offers name value := by
  by_cases own : other ∈ command.settingNames
  · rcases give_cases own world given with ⟨_, accepted', fits, isHeld, kept⟩ | ⟨fault, refused, -⟩
    · obtain rfl := Except.ok.inj (accepted.symm.trans accepted')
      by_cases same : name = other
      · subst same
        obtain rfl := Option.some.inj (isHeld.symm.trans held)
        exact .inr (.set fits)
      · have unchanged := setting?_of_own (blank_of_give accepted) fun isOwn => kept name isOwn same
        exact .inl (unchanged.symm.trans held)
    · rw [refused] at accepted
      cases accepted
  · rw [give_foreign own] at accepted
    obtain rfl := Except.ok.inj accepted
    exact .inl held

/-- What a command holds after a change it held before, or the change offered it. -/
theorem held_of_apply {change : Change} {value : Value} (held : (change.apply command).setting? name = some value) :
    command.setting? name = some value ∨ change.Offers name value := by
  cases change with
  | set world other given =>
    change ((command.give world other given).toOption.getD command).setting? name = some value at held
    cases accepted : command.give world other given with
    | ok changed =>
      rw [accepted] at held
      exact held_of_give accepted held
    | error fault =>
      rw [accepted] at held
      exact .inl held
  | configure world options => exact (command.configure_outcome world options).held_or_among held

theorem held_of_after {changes : List Change} {value : Value}
    (held : (command.after changes).setting? name = some value) :
    command.setting? name = some value ∨ ∃ change ∈ changes, change.Offers name value := by
  induction changes generalizing command with
  | nil => exact .inl held
  | cons change changes ih =>
    rcases ih held with before | ⟨later, member, offers⟩
    · rcases held_of_apply before with first | offers
      · exact .inl first
      · exact .inr ⟨change, List.mem_cons_self, offers⟩
    · exact .inr ⟨later, List.mem_cons_of_mem _ member, offers⟩

theorem blank_of_apply (change : Change) (command : Command) : (change.apply command).blank = command.blank := by
  cases change with
  | set world name value =>
    change ((command.give world name value).toOption.getD command).blank = command.blank
    cases given : command.give world name value with
    | ok changed => exact blank_of_give given
    | error fault => rfl
  | configure world options => exact blank_takeEach world options command.settingNames command

theorem blank_of_after (changes : List Change) (command : Command) :
    (command.after changes).blank = command.blank := by
  induction changes generalizing command with
  | nil => rfl
  | cons change changes ih => exact (ih (change.apply command)).trans (blank_of_apply change command)

theorem absent_of_blank {value : Value} (held : command.blank.setting? name = some value) : value = .absent := by
  have own : name ∈ command.blank.settingNames := by
    by_contra foreign
    rw [setting?_foreign foreign] at held
    cases held
  cases command with
  | plain => cases own
  | reader =>
    obtain rfl := List.mem_singleton.1 own
    exact (Option.some.inj held).symm
  | disks =>
    obtain rfl := List.mem_singleton.1 own
    exact (Option.some.inj held).symm
  | info =>
    rcases List.mem_pair.1 own with rfl | rfl
    · exact (Option.some.inj held).symm
    · exact (Option.some.inj held).symm

/-! ### Options of the form that users give them -/

/-- A package is a text or absent, and a list of packages lists texts. The detail may be anything. -/
structure Formed (name : String) (value : Value) : Prop where
  package : name = "package" → ∃ package, value = .ofText? package
  packages : name = "package_list" → ∃ packages : List String, value.elements? = some (packages.map .text)

theorem Misnames.isInput {package : String} (misnamed : Misnames world (.text package) fault) :
    fault.isInput = true := by
  cases misnamed with
  | missing => rfl
  | noText noText => exact absurd rfl (noText package)

theorem Refuses.isInput {value : Value} (refuses : Refuses world name (some value) fault)
    (formed : Formed name value) : fault.isInput = true := by
  cases refuses with
  | package given misnamed =>
    obtain ⟨package, rfl⟩ := formed.package rfl
    cases package with
    | none => exact absurd rfl given
    | some package => exact misnamed.isInput
  | packages lists _ misnamed =>
    obtain ⟨packages, areTexts⟩ := formed.packages rfl
    have member : _ ∈ packages.map Value.text :=
      Option.some.inj (lists.symm.trans areTexts) ▸ List.mem_append_right _ List.mem_cons_self
    obtain ⟨package, -, rfl⟩ := List.mem_map.1 member
    exact misnamed.isInput
  | noList noList =>
    obtain ⟨packages, areTexts⟩ := formed.packages rfl
    rw [noList] at areTexts
    cases areTexts
  | detail => rfl

theorem Outcome.isInput {outcome : Except Fault Unit} (ended : Outcome world options command names outcome configured)
    (formed : ∀ name ∈ names, ∃ value, options.lookup name = some value ∧ Formed name value)
    (failed : outcome = .error fault) : fault.isInput = true := by
  cases ended with
  | whole => cases failed
  | @stopped _ name _ _ _ order _ refuses =>
    obtain rfl := Except.error.inj failed
    have member : name ∈ names := order ▸ List.mem_append_right _ List.mem_cons_self
    obtain ⟨value, among, isFormed⟩ := formed name member
    rw [among] at refuses
    exact refuses.isInput isFormed

/-- A command that is configured, whatever changed it before, takes its settings up to the first that is
refused. So it takes all or none of them, but for an info command whose packages fit and whose detail is
refused: this one keeps the packages. -/
theorem configure_up_to_refusal (kind : Command) (changes : List Change) (world : World) (options : Options) :
    let command := kind.blank.after changes
    let outcome := (command.configure world options).1.result
    let configured := (command.configure world options).2
    command.blank = kind.blank ∧
    (∀ name value, command.setting? name = some value →
      value = .absent ∨ ∃ change ∈ changes, change.Offers name value) ∧
    Outcome world options command command.settingNames outcome configured ∧
    (∀ fault, outcome = .error fault → configured = command ∨
      ∃ held packages detail, command = info held detail ∧ configured = info packages detail ∧
        options.lookup "package_list" = some packages ∧ Fits world "package_list" (some packages) ∧
        Refuses world "verbosity" (options.lookup "verbosity") fault) ∧
    ((∀ name ∈ command.settingNames, ∃ value, options.lookup name = some value ∧ Formed name value) →
      ∀ fault, outcome = .error fault → fault.isInput = true) := by
  intro command outcome configured
  have ended := command.configure_outcome world options
  have isBlank : kind.blank.blank = kind.blank := by
    cases kind <;> rfl
  refine ⟨(blank_of_after changes kind.blank).trans isBlank, ?_, ended,
    fun fault failed => eq_or_info_of_error ended failed, fun formed fault failed => ended.isInput formed failed⟩
  intro name value held
  rcases held_of_after held with first | offered
  · exact .inl (absent_of_blank first)
  · exact .inr offered

/-- An info command that is given another package and a detail that there is none of refuses, and holds the
other package. -/
theorem configure_up_to_refusal_late :
    let world : World := ⟨⟨[(["a.ovf"], .file []), (["b.ovf"], .file [])], []⟩, [], 900⟩
    let options : Options := [("package_list", .texts ["/b.ovf"]), ("verbosity", .text "bogus")]
    let command := (info .absent .standard).after [.set world "package_list" (.texts ["/a.ovf"])]
    command.setting? "package_list" = some (.texts ["/a.ovf"]) ∧
    (command.configure world options).1.result = .error (.input .badVerbosity) ∧
    (Fault.input .badVerbosity).isInput = true ∧
    (command.configure world options).2.setting? "package_list" = some (.texts ["/b.ovf"]) := by
  intro world options command
  have given (held : Value) (package : String)
      (isThere : (Storage.isRemote package || world.files.exists? package) = true) :
      (info held .standard).give world "package_list" (.texts [package]) =
        .ok (info (.texts [package]) .standard) := by
    unfold give
    dsimp only
    rw [if_pos rfl, acceptPackages_single (if_pos isThere)]
    rfl
  have isHeld : command = info (.texts ["/a.ovf"]) .standard := by
    change ((info .absent .standard).give world "package_list" (.texts ["/a.ovf"])).toOption.getD _ = _
    rw [given .absent "/a.ovf" (by decide +kernel)]
    rfl
  have taken : command.take world options =
      (.error (.input .badVerbosity), info (.texts ["/b.ovf"]) .standard) := by
    rw [isHeld]
    have first : (do (info (.texts ["/a.ovf"]) .standard).give world "package_list" (← options.value "package_list")) =
        .ok (info (.texts ["/b.ovf"]) .standard) := given (.texts ["/a.ovf"]) "/b.ovf" (by decide +kernel)
    change takeEach world options ["package_list", "verbosity"] _ = _
    rw [takeEach, first]
    rfl
  have refused : (command.configure world options).1.result = .error (.input .badVerbosity) := by
    rw [configure, taken]
    rfl
  refine ⟨by rw [isHeld]; rfl, refused, ?_, by rw [configure, taken]; rfl⟩
  have formed : ∀ name ∈ command.settingNames, ∃ value, options.lookup name = some value ∧ Formed name value := by
    rw [isHeld]
    intro name member
    rcases List.mem_pair.1 member with rfl | rfl
    · exact ⟨_, rfl, by simp, fun _ => ⟨["/b.ovf"], rfl⟩⟩
    · exact ⟨_, rfl, by simp, by simp⟩
  exact (configure_up_to_refusal (info .absent .standard) [.set world "package_list" (.texts ["/a.ovf"])]
    world options).2.2.2.2 formed _ refused

end Command

end OvfInspect
