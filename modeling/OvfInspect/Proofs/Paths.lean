import OvfInspect.Storage.Path

/-!
# Where paths lead

The components of a path lead step by step from a place to another. Normal forms and joined paths
lead where the paths do that they are made from, as `foldl_step_normalize` and `foldl_step_join` say.
-/

namespace OvfInspect.Storage.Path

/-! ### Components -/

theorem isAbsolute_iff {path : String} :
    isAbsolute path = true ↔ ∃ rest, path.toList = '/' :: rest := by
  unfold isAbsolute
  rw [String.startsWith_string_iff]
  constructor
  · rintro ⟨rest, h⟩
    exact ⟨rest, h.symm⟩
  · rintro ⟨rest, h⟩
    exact ⟨rest, h.symm⟩

theorem endsWith_iff {path ending : String} :
    path.endsWith ending = true ↔ ∃ before, path = before ++ ending := by
  rw [← String.endsWith_toSlice, String.Slice.endsWith_string_iff, String.copy_toSlice]
  constructor
  · rintro ⟨before, h⟩
    refine ⟨String.ofList before, ?_⟩
    rw [← String.toList_inj, String.toList_append, String.toList_ofList, h]
  · rintro ⟨before, rfl⟩
    exact ⟨before.toList, String.toList_append.symm⟩

theorem components_append_slash (before after : String) :
    components (before ++ "/" ++ after) = components before ++ components after := by
  have slash : "/".toList = ['/'] := rfl
  unfold components
  rw [String.toList_append, String.toList_append, slash, List.append_assoc, List.singleton_append,
    List.splitOn_append_cons_self, List.map_append]

theorem slash_not_mem_part {cs part : List Char} (h : part ∈ cs.splitOn '/') : '/' ∉ part := by
  induction cs generalizing part with
  | nil =>
    rw [List.splitOn_nil, List.mem_singleton] at h
    rw [h]
    exact List.not_mem_nil
  | cons c cs ih =>
    rw [List.splitOn_cons_eq_if_modifyHead] at h
    split at h
    · rcases List.mem_cons.1 h with rfl | h
      · exact List.not_mem_nil
      · exact ih h
    · next other =>
      cases parts : cs.splitOn '/' with
      | nil => exact absurd parts (List.splitOn_ne_nil _ _)
      | cons first rest =>
        rw [parts] at h ih
        rcases List.mem_cons.1 h with rfl | h
        · rw [List.mem_cons, not_or]
          exact ⟨fun same => other (beq_iff_eq.2 same.symm), ih List.mem_cons_self⟩
        · exact ih (List.mem_cons_of_mem _ h)

theorem slash_not_mem_component {path c : String} (h : c ∈ components path) : '/' ∉ c.toList := by
  obtain ⟨part, member, rfl⟩ := List.mem_map.1 h
  rw [String.toList_ofList]
  exact slash_not_mem_part member

theorem components_intercalate {names : List String} (nonempty : names ≠ [])
    (plain : ∀ name ∈ names, '/' ∉ name.toList) : components ("/".intercalate names) = names := by
  have slash : "/".toList = ['/'] := rfl
  have parts : ∀ part ∈ names.map String.toList, '/' ∉ part := by
    simpa using plain
  unfold components
  rw [String.toList_intercalate, slash, List.splitOn_intercalate _ parts (by simpa using nonempty),
    List.map_map]
  simp [Function.comp_def]

/-! ### Steps -/

/-- The place that a component leads to. A step up from the root stays there. -/
def step (place : List String) (component : String) : List String :=
  if !isProper component then place
  else if component = ".." then place.dropLast
  else place ++ [component]

theorem step_of_not_proper {c : String} (place : List String) (h : isProper c = false) :
    step place c = place := by
  rw [step, if_pos (by rw [h]; rfl)]

theorem foldl_step_filter (cs base : List String) :
    (cs.filter isProper).foldl step base = cs.foldl step base := by
  induction cs generalizing base with
  | nil => rfl
  | cons c cs ih =>
    rw [List.filter_cons, List.foldl_cons]
    split
    · rw [List.foldl_cons, ih]
    · next improper => rw [ih, step_of_not_proper base (Bool.eq_false_iff.2 improper)]

variable {base before : List String} {absolute : Bool} {c : String}

theorem isProper_of_mem_extend {name : String} (proper : ∀ name ∈ before, isProper name = true)
    (h : name ∈ extend absolute before c) : isProper name = true := by
  unfold extend at h
  split at h
  · exact proper name h
  · next isName =>
    split at h
    · split at h
      · cases absolute with
        | true => cases h
        | false =>
          rw [List.mem_singleton.1 h]
          rfl
      · next last rest =>
        split at h
        · rcases List.mem_cons.1 h with rfl | h
          · rfl
          · exact proper name h
        · exact proper name (List.mem_cons_of_mem _ h)
    · rcases List.mem_cons.1 h with rfl | h
      · simpa using isName
      · exact proper name h

theorem foldl_step_extend (proper : ∀ name ∈ before, isProper name = true)
    (fromRoot : absolute = true → base = []) :
    (extend absolute before c).reverse.foldl step base = step (before.reverse.foldl step base) c := by
  unfold extend
  split
  · next improper => rw [step, if_pos improper]
  · next isName =>
    split
    · next up =>
      subst up
      have stepUp (place : List String) : step place ".." = place.dropLast := rfl
      cases before with
      | nil =>
        cases absolute with
        | true =>
          rw [fromRoot rfl]
          rfl
        | false => rfl
      | cons last rest =>
        dsimp only
        split
        · next lastUp =>
          subst lastUp
          rw [List.reverse_cons, List.foldl_append]
          rfl
        · next lastName =>
          have isLast : isProper last = true := proper last List.mem_cons_self
          rw [List.reverse_cons, List.foldl_append, List.foldl_cons, List.foldl_nil, stepUp, step,
            if_neg (by rw [isLast]; decide), if_neg lastName, List.dropLast_concat]
    · rw [List.reverse_cons, List.foldl_append]
      rfl

theorem foldl_step_foldl_extend {cs : List String} (proper : ∀ name ∈ before, isProper name = true)
    (fromRoot : absolute = true → base = []) :
    (cs.foldl (extend absolute) before).reverse.foldl step base =
      cs.foldl step (before.reverse.foldl step base) := by
  induction cs generalizing before with
  | nil => rfl
  | cons c cs ih =>
    rw [List.foldl_cons, List.foldl_cons, ih fun _ => isProper_of_mem_extend proper,
      foldl_step_extend proper fromRoot]

/-- The normal components of a path lead where the path does. -/
theorem foldl_step_normalComponents {path : String} (fromRoot : isAbsolute path = true → base = []) :
    (normalComponents path).foldl step base = (components path).foldl step base := by
  unfold normalComponents
  rw [foldl_step_foldl_extend (by simp) fromRoot]
  rfl

/-! ### Normal forms -/

theorem isProper_of_mem_normalComponents {path name : String} (h : name ∈ normalComponents path) :
    isProper name = true := by
  have proper : ∀ (cs before : List String), (∀ name ∈ before, isProper name = true) →
      ∀ name ∈ cs.foldl (extend (isAbsolute path)) before, isProper name = true := by
    intro cs
    induction cs with
    | nil => exact fun before h => h
    | cons c cs ih => exact fun before h => ih _ fun _ => isProper_of_mem_extend h
  exact proper _ [] (by simp) name (List.mem_reverse.1 h)

theorem mem_extend {name : String} (h : name ∈ extend absolute before c) :
    name ∈ before ∨ name = c ∨ name = ".." := by
  unfold extend at h
  grind

theorem mem_foldl_extend {name : String} {cs : List String} (h : name ∈ cs.foldl (extend absolute) before) :
    name ∈ before ∨ name ∈ cs ∨ name = ".." := by
  induction cs generalizing before with
  | nil => exact Or.inl h
  | cons c cs ih =>
    rcases ih h with h | h | h
    · rcases mem_extend h with h | rfl | h
      · exact Or.inl h
      · exact Or.inr (Or.inl List.mem_cons_self)
      · exact Or.inr (Or.inr h)
    · exact Or.inr (Or.inl (List.mem_cons_of_mem _ h))
    · exact Or.inr (Or.inr h)

theorem mem_normalComponents {path name : String} (h : name ∈ normalComponents path) :
    name ∈ components path ∨ name = ".." :=
  (mem_foldl_extend (List.mem_reverse.1 h)).resolve_left List.not_mem_nil

theorem slash_not_mem_normalComponent {path name : String} (h : name ∈ normalComponents path) :
    '/' ∉ name.toList := by
  rcases mem_normalComponents h with h | rfl
  · exact slash_not_mem_component h
  · decide

theorem leadingSlashes_cases (path : String) :
    leadingSlashes path = "" ∧ isAbsolute path = false ∨
      (leadingSlashes path = "/" ∨ leadingSlashes path = "//") ∧ isAbsolute path = true := by
  unfold leadingSlashes
  cases isAbsolute path with
  | false => exact Or.inl ⟨rfl, rfl⟩
  | true =>
    refine Or.inr ⟨?_, rfl⟩
    rw [if_neg (by decide)]
    split
    · exact Or.inr rfl
    · exact Or.inl rfl

theorem filter_components_leadingSlashes (path rest : String) :
    (components (leadingSlashes path ++ rest)).filter isProper = (components rest).filter isProper := by
  have slash (rest : String) : components ("/" ++ rest) = "" :: components rest :=
    components_append_slash "" rest
  rcases leadingSlashes_cases path with ⟨none, -⟩ | ⟨one | two, -⟩
  · rw [none, String.empty_append]
  · rw [one, slash]
    rfl
  · rw [two, show ("//" : String) = "/" ++ "/" from rfl, String.append_assoc, slash, slash]
    rfl

theorem filter_components_intercalate_normal (path : String) :
    (components ("/".intercalate (normalComponents path))).filter isProper = normalComponents path := by
  cases names : normalComponents path with
  | nil => rfl
  | cons name rest =>
    rw [← names, components_intercalate (by rw [names]; exact List.cons_ne_nil _ _)
      fun _ => slash_not_mem_normalComponent, List.filter_eq_self]
    exact fun _ => isProper_of_mem_normalComponents

theorem filter_components_normalize (path : String) :
    (components (normalize path)).filter isProper = normalComponents path := by
  have normal : (components (leadingSlashes path ++ "/".intercalate (normalComponents path))).filter
      isProper = normalComponents path := by
    rw [filter_components_leadingSlashes, filter_components_intercalate_normal]
  unfold normalize
  dsimp only
  split
  · next empty =>
    rw [empty] at normal
    rw [← normal]
    rfl
  · exact normal

/-- The normal form of a path leads where the path does. An absolute path starts at the root. -/
theorem foldl_step_normalize {path : String} (fromRoot : isAbsolute path = true → base = []) :
    (components (normalize path)).foldl step base = (components path).foldl step base := by
  rw [← foldl_step_filter, filter_components_normalize, foldl_step_normalComponents fromRoot]

theorem normalComponents_of_noStepUp {path : String} (noStepUp : ".." ∉ components path) :
    normalComponents path = (components path).filter isProper := by
  have names : ∀ (cs before : List String), ".." ∉ cs →
      (cs.foldl (extend (isAbsolute path)) before).reverse = before.reverse ++ cs.filter isProper := by
    intro cs
    induction cs with
    | nil =>
      intro before _
      exact (List.append_nil _).symm
    | cons c cs ih =>
      intro before noUp
      rw [List.mem_cons, not_or] at noUp
      have extended : extend (isAbsolute path) before c = if isProper c then c :: before else before := by
        unfold extend
        rw [if_neg (Ne.symm noUp.1)]
        cases isProper c <;> rfl
      rw [List.foldl_cons, ih _ noUp.2, List.filter_cons, extended]
      cases isProper c <;> simp
  rw [normalComponents, names _ [] noStepUp]
  rfl

theorem isAbsolute_append {path : String} (h : isAbsolute path = true) (rest : String) :
    isAbsolute (path ++ rest) = true := by
  obtain ⟨cs, slash⟩ := isAbsolute_iff.1 h
  rw [isAbsolute_iff, String.toList_append, slash]
  exact ⟨cs ++ rest.toList, rfl⟩

theorem isAbsolute_intercalate_normal (path : String) :
    isAbsolute ("/".intercalate (normalComponents path)) = false := by
  rw [← Bool.not_eq_true, isAbsolute_iff]
  rintro ⟨rest, h⟩
  have empty : "" ∈ components ("/".intercalate (normalComponents path)) := by
    have slash : "/".intercalate (normalComponents path) = "" ++ "/" ++ String.ofList rest := by
      rw [← String.toList_inj, h]
      simp
    rw [slash, components_append_slash]
    exact List.mem_cons_self
  cases names : normalComponents path with
  | nil =>
    rw [names] at h
    cases h
  | cons name others =>
    rw [components_intercalate (by rw [names]; exact List.cons_ne_nil _ _)
      fun _ => slash_not_mem_normalComponent] at empty
    cases isProper_of_mem_normalComponents empty

theorem isAbsolute_normalize (path : String) : isAbsolute (normalize path) = isAbsolute path := by
  have slash : isAbsolute "/" = true := isAbsolute_iff.2 ⟨[], rfl⟩
  have slashes : isAbsolute "//" = true := isAbsolute_append slash "/"
  have leading : isAbsolute (leadingSlashes path ++ "/".intercalate (normalComponents path)) =
      isAbsolute path := by
    rcases leadingSlashes_cases path with ⟨none, relative⟩ | ⟨one | two, absolute⟩
    · rw [none, String.empty_append, relative, isAbsolute_intercalate_normal]
    · rw [one, absolute, isAbsolute_append slash]
    · rw [two, absolute, isAbsolute_append slashes]
  have point : isAbsolute "." = isAbsolute "" := by
    rw [Bool.eq_iff_iff, isAbsolute_iff, isAbsolute_iff]
    simp
  unfold normalize
  dsimp only
  split
  · next empty =>
    rw [empty] at leading
    rw [point, leading]
  · exact leading

/-! ### Joined paths -/

theorem isAbsolute_join {directory : String} (h : isAbsolute directory = true) (name : String) :
    isAbsolute (join directory name) = true := by
  unfold join
  split
  · next absolute => exact absolute
  · split
    · exact isAbsolute_append h name
    · exact isAbsolute_append (isAbsolute_append h "/") name

theorem join_of_absolute {name : String} (directory : String) (h : isAbsolute name = true) :
    join directory name = name := by
  rw [join, if_pos h]

theorem exists_join_eq (directory : String) :
    ∃ before, ∀ name, isAbsolute name = false → join directory name = before ++ name := by
  unfold join
  split
  · exact ⟨directory, fun name h => if_neg (by rw [h]; decide)⟩
  · exact ⟨directory ++ "/", fun name h => if_neg (by rw [h]; decide)⟩

theorem components_join {name : String} (directory : String) (h : isAbsolute name = false) :
    ∃ before, components (join directory name) = before ++ components name ∧
      before.filter isProper = (components directory).filter isProper := by
  unfold join
  rw [if_neg (by rw [h]; decide)]
  split
  · next noSlash =>
    rw [Bool.or_eq_true, decide_eq_true_iff, endsWith_iff] at noSlash
    rcases noSlash with rfl | ⟨before, rfl⟩
    · exact ⟨[], by rw [String.empty_append]; rfl, rfl⟩
    · have ended : components (before ++ "/") = components before ++ [""] := by
        have parts := components_append_slash before ""
        rwa [String.append_empty] at parts
      refine ⟨components before, components_append_slash before name, ?_⟩
      rw [ended, List.filter_append]
      exact (List.append_nil _).symm
  · exact ⟨components directory, components_append_slash directory name, rfl⟩

theorem foldl_step_join {name : String} (directory : String) (h : isAbsolute name = false) :
    (components (join directory name)).foldl step base =
      (components name).foldl step ((components directory).foldl step base) := by
  obtain ⟨before, joined, names⟩ := components_join directory h
  rw [joined, List.foldl_append, ← foldl_step_filter before, names, foldl_step_filter]

end OvfInspect.Storage.Path
