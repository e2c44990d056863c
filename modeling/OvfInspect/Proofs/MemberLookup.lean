import Mathlib.Logic.Relation
import OvfInspect.Proofs.DirectoryLookup

/-!
# Looking up in archives

A name is looked up in an archive by its normal form, and an extension by the ends of the members' names.
`member_lookup` says which member is found. Names that are spelled in different ways have one normal form
if their spellings differ by components that lead nowhere, as `normalize_of_respelled` shows.
-/

namespace OvfInspect.Storage.Path

/-! ### Spellings -/

/-- Components that lead nowhere: none at all, the place itself, or a name and the step back up from it. -/
inductive Idle : List String → Prop
  | empty : Idle [""]
  | here : Idle ["."]
  | back {name : String} (noSlash : '/' ∉ name.toList) (isName : isProper name = true) (notUp : name ≠ "..") :
    Idle [name, ".."]

/-- The other path has idle components more, which are not among the slashes that it begins with. -/
structure Inserted (path other : String) : Prop where
  split : ∃ before idle after, Idle idle ∧ components path = before ++ after ∧
    components other = before ++ idle ++ after
  slashes : leadingSlashes other = leadingSlashes path

/-- Two spellings of a path, which idle components lead from one to the other. -/
def Respelled : String → String → Prop :=
  Relation.EqvGen Inserted

variable {absolute : Bool} {before idle : List String} {path other front : String}

theorem Idle.foldl_extend (h : Idle idle) (before : List String) :
    idle.foldl (extend absolute) before = before := by
  cases h with
  | empty => rfl
  | here => rfl
  | @back name _ isName notUp =>
    have down : extend absolute before name = name :: before := by
      unfold extend
      rw [if_neg (by rw [isName]; decide), if_neg notUp]
    have up : extend absolute (name :: before) ".." = before := by
      unfold extend
      rw [if_neg (by decide), if_pos rfl]
      exact if_neg notUp
    rw [List.foldl_cons, List.foldl_cons, List.foldl_nil, down, up]

theorem Idle.noSlash (h : Idle idle) : ∀ c ∈ idle, '/' ∉ c.toList := by
  cases h with
  | empty => decide
  | here => decide
  | back noSlash _ _ => exact List.forall_mem_cons.2 ⟨noSlash, by decide⟩

theorem Idle.components_intercalate (h : Idle idle) : components ("/".intercalate idle) = idle := by
  refine Path.components_intercalate ?_ h.noSlash
  rintro rfl
  cases h

theorem isAbsolute_eq (path : String) : isAbsolute path = (leadingSlashes path != "") := by
  rcases leadingSlashes_cases path with ⟨none, relative⟩ | ⟨one | two, absolute⟩
  · rw [none, relative]
    rfl
  · rw [one, absolute]
    rfl
  · rw [two, absolute]
    rfl

theorem Inserted.normalize_eq (h : Inserted path other) : normalize other = normalize path := by
  obtain ⟨⟨before, idle, after, isIdle, parts, parts'⟩, slashes⟩ := h
  have names : normalComponents other = normalComponents path := by
    rw [normalComponents, normalComponents, isAbsolute_eq, isAbsolute_eq, slashes, parts, parts', List.foldl_append,
      List.foldl_append, isIdle.foldl_extend, List.foldl_append]
  rw [normalize, normalize, slashes, names]

/-- All spellings have the same normal form. -/
theorem normalize_of_respelled (h : Respelled path other) : normalize other = normalize path := by
  induction h with
  | rel _ _ inserted => exact inserted.normalize_eq
  | refl _ => rfl
  | symm _ _ _ ih => exact ih.symm
  | trans _ _ _ _ _ ih ih' => exact ih'.trans ih

theorem startsWith_append_of_named {slashes : String} (only : slashes.toList.all (· == '/') = true)
    (named : ∃ c ∈ front.toList, c ≠ '/') (rest : String) :
    (front ++ rest).startsWith slashes = front.startsWith slashes := by
  rw [Bool.eq_iff_iff, String.startsWith_string_iff, String.startsWith_string_iff, String.toList_append]
  constructor
  · intro begins
    rcases List.prefix_or_prefix_of_prefix begins (List.prefix_append front.toList rest.toList) with inside | beyond
    · exact inside
    · obtain ⟨c, member, other⟩ := named
      exact absurd (beq_iff_eq.1 (List.all_eq_true.1 only c (beyond.subset member))) other
  · exact fun begins => begins.trans (List.prefix_append _ _)

theorem leadingSlashes_append (named : ∃ c ∈ front.toList, c ≠ '/') (rest : String) :
    leadingSlashes (front ++ rest) = leadingSlashes front := by
  unfold leadingSlashes isAbsolute
  rw [startsWith_append_of_named (by decide) named, startsWith_append_of_named (by decide) named,
    startsWith_append_of_named (by decide) named]

/-- Idle components behind something that is no slash, such as a second slash, lead to another spelling. -/
theorem respelled_inside (h : Idle idle) (named : ∃ c ∈ front.toList, c ≠ '/') (back : String) :
    Respelled (front ++ "/" ++ back) (front ++ "/" ++ "/".intercalate idle ++ "/" ++ back) := by
  refine .rel _ _ ⟨⟨components front, idle, components back, h, components_append_slash front back, ?_⟩, ?_⟩
  · rw [components_append_slash, components_append_slash, h.components_intercalate]
  · rw [String.append_assoc, String.append_assoc, String.append_assoc, leadingSlashes_append named,
      String.append_assoc, leadingSlashes_append named]

/-- The text of idle components begins like a relative path unless they are just a slash. -/
theorem Idle.exists_intercalate_eq (h : Idle idle) (visible : idle ≠ [""]) :
    ∃ first rest, "/".intercalate idle = first ++ rest ∧ '/' ∉ first.toList ∧ first ≠ "" := by
  cases h with
  | empty => exact absurd rfl visible
  | here => exact ⟨".", "", rfl, by decide, by decide⟩
  | @back name noSlash isName _ =>
    refine ⟨name, "/..", ?_, noSlash, ?_⟩
    · rw [String.intercalate_cons_cons, String.intercalate_singleton, String.append_assoc]
      rfl
    · rintro rfl
      cases isName

/-- Idle components before a relative path lead to another spelling, if they do not make it absolute. -/
theorem respelled_before (h : Idle idle) (visible : idle ≠ [""]) (relative : isAbsolute path = false) :
    Respelled path ("/".intercalate idle ++ "/" ++ path) := by
  refine .rel _ _ ⟨⟨[], idle, components path, h, rfl, ?_⟩, ?_⟩
  · rw [components_append_slash, h.components_intercalate]
    rfl
  · obtain ⟨first, rest, text, noSlash, someChar⟩ := h.exists_intercalate_eq visible
    have named : ∃ c ∈ first.toList, c ≠ '/' := by
      obtain ⟨c, member⟩ := List.exists_mem_of_ne_nil first.toList (by simpa using someChar)
      exact ⟨c, member, fun slash => noSlash (slash ▸ member)⟩
    rw [text, String.append_assoc, String.append_assoc, leadingSlashes_append named,
      leadingSlashes_of_relative (isAbsolute_of_noSlash noSlash), leadingSlashes_of_relative relative]

end OvfInspect.Storage.Path

namespace OvfInspect.Storage.Archive

variable {tree : FileTree} {base wanted other : String} {holding : Holding} {handle : Handle}

/-! ### Look-ups -/

/-- The handle to a member of the archive. -/
def handleTo (tree : FileTree) (base : String) (member : Member) : Handle :=
  ⟨base, member.name, Path.join (tree.absoluteForm base) (Path.normalize member.name)⟩

theorem suits_of_name (isName : isExtension wanted = false) {member : Member} : suits wanted member = true ↔
    member.isFile = true ∧ Path.normalize member.name = Path.normalize wanted := by
  rw [suits, answers, if_neg (by rw [isName]; decide), Bool.and_eq_true, beq_iff_eq]

theorem suits_of_extension (extension : isExtension wanted = true) {member : Member} :
    suits wanted member = true ↔ member.isFile = true ∧ member.name.endsWith wanted = true := by
  rw [suits, answers, if_pos extension, Bool.and_eq_true]

theorem suits_congr (isName : isExtension wanted = false) (isName' : isExtension other = false)
    (same : Path.normalize other = Path.normalize wanted) : suits other = suits wanted := by
  funext member
  rw [Bool.eq_iff_iff, suits_of_name isName, suits_of_name isName', same]

theorem result_join (tree : FileTree) (base name : String) :
    (join tree base name).result = .ok (Path.join (tree.absoluteForm base) (Path.normalize name)) :=
  join_ok_iff.2 ⟨_, result_absolutePath tree base, rfl⟩

section

variable (isOpened : (openAt tree base).result = .ok (.ok holding))
include isOpened

theorem result_find_eq (wanted : String) : (find tree base (some wanted)).result =
    match holding.listing.find? (suits wanted) with
      | some member => .ok (handleTo tree base member)
      | none => .error (.storage (.notFound (some wanted) base)) :=
  result_find isOpened (result_absolutePath tree base) wanted

theorem find_ok_iff : (find tree base (some wanted)).result = .ok handle ↔
    ∃ p, IsFirst wanted holding.listing p ∧ handle = handleTo tree base p.1 := by
  rw [result_find_eq isOpened]
  constructor
  · intro found
    split at found
    · next member chosen =>
      obtain ⟨has, before, after, split, others⟩ := List.find?_eq_some_iff_append.1 chosen
      exact ⟨(member, before), ⟨has, by simpa using others, after, split⟩, (Except.ok.inj found).symm⟩
    · cases found
  · rintro ⟨p, ⟨has, first, after, split⟩, rfl⟩
    have chosen : holding.listing.find? (suits wanted) = some p.1 :=
      List.find?_eq_some_iff_append.2 ⟨has, p.2, after, split, by simpa using first⟩
    rw [chosen]

theorem exists_find_ok_iff : (∃ handle, (find tree base (some wanted)).result = .ok handle) ↔
    ∃ member ∈ holding.listing, suits wanted member = true := by
  rw [result_find_eq isOpened]
  split
  · next member chosen =>
    exact ⟨fun _ => ⟨member, List.mem_of_find?_eq_some chosen, List.find?_some chosen⟩, fun _ => ⟨_, rfl⟩⟩
  · next none =>
    refine ⟨?_, ?_⟩
    · rintro ⟨handle, found⟩
      cases found
    · rintro ⟨member, listed, suited⟩
      exact absurd suited (List.find?_eq_none.1 none member listed)

theorem find_error_of_none (none : ¬ ∃ handle, (find tree base (some wanted)).result = .ok handle) :
    (find tree base (some wanted)).result = .error (.storage (.notFound (some wanted) base)) := by
  rw [result_find_eq isOpened] at none ⊢
  split at none
  · exact absurd ⟨_, rfl⟩ none
  · rfl

theorem path_of_find (isName : isExtension wanted = false)
    (found : (find tree base (some wanted)).result = .ok handle) :
    (join tree base wanted).result = .ok handle.path := by
  obtain ⟨p, first, rfl⟩ := (find_ok_iff isOpened).1 found
  rw [result_join, ← ((suits_of_name isName).1 first.has).2]
  rfl

theorem find_congr (isName : isExtension wanted = false) (isName' : isExtension other = false)
    (same : Path.normalize other = Path.normalize wanted) :
    (∃ handle, (find tree base (some wanted)).result = .ok handle ∧
        (find tree base (some other)).result = .ok handle) ∨
      (find tree base (some wanted)).result = .error (.storage (.notFound (some wanted) base)) ∧
        (find tree base (some other)).result = .error (.storage (.notFound (some other) base)) := by
  rw [result_find_eq isOpened, result_find_eq isOpened, suits_congr isName isName' same]
  cases holding.listing.find? (suits wanted) with
  | some member => exact .inl ⟨_, rfl, rfl⟩
  | none => exact .inr ⟨rfl, rfl⟩

end

/-- A name is found just if a regular member has the same normal form, and an extension just if the name of
a regular member ends with it. It is the first such member that is found. The path of what a name finds is
the location of the name, however it and the member are spelled; spelling it differently changes nothing. -/
theorem member_lookup (isOpened : (openAt tree base).result = .ok (.ok holding)) (wanted : String) :
    ((∃ handle, (find tree base (some wanted)).result = .ok handle) ↔
      ∃ member ∈ holding.listing, member.isFile = true ∧
        if isExtension wanted then member.name.endsWith wanted = true
        else Path.normalize member.name = Path.normalize wanted) ∧
    (∀ handle, (find tree base (some wanted)).result = .ok handle ↔
      ∃ p, IsFirst wanted holding.listing p ∧ handle = handleTo tree base p.1) ∧
    ((¬ ∃ handle, (find tree base (some wanted)).result = .ok handle) →
      (find tree base (some wanted)).result = .error (.storage (.notFound (some wanted) base))) ∧
    (isExtension wanted = false →
      (∀ handle, (find tree base (some wanted)).result = .ok handle →
        (join tree base wanted).result = .ok handle.path) ∧
      (∀ member ∈ holding.listing, member.isFile = true → Path.Respelled wanted member.name →
        ∃ handle, (find tree base (some wanted)).result = .ok handle) ∧
      ∀ other, isExtension other = false →
        Path.normalize other = Path.normalize wanted ∨ Path.Respelled wanted other →
        (∃ handle, (find tree base (some wanted)).result = .ok handle ∧
          (find tree base (some other)).result = .ok handle) ∨
        (find tree base (some wanted)).result = .error (.storage (.notFound (some wanted) base)) ∧
          (find tree base (some other)).result = .error (.storage (.notFound (some other) base))) := by
  refine ⟨?_, fun _ => find_ok_iff isOpened, find_error_of_none isOpened, fun isName =>
    ⟨fun _ => path_of_find isOpened isName, fun member listed regular respelled => ?_,
      fun other isName' same => find_congr isOpened isName isName' ?_⟩⟩
  · rw [exists_find_ok_iff isOpened]
    cases extension : isExtension wanted with
    | true => simp only [suits_of_extension extension, if_pos]
    | false => simp only [suits_of_name extension, Bool.false_eq_true, if_false]
  · have normal := Path.normalize_of_respelled respelled
    exact (exists_find_ok_iff isOpened).2 ⟨member, listed, (suits_of_name isName).2 ⟨regular, normal⟩⟩
  · rcases same with same | respelled
    · exact same
    · exact Path.normalize_of_respelled respelled

/-- A directory and a link that match, and two files, of which the first has a name with idle components. -/
def mixedMembers : List Member :=
  [⟨"a.vmdk", .directory⟩, ⟨"./a.vmdk", .symbolicLink "b"⟩, ⟨"x//../a.vmdk", .file [1]⟩, ⟨"a.vmdk", .file [2]⟩]

def mixedFiles : FileTree := ⟨[(["p.ova"], .archive mixedMembers)], []⟩

theorem openAt_mixed : (openAt mixedFiles "/p.ova").result = .ok (.ok (.ofMembers mixedMembers)) := by
  have absolute : (absolutePath mixedFiles "/p.ova").result = .ok "/p.ova" := by
    rw [result_absolutePath, if_pos (by decide +kernel)]
  have there : mixedFiles.entry? "/p.ova" = some (.archive mixedMembers) := by decide +kernel
  have stored : mixedMembers.map stored = mixedMembers := by decide +kernel
  rw [openAt_of_archive absolute there, stored]

/-- The first of the files is found by every spelling of its name, and by its extension. -/
theorem member_lookup_mixed :
    let handle : Handle := ⟨"/p.ova", "x//../a.vmdk", "/p.ova/a.vmdk"⟩
    (find mixedFiles "/p.ova" (some "a.vmdk")).result = .ok handle ∧
    (join mixedFiles "/p.ova" "a.vmdk").result = .ok handle.path ∧
    (find mixedFiles "/p.ova" (some ".//a.vmdk")).result = .ok handle ∧
    (find mixedFiles "/p.ova" (some ".vmdk")).result = .ok handle ∧
    (find mixedFiles "/p.ova" (some "b")).result = .error (.storage (.notFound (some "b") "/p.ova")) := by
  intro handle
  have isHandle : handle = handleTo mixedFiles "/p.ova" ⟨"x//../a.vmdk", .file [1]⟩ := by decide +kernel
  have pointed : Path.Respelled "a.vmdk" "./a.vmdk" :=
    Path.respelled_before .here (by decide) (by decide +kernel)
  have doubled : Path.Respelled "./a.vmdk" ".//a.vmdk" :=
    @Path.respelled_inside [""] "." .empty ⟨'.', by decide⟩ "a.vmdk"
  obtain ⟨-, first, -, named⟩ := member_lookup openAt_mixed "a.vmdk"
  obtain ⟨path, -, alike⟩ := named (by decide +kernel)
  obtain ⟨-, first', -, -⟩ := member_lookup openAt_mixed ".vmdk"
  obtain ⟨exists_iff, -, missing, -⟩ := member_lookup openAt_mixed "b"
  have found : (find mixedFiles "/p.ova" (some "a.vmdk")).result = .ok handle :=
    (first handle).2 ⟨(_, mixedMembers.take 2), ⟨by decide +kernel, by decide +kernel, _, rfl⟩, isHandle⟩
  refine ⟨found, path handle found, ?_, ?_, missing fun some => ?_⟩
  · rcases alike ".//a.vmdk" (by decide +kernel) (.inr (pointed.trans _ _ _ doubled)) with ⟨handle', found', same⟩ | ⟨failed, -⟩
    · rwa [Except.ok.inj (found.symm.trans found')]
    · cases found.symm.trans failed
  · exact (first' handle).2 ⟨(_, mixedMembers.take 2), ⟨by decide +kernel, by decide +kernel, _, rfl⟩, isHandle⟩
  · revert some
    rw [exists_iff]
    decide +kernel

end OvfInspect.Storage.Archive
