import OvfInspect.Proofs.Links
import OvfInspect.Proofs.Lookup

/-!
# Reading what was found in archives

A look-up in an archive goes through the members from the first on, and keeps the name of the member
that it chooses; reading goes by that name alone. `read_found` says what is read in the end.
-/

namespace OvfInspect.Storage

open Archive

/-! ### Content -/

/-- The content of the member at a position. -/
def Holding.content : Holding → Position → Except Unread (List UInt8)
  | ofMembers _, position => bytesOf position.1
  | ofTape tape records, position =>
    match records[position.2.length]?, position.1.kind with
    | some record, .file _ => (record.content tape).mapError .ofDamage
    | some record, .unknown _ => (record.content tape).mapError .ofDamage
    | _, _ => .error (.unreadable .noContent)

theorem Holding.readName_ok_iff {holding : Holding} {name : String} {bytes : List UInt8} :
    holding.readName name = .ok bytes ↔
      ∃ source, sourceNamed holding.listing name = .ok source ∧ holding.content source = .ok bytes := by
  cases holding with
  | ofMembers members => exact bind_ok_iff
  | ofTape tape records => exact bind_ok_iff

namespace Archive

variable {tree : FileTree} {base wanted archive : String} {holding : Holding} {handle : Handle}

/-- What is looked for in an archive: a regular member whose name answers. -/
def suits (wanted : String) (member : Member) : Bool :=
  member.isFile && answers wanted member.name

/-- An archive that is there opens with its members as they come back out of it. -/
theorem openAt_of_archive {members : List Member} (isArchive : (absolutePath tree base).result = .ok archive)
    (there : tree.entry? archive = some (.archive members)) :
    (openAt tree base).result = .ok (.ok (.ofMembers (members.map stored))) := by
  have noZero : FileTree.hasZero archive = false := (FileTree.entry?_eq_some_iff.1 there).1.noZero
  unfold openAt
  rw [Narrated.result_bind, isArchive, Except.bind, if_neg (by rw [noZero]; decide), there, Option.map_some,
    Entry.opening]
  rfl

theorem result_find (isOpened : (openAt tree base).result = .ok (.ok holding))
    (isArchive : (absolutePath tree base).result = .ok archive) (wanted : String) :
    (find tree base (some wanted)).result = match holding.listing.find? (suits wanted) with
      | some member => .ok ⟨base, member.name, Path.join archive (Path.normalize member.name)⟩
      | none => .error (.storage (.notFound (some wanted) base)) := by
  have joined (name : String) : (join tree base name).result =
      .ok (Path.join archive (Path.normalize name)) := join_ok_iff.2 ⟨archive, isArchive, rfl⟩
  unfold find needed
  simp only [Narrated.result_bind, Narrated.result_pure, isOpened, Narrated.result_ofExcept]
  change (match holding.listing.find? (suits wanted) with
    | some member => _
    | none => _ : Narrated Fault Handle).result = _
  cases holding.listing.find? (suits wanted) with
  | none => rfl
  | some member =>
    dsimp only
    rw [Narrated.result_log_bind, Narrated.result_bind, joined]
    rfl

theorem read_ok_iff (isOpened : (openAt tree handle.container).result = .ok (.ok holding))
    {content : Xml.Content} : (read tree handle).result = .ok content ↔
      ∃ bytes, content = .bytes bytes ∧ holding.readName handle.name = .ok bytes := by
  have opened : ((Except.ok holding).mapError Unread.ofDamage >>= fun opened =>
      opened.readName handle.name) = holding.readName handle.name := rfl
  unfold read
  rw [Narrated.result_log_bind, Narrated.result_bind, isOpened]
  dsimp only [Except.bind]
  rw [opened]
  cases holding.readName handle.name with
  | ok bytes => simp [eq_comm]
  | error unread => cases unread <;> simp

/-- The position is that of the first member that suits. -/
structure IsFirst (wanted : String) (members : List Member) (p : Position) : Prop where
  has : suits wanted p.1 = true
  first : ∀ other ∈ p.2, suits wanted other = false
  isAt : At members p

theorem IsFirst.length_le {members : List Member} {p q : Position} (hp : IsFirst wanted members p)
    (hq : IsFirst wanted members q) : q.2.length ≤ p.2.length := by
  by_contra later
  obtain ⟨after, split⟩ := hp.isAt
  obtain ⟨after', split'⟩ := hq.isAt
  have before : p.1 ∈ q.2 := by
    have first : p.2 ++ [p.1] <+: members := ⟨after, by rw [split]; simp⟩
    have second : q.2 <+: members := ⟨q.1 :: after', split'.symm⟩
    have front : p.2 ++ [p.1] <+: q.2 := by
      refine List.prefix_of_prefix_length_le first second ?_
      rw [List.length_append, List.length_singleton]
      omega
    exact front.subset (by simp)
  have refused := hq.first _ before
  rw [hp.has] at refused
  cases refused

theorem IsFirst.unique {members : List Member} {p q : Position} (hp : IsFirst wanted members p)
    (hq : IsFirst wanted members q) : p = q :=
  eq_of_at hp.isAt hq.isAt (Nat.le_antisymm (hq.length_le hp) (hp.length_le hq))

theorem find_first (found : (find tree base (some wanted)).result = .ok handle) :
    ∃ holding p, (openAt tree base).result = .ok (.ok holding) ∧ IsFirst wanted holding.listing p ∧
      handle.container = base ∧ handle.name = p.1.name := by
  obtain ⟨holding, isOpened, -⟩ := find_ok found
  rw [result_find isOpened (result_absolutePath tree base)] at found
  split at found
  · next member chosen =>
    obtain rfl := Except.ok.inj found
    obtain ⟨has, before, after, split, others⟩ := List.find?_eq_some_iff_append.1 chosen
    refine ⟨holding, (member, before), isOpened, ⟨has, ?_, ⟨after, split⟩⟩, rfl, rfl⟩
    simpa using others
  · cases found

/-- The name is read as these bytes: they are the content of the member that the links of the last
member with the name lead to. -/
def ReadsAs (holding : Holding) (name : String) (bytes : List UInt8) : Prop :=
  ∃ last source, IsLast (fun other => other.name == withoutSlashes name) holding.listing last ∧
    Leads holding.listing last source ∧ holding.content source = .ok bytes

theorem readsAs_iff {name : String} {bytes : List UInt8} :
    ReadsAs holding name bytes ↔ holding.readName name = .ok bytes := by
  simp only [ReadsAs, Holding.readName_ok_iff, sourceNamed_ok_iff]
  constructor
  · rintro ⟨last, source, isLast, leads, content⟩
    exact ⟨source, ⟨last, isLast, leads⟩, content⟩
  · rintro ⟨source, ⟨last, isLast, leads⟩, content⟩
    exact ⟨last, source, isLast, leads, content⟩

theorem IsLast.unique {members : List Member} {property : Member → Bool} {p q : Position}
    (hp : IsLast property members p) (hq : IsLast property members q) : p = q :=
  Option.some.inj ((last?_eq_some_iff.2 hp).symm.trans (last?_eq_some_iff.2 hq))

theorem Leads.eq_of_not_link {members : List Member} {p q : Position} (leads : Leads members p q)
    (noLink : isLink p.1.kind = false) : p = q := by
  rcases Relation.ReflTransGen.cases_head leads.1 with same | ⟨next, points, -⟩
  · exact same
  · cases points with
    | symbolic kind _ => rw [kind] at noLink; cases noLink
    | hard kind _ => rw [kind] at noLink; cases noLink

theorem isLink_of_isFile {member : Member} (file : member.isFile = true) :
    isLink member.kind = false := by
  unfold Member.isFile at file
  split at file
  · next kind => rw [kind]; rfl
  · cases file

theorem readsAs_iff_of_last {p : Position} {name : String} {bytes : List UInt8}
    (file : p.1.isFile = true)
    (last : IsLast (fun other => other.name == withoutSlashes name) holding.listing p) :
    ReadsAs holding name bytes ↔ holding.content p = .ok bytes := by
  have noLink := isLink_of_isFile file
  constructor
  · rintro ⟨other, source, isLast, leads, content⟩
    obtain rfl := isLast.unique last
    rwa [leads.eq_of_not_link noLink]
  · exact fun content => ⟨p, p, last, ⟨.refl, noLink⟩, content⟩

/-- Of what was found, that is read to which the last member of the same name leads. It is the member
that was found if that is the last of its name, which no slash ends. -/
theorem read_found (found : (find tree base (some wanted)).result = .ok handle) :
    ∃ holding p, (openAt tree base).result = .ok (.ok holding) ∧ IsFirst wanted holding.listing p ∧
      handle.container = base ∧ handle.name = p.1.name ∧
      (∀ content, (read tree handle).result = .ok content ↔
        ∃ bytes, content = .bytes bytes ∧ ReadsAs holding p.1.name bytes) ∧
      (IsLast (fun other => other.name == withoutSlashes p.1.name) holding.listing p →
        (∀ bytes, ReadsAs holding p.1.name bytes ↔ holding.content p = .ok bytes) ∧
        ∀ members, holding = .ofMembers members →
          ∃ bytes, p.1.kind = .file bytes ∧ (read tree handle).result = .ok (.bytes bytes)) := by
  obtain ⟨holding, p, isOpened, first, container, name⟩ := find_first found
  have file : p.1.isFile = true := (Bool.and_eq_true_iff.1 first.has).1
  have result : ∀ content, (read tree handle).result = .ok content ↔
      ∃ bytes, content = .bytes bytes ∧ ReadsAs holding p.1.name bytes := by
    intro content
    rw [read_ok_iff (by rw [container]; exact isOpened), name]
    simp only [readsAs_iff]
  refine ⟨holding, p, isOpened, first, container, name, result, fun last =>
    ⟨fun bytes => readsAs_iff_of_last file last, ?_⟩⟩
  rintro members rfl
  obtain ⟨bytes, kind⟩ : ∃ bytes, p.1.kind = .file bytes := by
    unfold Member.isFile at file
    split at file
    · next bytes kind => exact ⟨bytes, kind⟩
    · cases file
  refine ⟨bytes, kind, (result _).2 ⟨bytes, rfl, (readsAs_iff_of_last file last).2 ?_⟩⟩
  rw [Holding.content, bytesOf, kind]

/-- Two members of one name, and one whose name is spelled with a point. -/
def repeatedMembers : List Member :=
  [⟨"a.ovf", .file [1]⟩, ⟨"a.ovf", .file [2]⟩, ⟨"./b", .file [3]⟩]

def repeatedFiles : FileTree := ⟨[(["p.ova"], .archive repeatedMembers)], []⟩

theorem openAt_repeated :
    (openAt repeatedFiles "/p.ova").result = .ok (.ok (.ofMembers repeatedMembers)) := by
  have absolute : (absolutePath repeatedFiles "/p.ova").result = .ok "/p.ova" := by
    rw [result_absolutePath, if_pos (by decide +kernel)]
  have there : repeatedFiles.entry? "/p.ova" = some (.archive repeatedMembers) := by decide +kernel
  have stored : repeatedMembers.map stored = repeatedMembers := by decide +kernel
  rw [openAt_of_archive absolute there, stored]

/-- The first of the members with one name is found, and the second is read; the other one is found by
its normal name, and read. -/
theorem read_found_repeated :
    (find repeatedFiles "/p.ova" (some ".ovf")).result = .ok ⟨"/p.ova", "a.ovf", "/p.ova/a.ovf"⟩ ∧
    IsFirst ".ovf" repeatedMembers (⟨"a.ovf", .file [1]⟩, []) ∧
    (read repeatedFiles ⟨"/p.ova", "a.ovf", "/p.ova/a.ovf"⟩).result = .ok (.bytes [2]) ∧
    (find repeatedFiles "/p.ova" (some "b")).result = .ok ⟨"/p.ova", "./b", "/p.ova/b"⟩ ∧
    (read repeatedFiles ⟨"/p.ova", "./b", "/p.ova/b"⟩).result = .ok (.bytes [3]) := by
  have extension : (find repeatedFiles "/p.ova" (some ".ovf")).result =
      .ok ⟨"/p.ova", "a.ovf", "/p.ova/a.ovf"⟩ := toOption_eq_some_iff.1 (by decide +kernel)
  have name : (find repeatedFiles "/p.ova" (some "b")).result = .ok ⟨"/p.ova", "./b", "/p.ova/b"⟩ :=
    toOption_eq_some_iff.1 (by decide +kernel)
  refine ⟨extension, ⟨by decide +kernel, by simp, ⟨_, rfl⟩⟩, ?_, name, ?_⟩
  · obtain ⟨holding, p, isOpened, -, -, sameName, result, -⟩ := read_found extension
    obtain rfl := Except.ok.inj (Except.ok.inj (openAt_repeated.symm.trans isOpened))
    refine (result _).2 ⟨[2], rfl, ?_⟩
    rw [readsAs_iff, ← sameName]
    exact toOption_eq_some_iff.1 (by decide +kernel)
  · obtain ⟨holding, p, isOpened, first, -, sameName, -, itself⟩ := read_found name
    obtain rfl := Except.ok.inj (Except.ok.inj (openAt_repeated.symm.trans isOpened))
    have third : p = (⟨"./b", .file [3]⟩, repeatedMembers.take 2) :=
      first.unique ⟨by decide +kernel, by decide +kernel, [], rfl⟩
    subst third
    obtain ⟨bytes, kind, isRead⟩ :=
      (itself ⟨by decide +kernel, [], rfl, by simp⟩).2 repeatedMembers rfl
    cases kind
    exact isRead

end Archive

end OvfInspect.Storage
