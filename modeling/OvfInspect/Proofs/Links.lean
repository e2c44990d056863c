import Mathlib.Data.Fintype.Card
import Mathlib.Data.List.TakeWhile
import Mathlib.Data.Nat.Find
import Mathlib.Logic.Relation
import OvfInspect.Proofs.Traversal
import OvfInspect.Storage.Archive

/-!
# Following links in archives

A name stands for the last member that has it, and a link for the last member before its end that it
points at. As each position in an archive points at one other at most, a chain of links that ends
visits no position twice, and the number of members bounds its length.
-/

namespace OvfInspect.Storage.Archive

variable {members : List Member} {p q s : Position} {property : Member → Bool}

/-! ### Last members -/

/-- A position of the archive: what comes before the member is what the position says. -/
def At (members : List Member) (p : Position) : Prop :=
  ∃ later, members = p.2 ++ p.1 :: later

/-- The position of the last member with the property. -/
structure IsLast (property : Member → Bool) (members : List Member) (p : Position) : Prop where
  has : property p.1 = true
  last : ∃ later, members = p.2 ++ p.1 :: later ∧ ∀ other ∈ later, property other = false

theorem IsLast.at (h : IsLast property members p) : At members p := by
  obtain ⟨later, split, -⟩ := h.last
  exact ⟨later, split⟩

theorem last?_eq_some_iff : last? property members = some p ↔ IsLast property members p := by
  unfold last?
  constructor
  · intro h
    cases rest : members.reverse.dropWhile fun member => !property member with
    | nil =>
      rw [rest] at h
      cases h
    | cons member earlier =>
      rw [rest] at h
      obtain rfl := Option.some.inj h
      have kept := List.head?_dropWhile_not (fun member => !property member) members.reverse
      rw [rest] at kept
      have whole := List.takeWhile_append_dropWhile (p := fun member => !property member)
        (l := members.reverse)
      rw [rest, ← List.reverse_inj, List.reverse_reverse] at whole
      refine ⟨by simpa using kept, (members.reverse.takeWhile fun member => !property member).reverse,
        by simpa using whole.symm, ?_⟩
      intro other inside
      simpa using List.mem_takeWhile_imp (List.mem_reverse.1 inside)
  · rintro ⟨has, later, rfl, others⟩
    have refused : ∀ other ∈ later.reverse, (!property other) = true := by
      simpa using others
    rw [List.reverse_append, List.reverse_cons, List.append_assoc,
      List.dropWhile_append_of_pos refused, List.singleton_append,
      List.dropWhile_cons_of_neg (by simp [has])]
    simp

/-! ### Links -/

/-- A link at a position points at another. A symbolic link can point anywhere in the archive, a hard
link only at what comes before it. -/
inductive Points (members : List Member) : Position → Position → Prop
  | symbolic {p q : Position} {target : String} : p.1.kind = .symbolicLink target →
      IsLast (fun other => Path.normalize other.name == Path.normalize (linkPlace p.1.name target))
        members q → Points members p q
  | hard {p q : Position} {target : String} : p.1.kind = .hardLink target →
      IsLast (fun other => Path.normalize other.name == Path.normalize target) p.2 q →
      Points members p q

def isLink : MemberKind → Bool
  | .symbolicLink _ => true
  | .hardLink _ => true
  | _ => false

/-- Links lead from a position to that of a member that is none. -/
def Leads (members : List Member) (p s : Position) : Prop :=
  Relation.ReflTransGen (Points members) p s ∧ isLink s.1.kind = false

theorem Points.at (h : Points members p q) (isAt : At members p) : At members q := by
  cases h with
  | symbolic _ last => exact last.at
  | hard _ last =>
    obtain ⟨between, split⟩ := last.at
    obtain ⟨later, whole⟩ := isAt
    exact ⟨between ++ p.1 :: later, by rw [whole, split]; simp⟩

theorem sourceOf_of_points (h : Points members p q) (steps : Nat) :
    sourceOf members (steps + 1) p = sourceOf members steps q := by
  cases h with
  | symbolic kind last =>
    rw [sourceOf, kind]
    dsimp only
    rw [namedLike?, last?_eq_some_iff.2 last]
  | hard kind last =>
    rw [sourceOf, kind]
    dsimp only
    rw [namedLike?, last?_eq_some_iff.2 last]

theorem sourceOf_of_not_link (h : isLink p.1.kind = false) (steps : Nat) :
    sourceOf members (steps + 1) p = .ok p := by
  rw [sourceOf]
  cases kind : p.1.kind with
  | symbolicLink target =>
    rw [kind] at h
    cases h
  | hardLink target =>
    rw [kind] at h
    cases h
  | _ => rfl

theorem cases_of_sourceOf {steps : Nat} (h : sourceOf members (steps + 1) p = .ok s) :
    (isLink p.1.kind = false ∧ p = s) ∨ ∃ q, Points members p q ∧ sourceOf members steps q = .ok s := by
  rw [sourceOf] at h
  split at h
  · next target kind =>
    dsimp only at h
    split at h
    · next q found => exact Or.inr ⟨q, .symbolic kind (last?_eq_some_iff.1 found), h⟩
    · cases h
  · next target kind =>
    split at h
    · next q found => exact Or.inr ⟨q, .hard kind (last?_eq_some_iff.1 found), h⟩
    · cases h
  · next noSymbolic noHard =>
    refine Or.inl ⟨?_, Except.ok.inj h⟩
    unfold isLink
    split
    · next target kind => exact absurd kind (noSymbolic target)
    · next target kind => exact absurd kind (noHard target)
    · rfl

theorem sourceOf_succ {steps : Nat} (h : sourceOf members steps p = .ok s) :
    sourceOf members (steps + 1) p = .ok s := by
  induction steps generalizing p with
  | zero => cases h
  | succ steps ih =>
    rcases cases_of_sourceOf h with ⟨noLink, rfl⟩ | ⟨q, points, reached⟩
    · exact sourceOf_of_not_link noLink _
    · rw [sourceOf_of_points points]
      exact ih reached

theorem sourceOf_of_le {steps more : Nat} (h : sourceOf members steps p = .ok s) (le : steps ≤ more) :
    sourceOf members more p = .ok s := by
  induction le with
  | refl => exact h
  | step _ ih => exact sourceOf_succ ih

theorem leads_of_sourceOf {steps : Nat} (h : sourceOf members steps p = .ok s) : Leads members p s := by
  induction steps generalizing p with
  | zero => cases h
  | succ steps ih =>
    rcases cases_of_sourceOf h with ⟨noLink, rfl⟩ | ⟨q, points, reached⟩
    · exact ⟨.refl, noLink⟩
    · exact ⟨.head points (ih reached).1, (ih reached).2⟩

theorem exists_sourceOf_of_leads (h : Leads members p s) :
    ∃ steps, sourceOf members steps p = .ok s := by
  obtain ⟨path, noLink⟩ := h
  induction path using Relation.ReflTransGen.head_induction_on with
  | refl => exact ⟨1, sourceOf_of_not_link noLink 0⟩
  | head points _ ih =>
    obtain ⟨steps, reached⟩ := ih
    exact ⟨steps + 1, by rw [sourceOf_of_points points, reached]⟩

/-! ### How many steps are needed -/

/-- The least number of steps that suffices to find where the links lead. -/
def Needs (members : List Member) (p : Position) (steps : Nat) : Prop :=
  ∀ n, (∃ s, sourceOf members n p = .ok s) ↔ steps ≤ n

theorem exists_needs {steps : Nat} (h : sourceOf members steps p = .ok s) :
    ∃ least, Needs members p least := by
  classical
  have enough : ∃ n, ∃ s, sourceOf members n p = .ok s := ⟨steps, s, h⟩
  refine ⟨Nat.find enough, fun n => ⟨fun found => Nat.find_min' enough found, fun le => ?_⟩⟩
  obtain ⟨s, found⟩ := Nat.find_spec enough
  exact ⟨s, sourceOf_of_le found le⟩

theorem Needs.unique {n m : Nat} (hn : Needs members p n) (hm : Needs members p m) : n = m :=
  Nat.le_antisymm ((hn m).1 ((hm m).2 le_rfl)) ((hm n).1 ((hn n).2 le_rfl))

/-- Where more than one step is needed, a link points at a position that needs one step less. -/
theorem Needs.next {steps : Nat} (h : Needs members p (steps + 2)) :
    ∃ q, Points members p q ∧ Needs members q (steps + 1) := by
  obtain ⟨s, found⟩ := (h (steps + 2)).2 le_rfl
  rcases cases_of_sourceOf found with ⟨noLink, -⟩ | ⟨q, points, reached⟩
  · have one := (h 1).1 ⟨p, sourceOf_of_not_link noLink 0⟩
    omega
  · refine ⟨q, points, fun n => ?_⟩
    rw [← sourceOf_of_points points, h]
    omega

theorem Needs.exists_at {steps less : Nat} (h : Needs members p steps) (isAt : At members p)
    (pos : 0 < less) (le : less ≤ steps) : ∃ q, At members q ∧ Needs members q less := by
  obtain ⟨more, rfl⟩ := Nat.exists_eq_add_of_le le
  induction more generalizing p with
  | zero => exact ⟨p, isAt, h⟩
  | succ more ih =>
    obtain ⟨before, rfl⟩ : ∃ before, less = before + 1 := ⟨less - 1, by omega⟩
    have shape : before + 1 + (more + 1) = before + more + 2 := by omega
    rw [shape] at h
    obtain ⟨q, points, needs⟩ := h.next
    apply ih (points.at isAt) _ (by omega)
    rwa [show before + 1 + more = before + more + 1 by omega]

theorem eq_of_at (hp : At members p) (hq : At members q) (same : p.2.length = q.2.length) : p = q := by
  obtain ⟨later, split⟩ := hp
  obtain ⟨later', split'⟩ := hq
  obtain ⟨before, rest⟩ := List.append_inj (split.symm.trans split') same
  exact Prod.ext (List.cons.inj rest).1 before

/-- No more steps are needed than there are members: positions that need different numbers of steps
are different. -/
theorem Needs.le_length {steps : Nat} (h : Needs members p steps) (isAt : At members p) :
    steps ≤ members.length := by
  have positions : ∀ n : Fin steps, ∃ q, At members q ∧ Needs members q (n + 1) :=
    fun n => h.exists_at isAt (Nat.succ_pos _) n.isLt
  choose position isAt' needs using positions
  have inside (n : Fin steps) : (position n).2.length < members.length := by
    obtain ⟨later, split⟩ := isAt' n
    have length := congrArg List.length split
    rw [List.length_append, List.length_cons] at length
    omega
  have injective : Function.Injective fun n => (⟨(position n).2.length, inside n⟩ : Fin members.length) := by
    intro n m same
    have samePosition := eq_of_at (isAt' n) (isAt' m) (congrArg Fin.val same)
    have needs' := needs m
    rw [← samePosition] at needs'
    exact Fin.ext (Nat.succ.inj ((needs n).unique needs'))
  simpa using Fintype.card_le_of_injective _ injective

/-- As many steps as there are members find wherever the links lead. -/
theorem sourceOf_ok_iff (isAt : At members p) :
    sourceOf members (members.length + 1) p = .ok s ↔ Leads members p s := by
  refine ⟨leads_of_sourceOf, fun leads => ?_⟩
  obtain ⟨steps, reached⟩ := exists_sourceOf_of_leads leads
  obtain ⟨least, needs⟩ := exists_needs reached
  obtain ⟨s', found⟩ := (needs (members.length + 1)).2 (Nat.le_succ_of_le (needs.le_length isAt))
  have same : (.ok s : Except Unread Position) = .ok s' :=
    (sourceOf_of_le reached (Nat.le_max_left steps (members.length + 1))).symm.trans
      (sourceOf_of_le found (Nat.le_max_right _ _))
  rw [found, same]

/-- The member that reading a name leads to is the one that the links of the last member with the name
lead to. -/
theorem sourceNamed_ok_iff {name : String} : sourceNamed members name = .ok s ↔
    ∃ p, IsLast (fun other => other.name == withoutSlashes name) members p ∧ Leads members p s := by
  unfold sourceNamed named?
  constructor
  · intro h
    split at h
    · next p found =>
      have last := last?_eq_some_iff.1 found
      exact ⟨p, last, (sourceOf_ok_iff last.at).1 h⟩
    · cases h
  · rintro ⟨p, last, leads⟩
    rw [last?_eq_some_iff.2 last]
    exact (sourceOf_ok_iff last.at).2 leads

end OvfInspect.Storage.Archive
