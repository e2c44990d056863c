import OvfInspect.Proofs.Reading

/-!
# Nested elements

What a search finds several of are children of one element of the tree, so that they are nested less deep
than the tree. `shallow_of_depth_le` says that in a tree which is nested no deeper than there is room to show,
every ambiguity is shown.
-/

namespace OvfInspect

open Xml Reading

namespace Xml

theorem depth_le_depthOfAll {child : Element} {children : List Element} (member : child ∈ children) :
    child.depth ≤ depthOfAll children := by
  induction children with
  | nil => cases member
  | cons first rest ih =>
    rw [depthOfAll]
    rcases List.mem_cons.1 member with rfl | member
    · exact Nat.le_max_left _ _
    · exact Nat.le_trans (ih member) (Nat.le_max_right _ _)

theorem depth_lt_of_mem {e child : Element} (member : child ∈ e.children) : child.depth < e.depth := by
  obtain ⟨name, attributes, text, children, tail⟩ := e
  rw [Element.depth]
  exact Nat.lt_succ_of_le (depth_le_depthOfAll member)

theorem mem_children_of_named {e child : Element} {tag : String} (member : child ∈ e.childrenNamed tag) :
    child ∈ e.children :=
  List.mem_of_mem_filter member

end Xml

/-! ### Where reading stops -/

/-- The elements at which an ambiguity stops the reading are nested less deep than the limit. -/
def StopsBelow {α : Type} (limit : Nat) (x : Reading α) : Prop :=
  ∀ a, x.result = .error (.ambiguous a) → ∀ e ∈ a.found, e.depth < limit

namespace StopsBelow

variable {α β : Type} {limit limit' : Nat} {x : Reading α}

theorem pure (a : α) : StopsBelow limit (Pure.pure a) := nofun

theorem log_bind {entry : Log.Entry} {f : Unit → Reading α} (h : StopsBelow limit (f ())) :
    StopsBelow limit (.log entry >>= f) := h

theorem ofExcept {result : Except Malformed α} (clear : ∀ a, result ≠ .error (.ambiguous a)) :
    StopsBelow limit (.ofExcept result) :=
  fun a failed => absurd failed (clear a)

theorem mono (h : StopsBelow limit x) (le : limit ≤ limit') : StopsBelow limit' x :=
  fun a failed e member => Nat.lt_of_lt_of_le (h a failed e member) le

theorem bind {f : α → Reading β} (hx : StopsBelow limit x)
    (hf : ∀ a, x.result = .ok a → StopsBelow limit (f a)) : StopsBelow limit (x >>= f) := by
  intro a failed
  rw [Narrated.result_bind, bind_error_iff] at failed
  rcases failed with failed | ⟨value, done, failed⟩
  · exact hx a failed
  · exact hf value done a failed

theorem mapM {f : α → Reading β} {xs : List α} (h : ∀ a ∈ xs, StopsBelow limit (f a)) :
    StopsBelow limit (xs.mapM f) := by
  induction xs with
  | nil => exact pure []
  | cons a xs ih =>
    obtain ⟨first, rest⟩ := List.forall_mem_cons.1 h
    rw [List.mapM_cons]
    exact first.bind fun _ _ => (ih rest).bind fun _ _ => pure _

end StopsBelow

/-! ### Children -/

variable {e root : Element} {tag : String}

theorem depth_lt_of_child {found : Element} (isFound : (child e tag).result = .ok (some found)) :
    found.depth < e.depth := by
  have member : found ∈ e.childrenNamed tag := by
    rw [child_ok_iff.1 isFound]
    exact List.mem_singleton_self found
  exact depth_lt_of_mem (mem_children_of_named member)

theorem stopsBelow_child : StopsBelow e.depth (child e tag) := by
  intro a failed found member
  unfold child at failed
  rw [Narrated.result_mapFault, mapError_error_iff] at failed
  obtain ⟨_, failed, ⟨⟩⟩ := failed
  unfold Element.find at failed
  rw [findAll_bind] at failed
  split at failed
  · cases failed
  · cases failed
  · obtain rfl := Except.error.inj failed
    exact depth_lt_of_mem (mem_children_of_named member)

theorem childText_eq (e : Element) (tag : String) :
    (childText e tag).result = (child e tag).result.map (Option.map Element.trimmedText) := by
  unfold childText child Element.childText
  rw [Narrated.result_mapFault, Narrated.result_mapFault, Narrated.result_bind]
  cases (e.find tag).result <;> rfl

theorem stopsBelow_childText : StopsBelow e.depth (childText e tag) := by
  intro a failed
  rw [childText_eq, map_error_iff] at failed
  exact stopsBelow_child a failed

theorem optionalNumber_ne (field : String) (text : Option String) (a : Ambiguity) :
    optionalNumber field text ≠ .error (.ambiguous a) := by
  unfold optionalNumber
  split
  · nofun
  · split
    · nofun
    · split <;> nofun

theorem optionalFlag_ne (text : Option String) (a : Ambiguity) : optionalFlag text ≠ .error (.ambiguous a) := by
  unfold optionalFlag
  split
  · nofun
  · split
    · nofun
    · split <;> nofun

theorem stopsBelow_childNumber : StopsBelow e.depth (childNumber e tag) :=
  stopsBelow_childText.bind fun text _ => .ofExcept (optionalNumber_ne tag text)

/-! ### The parts of a descriptor -/

theorem stopsBelow_sectionHead : StopsBelow e.depth (sectionHead e) :=
  StopsBelow.bind (.ofExcept (optionalFlag_ne _)) fun _ _ => stopsBelow_childText.bind fun _ _ => .pure _

theorem stopsBelow_sectionOf {α : Type} {read : Element → Reading α} (reads : ∀ e, StopsBelow e.depth (read e)) :
    StopsBelow e.depth (sectionOf e tag read) := by
  refine stopsBelow_child.bind fun found isFound => ?_
  cases found with
  | none => exact .log_bind (.pure _)
  | some child =>
    exact ((reads child).mono (Nat.le_of_lt (depth_lt_of_child isFound))).bind fun _ _ => .pure _

theorem stopsBelow_references : StopsBelow e.depth (References.read e) := by
  refine stopsBelow_sectionHead.bind fun _ _ => ?_
  refine StopsBelow.bind nofun fun children _ => ?_
  refine StopsBelow.bind (.ofExcept fun a failed => ?_) fun _ _ => .log_bind (.pure _)
  obtain ⟨_, file, _, -, -, failed⟩ := mapM_error_iff.1 failed
  unfold FileReference.read at failed
  rcases bind_error_iff.1 failed with failed | ⟨_, _, failed⟩
  · exact optionalNumber_ne _ _ a failed
  · cases failed

theorem stopsBelow_annotation : StopsBelow e.depth ( Annotation.read e) :=
  stopsBelow_sectionHead.bind fun _ _ => stopsBelow_childText.bind fun _ _ => .pure _

theorem stopsBelow_diskSection : StopsBelow e.depth (DiskSection.read e) :=
  stopsBelow_sectionHead.bind fun _ _ => StopsBelow.bind nofun fun _ _ => .log_bind (.pure _)

theorem stopsBelow_item : StopsBelow e.depth (Item.read e) := by
  refine StopsBelow.bind nofun fun _ _ => ?_
  refine stopsBelow_childNumber.bind fun _ _ => ?_
  refine stopsBelow_childText.bind fun _ _ => ?_
  refine stopsBelow_childText.bind fun _ _ => ?_
  refine stopsBelow_childText.bind fun _ _ => ?_
  refine stopsBelow_childNumber.bind fun _ _ => ?_
  refine stopsBelow_childText.bind fun _ _ => ?_
  refine stopsBelow_childText.bind fun _ _ => ?_
  exact stopsBelow_childText.bind fun _ _ => .pure _

theorem stopsBelow_readAny : StopsBelow e.depth (Item.readAny e) := by
  unfold Item.readAny
  split
  · exact stopsBelow_item.bind fun _ _ => .pure _
  · exact .log_bind (.pure _)

theorem stopsBelow_hardwareSection : StopsBelow e.depth (HardwareSection.read e) := by
  refine StopsBelow.bind (.mapM fun child member => ?_) fun _ _ => .log_bind (.pure _)
  exact stopsBelow_readAny.mono (Nat.le_of_lt (depth_lt_of_mem member))

theorem stopsBelow_virtualSystem : StopsBelow e.depth (VirtualSystem.read e) := by
  refine StopsBelow.bind nofun fun children isFound => ?_
  refine StopsBelow.bind (.mapM fun child member => ?_) fun _ _ => ?_
  · obtain rfl := Except.ok.inj isFound
    exact stopsBelow_hardwareSection.mono (Nat.le_of_lt (depth_lt_of_mem (mem_children_of_named member)))
  · exact stopsBelow_childText.bind fun _ _ => stopsBelow_childText.bind fun _ _ => .pure _

theorem stopsBelow_readFrom : StopsBelow e.depth ( Annotation.readFrom e) := by
  refine (stopsBelow_sectionOf fun _ => stopsBelow_annotation).bind fun own _ => ?_
  refine stopsBelow_child.bind fun found isFound => ?_
  split
  · have below := depth_lt_of_child isFound
    exact (stopsBelow_sectionOf fun _ => stopsBelow_annotation).mono (Nat.le_of_lt below)
  · exact .pure _

/-- Reading a tree is stopped by parts of it only. -/
theorem stopsBelow_ofRoot (root : Element) : StopsBelow root.depth (Descriptor.ofRoot root) := by
  refine .log_bind ?_
  refine stopsBelow_readFrom.bind fun _ _ => ?_
  refine (stopsBelow_sectionOf fun _ => stopsBelow_references).bind fun _ _ => ?_
  refine (stopsBelow_sectionOf fun _ => stopsBelow_virtualSystem).bind fun _ _ => ?_
  exact (stopsBelow_sectionOf fun _ => stopsBelow_diskSection).bind fun _ _ => .pure _

/-- In a tree that is nested no deeper than there is room to show, every ambiguity is shown. -/
theorem shallow_of_depth_le {room : Nat} (shallow : root.depth ≤ room) : ¬ DeepAmbiguity room root := by
  rintro ⟨a, failed, e, member, deep⟩
  have below := stopsBelow_ofRoot root a failed e member
  omega

end OvfInspect
