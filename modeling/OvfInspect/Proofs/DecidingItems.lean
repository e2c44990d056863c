import Mathlib.Logic.Relation
import OvfInspect.Descriptor.Hardware
import OvfInspect.Proofs.Traversal

/-!
# Items that decide

Of several processor or memory items the first one counts, even if it is the one that lacks something.
`first_item_decides` says so, and that items of other kinds have no influence on a fact: neither on the two
facts nor on the disks.
-/

namespace OvfInspect

/-- Items without the code take the place of others without it. Either of the two runs may be empty. -/
inductive Exchange (code : Int) : List Item → List Item → Prop
  | run (before out into after : List Item) (others : ∀ item ∈ out ++ into, item.resourceType ≠ some code) :
      Exchange code (before ++ out ++ after) (before ++ into ++ after)

/-- The number of processors that an item stands for. -/
def Item.cpus (item : Item) : Except Fault Int :=
  match item.virtualQuantity with
  | none => .error (.defect (.cpus (.noQuantity item.instanceId)))
  | some n => .ok n

/-- The memory that an item stands for. Its units matter only if it has a quantity. -/
def Item.memory (item : Item) : Except Fault Nat :=
  match item.virtualQuantity with
  | none => .error (.defect (.memory (.noQuantity item.instanceId)))
  | some n => (quantityInMb (.number n) item.allocationUnits).result

/-- A fact about the hardware is the one of the first item with the code, whatever stands before it without
that code and whatever comes behind it. -/
structure FirstDecides {α : Type} (code : Int) (fact : Option HardwareSection → Narrated Fault α)
    (own : Item → Except Fault α) (missing : Fault) : Prop where
  first : ∀ before item after, item.resourceType = some code →
    (∀ other ∈ before, other.resourceType ≠ some code) →
    (fact (some ⟨before ++ [item] ++ after⟩)).result = own item
  none : ∀ items, (∀ item ∈ items, item.resourceType ≠ some code) →
    (fact (some ⟨items⟩)).result = .error missing
  frame : ∀ items items', Relation.ReflTransGen (Exchange code) items items' →
    fact (some ⟨items⟩) = fact (some ⟨items'⟩)

variable {α : Type} {kind : ResourceKind} {items items' : List Item}

/-! ### The items of a kind -/

theorem itemsOf_of_others (others : ∀ item ∈ items, item.resourceType ≠ some (kind.code : Int)) :
    (HardwareSection.mk items).itemsOf kind = [] := by
  simpa [HardwareSection.itemsOf] using others

theorem itemsOf_append (before after : List Item) : (HardwareSection.mk (before ++ after)).itemsOf kind =
    (HardwareSection.mk before).itemsOf kind ++ (HardwareSection.mk after).itemsOf kind :=
  List.filter_append ..

theorem itemsOf_of_first {before after : List Item} {item : Item}
    (isKind : item.resourceType = some (kind.code : Int))
    (others : ∀ other ∈ before, other.resourceType ≠ some (kind.code : Int)) :
    (HardwareSection.mk (before ++ [item] ++ after)).itemsOf kind =
      item :: (HardwareSection.mk after).itemsOf kind := by
  have only : (HardwareSection.mk [item]).itemsOf kind = [item] := by
    simp [HardwareSection.itemsOf, isKind]
  rw [itemsOf_append, itemsOf_append, itemsOf_of_others others, only]
  rfl

theorem Exchange.itemsOf_eq (exchange : Exchange kind.code items items') :
    (HardwareSection.mk items).itemsOf kind = (HardwareSection.mk items').itemsOf kind := by
  cases exchange with
  | run before out into after others =>
    obtain ⟨gone, new⟩ := List.forall_mem_append.1 others
    simp only [itemsOf_append, itemsOf_of_others gone, itemsOf_of_others new]

theorem itemsOf_of_exchanges (exchanges : Relation.ReflTransGen (Exchange kind.code) items items') :
    (HardwareSection.mk items).itemsOf kind = (HardwareSection.mk items').itemsOf kind := by
  induction exchanges with
  | refl => rfl
  | tail _ exchange ih => exact ih.trans exchange.itemsOf_eq

/-! ### Facts about them -/

/-- A computation that looks at nothing but the items of a kind, and at the first of them for its result. -/
theorem firstDecides {fact : Option HardwareSection → Narrated Fault α} {own : Item → Except Fault α}
    {missing : Fault}
    (head : ∀ hardware, (fact (some hardware)).result =
      match hardware.itemsOf kind with
      | [] => .error missing
      | item :: _ => own item)
    (congr : ∀ h h', h.itemsOf kind = h'.itemsOf kind → fact (some h) = fact (some h')) :
    FirstDecides kind.code fact own missing where
  first before item after isKind others := by rw [head, itemsOf_of_first isKind others]
  none items others := by rw [head, itemsOf_of_others others]
  frame _ _ exchanges := congr _ _ (itemsOf_of_exchanges exchanges)

theorem result_cpuCount (hardware : HardwareSection) : (cpuCount (some hardware)).result =
    match hardware.itemsOf .cpu with
    | [] => .error (.defect (.cpus .noItem))
    | item :: _ => item.cpus := by
  unfold cpuCount Item.cpus
  dsimp only
  cases hardware.itemsOf .cpu with
  | nil => rfl
  | cons item _ =>
    dsimp only
    cases item.virtualQuantity <;> rfl

theorem result_memoryInMb (hardware : HardwareSection) : (memoryInMb (some hardware)).result =
    match hardware.itemsOf .memory with
    | [] => .error (.defect (.memory .noItem))
    | item :: _ => item.memory := by
  unfold memoryInMb Item.memory
  dsimp only
  cases hardware.itemsOf .memory with
  | nil => rfl
  | cons item _ =>
    dsimp only
    cases item.virtualQuantity with
    | none => rfl
    | some n =>
      simp only [Narrated.result_bind]
      cases (quantityInMb (.number n) item.allocationUnits).result <;> rfl

/-- The first processor item and the first memory item decide alone. Exchanges of other items change neither
these facts nor the disks. -/
theorem first_item_decides :
    FirstDecides 3 cpuCount Item.cpus (.defect (.cpus .noItem)) ∧
    FirstDecides 4 memoryInMb Item.memory (.defect (.memory .noItem)) ∧
    ∀ items items' sec files, Relation.ReflTransGen (Exchange 17) items items' →
      diskInfos (some ⟨items⟩) sec files = diskInfos (some ⟨items'⟩) sec files := by
  refine ⟨firstDecides result_cpuCount ?_, firstDecides result_memoryInMb ?_, ?_⟩
  · intro h h' same
    simp only [cpuCount, same]
  · intro h h' same
    simp only [memoryInMb, same]
  · intro items items' sec files exchanges
    have same : (HardwareSection.mk items).itemsOf .hardDisk = (HardwareSection.mk items').itemsOf .hardDisk :=
      itemsOf_of_exchanges exchanges
    simp only [diskInfos, same]

/-- A processor item without a quantity is not made good by the one behind it, and memory is not counted in
the units of another item. Taking out a controller and putting in items of no kind makes no difference. -/
theorem first_item_decides_lacking :
    let lacking : Item := { resourceType := some 3, instanceId := some "1", allocationUnits := some "byte*2^20" }
    let counting : Item := { resourceType := some 3, virtualQuantity := some 8 }
    let memory : Item := { resourceType := some 4, virtualQuantity := some 2, allocationUnits := some "byte*2^30" }
    let doubled : Item := { resourceType := some 4, virtualQuantity := some 7, allocationUnits := some "none" }
    let disk : Item := { resourceType := some 17, hostResource := ["ovf:/disk/d"] }
    let items := [{ resourceType := some 6 }, disk] ++ [lacking] ++ [memory, counting, doubled]
    let items' := [disk] ++ [lacking] ++ [{}, counting, {}]
    (cpuCount (some ⟨items⟩)).result = .error (.defect (.cpus (.noQuantity (some "1")))) ∧
    (memoryInMb (some ⟨items⟩)).result = .ok 2048 ∧
    (memoryInMb (some ⟨items'⟩)).result = .error (.defect (.memory .noItem)) ∧
    cpuCount (some ⟨items⟩) = cpuCount (some ⟨items'⟩) ∧
    ∀ sec files, diskInfos (some ⟨items⟩) sec files = diskInfos (some ⟨items'⟩) sec files := by
  intro lacking counting memory doubled disk items items'
  obtain ⟨cpus, memories, disks⟩ := first_item_decides
  have swap (code : Int) (other : code ≠ 4 ∧ code ≠ 6) : Relation.ReflTransGen (Exchange code) items items' := by
    have controller : Exchange code items ([disk] ++ [lacking] ++ [memory, counting, doubled]) :=
      .run [] [{ resourceType := some 6 }] [] _ (by simp [other.2.symm])
    have first : Exchange code ([disk] ++ [lacking] ++ [memory, counting, doubled])
        ([disk] ++ [lacking] ++ [{}, counting, doubled]) :=
      .run [disk, lacking] [memory] [{}] [counting, doubled] (by simp [memory, other.1.symm])
    have second : Exchange code ([disk] ++ [lacking] ++ [{}, counting, doubled]) items' :=
      .run [disk, lacking, {}, counting] [doubled] [{}] [] (by simp [doubled, other.1.symm])
    exact ((Relation.ReflTransGen.single controller).tail first).tail second
  refine ⟨cpus.first _ _ _ rfl (by decide), ?_, memories.none _ (by decide), cpus.frame _ _ (swap 3 (by decide)),
    fun sec files => disks _ _ sec files (swap 17 (by decide))⟩
  have counted := memories.first [{ resourceType := some 6 }, disk, lacking] memory [counting, doubled] rfl (by decide)
  exact counted.trans (toOption_eq_some_iff.1 (by decide +kernel))

end OvfInspect
