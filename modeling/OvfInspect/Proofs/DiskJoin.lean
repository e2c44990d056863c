import OvfInspect.Descriptor.Hardware
import OvfInspect.Proofs.Traversal

/-!
# Disks as a join

A disk item names a disk, the disk refers to a file, and the file has a location. The relations here
say what is joined, and not how it is looked up. `diskInfos_join` shows that the disks of a system
are this join, which fault there is if some item is not joined, and that nothing else matters.
-/

namespace OvfInspect

/-! ### What is joined -/

/-- The last entry with a property. -/
def IsLast {α : Type} (p : α → Prop) (xs : List α) (a : α) : Prop :=
  ∃ before after, xs = before ++ a :: after ∧ p a ∧ ∀ x ∈ after, ¬ p x

/-- The host resource is the fixed start with an identifier of one line, perhaps with a line feed at
the very end. -/
def NamesDisk (hostResource id : String) : Prop :=
  id ≠ "" ∧ '\n' ∉ id.toList ∧
    (hostResource = "ovf:/disk/" ++ id ∨ hostResource = "ovf:/disk/" ++ id ++ "\n")

/-- The first host resource of the item names the disk. -/
def Item.Names (item : Item) (id : String) : Prop :=
  ∃ first, item.hostResource.head? = some first ∧ NamesDisk first id

/-- The items that are disks. -/
def HardwareSection.diskItems (hardware : HardwareSection) : List Item :=
  hardware.items.filter fun item => item.resourceType = some 17

abbrev DiskOf (disks : List Disk) (id : String) (disk : Disk) : Prop :=
  IsLast (fun d : Disk => d.id = some id) disks disk

abbrev FileOf (files : List FileReference) (reference : String) (file : FileReference) : Prop :=
  IsLast (fun f : FileReference => f.id = some reference) files file

/-- The item is joined to the location of a file and the capacity of a disk. -/
def Joins (disks : List Disk) (files : List FileReference) (item : Item) (info : DiskInfo) : Prop :=
  ∃ id disk reference file, item.Names id ∧ DiskOf disks id disk ∧
    disk.fileRef = some reference ∧ FileOf files reference file ∧ info.location = file.href ∧
    (capacityInGb (.ofText disk.capacity) disk.capacityUnits).result = .ok info.sizeInGb

/-- The first thing that keeps the item from being joined. -/
inductive Unjoined (disks : List Disk) (files : List FileReference) (item : Item) : Fault → Prop
  | hostResource (unnamed : ∀ id, ¬ item.Names id) :
      Unjoined disks files item (.unsupported (.hostResource item.hostResource.head?))
  | disk {id : String} (named : item.Names id) (absent : ∀ disk ∈ disks, disk.id ≠ some id) :
      Unjoined disks files item (.defect (.diskNotFound id))
  | file {id : String} {disk : Disk} (named : item.Names id) (found : DiskOf disks id disk)
      (absent : ∀ reference, disk.fileRef = some reference → ∀ file ∈ files, file.id ≠ some reference) :
      Unjoined disks files item (.defect (.fileNotFound disk.fileRef id))
  | capacity {id reference : String} {disk : Disk} {file : FileReference} (named : item.Names id)
      (found : DiskOf disks id disk) (refers : disk.fileRef = some reference)
      (stored : FileOf files reference file)
      (refused : ∀ n, (Amount.ofText disk.capacity).natural ≠ .ok n) :
      Unjoined disks files item (.unsupported (.capacity disk.capacity))
  | units {id reference : String} {disk : Disk} {file : FileReference} {n : Nat} {fault : Fault}
      (named : item.Names id) (found : DiskOf disks id disk) (refers : disk.fileRef = some reference)
      (stored : FileOf files reference file)
      (counted : (Amount.ofText disk.capacity).natural = .ok n)
      (refused : AllocationUnit.read disk.capacityUnits = .error fault) :
      Unjoined disks files item fault

/-- Why the disks of a system are not known: there are none at all, or an item is not joined while
all before it are. -/
inductive Unresolved (hardware : HardwareSection) (disks : List Disk) (files : List FileReference) :
    Fault → Prop
  | noDisks (none : disks = []) : Unresolved hardware disks files (.defect (.disks .noDisks))
  | noDiskItems (some : disks ≠ []) (none : hardware.diskItems = []) :
      Unresolved hardware disks files (.defect (.disks .noDiskItems))
  | item {before after : List Item} {item : Item} {fault : Fault} (some : disks ≠ [])
      (split : hardware.diskItems = before ++ item :: after)
      (earlier : ∀ other ∈ before, ∃ info, Joins disks files other info)
      (first : Unjoined disks files item fault) : Unresolved hardware disks files fault

/-- Two packages agree on the disk items' first host resources, and on the disks and the locations
of files that these lead to. -/
structure SameJoin (h h' : HardwareSection) (disks disks' : List Disk)
    (files files' : List FileReference) : Prop where
  hostResources : h.diskItems.map (fun item => item.hostResource.head?) =
    h'.diskItems.map (fun item => item.hostResource.head?)
  bothEmpty : disks = [] ↔ disks' = []
  sameDisk : ∀ item ∈ h.diskItems, ∀ id, item.Names id →
    ∀ disk, DiskOf disks id disk ↔ DiskOf disks' id disk
  sameLocation : ∀ item ∈ h.diskItems, ∀ id, item.Names id → ∀ disk, DiskOf disks id disk →
    ∀ reference, disk.fileRef = some reference → ∀ href,
      (∃ file, FileOf files reference file ∧ file.href = href) ↔
        ∃ file, FileOf files' reference file ∧ file.href = href

/-! ### How it is looked up -/

theorem reverse_find?_iff {α : Type} {p : α → Bool} {xs : List α} {a : α} :
    xs.reverse.find? p = some a ↔ IsLast (fun x => p x = true) xs a := by
  rw [List.find?_eq_some_iff_append]
  constructor
  · rintro ⟨hp, as, bs, hxs, has⟩
    refine ⟨bs.reverse, as.reverse, ?_, hp, ?_⟩
    · rw [← List.reverse_reverse xs, hxs]
      simp
    · intro x hx
      simpa using has x (List.mem_reverse.1 hx)
  · rintro ⟨before, after, rfl, hp, hafter⟩
    refine ⟨hp, after.reverse, before.reverse, by simp, ?_⟩
    intro x hx
    simpa using hafter x (List.mem_reverse.1 hx)

theorem diskById?_iff {disks : List Disk} {id : String} {disk : Disk} :
    diskById? disks id = some disk ↔ DiskOf disks id disk := by
  rw [diskById?, reverse_find?_iff]
  simp only [beq_iff_eq]

theorem diskById?_none_iff {disks : List Disk} {id : String} :
    diskById? disks id = none ↔ ∀ disk ∈ disks, disk.id ≠ some id := by
  simp [diskById?]

theorem fileById?_iff {files : List FileReference} {reference : Option String}
    {file : FileReference} : fileById? files reference = some file ↔
      ∃ id, reference = some id ∧ FileOf files id file := by
  simp only [fileById?, Option.bind_eq_some_iff, reverse_find?_iff, beq_iff_eq]

theorem fileById?_none_iff {files : List FileReference} {reference : Option String} :
    fileById? files reference = none ↔
      ∀ id, reference = some id → ∀ file ∈ files, file.id ≠ some id := by
  simp [fileById?, Option.bind_eq_none_iff]

theorem location_iff {files : List FileReference} {reference : String} {href : Option String} :
    (∃ file, FileOf files reference file ∧ file.href = href) ↔
      (fileById? files (some reference)).map FileReference.href = some href := by
  simp [Option.map_eq_some_iff, fileById?_iff]

theorem dropFinalLineFeed_iff {cs line : List Char} (oneLine : '\n' ∉ line) :
    dropFinalLineFeed cs = line ↔ cs = line ∨ cs = line ++ ['\n'] := by
  unfold dropFinalLineFeed
  split
  · next last =>
    constructor
    · rintro rfl
      right
      exact (List.dropLast_append_getLast? '\n' last).symm
    · rintro (rfl | rfl)
      · exact absurd (List.mem_of_getLast? last) oneLine
      · simp
  · next last =>
    constructor
    · exact Or.inl
    · rintro (rfl | rfl)
      · rfl
      · simp at last

theorem toList_diskReferenceStart : "ovf:/disk/".toList = diskReferenceStart := rfl

theorem diskIdOf?_iff {hostResource id : String} :
    diskIdOf? hostResource = some id ↔ NamesDisk hostResource id := by
  unfold diskIdOf?
  dsimp only
  constructor
  · intro h
    split at h
    · next start =>
      obtain ⟨rest, hrest⟩ := List.isPrefixOf_iff_prefix.1 start
      rw [← hrest, List.drop_left] at h
      split at h
      · next oneLine =>
        obtain rfl := Option.some.inj h
        refine ⟨by simpa using oneLine.1, by simpa using oneLine.2, ?_⟩
        rcases (dropFinalLineFeed_iff oneLine.2).1 rfl with same | ended
        · left
          rw [← String.toList_inj, String.toList_append, ← hrest, toList_diskReferenceStart,
            String.toList_ofList, ← same]
        · right
          rw [← String.toList_inj, String.toList_append, String.toList_append, ← hrest,
            toList_diskReferenceStart, String.toList_ofList, List.append_assoc]
          exact congrArg _ ended
      · cases h
    · cases h
  · rintro ⟨nonempty, oneLine, shape⟩
    obtain ⟨rest, hrest, hid⟩ : ∃ rest, hostResource.toList = diskReferenceStart ++ rest ∧
        dropFinalLineFeed rest = id.toList := by
      rcases shape with rfl | rfl
      · exact ⟨id.toList, by rw [String.toList_append]; rfl,
          (dropFinalLineFeed_iff oneLine).2 (Or.inl rfl)⟩
      · exact ⟨id.toList ++ ['\n'], by
          rw [String.toList_append, String.toList_append, List.append_assoc]; rfl,
          (dropFinalLineFeed_iff oneLine).2 (Or.inr rfl)⟩
    have present : id.toList ≠ [] := by simpa using nonempty
    simp only [hrest, List.isPrefixOf_iff_prefix, List.prefix_append, if_true, List.drop_left, hid,
      ne_eq, present, not_false_eq_true, oneLine, and_self, String.ofList_toList]

theorem names_iff {item : Item} {id : String} :
    item.Names id ↔ item.hostResource.head?.bind diskIdOf? = some id := by
  simp only [Item.Names, Option.bind_eq_some_iff, diskIdOf?_iff]

theorem diskItems_eq (h : HardwareSection) : h.diskItems = h.itemsOf .hardDisk := by
  unfold HardwareSection.diskItems HardwareSection.itemsOf
  apply List.filter_congr
  intro item _
  exact (beq_eq_decide ..).symm

/-! ### The disk of one item -/

/-- The disk of an item, from its first host resource. -/
def resolved (disks : List Disk) (files : List FileReference) (hostResource : Option String) :
    Except Fault DiskInfo :=
  match hostResource.bind diskIdOf? with
  | none => .error (.unsupported (.hostResource hostResource))
  | some id => match diskById? disks id with
    | none => .error (.defect (.diskNotFound id))
    | some disk => match fileById? files disk.fileRef with
      | none => .error (.defect (.fileNotFound disk.fileRef id))
      | some file => (capacityInGb (.ofText disk.capacity) disk.capacityUnits).result.bind
          fun gigabytes => .ok ⟨file.href, gigabytes⟩

theorem result_diskInfo (disks : List Disk) (files : List FileReference) (item : Item) :
    (diskInfo disks files item).result = resolved disks files item.hostResource.head? := by
  unfold diskInfo resolved Item.diskId
  cases item.hostResource.head?.bind diskIdOf? with
  | none => rfl
  | some id =>
    simp only [Narrated.result_bind, Narrated.result_ofExcept, Except.bind]
    cases diskById? disks id with
    | none => rfl
    | some disk =>
      dsimp only
      cases fileById? files disk.fileRef with
      | none => rfl
      | some file => simp only [Narrated.result_bind, Narrated.result_log, Narrated.result_pure, Except.bind]

theorem counted_ofText (text : Option String) : (Amount.ofText text).counted =
    (Amount.ofText text).natural.mapError fun _ => .unsupported (.capacity text) := by
  cases text with
  | none => rfl
  | some s =>
    rw [Amount.counted, Amount.ofText, Amount.natural]
    cases Number.readNatural s <;> rfl

theorem result_scaled (n : Nat) (shift : Int) : ∃ scale, (scaled n shift).result = .ok scale := by
  unfold scaled
  split
  · exact ⟨_, rfl⟩
  · dsimp only
    split
    · exact ⟨1, rfl⟩
    · exact ⟨_, rfl⟩

theorem capacityInGb_error_iff {text units : Option String} {fault : Fault} :
    (capacityInGb (.ofText text) units).result = .error fault ↔
      ((∀ n, (Amount.ofText text).natural ≠ .ok n) ∧ fault = .unsupported (.capacity text)) ∨
      (∃ n, (Amount.ofText text).natural = .ok n) ∧ AllocationUnit.read units = .error fault := by
  unfold capacityInGb Amount.inUnitsOf
  simp only [Narrated.result_bind, Narrated.result_ofExcept, counted_ofText]
  cases (Amount.ofText text).natural with
  | error cause => simp [Except.bind, Except.mapError, eq_comm]
  | ok n =>
    rw [Except.mapError]
    cases AllocationUnit.read units with
    | error cause => simp [Except.bind]
    | ok unit =>
      obtain ⟨scale, done⟩ := result_scaled n ((unit.exponent : Int) - 30)
      simp [Except.bind, done]

theorem resolved_of_file {disks : List Disk} {files : List FileReference} {item : Item}
    {id reference : String} {disk : Disk} {file : FileReference} (named : item.Names id)
    (found : DiskOf disks id disk) (refers : disk.fileRef = some reference)
    (stored : FileOf files reference file) :
    resolved disks files item.hostResource.head? =
      (capacityInGb (.ofText disk.capacity) disk.capacityUnits).result.bind
        fun gigabytes => .ok ⟨file.href, gigabytes⟩ := by
  unfold resolved
  rw [names_iff.1 named]
  dsimp only
  rw [diskById?_iff.2 found]
  dsimp only
  rw [fileById?_iff.2 ⟨reference, refers, stored⟩]

theorem resolved_ok_iff {disks : List Disk} {files : List FileReference} {item : Item}
    {info : DiskInfo} : resolved disks files item.hostResource.head? = .ok info ↔
      Joins disks files item info := by
  constructor
  · intro h
    unfold resolved at h
    split at h
    · cases h
    · next id named =>
      split at h
      · cases h
      · next disk found =>
        split at h
        · cases h
        · next file stored =>
          obtain ⟨gigabytes, size, h⟩ := ok_of_bind h
          obtain rfl := Except.ok.inj h
          obtain ⟨reference, refers, last⟩ := fileById?_iff.1 stored
          exact ⟨id, disk, reference, file, names_iff.2 named, diskById?_iff.1 found, refers, last,
            rfl, size⟩
  · rintro ⟨id, disk, reference, file, named, found, refers, stored, location, size⟩
    rw [resolved_of_file named found refers stored, size, ← location]
    rfl

theorem resolved_error_iff {disks : List Disk} {files : List FileReference} {item : Item}
    {fault : Fault} : resolved disks files item.hostResource.head? = .error fault ↔
      Unjoined disks files item fault := by
  constructor
  · intro h
    unfold resolved at h
    split at h
    · next unnamed =>
      obtain rfl := Except.error.inj h
      exact .hostResource fun id named => by simp [names_iff.1 named] at unnamed
    · next id named =>
      have named := names_iff.2 named
      split at h
      · next absent =>
        obtain rfl := Except.error.inj h
        exact .disk named (diskById?_none_iff.1 absent)
      · next disk found =>
        have found := diskById?_iff.1 found
        split at h
        · next absent =>
          obtain rfl := Except.error.inj h
          exact .file named found (fileById?_none_iff.1 absent)
        · next file stored =>
          obtain ⟨reference, refers, last⟩ := fileById?_iff.1 stored
          have failed := (bind_error_iff.1 h).resolve_right (by rintro ⟨_, _, h⟩; cases h)
          rcases capacityInGb_error_iff.1 failed with ⟨refused, rfl⟩ | ⟨⟨n, counted⟩, refused⟩
          · exact .capacity named found refers last refused
          · exact .units named found refers last counted refused
  · intro h
    cases h with
    | hostResource unnamed =>
      have none : item.hostResource.head?.bind diskIdOf? = none := by
        rw [Option.eq_none_iff_forall_ne_some]
        exact fun id named => unnamed id (names_iff.2 named)
      simp only [resolved, none]
    | disk named absent => simp only [resolved, names_iff.1 named, diskById?_none_iff.2 absent]
    | file named found absent =>
      simp only [resolved, names_iff.1 named, diskById?_iff.2 found, fileById?_none_iff.2 absent]
    | capacity named found refers stored refused =>
      rw [resolved_of_file named found refers stored,
        capacityInGb_error_iff.2 (Or.inl ⟨refused, rfl⟩)]
      rfl
    | units named found refers stored counted refused =>
      rw [resolved_of_file named found refers stored,
        capacityInGb_error_iff.2 (Or.inr ⟨⟨_, counted⟩, refused⟩)]
      rfl

/-! ### All disks -/

theorem result_diskInfos (h : HardwareSection) (sec : DiskSection) (files : List FileReference) :
    (diskInfos (some h) (some sec) (some files)).result =
      if sec.disks = [] then .error (.defect (.disks .noDisks))
      else if h.diskItems = [] then .error (.defect (.disks .noDiskItems))
      else (h.diskItems.map fun item => item.hostResource.head?).mapM (resolved sec.disks files) := by
  unfold diskInfos
  simp only [Option.map_some, Option.getD_some, List.isEmpty_iff, diskItems_eq]
  split
  · rfl
  · cases h.itemsOf .hardDisk with
    | nil => rfl
    | cons item items =>
      simp only [Narrated.result_mapM, result_diskInfo, List.mapM_map, if_neg (List.cons_ne_nil _ _)]
      rfl

/-- A package that agrees on what the disk items lead to resolves each of them alike. -/
theorem resolved_congr {h h' : HardwareSection} {disks disks' : List Disk}
    {files files' : List FileReference} (same : SameJoin h h' disks disks' files files') :
    ∀ item ∈ h.diskItems, resolved disks files item.hostResource.head? =
      resolved disks' files' item.hostResource.head? := by
  intro item member
  unfold resolved
  cases named : item.hostResource.head?.bind diskIdOf? with
  | none => rfl
  | some id =>
    have named := names_iff.2 named
    have sameDisk : diskById? disks id = diskById? disks' id := by
      apply Option.ext
      intro disk
      rw [diskById?_iff, diskById?_iff]
      exact same.sameDisk item member id named disk
    dsimp only
    rw [← sameDisk]
    cases found : diskById? disks id with
    | none => rfl
    | some disk =>
      have sameHref : (fileById? files disk.fileRef).map FileReference.href =
          (fileById? files' disk.fileRef).map FileReference.href := by
        cases refers : disk.fileRef with
        | none => rfl
        | some reference =>
          apply Option.ext
          intro href
          rw [← location_iff, ← location_iff]
          exact same.sameLocation item member id named disk (diskById?_iff.1 found) _ refers href
      dsimp only
      cases first : fileById? files disk.fileRef <;> cases second : fileById? files' disk.fileRef
      · rfl
      · simp [first, second] at sameHref
      · simp [first, second] at sameHref
      · have href := Option.some.inj (by simpa [first, second] using sameHref)
        dsimp only
        rw [href]

theorem diskInfos_congr {h h' : HardwareSection} {sec sec' : DiskSection}
    {files files' : List FileReference} (same : SameJoin h h' sec.disks sec'.disks files files') :
    (diskInfos (some h') (some sec') (some files')).result =
      (diskInfos (some h) (some sec) (some files)).result := by
  have noItems : h'.diskItems = [] ↔ h.diskItems = [] := by
    rw [← List.map_eq_nil_iff (f := fun item : Item => item.hostResource.head?),
      ← same.hostResources, List.map_eq_nil_iff]
  rw [result_diskInfos, result_diskInfos, ← same.hostResources]
  simp only [noItems, same.bothEmpty.symm]
  rw [mapM_congr (List.forall_mem_map.2 (resolved_congr same))]

theorem diskInfos_ok_iff {h : HardwareSection} {sec : DiskSection} {files : List FileReference}
    {infos : List DiskInfo} : (diskInfos (some h) (some sec) (some files)).result = .ok infos ↔
      sec.disks ≠ [] ∧ h.diskItems ≠ [] ∧ List.Forall₂ (Joins sec.disks files) h.diskItems infos := by
  rw [result_diskInfos]
  by_cases noDisks : sec.disks = []
  · simp [noDisks]
  by_cases noItems : h.diskItems = []
  · simp [noDisks, noItems]
  rw [if_neg noDisks, if_neg noItems, mapM_ok_iff, List.forall₂_map_left_iff]
  simp only [resolved_ok_iff]
  exact ⟨fun joined => ⟨noDisks, noItems, joined⟩, fun ⟨_, _, joined⟩ => joined⟩

theorem diskInfos_error_iff {h : HardwareSection} {sec : DiskSection} {files : List FileReference}
    {fault : Fault} : (diskInfos (some h) (some sec) (some files)).result = .error fault ↔
      Unresolved h sec.disks files fault := by
  rw [result_diskInfos, List.mapM_map]
  constructor
  · intro failed
    split at failed
    · next noDisks =>
      obtain rfl := Except.error.inj failed
      exact .noDisks noDisks
    · next someDisks =>
      split at failed
      · next noItems =>
        obtain rfl := Except.error.inj failed
        exact .noDiskItems someDisks noItems
      · obtain ⟨before, item, after, split, earlier, first⟩ := mapM_error_iff.1 failed
        simp only [Function.comp, resolved_ok_iff, resolved_error_iff] at earlier first
        exact .item someDisks split earlier first
  · intro failed
    cases failed with
    | noDisks noDisks => rw [if_pos noDisks]
    | noDiskItems someDisks noItems => rw [if_neg someDisks, if_pos noItems]
    | @item before after item _ someDisks split earlier first =>
      have someItems : h.diskItems ≠ [] := by simp [split]
      rw [if_neg someDisks, if_neg someItems, mapM_error_iff]
      refine ⟨before, item, after, split, ?_, resolved_error_iff.2 first⟩
      intro other member
      obtain ⟨info, joined⟩ := earlier other member
      exact ⟨info, resolved_ok_iff.2 joined⟩

/-- The disks of a system are those that its disk items are joined to, in the order of the items.
There is a fault just if there are none or some item is not joined, and then it is that of the first
such item. Everything else may be different. -/
theorem diskInfos_join (h : HardwareSection) (sec : DiskSection) (files : List FileReference) :
    (∀ infos, (diskInfos (some h) (some sec) (some files)).result = .ok infos ↔
      sec.disks ≠ [] ∧ h.diskItems ≠ [] ∧
        List.Forall₂ (Joins sec.disks files) h.diskItems infos) ∧
    (∀ fault, (diskInfos (some h) (some sec) (some files)).result = .error fault ↔
      Unresolved h sec.disks files fault) ∧
    (∀ h' sec' files', SameJoin h h' sec.disks sec'.disks files files' →
      (diskInfos (some h') (some sec') (some files')).result =
        (diskInfos (some h) (some sec) (some files)).result) :=
  ⟨fun _ => diskInfos_ok_iff, fun _ => diskInfos_error_iff, fun _ _ _ => diskInfos_congr⟩

/-- Doubled entries before the last, a further host resource, a controller and an unused disk and
file make no difference. -/
theorem diskInfos_join_duplicates :
    let item : Item := { resourceType := some 17, hostResource := ["ovf:/disk/d"] }
    let noisy : Item := { item with hostResource := ["ovf:/disk/d", "none"], parent := some "9" }
    let disk : Disk := ⟨some "d", some "f", some "3", some "byte * 2^30"⟩
    let unused : Disk := ⟨some "e", none, none, none⟩
    let h : HardwareSection := ⟨[item]⟩
    let h' : HardwareSection := ⟨[{ resourceType := some 6 }, noisy]⟩
    let files : List FileReference := [⟨some "f", some "a.vmdk", none⟩]
    let files' : List FileReference := [⟨some "f", none, none⟩, ⟨none, none, none⟩,
      ⟨some "f", some "a.vmdk", some 7⟩]
    SameJoin h h' [disk] [{ disk with capacity := none }, disk, unused] files files' ∧
      (diskInfos (some h') (some ⟨none, none, [{ disk with capacity := none }, disk, unused]⟩)
        (some files')).result =
        (diskInfos (some h) (some ⟨none, none, [disk]⟩) (some files)).result := by
  intro item noisy disk unused h h' files files'
  have only : ∀ other ∈ h.diskItems, ∀ id, other.Names id → id = "d" := by
    intro other member id named
    obtain rfl : other = item := by simpa [HardwareSection.diskItems, h, item] using member
    have found : item.hostResource.head?.bind diskIdOf? = some "d" := by decide
    exact (Option.some.inj (found.symm.trans (names_iff.1 named))).symm
  have same : SameJoin h h' [disk] [{ disk with capacity := none }, disk, unused] files files' := by
    refine ⟨by decide, by simp, ?_, ?_⟩
    · intro other member id named found
      obtain rfl := only other member id named
      rw [← diskById?_iff, ← diskById?_iff]
      rfl
    · intro other member id named found isLast reference refers href
      obtain rfl := only other member id named
      have first : some disk = some found := diskById?_iff.2 isLast
      obtain rfl := Option.some.inj first
      obtain rfl : "f" = reference := Option.some.inj refers
      rw [location_iff, location_iff]
      rfl
  exact ⟨same, (diskInfos_join h ⟨none, none, [disk]⟩ files).2.2 h'
    ⟨none, none, [{ disk with capacity := none }, disk, unused]⟩ files' same⟩

end OvfInspect
