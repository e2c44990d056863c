import OvfInspect.Proofs.DisksListing
import OvfInspect.Proofs.LocatedDisks
import OvfInspect.Storage.Table

/-!
# Calls of loading

Which calls a storage client gets while a package is loaded, in what order, and what comes out. `Loads` and
`LoadsDisks` tell it as the cases of a protocol, for a storage that may answer differently every time it is
asked. `loading_calls` shows that loading goes just by this protocol.
-/

namespace OvfInspect

/-! ### Calls and outcomes -/

/-- The computation makes these calls, in this order, and has the outcome. -/
structure Ends {ε α : Type} (x : Narrated ε α) (calls : List Call) (outcome : Except ε α) : Prop where
  calls : Narrated.calls x.events = calls
  outcome : x.result = outcome

namespace Ends

variable {ε α β : Type} {x : Narrated ε α} {f : α → Narrated ε β} {calls more : List Call}
  {outcome : Except ε β} {a : α} {e : ε}

theorem calls_append (first second : List Event) :
    Narrated.calls (first ++ second) = Narrated.calls first ++ Narrated.calls second :=
  List.filterMap_append

theorem unique {calls' : List Call} {outcome outcome' : Except ε α} (h : Ends x calls outcome)
    (h' : Ends x calls' outcome') : calls = calls' ∧ outcome = outcome' :=
  ⟨h.calls.symm.trans h'.calls, h.outcome.symm.trans h'.outcome⟩

theorem of_logs (h : Logs x) : Ends x [] x.result where
  calls := by
    unfold Narrated.calls
    rw [List.filterMap_eq_nil_iff]
    intro event member
    obtain ⟨-, entry, rfl⟩ := h event member
    rfl
  outcome := rfl

theorem bind (hx : Ends x calls (.ok a)) (hf : Ends (f a) more outcome) :
    Ends (x >>= f) (calls ++ more) outcome where
  calls := by rw [Narrated.bind_of_ok hx.outcome, calls_append, hx.calls, hf.calls]
  outcome := by rw [Narrated.bind_of_ok hx.outcome, hf.outcome]

theorem bind_error (hx : Ends x calls (.error e)) : Ends (x >>= f) calls (.error e) where
  calls := by rw [Narrated.bind_of_error hx.outcome, hx.calls]
  outcome := by rw [Narrated.bind_of_error hx.outcome]

theorem logs_bind (hx : Logs x) (result : x.result = .ok a) (hf : Ends (f a) more outcome) :
    Ends (x >>= f) more outcome :=
  (result ▸ of_logs hx).bind hf

theorem bind_uncalled (hx : Ends x calls (.ok a)) (hf : Ends (f a) [] outcome) :
    Ends (x >>= f) calls outcome := by
  have whole := hx.bind hf
  rwa [List.append_nil] at whole

theorem bind_logs (hx : Ends x calls (.ok a)) (hf : Logs (f a)) : Ends (x >>= f) calls (f a).result :=
  hx.bind_uncalled (of_logs hf)

theorem mapM {g : α → List Call} {xs : List α} {ys : List β}
    (h : List.Forall₂ (fun x y => Ends (f x) (g x) (.ok y)) xs ys) :
    Ends (xs.mapM f) (xs.flatMap g) (.ok ys) := by
  induction h with
  | nil => exact of_logs (Logs.pure [])
  | cons first _ ih =>
    rw [List.mapM_cons, List.flatMap_cons]
    exact first.bind (ih.bind_logs (Logs.pure _))

theorem mapM_error {g : α → List Call} {before after : List α} {x : α}
    (earlier : ∀ y ∈ before, ∃ b, Ends (f y) (g y) (.ok b)) (last : Ends (f x) (g x) (.error e)) :
    Ends ((before ++ x :: after).mapM f) ((before ++ [x]).flatMap g) (.error e) := by
  induction before with
  | nil =>
    rw [List.nil_append, List.mapM_cons, List.nil_append, List.flatMap_singleton]
    exact last.bind_error
  | cons y before ih =>
    obtain ⟨⟨b, first⟩, earlier⟩ := List.forall_mem_cons.1 earlier
    rw [List.cons_append, List.mapM_cons, List.cons_append, List.flatMap_cons]
    exact first.bind (ih earlier).bind_error

end Ends

namespace Package

open Storage

/-! ### Storage that may change -/

/-- The operation answers or fails as storage does, and tells of no calls itself. -/
structure Answers {α : Type} (x : Narrated Fault α) : Prop where
  uncalled : Narrated.calls x.events = []
  failing : ∀ fault, x.result = .error fault → ∃ failure, fault = .storage failure

structure Serves (client : Client) : Prop where
  find : ∀ base wanted, Answers (client.find base wanted)
  read : ∀ handle, Answers (client.read handle)
  join : ∀ base name, Answers (client.join base name)

/-- What is found is at exactly the name that was looked for, so that without a name nothing is. -/
def FindsNamed (client : Client) : Prop :=
  ∀ base handle, (client.find base none).result ≠ .ok handle

/-- Check that all listed files are found by the calls from the third on. -/
def validateThrough (storage : Nat → Client) (package : String) (d : Descriptor) :
    Narrated Fault Descriptor := do
  match d.files with
  | none => .log (.verbose "Descriptor has no References; nothing to check")
  | some files => (files.zipIdx 2).forM fun entry => check (storage entry.2) package entry.1
  pure d

/-- Loading a package from storage where the client of a number, from zero on, answers the call of that
number. -/
def loadThrough (room : Nat) (storage : Nat → Client) (package : String) : Narrated Fault Descriptor := do
  let handle ← (storage 0).find package (some descriptorSuffix)
  let content ← (storage 1).read handle
  .log (.verbose s!"Read {content.size} bytes of OVF descriptor from {handle.path}")
  validateThrough storage package (← Descriptor.parse room content)

/-- What the disks of a descriptor are, before they are located. -/
def resolution (d : Descriptor) : Narrated Fault (List DiskInfo) := do
  diskInfos (some (← descriptorHardware (some d))) d.diskSection d.files

/-- The disks of the package from such storage, located by the calls after those of loading. -/
def loadWithDisksThrough (room : Nat) (storage : Nat → Client) (package : String) :
    Narrated Fault (Descriptor × List LocatedDisk) := do
  let d ← loadThrough room storage package
  let infos ← resolution d
  let disks ← (infos.zipIdx (2 + (listed d).length)).mapM fun entry =>
    locate (storage entry.2) package entry.1
  pure (d, disks)

theorem validateThrough_const (client : Client) (package : String) (d : Descriptor) :
    validateThrough (fun _ => client) package d = validate client (some d) package := by
  unfold validateThrough validate
  dsimp only
  cases d.files with
  | none => rfl
  | some files =>
    dsimp only
    rw [Narrated.forM_eq_mapM, Narrated.forM_eq_mapM, Narrated.mapM_zipIdx]

theorem loadThrough_const (room : Nat) (client : Client) (package : String) :
    loadThrough room (fun _ => client) package = load room client package := by
  unfold loadThrough load content
  simp only [bind_assoc, pure_bind, validateThrough_const]

theorem loadWithDisksThrough_const (room : Nat) (client : Client) (package : String) :
    loadWithDisksThrough room (fun _ => client) package = loadWithDisks room client package := by
  unfold loadWithDisksThrough loadWithDisks resolution
  rw [loadThrough_const]
  simp only [Narrated.mapM_zipIdx, bind_assoc]

/-! ### The protocol -/

section Protocol

variable (room : Nat) (storage : Nat → Client) (package : String)

/-- The document is found by the first call and read by the second. -/
structure Opens (handle : Handle) (content : Xml.Content) : Prop where
  found : ((storage 0).find package (some ".ovf")).result = .ok handle
  isRead : ((storage 1).read handle).result = .ok content

def opening (handle : Handle) : List Call :=
  [.find package (some ".ovf"), .read handle.path]

/-- The file is found by the call of that number. -/
def Finds (entry : FileReference × Nat) : Prop :=
  ∃ handle, ((storage entry.2).find package entry.1.href).result = .ok handle

/-- How loading goes: the calls in their order, and the outcome. Nothing is called after a failure, and
a listed file that fails is the fault, with what failed as its cause. -/
inductive Loads : List Call → Except Fault Descriptor → Prop
  | lost {fault : Fault} (failed : ((storage 0).find package (some ".ovf")).result = .error fault) :
      Loads [.find package (some ".ovf")] (.error fault)
  | unread {handle : Handle} {fault : Fault}
      (found : ((storage 0).find package (some ".ovf")).result = .ok handle)
      (failed : ((storage 1).read handle).result = .error fault) :
      Loads (opening package handle) (.error fault)
  | unparsed {handle : Handle} {content : Xml.Content} {fault : Fault}
      (opens : Opens storage package handle content)
      (failed : (Descriptor.parse room content).result = .error fault) :
      Loads (opening package handle) (.error fault)
  | incomplete {handle : Handle} {content : Xml.Content} {d : Descriptor} {file : FileReference} {n : Nat}
      {before after : List (FileReference × Nat)} {failure : Failure}
      (opens : Opens storage package handle content) (parsed : (Descriptor.parse room content).result = .ok d)
      (split : (listed d).zipIdx 2 = before ++ (file, n) :: after)
      (earlier : ∀ entry ∈ before, Finds storage package entry)
      (missing : ((storage n).find package file.href).result = .error (.storage failure)) :
      Loads (opening package handle ++ (before ++ [(file, n)]).map fun entry => .find package entry.1.href)
        (.error (.defect (.notInPackage file.href package failure)))
  | complete {handle : Handle} {content : Xml.Content} {d : Descriptor}
      (opens : Opens storage package handle content) (parsed : (Descriptor.parse room content).result = .ok d)
      (all : ∀ entry ∈ (listed d).zipIdx 2, Finds storage package entry) :
      Loads (opening package handle ++ (listed d).map fun file => .find package file.href) (.ok d)

/-- The virtual system, its first hardware section and all disks of the descriptor are there. -/
def Resolves (d : Descriptor) (infos : List DiskInfo) : Prop :=
  ∃ system hardware sec files, d.virtualSystem = some system ∧ system.hardware.head? = some hardware ∧
    d.diskSection = some sec ∧ d.files = some files ∧ hardware.diskItems ≠ [] ∧
    List.Forall₂ (Joins sec.disks files) hardware.diskItems infos

/-- The call is for the location of the disk. -/
def Asks (info : DiskInfo) (call : Call) : Prop :=
  ∃ href, info.location = some href ∧ call = .join package href

/-- The disk is located by the call of that number. -/
def Places (entry : DiskInfo × Nat) (disk : LocatedDisk) : Prop :=
  ∃ href, entry.1.location = some href ∧
    ((storage entry.2).join package href).result = .ok disk.location ∧ disk.sizeInGb = entry.1.sizeInGb

/-- How loading with disks goes: after the calls of loading there is one for each disk, in the order of
the disk items, and that only if everything is resolved. -/
inductive LoadsDisks : List Call → Except Fault (Descriptor × List LocatedDisk) → Prop
  | unloaded {calls : List Call} {fault : Fault} (failed : Loads room storage package calls (.error fault)) :
      LoadsDisks calls (.error fault)
  | unresolved {calls : List Call} {d : Descriptor} {fault : Fault}
      (loaded : Loads room storage package calls (.ok d)) (unresolved : ∀ infos, ¬ Resolves d infos)
      (failed : (resolution d).result = .error fault) : LoadsDisks calls (.error fault)
  | unplaced {calls joins : List Call} {d : Descriptor} {infos : List DiskInfo} {info : DiskInfo} {n : Nat}
      {before after : List (DiskInfo × Nat)} {href : String} {fault : Fault}
      (loaded : Loads room storage package calls (.ok d)) (resolved : Resolves d infos)
      (split : infos.zipIdx (2 + (listed d).length) = before ++ (info, n) :: after)
      (earlier : ∀ entry ∈ before, ∃ disk, Places storage package entry disk)
      (location : info.location = some href)
      (failed : ((storage n).join package href).result = .error fault)
      (asked : List.Forall₂ (Asks package) ((before ++ [(info, n)]).map Prod.fst) joins) :
      LoadsDisks (calls ++ joins) (.error fault)
  | placed {calls joins : List Call} {d : Descriptor} {infos : List DiskInfo} {disks : List LocatedDisk}
      (loaded : Loads room storage package calls (.ok d)) (resolved : Resolves d infos)
      (all : List.Forall₂ (Places storage package) (infos.zipIdx (2 + (listed d).length)) disks)
      (asked : List.Forall₂ (Asks package) infos joins) :
      LoadsDisks (calls ++ joins) (.ok (d, disks))

end Protocol

/-! ### Single calls -/

variable {room : Nat} {storage : Nat → Client} {client : Client} {package : String} {d : Descriptor}

/-- Every client tells of its calls. -/
def recorded (storage : Nat → Client) (n : Nat) : Client :=
  (storage n).recorded

theorem ends_told {α : Type} {x : Narrated Fault α} {call : Call} (answers : Answers x) :
    Ends (.tell (.called call) >>= fun _ => x) [call] x.result :=
  (⟨rfl, rfl⟩ : Ends (.tell (.called call) : Narrated Fault Unit) [call] (.ok ())).bind
    ⟨answers.uncalled, rfl⟩

theorem ends_find (serves : Serves client) (base : String) (wanted : Option String) :
    Ends (client.recorded.find base wanted) [.find base wanted] (client.find base wanted).result :=
  ends_told (serves.find base wanted)

theorem ends_read (serves : Serves client) (handle : Handle) :
    Ends (client.recorded.read handle) [.read handle.path] (client.read handle).result :=
  ends_told (serves.read handle)

theorem ends_join (serves : Serves client) (base name : String) :
    Ends (client.recorded.join base name) [.join base name] (client.join base name).result :=
  ends_told (serves.join base name)

theorem ends_check (serves : Serves client) (file : FileReference) :
    Ends (check client.recorded package file) [.find package file.href] (check client package file).result := by
  have looked := ends_find serves package file.href
  have attempted : Ends ((client.recorded.find package file.href).attempt : Narrated Fault _)
      [.find package file.href] (.ok (client.find package file.href).result) :=
    ⟨looked.calls, congrArg Except.ok looked.outcome⟩
  refine attempted.bind_logs ?_
  split
  · exact .log _
  · exact .fail _
  · exact .fail _

theorem check_of_missing {file : FileReference} {failure : Failure}
    (missing : (client.find package file.href).result = .error (.storage failure)) :
    (check client package file).result = .error (.defect (.notInPackage file.href package failure)) := by
  have attempted : ((client.find package file.href).attempt : Narrated Fault _).result =
      .ok (.error (.storage failure)) := congrArg Except.ok missing
  unfold check
  rw [Narrated.bind_of_ok attempted]
  rfl

theorem ends_locate (serves : Serves client) {info : DiskInfo} {href : String}
    (location : info.location = some href) :
    Ends (locate client.recorded package info) [.join package href] (locate client package info).result := by
  unfold locate
  rw [location]
  dsimp only
  have joined := ends_join serves package href
  cases result : (client.join package href).result with
  | error fault =>
    rw [result] at joined
    rw [Narrated.bind_of_error result]
    exact joined.bind_error
  | ok path =>
    rw [result] at joined
    rw [Narrated.bind_of_ok result]
    exact joined.bind_logs (Logs.pure _)

theorem locate_error_iff {info : DiskInfo} {href : String} {fault : Fault}
    (location : info.location = some href) : (locate client package info).result = .error fault ↔
      (client.join package href).result = .error fault := by
  unfold locate
  rw [location]
  dsimp only
  rw [Narrated.result_bind, bind_error_iff]
  simp

/-! ### Loading -/

variable {calls : List Call}

theorem exists_loads (room : Nat) (package : String) (serves : ∀ n, Serves (storage n)) :
    ∃ calls outcome, Loads room storage package calls outcome := by
  cases found : ((storage 0).find package (some ".ovf")).result with
  | error fault => exact ⟨_, _, .lost found⟩
  | ok handle =>
    cases isRead : ((storage 1).read handle).result with
    | error fault => exact ⟨_, _, .unread found isRead⟩
    | ok content =>
      have opens : Opens storage package handle content := ⟨found, isRead⟩
      cases parsed : (Descriptor.parse room content).result with
      | error fault => exact ⟨_, _, .unparsed opens parsed⟩
      | ok d =>
        rcases first_failure (fun entry => ((storage entry.2).find package entry.1.href).result)
          ((listed d).zipIdx 2) with all | ⟨before, ⟨file, n⟩, after, fault, split, earlier, missing⟩
        · exact ⟨_, _, .complete opens parsed all⟩
        · obtain ⟨failure, rfl⟩ := ((serves n).find package file.href).failing fault missing
          exact ⟨_, _, .incomplete opens parsed split earlier missing⟩

theorem ends_checks (serves : ∀ n, Serves (storage n)) {entries : List (FileReference × Nat)}
    (all : ∀ entry ∈ entries, Finds storage package entry) :
    Ends (entries.forM fun entry => check (recorded storage entry.2) package entry.1)
      (entries.map fun entry => .find package entry.1.href) (.ok ()) := by
  have each : List.Forall₂ (fun entry _ => Ends (check (recorded storage entry.2) package entry.1)
      [.find package entry.1.href] (.ok ())) entries (entries.map fun _ => ()) := by
    rw [List.forall₂_map_right_iff, List.forall₂_same]
    intro entry member
    rw [← check_ok_iff.2 (all entry member)]
    exact ends_check (serves entry.2) entry.1
  rw [Narrated.forM_eq_mapM, List.map_eq_flatMap]
  exact (Ends.mapM each).bind_logs (Logs.pure _)

theorem ends_checks_missing (serves : ∀ n, Serves (storage n)) {before after : List (FileReference × Nat)}
    {file : FileReference} {n : Nat} {failure : Failure}
    (earlier : ∀ entry ∈ before, Finds storage package entry)
    (missing : ((storage n).find package file.href).result = .error (.storage failure)) :
    Ends ((before ++ (file, n) :: after).forM fun entry => check (recorded storage entry.2) package entry.1)
      ((before ++ [(file, n)]).map fun entry => .find package entry.1.href)
      (.error (.defect (.notInPackage file.href package failure))) := by
  rw [Narrated.forM_eq_mapM, List.map_eq_flatMap]
  refine (Ends.mapM_error (fun entry member => ⟨(), ?_⟩) ?_).bind_error
  · rw [← check_ok_iff.2 (earlier entry member)]
    exact ends_check (serves entry.2) entry.1
  · rw [← check_of_missing missing]
    exact ends_check (serves n) file

theorem ends_validate (serves : ∀ n, Serves (storage n))
    (all : ∀ entry ∈ (listed d).zipIdx 2, Finds storage package entry) :
    Ends (validateThrough (recorded storage) package d)
      ((listed d).map fun file => .find package file.href) (.ok d) := by
  have same : (listed d).map (fun file => Call.find package file.href) =
      ((listed d).zipIdx 2).map fun entry => .find package entry.1.href := by
    rw [← List.zipIdx_map_fst 2 (listed d), List.map_map, List.zipIdx_map_fst]
    rfl
  rw [same]
  unfold validateThrough listed at *
  cases isFiles : d.files with
  | none => exact .of_logs (.log_bind (.pure _))
  | some files =>
    rw [isFiles] at all
    exact (ends_checks serves all).bind_logs (Logs.pure _)

theorem ends_validate_missing (serves : ∀ n, Serves (storage n))
    {before after : List (FileReference × Nat)} {file : FileReference} {n : Nat} {failure : Failure}
    (split : (listed d).zipIdx 2 = before ++ (file, n) :: after)
    (earlier : ∀ entry ∈ before, Finds storage package entry)
    (missing : ((storage n).find package file.href).result = .error (.storage failure)) :
    Ends (validateThrough (recorded storage) package d)
      ((before ++ [(file, n)]).map fun entry => .find package entry.1.href)
      (.error (.defect (.notInPackage file.href package failure))) := by
  unfold validateThrough listed at *
  cases isFiles : d.files with
  | none =>
    rw [isFiles] at split
    simp at split
  | some files =>
    rw [isFiles, Option.getD_some] at split
    dsimp only
    rw [split]
    exact (ends_checks_missing serves earlier missing).bind_error

theorem ends_opened (serves : ∀ n, Serves (storage n)) {handle : Handle} {content : Xml.Content}
    (opens : Opens storage package handle content) {outcome : Except Fault Descriptor}
    (rest : Ends (Descriptor.parse room content >>= validateThrough (recorded storage) package) calls outcome) :
    Ends (loadThrough room (recorded storage) package) (opening package handle ++ calls) outcome := by
  have found := ends_find (serves 0) package (some ".ovf")
  have isRead := ends_read (serves 1) handle
  rw [opens.found] at found
  rw [opens.isRead] at isRead
  exact found.bind (isRead.bind (.logs_bind (.log _) rfl rest))

theorem ends_of_loads (serves : ∀ n, Serves (storage n)) {outcome : Except Fault Descriptor}
    (loads : Loads room storage package calls outcome) :
    Ends (loadThrough room (recorded storage) package) calls outcome := by
  cases loads with
  | lost failed =>
    have found := ends_find (serves 0) package (some ".ovf")
    rw [failed] at found
    exact found.bind_error
  | @unread handle fault isFound failed =>
    have found := ends_find (serves 0) package (some ".ovf")
    have isRead := ends_read (serves 1) handle
    rw [isFound] at found
    rw [failed] at isRead
    exact found.bind isRead.bind_error
  | @unparsed _ content _ opens failed =>
    have parsed := Ends.of_logs (logs_parse room content)
    rw [failed] at parsed
    have whole := ends_opened serves opens parsed.bind_error
    rwa [List.append_nil] at whole
  | incomplete opens parsed split earlier missing =>
    exact ends_opened serves opens
      (.logs_bind (logs_parse room _) parsed (ends_validate_missing serves split earlier missing))
  | complete opens parsed all =>
    exact ends_opened serves opens (.logs_bind (logs_parse room _) parsed (ends_validate serves all))

/-- Loading goes by the protocol and in no other way. -/
theorem loads_iff (serves : ∀ n, Serves (storage n)) {outcome : Except Fault Descriptor} :
    Ends (loadThrough room (recorded storage) package) calls outcome ↔ Loads room storage package calls outcome := by
  refine ⟨fun ends => ?_, ends_of_loads serves⟩
  -- Some case of the protocol applies, and it can only be the one in which the computation ends.
  obtain ⟨calls', outcome', loads⟩ := exists_loads room package serves
  obtain ⟨rfl, rfl⟩ := ends.unique (ends_of_loads serves loads)
  exact loads

/-! ### Disks -/

theorem descriptorHardware_ok_iff {hardware : HardwareSection} :
    (descriptorHardware (some d)).result = .ok hardware ↔
      ∃ system, d.virtualSystem = some system ∧ system.hardware.head? = some hardware := by
  refine ⟨descriptorHardware_ok, ?_⟩
  rintro ⟨system, isSystem, isFirst⟩
  have chosen : virtualSystemOf (some d) = .ok system := by
    unfold virtualSystemOf
    dsimp only
    rw [isSystem]
  unfold descriptorHardware
  rw [Narrated.result_bind, Narrated.result_ofExcept, chosen]
  unfold hardwareOf
  obtain ⟨rest, sections⟩ := List.head?_eq_some_iff.1 isFirst
  dsimp only [Except.bind]
  rw [sections]
  cases rest <;> rfl

theorem logs_resolution (d : Descriptor) : Logs (resolution d) :=
  (logs_descriptorHardware _).bind fun _ => logs_diskInfos _ _ _

theorem resolution_ok_iff {infos : List DiskInfo} : (resolution d).result = .ok infos ↔ Resolves d infos := by
  unfold resolution Resolves
  simp only [Narrated.bind_ok_iff, descriptorHardware_ok_iff]
  constructor
  · rintro ⟨hardware, ⟨system, isSystem, isFirst⟩, joined⟩
    obtain ⟨sec, files, isSection, isFiles⟩ := diskInfos_ok_sections joined
    rw [isSection, isFiles, diskInfos_ok_iff] at joined
    exact ⟨system, hardware, sec, files, isSystem, isFirst, isSection, isFiles, joined.2⟩
  · rintro ⟨system, hardware, sec, files, isSystem, isFirst, isSection, isFiles, someItems, joined⟩
    refine ⟨hardware, ⟨system, isSystem, isFirst⟩, ?_⟩
    rw [isSection, isFiles, diskInfos_ok_iff]
    refine ⟨fun noDisks => ?_, someItems, joined⟩
    obtain ⟨item, rest, items⟩ := List.exists_cons_of_ne_nil someItems
    rw [items, noDisks, List.forall₂_cons_left_iff] at joined
    obtain ⟨_, _, ⟨_, _, _, _, _, ⟨before, after, found, -⟩, -⟩, -⟩ := joined
    simp at found

theorem located_of_loads (named : ∀ n, FindsNamed (storage n))
    (loaded : Loads room storage package calls (.ok d)) {infos : List DiskInfo} (resolved : Resolves d infos)
    {info : DiskInfo} (member : info ∈ infos) : ∃ href, info.location = some href := by
  obtain ⟨hardware, isHardware, joined⟩ := Narrated.bind_ok_iff.1 (resolution_ok_iff.2 resolved)
  obtain ⟨file, isListed, same⟩ := diskInfos_location joined member
  cases loaded with
  | complete _ _ all =>
    rw [← List.zipIdx_map_fst 2 (listed d)] at isListed
    obtain ⟨entry, isEntry, rfl⟩ := List.mem_map.1 isListed
    obtain ⟨handle, found⟩ := all entry isEntry
    rw [same]
    refine Option.ne_none_iff_exists'.1 fun absent => ?_
    rw [absent] at found
    exact named _ _ _ found

theorem exists_asks (package : String) {entries : List (DiskInfo × Nat)}
    (located : ∀ entry ∈ entries, ∃ href, entry.1.location = some href) :
    ∃ joins, List.Forall₂ (Asks package) (entries.map Prod.fst) joins := by
  simp only [List.forall₂_map_left_iff, exists_forall₂_iff]
  intro entry member
  obtain ⟨href, location⟩ := located entry member
  exact ⟨_, href, location, rfl⟩

theorem exists_loadsDisks (room : Nat) (package : String) (serves : ∀ n, Serves (storage n))
    (named : ∀ n, FindsNamed (storage n)) :
    ∃ calls outcome, LoadsDisks room storage package calls outcome := by
  obtain ⟨calls, outcome, loads⟩ := exists_loads room package serves
  cases outcome with
  | error fault => exact ⟨_, _, .unloaded loads⟩
  | ok d =>
    cases result : (resolution d).result with
    | error fault =>
      refine ⟨_, _, .unresolved loads (fun infos resolved => ?_) result⟩
      rw [resolution_ok_iff.2 resolved] at result
      cases result
    | ok infos =>
      have resolved := resolution_ok_iff.1 result
      have located : ∀ entry ∈ infos.zipIdx (2 + (listed d).length), ∃ href, entry.1.location = some href :=
        fun entry member => located_of_loads named loads resolved (List.fst_mem_of_mem_zipIdx member)
      rcases first_failure (fun entry => (locate (storage entry.2) package entry.1).result)
        (infos.zipIdx (2 + (listed d).length)) with all | ⟨before, ⟨info, n⟩, after, fault, split, earlier, failed⟩
      · obtain ⟨joins, asked⟩ := exists_asks package located
        rw [List.zipIdx_map_fst] at asked
        obtain ⟨disks, all⟩ := exists_forall₂_iff.2 all
        exact ⟨_, _, .placed loads resolved (all.imp fun _ _ h => locate_ok_iff.1 h) asked⟩
      · rw [split, List.append_cons] at located
        obtain ⟨joins, asked⟩ := exists_asks package fun entry member =>
          located entry (List.mem_append_left _ member)
        obtain ⟨href, location⟩ := located (info, n) (by simp)
        exact ⟨_, _, .unplaced loads resolved split
          (fun entry member => (earlier entry member).imp fun _ h => locate_ok_iff.1 h) location
          ((locate_error_iff location).1 failed) asked⟩

theorem joins_of_asks {infos : List DiskInfo} {joins : List Call}
    (asked : List.Forall₂ (Asks package) infos joins) :
    infos.flatMap (fun info => (info.location.map (Call.join package)).toList) = joins := by
  induction asked with
  | nil => rfl
  | cons first _ ih =>
    obtain ⟨href, location, rfl⟩ := first
    rw [List.flatMap_cons, ih, location]
    rfl

theorem ends_place (serves : ∀ n, Serves (storage n)) {entry : DiskInfo × Nat} {href : String}
    (location : entry.1.location = some href) :
    Ends (locate (recorded storage entry.2) package entry.1)
      (entry.1.location.map (Call.join package)).toList (locate (storage entry.2) package entry.1).result := by
  rw [location]
  exact ends_locate (serves entry.2) location

theorem ends_of_places (serves : ∀ n, Serves (storage n)) {entry : DiskInfo × Nat} {disk : LocatedDisk}
    (places : Places storage package entry disk) :
    Ends (locate (recorded storage entry.2) package entry.1)
      (entry.1.location.map (Call.join package)).toList (.ok disk) := by
  rw [← locate_ok_iff.2 places]
  obtain ⟨href, location, -⟩ := places
  exact ends_place serves location

theorem ends_of_loadsDisks (serves : ∀ n, Serves (storage n))
    {outcome : Except Fault (Descriptor × List LocatedDisk)}
    (loads : LoadsDisks room storage package calls outcome) :
    Ends (loadWithDisksThrough room (recorded storage) package) calls outcome := by
  have told (entries : List (DiskInfo × Nat)) {joins : List Call}
      (asked : List.Forall₂ (Asks package) (entries.map Prod.fst) joins) :
      entries.flatMap (fun entry => (entry.1.location.map (Call.join package)).toList) = joins := by
    rw [← joins_of_asks asked, List.flatMap_map]
  cases loads with
  | unloaded failed => exact (ends_of_loads serves failed).bind_error
  | @unresolved _ d _ loaded _ failed =>
    have resolving := Ends.of_logs (logs_resolution d)
    rw [failed] at resolving
    exact (ends_of_loads serves loaded).bind_uncalled resolving.bind_error
  | unplaced loaded resolved split earlier location failed asked =>
    refine (ends_of_loads serves loaded).bind
      (.logs_bind (logs_resolution _) (resolution_ok_iff.2 resolved) ?_)
    rw [split, ← told _ asked]
    refine (Ends.mapM_error (fun entry member => ?_) ?_).bind_error
    · obtain ⟨disk, places⟩ := earlier entry member
      exact ⟨disk, ends_of_places serves places⟩
    · rw [← (locate_error_iff location).2 failed]
      exact ends_place serves location
  | @placed _ joins d infos disks loaded resolved all asked =>
    refine (ends_of_loads serves loaded).bind
      (.logs_bind (logs_resolution _) (resolution_ok_iff.2 resolved) ?_)
    rw [← List.zipIdx_map_fst (2 + (listed d).length) infos] at asked
    rw [← told _ asked]
    exact (Ends.mapM (all.imp fun _ _ => ends_of_places serves)).bind_logs (Logs.pure _)

theorem loadsDisks_iff (serves : ∀ n, Serves (storage n)) (named : ∀ n, FindsNamed (storage n))
    {outcome : Except Fault (Descriptor × List LocatedDisk)} :
    Ends (loadWithDisksThrough room (recorded storage) package) calls outcome ↔
      LoadsDisks room storage package calls outcome := by
  refine ⟨fun ends => ?_, ends_of_loadsDisks serves⟩
  obtain ⟨calls', outcome', loads⟩ := exists_loadsDisks room package serves named
  obtain ⟨rfl, rfl⟩ := ends.unique (ends_of_loadsDisks serves loads)
  exact loads

/-- Loading, and loading with disks, makes just the calls of the protocol with just its outcome, whatever
storage answers and wherever it fails. This is so also where storage answers in another way each time it is
asked; where it does not, the steps for such storage are those of loading. -/
theorem loading_calls (room : Nat) (package : String) :
    (∀ client, Serves client →
      (∀ calls outcome, Ends (load room client.recorded package) calls outcome ↔
        Loads room (fun _ => client) package calls outcome) ∧
      (FindsNamed client → ∀ calls outcome, Ends (loadWithDisks room client.recorded package) calls outcome ↔
        LoadsDisks room (fun _ => client) package calls outcome)) ∧
    (∀ storage : Nat → Client, (∀ n, Serves (storage n)) →
      (∀ calls outcome, Ends (loadThrough room (recorded storage) package) calls outcome ↔
        Loads room storage package calls outcome) ∧
      ((∀ n, FindsNamed (storage n)) → ∀ calls outcome,
        Ends (loadWithDisksThrough room (recorded storage) package) calls outcome ↔
          LoadsDisks room storage package calls outcome)) ∧
    ∀ client, loadThrough room (fun _ => client) package = load room client package ∧
      loadWithDisksThrough room (fun _ => client) package = loadWithDisks room client package := by
  refine ⟨?_, ?_, fun client => ⟨loadThrough_const room client package, loadWithDisksThrough_const room client package⟩⟩
  · intro client serves
    refine ⟨fun calls outcome => ?_, fun named calls outcome => ?_⟩
    · rw [← loadThrough_const]
      exact loads_iff fun _ => serves
    · rw [← loadWithDisksThrough_const]
      exact loadsDisks_iff (fun _ => serves) fun _ => named
  · intro storage serves
    exact ⟨fun _ _ => loads_iff serves, fun named _ _ => loadsDisks_iff serves named⟩

/-! ### A file that is listed twice -/

theorem answers_pure {α : Type} (a : α) : Answers (pure a : Narrated Fault α) :=
  ⟨rfl, nofun⟩

theorem answers_fail {α : Type} (failure : Failure) : Answers (.fail (.storage failure) : Narrated Fault α) :=
  ⟨rfl, fun _ failed => ⟨failure, (Except.error.inj failed).symm⟩⟩

theorem serves_table (table : Table) : Serves table.client where
  find base wanted := by
    unfold Table.client
    dsimp only
    split
    · exact answers_fail _
    · split
      · exact answers_fail _
      · split
        · exact answers_pure _
        · exact answers_fail _
  read handle := by
    unfold Table.client
    dsimp only
    split
    · exact answers_pure _
    · exact answers_fail _
  join base name := answers_pure _

theorem findsNamed_table (table : Table) : FindsNamed table.client :=
  fun _ _ => nofun

def twiceListed : List Char :=
  ["<E><References><File id='f' href='a'/>", "<File href='a'/></References>", "<DiskSection>",
    "<Disk diskId='d' fileRef='f' capacity='1' ", "capacityAllocationUnits='byte*2^30'/>", "</DiskSection>",
    "<VirtualSystem><VirtualHardwareSection>", "<Item><ResourceType>17</ResourceType>",
    "<HostResource>ovf:/disk/d</HostResource></Item>", "</VirtualHardwareSection></VirtualSystem></E>"].flatMap
    String.toList

def twiceDescriptor : Descriptor where
  references := some ⟨none, none, [⟨some "f", some "a", none⟩, ⟨none, some "a", none⟩]⟩
  diskSection := some ⟨none, none, [⟨some "d", some "f", some "1", some "byte*2^30"⟩]⟩
  virtualSystem := some { hardware := [⟨[{ resourceType := some 17, hostResource := ["ovf:/disk/d"] }]⟩] }

def tableOf (present : List String) : Client :=
  Table.client ⟨present, [], .ok (.bytes (Xml.encodeUtf8 twiceListed))⟩

/-- The file is there for the first look-up, and gone for the second. -/
def fading (n : Nat) : Client :=
  tableOf (if n < 3 then [".ovf", "a"] else [".ovf"])

/-- Both look-ups of a file that is listed twice are made. The package is incomplete where only the
second of them fails; where none does, its disk is located after them. -/
theorem loading_calls_repeated :
    Ends (loadThrough 900 (recorded fading) "p")
      [.find "p" (some ".ovf"), .read "p/.ovf", .find "p" (some "a"), .find "p" (some "a")]
      (.error (.defect (.notInPackage (some "a") "p" (.notFound (some "a") "p")))) ∧
    Ends (loadWithDisks 900 (tableOf [".ovf", "a"]).recorded "p")
      [.find "p" (some ".ovf"), .read "p/.ovf", .find "p" (some "a"), .find "p" (some "a"), .join "p" "a"]
      (.ok (twiceDescriptor, [⟨"p/a", 1⟩])) := by
  have parsed : (Descriptor.parse 900 (.bytes (Xml.encodeUtf8 twiceListed))).result = .ok twiceDescriptor :=
    parse_of_formed (by decide +kernel) (by decide +kernel) (by decide +kernel) (by decide +kernel)
  constructor
  · rw [((loading_calls 900 "p").2.1 fading fun _ => serves_table _).1]
    have opens : Opens fading "p" ⟨"p", ".ovf", "p/.ovf"⟩ (.bytes (Xml.encodeUtf8 twiceListed)) :=
      ⟨toOption_eq_some_iff.1 (by decide +kernel), rfl⟩
    have first : ∀ entry ∈ [((⟨some "f", some "a", none⟩, 2) : FileReference × Nat)], Finds fading "p" entry := by
      intro entry member
      obtain rfl := List.mem_singleton.1 member
      exact ⟨⟨"p", "a", "p/a"⟩, toOption_eq_some_iff.1 (by decide +kernel)⟩
    have second : ((fading 3).find "p" (some "a")).result = .error (.storage (.notFound (some "a") "p")) := by
      rfl
    exact .incomplete opens parsed rfl first second
  · rw [((loading_calls 900 "p").1 (tableOf [".ovf", "a"]) (serves_table _)).2 (findsNamed_table _)]
    have opens : Opens (fun _ => tableOf [".ovf", "a"]) "p" ⟨"p", ".ovf", "p/.ovf"⟩
        (.bytes (Xml.encodeUtf8 twiceListed)) :=
      ⟨toOption_eq_some_iff.1 (by decide +kernel), rfl⟩
    have all : ∀ entry ∈ (listed twiceDescriptor).zipIdx 2,
        Finds (fun _ => tableOf [".ovf", "a"]) "p" entry := by
      intro entry member
      have same : ∀ entry ∈ (listed twiceDescriptor).zipIdx 2, entry.1.href = some "a" := by decide
      have found : ((tableOf [".ovf", "a"]).find "p" (some "a")).result = .ok ⟨"p", "a", "p/a"⟩ :=
        toOption_eq_some_iff.1 (by decide +kernel)
      exact ⟨_, (same entry member).symm ▸ found⟩
    have resolved : Resolves twiceDescriptor [⟨some "a", 1⟩] :=
      resolution_ok_iff.1 (toOption_eq_some_iff.1 (by decide +kernel))
    exact .placed (.complete opens parsed all) resolved (.cons ⟨"a", rfl, rfl, rfl⟩ .nil)
      (.cons ⟨"a", rfl, rfl⟩ .nil)

end Package

end OvfInspect
