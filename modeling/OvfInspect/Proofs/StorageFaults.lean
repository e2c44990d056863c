import OvfInspect.Proofs.AbsolutePaths
import OvfInspect.Proofs.ArchiveReading
import OvfInspect.Proofs.Quiet

/-!
# Faults of storage

Clients are quiet, and beside the failures of storage they have few faults: an archive can be damaged
or have links that lead round in a circle, and a working directory that no path can spell is none.
-/

namespace OvfInspect.Storage

open Storage.Path

/-! ### Zero characters -/

namespace FileTree

theorem hasZero_join {directory name : String} (h : hasZero directory = false)
    (h' : hasZero name = false) : hasZero (join directory name) = false := by
  unfold join
  split
  · exact h'
  · split
    · rw [hasZero_append, h, h']
      rfl
    · have slash : hasZero "/" = false := by decide
      rw [hasZero_append, hasZero_append, h, h', slash]
      rfl

theorem hasZero_absolute {working path : String} (h : hasZero working = false)
    (h' : hasZero path = false) : hasZero (absolute working path) = false := by
  unfold absolute
  refine hasZero_normalize rfl fun name member => ?_
  rcases mem_normalComponents member with member | rfl
  · refine hasZero_of_mem_components ?_ member
    split
    · exact h'
    · exact hasZero_join h h'
  · decide

theorem hasZero_parent {path : String} (h : hasZero path = false) : hasZero (parent path) = false := by
  obtain ⟨n, head⟩ := exists_parent_append path
  rw [← head_append_baseName path, hasZero_append, Bool.or_eq_false_iff, ← head, hasZero_append,
    Bool.or_eq_false_iff] at h
  exact h.1.1

end FileTree

/-- A working directory whose path has a zero character. -/
def Unspelled (tree : FileTree) : Prop :=
  FileTree.hasZero tree.workingPath = true

variable {tree : FileTree} {base path : String}

theorem unspelled_of_absolutePath (noZero : FileTree.hasZero base = false)
    (isPath : (absolutePath tree base).result = .ok path) (zero : FileTree.hasZero path = true) :
    Unspelled tree := by
  by_contra spelled
  rw [result_absolutePath] at isPath
  obtain rfl := Except.ok.inj isPath
  split at zero
  · rw [noZero] at zero
    cases zero
  · rw [FileTree.hasZero_absolute (Bool.eq_false_iff.2 spelled) noZero] at zero
    cases zero

theorem quiet_absolutePath {faults : Fault → Prop} : Quiet faults (absolutePath tree base) := by
  unfold absolutePath
  split
  · exact .pure _
  · exact .log_bind (.pure _)

/-- The faults of a client: failures of storage, and in local packages a path that cannot be spelled.
Only an archive can be damaged or have links that lead round in a circle. -/
inductive ClientFault (tree : FileTree) (backend : Backend) : Fault → Prop
  | storage (failure : Failure) : ClientFault tree backend (.storage failure)
  | zeroCharacter (unspelled : Unspelled tree) : ClientFault tree backend (.path .zeroCharacter)
  | damaged (isArchive : backend = .archive) (damage : Damage) :
    ClientFault tree backend (.damaged damage)
  | linkCycle (isArchive : backend = .archive) : ClientFault tree backend .linkCycle

/-- The faults of a look-up: besides those of its client, that there is nothing to look for. -/
inductive LookupFault (tree : FileTree) (backend : Backend) (wanted : Option String) : Fault → Prop
  | client {fault : Fault} (h : ClientFault tree backend fault) : LookupFault tree backend wanted fault
  | unnamed (none : wanted = none) : LookupFault tree backend wanted (.absent .suffix)

theorem quiet_needed {backend : Backend} (wanted : Option String) :
    Quiet (LookupFault tree backend wanted) (needed wanted) := by
  unfold needed
  split
  · exact .pure _
  · exact .fail (.unnamed rfl)

/-! ### Directories -/

namespace Directory

theorem quiet_packageDirectory {faults : Fault → Prop} : Quiet faults (packageDirectory tree base) :=
  quiet_absolutePath.bind fun _ _ => .pure _

theorem unspelled_of_packageDirectory {directory : String} (noZero : FileTree.hasZero base = false)
    (isDirectory : (packageDirectory tree base).result = .ok directory)
    (zero : FileTree.hasZero directory = true) : Unspelled tree := by
  obtain ⟨path, isPath, chosen⟩ := Narrated.bind_ok_iff.1 isDirectory
  obtain rfl := Narrated.pure_ok_iff.1 chosen
  apply unspelled_of_absolutePath noZero isPath
  by_contra spelled
  have spelled := Bool.eq_false_iff.2 spelled
  split at zero
  · rw [spelled] at zero
    cases zero
  · rw [FileTree.hasZero_parent spelled] at zero
    cases zero

theorem candidates_error {directory wanted : String} {fault : Fault} {backend : Backend}
    (spelled : FileTree.hasZero directory = true → Unspelled tree)
    (h : candidates tree directory base wanted = .error fault) : ClientFault tree backend fault := by
  unfold candidates at h
  split at h
  · cases h
  · split at h
    · cases h
    · unfold listing at h
      split at h
      · next zero =>
        obtain rfl := Except.error.inj h
        exact .zeroCharacter (spelled zero)
      · split at h
        · cases h
        · obtain rfl := Except.error.inj h
          exact .storage _

theorem quiet_find (noZero : FileTree.hasZero base = false) (wanted : Option String) :
    Quiet (LookupFault tree .directory wanted) (find tree base wanted) := by
  refine quiet_packageDirectory.bind fun directory isDirectory => ?_
  refine (quiet_needed wanted).bind fun name _ => ?_
  refine (Quiet.ofExcept fun fault failed => ?_).bind fun names _ => ?_
  · exact .client (candidates_error (unspelled_of_packageDirectory noZero isDirectory) failed)
  · split
    · exact .log_bind (.pure _)
    · exact .fail (.client (.storage _))

theorem quiet_read {handle : Handle} (noZero : FileTree.hasZero handle.path = false) :
    Quiet (ClientFault tree .directory) (read tree handle) := by
  refine .log_bind ?_
  rw [if_neg (by rw [noZero]; decide)]
  split
  · exact .pure _
  · exact .fail (.storage _)

theorem quiet_join {faults : Fault → Prop} {name : String} : Quiet faults (join tree base name) :=
  quiet_packageDirectory.bind fun _ _ => .pure _

end Directory

/-! ### Archives -/

namespace Archive

theorem quiet_openAt (noZero : FileTree.hasZero base = false) :
    Quiet (ClientFault tree .archive) (openAt tree base) := by
  refine quiet_absolutePath.bind fun path isPath => ?_
  split
  · next zero => exact .fail (.zeroCharacter (unspelled_of_absolutePath noZero isPath zero))
  · split
    · exact .pure _
    · exact .fail (.damaged rfl _)
    · exact .fail (.storage _)

theorem quiet_join {faults : Fault → Prop} {name : String} : Quiet faults (join tree base name) :=
  quiet_absolutePath.bind fun _ _ => .pure _

theorem quiet_find (noZero : FileTree.hasZero base = false) (wanted : Option String) :
    Quiet (LookupFault tree .archive wanted) (find tree base wanted) := by
  refine (quiet_needed wanted).bind fun name _ => ?_
  refine ((quiet_openAt noZero).mono fun _ => .client).bind fun opened _ => ?_
  refine (Quiet.ofExcept fun fault failed => ?_).bind fun holding _ => ?_
  · cases opened with
    | ok holding => cases failed
    | error damage =>
      obtain rfl := Except.error.inj failed
      exact .client (.damaged rfl damage)
  · split
    · exact .log_bind (quiet_join.bind fun _ _ => .pure _)
    · exact .fail (.client (.storage _))

theorem quiet_read {handle : Handle} (noZero : FileTree.hasZero handle.container = false) :
    Quiet (ClientFault tree .archive) (read tree handle) := by
  refine .log_bind ((quiet_openAt noZero).bind fun listing _ => ?_)
  split
  · exact .pure _
  · exact .fail (.storage _)
  · exact .fail (.damaged rfl _)
  · exact .fail (.linkCycle rfl)

end Archive

/-! ### The web -/

namespace Web

variable {table : Table} {timeout : Option Rat} {location name url : String}

/-- The directory of a location ends with its last slash. -/
theorem packageDirectory_append {before last : String} (noSlash : '/' ∉ last.toList) :
    packageDirectory (before ++ "/" ++ last) = .ok (before ++ "/") := by
  have slash : (before ++ "/" ++ last).contains '/' = true := by
    rw [String.contains_char_eq, decide_eq_true_iff]
    simp
  have whole := Path.head_append_baseName (before ++ "/" ++ last)
  rw [Path.baseName_append noSlash, String.append_left_inj] at whole
  rw [packageDirectory, if_pos slash]
  exact congrArg Except.ok whole

theorem packageDirectory_ok (slash : location.contains '/' = true) :
    ∃ directory, packageDirectory location = .ok directory ∧ directory.contains '/' = true := by
  rw [String.contains_char_eq, decide_eq_true_iff] at slash
  obtain ⟨before, split⟩ := Path.exists_append_of_slash slash
  refine ⟨before ++ "/", ?_, ?_⟩
  · rw [split]
    exact packageDirectory_append (Path.slash_not_mem_baseName location)
  · rw [String.contains_char_eq, decide_eq_true_iff]
    simp

theorem join_ok (slash : location.contains '/' = true) (name : String) :
    ∃ joined, join location name = .ok joined ∧ joined.contains '/' = true := by
  obtain ⟨directory, isDirectory, inside⟩ := packageDirectory_ok slash
  refine ⟨directory ++ _, by rw [join, isDirectory]; rfl, ?_⟩
  rw [String.contains_char_eq, decide_eq_true_iff] at inside ⊢
  rw [String.toList_append]
  exact List.mem_append_left _ inside

theorem quiet_request (slash : url.contains '/' = true) {method : String} :
    Quiet (ClientFault tree .web) (request table timeout method url) := by
  obtain ⟨directory, isDirectory, -⟩ := packageDirectory_ok slash
  refine .log_bind ((Quiet.tell rfl).bind fun _ _ => ?_)
  split
  · exact .fail (.storage _)
  · split
    · rw [isDirectory]
      exact (Quiet.ofExcept fun _ failed => nomatch failed).bind fun _ _ => .fail (.storage _)
    · split
      · exact .fail (.storage _)
      · exact .pure _

theorem locationOf_cases (slash : location.contains '/' = true) (name : String) :
    (∃ url, locationOf location name = .ok url ∧ url.contains '/' = true) ∨
      ∃ failure, locationOf location name = .error (.storage failure) := by
  unfold locationOf
  split
  · exact .inl (join_ok slash name)
  · split
    · exact .inl ⟨location, rfl, slash⟩
    · exact .inr ⟨_, rfl⟩

theorem quiet_find (slash : location.contains '/' = true) (wanted : Option String) :
    Quiet (LookupFault tree .web wanted) (find table timeout location wanted) := by
  refine (quiet_needed wanted).bind fun name _ => ?_
  rcases locationOf_cases slash name with ⟨url, isUrl, inside⟩ | ⟨failure, failed⟩
  · obtain ⟨directory, isDirectory, -⟩ := packageDirectory_ok inside
    rw [isUrl]
    refine (Quiet.ofExcept fun _ failed => nomatch failed).bind fun _ same => ?_
    obtain rfl := Except.ok.inj same
    refine ((quiet_request inside).mono fun _ => .client).bind fun _ _ => ?_
    rw [isDirectory]
    exact (Quiet.ofExcept fun _ failed => nomatch failed).bind fun _ _ => .pure _
  · rw [failed]
    refine Quiet.bind (.ofExcept fun _ same => ?_) fun _ same => nomatch same
    obtain rfl := Except.error.inj same
    exact .client (.storage _)

theorem find_path_contains (slash : location.contains '/' = true) {wanted : Option String}
    {handle : Handle} (found : (find table timeout location wanted).result = .ok handle) :
    handle.path.contains '/' = true := by
  obtain ⟨name, -, found⟩ := Narrated.bind_ok_iff.1 found
  obtain ⟨url, isUrl, found⟩ := Narrated.bind_ok_iff.1 found
  obtain ⟨_, -, found⟩ := Narrated.bind_ok_iff.1 found
  obtain ⟨directory, -, found⟩ := Narrated.bind_ok_iff.1 found
  obtain rfl := Narrated.pure_ok_iff.1 found
  rcases locationOf_cases slash name with ⟨url', isUrl', inside⟩ | ⟨failure, failed⟩
  · obtain rfl := Except.ok.inj (isUrl'.symm.trans isUrl)
    exact inside
  · cases failed.symm.trans isUrl

end Web

/-! ### Opened packages -/

namespace World

variable {world : World} {package : String} {client : Client}

theorem backendFor_of_opened (opened : (world.openPackage package).result = .ok client) :
    world.backendFor package = .ok client.backend := by
  obtain ⟨backend, isBackend, rfl⟩ := openPackage_ok_iff.1 opened
  rw [isBackend]
  cases backend <;> rfl

/-- A package is on the web if its location says so, and else is there by a path. -/
theorem backendFor_cases {backend : Backend} (h : world.backendFor package = .ok backend) :
    backend = .web ∧ package.contains '/' = true ∨
      (backend = .directory ∨ backend = .archive) ∧ FileTree.hasZero package = false := by
  unfold backendFor at h
  split at h
  · next remote =>
    obtain rfl := Except.ok.inj h
    refine .inl ⟨rfl, ?_⟩
    rw [isRemote, Bool.or_eq_true, String.startsWith_string_iff, String.startsWith_string_iff] at remote
    rw [String.contains_char_eq, decide_eq_true_iff]
    rcases remote with start | start <;> exact start.subset (by decide)
  · split at h
    · cases h
    · next entry found =>
      have noZero := (FileTree.entry?_eq_some_iff.1 found).1.noZero
      refine .inr ⟨?_, noZero⟩
      split at h
      · exact .inl (Except.ok.inj h).symm
      · split at h
        · exact .inr (Except.ok.inj h).symm
        · cases h
        · cases h

theorem backendFor_error {fault : Fault} (h : world.backendFor package = .error fault) :
    fault.isStorage = true ∨ ∃ damage, fault = .damaged damage := by
  unfold backendFor at h
  split at h
  · cases h
  · split at h
    · obtain rfl := Except.error.inj h
      exact .inl rfl
    · split at h
      · cases h
      · split at h
        · cases h
        · obtain rfl := Except.error.inj h
          exact .inr ⟨_, rfl⟩
        · obtain rfl := Except.error.inj h
          exact .inl rfl

theorem quiet_openPackage : Quiet (fun fault => world.backendFor package = .error fault)
    (world.openPackage package) :=
  (Quiet.ofExcept fun _ failed => failed).bind fun _ _ => .log_bind (.pure _)

theorem quiet_find (opened : (world.openPackage package).result = .ok client)
    (wanted : Option String) :
    Quiet (LookupFault world.files client.backend wanted) (client.find package wanted) := by
  obtain ⟨backend, isBackend, rfl⟩ := openPackage_ok_iff.1 opened
  rcases backendFor_cases isBackend with ⟨rfl, slash⟩ | ⟨rfl | rfl, noZero⟩
  · exact Web.quiet_find slash wanted
  · exact Directory.quiet_find noZero wanted
  · exact Archive.quiet_find noZero wanted

theorem quiet_read (opened : (world.openPackage package).result = .ok client) {wanted : String}
    {handle : Handle} (found : (client.find package (some wanted)).result = .ok handle) :
    Quiet (ClientFault world.files client.backend) (client.read handle) := by
  obtain ⟨backend, isBackend, rfl⟩ := openPackage_ok_iff.1 opened
  rcases backendFor_cases isBackend with ⟨rfl, slash⟩ | ⟨rfl | rfl, noZero⟩
  · exact (Web.quiet_request (Web.find_path_contains slash found)).bind fun _ _ => .pure _
  · obtain ⟨_, -, -, -, -, isFile⟩ := Directory.find_ok found
    exact Directory.quiet_read (FileTree.isFile_iff.1 isFile).1.noZero
  · obtain ⟨_, _, -, -, container, -⟩ := Archive.find_first found
    exact Archive.quiet_read (by rw [container]; exact noZero)

theorem quiet_join {faults : Fault → Prop} (opened : (world.openPackage package).result = .ok client)
    (name : String) : Quiet faults (client.join package name) := by
  obtain ⟨backend, isBackend, rfl⟩ := openPackage_ok_iff.1 opened
  rcases backendFor_cases isBackend with ⟨rfl, slash⟩ | ⟨rfl | rfl, -⟩
  · obtain ⟨joined, isJoined, -⟩ := Web.join_ok slash name
    exact .ofExcept fun _ failed => nomatch isJoined.symm.trans failed
  · exact Directory.quiet_join
  · exact Archive.quiet_join

theorem find_none (opened : (world.openPackage package).result = .ok client) :
    (client.find package none).result = .error (.absent .suffix) := by
  obtain ⟨backend, isBackend, rfl⟩ := openPackage_ok_iff.1 opened
  rcases backendFor_cases isBackend with ⟨rfl, -⟩ | ⟨rfl | rfl, -⟩
  · rfl
  · exact Directory.find_none world.files package
  · rfl

end World

end OvfInspect.Storage
