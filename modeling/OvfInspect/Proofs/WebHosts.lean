import OvfInspect.Proofs.HeldFiles
import OvfInspect.Proofs.StorageFaults

/-!
# Hosts on the web

The package on the web is what stands before the last slash of its location. That slash follows the
authority if the location has a path, but it can also be one of those before the authority, or one in a
query. `requested_hosts` says of which host the names of a package are requested.
-/

namespace OvfInspect

namespace Narrated

variable {ε α β : Type} {x : Narrated ε α} {f : α → Narrated ε β}

theorem requests_append (events more : List Event) :
    requests (events ++ more) = requests events ++ requests more :=
  List.filterMap_append

theorem requests_bind_of_ok {a : α} (h : x.result = .ok a) :
    requests (x >>= f).events = requests x.events ++ requests (f a).events := by
  rw [bind_of_ok h, requests_append]

theorem requests_bind_of_error {e : ε} (h : x.result = .error e) :
    requests (x >>= f).events = requests x.events := by
  rw [bind_of_error h]

theorem requests_bind_of_none (none : ∀ a, requests (f a).events = []) :
    requests (x >>= f).events = requests x.events := by
  cases h : x.result with
  | ok a => rw [requests_bind_of_ok h, none, List.append_nil]
  | error e => exact requests_bind_of_error h

end Narrated

namespace Storage.Web

open Narrated (requests requests_bind_of_ok requests_bind_of_error requests_bind_of_none)

variable {table : Table} {timeout : Option Rat} {base url name directory : String}

/-! ### Directories -/

theorem packageDirectory_append_lastSegment (h : packageDirectory url = .ok directory) :
    directory ++ lastSegment url = url ∧ directory.endsWith "/" = true ∧ '/' ∉ (lastSegment url).toList := by
  have slash : '/' ∈ url.toList := by
    unfold packageDirectory at h
    split at h
    · next contained => rwa [String.contains_char_eq, decide_eq_true_iff] at contained
    · cases h
  have noSlash := Path.slash_not_mem_baseName url
  obtain ⟨before, split⟩ := Path.exists_append_of_slash slash
  rw [split, packageDirectory_append noSlash] at h
  obtain rfl := Except.ok.inj h
  exact ⟨split.symm, Path.endsWith_iff.2 ⟨before, rfl⟩, noSlash⟩

/-! ### Locations with a host -/

/-- The signs that end an authority. -/
def endsAuthority (c : Char) : Bool :=
  c = '/' || c = '?' || c = '#'

/-- A location on the web in its parts: the scheme, the authority, and what follows from the sign on that
ends the authority. -/
structure Location where
  scheme : String
  authority : String
  rest : String
  isScheme : scheme ∈ ["http://", "https://"]
  someHost : authority ≠ ""
  plain : authority.toList.any endsAuthority = false
  ended : rest.toList.head?.all endsAuthority = true

namespace Location

variable (location : Location)

def text : String :=
  location.scheme ++ location.authority ++ location.rest

/-- The location with a scheme and these characters behind it, of which the authority takes all up to the
first that ends it. -/
def cut (scheme : String) (c : Char) (cs : List Char) (isScheme : scheme ∈ ["http://", "https://"])
    (plain : endsAuthority c = false) : Location where
  scheme
  authority := String.ofList (c :: cs.takeWhile (!endsAuthority ·))
  rest := String.ofList (cs.dropWhile (!endsAuthority ·))
  isScheme
  someHost := by
    intro empty
    have chars := String.toList_inj.2 empty
    rw [String.toList_ofList] at chars
    cases chars
  plain := by
    rw [String.toList_ofList, List.any_cons, plain, Bool.false_or, List.any_eq_false]
    intro d member
    simpa using List.mem_takeWhile_imp member
  ended := by
    rw [String.toList_ofList, Option.all_eq_true]
    intro d first
    have refused := List.head?_dropWhile_not (!endsAuthority ·) cs
    rw [first] at refused
    simpa using refused

theorem toList_text_cut {scheme : String} {c : Char} {cs : List Char} (isScheme : scheme ∈ ["http://", "https://"])
    (plain : endsAuthority c = false) : (cut scheme c cs isScheme plain).text.toList = scheme.toList ++ c :: cs := by
  rw [text, String.toList_append, String.toList_append, List.append_assoc]
  simp only [cut, String.toList_ofList, List.cons_append, List.takeWhile_append_dropWhile]

/-- A text is a location just if it goes on after its scheme with a sign that does not end an authority. -/
theorem exists_text_eq_iff : (∃ location : Location, location.text = base) ↔
    ∃ scheme ∈ ["http://", "https://"], ∃ c cs, base.toList = scheme.toList ++ c :: cs ∧ endsAuthority c = false := by
  constructor
  · rintro ⟨location, rfl⟩
    obtain ⟨c, cs, split⟩ := List.exists_cons_of_ne_nil (String.toList_eq_nil_iff.not.2 location.someHost)
    refine ⟨_, location.isScheme, c, cs ++ location.rest.toList, ?_, ?_⟩
    · rw [text, String.toList_append, String.toList_append, split, List.append_assoc]
      rfl
    · exact Bool.eq_false_iff.2 (List.any_eq_false.1 location.plain c (by rw [split]; exact List.mem_cons_self))
  · rintro ⟨scheme, isScheme, c, cs, split, plain⟩
    refine ⟨cut scheme c cs isScheme plain, ?_⟩
    rw [← String.toList_inj, toList_text_cut, split]

/-- The location is one of the same scheme and authority, with a path. -/
def OnHost (url : String) : Prop :=
  ∃ path, url = location.scheme ++ location.authority ++ "/" ++ path

end Location

/-- The name without slashes before it. -/
def bare (name : String) : String :=
  String.ofList (name.toList.dropWhile (· == '/'))

/-- Where a name of the package is: in the last directory after the authority, or, if no slash follows the
authority, in its place. -/
inductive Location.Leads (location : Location) (name : String) : String → Prop
  | inside {directory last : String} (rest : location.rest = directory ++ "/" ++ last)
    (noSlash : '/' ∉ last.toList) :
    Leads location name (location.scheme ++ location.authority ++ directory ++ "/" ++ bare name)
  | outside (noSlash : '/' ∉ location.rest.toList) : Leads location name (location.scheme ++ bare name)

namespace Location

variable {location : Location}

theorem exists_scheme_eq (location : Location) : ∃ before, location.scheme = before ++ "/" := by
  rcases List.mem_pair.1 location.isScheme with same | same <;> rw [same]
  · exact ⟨"http:/", rfl⟩
  · exact ⟨"https:/", rfl⟩

theorem slash_not_mem_authority (location : Location) : '/' ∉ location.authority.toList := by
  intro slash
  exact List.any_eq_false.1 location.plain '/' slash rfl

theorem exists_join_eq (location : Location) (name : String) :
    ∃ url, join location.text name = .ok url ∧ location.Leads name url := by
  by_cases slash : '/' ∈ location.rest.toList
  · have noSlash := Path.slash_not_mem_baseName location.rest
    obtain ⟨directory, rest⟩ := Path.exists_append_of_slash slash
    have text : location.text =
        location.scheme ++ location.authority ++ directory ++ "/" ++ Path.baseName location.rest := by
      have whole := congrArg (location.scheme ++ location.authority ++ ·) rest
      simpa only [Location.text, String.append_assoc] using whole
    refine ⟨_, ?_, .inside rest noSlash⟩
    rw [join, text, packageDirectory_append noSlash]
    rfl
  · obtain ⟨before, scheme⟩ := location.exists_scheme_eq
    have noSlash : '/' ∉ (location.authority ++ location.rest).toList := by
      rw [String.toList_append, List.mem_append, not_or]
      exact ⟨location.slash_not_mem_authority, slash⟩
    refine ⟨_, ?_, .outside slash⟩
    rw [join, Location.text, String.append_assoc, scheme, packageDirectory_append noSlash]
    rfl

/-- Whether a slash comes first is settled by what stands before another slash. -/
theorem startsWith_slash_congr (directory first second : String) :
    (directory ++ "/" ++ first).startsWith "/" = (directory ++ "/" ++ second).startsWith "/" := by
  rw [Bool.eq_iff_iff, String.startsWith_string_iff, String.startsWith_string_iff]
  simp only [String.toList_append]
  cases directory.toList with
  | nil => simp
  | cons c cs => simp

theorem onHost_append_iff (path : String) :
    location.OnHost (location.scheme ++ location.authority ++ path) ↔ path.startsWith "/" = true := by
  rw [Path.startsWith_iff]
  refine exists_congr fun after => ?_
  rw [@String.append_assoc _ "/" after, String.append_right_inj]

theorem onHost_text_iff : location.OnHost location.text ↔ location.rest.startsWith "/" = true :=
  onHost_append_iff location.rest

/-- A name stays on the host if the authority is followed by a slash. Else it does only by chance, when it
takes the place of the authority and begins with it. -/
theorem Leads.onHost_iff (leads : location.Leads name url) :
    location.OnHost url ↔ location.rest.startsWith "/" = true ∨
      '/' ∉ location.rest.toList ∧ (bare name).startsWith (location.authority ++ "/") = true := by
  cases leads with
  | inside rest noSlash =>
    have slash : '/' ∈ location.rest.toList := by
      rw [rest]
      simp
    rw [String.append_assoc, String.append_assoc, onHost_append_iff, ← String.append_assoc, rest,
      startsWith_slash_congr, ← rest]
    exact (or_iff_left fun other => other.1 slash).symm
  | outside noSlash =>
    have noPath : ¬ location.rest.startsWith "/" = true := by
      rw [String.startsWith_string_iff]
      exact fun first => noSlash (first.subset (by decide))
    rw [or_iff_right noPath, and_iff_right noSlash, Path.startsWith_iff]
    refine exists_congr fun path => ?_
    rw [String.append_assoc, String.append_assoc, String.append_right_inj, ← String.append_assoc]

end Location

/-! ### Requests -/

theorem requests_request (table : Table) (timeout : Option Rat) (method url : String) :
    requests (request table timeout method url).events = [⟨method, url, timeout⟩] := by
  unfold request
  rw [requests_bind_of_ok rfl, requests_bind_of_ok rfl]
  -- Whatever the reply is, nothing more is requested.
  change [] ++ ([(⟨method, url, timeout⟩ : Request)] ++ _) = _
  split
  · rfl
  · split
    · rw [requests_bind_of_none fun _ => rfl]
      rfl
    · split <;> rfl

theorem requests_find (table : Table) (timeout : Option Rat) (base name : String) :
    requests (find table timeout base (some name)).events =
      match locationOf base name with
      | .ok url => [⟨"HEAD", url, timeout⟩]
      | .error _ => [] := by
  have named : find table timeout base (some name) = Narrated.ofExcept (locationOf base name) >>= fun url =>
      request table timeout "HEAD" url >>= fun _ => Narrated.ofExcept (packageDirectory url) >>= fun directory =>
        pure ⟨directory, lastSegment url, url⟩ := rfl
  rw [named]
  cases h : locationOf base name with
  | ok url =>
    rw [requests_bind_of_ok rfl, requests_bind_of_none fun _ => requests_bind_of_none fun _ => rfl,
      requests_request]
    rfl
  | error fault => exact requests_bind_of_error rfl

theorem handle_of_find {wanted : Option String} {handle : Handle}
    (found : (find table timeout base wanted).result = .ok handle) :
    handle.container ++ handle.name = handle.path ∧ handle.container.endsWith "/" = true ∧
      '/' ∉ handle.name.toList := by
  obtain ⟨name, -, found⟩ := Narrated.bind_ok_iff.1 found
  obtain ⟨url, -, found⟩ := Narrated.bind_ok_iff.1 found
  obtain ⟨_, -, found⟩ := Narrated.bind_ok_iff.1 found
  obtain ⟨directory, isDirectory, found⟩ := Narrated.bind_ok_iff.1 found
  obtain rfl := Narrated.pure_ok_iff.1 found
  exact packageDirectory_append_lastSegment isDirectory

/-- A name is requested of the host of its package if a slash follows the authority there. Without any slash
after the authority, the name is requested of the host that it begins with itself; with one that comes in a
query or a fragment only, of an authority that goes on with these. An extension is never joined to anything,
and every object found is named by what follows the last slash of its location. -/
theorem requested_hosts (table : Table) (timeout : Option Rat) :
    (∀ (location : Location) (name : String),
      (∃ url, join location.text name = .ok url ∧ location.Leads name url ∧
        (location.OnHost url ↔ location.rest.startsWith "/" = true ∨
          '/' ∉ location.rest.toList ∧ (bare name).startsWith (location.authority ++ "/") = true) ∧
        (isExtension name = false →
          requests (find table timeout location.text (some name)).events = [⟨"HEAD", url, timeout⟩])) ∧
      (isExtension name = true →
        requests (find table timeout location.text (some name)).events =
          if location.text.endsWith name then [⟨"HEAD", location.text, timeout⟩] else []) ∧
      (location.OnHost location.text ↔ location.rest.startsWith "/" = true)) ∧
    ∀ base wanted handle, (find table timeout base wanted).result = .ok handle →
      handle.container ++ handle.name = handle.path ∧ handle.container.endsWith "/" = true ∧
        '/' ∉ handle.name.toList := by
  refine ⟨fun location name => ⟨?_, fun extension => ?_, Location.onHost_text_iff⟩,
    fun _ _ _ found => handle_of_find found⟩
  · obtain ⟨url, joined, leads⟩ := location.exists_join_eq name
    refine ⟨url, joined, leads, leads.onHost_iff, fun isName => ?_⟩
    rw [requests_find, locationOf, if_pos (by rw [isName]; rfl), joined]
  · rw [requests_find, locationOf, if_neg (by rw [extension]; decide)]
    by_cases ended : location.text.endsWith name = true
    · rw [if_pos ended, if_pos ended]
    · rw [if_neg ended, if_neg ended]

/-- Of one host the disk is requested where the package is, of another where the disk is only named. -/
theorem requested_hosts_lost :
    let path : Location := ⟨"https://", "host:8443", "/pkg/vm.ovf?v=1", by decide, by decide, by decide, by decide⟩
    let query : Location := ⟨"http://", "host", "?f=vm.ovf", by decide, by decide, by decide, by decide⟩
    requests (find [] none path.text (some "disk.vmdk")).events =
      [⟨"HEAD", "https://host:8443/pkg/disk.vmdk", none⟩] ∧
    path.OnHost "https://host:8443/pkg/disk.vmdk" ∧
    requests (find [] none query.text (some "disk.vmdk")).events = [⟨"HEAD", "http://disk.vmdk", none⟩] ∧
    ¬ query.OnHost "http://disk.vmdk" := by
  intro path query
  have isName : isExtension "disk.vmdk" = false := by decide +kernel
  obtain ⟨⟨url, joined, -, onHost, requested⟩, -⟩ := (requested_hosts [] none).1 path "disk.vmdk"
  obtain ⟨⟨url', joined', -, onHost', requested'⟩, -⟩ := (requested_hosts [] none).1 query "disk.vmdk"
  have isUrl : join path.text "disk.vmdk" = .ok "https://host:8443/pkg/disk.vmdk" := by
    have split : path.text = "https://host:8443/pkg" ++ "/" ++ "vm.ovf?v=1" := by decide +kernel
    rw [join, split, packageDirectory_append (by decide)]
    rfl
  have isUrl' : join query.text "disk.vmdk" = .ok "http://disk.vmdk" := by
    have split : query.text = "http:/" ++ "/" ++ "host?f=vm.ovf" := by decide +kernel
    rw [join, split, packageDirectory_append (by decide)]
    rfl
  obtain rfl := Except.ok.inj (isUrl.symm.trans joined)
  obtain rfl := Except.ok.inj (isUrl'.symm.trans joined')
  refine ⟨requested isName, onHost.2 (.inl (by decide +kernel)), requested' isName, fun stays => ?_⟩
  rcases onHost'.1 stays with slash | ⟨-, begins⟩
  · revert slash
    decide +kernel
  · revert begins
    decide +kernel

end Storage.Web

end OvfInspect
