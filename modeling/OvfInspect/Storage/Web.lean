import OvfInspect.Storage.Client

/-!
# Packages on the web

A web server cannot list a directory, so objects are found by name only. The package is the part of
a location up to its last slash.
-/

namespace OvfInspect.Storage.Web

inductive Reply where
  | response (status : Nat) (reason : String) (body : List UInt8)
  /-- No response came, for the reason given. -/
  | broken (reason : String)
  deriving DecidableEq, Repr

/-- The replies that are not the usual one for a missing object, by method and location, or by
location alone. -/
abbrev Table := List (String × Reply)

def Table.reply (table : Table) (method url : String) : Reply :=
  match table.lookup (method ++ " " ++ url) with
  | some reply => reply
  | none => (table.lookup url).getD (.response 404 "Not Found" [])

def packageDirectory (location : String) : Except Fault String :=
  if location.contains '/' then
    .ok (String.ofList (location.toList.reverse.dropWhile (· ≠ '/')).reverse)
  else .error (.path .noSlash)

def lastSegment (location : String) : String :=
  String.ofList (location.toList.reverse.takeWhile (· ≠ '/')).reverse

/-- The location of a name in the package. Slashes before the name do not count. -/
def join (base name : String) : Except Fault String := do
  return (← packageDirectory base) ++ String.ofList (name.toList.dropWhile (· == '/'))

def statusText? (status : Nat) (reason url : String) : Option String :=
  let text := fun side =>
    toString status ++ " " ++ side ++ " Error: " ++ reason ++ " for url: " ++ url
  if 400 ≤ status && status < 500 then some (text "Client")
  else if 500 ≤ status && status < 600 then some (text "Server")
  else none

def transferFailure (text url : String) : Fault :=
  .storage (.system Failure.transferCode text (some url))

def request (table : Table) (timeout : Option Rat) (method url : String) :
    Narrated Fault (List UInt8) := do
  .log (.verbose (method ++ " " ++ url))
  .tell (.requested ⟨method, url, timeout⟩)
  match table.reply method url with
  | .broken text => .fail (transferFailure text url)
  | .response status reason body =>
    if status = 404 then do
      let directory ← .ofExcept (packageDirectory url)
      .fail (.storage (.notFound (some (lastSegment url)) directory))
    else match statusText? status reason url with
      | some text => .fail (transferFailure text url)
      | none => pure body

def locationOf (base wanted : String) : Except Fault String :=
  if !isExtension wanted then join base wanted
  else if base.endsWith wanted then .ok base
  else .error (.storage (.notFound (some wanted) base))

def find (table : Table) (timeout : Option Rat) (base : String) (wanted : Option String) :
    Narrated Fault Handle := do
  let wanted ← needed wanted
  let url ← .ofExcept (locationOf base wanted)
  let _ ← request table timeout "HEAD" url
  let directory ← .ofExcept (packageDirectory url)
  pure ⟨directory, lastSegment url, url⟩

/-- The time in seconds that a request may take, unless the client is told otherwise. -/
def defaultTimeout : Option Rat := some 60

def client (table : Table) (timeout : Option Rat) : Client where
  backend := .web
  find := find table timeout
  read handle := do
    let body ← request table timeout "GET" handle.path
    pure (.bytes body)
  join base name := .ofExcept (join base name)

end OvfInspect.Storage.Web
