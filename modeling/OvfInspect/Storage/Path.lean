/-!
# Paths

Paths as text: their components, their normal form, and joining. A path that begins with a slash is
absolute; every other path is relative to the working directory.
-/

namespace OvfInspect.Storage.Path

def components (path : String) : List String :=
  (path.toList.splitOn '/').map String.ofList

def isAbsolute (path : String) : Bool :=
  path.startsWith "/"

def isProper (component : String) : Bool :=
  component ≠ "" && component ≠ "."

/-- Extend normal components, last first, by one more. A step up cancels the component before it;
at the root it is void, and at the start of a relative path it stays. -/
def extend (absolute : Bool) (before : List String) (component : String) : List String :=
  if !isProper component then before
  else if component = ".." then
    match before with
    | [] => if absolute then [] else [".."]
    | last :: rest => if last = ".." then ".." :: last :: rest else rest
  else component :: before

def normalComponents (path : String) : List String :=
  ((components path).foldl (extend (isAbsolute path)) []).reverse

/-- The slashes that a normal form begins with: two stay two, three or more are one. -/
def leadingSlashes (path : String) : String :=
  if !isAbsolute path then ""
  else if path.startsWith "//" && !path.startsWith "///" then "//"
  else "/"

def normalize (path : String) : String :=
  let normal := leadingSlashes path ++ "/".intercalate (normalComponents path)
  if normal = "" then "." else normal

def join (directory name : String) : String :=
  if isAbsolute name then name
  else if directory = "" || directory.endsWith "/" then directory ++ name
  else directory ++ "/" ++ name

def splitLast (path : String) : List Char × List Char :=
  let cs := path.toList.reverse
  ((cs.dropWhile (· ≠ '/')).reverse, (cs.takeWhile (· ≠ '/')).reverse)

def baseName (path : String) : String :=
  String.ofList (splitLast path).2

/-- What comes before the last component, without slashes at its end unless it is all slashes. -/
def parent (path : String) : String :=
  let head := (splitLast path).1
  if head.all (· == '/') then String.ofList head
  else String.ofList (head.reverse.dropWhile (· == '/')).reverse

def absolute (working path : String) : String :=
  normalize (if isAbsolute path then path else join working path)

end OvfInspect.Storage.Path
