import OvfInspect.Session

/-!
# The program

The outer layer of the command line. It gathers the files of the packages that the words name, runs
the session on them, and shows what the session shows. When the session asks, it is run once more
with the answer that was typed; what has been shown before is not shown again. Packages on the web
are out of reach.
-/

namespace OvfInspect.Main

open Storage

/-- The levels of directories that are looked at in and below the directory of a package. -/
def searchDepth : Nat := 4

def bytesAt (path : String) : IO ByteArray := do
  try IO.FS.readBinFile path catch _ => pure .empty

def fileEntry (path : String) : IO Entry := do
  if namesDescriptor path then return .file (← bytesAt path).toList else return .file []

def withPath : (depth : Nat) → (path : String) → FileTree → IO FileTree
  | 0, _, tree => pure tree
  | depth + 1, path, tree => do
    let location := (← IO.currentDir) / path
    if ← location.isDir then
      let inside ← try location.readDir catch _ => pure #[]
      inside.foldlM (fun tree entry => withPath depth (path ++ "/" ++ entry.fileName) tree)
        (tree.insert path .directory)
    else if ← location.pathExists then return tree.insert path (← fileEntry path)
    else return tree

def directoriesTo (path : String) : List String :=
  let components := path.splitOn "/"
  ((List.range components.length).map fun n => "/".intercalate (components.take n)).filter (· ≠ "")

def withDirectoriesTo (path : String) (tree : FileTree) : IO FileTree := do
  let here ← IO.currentDir
  let directories ← (directoriesTo path).filterM fun (directory : String) =>
    (here / directory).isDir
  return directories.foldl (fun tree directory => tree.insert directory .directory) tree

/-- The member with its content if it is a descriptor. -/
def withDescriptor (holding : Holding) (member : Member) : Member :=
  if member.isFile && namesDescriptor member.name then
    { member with kind := .file ((holding.readName member.name).toOption.getD []) }
  else member

/-- The tree with a package: a directory, the directory of a descriptor, or an archive. Of archives
only descriptors are read. -/
def withPackage (tree : FileTree) (path : String) : IO FileTree := do
  let location := (← IO.currentDir) / path
  let tree ← withDirectoriesTo path tree
  if (← location.isDir) || !(← location.pathExists) then withPath searchDepth path tree
  else if namesDescriptor path then
    let directory := Path.parent path
    withPath searchDepth (if directory = "" then "." else directory) tree
  else
    match Opening.ofBytes (← bytesAt path) Packing.all with
    | .opened (.ok holding) =>
      return tree.insert path (.archive (holding.listing.map (withDescriptor holding)))
    | _ => return tree.insert path (.file [])

def filesFor (words : List String) : IO FileTree := do
  let working := (Path.components (← IO.currentDir).toString).filter (· ≠ "")
  let paths := words.filter fun word => word ≠ "" && !word.startsWith "-" && !isRemote word
  paths.foldlM withPackage (.empty working)

def unreachable (words : List String) : Web.Table :=
  (words.filter isRemote).map fun word => (word, .broken "the network is not available")

def messageLevels : Nat := 960

def objectTexts : ObjectTexts where
  command
    | .disks => "<command disks>"
    | .info => "<command info>"
  reader
    | .disks => "<reader disks>"
    | .info => "<reader info>"

def surroundings (words : List String) : IO Surroundings := do
  let files ← filesFor words
  let interactive := (← (← IO.getStdin).isTty) && (← (← IO.getStdout).isTty)
  let now ← IO.monoMsNow
  let clock := (Log.Clock.mk (now / 1000) (now % 1000)).text
  return ⟨⟨files, unreachable words, messageLevels⟩, interactive, ⟨clock, fun _ => 0⟩, objectTexts⟩

def put : Shown → IO Unit
  | .output text => IO.print text
  | .question text => do
    IO.print text
    (← IO.getStdout).flush
  | .complaint text => IO.eprint text

def isQuestion : Shown → Bool
  | .question _ => true
  | _ => false

/-- What is shown up to the first question that has not been answered, if there is one. -/
def untilQuestion? : (answered : Nat) → List Shown → Option (List Shown)
  | _, [] => none
  | answered, thing :: rest =>
    if isQuestion thing then
      match answered with
      | 0 => some [thing]
      | answered + 1 => (untilQuestion? answered rest).map (thing :: ·)
    else (untilQuestion? answered rest).map (thing :: ·)

/-- The code with which the program ends, and what is said about a fault that nothing expects. -/
def codeOf : Ending Nat → IO UInt32
  | .value code => pure code.toUInt32
  | .exit code => pure code.toUInt32
  | .fault fault => do
    IO.eprintln fault.message
    return 1

partial def serve (session : Session) (around : Surroundings) (words : List String)
    (answers : List Answer) (shown : Nat) : IO UInt32 := do
  let turn := session.run around words answers
  match untilQuestion? answers.length turn.shown with
  | some things =>
    (things.drop shown).forM put
    let line ← (← IO.getStdin).getLine
    if line = "" then
      (turn.shown.drop things.length).forM put
      codeOf turn.ending
    else
      let answer := Answer.typed (line.dropEndWhile (· == '\n')).toString
      serve session around words (answers ++ [answer]) things.length
  | none =>
    (turn.shown.drop shown).forM put
    codeOf turn.ending

def run (words : List String) : IO UInt32 := do
  let columns := (← IO.getEnv "COLUMNS").bind String.toInt?
  match Session.start 0 (Session.columnsOf none columns) {} with
  | .ok session => serve session (← surroundings words) words [] 0
  | .error fault => codeOf (.fault fault)

end OvfInspect.Main

def main (words : List String) : IO UInt32 :=
  OvfInspect.Main.run words
