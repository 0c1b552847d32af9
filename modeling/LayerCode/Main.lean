import LayerCode.Command.Run

/-!
# The command line

Reads the snapshots that the arguments name, runs the command on them, and shows or stores the code
that it generated, as text.
-/

namespace LayerCode

open Command

/-- A manifest as text: the graph with its target, then the headers and the code of every node. -/
def Record.text (r : Record) : String :=
  String.join (r.metadata.map fun m => "// " ++ m.1 ++ ": " ++ m.2.replace "\n" " " ++ "\n") ++
    String.join (r.rows.map fun row => row.config ++ row.call ++ "\n")

/-- A file with its path, if it can be read. -/
def readEntry? (path : String) : IO (Option (String × Content)) := do
  try
    let bytes ← IO.FS.readBinFile path
    pure (some (path, .bytes bytes.data.toList))
  catch _ => pure none

/-- The path leads to a directory. -/
def isDirectory (path : String) : IO Bool := do
  try
    let _ ← IO.FS.realPath (path ++ "/.")
    pure true
  catch _ => pure false

/-- The files that a run can see: its snapshots, and the directory that the output goes to. -/
def loadFiles (o : Options) (paths : List String) : IO Files := do
  let home := Files.placeOf [] (← IO.currentDir).toString
  let files := Files.ofListIn home (← paths.filterMapM readEntry?)
  let place := Files.placeOf home (parentPath o.out)
  if ← isDirectory (parentPath o.out) then
    pure { files with directories := files.directories ++ Files.directoriesTo place ++ [place] }
  else pure files

/-- Stores the streams that the command wrote, each under a temporary name first. -/
def storeStreams (files : Files) : IO Unit := do
  for (place, content) in files.entries do
    match content with
    | .bytes _ => pure ()
    | .streams records =>
      let destination := "/" ++ "/".intercalate place
      let temporary := temporaryIn (parentPath destination)
      IO.FS.writeFile temporary (String.join (records.map Record.text))
      IO.FS.rename temporary destination

/-- Runs the command on the files that its arguments name. Publishing to a server and listening for
requests need a network and are refused. -/
def runCommand (arguments : List String) : IO UInt32 := do
  let (options, paths) := match parseFlags {} arguments with
    | .ok parsed => parsed
    | .error _ => ({}, [])
  if options.server != "" || options.listen != "" then
    IO.eprintln "the flags -server and -listen need a network, which this command does not use"
    return 1
  let outcome := Command.run (← loadFiles options paths) arguments
  for record in outcome.stdout do
    IO.print record.text
  storeStreams outcome.files
  match outcome.fatal with
  | some fatal => IO.eprintln (fatal.message ++ ": " ++ fatal.error)
  | none => pure ()
  return outcome.exit

end LayerCode

/-- The command. -/
def main (arguments : List String) : IO UInt32 := LayerCode.runCommand arguments
