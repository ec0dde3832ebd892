import TodoLedger.Run.Program

/-! The command line. The files that the program may see are those that its arguments name and those that
standard input lists, one path a line; what the run changed is written back. No tracker can be reached from
here, so that issues are filed in dry runs only, and no patterns that can be read are too much. -/

namespace TodoLedger.Main

/-- The variables of the environment that matter to a run. -/
def variableNames : List String :=
  ["PERTINENT_LINE_LIMIT", "MAXIMUM_ISSUES_GENERATED", "DEBUG", "GITHUB_REPOSITORY", "GITHUB_REF_NAME",
    "GITHUB_TRIGGERING_ACTOR", "GITHUB_SERVER_URL", "GITHUB_TOKEN", "GH_TOKEN", "GITHUB_ENV", "RUST_LOG"]

def environment : IO Environment := do
  let pairs ← variableNames.filterMapM fun name => do
    return (← IO.getEnv name).map fun value => (name.toList, value.toList)
  return fun name => pairs.lookup name

/-- The lines of standard input. -/
partial def inputLines (input : IO.FS.Stream) : IO (List String) := do
  let line ← input.getLine
  if line.isEmpty then return []
  return String.ofList (line.toList.filter (· != '\n')) :: (← inputLines input)

/-- The disk with the file at a path, if there is one that can be read. -/
def load (d : Disk) (path : String) : IO Disk := do
  try
    let content ← IO.FS.readBinFile path
    return d.write path.toList content.toList
  catch _ => return d

/-- Writes the files that are new or have another content. -/
def store (before after : Disk) : IO Unit :=
  after.nodes.forM fun (location, n) => do
    match n with
    | .file content =>
      if before.node? location != some n then
        IO.FS.writeBinFile (String.ofList (Disk.pathOf location)) (ByteArray.mk content.toArray)
    | _ => pure ()

end TodoLedger.Main

open TodoLedger in
/-- Runs the program with its arguments. -/
def main (args : List String) : IO UInt32 := do
  let environment ← Main.environment
  let current := Disk.segments ((← IO.getEnv "PWD").getD "/").toList
  let start : Disk := { (Disk.empty.add current .directory) with current }
  let named := args ++ (environment "GITHUB_ENV".toList).toList.map String.ofList
  let disk ← (named ++ (← Main.inputLines (← IO.getStdin))).foldlM Main.load start
  let color := (← (← IO.getStdout).isTty) && (← IO.getEnv "NO_COLOR").isNone
  let finished := Program.run
    { disk, environment, transport := Http.Transport.closed, peer := (), color } (args.map (·.toList))
  finished.log.forM fun line => IO.eprintln (String.ofList line)
  IO.print (String.ofList finished.printed)
  finished.errors.forM fun line => IO.eprintln (String.ofList line)
  Main.store disk finished.disk
  return finished.exitCode.toUInt32
