import Bibliography.CommandLine.Run

/-!
# The program

Reads the arguments and the files they name, runs, writes what has changed and prints what is shown.
-/

namespace Bibliography

/-- The help text. -/
def usageText : String :=
  "Usage: [-v | --verbose] [--debug] format [OPTIONS] FILE...\n\n"
    ++ "Sort and reformat BibTeX bibliographies.\n"

/-- The content that a path leads to, with the path itself once all links are followed. -/
def lookUp (path : String) : IO (String × Option Content) := do
  try
    let found ← IO.FS.realPath path
    if ← found.isDir then return (found.toString, some .directory)
    let bytes ← IO.FS.readBinFile found
    return (found.toString, some (.ofBytes bytes.toList))
  catch _ => return (path, none)

/-- The width of the console. -/
def consoleWidth : IO Nat := do
  return ((← IO.getEnv "COLUMNS").bind String.toNat?).getD 80

/-- Prints an outcome and writes the files that have changed. -/
def finish (before : Directory) (o : Outcome) : IO UInt32 := do
  for (path, content) in o.directory do
    match content with
    | .text s => if before.find? path ≠ some content then IO.FS.writeFile path (String.ofList s)
    | _ => pure ()
  (← IO.getStdout).putStr (String.ofList o.output)
  (← IO.getStderr).putStr (String.ofList o.messages)
  return o.exitCode.toUInt32

/-- Reports what is wrong with the arguments. -/
def refuse (fault : UsageFault) : IO UInt32 := do
  (← IO.getStderr).putStr (usageText ++ "\n" ++ fault.message ++ "\n")
  return 2

/-- Runs an invocation on the files of the system. -/
def formatFiles (i : Invocation) : IO UInt32 := do
  let found ← i.paths.mapM fun path => do return (path, ← lookUp path)
  let resolved (path : String) : String := ((found.lookup path).map (·.1)).getD path
  let directory : Directory := found.filterMap fun p => p.2.2.map fun content => (p.2.1, content)
  let i := i.mapPaths resolved
  match i.paths.forM directory.checkFile with
  | .error fault => refuse fault
  | .ok () => finish directory (i.run (← consoleWidth) directory)

end Bibliography

open Bibliography in
/-- Runs the program. -/
def main (args : List String) : IO UInt32 := do
  match Command.parse args with
  | .error fault => refuse fault
  | .ok .help =>
    (← IO.getStdout).putStr usageText
    return 0
  | .ok (.format i) => formatFiles i
