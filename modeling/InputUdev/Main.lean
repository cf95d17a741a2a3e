import InputUdev.Application

/-!
# The command

Runs the program on the arguments of the command line. Settings files are read from disk. With
`--list` the paths that there are below the device root come from standard input, one to a line; a
path with a slash at its end is a directory.
-/

namespace InputUdev.Command

/-- The lines of standard input. -/
partial def inputLines (input : IO.FS.Stream) : IO (List String) := do
  let line ← input.getLine
  if line.isEmpty then return []
  return (line.trimAsciiEnd.toString) :: (← inputLines input)

/-- Adds a file to the tree, if it can be read. -/
def addFile (files : FileTree) (path : String) : IO FileTree := do
  try return files.write path (.file (← IO.FS.readBinFile path))
  catch _ => return files

/-- The settings file of the user. -/
def settingsFile : IO (Option String) := do
  let configured := (← IO.getEnv "XDG_CONFIG_HOME").filter (·.startsWith "/")
  let usual := (← IO.getEnv "HOME").map (Path.join · ".config")
  return (configured <|> usual).map Settings.fileIn

/-- What the program finds around it, as far as its arguments concern it. -/
def host (arguments : List String) : IO Host := do
  let home := Path.components ((← IO.getEnv "PWD").getD "/")
  let settingsFile ← settingsFile
  match CommandLine.read arguments with
  | .error _ => return { files := .bare home, settingsFile }
  | .ok a =>
    let files ← (a.config.toList ++ settingsFile.toList).foldlM addFile (.bare home)
    let listed ← if a.list then inputLines (← IO.getStdin) else pure []
    let files := listed.foldl (fun files path =>
      files.write path (if path.endsWith "/" then .directory else .file .empty)) files
    return { files, settingsFile }

end InputUdev.Command

def main (arguments : List String) : IO UInt32 := do
  let outcome := InputUdev.Outcome.ofArguments (← InputUdev.Command.host arguments) arguments
  (← IO.getStdout).putStr outcome.output
  (← IO.getStderr).putStr outcome.errors
  return outcome.exitCode.toUInt32
