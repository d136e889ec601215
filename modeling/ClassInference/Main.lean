import ClassInference.CommandLine.Run
import Std.Time.Zoned

/-!
# The program

The system as a host, and the command line: it reads the request, runs it in this year and shows
what the run has to say.
-/

namespace ClassInference

namespace Main

/-- What the system reports, as a fault. -/
def fault : IO.Error → FileFault
  | .noFileOrDirectory .. => .missing
  | .alreadyExists .. => .present
  | .inappropriateType _ 20 _ => .notDirectory
  | .inappropriateType _ 21 _ => .isDirectory
  | e => .other (toString e)

def attempt {α : Type} (action : IO α) : IO (Except FileFault α) := do
  match ← action.toBaseIO with
  | .ok a => return .ok a
  | .error e => return .error (fault e)

/-- A path as the root of an entry, which is how the system is asked about it. -/
def entry (path : String) : IO.FS.DirEntry := ⟨path, ""⟩

/-- The system would read a path only up to a NUL. -/
def isCutShort (path : String) : Bool := path.toList.contains '\x00'

/-- An action on a path. -/
def attemptAt {α : Type} (path : String) (action : IO α) : IO (Except FileFault α) :=
  if isCutShort path then return .error .nulInPath else attempt action

instance : Host IO where
  read path := attemptAt path (IO.FS.readBinFile path)
  readInput := attempt (do (← IO.getStdin).readBinToEnd)
  write path bytes := attemptAt path (IO.FS.writeBinFile path bytes)
  makeDirectory path := attemptAt path (IO.FS.createDir path)
  isPresent path := if isCutShort path then return false else (entry path).root.pathExists
  isDirectory path := if isCutShort path then return false else (entry path).root.isDir
  names path := attemptAt path do
    return (← (entry path).root.readDir).toList.map (·.fileName)

/-- What the command line looks like. -/
def usage : String := "\n".intercalate [
  "Usage: class-inference [-v] <generate|inspect> -i <INPUT>... [OPTIONS]",
  "",
  "  generate  infer classes from JSON documents and write one source file per class",
  "  inspect   infer classes from JSON documents and print the class graph as JSON",
  "",
  "  -i, --input <INPUT>...    paths, globs, or '-' for the standard input",
  "      --ndjson              one document per line",
  "      --json-pointer <P>    observe the part of each document at a pointer",
  "      --jq <FILTER>         observe what a filter makes of each document",
  "  -c, --config <FILE>       rules, enumerations, header, layout and dialect",
  "      --namespace <NAME>    package of the root class",
  "      --root-class <NAME>   name of the root class",
  "      --syntax <NAME>       java or csharp",
  "      --max-width <N>       line width",
  "      --indent-width <N>    blanks per level",
  "  -o, --out <PATH>          output directory or file",
  "      --no-op               show the request and stop",
  "  -v, --verbose",
  "  -h, --help",
  "  -V, --version",
  ""]

/-- Tell why there is nothing to run. -/
def explain : CommandLine.Stop → IO Unit
  | .usage => do (← IO.getStderr).putStr usage
  | .help => do (← IO.getStdout).putStr usage
  | .version => IO.println "class-inference 0.1.0"

/-- Run a request and show its report; the result is the exit code. -/
def perform (r : CommandLine.Request) : IO UInt32 := do
  let year := (← Std.Time.PlainDateTime.now).year.toInt
  let run : ExceptT CommandLine.Failure IO CommandLine.Report := r.run year
  match ← run.run with
  | .ok report =>
    (← IO.getStdout).putStr report.output
    (← IO.getStderr).putStr report.notice
    return 0
  | .error failure =>
    (← IO.getStderr).putStr ("Error: " ++ failure.text ++ "\n")
    return 1

end Main

end ClassInference

def main (arguments : List String) : IO UInt32 := do
  match ClassInference.CommandLine.Request.read arguments with
  | .ok request => ClassInference.Main.perform request
  | .error stop =>
    ClassInference.Main.explain stop
    return UInt32.ofNat stop.exitCode
