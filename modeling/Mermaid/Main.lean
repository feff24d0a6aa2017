import Mermaid.CommandLine.Run

/-!
# The program

The command line on the files of the system. What is to be done, and what is said about it, is
decided elsewhere; here files are read and written, and texts are printed. Serving a session needs a
transport to an editor, and none is part of this program.
-/

namespace Mermaid.CommandLine

open Platform.Usual

/-- The number of an error of the system, which may come with either sign. -/
def errorNumber (code : UInt32) : Nat := min code.toNat (0 - code).toNat

/-- The fault that an error of the system comes down to. -/
def fault? : IO.Error → Option FileFault
  | .noFileOrDirectory .. => some .notFound
  | .permissionDenied .. => some .denied
  | .inappropriateType _ code _ =>
    some (if errorNumber code = FileFault.notDirectory.number then .notDirectory else .isDirectory)
  | .invalidArgument _ code _ =>
    if errorNumber code = FileFault.nameTooLong.number then some .nameTooLong else none
  | _ => none

/-- What is found out about the file with a name. -/
def findingOf (width : Option Int) (name : String) :
    IO (Except Reformat.Refusal Reformat.Finding) := do
  if name.toList.contains '\x00' then return .error .nullInName
  try
    let content ← IO.FS.readBinFile (Path.ofString name).toString
    return Reformat.Finding.ofContent width content.toList
  catch e =>
    match fault? e with
    | some f => return .ok (.unreadable f)
    | none => throw e

/-- Prints a line of the log if the threshold lets it through. -/
def say (threshold level : LogLevel) (text : String) : IO Unit :=
  if threshold.shows level then IO.eprintln (logLine level text) else pure ()

/-- Lays files out, or checks them, and gives the exit code. -/
def reformat (threshold : LogLevel) (check : Bool) (width : Option Int) :
    List String → UInt32 → IO UInt32
  | [], status => return status
  | name :: names, status => do
    match ← findingOf width name with
    | .error refusal => throw (IO.userError refusal.message)
    | .ok .laidOut => reformat threshold check width names status
    | .ok (.unreadable f) =>
      say threshold .error (Reformat.unreadableText name f)
      reformat threshold check width names 2
    | .ok (.differs layout) =>
      if check then
        IO.println (Reformat.pendingText name)
        reformat threshold check width names (max 1 status)
      else
        IO.FS.writeBinFile (Path.ofString name).toString (ByteArray.mk (Utf8.encode layout).toArray)
        say threshold .info (Reformat.doneText name)
        reformat threshold check width names status

/-- Does a task, and gives the exit code. -/
def perform (threshold : LogLevel) : Task → IO UInt32
  | .showVersion => do
    IO.println versionLine
    return 0
  | .reformat check width names => reformat threshold check width names 0
  | .serve _ => do
    IO.eprintln (logLine .error "there is no transport to an editor")
    return 1

end Mermaid.CommandLine

/-- Runs the program. -/
def main (args : List String) : IO UInt32 :=
  match Mermaid.CommandLine.Request.ofArguments args with
  | .error .help => do
    IO.print Mermaid.CommandLine.help
    return 0
  | .error (.fault f) => do
    IO.eprint f.report
    return 2
  | .ok r =>
    match r.logLevel with
    | .nothing => throw (IO.userError Mermaid.CommandLine.Refusal.noLogLevel.message)
    | .value threshold => Mermaid.CommandLine.perform threshold r.task
