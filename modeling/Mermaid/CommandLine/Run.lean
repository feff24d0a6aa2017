import Mermaid.CommandLine.Request
import Mermaid.Reformat

/-!
# Running the program

A command line shows the help or the version, lays files out, or asks for a session to be served.
-/

namespace Mermaid.CommandLine

/-- How a session is to be served. -/
inductive Service
  | stdio
  | tcp (host : String) (port : Given Int)

/-- What a request comes down to. -/
inductive Task
  | showVersion
  | reformat (check : Bool) (width : Option Int) (names : List String)
  | serve (s : Service)

/-- The address that a session listens at. -/
def localHost : String := "127.0.0.1"

/-- What a request comes down to. The version goes before the files, and these before a session. -/
def Request.task (r : Request) : Task :=
  if r.version then .showVersion
  else match r.format, r.tcp with
    | some names, _ => .reformat r.check r.indentWidth.value? names
    | none, some port => .serve (.tcp localHost port)
    | none, none => .serve .stdio

/-- Why a run ends without an exit code. -/
inductive Refusal
  | files (r : Reformat.Refusal)
  /-- A log level is asked for, but none is given. -/
  | noLogLevel

/-- The text of a refusal. -/
def Refusal.message : Refusal → String
  | .files r => r.message
  | .noLogLevel => "there is no log level"

/-- What comes of a run. -/
structure Outcome where
  files : FileTree
  /-- The exit code of a run that has ended properly. -/
  exit : Option Nat := some 0
  output : String := ""
  errors : String := ""
  /-- What has ended the run. -/
  refusal : Option Refusal := none
  /-- How a session is to be served from now on. -/
  service : Option Service := none

/-- Lines one after the other. -/
def linesText (ls : List String) : String := String.join (ls.map (· ++ "\n"))

/-- A line of the log. -/
def logLine (level : LogLevel) (text : String) : String :=
  level.name ++ " " ++ programName ++ ": " ++ text

/-- The line with the version of the program. -/
def versionLine : String := programName ++ " " ++ programVersion

/-- The lines that a report prints. -/
def printed (r : Reformat.Report) : String := linesText (r.pending.map Reformat.pendingText)

/-- The texts of a log that are shown at a threshold. -/
def shown (threshold : LogLevel) (log : List (LogLevel × String)) : List (LogLevel × String) :=
  log.filter fun e => threshold.shows e.1

/-- What comes of laying files out. -/
def Outcome.ofReport (threshold : LogLevel) (r : Reformat.Report) : Outcome where
  files := r.files
  exit := if r.refusal.isSome then none else some r.status
  output := printed r
  errors := linesText ((shown threshold r.log).map fun (level, text) => logLine level text)
  refusal := r.refusal.map .files

/-- Does a task on some files, with a threshold for the log. -/
def Task.run [Platform] (threshold : LogLevel) (files : FileTree) : Task → Outcome
  | .showVersion => { files := files, output := linesText [versionLine] }
  | .reformat check width names => .ofReport threshold (Reformat.files check width files names)
  | .serve s => { files := files, exit := none, service := some s }

/-- Runs the program on some files. -/
def run [Platform] (args : List String) (files : FileTree) : Outcome :=
  match Request.ofArguments args with
  | .error .help => { files := files, output := help }
  | .error (.fault f) => { files := files, exit := some 2, errors := f.report }
  | .ok r =>
    match r.logLevel with
    | .nothing => { files := files, exit := none, refusal := some .noLogLevel }
    | .value threshold => r.task.run threshold files

end Mermaid.CommandLine
