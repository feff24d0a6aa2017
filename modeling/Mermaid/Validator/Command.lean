import Mermaid.Clock
import Mermaid.Json.Reader
import Mermaid.Number.General
import Mermaid.Text.Blank
import Mermaid.Text.Utf8
import Mermaid.Validator.Failure

/-!
# Validation by an external command

A diagram is handed to a program on its standard input. The program accepts it by ending with exit
code zero; otherwise it describes its objection as a JSON object on its standard output, or else in
plain words. An output that is too deep to be read is neither, and breaks the validation down. A
program that does not answer in time is killed and waited for, if it has not just gone.

The program is started before the diagram is encoded for it. If there is no encoding, the validation
breaks down there and then, and nobody looks after the program.

A run is laid out in advance as its course: what happens at once, and what happens after each pause.

* `Command.judge` reads the answer of a program;
* `Command.start` is the course of a run;
* `Course.run` is what a course leads to within some time.
-/

namespace Mermaid

/-- What a validator says of a diagram. -/
abbrev Verdict := Except Failure Unit

/-- What comes of killing a program. -/
inductive Killing
  /-- It is killed, and waiting for it comes to an end. -/
  | reaped
  /-- It has just ended by itself, so there is nothing to be killed. -/
  | gone
  /-- It is killed, but waiting for it does not come to an end. -/
  | lingering
  deriving DecidableEq

/-- How a program behaves when it is run. -/
structure Program where
  /-- Whether the program can be found. -/
  found : Bool
  /-- The seconds from its input to its answer; `none` when it never answers. -/
  delay : Option Rat
  exitCode : Int
  output : Bytes
  errors : Bytes
  killing : Killing := .reaped

/-- A command line and the seconds that a run of it may take. -/
structure Command where
  argv : List String
  timeout : Binary64

/-- What can be seen of a run. -/
inductive RunEvent
  | spawn (argv : List String)
  | input (text : Text)
  | kill
  | wait

/-- A pause in a run. -/
inductive Pause
  /-- Handed on through as many further rounds of the queue. -/
  | rounds (n : Nat)
  /-- Some seconds, and then handed on. -/
  | seconds (d : Rat) (rounds : Nat)

/-- The rounds of the queue that a pause takes at most. -/
def Pause.length : Pause → Nat
  | .rounds n => n
  | .seconds _ n => n + 1

/-- The rest of a run. -/
inductive Course
  | done (v : Verdict)
  | stuck
  | next (pause : Pause) (events : List RunEvent) (rest : Course)

/-- How much of a run is left. -/
def Course.length : Course → Nat
  | .done _ => 2
  | .stuck => 1
  | .next pause _ rest => pause.length + rest.length + 2

namespace Command

/-- The first word of a command line. -/
def name (c : Command) : String := c.argv.headD ""

/-- The failure of a program that cannot be found. -/
def notFound (c : Command) : Failure := .unavailable ("Validator command not found: " ++ c.name)

/-- The failure of a program that does not answer in time. -/
def timedOut (c : Command) : Failure :=
  .unavailable ("Validator timed out after " ++ c.timeout.general ++ "s")

/-- What a program has written, without blanks around it. -/
def written (bs : Bytes) : Text := Text.trim (Utf8.decodeLossy bs)

/-- The objection of a program in plain words: what it wrote as errors, or else as output. -/
def plainMessage (p : Program) : String :=
  match written p.errors, written p.output with
  | [], [] => Failure.defaultMessage
  | [], out => String.ofList out
  | err, _ => String.ofList err

/-- The verdict that an answer stands for. -/
def judge [Platform] (p : Program) : Verdict :=
  if p.exitCode = 0 then .ok ()
  else match Json.read Platform.jsonDepth (written p.output) with
    | .ok (.object payload) =>
      match Failure.ofMembers payload with
      | .ok failure => .error failure
      | .error fault => .error (.broken fault)
    | .error (.tooDeep c) => .error (.broken (.tooDeep c))
    | _ => .error (.rejected (.string (plainMessage p)) none)

/-- The course of a program that is given up. -/
def givenUp (c : Command) (p : Program) (pause : Pause) : Course :=
  match p.killing with
  | .reaped => .next pause [.kill, .wait] (.done (.error c.timedOut))
  | .gone => .next pause [] (.done (.error (.broken .processGone)))
  | .lingering => .next pause [.kill] .stuck

/-- The course of a run once the program has its input. With a timeout that is over at once only an
answer without delay comes in time. A NaN is over at once too, as it is if no other timer is set. -/
def afterInput [Platform] (c : Command) (p : Program) : Course :=
  match c.timeout, c.timeout.toRat? with
  | .infinite _, _ =>
    match p.delay with
    | none => .stuck
    | some d =>
      .next (if d ≤ 0 then .rounds 1 else .seconds d 2) [] (.done (judge p))
  | _, none =>
    if p.delay.any (· ≤ 0) then .next (.rounds 0) [] (.done (judge p)) else c.givenUp p (.rounds 3)
  | _, some limit =>
    if limit < Platform.resolution then
      if p.delay.any (· ≤ 0) then .next (.rounds 0) [] (.done (judge p))
      else c.givenUp p (.rounds 3)
    else match p.delay with
      | none => c.givenUp p (.seconds limit 3)
      | some d =>
        if d ≤ 0 then .next (.rounds 1) [] (.done (judge p))
        else if d < limit then .next (.seconds d 2) [] (.done (judge p))
        else c.givenUp p (.seconds limit 3)

/-- Whether a timeout is over before the program can be given its input. -/
def isOver : Binary64 → Bool
  | .nan => false
  | x => x.isNegative || x.isZero

/-- What happens at once when a text is handed to a command, and the rest of the run. -/
def start [Platform] (c : Command) (p : Program) (text : RawText) : List RunEvent × Course :=
  if !p.found then ([], .done (.error c.notFound))
  else match text.utf8Fault? with
    | some u => ([.spawn c.argv], .done (.error (.broken (.unencodable u))))
    | none =>
      if isOver c.timeout then ([.spawn c.argv], c.givenUp p (.rounds 2))
      else ([.spawn c.argv], .next (.rounds 0) [.input text.legible] (c.afterInput p))

private theorem length_afterInput_le [Platform] (c : Command) (p : Program) :
    (c.afterInput p).length ≤ 8 := by
  unfold afterInput givenUp
  repeat' split
  all_goals simp only [Course.length, Pause.length]; omega

/-- A run is over within a fixed number of rounds, pauses for time aside. -/
theorem length_start_le [Platform] (c : Command) (p : Program) (text : RawText) :
    (c.start p text).2.length ≤ 10 := by
  have h := length_afterInput_le c p
  unfold start givenUp
  repeat' split
  all_goals simp only [Course.length, Pause.length]; omega

end Command

/-- What a course leads to within some seconds: what can be seen, and the verdict if there is one.
-/
def Course.run [Platform] (limit : Rat) : Course → List RunEvent × Option Verdict
  | .done v => ([], some v)
  | .stuck => ([], none)
  | .next (.rounds _) events rest =>
    let (later, v) := rest.run limit
    (events ++ later, v)
  | .next (.seconds d _) events rest =>
    if d < limit + Platform.resolution then
      let (later, v) := rest.run (limit - d)
      (events ++ later, v)
    else ([], none)

/-- Why a command line cannot be run. -/
inductive CommandFault
  | empty

/-- The text of the objection to a command line. -/
def CommandFault.message : CommandFault → String
  | .empty => "CommandValidator needs a command"

/-- The command of a command line, which needs at least one word. -/
def Command.make (argv : List String) (timeout : Binary64) : Except CommandFault Command :=
  if argv.isEmpty then .error .empty else .ok ⟨argv, timeout⟩

end Mermaid
