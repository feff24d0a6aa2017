import Mermaid.Settings.Basic
import Mermaid.Structure.Check
import Mermaid.Validator.Command

/-!
# Validators

A document is validated by the structural check, or by an external command.
-/

namespace Mermaid

/-- A way to validate a document. -/
inductive Validator
  | structural
  | command (c : Command)

/-- What comes of asking a validator about a text. -/
inductive Consultation
  /-- The validator answers on the spot. -/
  | answers (v : Verdict)
  /-- The validator has made up its mind but keeps its answer back until it is released. -/
  | holds (v : Verdict)
  /-- The validator runs a command. -/
  | runs (c : Command) (p : Program)

namespace Validator

/-- The verdict of the structural check. -/
def structuralVerdict (t : Text) : Verdict := (Structure.check t).mapError .ofProblem

/-- Asks a validator about a text; commands behave like the given program. -/
def consult (program : Program) (v : Validator) (t : Text) : Consultation :=
  match v with
  | .structural => .answers (structuralVerdict t)
  | .command c => .runs c program

/-- The validator that settings select. -/
def ofSettings (s : Settings) : Except CommandFault Validator :=
  match s.validator with
  | .structural => .ok .structural
  | .command => (Command.make s.validatorCommand s.validatorTimeout).map .command

end Validator

end Mermaid
