import Mermaid.Number.Binary64

/-!
# Settings

The settings of a session, and partial settings that override others field by field.
-/

namespace Mermaid

/-- Which validator checks the documents. -/
inductive ValidatorChoice
  | structural
  | command
  deriving DecidableEq

/-- The name of a choice in the settings. -/
def ValidatorChoice.name : ValidatorChoice → String
  | .structural => "structural"
  | .command => "command"

/-- The choices, in the order messages list them. -/
def ValidatorChoice.all : List ValidatorChoice := [.structural, .command]

/-- The settings of a session. Times are in seconds. -/
structure Settings where
  /-- How long typing has to pause before a document is validated. -/
  debounce : Binary64 := .ofRatio false 1 2
  /-- The spaces per level of the layout. -/
  indentWidth : Nat := 4
  validator : ValidatorChoice := .structural
  /-- The command line of an external validator. -/
  validatorCommand : List String := ["mmdc-validate"]
  /-- How long an external validator may take. -/
  validatorTimeout : Binary64 := .ofRatio false 10 1
  logLevel : Option String := none

/-- Settings of which only some are given. -/
structure Settings.Patch where
  debounce : Option Binary64 := none
  indentWidth : Option Nat := none
  validator : Option ValidatorChoice := none
  validatorCommand : Option (List String) := none
  validatorTimeout : Option Binary64 := none
  logLevel : Option String := none

namespace Settings.Patch

/-- What one patch gives, and else what another does. -/
def orElse (p q : Patch) : Patch where
  debounce := p.debounce.or q.debounce
  indentWidth := p.indentWidth.or q.indentWidth
  validator := p.validator.or q.validator
  validatorCommand := p.validatorCommand.or q.validatorCommand
  validatorTimeout := p.validatorTimeout.or q.validatorTimeout
  logLevel := p.logLevel.or q.logLevel

/-- Some settings with what a patch gives in place of theirs. -/
def apply (p : Patch) (s : Settings) : Settings where
  debounce := p.debounce.getD s.debounce
  indentWidth := p.indentWidth.getD s.indentWidth
  validator := p.validator.getD s.validator
  validatorCommand := p.validatorCommand.getD s.validatorCommand
  validatorTimeout := p.validatorTimeout.getD s.validatorTimeout
  logLevel := p.logLevel.or s.logLevel

/-- An outer patch over an inner one is applied after it. -/
theorem apply_orElse (p q : Patch) (s : Settings) : (p.orElse q).apply s = p.apply (q.apply s) := by
  obtain ⟨d, w, v, c, t, l⟩ := p
  cases d <;> cases w <;> cases v <;> cases c <;> cases t <;> cases l <;> rfl

end Settings.Patch

end Mermaid
