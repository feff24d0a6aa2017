import Mermaid.Proofs.Settings.Cascade
import Mermaid.Validator.Basic

/-!
# Settings select a validator

A command line without words fits no field, so no patch that is read gives one. Hence whatever the
client and the project file give, the settings resolved from it select a validator.
-/

namespace Mermaid

namespace Settings

/-- What is given in the first place or else in the second is not a value that neither gives. -/
private lemma or_ne_some {α : Type} {x y : Option α} {a : α} (hx : x ≠ some a) (hy : y ≠ some a) :
    x.or y ≠ some a := by
  cases x with
  | none => exact hy
  | some b => exact hx

/-- Whether a patch gives no command line, or one that has a word. -/
def Patch.HasWords (p : Patch) : Prop := p.validatorCommand ≠ some []

lemma hasWords_empty : Patch.HasWords {} := by simp [Patch.HasWords]

lemma Patch.HasWords.orElse {p q : Patch} (hp : p.HasWords) (hq : q.HasWords) :
    (p.orElse q).HasWords :=
  or_ne_some hp hq

/-- No value means a command line without words. -/
lemma readCommand_ne_nil (v : Raw) : (readCommand v).value? ≠ some [] := by
  unfold readCommand
  extract_lets words
  by_cases hnil : words.isEmpty = true
  · rw [if_pos hnil]
    nofun
  · rw [if_neg hnil]
    intro hvalue
    rw [Option.some.inj hvalue] at hnil
    exact hnil rfl

lemma ofOptions_hasWords {o : Options} {p : Patch} (h : (ofOptions o).result = .ok p) :
    p.HasWords := by
  have hvalue : p.validatorCommand = o.given? .validatorCommand :=
    value?_of_ofOptions h .validatorCommand
  rw [Patch.HasWords, hvalue]
  exact readCommand_ne_nil _

lemma projectValue?_ne_nil [Platform] (files : FileTree) (root : Option String) :
    projectValue? files root .validatorCommand ≠ some [] := by
  unfold projectValue?
  cases (projectContent? files root).bind table? with
  | none => nofun
  | some table => exact readCommand_ne_nil _

end Settings

/-- Settings whose command line has a word select a validator. -/
lemma Validator.exists_ofSettings {s : Settings} (hs : s.validatorCommand ≠ []) :
    ∃ v, Validator.ofSettings s = .ok v := by
  unfold ofSettings
  cases s.validator with
  | structural => exact ⟨_, rfl⟩
  | command =>
    refine ⟨.command ⟨s.validatorCommand, s.validatorTimeout⟩, ?_⟩
    dsimp only
    rw [Command.make, if_neg (by simpa using hs)]
    rfl

/-- **Resolved settings select a validator.** As long as the client has given no command line
without words, which no options can do, settings that are resolved select a validator. -/
theorem Resolver.exists_validator [Platform] {r : Resolver} (hr : r.client.HasWords)
    {files : FileTree} {s : Settings} (h : (r.resolve files).result = .ok s) :
    ∃ v, Validator.ofSettings s = .ok v := by
  have hvalue : some s.validatorCommand =
      (r.client.validatorCommand.or (Settings.projectValue? files r.root .validatorCommand)).or
        (some ({} : Settings).validatorCommand) := value?_resolve h .validatorCommand
  have hdefault : some ({} : Settings).validatorCommand ≠ some [] := by simp
  have hgiven := Settings.or_ne_some hr (Settings.projectValue?_ne_nil files r.root)
  apply Validator.exists_ofSettings
  intro hnil
  rw [hnil] at hvalue
  exact Settings.or_ne_some hgiven hdefault hvalue.symm

end Mermaid
