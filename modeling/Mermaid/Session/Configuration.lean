import Mermaid.Session.Basic

/-!
# Configuration of a session

The editor says at the start where the workspace is, and gives settings then and later. Every time
the settings are resolved anew, and all live pipelines get the validator and the delay they select.
-/

namespace Mermaid.Session

/-- Why a session does not take settings. -/
inductive ConfigurationFault
  | settings (f : Settings.Fault)
  | command (f : CommandFault)

/-- What comes of giving settings to a session. A session that does not take them all may have taken
some. -/
structure Configured where
  session : Session
  warnings : List Settings.Warning
  fault : Option ConfigurationFault := none

/-- The root of the workspace: that of the address, without the scheme for files, and else the path
that stands beside it. -/
def rootOf (address path : Option String) : Option String :=
  match address with
  | none => path
  | some a =>
    if a = "" then path
    else if "file://".toList.isPrefixOf a.toList then some (String.ofList (a.toList.drop 7))
    else some a

/-- The level of the log that settings ask for; an unknown name changes nothing. -/
def levelFor (level : LogLevel) (s : Settings) : LogLevel :=
  (s.logLevel.bind LogLevel.ofName?).getD level

/-- Gives a pipeline of the host a validator and a delay. -/
def equipSlot (v : Validator) (delay : Binary64) (h : Host Validator) (i : Nat) : Host Validator :=
  h.modifySlot i fun slot =>
    { slot with validator := v, pipeline := { slot.pipeline with delay := delay } }

/-- Gives all live pipelines a validator and a delay. -/
def equip (v : Validator) (delay : Binary64) (s : Session) : Session :=
  { s with host := s.pipelines.values.foldl (equipSlot v delay) s.host }

/-- Takes settings. They stand even if there is no validator for them. -/
def accept (new : Settings) (s : Session) : Configured :=
  let s := { s with settings := new, logLevel := levelFor s.logLevel new }
  match Validator.ofSettings new with
  | .error f => ⟨s, [], some (.command f)⟩
  | .ok v => ⟨{ s with validator := v }.equip v new.debounce, [], none⟩

/-- Resolves the settings and takes them. -/
def applySettings [Platform] (files : FileTree) (s : Session) : Configured :=
  let reading := s.resolver.resolve files
  match reading.result with
  | .error f => ⟨s, reading.warnings, some (.settings f)⟩
  | .ok new => { s.accept new with warnings := reading.warnings }

/-- Takes what a client gives, put into the resolver as it should be. -/
def adopt [Platform] (files : FileTree) (given : Settings.Reading Settings.Patch)
    (change : Resolver → Settings.Patch → Resolver) (s : Session) : Configured :=
  match given.result with
  | .error f => ⟨s, given.warnings, some (.settings f)⟩
  | .ok p =>
    let c := { s with resolver := change s.resolver p }.applySettings files
    { c with warnings := given.warnings ++ c.warnings }

/-- The editor starts to use the session, in a workspace and with some options. -/
def begin [Platform] (files : FileTree) (root : Option String) (options : Settings.Options)
    (s : Session) :
    Configured :=
  { s with resolver := { root := root } }.adopt files (Settings.ofOptions options) Resolver.replace

/-- The editor gives settings, on top of those it has given before. -/
def configure [Platform] (files : FileTree) (options : Settings.Options) (s : Session) :
    Configured :=
  s.adopt files (Settings.ofOptions options) Resolver.extend

end Mermaid.Session
