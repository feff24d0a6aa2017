import Mermaid.Files.Tree
import Mermaid.Layout
import Mermaid.LogLevel

/-!
# Laying files out

Files are laid out one after the other, or only checked. A file that cannot be opened is reported,
and the others are still done. Whatever else goes wrong ends the work there and then: a name that no
path can have or that cannot be printed, a file that is not UTF-8 or may not be written, and a text
that cannot be laid out.

* `layoutOf` is the layout of a text with a width or without one;
* `Finding.ofContent` says what is to be done about one file, and `Finding.carryOut` does it;
* `Reformat.files` does a list of files.
-/

namespace Mermaid.Reformat

/-- Why no file can be done any more. -/
inductive Refusal
  /-- A name holds a null character. -/
  | nullInName
  /-- The system cannot take a name. -/
  | unencodable (reason : String)
  /-- The output cannot take a name. -/
  | unprintable (reason : String)
  | malformed (m : Utf8.Malformed)
  /-- A file that has been read cannot be written. -/
  | unwritable (f : FileFault) (path : String)
  /-- A text cannot be laid out. -/
  | layout (f : Layout.Fault)
  /-- A line is to be indented by a width that is not there. -/
  | noWidth

/-- The text of a refusal. -/
def Refusal.message : Refusal → String
  | .nullInName => "embedded null byte"
  | .unencodable reason => reason
  | .unprintable reason => reason
  | .malformed m => m.message
  | .unwritable f path => f.message path
  | .layout f => f.message
  | .noWidth => "there is no indentation width"

/-- What is found out about a file. -/
inductive Finding
  | laidOut
  /-- The layout differs from what the file holds. -/
  | differs (layout : Text)
  | unreadable (f : FileFault)

/-- The text of a file; every kind of line end counts as a newline. -/
def textOf (content : Bytes) : Except Utf8.Malformed Text :=
  (Utf8.decode content).map Text.unifyNewlines

/-- The layout of a text. Without a width a text has one as long as all its lines are blank. -/
def layoutOf [Platform] (width : Option Int) (t : Text) : Except Refusal Text :=
  match width with
  | some w => (Layout.format w t).mapError .layout
  | none => if (Layout.outline t).all (· = .blank) then .ok (Layout.render 0 t) else .error .noWidth

/-- What is found out about a text by its layout. -/
def Finding.ofLayout (t layout : Text) : Finding := if layout = t then .laidOut else .differs layout

/-- What is found out about a file with some content. -/
def Finding.ofContent [Platform] (width : Option Int) (content : Bytes) :
    Except Refusal Finding :=
  match textOf content with
  | .error m => .error (.malformed m)
  | .ok t => (layoutOf width t).map (Finding.ofLayout t)

/-- What is found out about the file with a name. -/
def Finding.ofFile [Platform] (width : Option Int) (t : FileTree) (name : String) :
    Except Refusal Finding :=
  match Platform.nameFault? (Path.ofString name).toString with
  | some reason => .error (.unencodable reason)
  | none =>
    if name.toList.contains '\x00' then .error .nullInName
    else match t.read (.ofString name) with
      | .error f => .ok (.unreadable f)
      | .ok content => Finding.ofContent width content

/-- What is printed about a checked file that is not laid out. -/
def pendingText (name : String) : String := "would reformat " ++ name

/-- The files after what has been found out about a file is printed or put right. -/
def Finding.carryOut [Platform] (check : Bool) (t : FileTree) (name : String) :
    Finding → Except Refusal FileTree
  | .laidOut | .unreadable _ => .ok t
  | .differs layout =>
    if check then
      match Platform.printFault? (pendingText name) with
      | some reason => .error (.unprintable reason)
      | none => .ok t
    else
      (t.write (.ofString name) (Utf8.encode layout)).mapError fun f =>
        .unwritable f (Path.ofString name).toString

/-- Does one file: finds out about it, and carries that out. -/
def doFile [Platform] (check : Bool) (width : Option Int) (t : FileTree) (name : String) :
    Except Refusal (Finding × FileTree) := do
  let finding ← Finding.ofFile width t name
  return (finding, ← finding.carryOut check t name)

/-- What comes of laying files out. -/
structure Report where
  files : FileTree
  /-- The exit code: 2 if a file could not be opened, else 1 if a checked file is not laid out. -/
  status : Nat := 0
  /-- The files that were only checked and are not laid out. -/
  pending : List String := []
  log : List (LogLevel × String) := []
  refusal : Option Refusal := none

/-- What the log says about a file that cannot be opened. -/
def unreadableText (name : String) (f : FileFault) : String :=
  name ++ ": " ++ f.message (Path.ofString name).toString

/-- What the log says about a file that has been laid out. -/
def doneText (name : String) : String := "reformatted " ++ name

/-- What comes of a file and others, by what is found out about it and what comes of the others. -/
def Finding.report (check : Bool) (name : String) (rest : Report) : Finding → Report
  | .laidOut => rest
  | .unreadable f => { rest with status := 2, log := (.error, unreadableText name f) :: rest.log }
  | .differs _ =>
    if check then { rest with status := max 1 rest.status, pending := name :: rest.pending }
    else { rest with log := (.info, doneText name) :: rest.log }

/-- Lays files out, or checks them. -/
def files [Platform] (check : Bool) (width : Option Int) (t : FileTree) : List String → Report
  | [] => { files := t }
  | name :: names =>
    match doFile check width t name with
    | .error r => { files := t, refusal := some r }
    | .ok (finding, t') => finding.report check name (files check width t' names)

end Mermaid.Reformat
