import Mermaid.Files.Tree
import Mermaid.Settings.Field
import Mermaid.Toml.Reader

/-!
# Resolving settings

Every field is resolved on its own: what the client gives comes first, then the project file in the
root of the workspace, then the default.

* `Settings.ofOptions` reads what a client sends;
* `Settings.readProject` reads the project file;
* `Resolver.resolve` puts them together.
-/

namespace Mermaid

namespace Settings

/-- What a client sends as options: a JSON value, or an object of its own kind whose keys can be
read but whose sections cannot. -/
inductive Options
  | json (v : Json)
  | keyed (members : List (String × Json))

/-- The section of the options that is meant for the settings. -/
def sectionName : String := "mermaid"

/-- The keys of the options. A section for the settings takes the place of the options around it. -/
def Options.members : Options → List (String × Json)
  | .keyed members => members
  | .json (.object members) =>
    match Json.member? members sectionName with
    | some (.object inner) => inner
    | _ => members
  | .json _ => []

/-- Settings as a client gives them. -/
def ofOptions (o : Options) : Reading Patch :=
  readFields Field.clientKey
    (fun key => ((Json.member? o.members key).map Raw.ofJson).getD .absent) Field.all {}

/-- The name of a project file. -/
def projectFile : String := ".mmdlsp.toml"

/-- The warning about a project file that may not be read or is no TOML. -/
def unreadable : Warning := ⟨"", "could not read"⟩

/-- Settings as the content of a project file gives them. -/
def ofContent [Platform] (content : Bytes) : Reading Patch :=
  match Utf8.decode content with
  | .error m => ⟨[], .error (.malformedFile m)⟩
  | .ok text =>
    match Toml.read text with
    | .error .malformed => ⟨[unreadable], .ok {}⟩
    | .error (.integerTooLong n) => ⟨[], .error (.numberTooLong n)⟩
    | .error .tooDeep => ⟨[], .error .tooDeep⟩
    | .ok table =>
      readFields Field.fileKey
        (fun key => ((Toml.Table.get? table key).map Raw.ofToml).getD .absent) Field.all {}

/-- The project file of a workspace; no root and an empty one mean that there is none. -/
def projectPath? (root : Option String) : Option Path :=
  match root with
  | none => none
  | some name => if name = "" then none else some ((Path.ofString name).child projectFile)

/-- Whether the system can take a text as a name. -/
def isName [Platform] (name : String) : Bool :=
  (Platform.nameFault? name).isNone && !name.toList.contains '\x00'

/-- Settings as the project file of a workspace gives them, none where there is no such file. -/
def readProject [Platform] (files : FileTree) (root : Option String) : Reading Patch :=
  match projectPath? root with
  | none => ⟨[], .ok {}⟩
  | some path =>
    if !isName path.toString then ⟨[], .ok {}⟩
    else match files.find path with
      | .error f => if f.meansAbsent then ⟨[], .ok {}⟩ else ⟨[], .error (.path f path.toString)⟩
      | .ok (_, .directory _) => ⟨[], .ok {}⟩
      | .ok (_, .file content mode) =>
        if !mode.regular then ⟨[], .ok {}⟩
        else if mode.readable then ofContent content
        else ⟨[unreadable], .ok {}⟩

/-- The text of a refusal. -/
def Fault.message : Fault → String
  | .numberTooLarge => "int too large to convert to float"
  | .malformedFile m => m.message
  | .numberTooLong digits =>
    "Exceeds the limit (" ++ toString Text.integerDigitLimit ++
      " digits) for integer string conversion: value has " ++ toString digits ++
      " digits; use sys.set_int_max_str_digits() to increase the limit"
  | .tooDeep => "maximum recursion depth exceeded"
  | .path f p => f.message p

end Settings

/-- Where the settings of a workspace come from. -/
structure Resolver where
  root : Option String := none
  /-- What the client has given so far. -/
  client : Settings.Patch := {}

namespace Resolver

/-- What the client has given is replaced. -/
def replace (r : Resolver) (p : Settings.Patch) : Resolver := { r with client := p }

/-- The client gives more. -/
def extend (r : Resolver) (p : Settings.Patch) : Resolver := { r with client := p.orElse r.client }

/-- The settings. -/
def resolve [Platform] (r : Resolver) (files : FileTree) : Settings.Reading Settings :=
  let project := Settings.readProject files r.root
  ⟨project.warnings, project.result.map fun p => (r.client.orElse p).apply {}⟩

end Resolver

end Mermaid
