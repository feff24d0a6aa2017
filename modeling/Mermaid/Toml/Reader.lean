import Mermaid.Platform
import Mermaid.Text.Basic
import Mermaid.Toml.Scalar

/-!
# Reading TOML

A document is a sequence of lines, each an entry, a table header, a header of an array of tables, a
comment, or nothing.

A table may be opened by one header only, and a value that is written in place is closed: nothing
can be added to it later. The reader therefore keeps, beside the tables, the keys that headers have
opened and the keys of the values written in place.

Values written in place may lie in each other only so deep: the platform has some room for them, of
which an array and an inline table each take their share.

`Toml.read` is the table of a document.
-/

namespace Mermaid.Toml

/-- A reader's result, where no result means a malformed text. -/
def orMalformed (r : Option α) : Except Fault α :=
  match r with
  | some a => .ok a
  | none => .error .malformed

/-- The text after blanks within the line. -/
def skipSpaces (t : Text) : Text := t.dropWhile isSpace

/-- The text after a comment, which ends before its line feed. -/
def skipComment (t : Text) : Except Fault Text :=
  match t with
  | '#' :: cs =>
    let body := cs.takeWhile (· ≠ '\n')
    if body.any isControl then .error .malformed else .ok (cs.drop body.length)
  | cs => .ok cs

/-- The text after blanks, line feeds and comments; `fuel` bounds the number of comments. -/
def skipLines : Nat → Text → Except Fault Text
  | 0, t => .ok t
  | fuel + 1, t =>
    match t.dropWhile isSpaceOrNewline with
    | '#' :: cs => do skipLines fuel (← skipComment ('#' :: cs))
    | cs => .ok cs

/-! ## Keys -/

/-- Whether a character may stand in a key without quotes. -/
def isBareKey (c : Char) : Bool :=
  ('a' ≤ c && c ≤ 'z') || ('A' ≤ c && c ≤ 'Z') || Json.isAsciiDigit c || c = '-' || c = '_'

/-- One part of a key. -/
def readKeyPart (t : Text) : Except Fault (String × Text) :=
  match t.takeWhile isBareKey with
  | [] => do
    let (s, rest) ← orMalformed (lineString? t)
    return (String.ofList s, rest)
  | part => .ok (String.ofList part, t.drop part.length)

/-- A key with its dotted parts; `fuel` bounds their number. -/
def readKeyParts : Nat → Text → Except Fault (Key × Text)
  | 0, _ => .error .malformed
  | fuel + 1, t => do
    let (part, rest) ← readKeyPart t
    match skipSpaces rest with
    | '.' :: cs =>
      let (parts, rest) ← readKeyParts fuel (skipSpaces cs)
      return (part :: parts, rest)
    | cs => return ([part], cs)

/-- A key with its dotted parts. -/
def readKey (t : Text) : Except Fault (Key × Text) := readKeyParts (t.length + 1) t

/-! ## Tables -/

/-- Changes the table at a path, making the tables on the way; headers lead into the last table of
an array of tables. There is no change when a value stands in the way. -/
def updateAt (change : Table → Option Table) : Key → Table → Option Table
  | [], t => change t
  | k :: ks, t =>
    match Table.get? t k with
    | none => do return Table.set k (.table (← updateAt change ks [])) t
    | some (.table inner) => do return Table.set k (.table (← updateAt change ks inner)) t
    | some (.tables items) => do
      let last ← items.getLast?
      return Table.set k (.tables (items.dropLast ++ [← updateAt change ks last])) t
    | some _ => none

/-- Adds an entry for a key that is not there. -/
def addEntry (key : String) (v : Value) (t : Table) : Option Table :=
  if (Table.get? t key).isSome then none else some (Table.set key v t)

/-- Adds an empty table to an array of tables, which is made when it is not there. -/
def addTable (key : String) (t : Table) : Option Table :=
  match Table.get? t key with
  | none => some (Table.set key (.tables [[]]) t)
  | some (.tables items) => some (Table.set key (.tables (items ++ [[]])) t)
  | some _ => none

/-- Whether nothing can be added at a key any more, as one of some values written in place stands
there or above it. -/
def isClosed (closed : List Key) (key : Key) : Bool := closed.any (·.isPrefixOf key)

/-- The stem and the last part of a key. -/
def splitLast (key : Key) : Key × String := (key.dropLast, key.getLastD "")

/-- Whether a value written in place has members or items. -/
def isCompound : Value → Bool
  | .array _ | .tables _ | .table _ => true
  | _ => false

/-! ## Values -/

/-- The room that an array takes. -/
def arrayRoom : Nat := 2

/-- The room that an inline table takes. -/
def inlineRoom : Nat := 3

/-- What is left of some room when a part of it is taken. -/
def takeRoom (part room : Nat) : Except Fault Nat :=
  if room < part then .error .tooDeep else .ok (room - part)

mutual

/-- The value at the head of a text, within some room; `fuel` bounds the depth and number of nested
values. -/
def readValue : Nat → Nat → Text → Except Fault (Value × Text)
  | 0, _, _ => .error .malformed
  | fuel + 1, room, t =>
    match t with
    | '[' :: cs => do
      let room ← takeRoom arrayRoom room
      let (items, rest) ← readItems fuel room (← skipLines (cs.length + 1) cs)
      return (.array items, rest)
    | '\x7b' :: cs => do
      let room ← takeRoom inlineRoom room
      let (entries, rest) ← readInline fuel room [] [] (skipSpaces cs) true
      return (.table entries, rest)
    | c :: _ =>
      if c = '"' || c = '\'' then do
        let (s, rest) ← orMalformed (string? t)
        return (.string (String.ofList s), rest)
      else if "true".toList.isPrefixOf t then .ok (.boolean true, t.drop 4)
      else if "false".toList.isPrefixOf t then .ok (.boolean false, t.drop 5)
      else match moment? t with
        | some rest => do return (.moment, ← rest)
        | none => (number? t).getD (.error .malformed)
    | [] => .error .malformed

/-- The items of an array up to its closing bracket, each within some room; blanks and comments
before the first are skipped. -/
def readItems : Nat → Nat → Text → Except Fault (List Value × Text)
  | _, _, ']' :: cs => .ok ([], cs)
  | 0, _, _ => .error .malformed
  | fuel + 1, room, t => do
    let (v, rest) ← readValue fuel room t
    match ← skipLines (rest.length + 1) rest with
    | ']' :: cs => return ([v], cs)
    | ',' :: cs =>
      let (vs, rest) ← readItems fuel room (← skipLines (cs.length + 1) cs)
      return (v :: vs, rest)
    | _ => .error .malformed

/-- The entries of an inline table up to its closing brace, each within some room, added to a table;
only an empty one may be closed where an entry could start. -/
def readInline : Nat → Nat → Table → List Key → Text → Bool → Except Fault (Table × Text)
  | 0, _, _, _, _, _ => .error .malformed
  | fuel + 1, room, table, closed, t, first =>
    match t, first with
    | '\x7d' :: cs, true => .ok (table, cs)
    | t, _ => do
      let (key, rest) ← readKey t
      match rest with
      | '=' :: cs =>
        let (v, rest) ← readValue fuel room (skipSpaces cs)
        if isClosed closed key then .error .malformed
        let (stem, last) := splitLast key
        let table ← orMalformed (updateAt (addEntry last v) stem table)
        match skipSpaces rest with
        | '\x7d' :: cs => return (table, cs)
        | ',' :: cs =>
          let closed := if isCompound v then key :: closed else closed
          readInline fuel room table closed (skipSpaces cs) false
        | _ => .error .malformed
      | _ => .error .malformed

end

/-! ## Documents -/

/-- What has been read of a document. -/
structure Document where
  root : Table := []
  /-- The table that entries go to. -/
  header : Key := []
  /-- The keys that no header may open any more. -/
  opened : List Key := []
  /-- The keys of the values written in place. -/
  closed : List Key := []
  /-- The keys on the way of dotted entries, to be opened at the next header. -/
  pending : List Key := []

/-- The starts of a key that are neither empty nor the whole key. -/
def properStarts (key : Key) : List Key :=
  (List.range (key.length - 1)).map fun n => key.take (n + 1)

/-- Adds an entry to the current table. -/
def Document.addEntry (d : Document) (key : Key) (v : Value) : Option Document := do
  let ways := (properStarts key).map (d.header ++ ·)
  if ways.any d.opened.contains then none
  let (stem, last) := splitLast key
  if isClosed d.closed (d.header ++ stem) then none
  let root ← updateAt (Toml.addEntry last v) (d.header ++ stem) d.root
  return { d with
    root := root
    pending := ways ++ d.pending
    closed := if isCompound v then (d.header ++ key) :: d.closed else d.closed }

/-- Moves on to the table of a header. -/
def Document.openTable (d : Document) (key : Key) : Option Document := do
  let opened := d.pending ++ d.opened
  if opened.contains key || isClosed d.closed key then none
  let root ← updateAt some key d.root
  return { d with root := root, header := key, opened := key :: opened, pending := [] }

/-- Moves on to a new table of an array of tables. -/
def Document.openTables (d : Document) (key : Key) : Option Document := do
  if isClosed d.closed key then none
  let isInside (k : Key) : Bool := key.isPrefixOf k
  let (stem, last) := splitLast key
  let root ← updateAt (addTable last) stem d.root
  return { d with
    root := root
    header := key
    opened := key :: (d.pending ++ d.opened).filter fun k => !isInside k
    closed := d.closed.filter fun k => !isInside k
    pending := [] }

/-- Reads an entry into the current table. -/
def Document.readEntry [Platform] (d : Document) (t : Text) : Except Fault (Document × Text) := do
  let (key, rest) ← readKey t
  match rest with
  | '=' :: cs =>
    let (v, rest) ← readValue (2 * cs.length + 2) Platform.tomlRoom (skipSpaces cs)
    return (← orMalformed (d.addEntry key v), rest)
  | _ => .error .malformed

/-- Reads a header, up to its closing brackets. -/
def Document.readHeader (d : Document) (t : Text) : Except Fault (Document × Text) := do
  match t with
  | '[' :: '[' :: cs =>
    let (key, rest) ← readKey (skipSpaces cs)
    let d ← orMalformed (d.openTables key)
    match rest with
    | ']' :: ']' :: cs => return (d, cs)
    | _ => .error .malformed
  | _ =>
    let (key, rest) ← readKey (skipSpaces (t.drop 1))
    let d ← orMalformed (d.openTable key)
    match rest with
    | ']' :: cs => return (d, cs)
    | _ => .error .malformed

/-- Reads what a line holds beside blanks and a comment. -/
def Document.readStatement [Platform] (d : Document) (t : Text) : Except Fault (Document × Text) :=
  match t with
  | [] => .ok (d, [])
  | c :: _ =>
    if c = '\n' || c = '#' then .ok (d, t)
    else if c = '[' then d.readHeader t
    else if isBareKey c || c = '"' || c = '\'' then d.readEntry t
    else .error .malformed

/-- Reads the lines of a document; `fuel` bounds their number. -/
def Document.readLines [Platform] : Nat → Document → Text → Except Fault Document
  | 0, d, _ => .ok d
  | fuel + 1, d, t => do
    let (d, rest) ← d.readStatement (skipSpaces t)
    match ← skipComment (skipSpaces rest) with
    | [] => return d
    | '\n' :: cs => readLines fuel d cs
    | _ => .error .malformed

/-- The table of a document. -/
def read [Platform] (t : Text) : Except Fault Table := do
  let t := Text.unifyNewlines t
  return (← Document.readLines (t.length + 1) {} t).root

end Mermaid.Toml
