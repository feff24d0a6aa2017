import Mermaid.Files.Tree
import Mathlib.Tactic.Common
import Mathlib.Data.List.Infix

/-!
# Trees with other contents

Writing to a file changes its content and nothing else: the tree has the same files and directories
at the same places, and every path leads to the same place as before. A file that may not be written
or is no regular one holds what it has held before.

* `FileTree.Rewrites` compares trees that differ in the contents of files, and
  `FileTree.Rewrites.find` says where paths lead in them;
* `FileTree.rewrites_write` says what writing to a file changes.
-/

namespace Mermaid

/-- Whether a file keeps what is written to it. -/
def FileMode.keeps (m : FileMode) : Bool := m.writable && m.regular

/-- A node with other content, if it is a file that keeps what is written to it. -/
def FileNode.map (f : Bytes → Bytes) : FileNode → FileNode
  | .file content mode => .file (if mode.keeps then f content else content) mode
  | .directory searchable => .directory searchable

lemma FileNode.map_self (node : FileNode) : node.map (fun content => content) = node := by
  cases node with
  | file content mode => rw [map, ite_self]
  | directory searchable => rfl

lemma FileNode.map_map (f g : Bytes → Bytes) (node : FileNode) :
    (node.map f).map g = node.map fun content => g (f content) := by
  cases node with
  | file content mode =>
    simp only [map]
    split <;> rfl
  | directory searchable => rfl

namespace FileTree

variable {t t' : FileTree}

/-! ## Where paths lead -/

/-- What a walk leads to stands there. -/
lemma nodeAt?_of_walk {location l : List String} {node n : FileNode} {parts : List String}
    (h : t.nodeAt? location = some node) (hwalk : t.walk location node parts = .ok (l, n)) :
    t.nodeAt? l = some n := by
  induction parts generalizing location node with
  | nil =>
    obtain ⟨rfl, rfl⟩ := Prod.mk.inj (Except.ok.inj hwalk)
    exact h
  | cons part parts ih =>
    cases node with
    | file content mode => cases hwalk
    | directory searchable =>
      simp only [walk] at hwalk
      split at hwalk
      · cases hwalk
      · split at hwalk
        · cases hwalk
        · split at hwalk
          · cases hwalk
          · next next hnext => exact ih hnext hwalk

/-- What a path leads to stands there. -/
lemma nodeAt?_of_find {p : Path} {location : List String} {node : FileNode}
    (hfind : t.find p = .ok (location, node)) : t.nodeAt? location = some node := by
  unfold find at hfind
  split at hfind
  · cases hfind
  · split at hfind
    · cases hfind
    · next start hstart => exact nodeAt?_of_walk hstart hfind

lemma read_of_find {p : Path} {location : List String} {content : Bytes} {mode : FileMode}
    (hfind : t.find p = .ok (location, .file content mode)) :
    t.read p = if mode.readable then .ok content else .error .denied := by
  rw [read, hfind]

lemma read_eq_ok_iff {p : Path} {content : Bytes} :
    t.read p = .ok content ↔ ∃ location mode,
      t.find p = .ok (location, .file content mode) ∧ mode.readable = true := by
  constructor
  · intro h
    unfold read at h
    split at h
    · cases h
    · cases h
    · next location held mode hfind =>
      split at h
      · next hreadable =>
        obtain rfl : held = content := Except.ok.inj h
        exact ⟨location, mode, hfind, hreadable⟩
      · cases h
  · rintro ⟨location, mode, hfind, hreadable⟩
    rw [read_of_find hfind, if_pos hreadable]

/-! ## Trees that differ in contents -/

/-- Whether one tree is another one with the content of each file changed in some way, if the file
keeps what is written to it. -/
structure Rewrites (t t' : FileTree) (f : List String → Bytes → Bytes) : Prop where
  home : t'.home = t.home
  current : t'.current = t.current
  nodeAt? : ∀ location, t'.nodeAt? location = (t.nodeAt? location).map (FileNode.map (f location))

namespace Rewrites

variable {f g : List String → Bytes → Bytes}

lemma refl (t : FileTree) : t.Rewrites t fun _ content => content := by
  refine ⟨rfl, rfl, fun location => ?_⟩
  cases t.nodeAt? location with
  | none => rfl
  | some node => rw [Option.map_some, node.map_self]

lemma trans {t'' : FileTree} (h : t.Rewrites t' f) (h' : t'.Rewrites t'' g) :
    t.Rewrites t'' fun location content => g location (f location content) := by
  refine ⟨h'.home.trans h.home, h'.current.trans h.current, fun location => ?_⟩
  rw [h'.nodeAt?, h.nodeAt?]
  cases t.nodeAt? location with
  | none => rfl
  | some node => rw [Option.map_some, Option.map_some, Option.map_some, FileNode.map_map]

/-- It only counts what becomes of contents that are there, in files that keep what is written. -/
lemma congr (h : t.Rewrites t' f)
    (hfg : ∀ location content mode, t.nodeAt? location = some (.file content mode) →
      mode.keeps = true → f location content = g location content) :
    t.Rewrites t' g := by
  refine ⟨h.home, h.current, fun location => ?_⟩
  rw [h.nodeAt?]
  cases hnode : t.nodeAt? location with
  | none => rfl
  | some node =>
    cases node with
    | directory searchable => rfl
    | file content mode =>
      rw [Option.map_some, Option.map_some, FileNode.map, FileNode.map]
      by_cases hkeeps : mode.keeps = true
      · rw [hfg location content mode hnode hkeeps]
      · rw [if_neg hkeeps, if_neg hkeeps]

lemma walk (h : t.Rewrites t' f) (location : List String) (node : FileNode) (parts : List String) :
    t'.walk location (node.map (f location)) parts =
      (t.walk location node parts).map fun e => (e.1, e.2.map (f e.1)) := by
  induction parts generalizing location node with
  | nil => rfl
  | cons part parts ih =>
    cases node with
    | file content mode => rfl
    | directory searchable =>
      simp only [FileNode.map, FileTree.walk]
      split
      · rfl
      · split
        · rfl
        · rw [h.nodeAt?]
          cases t.nodeAt? (step location part) with
          | none => rfl
          | some next => exact ih (step location part) next

/-- A path leads to the same place in both trees. -/
lemma find (h : t.Rewrites t' f) (p : Path) :
    t'.find p = (t.find p).map fun e => (e.1, e.2.map (f e.1)) := by
  have horigin : t'.origin p = t.origin p := by rw [origin, origin, h.current]
  unfold FileTree.find
  rw [horigin, h.nodeAt?]
  split
  · rfl
  · cases t.nodeAt? (t.origin p) with
    | none => rfl
    | some start => exact h.walk _ start p.parts

lemma find_file (h : t.Rewrites t' f) {p : Path} {location : List String} {content : Bytes}
    {mode : FileMode} (hfind : t.find p = .ok (location, .file content mode)) :
    t'.find p =
      .ok (location, .file (if mode.keeps then f location content else content) mode) := by
  rw [h.find, hfind]
  rfl

/-- A path cannot be opened in the one tree for the reason why it cannot in the other. -/
lemma read_error (h : t.Rewrites t' f) {p : Path} {fault : FileFault}
    (hread : t.read p = .error fault) : t'.read p = .error fault := by
  unfold read at hread ⊢
  rw [h.find]
  cases hfind : t.find p with
  | error e =>
    rw [hfind] at hread
    exact hread
  | ok e =>
    obtain ⟨location, node⟩ := e
    rw [hfind] at hread
    cases node with
    | directory searchable => exact hread
    | file content mode =>
      dsimp only at hread
      split at hread
      · cases hread
      · next hreadable =>
        simp only [Except.map, FileNode.map]
        rw [if_neg hreadable]
        exact hread

end Rewrites

/-! ## Writing -/

lemma find?_setEntry (parts q : List String) (node : FileNode)
    (entries : List (List String × FileNode)) :
    ((setEntry parts node entries).find? fun e => e.1 = q).map Prod.snd =
      if q = parts then some node else (entries.find? fun e => e.1 = q).map Prod.snd := by
  induction entries with
  | nil =>
    by_cases h : q = parts
    · simp [setEntry, h]
    · simp [setEntry, h, Ne.symm h]
  | cons e rest ih =>
    obtain ⟨name, held⟩ := e
    rw [setEntry]
    by_cases hname : name = parts
    · rw [if_pos hname]
      by_cases h : q = parts
      · simp [h, hname]
      · have hne : ¬name = q := fun heq => h (heq.symm.trans hname)
        simp [h, hne]
    · rw [if_neg hname]
      by_cases h : name = q
      · have hne : ¬q = parts := fun heq => hname (h.trans heq)
        simp [h, hne]
      · simp only [List.find?_cons_of_neg (a := (name, held)) (p := fun e => decide (e.1 = q))
          (by simpa using h), ih]

lemma entry?_setEntry {parts : List String} (hparts : parts ≠ []) (node : FileNode)
    (q : List String) :
    entry? { t with entries := setEntry parts node t.entries } q =
      if q = parts then some node else t.entry? q := by
  unfold entry?
  by_cases hq : q = []
  · subst hq
    rw [if_neg (Ne.symm hparts)]
    rfl
  · have hempty : ¬q.isEmpty = true := by simpa using hq
    rw [if_neg hempty, if_neg hempty, find?_setEntry]

/-- A file stands below the home directory, under the name of an entry. -/
lemma exists_parts_of_file {location : List String} {content : Bytes} {mode : FileMode}
    (h : t.nodeAt? location = some (.file content mode)) :
    ∃ parts, parts ≠ [] ∧ location = t.home ++ parts ∧
      t.entry? parts = some (.file content mode) := by
  unfold nodeAt? at h
  split at h
  · cases h
  · split at h
    · next hhome =>
      obtain ⟨parts, rfl⟩ := List.isPrefixOf_iff_prefix.1 hhome
      rw [List.drop_left] at h
      refine ⟨parts, ?_, rfl, h⟩
      rintro rfl
      cases h
    · cases h

/-- Setting the entry of a file changes the content of that file, and nothing else. -/
lemma rewrites_setEntry {parts : List String} (hparts : parts ≠ []) {content : Bytes}
    {mode : FileMode} (hentry : t.entry? parts = some (.file content mode))
    (hkeeps : mode.keeps = true) (new : Bytes) :
    t.Rewrites { t with entries := setEntry parts (.file new mode) t.entries }
      fun l held => if l = t.home ++ parts then new else held := by
  refine ⟨rfl, rfl, fun l => ?_⟩
  unfold nodeAt?
  dsimp only
  -- places at or above the home directory are directories in both trees, and only those below it
  -- are looked up among the entries
  by_cases habove : l.isPrefixOf t.home = true
  · rw [if_pos habove, if_pos habove]
    rfl
  · rw [if_neg habove, if_neg habove]
    by_cases hbelow : t.home.isPrefixOf l = true
    · rw [if_pos hbelow, if_pos hbelow]
      obtain ⟨q, rfl⟩ := List.isPrefixOf_iff_prefix.1 hbelow
      rw [List.drop_left, entry?_setEntry hparts]
      by_cases hq : q = parts
      · subst hq
        simp [hentry, FileNode.map, hkeeps]
      · simp only [if_neg hq, List.append_cancel_left_eq]
        cases t.entry? q with
        | none => rfl
        | some node => rw [Option.map_some, node.map_self]
    · rw [if_neg hbelow, if_neg hbelow]
      rfl

/-- **Writing to a file** changes the content of that file if it keeps what is written to it, and
nothing else. -/
theorem rewrites_write {p : Path} {location : List String} {content new : Bytes} {mode : FileMode}
    (hfind : t.find p = .ok (location, .file content mode)) (hwrite : t.write p new = .ok t') :
    t.Rewrites t' fun l held => if l = location then new else held := by
  have hnode := nodeAt?_of_find hfind
  simp only [write, hfind] at hwrite
  split at hwrite
  · cases hwrite
  · next hwritable =>
    split at hwrite
    · next hregular =>
      obtain rfl := Except.ok.inj hwrite
      refine (Rewrites.refl t).congr fun l held mode' hheld hkeeps => ?_
      rw [if_neg]
      rintro rfl
      obtain ⟨-, rfl⟩ := FileNode.file.inj (Option.some.inj (hnode.symm.trans hheld))
      simp_all [FileMode.keeps]
    · next hregular =>
      obtain rfl := Except.ok.inj hwrite
      obtain ⟨parts, hparts, rfl, hentry⟩ := exists_parts_of_file hnode
      rw [List.drop_left]
      exact rewrites_setEntry hparts hentry (by simp_all [FileMode.keeps]) new

/-- Writing to a file fails when it may not be written. -/
lemma write_eq_error_iff {p : Path} {location : List String} {content : Bytes} {mode : FileMode}
    (hfind : t.find p = .ok (location, .file content mode)) {new : Bytes} {fault : FileFault} :
    t.write p new = .error fault ↔ mode.writable = false ∧ fault = .denied := by
  simp only [write, hfind]
  cases mode.writable with
  | false =>
    rw [Bool.not_false, if_pos rfl, Except.error.injEq]
    exact ⟨fun h => ⟨rfl, h.symm⟩, fun h => h.2.symm⟩
  | true =>
    rw [Bool.not_true, if_neg Bool.false_ne_true]
    refine iff_of_false (fun h => ?_) fun h => nomatch h.1
    split at h <;> cases h

end FileTree

end Mermaid
