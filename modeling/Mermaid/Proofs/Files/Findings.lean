import Mermaid.Proofs.Files.Rewriting
import Mermaid.Proofs.Layout.Outline
import Mermaid.Proofs.Text.Utf8
import Mermaid.Reformat

/-!
# What is found out about a file

A file lacks a layout if its text is not that layout. Once the layout has been written, the file
holds it byte for byte and lacks nothing any more, since a layout has no carriage returns and is its
own layout.

* `Reformat.missing?` is the layout that a file lacks, and `Reformat.laidOut` its content with it;
* `Reformat.Found` lists what can be found out about a file.
-/

namespace Mermaid.Reformat

variable [Platform] {width : Option Int} {t : FileTree} {name : String}

/-! ## The layout of a text -/

/-- A layout is one by the width, or one of blank lines. -/
lemma layoutOf_cases {text layout : Text} (h : layoutOf width text = .ok layout) :
    (∃ w, width = some w ∧ Layout.format w text = .ok layout) ∨
      width = none ∧ (Layout.outline text).all (· = .blank) = true ∧
        layout = Layout.render 0 text := by
  cases width with
  | some w =>
    cases hformat : Layout.format w text with
    | error f =>
      rw [layoutOf, hformat] at h
      cases h
    | ok s =>
      rw [layoutOf, hformat] at h
      obtain rfl : s = layout := Except.ok.inj h
      exact .inl ⟨w, rfl, hformat⟩
  | none =>
    rw [layoutOf] at h
    split at h
    · next hblank => exact .inr ⟨rfl, hblank, (Except.ok.inj h).symm⟩
    · cases h

lemma exists_render_of_layoutOf {text layout : Text} (h : layoutOf width text = .ok layout) :
    ∃ w, layout = Layout.render w text := by
  rcases layoutOf_cases h with ⟨w, -, hformat⟩ | ⟨-, -, hlayout⟩
  · exact ⟨w, (Layout.format_eq_ok_iff.1 hformat).2.symm⟩
  · exact ⟨0, hlayout⟩

/-- A layout is laid out. -/
lemma layoutOf_layout {text layout : Text} (h : layoutOf width text = .ok layout) :
    layoutOf width layout = .ok layout := by
  rcases layoutOf_cases h with ⟨w, rfl, hformat⟩ | ⟨rfl, hblank, rfl⟩
  · rw [layoutOf, Layout.format_of_format hformat]
    rfl
  · rw [layoutOf, Layout.outline_render, if_pos hblank, Layout.render_render]

/-- A layout that has been written is read again, since it has no carriage returns. -/
lemma textOf_encode_layout {content : Bytes} {text layout : Text}
    (htext : textOf content = .ok text)
    (hlayout : layoutOf width text = .ok layout) : textOf (Utf8.encode layout) = .ok layout := by
  have hreturn : '\r' ∉ text := by
    unfold textOf at htext
    cases hdecode : Utf8.decode content with
    | error m =>
      rw [hdecode] at htext
      cases htext
    | ok raw =>
      rw [hdecode] at htext
      rw [← Except.ok.inj htext]
      exact Text.not_mem_unifyNewlines raw
  obtain ⟨w, rfl⟩ := exists_render_of_layoutOf hlayout
  rw [textOf, Utf8.decode_of_encode, Except.map,
    Text.unifyNewlines_of_not_mem (Layout.not_mem_render (by decide) (by decide) hreturn)]

/-! ## What a file lacks -/

/-- The layout of what a file holds, if that is another text. -/
def missing? (width : Option Int) (content : Bytes) : Option Text :=
  (textOf content).toOption.bind fun text => (layoutOf width text).toOption.filter (· ≠ text)

/-- The content of a file after it has been laid out. -/
def laidOut (width : Option Int) (content : Bytes) : Bytes :=
  ((missing? width content).map Utf8.encode).getD content

lemma missing?_of_layoutOf {content : Bytes} {text layout : Text}
    (htext : textOf content = .ok text) (hlayout : layoutOf width text = .ok layout) :
    missing? width content = if layout = text then none else some layout := by
  rw [missing?, htext, Except.toOption, Option.bind_some, hlayout, Except.toOption,
    Option.filter_some]
  by_cases hsame : layout = text
  · simp [hsame]
  · simp [hsame]

lemma missing?_eq_some_iff {content : Bytes} {layout : Text} :
    missing? width content = some layout ↔
      ∃ text, textOf content = .ok text ∧ layoutOf width text = .ok layout ∧ layout ≠ text := by
  unfold missing?
  cases htext : textOf content with
  | error m => simp [Except.toOption]
  | ok text =>
    cases hlayout : layoutOf width text with
    | error r => simp [Except.toOption, hlayout]
    | ok s => simp [Except.toOption, hlayout, Option.filter_eq_some_iff]

/-- A file that has been laid out lacks nothing. -/
lemma missing?_laidOut (width : Option Int) (content : Bytes) :
    missing? width (laidOut width content) = none := by
  cases hmissing : missing? width content with
  | none =>
    rw [laidOut, hmissing]
    exact hmissing
  | some layout =>
    -- the layout reads back as it was written, and is its own layout
    rw [laidOut, hmissing]
    obtain ⟨text, htext, hlayout, -⟩ := missing?_eq_some_iff.1 hmissing
    rw [Option.eq_none_iff_forall_ne_some]
    intro s hs
    obtain ⟨text', htext', hlayout', hne⟩ := missing?_eq_some_iff.1 hs
    obtain rfl : layout = text' :=
      Except.ok.inj ((textOf_encode_layout htext hlayout).symm.trans htext')
    exact hne (Except.ok.inj (hlayout'.symm.trans (layoutOf_layout hlayout)))

/-- Whether the text of a file can be laid out, if it has one. -/
def IsLayable (width : Option Int) (content : Bytes) : Prop :=
  ∀ text, textOf content = .ok text → ∃ layout, layoutOf width text = .ok layout

lemma isLayable_laidOut_iff {content : Bytes} :
    IsLayable width (laidOut width content) ↔ IsLayable width content := by
  cases hmissing : missing? width content with
  | none => rw [laidOut, hmissing, Option.map_none, Option.getD_none]
  | some layout =>
    -- a layout that is missing is one that there is
    obtain ⟨text, htext, hlayout, -⟩ := missing?_eq_some_iff.1 hmissing
    have hagain := textOf_encode_layout htext hlayout
    rw [laidOut, hmissing, Option.map_some, Option.getD_some]
    constructor
    · intro _ text' htext'
      obtain rfl := Except.ok.inj (htext.symm.trans htext')
      exact ⟨layout, hlayout⟩
    · intro _ text' htext'
      obtain rfl := Except.ok.inj (hagain.symm.trans htext')
      exact ⟨layout, layoutOf_layout hlayout⟩

lemma exists_decode_laidOut {content : Bytes} (h : ∃ text, Utf8.decode content = .ok text) :
    ∃ text, Utf8.decode (laidOut width content) = .ok text := by
  cases hmissing : missing? width content with
  | none =>
    rw [laidOut, hmissing]
    exact h
  | some layout =>
    rw [laidOut, hmissing]
    exact ⟨layout, Utf8.decode_of_encode layout⟩

/-! ## What is found out about a file -/

/-- Whether a file has a name that a path can have, and holds UTF-8 if it can be opened. -/
structure IsLegible (t : FileTree) (name : String) : Prop where
  encodable : Platform.nameFault? (Path.ofString name).toString = none
  noNull : '\x00' ∉ name.toList
  decodes : ∀ content, t.read (.ofString name) = .ok content →
    ∃ text, Utf8.decode content = .ok text

instance : Decidable (IsLegible t name) :=
  decidable_of_iff (Platform.nameFault? (Path.ofString name).toString = none ∧
      '\x00' ∉ name.toList ∧ ∀ content ∈ (t.read (.ofString name)).toOption,
        (Utf8.decode content).isOk = true) <| by
    constructor
    · rintro ⟨hencodable, hnull, hdecodes⟩
      refine ⟨hencodable, hnull, fun content hread => ?_⟩
      have hok := hdecodes content (by rw [hread]; rfl)
      cases htext : Utf8.decode content with
      | error m =>
        rw [htext] at hok
        cases hok
      | ok text => exact ⟨text, rfl⟩
    · rintro ⟨hencodable, hnull, hdecodes⟩
      refine ⟨hencodable, hnull, fun content hread => ?_⟩
      cases hheld : t.read (.ofString name) with
      | error f =>
        rw [hheld] at hread
        cases hread
      | ok held =>
        rw [hheld] at hread
        obtain rfl : held = content := Option.some.inj hread
        obtain ⟨text, htext⟩ := hdecodes held hheld
        rw [htext]
        rfl

/-- Whether a file can be laid out, if it can be opened. -/
def CanLayOut (width : Option Int) (t : FileTree) (name : String) : Prop :=
  ∀ content, t.read (.ofString name) = .ok content → IsLayable width content

/-- Whether a name can be looked up, and leads to no file that can be opened. -/
def isUnreadable (t : FileTree) (name : String) : Bool :=
  (Platform.nameFault? (Path.ofString name).toString).isNone && !name.toList.contains '\x00' &&
    !(t.read (.ofString name)).isOk

/-- Whether a name leads to a file that is not laid out. -/
def isPending (width : Option Int) (t : FileTree) (name : String) : Bool :=
  ((t.read (.ofString name)).toOption.bind (missing? width)).isSome

lemma isUnreadable_of_ok {content : Bytes} (h : t.read (.ofString name) = .ok content) :
    isUnreadable t name = false := by
  rw [isUnreadable, h]
  exact Bool.and_false _

lemma isUnreadable_of_error (hlegible : IsLegible t name) {f : FileFault}
    (h : t.read (.ofString name) = .error f) : isUnreadable t name = true := by
  rw [isUnreadable, hlegible.encodable, h]
  simpa [Except.isOk, Except.toBool] using hlegible.noNull

lemma isPending_of_ok {content : Bytes} (h : t.read (.ofString name) = .ok content) :
    isPending width t name = (missing? width content).isSome := by
  rw [isPending, h]
  rfl

lemma isPending_of_error (width : Option Int) {f : FileFault}
    (h : t.read (.ofString name) = .error f) : isPending width t name = false := by
  rw [isPending, h]
  rfl

/-- What can be found out about a file that is legible. -/
inductive Found (width : Option Int) (t : FileTree) (name : String) : Except Refusal Finding → Prop
  | unreadable (f : FileFault) : t.read (.ofString name) = .error f →
      Found width t name (.ok (.unreadable f))
  | laidOut (content : Bytes) : t.read (.ofString name) = .ok content →
      missing? width content = none → CanLayOut width t name → Found width t name (.ok .laidOut)
  | differs (content : Bytes) (layout : Text) : t.read (.ofString name) = .ok content →
      missing? width content = some layout → CanLayOut width t name →
      Found width t name (.ok (.differs layout))
  | refused (r : Refusal) : ¬CanLayOut width t name → Found width t name (.error r)

lemma found (width : Option Int) (h : IsLegible t name) :
    Found width t name (Finding.ofFile width t name) := by
  have hnull : ¬name.toList.contains '\x00' = true := by simpa using h.noNull
  rw [Finding.ofFile, h.encodable]
  dsimp only
  rw [if_neg hnull]
  cases hread : t.read (.ofString name) with
  | error f => exact .unreadable f hread
  | ok content =>
    obtain ⟨raw, hraw⟩ := h.decodes content hread
    have htext : textOf content = .ok (Text.unifyNewlines raw) := by rw [textOf, hraw]; rfl
    simp only [Finding.ofContent, htext]
    cases hlayout : layoutOf width (Text.unifyNewlines raw) with
    | error r =>
      refine .refused r fun hcan => ?_
      obtain ⟨layout, hlayout'⟩ := hcan content hread _ htext
      cases hlayout.symm.trans hlayout'
    | ok layout =>
      have hcan : CanLayOut width t name := by
        intro content' hread' text' htext'
        obtain rfl := Except.ok.inj (hread.symm.trans hread')
        obtain rfl := Except.ok.inj (htext.symm.trans htext')
        exact ⟨layout, hlayout⟩
      have hmissing := missing?_of_layoutOf htext hlayout
      show Found width t name (.ok (Finding.ofLayout _ layout))
      rw [Finding.ofLayout]
      by_cases heq : layout = Text.unifyNewlines raw
      · rw [if_pos heq]
        exact .laidOut content hread (by simp [hmissing, heq]) hcan
      · rw [if_neg heq]
        exact .differs content layout hread (by simp [hmissing, heq]) hcan

/-- Something is found out about legible files only. -/
lemma isLegible_of_ofFile {finding : Finding} (h : Finding.ofFile width t name = .ok finding) :
    IsLegible t name := by
  unfold Finding.ofFile at h
  split at h
  · cases h
  · next hencodable =>
    split at h
    · cases h
    · next hnull =>
      refine ⟨hencodable, by simpa using hnull, fun content hread => ?_⟩
      rw [hread] at h
      dsimp only at h
      rw [Finding.ofContent, textOf] at h
      cases hdecode : Utf8.decode content with
      | error m =>
        rw [hdecode] at h
        cases h
      | ok text => exact ⟨text, rfl⟩

/-! ## What is carried out -/

/-- Whether the name of a file can be printed when the file is not laid out. -/
def IsPrintable (name : String) : Prop := Platform.printFault? (pendingText name) = none

/-- Whether a file has a mode of some kind, if there is such a file. -/
def HasMode (p : FileMode → Bool) (t : FileTree) (name : String) : Prop :=
  ∀ location content mode, t.find (.ofString name) = .ok (location, .file content mode) →
    p mode = true

omit [Platform] in
lemma hasMode_iff_of_find {p : FileMode → Bool} {location : List String} {content : Bytes}
    {mode : FileMode} (hfind : t.find (.ofString name) = .ok (location, .file content mode)) :
    HasMode p t name ↔ p mode = true := by
  refine ⟨fun h => h location content mode hfind, fun h location' content' mode' hfind' => ?_⟩
  obtain ⟨-, hnode⟩ := Prod.mk.inj (Except.ok.inj (hfind.symm.trans hfind'))
  obtain ⟨-, rfl⟩ := FileNode.file.inj hnode
  exact h

instance (p : FileMode → Bool) : Decidable (HasMode p t name) :=
  match hfind : t.find (.ofString name) with
  | .ok (_, .file _ _) => decidable_of_iff _ (hasMode_iff_of_find hfind).symm
  | .ok (_, .directory _) => isTrue fun _ _ _ h => nomatch hfind.symm.trans h
  | .error _ => isTrue fun _ _ _ h => nomatch hfind.symm.trans h

/-- Whether a file is done: it is legible, has a layout, and what it lacks is printed or written. -/
structure CanDo (check : Bool) (width : Option Int) (t : FileTree) (name : String) : Prop where
  legible : IsLegible t name
  layable : CanLayOut width t name
  carried : isPending width t name = true →
    if check then IsPrintable name else HasMode FileMode.writable t name

/-- What a file lacks is carried out, or not. -/
lemma exists_carryOut_iff (check : Bool) {content : Bytes} {layout : Text}
    (hread : t.read (.ofString name) = .ok content) :
    (∃ t', Finding.carryOut check t name (.differs layout) = .ok t') ↔
      if check then IsPrintable name else HasMode FileMode.writable t name := by
  obtain ⟨location, mode, hfind, -⟩ := FileTree.read_eq_ok_iff.1 hread
  cases check with
  | true =>
    rw [if_pos rfl, Finding.carryOut, if_pos rfl, IsPrintable]
    cases Platform.printFault? (pendingText name) with
    | some reason => exact iff_of_false (fun ⟨_, h⟩ => nomatch h) nofun
    | none => exact iff_of_true ⟨t, rfl⟩ rfl
  | false =>
    rw [if_neg Bool.false_ne_true, Finding.carryOut, if_neg Bool.false_ne_true,
      hasMode_iff_of_find hfind]
    cases hwrite : t.write (.ofString name) (Utf8.encode layout) with
    | error f =>
      obtain ⟨hdenied, -⟩ := (FileTree.write_eq_error_iff hfind).1 hwrite
      exact iff_of_false (fun ⟨_, h⟩ => nomatch h) (Bool.eq_false_iff.1 hdenied)
    | ok t' =>
      refine iff_of_true ⟨t', rfl⟩ (Bool.not_eq_false _ ▸ fun hdenied => ?_)
      rw [(FileTree.write_eq_error_iff hfind).2 ⟨hdenied, rfl⟩] at hwrite
      cases hwrite

end Mermaid.Reformat
