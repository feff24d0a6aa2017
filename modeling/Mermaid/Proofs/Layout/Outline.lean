import Mermaid.Layout
import Mermaid.Proofs.Text.Lines

/-!
# The outline of a text laid out

Laying a text out changes the blanks around its lines, and an outline does not depend on these. So a
text laid out has the outline that it had before, and laying it out again changes nothing.

* `Layout.map_trim_lines_render` says which lines a text laid out has;
* `Layout.outlineFrom_append` takes an outline apart, by the level between two parts;
* `Layout.outline_congr` says what an outline depends on;
* `Layout.format_of_format` lays a text out again;
* `Layout.exists_format_iff` says which texts can be laid out where there is memory enough.
-/

namespace Mermaid.Layout

/-! ## The lines of a text laid out -/

/-- A line laid out is the trimmed line between blanks. -/
lemma map_trim_render (width : Int) (level : Nat) (ls : List Text) :
    ((outlineFrom level ls).map (Line.render width)).map Text.trim = ls.map Text.trim := by
  induction ls generalizing level with
  | nil => rfl
  | cons raw rest ih =>
    rw [outlineFrom]
    split
    · next hempty =>
      rw [List.map_cons, List.map_cons, List.map_cons, ih, List.isEmpty_iff.1 hempty]
      rfl
    · have hspaces :
          Text.isBlankText (indentation width (levelOf level (Text.trim raw))) = true := by
        rw [Text.isBlankText, indentation, List.all_replicate]
        simp [show Text.isBlank ' ' = true from by decide]
      rw [List.map_cons, List.map_cons, List.map_cons, ih, Line.render,
        Text.trim_append_left hspaces, Text.trim_trim]

/-- A line laid out has the characters of its line, and spaces. -/
lemma not_mem_of_mem_render {c : Char} (hc : c ≠ ' ') {width : Int} {level : Nat} {ls : List Text}
    (hls : ∀ l ∈ ls, c ∉ l) :
    ∀ l ∈ (outlineFrom level ls).map (Line.render width), c ∉ l := by
  induction ls generalizing level with
  | nil => simp [outlineFrom]
  | cons raw rest ih =>
    obtain ⟨hraw, hrest⟩ := List.forall_mem_cons.1 hls
    rw [outlineFrom]
    split
    · rw [List.map_cons, List.forall_mem_cons]
      exact ⟨by simp [Line.render], ih hrest⟩
    · rw [List.map_cons, List.forall_mem_cons]
      refine ⟨?_, ih hrest⟩
      rw [Line.render, List.mem_append, not_or]
      exact ⟨by simp [indentation, hc], Text.not_mem_trim hraw⟩

/-- The lines of a text laid out are those of its outline. -/
lemma lines_render (width : Int) (t : Text) :
    Text.lines (render width t) = (outline t).map (Line.render width) := by
  rw [render, outline]
  apply Text.lines_joinLines
  · intro hnil
    have htrim := map_trim_render width 0 (Text.lines t)
    rw [hnil] at htrim
    exact Text.lines_ne_nil t (List.map_eq_nil_iff.1 htrim.symm)
  · exact not_mem_of_mem_render (by decide) fun l hl => Text.not_mem_of_mem_lines hl

/-- The lines of a text laid out are its lines with other blanks around them. -/
theorem map_trim_lines_render (width : Int) (t : Text) :
    (Text.lines (render width t)).map Text.trim = (Text.lines t).map Text.trim := by
  rw [lines_render, outline, map_trim_render]

/-- Layout brings no characters but spaces and line feeds. -/
lemma not_mem_render {c : Char} (hspace : c ≠ ' ') (hfeed : c ≠ '\n') {width : Int} {t : Text}
    (ht : c ∉ t) : c ∉ render width t := by
  rw [render, Text.mem_joinLines_iff hfeed]
  rintro ⟨l, hl, hc⟩
  exact not_mem_of_mem_render hspace (fun _ hm hmem => ht (Text.mem_of_mem_lines hm hmem)) l hl hc

/-! ## Levels -/

/-- The level that some lines leave for those below them. -/
def levelBelow (level : Nat) (ls : List Text) : Nat :=
  ls.foldl (fun n raw => levelAfter n (Text.trim raw)) level

/-- A line of the outline below lines that leave the level at `level`. -/
def lineOf (level : Nat) (raw : Text) : Line :=
  if (Text.trim raw).isEmpty then .blank
  else .indented (levelOf level (Text.trim raw)) (Text.trim raw)

/-- Blank lines leave the level alone. -/
lemma levelAfter_nil (level : Nat) : levelAfter level [] = level := by
  have hopens : Keyword.opensBlockAt [] = false := by decide
  have hcloses : Keyword.closesBlockAt [] = false := by decide
  rw [levelAfter, levelOf, hopens, hcloses]
  rfl

lemma outlineFrom_cons (level : Nat) (raw : Text) (ls : List Text) :
    outlineFrom level (raw :: ls) =
      lineOf level raw :: outlineFrom (levelBelow level [raw]) ls := by
  show outlineFrom level (raw :: ls) =
    lineOf level raw :: outlineFrom (levelAfter level (Text.trim raw)) ls
  rw [outlineFrom, lineOf]
  split
  · next hempty => rw [List.isEmpty_iff.1 hempty, levelAfter_nil]
  · rfl

lemma outlineFrom_append (level : Nat) (ls ms : List Text) :
    outlineFrom level (ls ++ ms) =
      outlineFrom level ls ++ outlineFrom (levelBelow level ls) ms := by
  induction ls generalizing level with
  | nil => rfl
  | cons raw ls ih =>
    rw [List.cons_append, outlineFrom_cons, ih, outlineFrom_cons, List.cons_append]
    rfl

lemma length_outlineFrom (level : Nat) (ls : List Text) :
    (outlineFrom level ls).length = ls.length := by
  induction ls generalizing level with
  | nil => rfl
  | cons raw ls ih => rw [outlineFrom_cons, List.length_cons, ih, List.length_cons]

/-- A line of a text laid out, below other lines. -/
lemma lineAt_render (width : Int) {t raw : Text} {above below : List Text} {number : Nat}
    (ht : Text.lines t = above ++ raw :: below) (hnumber : number = above.length + 1) :
    Text.lineAt (render width t) number = (lineOf (levelBelow 0 above) raw).render width := by
  -- the lines laid out stand where the lines of the text do
  rw [hnumber, Text.lineAt, lines_render, outline, ht, outlineFrom_append, outlineFrom_cons,
    List.map_append, List.map_cons, Nat.add_sub_cancel, List.getD_eq_getElem?_getD,
    List.getElem?_append_right (by rw [List.length_map, length_outlineFrom]), List.length_map,
    length_outlineFrom, Nat.sub_self]
  rfl

/-- The margin of a line laid out. -/
lemma margin_render {width : Int} {level : Nat} {raw : Text} (h : Text.trim raw ≠ []) :
    Text.margin ((lineOf level raw).render width) =
      (levelOf level (Text.trim raw) * width).toNat := by
  have hspace : ∀ c ∈ indentation width (levelOf level (Text.trim raw)), Text.isBlank c = true := by
    intro c hc
    rw [List.eq_of_mem_replicate hc]
    decide
  -- a trimmed line begins with no blank, so its margin is the indentation
  have hmargin := Text.margin_trim raw
  rw [lineOf, if_neg (by simpa using h), Line.render]
  unfold Text.margin at hmargin ⊢
  rw [List.takeWhile_append_of_pos hspace, List.length_append, hmargin, indentation,
    List.length_replicate, Nat.add_zero]

/-! ## Laying out again -/

lemma outlineFrom_congr {ls ms : List Text} (h : ls.map Text.trim = ms.map Text.trim)
    (level : Nat) : outlineFrom level ls = outlineFrom level ms := by
  induction ls generalizing level ms with
  | nil => rw [List.map_eq_nil_iff.1 h.symm]
  | cons l ls ih =>
    cases ms with
    | nil => cases h
    | cons m ms =>
      obtain ⟨hhead, htail⟩ := List.cons.inj h
      simp only [outlineFrom, hhead, ih htail]

/-- The outline of a text does not depend on the blanks around its lines. -/
theorem outline_congr {t s : Text}
    (h : (Text.lines t).map Text.trim = (Text.lines s).map Text.trim) :
    outline t = outline s :=
  outlineFrom_congr h 0

lemma outline_render (width : Int) (t : Text) : outline (render width t) = outline t :=
  outline_congr (map_trim_lines_render width t)

/-- Only the last layout of a text is seen. -/
lemma render_render (width before : Int) (t : Text) :
    render width (render before t) = render width t := by
  rw [render, outline_render, render]

/-- A text that has been laid out can be laid out again, and stays as it is. -/
theorem format_of_format [Platform] {width : Int} {t s : Text} (h : format width t = .ok s) :
    format width s = .ok s := by
  obtain ⟨hfault, rfl⟩ := format_eq_ok_iff.1 h
  refine format_eq_ok_iff.2 ⟨?_, render_render width width t⟩
  rw [fault?, outline_render]
  exact hfault

lemma faultFrom?_eq_none_iff [Platform] (hmemory : ∀ lengths, Platform.holds lengths = true)
    {width : Int} (held : List Nat) (ls : List Line) :
    faultFrom? width held ls = none ↔ ∀ l ∈ ls, l.isCountable width = true := by
  induction ls generalizing held with
  | nil => simp [faultFrom?, hmemory]
  | cons l ls ih =>
    rw [faultFrom?, hmemory, List.forall_mem_cons]
    cases hl : l.isCountable width with
    | false => simp
    | true => simpa using ih _

/-- Where memory holds whatever it is given, a text can be laid out if and only if the spaces in
front of each of its lines can be counted. -/
theorem exists_format_iff [Platform] (hmemory : ∀ lengths, Platform.holds lengths = true)
    {width : Int} {t : Text} :
    (∃ s, format width t = .ok s) ↔ ∀ l ∈ outline t, l.isCountable width = true := by
  rw [← faultFrom?_eq_none_iff hmemory [], ← fault?]
  constructor
  · intro h
    obtain ⟨s, hs⟩ := h
    exact (format_eq_ok_iff.1 hs).1
  · intro h
    exact ⟨render width t, format_eq_ok_iff.2 ⟨h, rfl⟩⟩

end Mermaid.Layout
