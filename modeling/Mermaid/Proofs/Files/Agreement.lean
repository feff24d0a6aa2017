import Mermaid.Proofs.Files.Relaying

/-!
# Checking files and laying them out agree

Files that are only checked stay as they are, and the names of those that are not laid out are
given. Laying out the same names changes exactly the files of these names. Names may come twice, and
several names may lead to the same file: the later ones find what the first one left.

* `Reformat.files_checked` says what a check gives;
* `Reformat.files_laid_out` says which files are laid out, by `FileTree.Rewrites`;
* `Reformat.files_agree` is the main statement.
-/

namespace Mermaid.Reformat

section

variable [Platform] {check : Bool} {width : Option Int} {t t' : FileTree} {name : String}
  {names : List String}

/-! ## Checking -/

/-- A check leaves the files alone and gives the names of those that are not laid out. -/
lemma files_checked (hcan : ∀ name ∈ names, CanDo true width t name) :
    (files true width t names).files = t ∧
      (files true width t names).pending = names.filter (isPending width t) ∧
      (files true width t names).status =
        if names.any (isUnreadable t) then 2
        else if names.any (isPending width t) then 1 else 0 := by
  induction names with
  | nil => exact ⟨rfl, rfl, rfl⟩
  | cons name names ih =>
    obtain ⟨hname, hnames⟩ := List.forall_mem_cons.1 hcan
    obtain ⟨hfiles, hpending, hstatus⟩ := ih hnames
    obtain ⟨finding, t', hdone⟩ := refusal?_eq_none_iff_exists.1 (refusal?_eq_none_iff.2 hname)
    obtain rfl := eq_of_doFile_true hdone
    have hfound := found width hname.legible
    rw [(doFile_eq_ok_iff.1 hdone).1] at hfound
    rw [files_cons_of_ok hdone]
    cases hfound with
    | unreadable f hread =>
      refine ⟨hfiles, ?_, ?_⟩
      · rw [List.filter_cons_of_neg (by simp [isPending_of_error width hread])]
        exact hpending
      · simp [Finding.report, isUnreadable_of_error hname.legible hread]
    | laidOut content hread hmissing _ =>
      have hpended : isPending width t' name = false := by rw [isPending_of_ok hread, hmissing]; rfl
      refine ⟨hfiles, ?_, ?_⟩
      · rw [List.filter_cons_of_neg (by simp [hpended])]
        exact hpending
      · simpa [Finding.report, isUnreadable_of_ok hread, hpended] using hstatus
    | differs content layout hread hmissing _ =>
      have hdiffers : isPending width t' name = true := by rw [isPending_of_ok hread, hmissing]; rfl
      rw [Finding.report, if_pos rfl]
      refine ⟨hfiles, ?_, ?_⟩
      · rw [List.filter_cons_of_pos hdiffers]
        exact congrArg (name :: ·) hpending
      · simp only [hstatus, List.any_cons, isUnreadable_of_ok hread, hdiffers, Bool.false_or,
          Bool.true_or, if_true]
        split
        · rfl
        · split <;> rfl

/-! ## Laying out -/

/-- Whether a file at a place has one of some names. -/
def isNamed (t : FileTree) (names : List String) (location : List String) : Bool :=
  names.any fun name => place? t name = some location

/-- Laying out a first file and then others lays out all of them. -/
lemma rewrites_cons {t'' : FileTree}
    (hfirst : t.Rewrites t' (relaid width fun location => place? t name = some location))
    (hrest : t'.Rewrites t'' (relaid width (isNamed t' names))) :
    t.Rewrites t'' (relaid width (isNamed t (name :: names))) := by
  refine (hfirst.trans hrest).congr fun location content _ _ _ => ?_
  -- a name leads to the same place in both trees
  have hplaces : isNamed t' names = isNamed t names := by
    funext l
    simp only [isNamed, place?_relaid hfirst]
  rw [relaid_relaid, hplaces]
  rfl

/-- Laying files out gives no names, and lays out exactly the files with these names. -/
lemma files_laid_out (hcan : ∀ name ∈ names, CanDo false width t name) :
    t.Rewrites (files false width t names).files (relaid width (isNamed t names)) ∧
      (files false width t names).pending = [] ∧
      (files false width t names).status = if names.any (isUnreadable t) then 2 else 0 := by
  induction names generalizing t with
  | nil => exact ⟨FileTree.Rewrites.refl t, rfl, rfl⟩
  | cons name names ih =>
    obtain ⟨hname, hnames⟩ := List.forall_mem_cons.1 hcan
    obtain ⟨finding, t', hdone⟩ := refusal?_eq_none_iff_exists.1 (refusal?_eq_none_iff.2 hname)
    -- the other files are laid out in the tree that the first one has been written to
    have hfirst := rewrites_doFile hdone
    obtain ⟨hfiles, hpending, hstatus⟩ := ih fun n hn => by
      rw [← refusal?_eq_none_iff, refusal?_doFile hdone, refusal?_eq_none_iff]
      exact hnames n hn
    have hunreadable : isUnreadable t' = isUnreadable t := funext (isUnreadable_relaid hfirst)
    rw [hunreadable] at hstatus
    have hfound := found width hname.legible
    rw [(doFile_eq_ok_iff.1 hdone).1] at hfound
    rw [files_cons_of_ok hdone]
    cases hfound with
    | unreadable f hread =>
      exact ⟨rewrites_cons hfirst hfiles, hpending,
        by simp [Finding.report, isUnreadable_of_error hname.legible hread]⟩
    | laidOut content hread hmissing _ =>
      exact ⟨rewrites_cons hfirst hfiles, hpending,
        by simpa [Finding.report, isUnreadable_of_ok hread] using hstatus⟩
    | differs content layout hread hmissing _ =>
      exact ⟨rewrites_cons hfirst hfiles, hpending,
        by simpa [Finding.report, isUnreadable_of_ok hread] using hstatus⟩

/-- Nothing is written where no file is pending. -/
lemma files_of_not_pending (hcan : ∀ name ∈ names, CanDo false width t name)
    (hnone : ∀ name ∈ names, isPending width t name = false) :
    (files false width t names).files = t := by
  induction names with
  | nil => rfl
  | cons name names ih =>
    obtain ⟨hname, hnames⟩ := List.forall_mem_cons.1 hcan
    obtain ⟨hdone, hdones⟩ := List.forall_mem_cons.1 hnone
    have hrest := ih hnames hdones
    obtain ⟨finding, t', hfile⟩ := refusal?_eq_none_iff_exists.1 (refusal?_eq_none_iff.2 hname)
    obtain ⟨hfinding, hcarried⟩ := doFile_eq_ok_iff.1 hfile
    have hfound := found width hname.legible
    rw [hfinding] at hfound
    rw [files_cons_of_ok hfile]
    cases hfound with
    | unreadable f hread =>
      obtain rfl : t = t' := Except.ok.inj hcarried
      exact hrest
    | laidOut content hread hmissing _ =>
      obtain rfl : t = t' := Except.ok.inj hcarried
      exact hrest
    | differs content layout hread hmissing _ =>
      rw [isPending_of_ok hread, hmissing] at hdone
      cases hdone

/-- The work is done to its end exactly if all files can be done. -/
lemma refusal_files_eq_none_iff : (files check width t names).refusal = none ↔
    ∀ name ∈ names, CanDo check width t name := by
  rw [refusal_files, List.findSome?_eq_none_iff]
  simp only [refusal?_eq_none_iff]

/-! ## Agreement -/

/-- Whether checking some files and laying them out agree. -/
structure Agrees (width : Option Int) (t : FileTree) (names : List String) : Prop where
  /-- Both runs get to their end. -/
  ends : ∀ check, (files check width t names).refusal = none
  /-- A check only gives the names of the files that are not laid out, in order. -/
  checked : (files true width t names).files = t ∧
    (files true width t names).pending = names.filter (isPending width t)
  checkedStatus : (files true width t names).status =
    if names.any (isUnreadable t) then 2 else if names.any (isPending width t) then 1 else 0
  /-- Exactly the files that a check names are laid out. -/
  laidOut : t.Rewrites (files false width t names).files
    (relaid width (isNamed t (files true width t names).pending))
  status : (files false width t names).status = if names.any (isUnreadable t) then 2 else 0
  /-- A file is pending if its text is not its layout, and holds that layout afterwards. -/
  contents : ∀ name ∈ names, ∀ content text, t.read (.ofString name) = .ok content →
    textOf content = .ok text → ∃ layout, layoutOf width text = .ok layout ∧
      (isPending width t name = true ↔ layout ≠ text) ∧
      (files false width t names).files.read (.ofString name) =
        .ok (if layout = text then content else Utf8.encode layout)
  /-- Afterwards a check names nothing. -/
  rechecked : (files true width (files false width t names).files names).refusal = none ∧
    (files true width (files false width t names).files names).pending = [] ∧
    (files true width (files false width t names).files names).status =
      if names.any (isUnreadable t) then 2 else 0
  /-- Nor is anything left to lay out. -/
  repeated : (files false width (files false width t names).files names).refusal = none ∧
    (files false width (files false width t names).files names).files =
      (files false width t names).files

/-- Only the files that are pending are laid out. -/
lemma rewrites_pending (h : t.Rewrites t' (relaid width (isNamed t names))) :
    t.Rewrites t' (relaid width (isNamed t (names.filter (isPending width t)))) := by
  refine h.congr fun location content mode hcontent _ => ?_
  by_cases hmissing : missing? width content = none
  · have hsame : laidOut width content = content := by rw [laidOut, hmissing]; rfl
    simp only [relaid, hsame, ite_self]
  · -- the names of a file that lacks its layout are all pending
    have hnamed : isNamed t (names.filter (isPending width t)) location =
        isNamed t names location := by
      rw [isNamed, isNamed, List.any_filter]
      refine List.any_congr rfl fun name => ?_
      by_cases hplace : place? t name = some location
      · rw [isPending_of_ok (read_of_place? hplace hcontent),
          Option.isSome_iff_ne_none.2 hmissing, Bool.true_and]
      · simp [hplace]
    rw [relaid, relaid, hnamed]

/-- What is read from a file after it has been laid out. -/
lemma read_laid_out (h : t.Rewrites t' (relaid width (isNamed t names))) (hname : name ∈ names)
    (hkeeps : HasMode FileMode.keeps t name) {content : Bytes}
    (hread : t.read (.ofString name) = .ok content) :
    t'.read (.ofString name) = .ok (laidOut width content) := by
  rcases read_cases h name with
    ⟨f, hread', -⟩ | ⟨location, held, mode, hfind, hreadable, hheld, hread'⟩
  · cases hread.symm.trans hread'
  · obtain rfl := Except.ok.inj (hread.symm.trans hheld)
    have hnamed : isNamed t names location = true := List.any_eq_true.2
      ⟨name, hname, decide_eq_true (place?_eq_some_iff.2 ⟨content, mode, hfind, hreadable⟩)⟩
    rw [hread', (hasMode_iff_of_find hfind).1 hkeeps, hnamed]
    rfl

/-- **Checking files and laying them out agree.** Let every name be one that the system and the
output can take, and lead to a file in UTF-8 that keeps what is written to it, or to none that can
be opened. If the texts of these files can be laid out, both runs get to their end. The check gives
exactly the names of the files that are not laid out, laying out changes exactly these files, and
leaves nothing to check or to lay out. -/
theorem files_agree (width : Option Int) (t : FileTree) (names : List String)
    (hlegible : ∀ name ∈ names, IsLegible t name) (hprintable : ∀ name ∈ names, IsPrintable name)
    (hkeeps : ∀ name ∈ names, HasMode FileMode.keeps t name)
    (hlayable : ∀ name ∈ names, CanLayOut width t name) : Agrees width t names := by
  have hwritable : ∀ {t' : FileTree} {name}, HasMode FileMode.keeps t' name →
      HasMode FileMode.writable t' name := fun h location content mode hfind =>
    (Bool.and_eq_true_iff.1 (h location content mode hfind)).1
  have hcan : ∀ check, ∀ name ∈ names, CanDo check width t name := by
    intro check name hname
    refine ⟨hlegible name hname, hlayable name hname, fun _ => ?_⟩
    cases check with
    | true => exact hprintable name hname
    | false => exact hwritable (hkeeps name hname)
  obtain ⟨hkept, hpending, hcheckedStatus⟩ := files_checked (hcan true)
  obtain ⟨hfiles, -, hstatus⟩ := files_laid_out (hcan false)
  -- all of this can be said of the files afterwards too, but none of them is pending
  set after := (files false width t names).files
  have hcan' : ∀ check, ∀ name ∈ names, CanDo check width after name := by
    intro check name hname
    refine ⟨isLegible_relaid hfiles (hlegible name hname),
      (canLayOut_relaid_iff hfiles).2 (hlayable name hname), fun _ => ?_⟩
    cases check with
    | true => exact hprintable name hname
    | false => exact hwritable ((hasMode_relaid_iff hfiles).2 (hkeeps name hname))
  have hnone : ∀ name ∈ names, isPending width after name = false := by
    intro name hname
    refine isPending_relaid hfiles (hkeeps name hname) fun location hplace => ?_
    exact List.any_eq_true.2 ⟨name, hname, decide_eq_true hplace⟩
  obtain ⟨-, hpending', hstatus'⟩ := files_checked (hcan' true)
  refine {
    ends := fun check => refusal_files_eq_none_iff.2 (hcan check)
    checked := ⟨hkept, hpending⟩
    checkedStatus := hcheckedStatus
    laidOut := by
      rw [hpending]
      exact rewrites_pending hfiles
    status := hstatus
    contents := ?_
    rechecked := ⟨refusal_files_eq_none_iff.2 (hcan' true), ?_, ?_⟩
    repeated := ⟨refusal_files_eq_none_iff.2 (hcan' false),
      files_of_not_pending (hcan' false) hnone⟩ }
  · intro name hname content text hread htext
    obtain ⟨layout, hlayout⟩ := hlayable name hname content hread text htext
    have hmissing := missing?_of_layoutOf htext hlayout
    refine ⟨layout, hlayout, ?_, ?_⟩
    · rw [isPending_of_ok hread, hmissing]
      simp
    · rw [read_laid_out hfiles hname (hkeeps name hname) hread, Reformat.laidOut, hmissing]
      by_cases hsame : layout = text
      · simp [hsame]
      · simp [hsame]
  · rw [hpending', List.filter_eq_nil_iff]
    intro name hname
    simp [hnone name hname]
  · have hunreadable : isUnreadable after = isUnreadable t := by
      funext name
      exact isUnreadable_relaid hfiles name
    have hany : names.any (isPending width after) = false := by
      rw [List.any_eq_false]
      intro name hname
      simp [hnone name hname]
    rw [hstatus', hunreadable, hany]
    rfl

end

section Usual

open Platform.Usual

/-- A file that comes twice under different names, next to one that is laid out in spite of its
carriage return, and to a name that leads nowhere. -/
theorem files_agree_twice :
    ∃ t : FileTree, t.read (.ofString "b.mmd") = .ok (Utf8.encode "graph TD\r\n    B".toList) ∧
      Agrees (some 4) t ["a.mmd", "gone.mmd", "./a.mmd", "b.mmd"] ∧
      (files true (some 4) t ["a.mmd", "gone.mmd", "./a.mmd", "b.mmd"]).pending =
        ["a.mmd", "./a.mmd"] ∧
      (files true (some 4) t ["a.mmd", "gone.mmd", "./a.mmd", "b.mmd"]).status = 2 := by
  set t : FileTree :=
    { home := ["w"]
      entries := [(["a.mmd"], .file (Utf8.encode "graph TD\nA".toList)),
        (["b.mmd"], .file (Utf8.encode "graph TD\r\n    B".toList))] }
  have hlegible : ∀ name ∈ ["a.mmd", "gone.mmd", "./a.mmd", "b.mmd"], IsLegible t name := by
    decide +kernel
  have hkeeps : ∀ name ∈ ["a.mmd", "gone.mmd", "./a.mmd", "b.mmd"],
      HasMode FileMode.keeps t name := by decide +kernel
  have hlayable : ∀ name ∈ ["a.mmd", "gone.mmd", "./a.mmd", "b.mmd"],
      CanLayOut (some 4) t name := by
    have hends :
        (files true (some 4) t ["a.mmd", "gone.mmd", "./a.mmd", "b.mmd"]).refusal = none := by
      decide +kernel
    exact fun name hname => (refusal_files_eq_none_iff.1 hends name hname).layable
  have hagrees := files_agree (some 4) t _ hlegible (fun _ _ => rfl) hkeeps hlayable
  exact ⟨t, by decide +kernel, hagrees, by decide +kernel, by decide +kernel⟩

/-- A width whose spaces cannot be counted ends a check. -/
theorem not_forall_files_end :
    ¬∀ (width : Int) (t : FileTree) (names : List String), (∀ name ∈ names, IsLegible t name) →
      (∀ name ∈ names, IsPrintable name) → (∀ name ∈ names, HasMode FileMode.keeps t name) →
      (files true (some width) t names).refusal = none := by
  intro h
  set t : FileTree :=
    { home := ["w"], entries := [(["a.mmd"], .file (Utf8.encode "graph TD\n    A".toList))] }
  have hnone := h (-Layout.wordLimit - 1) t ["a.mmd"] (by decide +kernel) (fun _ _ => rfl)
    (by decide +kernel)
  have hsome : (files true (some (-Layout.wordLimit - 1)) t ["a.mmd"]).refusal.isSome = true := by
    decide +kernel
  exact Option.isSome_iff_ne_none.1 hsome hnone

end Usual

end Mermaid.Reformat
