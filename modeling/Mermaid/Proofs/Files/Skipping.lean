import Mermaid.Proofs.Files.Agreement

/-!
# Files that are skipped, and files that end the work

A name that leads to no file is reported, and the others are done as if it were not among them. A
file is not skipped when its name cannot be looked up, it is not UTF-8, its text cannot be laid out,
or what it lacks can neither be printed nor written: the files before it are done, those after it
are not looked at, and no exit code is given.

* `Report.SameWork` compares runs that skip different files;
* `Reformat.files_skip` is the main statement.
-/

namespace Mermaid.Reformat

section

variable [Platform] {check : Bool} {width : Option Int} {t t' : FileTree} {name : String}
  {names : List String}

/-! ## Files that are skipped -/

/-- Whether a run comes to the same as another one, but for its exit code and what it says about
files that cannot be opened. -/
structure Report.SameWork (r s : Report) : Prop where
  files : r.files = s.files
  pending : r.pending = s.pending
  refusal : r.refusal = s.refusal
  log : r.log.filter (fun entry => entry.1 ≠ .error) = s.log

omit [Platform] in
/-- A file that can be opened comes to the same in both runs. -/
lemma Report.SameWork.report {r s : Report} (h : r.SameWork s) (check : Bool) (name : String)
    {finding : Finding} (hopened : ∀ f, finding ≠ .unreadable f) :
    (finding.report check name r).SameWork (finding.report check name s) := by
  cases finding with
  | laidOut => exact h
  | unreadable f => exact absurd rfl (hopened f)
  | differs layout =>
    rw [Finding.report, Finding.report]
    split
    · exact ⟨h.files, congrArg (name :: ·) h.pending, h.refusal, h.log⟩
    · refine ⟨h.files, h.pending, h.refusal, ?_⟩
      rw [List.filter_cons_of_pos (by simp), h.log]

lemma doFile_of_isUnreadable (h : isUnreadable t name = true) :
    ∃ f, doFile check width t name = .ok (.unreadable f, t) := by
  rw [isUnreadable, Bool.and_eq_true, Bool.and_eq_true, Option.isNone_iff_eq_none] at h
  obtain ⟨⟨hencodable, hnull⟩, hread⟩ := h
  cases hread' : t.read (.ofString name) with
  | ok content =>
    rw [hread'] at hread
    cases hread
  | error f =>
    have hnull' : ¬name.toList.contains '\x00' = true := by simpa using hnull
    refine ⟨f, doFile_eq_ok_iff.2 ⟨?_, rfl⟩⟩
    rw [Finding.ofFile, hencodable]
    dsimp only
    rw [if_neg hnull', hread']

lemma isUnreadable_of_ofFile {f : FileFault}
    (h : Finding.ofFile width t name = .ok (.unreadable f)) : isUnreadable t name = true := by
  have hlegible := isLegible_of_ofFile h
  have hfound := found width hlegible
  rw [h] at hfound
  cases hfound with
  | unreadable f hread => exact isUnreadable_of_error hlegible hread

/-- A run comes to the same without the files that cannot be opened. -/
lemma sameWork_filter (check : Bool) (width : Option Int) (t : FileTree) (names : List String) :
    (files check width t names).SameWork
      (files check width t (names.filter fun name => !isUnreadable t name)) := by
  induction names generalizing t with
  | nil => exact ⟨rfl, rfl, rfl, rfl⟩
  | cons name names ih =>
    cases hunreadable : isUnreadable t name with
    | true =>
      have hrest := ih t
      obtain ⟨f, hdone⟩ := doFile_of_isUnreadable hunreadable
      rw [List.filter_cons_of_neg (by simp [hunreadable]), files_cons_of_ok hdone]
      exact ⟨hrest.files, hrest.pending, hrest.refusal, hrest.log⟩
    | false =>
      rw [List.filter_cons_of_pos (by simp [hunreadable])]
      cases hdone : doFile check width t name with
      | error r =>
        rw [files_cons_of_error hdone, files_cons_of_error hdone]
        exact ⟨rfl, rfl, rfl, rfl⟩
      | ok done =>
        obtain ⟨finding, t'⟩ := done
        -- the same files can be opened afterwards
        obtain ⟨places, hwrite⟩ := exists_rewrites hdone
        have hrest := ih t'
        rw [funext (isUnreadable_relaid hwrite)] at hrest
        rw [files_cons_of_ok hdone, files_cons_of_ok hdone]
        refine hrest.report check name fun f hf => ?_
        rw [hf] at hdone
        rw [isUnreadable_of_ofFile (doFile_eq_ok_iff.1 hdone).1] at hunreadable
        cases hunreadable

/-- The exit code of a run that gets to its end. -/
lemma status_files (hcan : ∀ name ∈ names, CanDo check width t name) :
    (files check width t names).status =
      if names.any (isUnreadable t) then 2
      else if check && names.any (isPending width t) then 1 else 0 := by
  cases check with
  | true => exact (files_checked hcan).2.2
  | false => exact (files_laid_out hcan).2.2

/-! ## The whole run -/

/-- **Skipped files.** The work gets to its end if and only if all files can be done. Files that
cannot be opened then make the exit code 2, and the others are done as if these were not among them.
Otherwise the work ends at the first file at which it cannot go on, when those before it are
done. -/
theorem files_skip (check : Bool) (width : Option Int) (t : FileTree) (names : List String) :
    ((files check width t names).refusal = none ↔ ∀ name ∈ names, CanDo check width t name) ∧
      ((files check width t names).refusal = none → (files check width t names).status =
        if names.any (isUnreadable t) then 2
        else if check && names.any (isPending width t) then 1 else 0) ∧
      (files check width t names).SameWork
        (files check width t (names.filter fun name => !isUnreadable t name)) ∧
      ∀ r, (files check width t names).refusal = some r →
        ∃ before name after, names = before ++ name :: after ∧
          doFile check width t name = .error r ∧ (∀ n ∈ before, CanDo check width t n) ∧
          files check width t names = { files check width t before with refusal := some r } := by
  refine ⟨refusal_files_eq_none_iff, ?_, sameWork_filter check width t names, ?_⟩
  · intro hnone
    exact status_files (refusal_files_eq_none_iff.1 hnone)
  · intro r hr
    rw [refusal_files, List.findSome?_eq_some_iff] at hr
    obtain ⟨before, name, after, rfl, hname, hbefore⟩ := hr
    exact ⟨before, name, after, rfl, refusal?_eq_some_iff.1 hname,
      fun n hn => refusal?_eq_none_iff.1 (hbefore n hn),
      files_append_of_refusal hbefore hname after⟩

end

section Usual

open Platform.Usual

/-- A name that leads nowhere is skipped, and the files before one that is not UTF-8 are done. -/
theorem files_skip_malformed :
    ∃ t : FileTree, (files false (some 4) t ["gone.mmd", "a.mmd"]).status = 2 ∧
      (files false (some 4) t ["gone.mmd", "a.mmd", "bad.mmd", "b.mmd"]).files.read
        (.ofString "a.mmd") = .ok (Utf8.encode "graph TD\n    A".toList) ∧
      (files false (some 4) t ["gone.mmd", "a.mmd", "bad.mmd", "b.mmd"]).SameWork
        (files false (some 4) t ["a.mmd", "bad.mmd", "b.mmd"]) := by
  set t : FileTree :=
    { home := ["w"]
      entries := [(["a.mmd"], .file (Utf8.encode "graph TD\nA".toList)),
        (["bad.mmd"], .file [0xff]),
        (["b.mmd"], .file (Utf8.encode "graph TD\nB".toList))] }
  obtain ⟨-, hstatus, -⟩ := files_skip false (some 4) t ["gone.mmd", "a.mmd"]
  obtain ⟨-, -, hsame, -⟩ := files_skip false (some 4) t ["gone.mmd", "a.mmd", "bad.mmd", "b.mmd"]
  refine ⟨t, ?_, by decide +kernel, hsame⟩
  rw [hstatus (by decide +kernel)]
  decide +kernel

/-- A file that is not UTF-8 ends the work. -/
theorem not_forall_files_skip :
    ¬∀ (t : FileTree) (names : List String), (∀ name ∈ names, '\x00' ∉ name.toList) →
      (files false (some 4) t names).refusal = none := by
  intro h
  set t : FileTree :=
    { home := ["w"]
      entries := [(["bad.mmd"], .file [0xff]),
        (["a.mmd"], .file (Utf8.encode "graph TD\nA".toList))] }
  have hnone := h t ["bad.mmd", "a.mmd"] (by decide)
  have hsome : (files false (some 4) t ["bad.mmd", "a.mmd"]).refusal.isSome = true := by
    decide +kernel
  exact Option.isSome_iff_ne_none.1 hsome hnone

end Usual

end Mermaid.Reformat
