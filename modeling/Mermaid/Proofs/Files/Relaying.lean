import Mermaid.Proofs.Files.Findings

/-!
# One file after the other

What is done about a file changes the content of that file at most, and lays it out. So whether the
work ends at a later file, and why, does not depend on the files before it.

* `Reformat.relaid` is the content of the files after some of them have been laid out;
* `Reformat.rewrites_doFile` says that a file that is done is laid out, and no other one;
* `Reformat.files_cons_of_ok` does one file and then the others;
* `Reformat.refusal?` says why a file ends the work, and `Reformat.refusal_files` that the first one
  does for which there is a reason.
-/

namespace Mermaid.Reformat

variable [Platform] {check : Bool} {width : Option Int} {t t' : FileTree} {name : String}
  {names : List String}

/-! ## Files that have been laid out -/

/-- The place of what has been found, if it is a file that may be read. -/
def placeOf : Except FileFault (List String × FileNode) → Option (List String)
  | .ok (location, .file _ mode) => if mode.readable then some location else none
  | .ok (_, .directory _) => none
  | .error _ => none

/-- The place of the file with a name. -/
def place? (t : FileTree) (name : String) : Option (List String) :=
  placeOf (t.find (.ofString name))

omit [Platform] in
lemma place?_eq_some_iff {location : List String} : place? t name = some location ↔
    ∃ content mode, t.find (.ofString name) = .ok (location, .file content mode) ∧
      mode.readable = true := by
  unfold place? placeOf
  split
  · next held content mode hfind =>
    rw [hfind]
    split
    · next hreadable =>
      simp only [Option.some.injEq, Except.ok.injEq, Prod.mk.injEq, FileNode.file.injEq]
      constructor
      · rintro rfl
        exact ⟨content, mode, ⟨rfl, rfl, rfl⟩, hreadable⟩
      · rintro ⟨_, _, ⟨rfl, -, -⟩, -⟩
        rfl
    · next hdenied =>
      refine iff_of_false nofun ?_
      rintro ⟨_, _, hfile, hreadable⟩
      obtain ⟨-, rfl⟩ := FileNode.file.inj (Prod.mk.inj (Except.ok.inj hfile)).2
      exact hdenied hreadable
  · next hfind => exact iff_of_false nofun fun ⟨_, _, h, _⟩ => nomatch hfind.symm.trans h
  · next hfind => exact iff_of_false nofun fun ⟨_, _, h, _⟩ => nomatch hfind.symm.trans h

omit [Platform] in
/-- A place that a name leads to holds what is read by that name. -/
lemma read_of_place? {location : List String} (hplace : place? t name = some location)
    {content : Bytes} {mode : FileMode} (hnode : t.nodeAt? location = some (.file content mode)) :
    t.read (.ofString name) = .ok content := by
  obtain ⟨held, mode', hfind, hreadable⟩ := place?_eq_some_iff.1 hplace
  obtain ⟨rfl, -⟩ :=
    FileNode.file.inj (Option.some.inj ((FileTree.nodeAt?_of_find hfind).symm.trans hnode))
  rw [FileTree.read_of_find hfind, if_pos hreadable]

/-- The content of a file after the files at some places have been laid out. -/
def relaid (width : Option Int) (places : List String → Bool) (location : List String)
    (content : Bytes) : Bytes :=
  if places location then laidOut width content else content

lemma relaid_relaid (places later : List String → Bool) (location : List String) (content : Bytes) :
    relaid width later location (relaid width places location content) =
      relaid width (fun l => places l || later l) location content := by
  have hagain : laidOut width (laidOut width content) = laidOut width content := by
    rw [laidOut, missing?_laidOut]
    rfl
  unfold relaid
  by_cases hfirst : places location = true
  · by_cases hlater : later location = true
    · simp [hfirst, hlater, hagain]
    · simp [hfirst, hlater]
  · simp [hfirst]

section Relaid

variable {places : List String → Bool} (h : t.Rewrites t' (relaid width places))

include h

/-- A name leads to the same file as before, which may have been laid out. -/
lemma read_cases (name : String) :
    (∃ f, t.read (.ofString name) = .error f ∧ t'.read (.ofString name) = .error f) ∨
      ∃ location content mode, t.find (.ofString name) = .ok (location, .file content mode) ∧
        mode.readable = true ∧ t.read (.ofString name) = .ok content ∧
        t'.read (.ofString name) =
          .ok (if mode.keeps && places location then laidOut width content else content) := by
  cases hread : t.read (.ofString name) with
  | error f => exact .inl ⟨f, rfl, h.read_error hread⟩
  | ok content =>
    obtain ⟨location, mode, hfind, hreadable⟩ := FileTree.read_eq_ok_iff.1 hread
    have hfind' := h.find_file hfind
    refine .inr ⟨location, content, mode, hfind, hreadable, rfl, ?_⟩
    rw [FileTree.read_of_find hfind', if_pos hreadable, relaid]
    cases mode.keeps <;> rfl

lemma place?_relaid (name : String) : place? t' name = place? t name := by
  rw [place?, place?, h.find]
  cases t.find (.ofString name) with
  | error f => rfl
  | ok e =>
    obtain ⟨location, node⟩ := e
    cases node <;> rfl

lemma isUnreadable_relaid (name : String) : isUnreadable t' name = isUnreadable t name := by
  rw [isUnreadable, isUnreadable]
  rcases read_cases h name with ⟨f, hread, hread'⟩ | ⟨_, content, mode, -, -, hread, hread'⟩
  · rw [hread, hread']
  · rw [hread, hread']
    rfl

lemma isLegible_relaid (hlegible : IsLegible t name) : IsLegible t' name := by
  refine ⟨hlegible.encodable, hlegible.noNull, fun content' hcontent' => ?_⟩
  rcases read_cases h name with ⟨f, -, hread'⟩ | ⟨_, content, mode, -, -, hread, hread'⟩
  · cases hread'.symm.trans hcontent'
  · obtain rfl := Except.ok.inj (hread'.symm.trans hcontent')
    have hdecodes := hlegible.decodes content hread
    split
    · exact exists_decode_laidOut hdecodes
    · exact hdecodes

lemma canLayOut_relaid_iff : CanLayOut width t' name ↔ CanLayOut width t name := by
  unfold CanLayOut
  rcases read_cases h name with ⟨f, hread, hread'⟩ | ⟨_, content, mode, -, -, hread, hread'⟩
  · simp [hread, hread']
  · simp only [hread, hread', Except.ok.injEq, forall_eq']
    split
    · exact isLayable_laidOut_iff
    · rfl

lemma hasMode_relaid_iff {p : FileMode → Bool} : HasMode p t' name ↔ HasMode p t name := by
  cases hfind : t.find (.ofString name) with
  | error f =>
    have hfind' : t'.find (.ofString name) = .error f := by rw [h.find, hfind]; rfl
    exact iff_of_true (by simp [HasMode, hfind']) (by simp [HasMode, hfind])
  | ok e =>
    obtain ⟨location, node⟩ := e
    cases node with
    | file content mode =>
      rw [hasMode_iff_of_find hfind, hasMode_iff_of_find (h.find_file hfind)]
    | directory searchable =>
      have hfind' : t'.find (.ofString name) = .ok (location, .directory searchable) := by
        rw [h.find, hfind]
        rfl
      exact iff_of_true (by simp [HasMode, hfind']) (by simp [HasMode, hfind])

/-- A file that has been laid out is not pending any more. -/
lemma isPending_relaid (hkeeps : HasMode FileMode.keeps t name)
    (hplaces : ∀ location, place? t name = some location → places location = true) :
    isPending width t' name = false := by
  rcases read_cases h name with
    ⟨f, -, hread'⟩ | ⟨location, content, mode, hfind, hreadable, -, hread'⟩
  · exact isPending_of_error width hread'
  · have hplace := place?_eq_some_iff.2 ⟨content, mode, hfind, hreadable⟩
    rw [isPending_of_ok hread', hplaces location hplace,
      (hasMode_iff_of_find hfind).1 hkeeps, Bool.true_and, if_pos rfl, missing?_laidOut]
    rfl

end Relaid

/-- A file that lacks nothing is laid out already. -/
lemma rewrites_of_not_pending (hname : isPending width t name = false) :
    t.Rewrites t (relaid width fun location => place? t name = some location) := by
  refine (FileTree.Rewrites.refl t).congr fun l content mode hcontent _ => ?_
  rw [relaid]
  split
  · next hplace =>
    rw [isPending_of_ok (read_of_place? (of_decide_eq_true hplace) hcontent)] at hname
    have hnone : missing? width content = none := by simpa using hname
    rw [laidOut, hnone]
    rfl
  · rfl

/-- Writing a layout that is missing lays the file out. -/
lemma rewrites_differs {content : Bytes} {layout : Text}
    (hread : t.read (.ofString name) = .ok content)
    (hmissing : missing? width content = some layout)
    (hwrite : t.write (.ofString name) (Utf8.encode layout) = .ok t') :
    t.Rewrites t' (relaid width fun location => place? t name = some location) := by
  obtain ⟨location, mode, hfind, hreadable⟩ := FileTree.read_eq_ok_iff.1 hread
  refine (FileTree.rewrites_write hfind hwrite).congr fun l held mode' hheld _ => ?_
  rw [relaid, place?_eq_some_iff.2 ⟨content, mode, hfind, hreadable⟩]
  by_cases hl : l = location
  · subst hl
    obtain ⟨rfl, -⟩ :=
      FileNode.file.inj (Option.some.inj ((FileTree.nodeAt?_of_find hfind).symm.trans hheld))
    simp [laidOut, hmissing]
  · simp [hl, Ne.symm hl]

/-! ## One file -/

variable {finding : Finding}

lemma doFile_of_error {r : Refusal} (h : Finding.ofFile width t name = .error r) :
    doFile check width t name = .error r := by
  rw [doFile, h]
  rfl

lemma doFile_of_ok (h : Finding.ofFile width t name = .ok finding) :
    doFile check width t name = (finding.carryOut check t name).map fun t' => (finding, t') := by
  rw [doFile, h]
  rfl

lemma doFile_eq_ok_iff : doFile check width t name = .ok (finding, t') ↔
    Finding.ofFile width t name = .ok finding ∧ finding.carryOut check t name = .ok t' := by
  cases hfinding : Finding.ofFile width t name with
  | error r =>
    rw [doFile_of_error hfinding]
    exact iff_of_false nofun fun h => nomatch h.1
  | ok found =>
    rw [doFile_of_ok hfinding, Except.ok.injEq]
    cases hcarried : found.carryOut check t name with
    | error r =>
      refine iff_of_false nofun ?_
      rintro ⟨rfl, h⟩
      cases hcarried.symm.trans h
    | ok after =>
      rw [Except.map, Except.ok.injEq, Prod.mk.injEq]
      refine and_congr_right fun hfound => ?_
      rw [← hfound, hcarried, Except.ok.injEq]

/-- A file that does not end the work is done, and then the others are. -/
lemma files_cons_of_ok (h : doFile check width t name = .ok (finding, t')) :
    files check width t (name :: names) =
      finding.report check name (files check width t' names) := by
  rw [files, h]

/-- A file that ends the work. -/
lemma files_cons_of_error {r : Refusal} (h : doFile check width t name = .error r) :
    files check width t (name :: names) = { files := t, refusal := some r } := by
  rw [files, h]

/-- A check leaves the files alone. -/
lemma eq_of_doFile_true (h : doFile true width t name = .ok (finding, t')) : t' = t := by
  have hcarried := (doFile_eq_ok_iff.1 h).2
  cases finding with
  | laidOut => exact (Except.ok.inj hcarried).symm
  | unreadable f => exact (Except.ok.inj hcarried).symm
  | differs layout =>
    rw [Finding.carryOut, if_pos rfl] at hcarried
    split at hcarried
    · cases hcarried
    · exact (Except.ok.inj hcarried).symm

lemma write_of_carryOut {layout : Text}
    (h : (Finding.differs layout).carryOut false t name = .ok t') :
    t.write (.ofString name) (Utf8.encode layout) = .ok t' := by
  rw [Finding.carryOut, if_neg Bool.false_ne_true] at h
  cases hwrite : t.write (.ofString name) (Utf8.encode layout) with
  | error f =>
    rw [hwrite] at h
    cases h
  | ok after =>
    rw [hwrite] at h
    rw [Except.ok.inj h]

/-- A file that can be done is laid out, and no other one. -/
lemma rewrites_doFile {finding : Finding} (h : doFile false width t name = .ok (finding, t')) :
    t.Rewrites t' (relaid width fun location => place? t name = some location) := by
  obtain ⟨hfinding, hcarried⟩ := doFile_eq_ok_iff.1 h
  have hfound := found width (isLegible_of_ofFile hfinding)
  rw [hfinding] at hfound
  cases hfound with
  | unreadable f hread =>
    obtain rfl : t = t' := Except.ok.inj hcarried
    exact rewrites_of_not_pending (isPending_of_error width hread)
  | laidOut content hread hmissing _ =>
    obtain rfl : t = t' := Except.ok.inj hcarried
    exact rewrites_of_not_pending (by rw [isPending_of_ok hread, hmissing]; rfl)
  | differs content layout hread hmissing _ =>
    exact rewrites_differs hread hmissing (write_of_carryOut hcarried)

/-- What is done about a file lays it out, or nothing. -/
lemma exists_rewrites (h : doFile check width t name = .ok (finding, t')) :
    ∃ places, t.Rewrites t' (relaid width places) := by
  cases check with
  | true =>
    rw [eq_of_doFile_true h]
    exact ⟨fun _ => false, FileTree.Rewrites.refl t⟩
  | false => exact ⟨_, rewrites_doFile h⟩

/-! ## Files that end the work -/

/-- Why a file ends the work, if it does. -/
def refusal? (check : Bool) (width : Option Int) (t : FileTree) (name : String) : Option Refusal :=
  match doFile check width t name with
  | .ok _ => none
  | .error r => some r

lemma refusal?_eq_some_iff {r : Refusal} :
    refusal? check width t name = some r ↔ doFile check width t name = .error r := by
  unfold refusal?
  split
  · next done h => simp [h]
  · next r' h => simp [h]

lemma refusal?_eq_none_iff_exists : refusal? check width t name = none ↔
    ∃ finding t', doFile check width t name = .ok (finding, t') := by
  unfold refusal?
  split
  · next done h => exact iff_of_true rfl ⟨done.1, done.2, h⟩
  · next r h => exact iff_of_false nofun fun ⟨_, _, h'⟩ => nomatch h.symm.trans h'

/-- The work does not end at a file that can be done. -/
lemma refusal?_eq_none_iff : refusal? check width t name = none ↔ CanDo check width t name := by
  rw [refusal?_eq_none_iff_exists]
  constructor
  · rintro ⟨finding, t', h⟩
    obtain ⟨hfinding, hcarried⟩ := doFile_eq_ok_iff.1 h
    have hlegible := isLegible_of_ofFile hfinding
    have hfound := found width hlegible
    rw [hfinding] at hfound
    cases hfound with
    | unreadable f hread =>
      refine ⟨hlegible, fun content hcontent => ?_, fun hpending => ?_⟩
      · cases hread.symm.trans hcontent
      · rw [isPending_of_error width hread] at hpending
        cases hpending
    | laidOut content hread hmissing hcan =>
      refine ⟨hlegible, hcan, fun hpending => ?_⟩
      rw [isPending_of_ok hread, hmissing] at hpending
      cases hpending
    | differs content layout hread hmissing hcan =>
      exact ⟨hlegible, hcan, fun _ => (exists_carryOut_iff check hread).1 ⟨t', hcarried⟩⟩
  · intro h
    have hfound := found width h.legible
    have hdone : ∀ {finding : Finding}, Finding.ofFile width t name = .ok finding →
        (∃ t', finding.carryOut check t name = .ok t') →
        ∃ finding t', doFile check width t name = .ok (finding, t') := by
      rintro finding hfinding ⟨t', hcarried⟩
      exact ⟨finding, t', doFile_eq_ok_iff.2 ⟨hfinding, hcarried⟩⟩
    generalize hofFile : Finding.ofFile width t name = outcome at hfound
    cases hfound with
    | refused r hcannot => exact absurd h.layable hcannot
    | unreadable f hread => exact hdone hofFile ⟨t, rfl⟩
    | laidOut content hread hmissing _ => exact hdone hofFile ⟨t, rfl⟩
    | differs content layout hread hmissing _ =>
      refine hdone hofFile ((exists_carryOut_iff check hread).2 (h.carried ?_))
      rw [isPending_of_ok hread, hmissing]
      rfl

/-- Nothing ends the work at a file that has been laid out. -/
lemma ofContent_laidOut_eq_error_iff {content : Bytes} {r : Refusal} :
    Finding.ofContent width (laidOut width content) = .error r ↔
      Finding.ofContent width content = .error r := by
  cases hmissing : missing? width content with
  | none => rw [laidOut, hmissing, Option.map_none, Option.getD_none]
  | some layout =>
    -- both texts have a layout, the second one itself
    obtain ⟨text, htext, hlayout, -⟩ := missing?_eq_some_iff.1 hmissing
    have hagain := textOf_encode_layout htext hlayout
    rw [laidOut, hmissing, Option.map_some, Option.getD_some, Finding.ofContent, Finding.ofContent,
      htext, hagain]
    dsimp only
    rw [hlayout, layoutOf_layout hlayout]
    constructor
    · intro h
      cases h
    · intro h
      cases h

/-- When files are laid out, a file ends the work for what is found out about it, or because it
lacks its layout and may not be written. -/
lemma doFile_false_eq_error_iff {r : Refusal} :
    doFile false width t name = .error r ↔ Finding.ofFile width t name = .error r ∨
      (∃ layout, Finding.ofFile width t name = .ok (.differs layout)) ∧
        ¬HasMode FileMode.writable t name ∧
        r = .unwritable .denied (Path.ofString name).toString := by
  cases hfinding : Finding.ofFile width t name with
  | error r' => simp [doFile_of_error hfinding]
  | ok finding =>
    rw [doFile_of_ok hfinding]
    cases finding with
    | laidOut => exact iff_of_false (by simp [Finding.carryOut, Except.map]) (by simp)
    | unreadable f => exact iff_of_false (by simp [Finding.carryOut, Except.map]) (by simp)
    | differs layout =>
      have hfound := found width (isLegible_of_ofFile hfinding)
      rw [hfinding] at hfound
      cases hfound with
      | differs content _ hread _ _ =>
        obtain ⟨location, mode, hfind, -⟩ := FileTree.read_eq_ok_iff.1 hread
        have hdenied : ∀ f, t.write (.ofString name) (Utf8.encode layout) = .error f ↔
            mode.writable = false ∧ f = .denied := fun f => FileTree.write_eq_error_iff hfind
        rw [Finding.carryOut, if_neg Bool.false_ne_true, hasMode_iff_of_find hfind,
          Bool.not_eq_true]
        cases hwrite : t.write (.ofString name) (Utf8.encode layout) with
        | error f =>
          obtain ⟨hwritable, rfl⟩ := (hdenied f).1 hwrite
          simp [Except.mapError, Except.map, hwritable, eq_comm]
        | ok t' =>
          have hwritable : mode.writable ≠ false := fun h => by
            rw [(hdenied _).2 ⟨h, rfl⟩] at hwrite
            cases hwrite
          exact iff_of_false (by simp [Except.mapError, Except.map]) (by simp [hwritable])

section Relaid

variable {places : List String → Bool} (h : t.Rewrites t' (relaid width places))

include h

lemma ofFile_relaid_eq_error_iff {r : Refusal} :
    Finding.ofFile width t' name = .error r ↔ Finding.ofFile width t name = .error r := by
  rw [Finding.ofFile, Finding.ofFile]
  split
  · rfl
  · split
    · rfl
    · rcases read_cases h name with ⟨f, hread, hread'⟩ | ⟨_, content, mode, -, -, hread, hread'⟩
      · rw [hread, hread']
      · rw [hread, hread']
        dsimp only
        split
        · exact ofContent_laidOut_eq_error_iff
        · rfl

/-- The same is found out about a file that may not be written. -/
lemma ofFile_relaid_of_not_writable (hdenied : ¬HasMode FileMode.writable t name) :
    Finding.ofFile width t' name = Finding.ofFile width t name := by
  rw [Finding.ofFile, Finding.ofFile]
  rcases read_cases h name with ⟨f, hread, hread'⟩ | ⟨_, content, mode, hfind, -, hread, hread'⟩
  · rw [hread, hread']
  · rw [hasMode_iff_of_find hfind, Bool.not_eq_true] at hdenied
    have hkeeps : mode.keeps = false := by rw [FileMode.keeps, hdenied, Bool.false_and]
    rw [hread, hread', hkeeps, Bool.false_and, if_neg Bool.false_ne_true]

/-- A file ends the work for the same reason after files have been laid out. -/
lemma refusal?_relaid (name : String) :
    refusal? false width t' name = refusal? false width t name := by
  ext1 r
  rw [refusal?_eq_some_iff, refusal?_eq_some_iff, doFile_false_eq_error_iff,
    doFile_false_eq_error_iff, hasMode_relaid_iff h]
  refine or_congr (ofFile_relaid_eq_error_iff h) ?_
  by_cases hwritable : HasMode FileMode.writable t name
  · exact iff_of_false (fun h => h.2.1 hwritable) fun h => h.2.1 hwritable
  · rw [ofFile_relaid_of_not_writable h hwritable]

end Relaid

/-- A file ends the work for the same reason after another one has been done. -/
lemma refusal?_doFile (h : doFile check width t name = .ok (finding, t')) (other : String) :
    refusal? check width t' other = refusal? check width t other := by
  cases check with
  | true => rw [eq_of_doFile_true h]
  | false =>
    obtain ⟨places, hwrite⟩ := exists_rewrites h
    exact refusal?_relaid hwrite other

omit [Platform] in
lemma Finding.refusal_report (finding : Finding) (check : Bool) (name : String) (rest : Report) :
    (finding.report check name rest).refusal = rest.refusal := by
  cases finding with
  | laidOut => rfl
  | unreadable f => rfl
  | differs layout =>
    rw [Finding.report]
    split <;> rfl

omit [Platform] in
lemma Finding.report_of_refusal (finding : Finding) (check : Bool) (name : String) (rest : Report)
    (r : Refusal) : finding.report check name { rest with refusal := some r } =
      { finding.report check name rest with refusal := some r } := by
  cases finding with
  | laidOut => rfl
  | unreadable f => rfl
  | differs layout =>
    rw [Finding.report, Finding.report]
    split <;> rfl

/-- The work ends for the reason why the first file ends it that does so. -/
lemma refusal_files (check : Bool) (names : List String) :
    (files check width t names).refusal = names.findSome? (refusal? check width t) := by
  induction names generalizing t with
  | nil => rfl
  | cons name names ih =>
    rw [List.findSome?_cons]
    cases hname : refusal? check width t name with
    | some r => rw [files_cons_of_error (refusal?_eq_some_iff.1 hname)]
    | none =>
      obtain ⟨finding, t', hdone⟩ := refusal?_eq_none_iff_exists.1 hname
      rw [files_cons_of_ok hdone, Finding.refusal_report, ih, funext (refusal?_doFile hdone)]

/-- Files before the one that ends the work are done, and those after it are not looked at. -/
lemma files_append_of_refusal {before : List String}
    (hbefore : ∀ name ∈ before, refusal? check width t name = none) {r : Refusal}
    (hname : refusal? check width t name = some r) (after : List String) :
    files check width t (before ++ name :: after) =
      { files check width t before with refusal := some r } := by
  induction before generalizing t with
  | nil => exact files_cons_of_error (refusal?_eq_some_iff.1 hname)
  | cons first before ih =>
    obtain ⟨hfirst, hbefore⟩ := List.forall_mem_cons.1 hbefore
    obtain ⟨finding, t', hdone⟩ := refusal?_eq_none_iff_exists.1 hfirst
    have hrest := ih (fun n hn => (refusal?_doFile hdone n).trans (hbefore n hn))
      ((refusal?_doFile hdone name).trans hname)
    rw [List.cons_append, files_cons_of_ok hdone, files_cons_of_ok hdone, hrest,
      Finding.report_of_refusal]

end Mermaid.Reformat
