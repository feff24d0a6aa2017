import Mathlib.Tactic.Common
import Mermaid.Settings.Resolver

/-!
# Settings field by field

Settings, patches, what a client sends and what a project file holds are all read field by field. A
value that does not fit its field leaves all fields as they are, and only a time that is too large
for a double stops the reading of a source.

* `Settings.Field.Value` is the type of the values of a field, and `Settings.Field.meaning` says
  what a value of a source means for it;
* `Settings.reads_readFields` says what comes of reading the fields of a source;
* `Settings.Options.isRefused_iff` says which options are refused, for a time that is too large;
* `Settings.ofOptions_eq_error_iff` and `Settings.readProject_eq_error_iff` say when the two sources
  are refused, and `Settings.value?_of_ofOptions` and `Settings.value?_of_readProject` what they
  give otherwise.
-/

namespace Mermaid.Settings

/-! ## The values of a field -/

/-- The values that a field can have. -/
def Field.Value : Field → Type
  | .debounce => Binary64
  | .indentWidth => Nat
  | .validator => ValidatorChoice
  | .validatorCommand => List String
  | .validatorTimeout => Binary64
  | .logLevel => String

instance (f : Field) : DecidableEq f.Value :=
  match f with
  | .debounce | .validatorTimeout => inferInstanceAs (DecidableEq Binary64)
  | .indentWidth => inferInstanceAs (DecidableEq Nat)
  | .validator => inferInstanceAs (DecidableEq ValidatorChoice)
  | .validatorCommand => inferInstanceAs (DecidableEq (List String))
  | .logLevel => inferInstanceAs (DecidableEq String)

/-- The value of a field, if it has one: only the log level may have none. -/
def value? (s : Settings) : (f : Field) → Option f.Value
  | .debounce => some s.debounce
  | .indentWidth => some s.indentWidth
  | .validator => some s.validator
  | .validatorCommand => some s.validatorCommand
  | .validatorTimeout => some s.validatorTimeout
  | .logLevel => s.logLevel

/-- The value that a patch gives a field, if it gives one. -/
def Patch.value? (p : Patch) : (f : Field) → Option f.Value
  | .debounce => p.debounce
  | .indentWidth => p.indentWidth
  | .validator => p.validator
  | .validatorCommand => p.validatorCommand
  | .validatorTimeout => p.validatorTimeout
  | .logLevel => p.logLevel

@[simp] lemma Patch.value?_empty (f : Field) : ({} : Patch).value? f = none := by cases f <;> rfl

/-- What a value of a source means for a field. -/
def Field.meaning (v : Raw) : (f : Field) → Meaning f.Value
  | .debounce => readTime v
  | .indentWidth => readWidth v
  | .validator => readValidator v
  | .validatorCommand => readCommand v
  | .validatorTimeout => readTime v
  | .logLevel => readLogLevel v

/-- The value that something means, if it means one. -/
def Meaning.value? {α : Type} : Meaning α → Option α
  | .value a => some a
  | _ => none

/-- Whether something means a whole number too large for a double. -/
def Meaning.isTooLarge {α : Type} : Meaning α → Bool
  | .tooLarge => true
  | _ => false

@[simp] lemma Field.meaning_absent (f : Field) : f.meaning .absent = .unfit := by cases f <;> rfl

lemma Field.mem_all (f : Field) : f ∈ Field.all := by cases f <;> decide

/-- Only a whole number is read as one from a JSON value. -/
lemma Raw.ofJson_eq_integer {v : Json} {i : Int} : Raw.ofJson v = .integer i ↔ v = .int i := by
  cases v with
  | array items => simp only [ofJson, ofStrings?]; cases allOf jsonString? items <;> simp
  | _ => simp [ofJson]

/-- A time is too large when it is a whole number that is not negative and has no double. -/
lemma readTime_isTooLarge_iff {v : Raw} : (readTime v).isTooLarge = true ↔
    ∃ i : Int, 0 ≤ i ∧ v = .integer i ∧ Binary64.ofInt? i = none := by
  cases v with
  | integer i =>
    by_cases hi : i < 0
    · simp [readTime, hi, Meaning.isTooLarge, Int.not_le.2 hi]
    · have hnonneg : 0 ≤ i := Int.not_lt.1 hi
      cases hdouble : Binary64.ofInt? i <;>
        simp [readTime, hi, hdouble, Meaning.isTooLarge, hnonneg]
  | float x =>
    cases hsign : x.isNegative <;> simp [readTime, hsign, Meaning.isTooLarge]
  | _ => simp [readTime, Meaning.isTooLarge]

/-- Only a time can be too large. -/
lemma Field.isTooLarge_of_ne {f : Field} (hd : f ≠ .debounce) (ht : f ≠ .validatorTimeout)
    (v : Raw) : (f.meaning v).isTooLarge = false := by
  cases f with
  | debounce => exact absurd rfl hd
  | validatorTimeout => exact absurd rfl ht
  | indentWidth =>
    show (readWidth v).isTooLarge = false
    unfold readWidth
    repeat' split
    all_goals rfl
  | validator =>
    show (readValidator v).isTooLarge = false
    unfold readValidator
    repeat' split
    all_goals rfl
  | validatorCommand =>
    show (readCommand v).isTooLarge = false
    unfold readCommand
    extract_lets words
    split <;> rfl
  | logLevel =>
    show (readLogLevel v).isTooLarge = false
    unfold readLogLevel
    split <;> rfl

lemma Field.isTooLarge_iff {v : Raw} {f : Field} : (f.meaning v).isTooLarge = true ↔
    (f = .debounce ∨ f = .validatorTimeout) ∧
      ∃ i : Int, 0 ≤ i ∧ v = .integer i ∧ Binary64.ofInt? i = none := by
  by_cases htime : f = .debounce ∨ f = .validatorTimeout
  · have hmeaning : (f.meaning v).isTooLarge = (readTime v).isTooLarge := by
      rcases htime with rfl | rfl <;> rfl
    rw [hmeaning, readTime_isTooLarge_iff]
    exact (and_iff_right htime).symm
  · have hnot : f ≠ .debounce ∧ f ≠ .validatorTimeout := not_or.1 htime
    rw [isTooLarge_of_ne hnot.1 hnot.2]
    exact iff_of_false Bool.false_ne_true fun h => htime h.1

/-- A patch over another one gives what it gives, and else what the other one gives. -/
lemma Patch.value?_orElse (p q : Patch) (f : Field) :
    (p.orElse q).value? f = (p.value? f).or (q.value? f) := by
  cases f <;> rfl

/-- Settings that a patch is applied to have what it gives, and else what they had. -/
lemma value?_apply (p : Patch) (s : Settings) (f : Field) :
    (p.apply s).value? f = (p.value? f).or (s.value? f) := by
  have hgiven : ∀ {α : Type} (given : Option α) (a : α),
      some (given.getD a) = given.or (some a) := by
    intro α given a
    cases given <;> rfl
  cases f with
  | logLevel => rfl
  | _ => exact hgiven _ _

/-- The patch with a value for a field. -/
def Patch.set : (f : Field) → f.Value → Patch → Patch
  | .debounce, x, p => { p with debounce := some x }
  | .indentWidth, n, p => { p with indentWidth := some n }
  | .validator, c, p => { p with validator := some c }
  | .validatorCommand, c, p => { p with validatorCommand := some c }
  | .validatorTimeout, x, p => { p with validatorTimeout := some x }
  | .logLevel, s, p => { p with logLevel := some s }

@[simp] lemma Patch.value?_set_self (p : Patch) (f : Field) (a : f.Value) :
    (p.set f a).value? f = some a := by
  cases f <;> rfl

lemma Patch.value?_set_of_ne (p : Patch) {f g : Field} (a : f.Value) (hne : g ≠ f) :
    (p.set f a).value? g = p.value? g := by
  cases f <;> cases g <;> first | rfl | exact absurd rfl hne

/-- What is read for a field is the value that is meant, put into a patch. -/
lemma Field.read_eq (v : Raw) (f : Field) : f.read v = (f.meaning v).map (Patch.set f) := by
  cases f <;> rfl

/-! ## Reading a source -/

/-- A source in which no time is too large gives each field the value that it means for it. -/
lemma readFields_of_forall {key : Field → String} {source : String → Raw} {fs : List Field}
    (h : ∀ f ∈ fs, (f.meaning (source (key f))).isTooLarge = false) (p : Patch) :
    ∃ q, (readFields key source fs p).result = .ok q ∧ ∀ g, q.value? g =
      (if g ∈ fs then (g.meaning (source (key g))).value? else none).or (p.value? g) := by
  induction fs generalizing p with
  | nil => exact ⟨p, rfl, fun g => by simp⟩
  | cons f fs ih =>
    have hrest : ∀ f ∈ fs, (f.meaning (source (key f))).isTooLarge = false :=
      fun g hg => h g (List.mem_cons_of_mem f hg)
    -- a field that is not given, or whose value does not fit, is left to the rest of the source
    have hskip : (f.meaning (source (key f))).value? = none →
        ∃ q, (readFields key source fs p).result = .ok q ∧ ∀ g, q.value? g =
          (if g ∈ f :: fs then (g.meaning (source (key g))).value? else none).or (p.value? g) := by
      intro hnone
      obtain ⟨q, hq, hvalue⟩ := ih hrest p
      refine ⟨q, hq, fun g => ?_⟩
      rw [hvalue g]
      by_cases hg : g = f
      · subst hg
        simp [hnone]
      · simp [hg]
    rw [readFields]
    split
    · next habsent =>
      apply hskip
      rw [habsent, Field.meaning_absent]
      rfl
    · rw [Field.read_eq]
      have hfits := h f List.mem_cons_self
      cases hm : f.meaning (source (key f)) with
      | value a =>
        obtain ⟨q, hq, hvalue⟩ := ih hrest (p.set f a)
        refine ⟨q, hq, fun g => ?_⟩
        rw [hvalue g]
        by_cases hg : g = f
        · subst hg
          simp only [Patch.value?_set_self, hm, Meaning.value?, List.mem_cons_self, if_true]
          split <;> rfl
        · simp [hg, Patch.value?_set_of_ne p a hg]
      | unfit =>
        apply hskip
        rw [hm]
        rfl
      | tooLarge =>
        rw [hm] at hfits
        cases hfits

/-- A source with a time that is too large is refused. -/
lemma readFields_of_exists {key : Field → String} {source : String → Raw} {fs : List Field}
    (h : ∃ f ∈ fs, (f.meaning (source (key f))).isTooLarge = true) (p : Patch) :
    (readFields key source fs p).result = .error .numberTooLarge := by
  induction fs generalizing p with
  | nil => simp at h
  | cons f fs ih =>
    obtain ⟨g, hg, hlarge⟩ := h
    have hrest : (f.meaning (source (key f))).isTooLarge = false →
        ∃ g ∈ fs, (g.meaning (source (key g))).isTooLarge = true := by
      intro hfits
      rcases List.mem_cons.1 hg with rfl | hmem
      · rw [hlarge] at hfits
        cases hfits
      · exact ⟨g, hmem, hlarge⟩
    rw [readFields]
    split
    · next habsent => exact ih (hrest (by rw [habsent, Field.meaning_absent]; rfl)) p
    · rw [Field.read_eq]
      cases hm : f.meaning (source (key f)) with
      | value a => exact ih (hrest (by rw [hm]; rfl)) (p.set f a)
      | unfit => exact ih (hrest (by rw [hm]; rfl)) p
      | tooLarge => rfl

/-- What comes of reading a source, from what it means for each field: it is refused when a time is
too large for a double, and otherwise gives each field the value that it means for it. -/
inductive Reads (meaning : (f : Field) → Meaning f.Value) : Except Fault Patch → Prop
  | refused (f : Field) : (meaning f).isTooLarge = true → Reads meaning (.error .numberTooLarge)
  | taken (p : Patch) : (∀ f, (meaning f).isTooLarge = false) →
      (∀ f, p.value? f = (meaning f).value?) → Reads meaning (.ok p)

lemma reads_readFields (key : Field → String) (source : String → Raw) :
    Reads (fun f => f.meaning (source (key f))) (readFields key source Field.all {}).result := by
  by_cases hlarge : ∃ f ∈ Field.all, (f.meaning (source (key f))).isTooLarge = true
  · rw [readFields_of_exists hlarge]
    obtain ⟨f, -, hf⟩ := hlarge
    exact .refused f hf
  · have hfits : ∀ f ∈ Field.all, (f.meaning (source (key f))).isTooLarge = false :=
      fun f hf => Bool.eq_false_iff.2 fun h => hlarge ⟨f, hf, h⟩
    obtain ⟨p, hp, hvalue⟩ := readFields_of_forall hfits {}
    rw [hp]
    refine .taken p (fun f => hfits f (Field.mem_all f)) fun f => ?_
    rw [hvalue f, if_pos (Field.mem_all f), Patch.value?_empty, Option.or_none]

/-! ## What a client sends -/

namespace Options

/-- What the options of a client hold for a field. -/
def raw (o : Options) (f : Field) : Raw :=
  ((Json.member? o.members f.clientKey).map Raw.ofJson).getD .absent

/-- The value that the options of a client give a field: one that is there, is not null, and fits
the field. -/
def given? (o : Options) (f : Field) : Option f.Value := (f.meaning (o.raw f)).value?

/-- Whether the options of a client are refused: they hold a time that is too large. -/
def isRefused (o : Options) : Bool := Field.all.any fun f => (f.meaning (o.raw f)).isTooLarge

lemma isRefused_of_isTooLarge {o : Options} {f : Field}
    (hf : (f.meaning (o.raw f)).isTooLarge = true) : o.isRefused = true :=
  List.any_eq_true.2 ⟨f, Field.mem_all f, hf⟩

/-- Options are refused exactly for a time that is a whole number, not negative, and without a
double. -/
theorem isRefused_iff (o : Options) :
    o.isRefused = true ↔ ∃ f : Field, (f = .debounce ∨ f = .validatorTimeout) ∧
      ∃ i : Int, 0 ≤ i ∧ Json.member? o.members f.clientKey = some (.int i) ∧
        Binary64.ofInt? i = none := by
  have hraw : ∀ f i, o.raw f = .integer i ↔ Json.member? o.members f.clientKey = some (.int i) := by
    intro f i
    rw [raw]
    cases Json.member? o.members f.clientKey with
    | none => simp
    | some v => simp [Raw.ofJson_eq_integer]
  constructor
  · intro h
    obtain ⟨f, -, hf⟩ := List.any_eq_true.1 h
    obtain ⟨hfield, i, hi, hv, hnone⟩ := Field.isTooLarge_iff.1 hf
    exact ⟨f, hfield, i, hi, (hraw f i).1 hv, hnone⟩
  · intro ⟨f, hfield, i, hi, hv, hnone⟩
    exact isRefused_of_isTooLarge
      (Field.isTooLarge_iff.2 ⟨hfield, i, hi, (hraw f i).2 hv, hnone⟩)

end Options

/-- The options of a client, read field by field. -/
lemma reads_ofOptions (o : Options) :
    Reads (fun f => f.meaning (o.raw f)) (ofOptions o).result :=
  reads_readFields Field.clientKey
    fun key => ((Json.member? o.members key).map Raw.ofJson).getD .absent

/-- Options are not read when they hold a time that is too large, and only then. -/
lemma ofOptions_eq_error_iff {o : Options} {fault : Fault} :
    (ofOptions o).result = .error fault ↔ fault = .numberTooLarge ∧ o.isRefused = true := by
  have hreads := reads_ofOptions o
  generalize (ofOptions o).result = result at hreads
  cases hreads with
  | refused f hf => simp [eq_comm, Options.isRefused_of_isTooLarge hf]
  | taken p hfits _ =>
    have hnot : o.isRefused = false := by
      rw [Options.isRefused, List.any_eq_false]
      intro f _
      rw [hfits f]
      exact Bool.false_ne_true
    simp [hnot]

lemma exists_ofOptions {o : Options} (h : o.isRefused = false) :
    ∃ p, (ofOptions o).result = .ok p := by
  cases hresult : (ofOptions o).result with
  | ok p => exact ⟨p, rfl⟩
  | error fault =>
    have hrefused : o.isRefused = true := (ofOptions_eq_error_iff.1 hresult).2
    rw [h] at hrefused
    cases hrefused

/-- Options that are read give each field the value that they hold for it. -/
lemma value?_of_ofOptions {o : Options} {p : Patch} (h : (ofOptions o).result = .ok p) (f : Field) :
    p.value? f = o.given? f := by
  have hreads := reads_ofOptions o
  rw [h] at hreads
  cases hreads with
  | taken _ _ hvalue => exact hvalue f

/-! ## What a project file holds -/

/-- The content of the project file of a workspace, if there is one that may be read. -/
def projectContent? [Platform] (files : FileTree) (root : Option String) : Option Bytes :=
  (projectPath? root).bind fun path =>
    if !isName path.toString then none
    else match files.find path with
      | .ok (_, .file content mode) => if mode.regular && mode.readable then some content else none
      | _ => none

/-- The table of a project file, if it can be read. -/
def table? [Platform] (content : Bytes) : Option Toml.Table :=
  (Utf8.decode content).toOption.bind fun text => (Toml.read text).toOption

/-- What the table of a project file holds for a field. -/
def tableRaw (table : Toml.Table) (f : Field) : Raw :=
  ((Toml.Table.get? table f.fileKey).map Raw.ofToml).getD .absent

/-- The value that the project file of a workspace gives a field: there is such a file, it can be
read, and holds a value that fits the field. -/
def projectValue? [Platform] (files : FileTree) (root : Option String) (f : Field) :
    Option f.Value :=
  ((projectContent? files root).bind table?).bind fun table => (f.meaning (tableRaw table f)).value?

/-- Why a content of a project file is refused. -/
inductive RefusedContent [Platform] (content : Bytes) : Fault → Prop
  | malformed {m : Utf8.Malformed} : Utf8.decode content = .error m →
      RefusedContent content (.malformedFile m)
  | numberTooLong {text : Text} {n : Nat} : Utf8.decode content = .ok text →
      Toml.read text = .error (.integerTooLong n) → RefusedContent content (.numberTooLong n)
  | tooDeep {text : Text} : Utf8.decode content = .ok text →
      Toml.read text = .error .tooDeep → RefusedContent content .tooDeep
  | numberTooLarge {table : Toml.Table} {f : Field} : table? content = some table →
      (f.meaning (tableRaw table f)).isTooLarge = true → RefusedContent content .numberTooLarge

/-- Why the project file of a workspace is refused: looking its path up fails in a way that does not
tell that there is none, or its content is refused. -/
inductive RefusedProject [Platform] (files : FileTree) (root : Option String) : Fault → Prop
  | path {path : Path} {f : FileFault} : projectPath? root = some path →
      isName path.toString = true → files.find path = .error f → f.meansAbsent = false →
      RefusedProject files root (.path f path.toString)
  | content {content : Bytes} {fault : Fault} : projectContent? files root = some content →
      RefusedContent content fault → RefusedProject files root fault

/-- A content with a table is read as the table is, field by field. -/
lemma reads_ofContent [Platform] {content : Bytes} {table : Toml.Table}
    (h : table? content = some table) :
    Reads (fun f => f.meaning (tableRaw table f)) (ofContent content).result := by
  have hreads : Reads (fun f => f.meaning (tableRaw table f)) (readFields Field.fileKey
      (fun key => ((Toml.Table.get? table key).map Raw.ofToml).getD .absent) Field.all {}).result :=
    reads_readFields Field.fileKey
      fun key => ((Toml.Table.get? table key).map Raw.ofToml).getD .absent
  unfold table? at h
  unfold ofContent
  cases hdecode : Utf8.decode content with
  | error m => simp [hdecode, Except.toOption] at h
  | ok text =>
    cases hread : Toml.read text with
    | error e => simp [hdecode, hread, Except.toOption] at h
    | ok t =>
      obtain rfl : t = table := by simpa [hdecode, hread, Except.toOption] using h
      simpa only [hread] using hreads

/-- A content is not read when it is refused, and only then. -/
lemma ofContent_eq_error_iff [Platform] {content : Bytes} {fault : Fault} :
    (ofContent content).result = .error fault ↔ RefusedContent content fault := by
  constructor
  · intro h
    cases htable : table? content with
    | some table =>
      have hreads := reads_ofContent htable
      rw [h] at hreads
      cases hreads with
      | refused f hf => exact .numberTooLarge htable hf
    | none =>
      unfold ofContent at h
      split at h
      · next m hdecode =>
        obtain rfl := Except.error.inj h
        exact .malformed hdecode
      · next text hdecode =>
        split at h
        · cases h
        · next n hread =>
          obtain rfl := Except.error.inj h
          exact .numberTooLong hdecode hread
        · next hread =>
          obtain rfl := Except.error.inj h
          exact .tooDeep hdecode hread
        · next table hread => simp [table?, hdecode, hread, Except.toOption] at htable
  · intro h
    cases h with
    | malformed hdecode => rw [ofContent, hdecode]
    | numberTooLong hdecode hread => simp only [ofContent, hdecode, hread]
    | tooDeep hdecode hread => simp only [ofContent, hdecode, hread]
    | @numberTooLarge table f htable hf =>
      have hreads := reads_ofContent htable
      generalize (ofContent content).result = result at hreads
      cases hreads with
      | refused => rfl
      | taken p hfits _ => simp [hfits f] at hf

/-- A content that is read gives each field the value that its table holds for it. -/
lemma value?_of_ofContent [Platform] {content : Bytes} {p : Patch}
    (h : (ofContent content).result = .ok p) (f : Field) :
    p.value? f = (table? content).bind fun table => (f.meaning (tableRaw table f)).value? := by
  cases htable : table? content with
  | some table =>
    have hreads := reads_ofContent htable
    rw [h] at hreads
    cases hreads with
    | taken _ _ hvalue => exact hvalue f
  | none =>
    unfold ofContent at h
    split at h
    · cases h
    · next text hdecode =>
      split at h
      · obtain rfl := Except.ok.inj h
        exact Patch.value?_empty f
      · cases h
      · cases h
      · next table hread => simp [table?, hdecode, hread, Except.toOption] at htable

/-- Where there is a project file, its content is read. -/
lemma readProject_of_content [Platform] {files : FileTree} {root : Option String} {content : Bytes}
    (h : projectContent? files root = some content) :
    readProject files root = ofContent content := by
  unfold projectContent? at h
  unfold readProject
  cases hpath : projectPath? root with
  | none => simp [hpath] at h
  | some path =>
    rw [hpath, Option.bind_some] at h
    dsimp only
    split at h
    · cases h
    · next hname =>
      rw [if_neg hname]
      split at h
      · next content' mode hfind =>
        rw [hfind]
        split at h
        · next hmode =>
          obtain rfl := Option.some.inj h
          rw [Bool.and_eq_true] at hmode
          simp [hmode.1, hmode.2]
        · cases h
      · cases h

/-- Where there is no project file that may be read, nothing is read, unless it cannot be told
whether there is one. -/
lemma readProject_of_none [Platform] {files : FileTree} {root : Option String}
    (h : projectContent? files root = none) :
    (readProject files root).result = .ok {} ∨
      ∃ path f, projectPath? root = some path ∧ isName path.toString = true ∧
        files.find path = .error f ∧ f.meansAbsent = false ∧
        (readProject files root).result = .error (.path f path.toString) := by
  unfold projectContent? at h
  unfold readProject
  cases hpath : projectPath? root with
  | none => exact .inl rfl
  | some path =>
    rw [hpath, Option.bind_some] at h
    dsimp only
    cases hname : isName path.toString with
    | false => exact .inl rfl
    | true =>
      rw [hname] at h
      simp only [Bool.not_true, Bool.false_eq_true, if_false] at h ⊢
      cases hfind : files.find path with
      | error f =>
        dsimp only
        cases habsent : f.meansAbsent with
        | true => exact .inl rfl
        | false => exact .inr ⟨path, f, rfl, hname, hfind, habsent, rfl⟩
      | ok found =>
        obtain ⟨location, node⟩ := found
        cases node with
        | directory searchable => exact .inl rfl
        | file content mode =>
          rw [hfind] at h
          left
          cases hregular : mode.regular <;> cases hreadable : mode.readable <;>
            simp_all

/-- The project file of a workspace is not read when it is refused, and only then. -/
lemma readProject_eq_error_iff [Platform] {files : FileTree} {root : Option String}
    {fault : Fault} :
    (readProject files root).result = .error fault ↔ RefusedProject files root fault := by
  constructor
  · intro h
    cases hcontent : projectContent? files root with
    | some content =>
      rw [readProject_of_content hcontent] at h
      exact .content hcontent (ofContent_eq_error_iff.1 h)
    | none =>
      rcases readProject_of_none hcontent with hok | ⟨path, f, hpath, hname, hfind, hf, herror⟩
      · rw [hok] at h
        cases h
      · rw [herror] at h
        obtain rfl := Except.error.inj h
        exact .path hpath hname hfind hf
  · intro h
    cases h with
    | path hpath hname hfind hf => simp [readProject, hpath, hname, hfind, hf]
    | content hcontent hrefused =>
      rw [readProject_of_content hcontent]
      exact ofContent_eq_error_iff.2 hrefused

/-- The project file of a workspace, when it is read, gives each field the value that it holds for
it. -/
lemma value?_of_readProject [Platform] {files : FileTree} {root : Option String} {p : Patch}
    (h : (readProject files root).result = .ok p) (f : Field) :
    p.value? f = projectValue? files root f := by
  rw [projectValue?]
  cases hcontent : projectContent? files root with
  | some content =>
    rw [readProject_of_content hcontent] at h
    exact value?_of_ofContent h f
  | none =>
    rcases readProject_of_none hcontent with hok | ⟨path, fault, -, -, -, -, herror⟩
    · rw [hok] at h
      obtain rfl := Except.ok.inj h
      exact Patch.value?_empty f
    · rw [herror] at h
      cases h

end Mermaid.Settings
