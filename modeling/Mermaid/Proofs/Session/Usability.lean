import Mermaid.Proofs.Session.Configuring
import Mermaid.Proofs.Settings.Usability

/-!
# Settings and delays can be used

Every setting that is resolved can be used, whatever the client and the project file give. Hence
settings always select a validator, and the pipelines of a session wait for times that are not
negative. The one exception is a time that is given as a NaN: it is taken as it is.

* `Session.History.settings_resolved` says where the settings of a session come from, and
  `Session.History.delay_eq` what its pipelines have of them;
* `Session.settings_usable` is the main statement.
-/

namespace Mermaid

namespace Settings

/-- Whether a time is a number at or above zero; if it has been given as a NaN it is one. -/
structure IsTime (given : Option Binary64) (x : Binary64) : Prop where
  eq_nan : given = some .nan → x = .nan
  isNonneg : given ≠ some .nan → x.IsNonneg

lemma IsTime.isNonneg_or {given : Option Binary64} {x : Binary64} (h : IsTime given x) :
    x.IsNonneg ∨ x = .nan := by
  by_cases hnan : given = some .nan
  · exact .inr (h.eq_nan hnan)
  · exact .inl (h.isNonneg hnan)

/-- Whether settings can be used, up to times that have been given as NaNs. -/
structure IsUsable (s : Settings) (given? : (f : Field) → Option f.Value) : Prop where
  debounce : IsTime (given? .debounce) s.debounce
  validatorTimeout : IsTime (given? .validatorTimeout) s.validatorTimeout
  indentWidth : 1 ≤ s.indentWidth ∧ s.indentWidth ≤ 16
  validator : s.validator.name = "structural" ∨ s.validator.name = "command"
  validatorCommand : s.validatorCommand ≠ []
  selects : ∃ v, Validator.ofSettings s = .ok v

private lemma isTime_of_or {x : Binary64} {given default : Option Binary64}
    (hvalue : some x = given.or default) (hx : x.IsNonneg ∨ x = .nan ∧ given = some x) :
    IsTime given x where
  eq_nan hnan := by
    rw [hnan] at hvalue
    exact Option.some.inj hvalue
  isNonneg hnot := by
    refine hx.resolve_right fun hnan => hnot ?_
    rw [hnan.2, hnan.1]

/-- Settings that are resolved can be used, up to times given as NaNs. -/
lemma isUsable_of_resolve [Platform] {files : FileTree} {root : Option String} {gs : List Giving}
    {s : Settings} (h : ((Resolver.takeAll root gs).resolve files).result = .ok s) :
    s.IsUsable fun f => (latest? gs.reverse f).or (projectValue? files root f) := by
  have hvalue := fun f => Resolver.value?_resolve_takeAll h f
  have husable := fun f a ha => Resolver.isUsable_of_resolve h (f := f) (a := a) ha
  have hwords : s.validatorCommand ≠ [] :=
    (husable .validatorCommand s.validatorCommand rfl).elim id fun hnan => hnan.1.elim
  exact {
    debounce := isTime_of_or (hvalue .debounce) (husable .debounce s.debounce rfl)
    validatorTimeout := isTime_of_or (hvalue .validatorTimeout)
      (husable .validatorTimeout s.validatorTimeout rfl)
    indentWidth := (husable .indentWidth s.indentWidth rfl).elim id fun hnan => hnan.1.elim
    validator := (husable .validator s.validator rfl).elim id fun hnan => hnan.1.elim
    validatorCommand := hwords
    selects := Validator.exists_ofSettings hwords }

end Settings

namespace Session

open Settings

variable {s : Session}

/-! ## Where settings come from -/

lemma settings_applySettings [Platform] (files : FileTree) :
    (s.applySettings files).session.settings = s.settings ∨
      (s.resolver.resolve files).result = .ok (s.applySettings files).session.settings := by
  unfold applySettings
  dsimp only
  cases (s.resolver.resolve files).result with
  | error f => exact .inl rfl
  | ok new =>
    dsimp only
    rw [accept]
    dsimp only
    split <;> exact .inr rfl

lemma settings_adopt [Platform] (files : FileTree) (given : Reading Patch)
    (change : Resolver → Patch → Resolver) :
    (s.adopt files given change).session.settings = s.settings ∨
      ((s.adopt files given change).session.resolver.resolve files).result =
        .ok (s.adopt files given change).session.settings := by
  unfold adopt
  cases given.result with
  | error f => exact .inl rfl
  | ok p =>
    have happlied := settings_applySettings (s := { s with resolver := change s.resolver p }) files
    dsimp only
    rw [resolver_applySettings]
    exact happlied

/-- The settings after a request are those before, or those that its resolver gives. -/
lemma settings_answer [Platform] (w : World) (now : Instant) (q : Request) :
    (s.answer w now q).state.settings = s.settings ∨
      ((s.answer w now q).state.resolver.resolve w.files).result =
        .ok (s.answer w now q).state.settings := by
  have hframe : ∀ (t : Session) name, (t.pipelineFor name).1.settings = t.settings := by
    intro t name
    rw [pipelineFor_frame]
  cases q with
  | begin root options => exact settings_adopt w.files _ _
  | configure options => exact settings_adopt w.files _ _
  | openDocument name text version => exact .inl (hframe _ name)
  | changeDocument name texts version =>
    left
    show ((s.changeDocument? w now name texts version).getD { state := s }).state.settings = _
    rw [changeDocument?]
    cases texts.getLast? with
    | none => rfl
    | some text => exact hframe _ name
  | closeDocument name => exact .inl rfl
  | validateDocument ticket name => exact .inl rfl
  | layOut name => exact .inl rfl

/-- No job changes the settings. -/
lemma settings_handle [Platform] (w : World) (now : Instant) (j : SessionJob) :
    (handle w now j s).state.settings = s.settings := by
  cases j with
  | host j => rfl
  | answerNothing ticket => rfl
  | validate ticket name =>
    show (validateFor w now ticket name s).state.settings = s.settings
    unfold validateFor
    split
    · next name doc _ =>
      show (s.pipelineFor name).1.settings = s.settings
      rw [pipelineFor_frame]
    · rfl

/-! ## They can be used -/

/-- Along every history the settings are the default ones, or those that a workspace on the way has
resolved. -/
lemma History.settings_resolved [Platform] {qs : List Request}
    {sc : Scene Session SessionJob SessionEvent}
    (hsc : History qs sc) : sc.state.settings = {} ∨ ∃ qs' files, qs' <+: qs ∧
      ((workspace qs').resolver.resolve files).result = .ok sc.state.settings := by
  induction hsc with
  | start => exact .inl rfl
  | @request qs sc w now q hsc ih =>
    show (sc.state.answer w now q).state.settings = {} ∨ ∃ qs' files, qs' <+: qs ++ [q] ∧
      ((workspace qs').resolver.resolve files).result =
        .ok (sc.state.answer w now q).state.settings
    rcases settings_answer (s := sc.state) w now q with hkept | hresolved
    · rw [hkept]
      exact ih.imp_right fun ⟨qs', files, hqs, hresult⟩ =>
        ⟨qs', files, hqs.trans (List.prefix_append qs [q]), hresult⟩
    · -- the resolver is the one of the workspace after the request
      have hresolver :
          (sc.state.answer w now q).state.resolver = (workspace (qs ++ [q])).resolver :=
        (hsc.request w now q).resolver_eq
      rw [hresolver] at hresolved
      exact .inr ⟨qs ++ [q], w.files, List.prefix_refl _, hresolved⟩
  | @work _ sc j _ w now _ _ ih =>
    rw [show (Scene.after (handle w now j sc.state) _ _).state.settings = sc.state.settings from
      settings_handle w now j]
    exact ih

/-- A pipeline has the delay of its session. -/
lemma History.delay_eq [Platform] {qs : List Request} {sc : Scene Session SessionJob SessionEvent}
    (hsc : History qs sc) {name : String} {p : Pipeline}
    (hp : sc.state.pipeline? name = some p) : p.delay = sc.state.settings.debounce := by
  simp only [pipeline?, Option.map_eq_some_iff, Option.bind_eq_some_iff] at hp
  obtain ⟨slot, ⟨i, hname, hslot⟩, rfl⟩ := hp
  obtain ⟨_, slot', -, hslot', hserves⟩ := hsc.keeps.1.serves.slot hname
  obtain rfl : slot = slot' := Option.some.inj (hslot.symm.trans hslot')
  exact hserves.delay

/-- **Settings can be used.** Whatever a client gives and the project file of a workspace holds,
settings that are resolved have times that are numbers at or above zero, a width between 1 and 16, a
known validator and a command line with a word, and they select a validator; only a time whose value
has been given as a NaN is a NaN itself. Along every history the settings of a session are the
default ones or have been resolved so, and the delays of its pipelines are numbers at or above zero,
or NaNs. -/
theorem settings_usable [Platform] (files : FileTree) (root : Option String) (gs : List Giving)
    {qs : List Request} {sc : Scene Session SessionJob SessionEvent} (hsc : History qs sc) :
    (∀ s, ((Resolver.takeAll root gs).resolve files).result = .ok s →
        s.IsUsable fun f => (latest? gs.reverse f).or (projectValue? files root f)) ∧
      (sc.state.settings = {} ∨ ∃ qs' files, qs' <+: qs ∧
        ((workspace qs').resolver.resolve files).result = .ok sc.state.settings) ∧
      ∀ name p, sc.state.pipeline? name = some p →
        p.delay = sc.state.settings.debounce ∧ (p.delay.IsNonneg ∨ p.delay = .nan) := by
  refine ⟨fun s h => isUsable_of_resolve h, hsc.settings_resolved, fun name p hp => ?_⟩
  have hdelay := hsc.delay_eq hp
  refine ⟨hdelay, ?_⟩
  rw [hdelay]
  rcases hsc.settings_resolved with hdefault | ⟨qs', files', -, hresult⟩
  · rw [hdefault]
    exact .inl (default_usable (f := .debounce) rfl)
  · exact (isUsable_of_resolve hresult).debounce.isNonneg_or

/-- A tree with a project file for the workspace `/w`. -/
private def projectTree (content : String) : FileTree where
  home := ["w"]
  entries := [([".mmdlsp.toml"], .file (Utf8.encode content.toList))]

/-- A client that gives a command line with blanks around its word. -/
private def commandGiving : Giving :=
  .replace (.json (.object
    [("validator", .string "command"), ("validatorCommand", .string " node ")]))

private lemma exists_eq_ok {ε α : Type} {x : Except ε α} (h : x.isOk = true) : ∃ a, x = .ok a := by
  cases x with
  | error e => cases h
  | ok a => exact ⟨a, rfl⟩

section Usual

open Platform.Usual

/-- A file gives a NaN and an infinite time, and the client a command line with blanks around its
word; a document is opened in a session whose file gives a NaN. -/
theorem settings_usable_nan :
    ∃ s sc p, ((Resolver.takeAll (some "/w") [commandGiving]).resolve
          (projectTree "debounce = nan\nvalidator_timeout = inf")).result = .ok s ∧
      s.debounce = .nan ∧ s.validatorTimeout.IsNonneg ∧ s.validatorCommand ≠ [] ∧
      (∃ v, Validator.ofSettings s = .ok v) ∧
      History [.begin (some "/w") (.json .null), .openDocument "a" ['x'] 1] sc ∧
      sc.state.pipeline? "a" = some p ∧ p.delay = sc.state.settings.debounce ∧
      (p.delay.IsNonneg ∨ p.delay = .nan) := by
  set files := projectTree "debounce = nan\nvalidator_timeout = inf"
  obtain ⟨s, hresult⟩ := exists_eq_ok
    (x := ((Resolver.takeAll (some "/w") [commandGiving]).resolve files).result) (by decide +kernel)
  have hdebounce : (latest? [commandGiving].reverse .debounce).or
      (projectValue? files (some "/w") .debounce) =
        (some (.nan : Binary64) : Option Field.debounce.Value) := by decide +kernel
  have htimeout : (latest? [commandGiving].reverse .validatorTimeout).or
      (projectValue? files (some "/w") .validatorTimeout) ≠
        (some (.nan : Binary64) : Option Field.validatorTimeout.Value) := by decide +kernel
  obtain ⟨sc, hsc, hopen⟩ : ∃ sc, History
      [.begin (some "/w") (.json .null), .openDocument "a" ['x'] 1] sc ∧
      (sc.state.pipeline? "a").isSome = true :=
    ⟨_, History.start
      |>.request ⟨projectTree "debounce = nan", ⟨false, none, 0, [], [], .reaped⟩, true⟩ 0
        (.begin _ _)
      |>.request ⟨⟨[], [], []⟩, ⟨false, none, 0, [], [], .reaped⟩, true⟩ 0 (.openDocument _ _ _),
      by decide +kernel⟩
  obtain ⟨p, hp⟩ := Option.isSome_iff_exists.1 hopen
  obtain ⟨husable, -, hdelays⟩ := settings_usable files (some "/w") [commandGiving] hsc
  have hs := husable s hresult
  exact ⟨s, sc, p, hresult, hs.debounce.eq_nan hdebounce, hs.validatorTimeout.isNonneg htimeout,
    hs.validatorCommand, hs.selects, hsc, hp, hdelays "a" p hp⟩

/-- A NaN is not a time at or above zero. -/
theorem not_forall_nonneg :
    ¬∀ (files : FileTree) (root : Option String) (gs : List Giving) (s : Settings),
      ((Resolver.takeAll root gs).resolve files).result = .ok s → s.debounce.IsNonneg := by
  intro h
  obtain ⟨s, hresult⟩ := exists_eq_ok (x := ((Resolver.takeAll (some "/w") []).resolve
    (projectTree "debounce = nan")).result) (by decide +kernel)
  have hnan : ((Resolver.takeAll (some "/w") []).resolve
      (projectTree "debounce = nan")).result.toOption.map Settings.debounce = some .nan := by
    decide +kernel
  rw [hresult] at hnan
  have hdebounce : s.debounce = .nan := Option.some.inj hnan
  exact ((Binary64.isNonneg_iff _).1 (h _ _ _ s hresult)).1 hdebounce

end Usual

end Session

end Mermaid
