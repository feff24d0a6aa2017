import Mathlib.Algebra.Ring.Int.Defs
import Mermaid.Proofs.Session.Consistency
import Mermaid.Proofs.Settings.Cascade

/-!
# Settings of a session

The settings of a session come of all options that its client has given since the session began to
be used, and of the project file in the root that was named then. Options or a project file that
are refused leave the settings as they were.

* `Session.Workspace` is what the requests say of the root and the client;
* `Session.History.resolver_eq` says that the resolver of a session knows just that;
* `Session.History.configures` says when settings are taken, and which.
-/

namespace Mermaid

namespace Session

open Settings

/-! ## What the requests say -/

/-- The root of a workspace, and what a client has given for it. -/
structure Workspace where
  root : Option String := none
  givings : List Giving := []

/-- The workspace after a request. One that begins the use of a session makes a new one. -/
def Request.workspaceAfter (ws : Workspace) : Request → Workspace
  | .begin root options => ⟨root, [.replace options]⟩
  | .configure options => { ws with givings := ws.givings ++ [.extend options] }
  | _ => ws

/-- The workspace after some requests. -/
def workspace (qs : List Request) : Workspace :=
  qs.foldl (fun ws q => q.workspaceAfter ws) {}

lemma workspace_concat (qs : List Request) (q : Request) :
    workspace (qs ++ [q]) = q.workspaceAfter (workspace qs) := by
  rw [workspace, List.foldl_append]
  rfl

/-- The resolver that a workspace makes. -/
def Workspace.resolver (ws : Workspace) : Resolver := Resolver.takeAll ws.root ws.givings

/-- The value of a field in a workspace: the latest one that the client has given, else that of the
project file, and else the default. -/
def Workspace.value? [Platform] (ws : Workspace) (files : FileTree) (f : Field) : Option f.Value :=
  ((latest? ws.givings.reverse f).or (projectValue? files ws.root f)).or (({} : Settings).value? f)

/-! ## The resolver of a session -/

variable {s : Session}

lemma resolver_applySettings [Platform] (files : FileTree) :
    (s.applySettings files).session.resolver = s.resolver := by
  unfold applySettings
  dsimp only
  split
  · rfl
  · unfold accept
    dsimp only
    split <;> rfl

/-- Options that are adopted in place of all others, or on top of them, are taken. -/
lemma resolver_adopt [Platform] (files : FileTree) (o : Options) :
    (s.adopt files (ofOptions o) Resolver.replace).session.resolver =
        s.resolver.take (.replace o) ∧
      (s.adopt files (ofOptions o) Resolver.extend).session.resolver =
        s.resolver.take (.extend o) := by
  unfold adopt Resolver.take
  cases hresult : (ofOptions o).result with
  | error fault => simp only [Giving.options, hresult, and_self]
  | ok p => simp only [Giving.options, hresult, resolver_applySettings, and_self]

lemma resolver_pipelineFor (name : String) : (s.pipelineFor name).1.resolver = s.resolver := by
  rw [pipelineFor_frame]

/-- A request that configures the session changes the resolver as it changes the workspace, and any
other one leaves it alone. -/
lemma resolver_answer [Platform] {ws : Workspace} (hs : s.resolver = ws.resolver) (w : World)
    (now : Instant)
    (q : Request) : (s.answer w now q).state.resolver = (q.workspaceAfter ws).resolver := by
  cases q with
  | begin root options => exact (resolver_adopt w.files options).1
  | configure options =>
    have htake : (s.answer w now (.configure options)).state.resolver =
        s.resolver.take (.extend options) := (resolver_adopt w.files options).2
    rw [htake, hs, Workspace.resolver, ← Resolver.takeAll_concat]
    rfl
  | openDocument name text version => exact (resolver_pipelineFor name).trans hs
  | changeDocument name texts version =>
    show ((s.changeDocument? w now name texts version).getD { state := s }).state.resolver = _
    cases hlast : texts.getLast? with
    | none =>
      rw [changeDocument?, hlast]
      exact hs
    | some text =>
      rw [changeDocument?, hlast]
      exact (resolver_pipelineFor name).trans hs
  | closeDocument name => exact hs
  | validateDocument ticket name => exact hs
  | layOut name => exact hs

/-- No job changes the resolver. -/
lemma resolver_handle [Platform] (w : World) (now : Instant) (j : SessionJob) :
    (handle w now j s).state.resolver = s.resolver := by
  cases j with
  | host j => rfl
  | answerNothing ticket => rfl
  | validate ticket name =>
    show (validateFor w now ticket name s).state.resolver = s.resolver
    unfold validateFor
    split
    · next name doc _ => exact resolver_pipelineFor name
    · rfl

/-- The resolver of a session knows what the requests say of the root and the client. -/
lemma History.resolver_eq [Platform] {qs : List Request}
    {sc : Scene Session SessionJob SessionEvent}
    (hsc : History qs sc) : sc.state.resolver = (workspace qs).resolver := by
  induction hsc with
  | start => rfl
  | request w now q _ ih =>
    rw [workspace_concat]
    exact resolver_answer ih w now q
  | work w now _ _ ih => exact (resolver_handle w now _).trans ih

/-! ## Taking settings -/

/-- What comes of giving some options to a session, which make a workspace: they are refused, or the
project file is, and the settings stay; or each field has its value in the workspace. -/
structure Configured.Takes [Platform] (c : Configured) (before : Settings) (files : FileTree)
    (ws : Workspace) (o : Options) : Prop where
  fault_eq_some_iff : ∀ fault, c.fault = some fault ↔
    (o.isRefused = true ∧ fault = .settings .numberTooLarge) ∨
      o.isRefused = false ∧ ∃ f, fault = .settings f ∧ RefusedProject files ws.root f
  value : c.fault = none → ∀ f : Field, c.session.settings.value? f = ws.value? files f
  kept : c.fault ≠ none → c.session.settings = before

/-- A session whose resolver is that of a workspace takes the settings of the workspace. -/
lemma takes_applySettings [Platform] {ws : Workspace} (hs : s.resolver = ws.resolver)
    (hwords : s.resolver.client.HasWords) {o : Options} (ho : o.isRefused = false)
    (files : FileTree) : (s.applySettings files).Takes s.settings files ws o := by
  have hroot : s.resolver.root = ws.root := by
    rw [hs]
    exact Resolver.root_takeAll ws.root ws.givings
  have hrefused : ∀ f, (s.resolver.resolve files).result = .error f ↔
      RefusedProject files ws.root f := by
    intro f
    rw [Resolver.resolve_eq_error_iff, hroot]
  unfold applySettings
  dsimp only
  cases hresolve : (s.resolver.resolve files).result with
  | error f =>
    have hiff : ∀ g, RefusedProject files ws.root g ↔ f = g := by
      intro g
      rw [← hrefused g, hresolve, Except.error.injEq]
    exact ⟨fun fault => by simp [ho, hiff, eq_comm], nofun, fun _ => rfl⟩
  | ok new =>
    have hnot : ∀ g, ¬RefusedProject files ws.root g := by
      intro g hg
      have herror := (hrefused g).2 hg
      rw [hresolve] at herror
      cases herror
    -- a command line always has a word, so the settings select a validator
    obtain ⟨v, hv⟩ := Resolver.exists_validator hwords hresolve
    simp only [accept, hv]
    refine ⟨fun fault => by simp [ho, hnot], fun _ f => ?_, fun h => absurd rfl h⟩
    rw [hs] at hresolve
    exact Resolver.value?_resolve_takeAll hresolve f

/-- A session adopts options: they make a workspace of it, unless they are refused. -/
lemma takes_adopt [Platform] {ws : Workspace} {o : Options} {change : Resolver → Patch → Resolver}
    (hchange : ∀ p, (ofOptions o).result = .ok p →
      change s.resolver p = ws.resolver ∧ (change s.resolver p).client.HasWords)
    (files : FileTree) : (s.adopt files (ofOptions o) change).Takes s.settings files ws o := by
  unfold adopt
  cases hrefused : o.isRefused with
  | true =>
    rw [ofOptions_eq_error_iff.2 ⟨rfl, hrefused⟩]
    exact ⟨fun fault => by simp [hrefused, eq_comm], nofun, fun _ => rfl⟩
  | false =>
    obtain ⟨p, hp⟩ := exists_ofOptions hrefused
    obtain ⟨hresolver, hwords⟩ := hchange p hp
    have htakes := takes_applySettings (s := { s with resolver := change s.resolver p }) hresolver
      hwords hrefused files
    rw [hp]
    exact ⟨htakes.fault_eq_some_iff, htakes.value, htakes.kept⟩

/-- **Settings of a session.** Whatever has happened to a session, beginning it with some options
and configuring it with some more raise no fault unless the options hold a time that is too large
for a double, or the project file is refused; then the settings stay as they are. Without a fault,
each field has the latest value that the client has given since the session was begun, else that of
the project file, and else the default.

A value that does not fit its field raises nothing: the warning about it can be written down,
however deep the value lies inside others. -/
theorem History.configures [Platform] {qs : List Request}
    {sc : Scene Session SessionJob SessionEvent}
    (hsc : History qs sc) (files : FileTree) (o : Options) :
    (∀ root, (sc.state.begin files root o).Takes sc.state.settings files
      ⟨root, [.replace o]⟩ o) ∧
    (sc.state.configure files o).Takes sc.state.settings files
      { workspace qs with givings := (workspace qs).givings ++ [.extend o] } o := by
  constructor
  · intro root
    apply takes_adopt (s := { sc.state with resolver := { root := root } })
    intro p hp
    exact ⟨(Resolver.take_replace hp _).symm, ofOptions_hasWords hp⟩
  · apply takes_adopt
    intro p hp
    refine ⟨?_, (ofOptions_hasWords hp).orElse hsc.keeps.1.words⟩
    rw [hsc.resolver_eq, ← Resolver.take_extend hp, Workspace.resolver, Workspace.resolver,
      Resolver.takeAll_concat]

section Usual

open Platform.Usual

/-- A session is begun with a width that is no number and configured with one that is: what the
project file gives is taken for the other fields. -/
theorem History.configures_width :
    ∃ sc, History [.begin (some "/w") (.json (.object [("indentWidth", .string "2")]))] sc ∧
      ∃ c : Configured, c = sc.state.configure
        { home := ["w"],
          entries := [([".mmdlsp.toml"], .file (Utf8.encode "validator = 'command'".toList))] }
        (.json (.object [("indentWidth", .int 3), ("debounce", .string "fast")])) ∧
      c.fault = none ∧ c.session.settings.indentWidth = 3 ∧
      c.session.settings.validator = .command := by
  set files : FileTree :=
    { home := ["w"],
      entries := [([".mmdlsp.toml"], .file (Utf8.encode "validator = 'command'".toList))] }
  set o : Options := .json (.object [("indentWidth", .int 3), ("debounce", .string "fast")])
  have hsc := History.start.request ⟨files, ⟨false, none, 0, [], [], .reaped⟩, true⟩ 0
    (.begin (some "/w") (.json (.object [("indentWidth", .string "2")])))
  have htakes := (hsc.configures files o).2
  refine ⟨_, hsc, _, rfl, ?_⟩
  generalize hws : ({ workspace _ with givings := _ } : Workspace) = ws at htakes
  generalize hc : Session.configure files o _ = c at htakes ⊢
  have hfault : c.fault = none := by
    rw [← hc]
    exact Option.isNone_iff_eq_none.1 (by decide +kernel)
  have hwidth : ws.value? files .indentWidth =
      (some (3 : Nat) : Option Field.indentWidth.Value) := by
    rw [← hws]
    decide +kernel
  have hvalidator : ws.value? files .validator =
      (some ValidatorChoice.command : Option Field.validator.Value) := by
    rw [← hws]
    decide +kernel
  exact ⟨hfault, Option.some.inj ((htakes.value hfault .indentWidth).trans hwidth),
    Option.some.inj ((htakes.value hfault .validator).trans hvalidator)⟩

/-- A time that is too large for a double, and a project file that is not UTF-8, are faults. -/
theorem exists_begin_fault :
    (Session.begin { home := [] } none (.json (.object [("debounce", .int (10 ^ 400))])) {}).fault ≠
        none ∧
      (Session.begin { home := ["w"], entries := [([".mmdlsp.toml"], .file [0xFF])] } (some "/w")
        (.json .null) {}).fault ≠ none := by
  constructor
  · exact Option.ne_none_iff_isSome.2 (by decide +kernel)
  · exact Option.ne_none_iff_isSome.2 (by decide +kernel)

end Usual

end Session

end Mermaid
