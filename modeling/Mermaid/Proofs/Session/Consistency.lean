import Mermaid.Proofs.Session.History
import Mermaid.Proofs.Session.Serving
import Mermaid.Proofs.Settings.Choice

/-!
# Sessions are consistent

Whatever an editor asks and in whatever order the work is done, the open documents and the pipelines
of a session belong together. Requests that are refused half-way leave it so.

The invariant is `Session.Consistent`. It holds of the texts that the editor has handed in, so a
request changes what it is about (`Session.Consistent.answer`), and a job does not
(`Session.Consistent.handle`).
-/

namespace Mermaid

/-- Whether a job of a session brings a text of its own. -/
def SessionJob.isFlush : SessionJob → Bool
  | .host j => j.isFlush
  | _ => false

/-! ## Jobs that bring no text -/

namespace Host

variable {V : Type} {env : Surroundings V} {now : Instant}

lemma isFlush_of_mem_handle [Platform] {j : HostJob} {h : Host V} :
    ∀ j' ∈ (handle env now j h).jobs, j'.isFlush = false := by
  intro j' hj'
  unfold handle at hj'
  split at hj'
  · simp [unchanged, Reaction.jobs] at hj'
  · exact (successor_of_mem rfl j' hj').isFlush

end Host

namespace Session

variable {s : Session} {texts : String → Option Text} {name : String}

lemma jobs_lift (w : World) (s : Session) (r : Reaction (Host Validator) HostJob HostEvent) :
    (s.lift w r).jobs = r.jobs.map .host := by
  simp only [Reaction.jobs, lift, List.map_append, List.map_map]
  rfl

lemma isFlush_of_mem_lift {w : World} {r : Reaction (Host Validator) HostJob HostEvent}
    (hr : ∀ j ∈ r.jobs, j.isFlush = false) : ∀ j ∈ (s.lift w r).jobs, j.isFlush = false := by
  intro j hj
  rw [jobs_lift] at hj
  obtain ⟨j', hj', rfl⟩ := List.mem_map.1 hj
  exact hr j' hj'

/-! ## The invariant -/

/-- Whether the documents of a session have the given texts, and its pipelines serve them. The
settings have selected the validator, and the client has given no command line without words. -/
structure Consistent (texts : String → Option Text) (s : Session) : Prop where
  documents : ∀ name, (s.documents.get? name).map Document.text = texts name
  serves : s.Serves texts
  selected : Validator.ofSettings s.settings = .ok s.validator
  words : s.resolver.client.HasWords

lemma Consistent.start : Consistent (fun _ => none) {} where
  documents := fun _ => rfl
  serves := ⟨nofun, fun _ _ => rfl⟩
  selected := rfl
  words := Settings.hasWords_empty

/-- A pipeline that is new changes nothing of the session besides. -/
lemma pipelineFor_frame (s : Session) (name : String) : (s.pipelineFor name).1 = { s with
    host := (s.pipelineFor name).1.host, pipelines := (s.pipelineFor name).1.pipelines } := by
  unfold Session.pipelineFor
  split <;> rfl

/-- The pipeline of a document is given a text that the document has got. -/
lemma Consistent.entered (hs : s.Serves texts) (name : String) (text : Text) (hap : Happening)
    (htexts : ∀ other, (s.documents.get? other).map Document.text =
      Function.update texts name (some text) other)
    (hselected : Validator.ofSettings s.settings = .ok s.validator)
    (hwords : s.resolver.client.HasWords) {host : Host Validator} {r : Receivers}
    (hhap : hap.isEntry = true) (htext : hap.text? = some text)
    (hhost : ∀ slot, (s.pipelineFor name).1.host.slots[(s.pipelineFor name).2]? = some slot →
      host.slots = (s.pipelineFor name).1.host.slots.set (s.pipelineFor name).2 { slot with
        pipeline := (slot.pipeline.respond r hap).pipeline }) :
    Consistent (Function.update texts name (some text))
      { (s.pipelineFor name).1 with host := host } := by
  obtain ⟨hserves, hname⟩ := hs.pipelineFor name
  have hentered := hserves.entered hname text hhap htext hhost
  rw [Function.update_idem] at hentered
  have hframe := pipelineFor_frame s name
  refine ⟨fun other => ?_, hentered, ?_, ?_⟩
  · rw [hframe]
    exact htexts other
  · rw [hframe]
    exact hselected
  · rw [hframe]
    exact hwords

/-! ## Configuration -/

/-- A session keeps consistent whether it takes settings or not. -/
lemma Consistent.applySettings [Platform] (hs : s.Consistent texts) (files : FileTree) :
    Consistent texts (s.applySettings files).session := by
  unfold Session.applySettings
  dsimp only
  cases hresolve : (s.resolver.resolve files).result with
  | error f => exact hs
  | ok new =>
    obtain ⟨v, hv⟩ := Resolver.exists_validator hs.words hresolve
    simp only [accept, hv]
    exact ⟨hs.documents, hs.serves.equip v new _, hv, hs.words⟩

lemma Consistent.adopt [Platform] (hs : s.Consistent texts) (files : FileTree)
    {given : Settings.Reading Settings.Patch} {change : Resolver → Settings.Patch → Resolver}
    (hgiven : ∀ p, given.result = .ok p → (change s.resolver p).client.HasWords) :
    Consistent texts (s.adopt files given change).session := by
  unfold Session.adopt
  cases hresult : given.result with
  | error f => exact hs
  | ok p =>
    have hresolver : Consistent texts { s with resolver := change s.resolver p } :=
      ⟨hs.documents, hs.serves.withResolver _, hs.selected, hgiven p hresult⟩
    exact hresolver.applySettings files

/-! ## Requests and jobs -/

/-- A request about one document changes the text of that one. -/
lemma textAfter_eq_update {q : Request} {held : Option Text}
    (hself : q.textAfter name (texts name) = held)
    (hother : ∀ other, name ≠ other → q.textAfter other (texts other) = texts other) :
    (fun other => q.textAfter other (texts other)) = Function.update texts name held := by
  funext other
  by_cases hname : name = other
  · subst hname
    rw [Function.update_self, hself]
  · rw [Function.update_of_ne (Ne.symm hname), hother other hname]

/-- A document that has got a text has it from then on. -/
lemma Consistent.text_insert (hs : s.Consistent texts) (name : String) (text : Text)
    (version : Int) (other : String) :
    ((s.documents.insert name ⟨text, version⟩).get? other).map Document.text =
      Function.update texts name (some text) other := by
  rw [ByName.get?_insert, Function.update_apply]
  split
  · rfl
  · exact hs.documents other

/-- A new text of a document is entered into its pipeline. -/
lemma Consistent.changeTo (hs : s.Consistent texts) (w : World) (now : Instant) (name : String)
    (text : Text) (version : Int) :
    Consistent (Function.update texts name (some text))
      (s.changeTo w now name text version).state :=
  entered (hs.serves.withDocuments _) name text (.update now text)
    (hs.text_insert name text version) hs.selected hs.words rfl rfl
    fun _ hslot => Host.slots_update text hslot

lemma Consistent.openDocument (hs : s.Consistent texts) (w : World) (name : String) (text : Text)
    (version : Int) :
    Consistent (Function.update texts name (some text))
      (s.openDocument w name text version).state :=
  entered (hs.serves.withDocuments _) name text (.validateNow (some text))
    (hs.text_insert name text version) hs.selected hs.words rfl rfl
    fun _ hslot => Host.slots_validateNow _ hslot

lemma Consistent.closeDocument (hs : s.Consistent texts) (w : World) (name : String) :
    Consistent (Function.update texts name none) (s.closeDocument w name).state where
  documents := by
    intro other
    show ((s.documents.erase name).get? other).map Document.text = _
    rw [ByName.get?_erase, Function.update_apply]
    split
    · rfl
    · exact hs.documents other
  serves := (hs.serves.erase name).withDocuments _
  selected := hs.selected
  words := hs.words

/-- A request leaves a session consistent with the texts that documents have after it. -/
theorem Consistent.answer [Platform] (hs : s.Consistent texts) (w : World) (now : Instant)
    (q : Request) :
    Consistent (fun name => q.textAfter name (texts name)) (s.answer w now q).state := by
  cases q with
  | begin root options =>
    have hresolver : Consistent texts { s with resolver := { root := root } } :=
      ⟨hs.documents, hs.serves.withResolver _, hs.selected, Settings.hasWords_empty⟩
    exact hresolver.adopt w.files fun p hp => Settings.ofOptions_hasWords hp
  | configure options =>
    exact hs.adopt w.files fun p hp => (Settings.ofOptions_hasWords hp).orElse hs.words
  | openDocument name text version =>
    rw [textAfter_eq_update (q := .openDocument name text version) (if_pos rfl)
      fun other hne => if_neg hne]
    exact hs.openDocument w name text version
  | changeDocument name newTexts version =>
    rw [textAfter_eq_update (q := .changeDocument name newTexts version) (if_pos rfl)
      fun other hne => if_neg hne]
    cases hlast : newTexts.getLast? with
    | none =>
      -- a change without a text is refused
      rw [Option.none_or, Function.update_eq_self, Session.answer, changeDocument?, hlast]
      exact hs
    | some text =>
      rw [Option.some_or, Session.answer, changeDocument?, hlast]
      exact hs.changeTo w now name text version
  | closeDocument name =>
    rw [textAfter_eq_update (q := .closeDocument name) (if_pos rfl)
      fun other hne => if_neg hne]
    exact hs.closeDocument w name
  | validateDocument ticket name => exact hs
  | layOut name => exact hs

/-- A job that brings no text leaves a session consistent. -/
theorem Consistent.handle [Platform] (hs : s.Consistent texts) (w : World) (now : Instant)
    {j : SessionJob} (hj : j.isFlush = false) : Consistent texts (handle w now j s).state := by
  cases j with
  | host j => exact ⟨hs.documents, hs.serves.work _ now hj, hs.selected, hs.words⟩
  | answerNothing ticket => exact hs
  | validate ticket name =>
    show Consistent texts (validateFor w now ticket name s).state
    unfold validateFor
    split
    · next name doc hnamed =>
      -- the text that is handed in is the one that the document has got
      have htext : texts name = some doc.text := by
        have hdoc : s.documents.get? name = some doc := by
          rw [named?] at hnamed
          split at hnamed
          · cases hnamed
          · exact hnamed
        rw [← hs.documents name, hdoc]
        rfl
      have hsame : Function.update texts name (some doc.text) = texts := by
        rw [← htext, Function.update_eq_self]
      have hdocuments : ∀ other, (s.documents.get? other).map Document.text =
          Function.update texts name (some doc.text) other := by
        rw [hsame]
        exact hs.documents
      rw [← hsame]
      exact entered hs.serves name doc.text (.flush ticket (some doc.text)) hdocuments hs.selected
        hs.words rfl rfl fun _ hslot => Host.slots_flush ticket _ hslot
    · exact hs

/-- What a request leaves to do brings no text. -/
lemma isFlush_of_mem_answer [Platform] {w : World} {now : Instant} {q : Request} :
    ∀ j ∈ (s.answer w now q).jobs, j.isFlush = false := by
  cases q with
  | openDocument name text version =>
    apply isFlush_of_mem_lift
    intro j hj
    obtain ⟨n, rfl⟩ := Host.jobs_validateNow j hj
    rfl
  | changeDocument name texts version =>
    rw [Session.answer, changeDocument?]
    cases texts.getLast? with
    | none => simp [Reaction.jobs]
    | some text =>
      apply isFlush_of_mem_lift
      intro j hj
      rcases Host.jobs_update j hj with ⟨n, rfl⟩ | ⟨serial, rfl⟩ <;> rfl
  | validateDocument ticket name =>
    simp [Session.answer, validateDocument, Reaction.jobs, SessionJob.isFlush]
  | begin root options => simp [Session.answer, Reaction.jobs]
  | configure options => simp [Session.answer, Reaction.jobs]
  | closeDocument name => simp [Session.answer, closeDocument, Reaction.jobs]
  | layOut name => simp [Session.answer, Reaction.jobs]

/-- What a job leaves to do brings no text. -/
lemma isFlush_of_mem_handle [Platform] {w : World} {now : Instant} {j : SessionJob} :
    ∀ j' ∈ (handle w now j s).jobs, j'.isFlush = false := by
  cases j with
  | host j => exact isFlush_of_mem_lift Host.isFlush_of_mem_handle
  | answerNothing ticket => simp [Session.handle, Reaction.jobs]
  | validate ticket name =>
    show ∀ j' ∈ (validateFor w now ticket name s).jobs, j'.isFlush = false
    unfold validateFor
    split
    · exact isFlush_of_mem_lift Host.isFlush_of_mem_handle
    · simp [Reaction.jobs, SessionJob.isFlush]

/-! ## Histories -/

/-- Along every history the session is consistent with the texts that the editor has handed in, and
no job brings a text of its own. -/
lemma History.keeps [Platform] {qs : List Request} {sc : Scene Session SessionJob SessionEvent}
    (hsc : History qs sc) :
    Consistent (heldText qs) sc.state ∧ ∀ j ∈ sc.jobs, j.isFlush = false := by
  induction hsc with
  | start => exact ⟨.start, nofun⟩
  | request w now q _ ih =>
    refine ⟨?_, fun j hj => ?_⟩
    · have hanswer := ih.1.answer w now q
      simp only [← heldText_concat] at hanswer
      exact hanswer
    · rcases mem_jobs_after.1 hj with hold | hnew
      · exact ih.2 j hold
      · exact isFlush_of_mem_answer j hnew
  | @work _ _ job rest w now _ hperm ih =>
    have hjobs : ∀ j ∈ job :: rest, j.isFlush = false := fun j hj => ih.2 j (hperm.mem_iff.2 hj)
    refine ⟨ih.1.handle w now (hjobs _ List.mem_cons_self), fun j hj => ?_⟩
    rcases mem_jobs_after.1 hj with hold | hnew
    · exact hjobs j (List.mem_cons_of_mem _ hold)
    · exact isFlush_of_mem_handle j hnew

/-- **Sessions are consistent.** After any requests, those included that are refused, and any work
in between, the documents are those that the editor has open, with their last texts. Exactly these
have a pipeline; it is open, has the text of its document, and the validator and the delay of the
session. The validator is the one that the settings select. -/
theorem History.consistent [Platform] {qs : List Request}
    {sc : Scene Session SessionJob SessionEvent} (hsc : History qs sc) :
    (∀ name, (sc.state.documents.get? name).map Document.text = heldText qs name) ∧
      (∀ name, (sc.state.pipelines.get? name).isSome = (sc.state.documents.get? name).isSome) ∧
      (∀ name i, sc.state.pipelines.get? name = some i → ∃ slot doc,
        sc.state.host.slots[i]? = some slot ∧ sc.state.documents.get? name = some doc ∧
          slot.name = name ∧ slot.pipeline.isClosed = false ∧ slot.pipeline.text = doc.text ∧
          slot.validator = sc.state.validator ∧
          slot.pipeline.delay = sc.state.settings.debounce) ∧
      Validator.ofSettings sc.state.settings = .ok sc.state.validator := by
  have hs : Consistent (heldText qs) sc.state := hsc.keeps.1
  refine ⟨hs.documents, fun name => ?_, fun name i hname => ?_, hs.selected⟩
  · have hdocument := hs.documents name
    cases htext : heldText qs name with
    | none =>
      rw [htext, Option.map_eq_none_iff] at hdocument
      rw [hs.serves.unserved name htext, hdocument]
      rfl
    | some text =>
      rw [htext, Option.map_eq_some_iff] at hdocument
      obtain ⟨doc, hdoc, -⟩ := hdocument
      obtain ⟨i, -, hname, -⟩ := hs.serves.served name text htext
      rw [hname, hdoc]
      rfl
  · obtain ⟨text, slot, htext, hslot, hserves⟩ := hs.serves.slot hname
    have hdocument := (hs.documents name).trans htext
    obtain ⟨doc, hdoc, rfl⟩ := Option.map_eq_some_iff.1 hdocument
    exact ⟨slot, doc, hslot, hdoc, hserves.name, hserves.isOpen, hserves.text, hserves.validator,
      hserves.delay⟩

section Usual

open Platform.Usual

/-- A document is changed before it is opened, and opened twice; then a change without a text is
refused, a document that is not open is closed, and the first of two passes ends. -/
theorem History.consistent_unopened :
    ∃ sc, History
        [.changeDocument "a" [['x']] 1, .openDocument "a" ['y'] 2, .openDocument "a" ['z'] 3,
          .changeDocument "a" [] 4, .closeDocument "b"] sc ∧
      sc.state.pipelines.get? "a" = some 0 ∧ sc.state.pipelines.get? "b" = none ∧
      ∃ slot, sc.state.host.slots[0]? = some slot ∧ slot.pipeline.isClosed = false ∧
        slot.pipeline.text = ['z'] ∧ slot.pipeline.inFlight.map Pass.number = [2] ∧
        slot.validator = sc.state.validator ∧
        slot.pipeline.delay = sc.state.settings.debounce := by
  let w : World := ⟨⟨[], [], []⟩, ⟨false, none, 0, [], [], .reaped⟩, true⟩
  have hsc := History.start
    |>.request w 0 (.changeDocument "a" [['x']] 1)
    |>.request w 0 (.openDocument "a" ['y'] 2)
    |>.request w 1 (.openDocument "a" ['z'] 3)
    |>.request w 1 (.changeDocument "a" [] 4)
    |>.request w 2 (.closeDocument "b")
    |>.work w 2 (List.Perm.swap _ _ _)
  obtain ⟨-, -, hpipelines, -⟩ := hsc.consistent
  obtain ⟨slot, doc, hslot, hdoc, -, hopen, htext, hvalidator, hdelay⟩ :=
    hpipelines "a" 0 (by decide +kernel)
  obtain rfl : ⟨['z'], 3⟩ = doc := Option.some.inj hdoc
  refine ⟨_, hsc, by decide +kernel, by decide +kernel, slot, hslot, hopen, htext, ?_, hvalidator,
    hdelay⟩
  obtain rfl := Option.some.inj hslot
  decide +kernel

end Usual

end Session

end Mermaid
