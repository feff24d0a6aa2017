import Mathlib.Data.List.Induction
import Mermaid.Proofs.Editor.DiagnosticRange
import Mermaid.Proofs.Pipeline.Settlement
import Mermaid.Proofs.Session.Silence

/-!
# What the editor shows

An outcome is sent to the editor twice over: as diagnostics, and as a status. Both are sent in one
step, so the last diagnostics and the last status of an open document are those of one outcome. But
a marker that has no diagnostic sends none, and leaves the ones from before.

* `Session.perform_shown` lists all that a step can send about a document;
* `Session.Sequel.last_outcome` says what the editor shows of an open document, and when the
  diagnostics agree with the status.
-/

namespace Mermaid

/-! ## Outcomes are handed over whole -/

/-- Whether something is shown of an outcome: of a blank text, or of a verdict. -/
def Showing.IsOutcome (o : Showing) : Prop := o = .blank ∨ ∃ v, o = .ofVerdict v

/-- An outcome has no markers, or is an error with a single one. -/
lemma Showing.IsOutcome.cases {o : Showing} (ho : o.IsOutcome) :
    (o.markers = [] ∧ (o.status = .valid ∨ o.status = .empty)) ∨
      ∃ m, o.markers = [m] ∧ o.status = .error := by
  rcases ho with rfl | ⟨v, rfl⟩
  · exact .inl ⟨rfl, .inr rfl⟩
  · cases v with
    | ok => exact .inl ⟨rfl, .inl rfl⟩
    | error f => exact .inr ⟨_, rfl, rfl⟩

namespace Host

variable {V : Type} {env : Surroundings V} {now : Instant} {h : Host V}

/-- Whether no outcome is handed over under a name, or all of one. -/
def HandsOver (name : String) (es : List HostEvent) : Prop :=
  es = [] ∨ ∃ o : Showing, o.IsOutcome ∧
    es = [.published name o.markers, .reported name o.status o.message]

/-- Whatever happens to a pipeline, nothing or all of an outcome is handed over, when no receiver
raises an error. -/
lemma handsOver_changeEvents (name : String) (p : Pipeline) (hap : Happening) :
    HandsOver name (changeEvents name (p.respond {} hap)) := by
  cases hpossible : hap.isPossible p with
  | true =>
    have ht := Pipeline.respond_transition {} p hap hpossible
    generalize p.respond {} hap = c at ht
    cases ht with
    | cleared _ _ _ _ => exact .inr ⟨.blank, .inl rfl, rfl⟩
    | settled n v _ _ _ _ _ =>
      obtain ⟨hpublished, hreported, -, -⟩ := Pipeline.settle_showing v (p.drop n)
      refine .inr ⟨.ofVerdict v, .inr ⟨v, rfl⟩, ?_⟩
      rw [changeEvents, hpublished, hreported]
      rfl
    | _ => exact .inl rfl
  | false =>
    -- what is not possible hands nothing over
    left
    cases hap with
    | fire serial =>
      have hnot : (p.timer.any fun t => t.serial = serial) = false := hpossible
      rw [Pipeline.respond, Pipeline.fire, hnot, if_neg Bool.false_ne_true]
      rfl
    | finish n v =>
      have hnone : p.pass? n = none := by simpa [Happening.isPossible] using hpossible
      rw [Pipeline.respond, Pipeline.finish, hnone]
      rfl
    | cancel n => rfl
    | _ => cases hpossible

/-- So it is with a job. -/
lemma handsOver_handle [Platform] (henv : ∀ n, env.receivers n = {}) (j : HostJob) :
    ∃ name, HandsOver name (notices (handle env now j h).events) := by
  unfold handle
  cases hs : h.slots[j.slot]? with
  | none => exact ⟨"", .inl rfl⟩
  | some s =>
    refine ⟨s.name, ?_⟩
    dsimp only
    rw [notices_handleAt rfl, noticesOf, henv]
    cases j.happening? env s h with
    | none => exact .inl rfl
    | some hap => exact handsOver_changeEvents s.name s.pipeline hap

/-- So it is with all that comes of it, whichever notice is the next. -/
lemma handsOver_respond (henv : ∀ n, env.receivers n = {}) (n : Nat) (s : Slot V)
    (hap : Happening) :
    HandsOver s.name
      (notices (changeEvents s.name (s.pipeline.respond (env.receivers n) hap))) := by
  rw [henv, notices_changeEvents]
  exact handsOver_changeEvents s.name s.pipeline hap

/-- So it is with a new text for a pipeline. -/
lemma handsOver_update (henv : ∀ n, env.receivers n = {}) (i : Nat) (text : Text) :
    ∃ name, HandsOver name (notices (h.update env now i text).reaction.events) := by
  unfold update
  cases hs : h.slots[i]? with
  | none => exact ⟨"", .inl rfl⟩
  | some s => exact ⟨s.name, handsOver_respond henv h.publications s (.update now text)⟩

/-- So it is with a call to validate at once. -/
lemma handsOver_validateNow (henv : ∀ n, env.receivers n = {}) (i : Nat) (text : Option Text) :
    ∃ name, HandsOver name (notices (h.validateNow env i text).reaction.events) := by
  unfold validateNow
  cases hs : h.slots[i]? with
  | none => exact ⟨"", .inl rfl⟩
  | some s => exact ⟨s.name, handsOver_respond henv h.publications s (.validateNow text)⟩

end Host

namespace Session

variable {name : String} {w : World}

/-! ## What a step sends about a document -/

/-- What is sent about a document, of all that can be seen. -/
def noticesAbout (name : String) (es : List SessionEvent) : List SessionEvent :=
  es.filter fun e => e.name? = some name

/-- Only notices of a host are sent about a document. -/
lemma noticesAbout_filterMap (w : World) (name : String) (es : List HostEvent) :
    noticesAbout name (es.filterMap (visible w)) =
      noticesAbout name ((Host.notices es).filterMap (visible w)) := by
  rw [noticesAbout, noticesAbout, Host.notices, List.filter_filterMap, List.filter_filterMap,
    List.filterMap_filter]
  congr 1
  funext e
  cases hname : e.name? with
  | some other => rfl
  | none =>
    -- what is no notice of the host is about no document
    cases hvisible : visible w e with
    | none => rfl
    | some e' =>
      have hnone : e'.name? = none := (name?_of_visible hvisible).trans hname
      simp [hnone]

/-- What is sent of an outcome. -/
def sentOf (w : World) (name : String) (o : Showing) : List SessionEvent :=
  (sent w name o.markers).toList ++ [.status name o.status o.message]

lemma name?_of_mem_sentOf {other : String} {o : Showing} {e : SessionEvent}
    (he : e ∈ sentOf w other o) : e.name? = some other := by
  rcases List.mem_append.1 he with hsent | hstatus
  · exact name?_of_visible (e := .published other o.markers) (Option.mem_toList.1 hsent)
  · rw [List.mem_singleton.1 hstatus]
    rfl

lemma noticesAbout_sentOf (other : String) (o : Showing) :
    noticesAbout name (sentOf w other o) = if other = name then sentOf w other o else [] := by
  split
  · next hname =>
    refine List.filter_eq_self.2 fun e he => ?_
    rw [name?_of_mem_sentOf he, hname]
    exact decide_eq_true rfl
  · next hname =>
    refine List.filter_eq_nil_iff.2 fun e he => ?_
    rw [name?_of_mem_sentOf he]
    simpa using hname

/-- What a step sends about a document that it does not close: nothing, or an outcome. -/
inductive Shown (w : World) (name : String) : List SessionEvent → Prop
  | nothing : Shown w name []
  | outcome (o : Showing) : o.IsOutcome → w.connected = true → Shown w name (sentOf w name o)

lemma shown_of_handsOver {other : String} {es : List HostEvent}
    (hes : Host.HandsOver other (Host.notices es)) :
    Shown w name (noticesAbout name (es.filterMap (visible w))) := by
  rw [noticesAbout_filterMap]
  rcases hes with hnil | ⟨o, ho, hes⟩
  · rw [hnil]
    exact .nothing
  · rw [hes]
    cases hconnected : w.connected with
    | false =>
      simp only [List.filterMap_cons, List.filterMap_nil, visible, sent, hconnected]
      exact .nothing
    | true =>
      have hevents : [HostEvent.published other o.markers,
          .reported other o.status o.message].filterMap (visible w) = sentOf w other o := by
        simp only [List.filterMap_cons, List.filterMap_nil, visible, hconnected, if_true, sentOf]
        cases sent w other o.markers <;> rfl
      rw [hevents, noticesAbout_sentOf]
      split
      · next hname => exact hname ▸ .outcome o ho hconnected
      · exact .nothing

lemma receivers_surroundings (w : World) (n : Nat) : (surroundings w).receivers n = {} := rfl

/-- All that a step can send about a document: empty diagnostics when it closes the document, and
otherwise nothing or an outcome. -/
theorem perform_shown [Platform] (s : Session) (w : World) (now : Instant) (d : Deed)
    (name : String) :
    d = .answer (.closeDocument name) ∨
      Shown w name (noticesAbout name (s.perform w now d).events) := by
  have hquiet : Shown w name (noticesAbout name []) := .nothing
  have hrec := receivers_surroundings w
  cases d with
  | answer q =>
    cases q with
    | begin root options => exact .inr hquiet
    | configure options => exact .inr hquiet
    | validateDocument ticket other => exact .inr hquiet
    | layOut other => exact .inr hquiet
    | openDocument other text version =>
      obtain ⟨_, hes⟩ := Host.handsOver_validateNow hrec _ _
      exact .inr (shown_of_handsOver hes)
    | changeDocument other texts version =>
      right
      rw [perform, answer, changeDocument?]
      cases texts.getLast? with
      | none => exact hquiet
      | some text =>
        obtain ⟨_, hes⟩ := Host.handsOver_update hrec _ _
        exact shown_of_handsOver hes
    | closeDocument other =>
      by_cases hname : other = name
      · exact .inl (by rw [hname])
      · right
        have hnone : noticesAbout name (s.closeDocument w other).events = [] := by
          refine List.filter_eq_nil_iff.2 fun e he => ?_
          have habout := name?_of_visible (w := w) (e := .published other [])
            (Option.mem_toList.1 he)
          rw [habout]
          simpa [HostEvent.name?] using hname
        show Shown w name (noticesAbout name (s.closeDocument w other).events)
        rw [hnone]
        exact .nothing
  | work j =>
    right
    cases j with
    | host j =>
      obtain ⟨_, hes⟩ := Host.handsOver_handle hrec j
      exact shown_of_handsOver hes
    | answerNothing ticket => exact hquiet
    | validate ticket other =>
      show Shown w name (noticesAbout name (validateFor w now ticket other s).events)
      unfold validateFor
      split
      · next other doc _ =>
        obtain ⟨_, hes⟩ := Host.handsOver_handle hrec _
        exact shown_of_handsOver hes
      · exact hquiet

end Session

/-- The status of a document that is sent, if one is. -/
def SessionEvent.status? (name : String) : SessionEvent → Option RenderStatus
  | .status other drawn _ => if other = name then some drawn else none
  | _ => none

namespace Session

variable {name : String}

/-! ## The last outcome -/

/-- The status sent last about a document. -/
def lastStatus (name : String) (es : List SessionEvent) : Option RenderStatus :=
  (es.filterMap (SessionEvent.status? name)).getLast?

/-- Whether diagnostics agree with a status: an error has exactly one, and a valid or empty document
has none. -/
structure Agrees (status : RenderStatus) (ds : Option (List Diagnostic)) : Prop where
  error_iff : status = .error ↔ ∃ d, ds = some [d]
  fine_iff : status = .valid ∨ status = .empty ↔ ds = some []

/-- What is read of the notices about a document is read of all that can be seen. -/
private lemma filterMap_noticesAbout {α : Type} {f : SessionEvent → Option α}
    (hf : ∀ e, e.name? ≠ some name → f e = none) (es : List SessionEvent) :
    (noticesAbout name es).filterMap f = es.filterMap f := by
  rw [noticesAbout, List.filterMap_filter]
  congr 1
  funext e
  split
  · rfl
  · next hname => exact (hf e (by simpa using hname)).symm

lemma lastDiagnostics_noticesAbout (name : String) (es : List SessionEvent) :
    lastDiagnostics name (noticesAbout name es) = lastDiagnostics name es := by
  rw [lastDiagnostics, filterMap_noticesAbout, lastDiagnostics]
  intro e he
  cases e with
  | diagnostics other ds => exact if_neg fun hname => he (congrArg some hname)
  | _ => rfl

lemma lastStatus_noticesAbout (name : String) (es : List SessionEvent) :
    lastStatus name (noticesAbout name es) = lastStatus name es := by
  rw [lastStatus, filterMap_noticesAbout, lastStatus]
  intro e he
  cases e with
  | status other drawn message => exact if_neg fun hname => he (congrArg some hname)
  | _ => rfl

lemma lastDiagnostics_append_or (name : String) (es es' : List SessionEvent) :
    lastDiagnostics name (es ++ es') =
      (lastDiagnostics name es').or (lastDiagnostics name es) := by
  rw [lastDiagnostics, List.filterMap_append, List.getLast?_append]
  rfl

lemma lastStatus_append (name : String) (es es' : List SessionEvent) :
    lastStatus name (es ++ es') = (lastStatus name es').or (lastStatus name es) := by
  rw [lastStatus, List.filterMap_append, List.getLast?_append]
  rfl

/-- A last status is one that is sent. -/
lemma exists_status_of_lastStatus {es : List SessionEvent} {status : RenderStatus}
    (hes : lastStatus name es = some status) : ∃ message, .status name status message ∈ es := by
  obtain ⟨e, he, hstatus⟩ := List.mem_filterMap.1 (List.mem_of_getLast? hes)
  cases e with
  | status other drawn message =>
    obtain ⟨hname, hdrawn⟩ := Option.ite_some_none_eq_some.1 hstatus
    exact ⟨message, hname ▸ hdrawn ▸ he⟩
  | _ => cases hstatus

variable (name) in
/-- What can be read of an outcome that is sent. -/
lemma last_sentOf {w : World} (hconnected : w.connected = true) (o : Showing) :
    lastStatus name (sentOf w name o) = some o.status ∧
      lastDiagnostics name (sentOf w name o) = (Diagnostic.ofMarkers o.markers).toOption := by
  have hsent : (sent w name o.markers).toList.filterMap (SessionEvent.diagnostics? name) =
      (Diagnostic.ofMarkers o.markers).toOption.toList := by
    rw [sent, if_pos hconnected]
    cases Diagnostic.ofMarkers o.markers with
    | error e => rfl
    | ok ds => simp [SessionEvent.diagnostics?, Except.toOption]
  constructor
  · rw [sentOf, lastStatus_append]
    simp [lastStatus, SessionEvent.status?]
  · -- the status that follows is no diagnostics
    have hstatus : lastDiagnostics name [.status name o.status o.message] = none := rfl
    rw [sentOf, lastDiagnostics_append_or, hstatus, Option.none_or, lastDiagnostics, hsent]
    cases (Diagnostic.ofMarkers o.markers).toOption <;> rfl

/-- Whether a step sends an outcome about a document. -/
structure Step.Sends [Platform] (st : Step) (name : String) (o : Showing) : Prop where
  isOutcome : o.IsOutcome
  connected : st.world.connected = true
  notices : noticesAbout name st.events = sentOf st.world name o

/-- A step that does not close a document sends nothing about it, or an outcome. -/
lemma Step.notices_or_sends [Platform] {st : Step}
    (hopen : st.deed ≠ .answer (.closeDocument name)) :
    noticesAbout name st.events = [] ∨ ∃ o, st.Sends name o := by
  have hshown : Shown st.world name (noticesAbout name st.events) :=
    (perform_shown st.before st.world st.now st.deed name).resolve_left hopen
  generalize hes : noticesAbout name st.events = es at hshown
  cases hshown with
  | nothing => exact .inl rfl
  | outcome o ho hconnected => exact .inr ⟨o, ho, hconnected, hes⟩

/-- A step that sends a status sends an outcome. -/
lemma Step.exists_sends [Platform] {st : Step} {status : RenderStatus} {message : Option Json}
    (hst : .status name status message ∈ st.events) : ∃ o, st.Sends name o := by
  have hmem : SessionEvent.status name status message ∈ noticesAbout name st.events :=
    List.mem_filter.2 ⟨hst, decide_eq_true rfl⟩
  by_cases hclosed : st.deed = .answer (.closeDocument name)
  · -- closing a document sends no status
    have hevents : st.events = (sent st.world name []).toList := by
      rw [Step.events, Step.reaction, hclosed]
      rfl
    rw [hevents, sent_nil] at hst
    split at hst
    · simp at hst
    · cases hst
  · rcases Step.notices_or_sends hclosed with hnone | hsends
    · rw [hnone] at hmem
      cases hmem
    · exact hsends

/-- Some steps, the first of which sends an outcome and of which no other one closes the document:
one of them sends the last outcome. -/
lemma exists_last_sends [Platform] {st : Step} {o : Showing} (hst : st.Sends name o)
    {later : List Step} (hopen : ∀ st' ∈ later, st'.deed ≠ .answer (.closeDocument name)) :
    ∃ past last rest o, st :: later = past ++ last :: rest ∧ Step.Sends last name o ∧
      ∀ st' ∈ rest, noticesAbout name st'.events = [] := by
  induction later using List.reverseRecOn with
  | nil => exact ⟨[], st, [], o, rfl, hst, List.forall_mem_nil _⟩
  | append_singleton later st' ih =>
    obtain ⟨past, last, rest, o', heq, hlast, hrest⟩ :=
      ih fun st' hst' => hopen st' (List.mem_append_left _ hst')
    have hnew := hopen st' (List.mem_append_right _ (List.mem_singleton_self st'))
    rcases Step.notices_or_sends hnew with hnone | ⟨o'', hsends⟩
    · -- the last outcome is still that of the step before
      refine ⟨past, last, rest ++ [st'], o', ?_, hlast, ?_⟩
      · rw [← List.cons_append, heq, List.append_assoc, List.cons_append]
      · intro st'' hst''
        rcases List.mem_append.1 hst'' with hold | hlast
        · exact hrest st'' hold
        · rw [List.mem_singleton.1 hlast]
          exact hnone
    · exact ⟨st :: later, st', [], o'', rfl, hsends, List.forall_mem_nil _⟩

/-- Nothing about a document is read of steps that send nothing about it. -/
lemma last_of_silent [Platform] {steps : List Step}
    (hsteps : ∀ st ∈ steps, noticesAbout name st.events = []) :
    lastStatus name (steps.flatMap Step.events) = none ∧
      lastDiagnostics name (steps.flatMap Step.events) = none := by
  have hnone : noticesAbout name (steps.flatMap Step.events) = [] := by
    rw [noticesAbout, List.filter_eq_nil_iff]
    intro e he
    obtain ⟨st, hst, he⟩ := List.mem_flatMap.1 he
    exact List.filter_eq_nil_iff.1 (hsteps st hst) e he
  rw [← lastStatus_noticesAbout, ← lastDiagnostics_noticesAbout, hnone]
  exact ⟨rfl, rfl⟩

lemma agrees_error_iff {ds : Option (List Diagnostic)} : Agrees .error ds ↔ ∃ d, ds = some [d] := by
  refine ⟨fun h => h.error_iff.1 rfl, fun ⟨d, hd⟩ => ?_⟩
  rw [hd]
  exact ⟨iff_of_true rfl ⟨d, rfl⟩, iff_of_false nofun nofun⟩

lemma exists_of_length_eq_one {ds : Option (List Diagnostic)} (hds : ds.map List.length = some 1) :
    ∃ d, ds = some [d] := by
  obtain ⟨ds', rfl, hlength⟩ := Option.map_eq_some_iff.1 hds
  obtain ⟨d, rfl⟩ := List.length_eq_one_iff.1 hlength
  exact ⟨d, rfl⟩

/-- Diagnostics of an outcome agree with its status when all its markers can be sent; otherwise it
depends on the ones from before. -/
lemma agrees_iff {o : Showing} (ho : o.IsOutcome) (before : Option (List Diagnostic)) :
    Agrees o.status ((Diagnostic.ofMarkers o.markers).toOption.or before) ↔
      (∀ m ∈ o.markers, m.IsSendable) ∨ ∃ d, before = some [d] := by
  rcases ho.cases with ⟨hmarkers, hstatus⟩ | ⟨m, hmarkers, hstatus⟩
  · -- without markers there are empty diagnostics
    have hempty : (Diagnostic.ofMarkers []).toOption.or before = some [] := rfl
    have hne : o.status ≠ .error := by
      rcases hstatus with h | h <;> rw [h] <;> decide
    have hnot : ¬∃ d : Diagnostic, some ([] : List Diagnostic) = some [d] := by simp
    rw [hmarkers, hempty]
    exact iff_of_true ⟨iff_of_false hne hnot, iff_of_true hstatus rfl⟩
      (.inl (List.forall_mem_nil _))
  · rw [hmarkers, hstatus, agrees_error_iff, List.forall_mem_singleton,
      ← Diagnostic.exists_ofMarker_iff]
    cases hmarker : Diagnostic.ofMarker m with
    | error obstacle =>
      have hnone : (Diagnostic.ofMarkers [m]).toOption = none := by
        simp [Diagnostic.ofMarkers, hmarker, bind, Except.bind, Except.toOption]
      have hnot : ¬∃ d, (Except.error obstacle : Except _ Diagnostic) = .ok d := by simp
      rw [hnone, Option.none_or]
      exact (or_iff_right hnot).symm
    | ok d =>
      have hsome : (Diagnostic.ofMarkers [m]).toOption = some [d] := by
        simp [Diagnostic.ofMarkers, hmarker, bind, Except.bind, pure, Except.pure, Except.toOption]
      rw [hsome, Option.some_or]
      exact iff_of_true ⟨d, rfl⟩ (.inl ⟨d, rfl⟩)

/-- **What the editor shows.** Once a status has been sent about a document that is not closed
afterwards, the last status is that of the last outcome that has been sent. The last diagnostics are
those of its markers, or the ones from before if a marker has none. They agree with the status if
and only if all markers of the outcome can be sent, or the ones from before happen to be a single
one. -/
theorem Sequel.last_outcome [Platform] {earlier later : List Step} {st : Step}
    {sc : Scene Session SessionJob SessionEvent}
    (hrun : Sequel { state := {} } (earlier ++ st :: later) sc)
    (hst : ∃ status message, .status name status message ∈ st.events)
    (hopen : ∀ st' ∈ later, st'.deed ≠ .answer (.closeDocument name)) :
    ∃ past last rest o, earlier ++ st :: later = past ++ last :: rest ∧
      Step.Sends last name o ∧ (∀ st' ∈ rest, noticesAbout name st'.events = []) ∧
      lastStatus name sc.events = some o.status ∧
      lastDiagnostics name sc.events = (Diagnostic.ofMarkers o.markers).toOption.or
        (lastDiagnostics name (past.flatMap Step.events)) ∧
      (Agrees o.status (lastDiagnostics name sc.events) ↔
        (∀ m ∈ o.markers, m.IsSendable) ∨
          ∃ d, lastDiagnostics name (past.flatMap Step.events) = some [d]) := by
  obtain ⟨status, message, hst⟩ := hst
  obtain ⟨o, hsends⟩ := Step.exists_sends hst
  obtain ⟨past, last, rest, o, heq, hlast, hrest⟩ := exists_last_sends hsends hopen
  obtain ⟨hstatus, hdiagnostics⟩ := last_sentOf name hlast.connected o
  obtain ⟨hnoStatus, hnoDiagnostics⟩ := last_of_silent hrest
  -- what the last outcome sends is all that its step sends about the document
  rw [← hlast.notices, lastStatus_noticesAbout] at hstatus
  rw [← hlast.notices, lastDiagnostics_noticesAbout] at hdiagnostics
  have hsteps : earlier ++ st :: later = (earlier ++ past) ++ last :: rest := by
    rw [heq, List.append_assoc]
  have hevents : sc.events = (earlier ++ past).flatMap Step.events ++
      (last.events ++ rest.flatMap Step.events) := by
    rw [hrun.events_eq, hsteps, List.flatMap_append, List.flatMap_cons]
    rfl
  have hshown : lastDiagnostics name sc.events = (Diagnostic.ofMarkers o.markers).toOption.or
      (lastDiagnostics name ((earlier ++ past).flatMap Step.events)) := by
    rw [hevents, lastDiagnostics_append_or, lastDiagnostics_append_or, hnoDiagnostics,
      Option.none_or, hdiagnostics]
  refine ⟨earlier ++ past, last, rest, o, hsteps, hlast, hrest, ?_, hshown, ?_⟩
  · rw [hevents, lastStatus_append, lastStatus_append, hnoStatus, Option.none_or, hstatus,
      Option.some_or]
  · rw [hshown]
    exact agrees_iff hlast.isOutcome _

section Usual

open Platform.Usual

/-- A document is opened whose text is rejected: the editor shows an error and its diagnostic. -/
theorem Sequel.last_outcome_rejected :
    ∃ steps sc, Sequel { state := {} } steps sc ∧ ∃ o : Showing, o.IsOutcome ∧ o.status = .error ∧
      lastStatus "a" sc.events = some o.status ∧
      Agrees o.status (lastDiagnostics "a" sc.events) := by
  let w : World := ⟨⟨[], [], []⟩, ⟨false, none, 0, [], [], .reaped⟩, true⟩
  have hrun := (Sequel.start : Sequel { state := {} } [] _)
    |>.step w 0 (.answer (.openDocument "a" ['x'] 1)) (.answer _)
    |>.step w 0 (.work (.host (.begin 0 1))) (.work (.refl _))
  obtain ⟨past, last, rest, o, -, hlast, -, hstatus, -, -⟩ :=
    @Sequel.last_outcome "a" _ _ [] _ _ hrun
      ⟨.error, exists_status_of_lastStatus (by decide +kernel)⟩ (List.forall_mem_nil _)
  have herror : some RenderStatus.error = some o.status :=
    Eq.trans (by decide +kernel) hstatus
  refine ⟨_, _, hrun, o, hlast.isOutcome, (Option.some.inj herror).symm, hstatus, ?_⟩
  rw [← Option.some.inj herror, agrees_error_iff]
  refine exists_of_length_eq_one ?_
  decide +kernel

/-- A command objects with a message that is not a string: the editor can be reached all the time
and shows an error for the open document, but no diagnostic. -/
theorem Sequel.not_forall_agrees :
    ¬ ∀ (steps : List Step) (sc : Scene Session SessionJob SessionEvent) (name : String)
        (status : RenderStatus), Sequel { state := {} } steps sc →
      (sc.state.documents.get? name).isSome → (∀ st ∈ steps, st.world.connected = true) →
      lastStatus name sc.events = some status → Agrees status (lastDiagnostics name sc.events) := by
  intro h
  let answer : Bytes := Utf8.encode "\x7b\"message\": 5\x7d".toList
  let w : World := ⟨⟨[], [], []⟩, ⟨true, some 0, 1, answer, [], .reaped⟩, true⟩
  have hrun := (Sequel.start : Sequel { state := {} } [] _)
    |>.step w 0 (.answer (.begin none (.json (.object [("validator", .string "command")]))))
      (.answer _)
    |>.step w 0 (.answer (.openDocument "a" ['x'] 1)) (.answer _)
    |>.step w 0 (.work (.host (.begin 0 1))) (.work (.refl _))
    |>.step w 0 (.work _) (.work (.refl _))
    |>.step w 0 (.work _) (.work (.refl _))
    |>.step w 0 (.work _) (.work (.refl _))
  have hagrees := h _ _ "a" .error hrun (by decide +kernel) (by simp [w]) (by decide +kernel)
  obtain ⟨d, hd⟩ := agrees_error_iff.1 hagrees
  have hnone : Option.isNone (some [d]) = true := hd ▸ (by decide +kernel)
  cases hnone

end Usual

end Session

end Mermaid
