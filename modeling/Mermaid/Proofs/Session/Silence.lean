import Mermaid.Proofs.Session.Slots

/-!
# Silence after closing

Once the editor has closed a document, a session sends it nothing about the document any more, until
it is opened or changed again. What was under way when it was closed stays silent even then: passes
go on, timers fall due and callers get their answers, but all this is about a pipeline that is over.

* `Session.Sequel` strings together what a session does from a scene on;
* `Session.Outcome.notice` says where a notice to the editor can come from.
-/

namespace Mermaid

/-- The diagnostics of a document that are sent, if any are. -/
def SessionEvent.diagnostics? (name : String) : SessionEvent → Option (List Diagnostic)
  | .diagnostics other ds => if other = name then some ds else none
  | _ => none

namespace Session

/-! ## What comes after a scene -/

/-- Whether some jobs are left of others when a deed is done: a request takes none of them. -/
inductive Deed.Leaves (jobs : List SessionJob) : Deed → List SessionJob → Prop
  | answer (q : Request) : Leaves jobs (.answer q) jobs
  | work {j : SessionJob} {rest : List SessionJob} : jobs.Perm (j :: rest) →
      Leaves jobs (.work j) rest

/-- A deed of a session, with the session before it, and the world and the time then. -/
structure Step where
  before : Session
  world : World
  now : Instant
  deed : Deed

namespace Step

/-- What comes of a step. -/
def reaction [Platform] (st : Step) : Reaction Session SessionJob SessionEvent :=
  st.before.perform st.world st.now st.deed

/-- What can be seen of a step. -/
def events [Platform] (st : Step) : List SessionEvent := st.reaction.events

/-- The request that a step answers, if it answers one. -/
def request? (st : Step) : Option Request :=
  match st.deed with
  | .answer q => some q
  | .work _ => none

/-- Whether a step gives a text to a document that has none: it opens the document, or changes
it. -/
def GivesText (name : String) (st : Step) : Prop :=
  ∃ q, st.deed = .answer q ∧ q.textAfter name none ≠ none

end Step

/-- The steps that lead from one scene to another. -/
inductive Sequel [Platform] (sc₀ : Scene Session SessionJob SessionEvent) :
    List Step → Scene Session SessionJob SessionEvent → Prop
  | start : Sequel sc₀ [] sc₀
  | step {steps : List Step} {sc : Scene Session SessionJob SessionEvent}
      {rest : List SessionJob} (w : World) (now : Instant) (d : Deed) : Sequel sc₀ steps sc →
        d.Leaves sc.jobs rest →
        Sequel sc₀ (steps ++ [⟨sc.state, w, now, d⟩])
          (Scene.after (sc.state.perform w now d) rest sc.events)

namespace Sequel

variable {sc₀ sc : Scene Session SessionJob SessionEvent} {steps : List Step} {qs : List Request}

/-- An event loop that works for a session goes on with its sequel. -/
theorem run [Platform] {w : World} (limit : Instant) (l : EventLoop Session SessionJob)
    (hrun : Sequel sc₀ steps sc) (hl : l.IsShownBy sc) :
    ∃ steps' sc', Sequel sc₀ steps' sc' ∧ (EventLoop.run (machine w) limit l).1.IsShownBy sc' ∧
      sc'.events = sc.events ++ (EventLoop.run (machine w) limit l).2 := by
  have hstays : (machine w).StaysIn fun sc => ∃ steps, Sequel sc₀ steps sc :=
    fun now _ j _ ⟨_, hrun⟩ hjobs => ⟨_, hrun.step w now (.work j) (.work hjobs)⟩
  obtain ⟨sc', ⟨steps', hrun'⟩, hshown, hevents⟩ := hstays.run limit l ⟨steps, hrun⟩ hl
  exact ⟨steps', sc', hrun', hshown, hevents⟩

/-- A history goes on along a sequel. -/
lemma history [Platform] (hrun : Sequel sc₀ steps sc) (hsc₀ : History qs sc₀) :
    History (qs ++ steps.filterMap Step.request?) sc := by
  induction hrun with
  | start => rwa [List.filterMap_nil, List.append_nil]
  | step w now d _ hleaves ih =>
    rw [List.filterMap_append, ← List.append_assoc]
    cases hleaves with
    | answer q => exact ih.request w now q
    | work hperm =>
      rw [List.filterMap_cons_none rfl, List.filterMap_nil, List.append_nil]
      exact ih.work w now hperm

/-- A step comes after a shorter sequel. -/
lemma of_mem [Platform] (hrun : Sequel sc₀ steps sc) : ∀ st ∈ steps, ∃ earlier sc',
    Sequel sc₀ earlier sc' ∧ earlier ⊆ steps ∧ st.before = sc'.state := by
  induction hrun with
  | start => simp
  | step w now d hrun _ ih =>
    intro st hst
    rcases List.mem_append.1 hst with hold | hnew
    · obtain ⟨earlier, sc', hrun', hsub, hbefore⟩ := ih st hold
      exact ⟨earlier, sc', hrun', List.subset_append_of_subset_left _ hsub, hbefore⟩
    · rw [List.mem_singleton.1 hnew]
      exact ⟨_, _, hrun, List.subset_append_left _ _, rfl⟩

/-- What can be seen after a sequel is what could be seen before, and what can be seen of its
steps. -/
lemma events_eq [Platform] (hrun : Sequel sc₀ steps sc) :
    sc.events = sc₀.events ++ steps.flatMap Step.events := by
  induction hrun with
  | start => simp
  | step w now d _ _ ih =>
    rw [List.flatMap_append, ← List.append_assoc, ← ih, List.flatMap_singleton]
    rfl

/-- Slots stay along a sequel. -/
lemma goesOn [Platform] (hrun : Sequel sc₀ steps sc) (hsc₀ : History qs sc₀) :
    sc₀.state.host.GoesOn sc.state.host := by
  induction hrun with
  | start => exact (Host.SameSlots.of_slots rfl).goesOn
  | step w now d hrun _ ih =>
    exact ih.trans ((hrun.history hsc₀).outcome w now d).goesOn

end Sequel

/-! ## Where notices come from -/

variable {name : String}

@[simp] lemma sent_nil (w : World) (name : String) :
    sent w name [] = if w.connected then some (.diagnostics name []) else none := rfl

/-- What can be seen outside of something that happens to a host. -/
inductive IsSeenAs : HostEvent → SessionEvent → Prop
  | run (e : RunEvent) : IsSeenAs (.run e) (.run e)
  | diagnostics (name : String) (markers : List Marker) (ds : List Diagnostic) :
    IsSeenAs (.published name markers) (.diagnostics name ds)
  | status (name : String) (status : RenderStatus) (message : Option Json) :
    IsSeenAs (.reported name status message) (.status name status message)
  | validated (ticket : Nat) (result : Except WaitFault (List Marker)) :
    IsSeenAs (.answered ticket result) (.validated ticket result)

lemma isSeenAs_of_visible {w : World} {e : HostEvent} {e' : SessionEvent}
    (he : visible w e = some e') : IsSeenAs e e' := by
  cases e with
  | consulted text => cases he
  | run e =>
    obtain rfl := Option.some.inj he
    exact .run e
  | published name markers =>
    rw [visible, sent] at he
    split at he
    · split at he
      · obtain rfl := Option.some.inj he
        exact .diagnostics name markers _
      · cases he
    · cases he
  | reported name status message =>
    rw [visible] at he
    split at he
    · obtain rfl := Option.some.inj he
      exact .status name status message
    · cases he
  | answered ticket result =>
    obtain rfl := Option.some.inj he
    exact .validated ticket result

/-- What can be seen of a host is about the same document. -/
lemma name?_of_visible {w : World} {e : HostEvent} {e' : SessionEvent}
    (he : visible w e = some e') : e'.name? = e.name? := by
  cases isSeenAs_of_visible he <;> rfl

/-- A notice about a document comes from closing it, from a text that is entered into its pipeline,
or from a pipeline of its name that is not over. -/
theorem Outcome.notice {w : World} {s : Session} {d : Deed}
    {r : Reaction Session SessionJob SessionEvent} (ho : Outcome w s d r) {e : SessionEvent}
    (he : e ∈ r.events) (hname : e.name? = some name) :
    (d = .answer (.closeDocument name) ∧ e = .diagnostics name []) ∨ d.Enters s name ∨
      ∃ j slot, d = .work (.host j) ∧ s.host.slots[j.slot]? = some slot ∧ slot.name = name ∧
        ¬slot.IsOver := by
  have hlifted : ∀ {hr : Reaction (Host Validator) HostJob HostEvent} {i : Nat}
      {slot : Slot Validator} {h : Host Validator}, Lifts w hr r → Host.Touches i slot h hr →
        slot.name = name ∧ ¬slot.IsOver := by
    intro hr i slot h hlifts htouches
    rw [hlifts.events] at he
    obtain ⟨e₀, he₀, hvisible⟩ := List.mem_filterMap.1 he
    exact htouches.notices e₀ he₀ name ((name?_of_visible hvisible).symm.trans hname)
  cases ho with
  | quiet _ _ hevents _ =>
    rw [hevents e he] at hname
    cases hname
  | closed other =>
    left
    simp only [Session.closeDocument, sent_nil, Option.mem_toList, Option.ite_none_right_eq_some,
      Option.some.injEq] at he
    obtain ⟨-, rfl⟩ := he
    obtain rfl : other = name := Option.some.inj hname
    exact ⟨rfl, rfl⟩
  | entered henters hslotName _ htouches _ hlifts =>
    have hsame := (hlifted hlifts htouches).1
    rw [hslotName] at hsame
    rw [hsame] at henters
    exact .inr (.inl henters)
  | @worked j _ slot _ hslot htouches _ hlifts =>
    exact .inr (.inr ⟨j, slot, rfl, hslot, hlifted hlifts htouches⟩)

/-- What enters a text into the pipeline of a document gives it one, or finds it open. -/
lemma Deed.Enters.gives_or_open {st : Step} (henters : st.deed.Enters st.before name) :
    st.GivesText name ∨ ∃ ticket, st.deed = .work (.validate ticket (some name)) ∧
      st.before.documents.get? name ≠ none := by
  generalize hd : st.deed = d at henters
  cases henters with
  | opened text version => exact .inl ⟨_, hd, by simp [Request.textAfter]⟩
  | changed texts version hne =>
    refine .inl ⟨_, hd, ?_⟩
    simpa [Request.textAfter] using hne
  | validated ticket hopen => exact .inr ⟨ticket, rfl, hopen⟩

/-- Work of the host leaves only work of the host, and about the same slot. -/
lemma exists_of_mem_jobs_handle [Platform] {w : World} {now : Instant} {s : Session} {j : HostJob} :
    ∀ j' ∈ (handle w now (.host j) s).jobs, ∃ k, j' = .host k ∧ k.slot = j.slot := by
  intro j' hj'
  rw [Session.handle, jobs_lift] at hj'
  obtain ⟨k, hk, rfl⟩ := List.mem_map.1 hj'
  refine ⟨k, rfl, ?_⟩
  cases hslot : s.host.slots[j.slot]? with
  | none =>
    rw [Host.handle, hslot] at hk
    cases hk
  | some slot => exact (Host.touches_handle hslot).jobs k hk

/-! ## Documents that stay closed -/

/-- A document that has no text gets none by requests that give it none. -/
lemma heldText_append_of_no_text {qs qs' : List Request} (hheld : heldText qs name = none)
    (hqs' : ∀ q ∈ qs', q.textAfter name none = none) : heldText (qs ++ qs') name = none := by
  rw [heldText, List.foldl_append, show List.foldl _ none qs = none from hheld]
  induction qs' with
  | nil => rfl
  | cons q qs' ih =>
    rw [List.foldl_cons, hqs' q List.mem_cons_self]
    exact ih fun q hq => hqs' q (List.mem_cons_of_mem _ hq)

/-- The diagnostics sent last about a document. -/
def lastDiagnostics (name : String) (es : List SessionEvent) : Option (List Diagnostic) :=
  (es.filterMap (SessionEvent.diagnostics? name)).getLast?

lemma lastDiagnostics_concat (name : String) (es : List SessionEvent) (ds : List Diagnostic) :
    lastDiagnostics name (es ++ [.diagnostics name ds]) = some ds := by
  rw [lastDiagnostics, List.filterMap_append]
  simp [SessionEvent.diagnostics?]

/-- Empty diagnostics behind empty ones leave the last ones empty. -/
lemma lastDiagnostics_append {es es' : List SessionEvent} (hes : lastDiagnostics name es = some [])
    (hes' : ∀ e ∈ es', e.name? = some name → e = .diagnostics name []) :
    lastDiagnostics name (es ++ es') = some [] := by
  have hempty : ∀ ds ∈ es'.filterMap (SessionEvent.diagnostics? name), ds = [] := by
    intro ds hds
    obtain ⟨e, he, hsome⟩ := List.mem_filterMap.1 hds
    cases e with
    | diagnostics other ds' =>
      rw [SessionEvent.diagnostics?] at hsome
      split at hsome
      · next hother =>
        obtain rfl := Option.some.inj hsome
        cases hes' _ he (congrArg some hother)
        rfl
      · cases hsome
    | _ => cases hsome
  rw [lastDiagnostics, List.filterMap_append, List.getLast?_append]
  cases hlast : (es'.filterMap (SessionEvent.diagnostics? name)).getLast? with
  | none => exact hes
  | some ds =>
    rw [hempty ds (List.mem_of_getLast? hlast)]
    rfl

/-! ## After closing -/

/-- The scene after the editor has closed a document. -/
def closing (w : World) (name : String) (sc : Scene Session SessionJob SessionEvent) :
    Scene Session SessionJob SessionEvent :=
  Scene.after (sc.state.closeDocument w name) sc.jobs sc.events

section Closing

variable {qs : List Request} {sc sc' : Scene Session SessionJob SessionEvent} {w : World}
  {steps : List Step}

lemma History.close [Platform] (hsc : History qs sc) :
    History (qs ++ [.closeDocument name]) (closing w name sc) :=
  hsc.request w 0 (.closeDocument name)

/-- Every pipeline of a document that has been closed is over, and none is added by closing it. -/
lemma History.isOver_of_closing [Platform] (hsc : History qs sc) {i : Nat} {slot : Slot Validator}
    (hslot : (closing w name sc).state.host.slots[i]? = some slot) (hname : slot.name = name) :
    slot.IsOver := by
  rcases hsc.close.orderly.exclusive i slot hslot with hover | hmapped
  · exact hover
  · have herased : (sc.state.pipelines.erase name).get? slot.name = some i := hmapped
    rw [ByName.get?_erase, if_pos hname] at herased
    cases herased

/-- Later notices come from closing the document again, from giving it a text, or from work that is
about a pipeline that the document has got since. -/
lemma Sequel.notice_origin [Platform] (hsc : History qs sc)
    (hrun : Sequel (closing w name sc) steps sc') :
    ∀ st ∈ steps, ∀ e ∈ st.events, e.name? = some name →
      (st.deed = .answer (.closeDocument name) ∧ e = .diagnostics name []) ∨ st.GivesText name ∨
        (∃ ticket, st.deed = .work (.validate ticket (some name)) ∧
          st.before.documents.get? name ≠ none) ∨
        ∃ j, st.deed = .work (.host j) ∧ st.before.pipelines.get? name = some j.slot ∧
          sc.state.host.slots.length ≤ j.slot := by
  intro st hst e he hname
  obtain ⟨earlier, sc₁, hrun₁, -, hbefore⟩ := hrun.of_mem st hst
  have hsc₁ := hrun₁.history hsc.close
  have houtcome := hsc₁.outcome st.world st.now st.deed
  rw [← hbefore] at houtcome
  rcases houtcome.notice he hname with
    hclosed | henters | ⟨j, slot, hdeed, hslot, hslotName, hnotOver⟩
  · exact .inl hclosed
  · rcases henters.gives_or_open with hgives | hopen
    · exact .inr (.inl hgives)
    · exact .inr (.inr (.inl hopen))
  · rw [hbefore] at hslot
    refine .inr (.inr (.inr ⟨j, hdeed, ?_, ?_⟩))
    · -- a pipeline that sends something is not over, so it is the one of its document
      rcases hsc₁.orderly.exclusive j.slot slot hslot with hover | hmapped
      · exact absurd hover hnotOver
      · rw [hbefore, ← hslotName]
        exact hmapped
    · by_contra hlt
      -- otherwise it is an old slot, which was over when the document had been closed
      have hlength : (closing w name sc).state.host.slots.length = sc.state.host.slots.length :=
        (sameSlots_teardownOf sc.state name).1.length
      have hold := List.getElem?_eq_getElem (l := (closing w name sc).state.host.slots)
        (i := j.slot) (by omega)
      obtain ⟨slot', hslot', hsame, hover⟩ := hrun₁.goesOn hsc.close j.slot _ hold
      obtain rfl : slot = slot' := Option.some.inj (hslot.symm.trans hslot')
      exact hnotOver (hover (hsc.isOver_of_closing hold (hsame.symm.trans hslotName)))

/-- As long as the document gets no text, the only notices are those of closing it again. -/
lemma Sequel.silent_without_text [Platform] (hsc : History qs sc)
    (hrun : Sequel (closing w name sc) steps sc') (hnone : ∀ st ∈ steps, ¬st.GivesText name) :
    ∀ st ∈ steps, ∀ e ∈ st.events, e.name? = some name →
      st.deed = .answer (.closeDocument name) ∧ e = .diagnostics name [] := by
  intro st hst e he hname
  obtain ⟨earlier, sc₁, hrun₁, hsub, hbefore⟩ := hrun.of_mem st hst
  have hconsistent := (hrun₁.history hsc.close).keeps.1
  -- closing takes the text away, and no step before this one gives it back
  have hheld : heldText ((qs ++ [.closeDocument name]) ++ earlier.filterMap Step.request?) name =
      none := by
    apply heldText_append_of_no_text
    · rw [heldText_concat]
      exact if_pos rfl
    · intro q hq
      obtain ⟨st', hst', hrequest⟩ := List.mem_filterMap.1 hq
      by_contra hgives
      refine hnone st' (hsub hst') ⟨q, ?_, hgives⟩
      rw [Step.request?] at hrequest
      split at hrequest
      · next q' hdeed => rw [hdeed, Option.some.inj hrequest]
      · cases hrequest
  rcases hrun.notice_origin hsc st hst e he hname with
    hclosed | hgives | ⟨_, -, hopen⟩ | ⟨_, -, hmapped, -⟩
  · exact hclosed
  · exact absurd hgives (hnone st hst)
  -- without a text the document is not open, and has no pipeline
  · have hdocument := hconsistent.documents name
    rw [hheld, Option.map_eq_none_iff, ← hbefore] at hdocument
    exact absurd hdocument hopen
  · rw [hbefore, hconsistent.serves.unserved name hheld] at hmapped
    cases hmapped

/-- **Silence after closing.** Closing a document sends empty diagnostics, unless the editor cannot
be reached. Until a later request gives the document a text, nothing more is sent about it than the
same when it is closed again, so the last diagnostics are empty. All work that is left when it is
closed, of passes, of timers and of waiting callers, is about slots that are there by then. Work
about these slots never sends anything about the document, and leaves only more work about them.
Whatever is sent later comes from closing the document again, from a request that gives it a text,
from a caller whose turn comes when it is open again, or from the pipeline that it has got since. -/
theorem History.silent_after_closing [Platform] (hsc : History qs sc)
    (hrun : Sequel (closing w name sc) steps sc') :
    (sc.state.closeDocument w name).events =
        (if w.connected then [.diagnostics name []] else []) ∧
      ((∀ st ∈ steps, ¬st.GivesText name) →
        (∀ st ∈ steps, ∀ e ∈ st.events, e.name? = some name →
          st.deed = .answer (.closeDocument name) ∧ e = .diagnostics name []) ∧
        (w.connected = true → lastDiagnostics name sc'.events = some [])) ∧
      (∀ j, .host j ∈ sc.jobs → j.slot < sc.state.host.slots.length) ∧
      (∀ st ∈ steps, ∀ j, st.deed = .work (.host j) → j.slot < sc.state.host.slots.length →
        (∀ e ∈ st.events, e.name? ≠ some name) ∧
          ∀ j' ∈ st.reaction.jobs, ∃ k, j' = .host k ∧ k.slot < sc.state.host.slots.length) ∧
      ∀ st ∈ steps, ∀ e ∈ st.events, e.name? = some name →
        (st.deed = .answer (.closeDocument name) ∧ e = .diagnostics name []) ∨ st.GivesText name ∨
          (∃ ticket, st.deed = .work (.validate ticket (some name)) ∧
            st.before.documents.get? name ≠ none) ∨
          ∃ j, st.deed = .work (.host j) ∧ st.before.pipelines.get? name = some j.slot ∧
            sc.state.host.slots.length ≤ j.slot := by
  have hclosing : (sc.state.closeDocument w name).events =
      if w.connected then [.diagnostics name []] else [] := by
    rw [Session.closeDocument, sent_nil]
    split <;> rfl
  refine ⟨hclosing, fun hnone => ⟨hrun.silent_without_text hsc hnone, fun hconnected => ?_⟩,
    hsc.orderly.placed, fun st hst j hdeed hlt => ⟨fun e he hname => ?_, fun j' hj' => ?_⟩,
    hrun.notice_origin hsc⟩
  · rw [hrun.events_eq]
    apply lastDiagnostics_append
    · rw [closing, Scene.after, hclosing, if_pos hconnected, lastDiagnostics_concat]
    · intro e he hname
      obtain ⟨st, hst, he⟩ := List.mem_flatMap.1 he
      exact (hrun.silent_without_text hsc hnone st hst e he hname).2
  · -- of all origins only work of the host is left, and that is about later slots
    rcases hrun.notice_origin hsc st hst e he hname with
      ⟨hclosed, -⟩ | ⟨q, hgives, -⟩ | ⟨ticket, hvalidate, -⟩ | ⟨j', hwork, -, hle⟩
    · cases hdeed.symm.trans hclosed
    · cases hdeed.symm.trans hgives
    · cases hdeed.symm.trans hvalidate
    · cases hdeed.symm.trans hwork
      omega
  · rw [Step.reaction, hdeed] at hj'
    obtain ⟨k, rfl, hsame⟩ := exists_of_mem_jobs_handle j' hj'
    exact ⟨k, rfl, hsame ▸ hlt⟩

end Closing

/-- A world without files and programs. -/
private def bare (connected : Bool) : World :=
  ⟨⟨[], [], []⟩, ⟨false, none, 0, [], [], .reaped⟩, connected⟩

/-- A sequel to closing a document that has not begun. -/
private lemma History.sequel [Platform] {qs : List Request}
    {sc : Scene Session SessionJob SessionEvent} (w : World) (name : String) (_ : History qs sc) :
    Sequel (closing w name sc) [] (closing w name sc) := .start

section Usual

open Platform.Usual

/-- A document is closed before its pass has its turn, and opened again. The old pass ends in
silence while the new one is in flight; a new text sends diagnostics and a status. -/
theorem History.silent_after_closing_reopened :
    ∃ sc steps sc', History [.openDocument "a" ['x'] 1] sc ∧
      Sequel (closing (bare true) "a" sc) steps sc' ∧
      (steps.map fun st => st.events.filterMap SessionEvent.name?) = [[], [], ["a", "a"]] ∧
      ∀ st ∈ steps, st.deed = .work (.host (.begin 0 1)) → ∀ e ∈ st.events, e.name? ≠ some "a" := by
  have hsc := History.start.request (bare true) 0 (.openDocument "a" ['x'] 1)
  have hreopened := (hsc.sequel (bare true) "a").step (bare true) 0
    (.answer (.openDocument "a" ['y'] 2)) (.answer _)
  have hended := hreopened.step (bare true) 0 (.work (.host (.begin 0 1)))
    (.work (.refl _))
  have hrun := hended.step (bare true) 0 (.answer (.changeDocument "a" [[' ']] 3)) (.answer _)
  refine ⟨_, _, _, hsc, hrun, by decide +kernel, fun st hst hdeed => ?_⟩
  exact ((hsc.silent_after_closing hrun).2.2.2.1 st hst _ hdeed (by decide +kernel)).1

/-- A closing that is not the last word. When the document is closed again, more is sent about it.
When the editor cannot be reached, its last diagnostics are those from before. And a caller who was
waiting for a turn at the closing sends something about the document once it is open again. -/
theorem History.not_forall_silent_after_closing :
    (∃ sc steps sc', History [.openDocument "a" [' '] 1] sc ∧
        Sequel (closing (bare true) "a" sc) steps sc' ∧ (∀ st ∈ steps, ¬st.GivesText "a") ∧
        ∃ st ∈ steps, ∃ e ∈ st.events, e.name? = some "a") ∧
      (∃ sc, History [.openDocument "a" ['x'] 1] sc ∧
        (lastDiagnostics "a" (closing (bare false) "a" sc).events).map List.length = some 1) ∧
      ∃ sc steps sc', History [.openDocument "a" [' '] 1, .validateDocument 7 (some "a")] sc ∧
        .validate 7 (some "a") ∈ sc.jobs ∧ Sequel (closing (bare true) "a" sc) steps sc' ∧
        ∃ st ∈ steps, st.deed = .work (.validate 7 (some "a")) ∧
          ∃ e ∈ st.events, e.name? = some "a" := by
  have hopened := History.start.request (bare true) 0 (.openDocument "a" [' '] 1)
  have hrejected := History.start.request (bare true) 0 (.openDocument "a" ['x'] 1)
  refine ⟨?_, ?_, ?_⟩
  · have hrun := (hopened.sequel (bare true) "a").step (bare true) 0
      (.answer (.closeDocument "a")) (.answer _)
    refine ⟨_, _, _, hopened, hrun, ?_, _, List.mem_singleton_self _, by decide +kernel⟩
    simp [Step.GivesText, Request.textAfter]
  · have hended := hrejected.work (bare true) 0 (.refl _)
    exact ⟨_, hended, by decide +kernel⟩
  · have hwaiting := hopened.request (bare true) 0 (.validateDocument 7 (some "a"))
    have hreopened := (hwaiting.sequel (bare true) "a").step (bare true) 0
      (.answer (.openDocument "a" [' '] 2)) (.answer _)
    have hrun := hreopened.step (bare true) 0 (.work (.validate 7 (some "a")))
      (.work (.refl _))
    exact ⟨_, _, _, hwaiting, List.mem_singleton_self _, hrun, _,
      List.mem_append_right _ (List.mem_singleton_self _), rfl, by decide +kernel⟩

end Usual

end Session

end Mermaid
