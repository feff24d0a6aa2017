import Mermaid.Proofs.Pipeline.Notices
import Mermaid.Proofs.Session.Consistency

/-!
# The slots of a session

A session adds slots to its host and never takes one away. The pipeline of a slot is over once its
document has been closed; when the document is opened again, it gets another slot.

* `Session.Outcome` lists all that can come of a request or a job, and `Session.perform_outcome`
  says so;
* `Session.Orderly` is the invariant: every pipeline is over or the one of its document, and all
  work is about a slot that is there.
-/

namespace Mermaid

/-- The document that a notice to the editor is about. -/
def SessionEvent.name? : SessionEvent → Option String
  | .diagnostics name _ => some name
  | .status name _ _ => some name
  | _ => none

namespace Session

variable {s : Session} {texts : String → Option Text} {name : String}

/-! ## What a session does -/

/-- What a session does at a time: it answers a request, or it does a job. -/
inductive Deed
  | answer (q : Request)
  | work (j : SessionJob)

/-- What comes of a deed. -/
def perform [Platform] (w : World) (now : Instant) (s : Session) :
    Deed → Reaction Session SessionJob SessionEvent
  | .answer q => s.answer w now q
  | .work j => handle w now j s

/-- Whether a deed enters the text of a document into its pipeline. -/
inductive Deed.Enters (s : Session) (name : String) : Deed → Prop
  | opened (text : Text) (version : Int) :
      Enters s name (.answer (.openDocument name text version))
  | changed (texts : List Text) (version : Int) : texts ≠ [] →
      Enters s name (.answer (.changeDocument name texts version))
  | validated (ticket : Nat) : s.documents.get? name ≠ none →
      Enters s name (.work (.validate ticket (some name)))

/-- Whether what comes of a session is what comes of its host. -/
structure Lifts (w : World) (hr : Reaction (Host Validator) HostJob HostEvent)
    (r : Reaction Session SessionJob SessionEvent) : Prop where
  host : r.state.host = hr.state
  events : r.events = hr.events.filterMap (visible w)
  jobs : r.jobs = hr.jobs.map .host

lemma lifts_lift (w : World) (s : Session) (hr : Reaction (Host Validator) HostJob HostEvent) :
    Lifts w hr (s.lift w hr) := ⟨rfl, rfl, jobs_lift w s hr⟩

/-- All that can come of a deed. -/
inductive Outcome (w : World) (s : Session) :
    Deed → Reaction Session SessionJob SessionEvent → Prop
  /-- Pipelines are equipped anew, or nothing happens to them. -/
  | quiet {d : Deed} {r : Reaction Session SessionJob SessionEvent} :
      r.state.pipelines = s.pipelines → s.host.SameSlots r.state.host →
      (∀ e ∈ r.events, e.name? = none) → (∀ j, .host j ∉ r.jobs) → Outcome w s d r
  | closed (name : String) : Outcome w s (.answer (.closeDocument name)) (s.closeDocument w name)
  /-- A text is entered into the pipeline of its document, which may be a new one. -/
  | entered {d : Deed} {r : Reaction Session SessionJob SessionEvent} {name : String}
      {slot : Slot Validator} {hr : Reaction (Host Validator) HostJob HostEvent} :
      d.Enters s name → slot.name = name →
      (s.pipelineFor name).1.host.slots[(s.pipelineFor name).2]? = some slot →
      Host.Touches (s.pipelineFor name).2 slot (s.pipelineFor name).1.host hr →
      r.state.pipelines = (s.pipelineFor name).1.pipelines → Lifts w hr r → Outcome w s d r
  /-- The host does a job. -/
  | worked {j : HostJob} {r : Reaction Session SessionJob SessionEvent} {slot : Slot Validator}
      {hr : Reaction (Host Validator) HostJob HostEvent} :
      s.host.slots[j.slot]? = some slot → Host.Touches j.slot slot s.host hr →
      r.state.pipelines = s.pipelines → Lifts w hr r → Outcome w s (.work (.host j)) r

/-! ## Configuration leaves slots where they are -/

lemma sameSlots_equip (v : Validator) (delay : Binary64) (s : Session) :
    s.host.SameSlots (s.equip v delay).host := by
  refine .of_getElem? (fun k slot => if k ∈ s.pipelines.values then equipped v delay slot else slot)
    (getElem?_foldl_equipSlot v delay s.pipelines.values s.host) ?_ ?_
  · intro k slot
    split <;> rfl
  · intro k slot hover
    split
    · exact ⟨hover.closed, hover.timer⟩
    · exact hover

lemma sameSlots_applySettings [Platform] (files : FileTree) (s : Session) :
    (s.applySettings files).session.pipelines = s.pipelines ∧
      s.host.SameSlots (s.applySettings files).session.host := by
  unfold applySettings
  dsimp only
  cases (s.resolver.resolve files).result with
  | error f => exact ⟨rfl, .of_slots rfl⟩
  | ok new =>
    dsimp only
    rw [accept]
    dsimp only
    cases Validator.ofSettings new with
    | error f => exact ⟨rfl, .of_slots rfl⟩
    | ok v => exact ⟨rfl, sameSlots_equip v new.debounce { s with settings := new }⟩

/-- Settings are taken or not; either way documents keep their pipelines. -/
lemma sameSlots_adopt [Platform] (files : FileTree) (given : Settings.Reading Settings.Patch)
    (change : Resolver → Settings.Patch → Resolver) (s : Session) :
    (s.adopt files given change).session.pipelines = s.pipelines ∧
      s.host.SameSlots (s.adopt files given change).session.host := by
  unfold adopt
  cases given.result with
  | error f => exact ⟨rfl, .of_slots rfl⟩
  | ok p => exact sameSlots_applySettings files { s with resolver := change s.resolver p }

/-! ## What can come of a deed -/

/-- A pipeline is given to a document whatever else the session keeps of its documents. -/
lemma pipelineFor_withDocuments (documents : ByName Document) (s : Session) (name : String) :
    ({ s with documents := documents }.pipelineFor name) =
      ({ (s.pipelineFor name).1 with documents := documents }, (s.pipelineFor name).2) := by
  unfold pipelineFor
  dsimp only
  cases s.pipelines.get? name <;> rfl

namespace Outcome

variable {w : World} {now : Instant}

/-- A session that only reads, or leaves work that is none of its host, does nothing to its
pipelines. -/
lemma of_unchanged {d : Deed} {r : Reaction Session SessionJob SessionEvent}
    (hpipelines : r.state.pipelines = s.pipelines) (hhost : r.state.host = s.host)
    (hevents : ∀ e ∈ r.events, e.name? = none) (hjobs : ∀ j, .host j ∉ r.jobs) : Outcome w s d r :=
  .quiet hpipelines (.of_slots (by rw [hhost])) hevents hjobs

/-- A text is entered into the pipeline of its document, which has its name. -/
lemma of_entered (hs : s.Serves texts) {d : Deed} (hd : d.Enters s name)
    (documents : ByName Document) {hr : Reaction (Host Validator) HostJob HostEvent}
    (hr' : ∀ slot, (s.pipelineFor name).1.host.slots[(s.pipelineFor name).2]? = some slot →
      Host.Touches (s.pipelineFor name).2 slot (s.pipelineFor name).1.host hr) :
    Outcome w s d ({ (s.pipelineFor name).1 with documents := documents }.lift w hr) := by
  obtain ⟨hserves, hname⟩ := hs.pipelineFor name
  obtain ⟨_, slot, -, hslot, hslotServes⟩ := hserves.slot hname
  exact .entered hd hslotServes.name hslot (hr' slot hslot) rfl (lifts_lift ..)

lemma of_handle [Platform] (hs : s.Serves texts) (j : SessionJob) :
    Outcome w s (.work j) (handle w now j s) := by
  cases j with
  | host j =>
    cases hslot : s.host.slots[j.slot]? with
    | none =>
      have hnothing : s.host.handle (surroundings w) now j = Host.unchanged s.host := by
        rw [Host.handle, hslot]
      rw [Session.handle, hnothing]
      exact of_unchanged rfl rfl (by simp [lift, Host.unchanged])
        (by simp [Reaction.jobs, lift, Host.unchanged])
    | some slot => exact .worked hslot (Host.touches_handle hslot) rfl (lifts_lift ..)
  | answerNothing ticket =>
    refine of_unchanged rfl rfl ?_ (by simp [Session.handle, Reaction.jobs])
    intro e he
    rw [List.mem_singleton.1 he]
    rfl
  | validate ticket name =>
    show Outcome w s _ (validateFor w now ticket name s)
    unfold validateFor
    split
    · next name doc hnamed =>
      have hopen : s.documents.get? name ≠ none := by
        rw [named?] at hnamed
        split at hnamed
        · cases hnamed
        · simp [hnamed]
      have hentered : Outcome w s (.work (.validate ticket (some name)))
          ({ (s.pipelineFor name).1 with documents := s.documents }.lift w
            ((s.pipelineFor name).1.host.handle (surroundings w) now
              (.flush ticket (s.pipelineFor name).2 (some doc.text)))) :=
        of_entered hs (.validated ticket hopen) s.documents fun _ hslot => Host.touches_flush hslot
      -- a caller changes no document
      have hsame : { (s.pipelineFor name).1 with documents := s.documents } =
          (s.pipelineFor name).1 := by
        rw [pipelineFor_frame]
      rw [hsame] at hentered
      exact hentered
    · exact of_unchanged rfl rfl (List.forall_mem_nil _) (by simp [Reaction.jobs])

lemma of_answer [Platform] (hs : s.Serves texts) (q : Request) :
    Outcome w s (.answer q) (s.answer w now q) := by
  cases q with
  | begin root options =>
    obtain ⟨hpipelines, hslots⟩ := sameSlots_adopt w.files (Settings.ofOptions options)
      Resolver.replace { s with resolver := { root := root } }
    exact .quiet hpipelines hslots (List.forall_mem_nil _) (by simp [Session.answer, Reaction.jobs])
  | configure options =>
    obtain ⟨hpipelines, hslots⟩ := sameSlots_adopt w.files (Settings.ofOptions options)
      Resolver.extend s
    exact .quiet hpipelines hslots (List.forall_mem_nil _) (by simp [Session.answer, Reaction.jobs])
  | openDocument name text version =>
    rw [Session.answer, Session.openDocument, pipelineFor_withDocuments]
    exact of_entered hs (.opened text version) _ fun slot hslot => Host.touches_validateNow hslot
  | changeDocument name newTexts version =>
    rw [Session.answer, changeDocument?]
    cases hlast : newTexts.getLast? with
    | none => exact of_unchanged rfl rfl (List.forall_mem_nil _) (by simp [Reaction.jobs])
    | some text =>
      have hne : newTexts ≠ [] := by
        rintro rfl
        cases hlast
      rw [Option.map_some, Option.getD_some, changeTo, pipelineFor_withDocuments]
      exact of_entered hs (.changed newTexts version hne) _
        fun slot hslot => Host.touches_update hslot
  | closeDocument name => exact .closed name
  | validateDocument ticket name =>
    exact of_unchanged rfl rfl (List.forall_mem_nil _)
      (by simp [Session.answer, validateDocument, Reaction.jobs])
  | layOut name =>
    exact of_unchanged rfl rfl (List.forall_mem_nil _) (by simp [Session.answer, Reaction.jobs])

end Outcome

/-- What comes of a deed is on the list. -/
theorem perform_outcome [Platform] (hs : s.Serves texts) (w : World) (now : Instant) (d : Deed) :
    Outcome w s d (s.perform w now d) := by
  cases d with
  | answer q => exact .of_answer hs q
  | work j => exact .of_handle hs j

/-! ## Slots come and go with documents -/

lemma goesOn_pipelineFor (s : Session) (name : String) :
    s.host.GoesOn (s.pipelineFor name).1.host := by
  unfold pipelineFor
  cases s.pipelines.get? name with
  | some i => exact (Host.SameSlots.of_slots rfl).goesOn
  | none =>
    intro i slot hslot
    refine ⟨slot, ?_, rfl, id⟩
    exact (List.getElem?_append_left (List.getElem?_eq_some_iff.1 hslot).1).trans hslot

/-- The pipeline of a document that is closed is over from then on. -/
lemma sameSlots_teardownOf (s : Session) (name : String) :
    s.host.SameSlots (s.teardownOf name) ∧ ∀ i slot, s.pipelines.get? name = some i →
      (s.teardownOf name).slots[i]? = some slot → slot.IsOver := by
  unfold teardownOf
  cases hname : s.pipelines.get? name with
  | none => exact ⟨.of_slots rfl, by rintro i slot ⟨⟩⟩
  | some i =>
    have hslots : ∀ k, (s.host.teardown i).slots[k]? = s.host.slots[k]?.map fun slot =>
        if i = k then { slot with pipeline := slot.pipeline.teardown } else slot := by
      intro k
      show (s.host.slots.modify i _)[k]? = _
      rw [List.getElem?_modify]
      rfl
    refine ⟨.of_getElem? _ hslots ?_ ?_, ?_⟩
    · intro k slot
      split <;> rfl
    · intro k slot hover
      split
      · exact ⟨rfl, rfl⟩
      · exact hover
    · rintro k slot ⟨⟩ hslot
      rw [hslots, Option.map_eq_some_iff] at hslot
      obtain ⟨old, -, rfl⟩ := hslot
      rw [if_pos rfl]
      exact ⟨rfl, rfl⟩

namespace Outcome

variable {w : World} {d : Deed} {r : Reaction Session SessionJob SessionEvent}

/-- Whatever a session does, its slots stay. -/
lemma goesOn (ho : Outcome w s d r) : s.host.GoesOn r.state.host := by
  cases ho with
  | quiet _ hslots _ _ => exact hslots.goesOn
  | closed name => exact (sameSlots_teardownOf s name).1.goesOn
  | entered _ _ hslot htouches _ hlifts =>
    rw [hlifts.host]
    exact (goesOn_pipelineFor s _).trans (htouches.sameSlots hslot).goesOn
  | worked hslot htouches _ hlifts =>
    rw [hlifts.host]
    exact (htouches.sameSlots hslot).goesOn

end Outcome

/-! ## The invariant -/

/-- Whether every pipeline of a session is over, or else the one of its document. -/
def Exclusive (s : Session) : Prop := ∀ i slot, s.host.slots[i]? = some slot →
  slot.IsOver ∨ s.pipelines.get? slot.name = some i

/-- Pipelines that stay with their documents are over or the ones of these. -/
lemma Exclusive.of_sameSlots (hs : s.Exclusive) {t : Session} (hslots : s.host.SameSlots t.host)
    (hpipelines : ∀ name i slot, t.host.slots[i]? = some slot → s.pipelines.get? name = some i →
      slot.IsOver ∨ t.pipelines.get? name = some i) : t.Exclusive := by
  intro i slot' hslot'
  -- no slot has been added, so this one was there before
  have hlt : i < s.host.slots.length := hslots.length ▸ (List.getElem?_eq_some_iff.1 hslot').1
  have hslot : s.host.slots[i]? = some s.host.slots[i] := List.getElem?_eq_getElem hlt
  obtain ⟨after, hafter, hname, hover⟩ := hslots.goesOn i _ hslot
  obtain rfl : slot' = after := Option.some.inj (hslot'.symm.trans hafter)
  rcases hs i _ hslot with hold | hmapped
  · exact .inl (hover hold)
  · rw [← hname] at hmapped
    exact hpipelines _ i slot' hslot' hmapped

/-- A new pipeline is the one of its document, which has had none. -/
lemma Exclusive.pipelineFor (hs : s.Exclusive) (name : String) :
    (s.pipelineFor name).1.Exclusive := by
  unfold Session.pipelineFor
  cases hname : s.pipelines.get? name with
  | some i => exact hs
  | none =>
    intro i slot hslot
    show slot.IsOver ∨ (s.pipelines.insert name s.host.slots.length).get? slot.name = some i
    rw [ByName.get?_insert]
    have happend : (s.host.slots ++ [_])[i]? = some slot := hslot
    -- an old slot, the new one behind them, or none
    rcases Nat.lt_trichotomy i s.host.slots.length with hlt | heq | hgt
    · rw [List.getElem?_append_left hlt] at happend
      rcases hs i slot happend with hover | hmapped
      · exact .inl hover
      · have hne : slot.name ≠ name := by
          intro heq
          rw [heq, hname] at hmapped
          cases hmapped
        rw [if_neg hne]
        exact .inr hmapped
    · rw [heq, List.getElem?_concat_length] at happend
      obtain rfl := Option.some.inj happend
      rw [if_pos rfl, heq]
      exact .inr rfl
    · rw [List.getElem?_eq_none (by simp; omega)] at happend
      cases happend

lemma Exclusive.closeDocument (hs : s.Exclusive) (w : World) (name : String) :
    (s.closeDocument w name).state.Exclusive := by
  obtain ⟨hslots, hover⟩ := sameSlots_teardownOf s name
  refine hs.of_sameSlots (t := (s.closeDocument w name).state) hslots ?_
  intro other i slot hslot hmapped
  show slot.IsOver ∨ (s.pipelines.erase name).get? other = some i
  rw [ByName.get?_erase]
  by_cases hother : other = name
  · -- the document no longer has a pipeline, but the one it had is over
    rw [hother] at hmapped
    exact .inl (hover i slot hmapped hslot)
  · rw [if_neg hother]
    exact .inr hmapped

lemma Outcome.exclusive {w : World} {d : Deed} {r : Reaction Session SessionJob SessionEvent}
    (ho : Outcome w s d r) (hs : s.Exclusive) : r.state.Exclusive := by
  have hkept : ∀ {t u : Session}, u.pipelines = t.pipelines → ∀ name i (slot : Slot Validator),
      u.host.slots[i]? = some slot → t.pipelines.get? name = some i →
        slot.IsOver ∨ u.pipelines.get? name = some i := by
    intro t u hpipelines name i slot _ hmapped
    rw [hpipelines]
    exact .inr hmapped
  cases ho with
  | quiet hpipelines hslots _ _ => exact hs.of_sameSlots hslots (hkept hpipelines)
  | closed name => exact hs.closeDocument w name
  | entered _ _ hslot htouches hpipelines hlifts =>
    refine (hs.pipelineFor _).of_sameSlots ?_ (hkept hpipelines)
    rw [hlifts.host]
    exact htouches.sameSlots hslot
  | worked hslot htouches hpipelines hlifts =>
    refine hs.of_sameSlots ?_ (hkept hpipelines)
    rw [hlifts.host]
    exact htouches.sameSlots hslot

/-- A job of the host that is left is about a slot that is there. -/
lemma Outcome.slot_lt {w : World} {d : Deed} {r : Reaction Session SessionJob SessionEvent}
    (ho : Outcome w s d r) {j : HostJob} (hj : .host j ∈ r.jobs) :
    j.slot < r.state.host.slots.length := by
  have hlifted : ∀ {hr : Reaction (Host Validator) HostJob HostEvent} {i : Nat}
      {slot : Slot Validator} {h : Host Validator}, Lifts w hr r → Host.Touches i slot h hr →
        h.slots[i]? = some slot → j.slot < r.state.host.slots.length := by
    intro hr i slot h hlifts htouches hslot
    rw [hlifts.jobs] at hj
    obtain ⟨j', hj', hsame⟩ := List.mem_map.1 hj
    obtain rfl : j' = j := SessionJob.host.inj hsame
    rw [hlifts.host, (htouches.sameSlots hslot).length, htouches.jobs j' hj']
    exact (List.getElem?_eq_some_iff.1 hslot).1
  cases ho with
  | quiet _ _ _ hjobs => exact absurd hj (hjobs j)
  | closed name => simp [Session.closeDocument, Reaction.jobs] at hj
  | entered _ _ hslot htouches _ hlifts => exact hlifted hlifts htouches hslot
  | worked hslot htouches _ hlifts => exact hlifted hlifts htouches hslot

/-- Whether the slots of a scene are in order: every pipeline is over or the one of its document,
and all work is about a slot that is there. -/
structure Orderly (sc : Scene Session SessionJob SessionEvent) : Prop where
  exclusive : sc.state.Exclusive
  placed : ∀ j, .host j ∈ sc.jobs → j.slot < sc.state.host.slots.length

/-- Whatever a session does, its slots stay in order. -/
lemma Orderly.after {sc : Scene Session SessionJob SessionEvent} (hsc : Orderly sc) {w : World}
    {d : Deed} {r : Reaction Session SessionJob SessionEvent} (ho : Outcome w sc.state d r)
    {rest : List SessionJob} (hrest : rest ⊆ sc.jobs) : Orderly (Scene.after r rest sc.events) where
  exclusive := ho.exclusive hsc.exclusive
  placed := by
    intro j hj
    rcases mem_jobs_after.1 hj with hold | hnew
    -- work that was left is still about a slot, as none is taken away
    · exact Nat.lt_of_lt_of_le (hsc.placed j (hrest hold)) ho.goesOn.length_le
    · exact ho.slot_lt hnew

/-- Along every history, what comes of a deed is on the list. -/
lemma History.outcome [Platform] {qs : List Request} {sc : Scene Session SessionJob SessionEvent}
    (hsc : History qs sc) (w : World) (now : Instant) (d : Deed) :
    Outcome w sc.state d (sc.state.perform w now d) :=
  perform_outcome hsc.keeps.1.serves w now d

/-- Along every history the slots are in order. -/
theorem History.orderly [Platform] {qs : List Request} {sc : Scene Session SessionJob SessionEvent}
    (hsc : History qs sc) : Orderly sc := by
  induction hsc with
  | start => exact ⟨by simp [Exclusive], nofun⟩
  | request w now q hsc ih =>
    exact ih.after (hsc.outcome w now (.answer q)) (List.Subset.refl _)
  | work w now hsc hperm ih =>
    refine ih.after (hsc.outcome w now (.work _)) fun j hj => ?_
    exact hperm.mem_iff.2 (List.mem_cons_of_mem _ hj)

end Session

end Mermaid
