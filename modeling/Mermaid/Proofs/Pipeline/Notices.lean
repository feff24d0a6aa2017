import Mermaid.Proofs.Pipeline.Hosting
import Mermaid.Proofs.Pipeline.Phases

/-!
# Notices of a host

A host reports markers and a status under the name of a pipeline. Only what happens to this pipeline
makes it do so, and only as long as the pipeline is not over: once it has been torn down, it hands
nothing over any more, whatever work of it is still left.

* `Host.notices_handleAt` says that the notices of a job are those of what it makes happen;
* `Host.Touches` says what can come of a call or a job, all of it about one slot;
* `Host.GoesOn` and `Host.SameSlots` compare two hosts slot by slot.
-/

namespace Mermaid

/-- The pipeline that markers or a status come from. -/
def HostEvent.name? : HostEvent → Option String
  | .published name _ => some name
  | .reported name _ _ => some name
  | _ => none

/-- Whether the pipeline of a slot is over: it is closed, and no timer is set. -/
structure Slot.IsOver {V : Type} (slot : Slot V) : Prop where
  closed : slot.pipeline.isClosed = true
  timer : slot.pipeline.timer = none

/-- What may happen to a pipeline that is over leaves it over. -/
lemma Slot.IsOver.after {V : Type} {slot : Slot V} (hover : slot.IsOver) (r : Receivers)
    (hap : Option Happening) : IsOver { slot with pipeline := slot.pipeline.after r hap } := by
  cases hap with
  | none => exact hover
  | some hap =>
    obtain ⟨-, -, hclosed, htimer⟩ := Pipeline.respond_of_closed hover.closed hover.timer r hap
    exact ⟨hclosed, htimer⟩

/-- What comes of a job is about the same slot. -/
lemma HostJob.Successor.slot_eq [Platform] {V : Type} {env : Surroundings V} {s : Slot V}
    {h : Host V} {j j' : HostJob} (hj : j.Successor env s h j') : j'.slot = j.slot := by
  cases hj <;> rfl

namespace Host

variable {V : Type} {env : Surroundings V} {now : Instant} {i : Nat} {s : Slot V}
  {h h' h'' : Host V}

/-! ## Notices come from open pipelines -/

/-- A notice of a change bears the name that the change is reported under. -/
lemma name_of_mem_changeEvents {name other : String} {c : Change} {e : HostEvent}
    (he : e ∈ changeEvents name c) (hother : e.name? = some other) : name = other := by
  simp only [changeEvents, List.mem_append, Option.mem_toList, Option.map_eq_some_iff] at he
  rcases he with ⟨markers, -, rfl⟩ | ⟨⟨status, message⟩, -, rfl⟩ <;> exact Option.some.inj hother

/-- Nothing comes of what happens to a pipeline that is over. -/
lemma changeEvents_of_isOver (hover : s.IsOver) (r : Receivers) (hap : Happening) :
    changeEvents s.name (s.pipeline.respond r hap) = [] := by
  obtain ⟨hpublished, hreported, -⟩ :=
    Pipeline.respond_of_closed hover.closed hover.timer r hap
  rw [changeEvents, hpublished, hreported]
  rfl

/-- The markers and the status that are handed over, of all that can be seen. -/
def notices (es : List HostEvent) : List HostEvent := es.filter fun e => e.name?.isSome

lemma notices_changeEvents (name : String) (c : Change) :
    notices (changeEvents name c) = changeEvents name c := by
  rw [notices, List.filter_eq_self]
  intro e he
  simp only [changeEvents, List.mem_append, Option.mem_toList, Option.map_eq_some_iff] at he
  rcases he with ⟨markers, -, rfl⟩ | ⟨⟨status, message⟩, -, rfl⟩ <;> rfl

/-- What can be seen of the run of a command is no notice. -/
private lemma notices_map_run (events : List RunEvent) (es : List HostEvent) :
    notices (events.map HostEvent.run ++ es) = notices es := by
  rw [notices, List.filter_append, List.filter_eq_nil_iff.2, List.nil_append, notices]
  intro e he
  obtain ⟨_, -, rfl⟩ := List.mem_map.1 he
  exact Bool.false_ne_true

/-- The notices of what may happen to the pipeline of a slot. -/
def noticesOf (r : Receivers) (s : Slot V) (hap : Option Happening) : List HostEvent :=
  hap.elim [] fun hap => changeEvents s.name (s.pipeline.respond r hap)

private lemma notices_goOn (n : Nat) (events : List RunEvent) (rest : Course) :
    notices (goOn env now i n events rest s h).events =
      noticesOf (env.receivers h.publications) s (rest.verdict?.map (.finish n)) := by
  have hrun : notices (events.map HostEvent.run) = [] := by
    rw [← List.append_nil (events.map HostEvent.run), notices_map_run]
    rfl
  match rest with
  | .done v => exact (notices_map_run events _).trans (notices_changeEvents s.name _)
  | .stuck => exact hrun
  | .next (.rounds k) later rest => exact hrun
  | .next (.seconds d k) later rest => exact hrun

private lemma notices_consultFor [Platform] (pass : Pass) :
    notices (consultFor env now i pass s h).events =
      noticesOf (env.receivers h.publications) s
        (((env.consult s.validator pass.text).verdict? pass.text).map (.finish pass.number)) := by
  have hconsulted : ∀ es, notices (.consulted pass.text :: es) = notices es := fun es => rfl
  rw [consultFor, hconsulted]
  cases hc : env.consult s.validator pass.text with
  | answers v => exact notices_changeEvents s.name _
  | holds v => rfl
  | runs c p => exact notices_goOn ..

/-- The notices that come of a job are those of what it makes happen to its pipeline. -/
theorem notices_handleAt [Platform] {j : HostJob} (hj : i = j.slot) :
    notices (handleAt env now i s h j).events =
      noticesOf (env.receivers h.publications) s (j.happening? env s h) := by
  cases j with
  | fire i' serial => exact notices_changeEvents s.name _
  | begin i' n =>
    obtain rfl : i = i' := hj
    rw [handleAt, HostJob.happening?]
    split
    · rfl
    · cases hpass : s.pipeline.pass? n with
      | none => rfl
      | some pass =>
        obtain ⟨-, rfl⟩ := Pipeline.mem_of_pass?_eq_some hpass
        exact notices_consultFor pass
  | follow i' n rounds events rest =>
    cases rounds with
    | zero => exact notices_goOn n events rest
    | succ k => rfl
  | wake i' n v =>
    obtain rfl : i = i' := hj
    rw [handleAt, HostJob.happening?]
    split
    · rfl
    · exact notices_changeEvents s.name _
  | flush ticket i' text =>
    -- whether the caller has to wait makes no difference to what can be seen
    rw [handleAt, flush, apply_ite Reaction.events, apply_ite Reaction.events, ite_self, ite_self]
    exact notices_changeEvents s.name _
  | resume ticket i' fault => rfl
  | deliver ticket i' result => rfl

/-- A notice that comes of a job comes from something that happens to its pipeline. -/
lemma notice_of_mem_handleAt [Platform] {j : HostJob} (hj : i = j.slot) {e : HostEvent}
    {name : String} (he : e ∈ (handleAt env now i s h j).events) (hname : e.name? = some name) :
    ∃ r hap, e ∈ changeEvents s.name (s.pipeline.respond r hap) := by
  have hnotice : e ∈ notices (handleAt env now i s h j).events :=
    List.mem_filter.2 ⟨he, by rw [hname]; rfl⟩
  rw [notices_handleAt hj, noticesOf] at hnotice
  cases hhap : j.happening? env s h with
  | none => rw [hhap] at hnotice; cases hnotice
  | some hap =>
    rw [hhap] at hnotice
    exact ⟨_, hap, hnotice⟩

/-! ## Work on one slot -/

/-- What comes of a call or a job that is about one slot. Something may happen to its pipeline; only
a pipeline that is not over hands something over, and all that is left to do is about the slot. -/
structure Touches (i : Nat) (s : Slot V) (h : Host V) (r : Reaction (Host V) HostJob HostEvent) :
    Prop where
  slots : ∃ receivers hap,
    r.state.slots = h.slots.set i { s with pipeline := s.pipeline.after receivers hap }
  notices : ∀ e ∈ r.events, ∀ name, e.name? = some name → s.name = name ∧ ¬s.IsOver
  jobs : ∀ j ∈ r.jobs, j.slot = i

private lemma notices_of_changeEvents {events : List HostEvent}
    (hevents : ∀ e ∈ events, ∀ name, e.name? = some name →
      ∃ r hap, e ∈ changeEvents s.name (s.pipeline.respond r hap)) :
    ∀ e ∈ events, ∀ name, e.name? = some name → s.name = name ∧ ¬s.IsOver := by
  intro e he name hname
  obtain ⟨r, hap, hchange⟩ := hevents e he name hname
  refine ⟨name_of_mem_changeEvents hchange hname, fun hover => ?_⟩
  rw [changeEvents_of_isOver hover] at hchange
  cases hchange

lemma touches_handle [Platform] {j : HostJob} (hs : h.slots[j.slot]? = some s) :
    Touches j.slot s h (handle env now j h) where
  slots := by
    refine ⟨env.receivers h.publications, j.happening? env s h, ?_⟩
    rw [slots_handle, hs]
  notices := by
    apply notices_of_changeEvents
    intro e he name hname
    rw [handle, hs] at he
    exact notice_of_mem_handleAt rfl he hname
  jobs := by
    intro j' hj'
    rw [handle, hs] at hj'
    exact (successor_of_mem rfl j' hj').slot_eq

lemma touches_flush [Platform] {ticket : Nat} {text : Option Text} (hs : h.slots[i]? = some s) :
    Touches i s h (h.handle env now (.flush ticket i text)) :=
  touches_handle (j := .flush ticket i text) hs

lemma touches_update {text : Text} (hs : h.slots[i]? = some s) :
    Touches i s h (h.update env now i text).reaction where
  slots := ⟨_, some (.update now text), slots_update text hs⟩
  notices := by
    apply notices_of_changeEvents
    intro e he name _
    rw [update, hs] at he
    exact ⟨_, .update now text, he⟩
  jobs := by
    intro j hj
    rcases jobs_update j hj with ⟨n, rfl⟩ | ⟨serial, rfl⟩ <;> rfl

lemma touches_validateNow {text : Option Text} (hs : h.slots[i]? = some s) :
    Touches i s h (h.validateNow env i text).reaction where
  slots := ⟨_, some (.validateNow text), slots_validateNow text hs⟩
  notices := by
    apply notices_of_changeEvents
    intro e he name _
    rw [validateNow, hs] at he
    exact ⟨_, .validateNow text, he⟩
  jobs := by
    intro j hj
    obtain ⟨n, rfl⟩ := jobs_validateNow j hj
    rfl

/-! ## Slots stay -/

/-- Whether each slot of a host is still there in another one, under its name. What was over is
over. -/
def GoesOn (h h' : Host V) : Prop := ∀ (i : Nat) (s : Slot V), h.slots[i]? = some s →
  ∃ s' : Slot V, h'.slots[i]? = some s' ∧ s'.name = s.name ∧ (s.IsOver → s'.IsOver)

/-- Whether this is so, and no slot has been added. -/
structure SameSlots (h h' : Host V) : Prop where
  goesOn : h.GoesOn h'
  length : h'.slots.length = h.slots.length

lemma SameSlots.of_slots (hslots : h'.slots = h.slots) : h.SameSlots h' :=
  ⟨fun _ s hs => ⟨s, hslots ▸ hs, rfl, id⟩, by rw [hslots]⟩

lemma GoesOn.trans (hgo : h.GoesOn h') (hgo' : h'.GoesOn h'') : h.GoesOn h'' := by
  intro i s hs
  obtain ⟨s', hs', hname, hover⟩ := hgo i s hs
  obtain ⟨s'', hs'', hname', hover'⟩ := hgo' i s' hs'
  exact ⟨s'', hs'', hname'.trans hname, hover' ∘ hover⟩

lemma GoesOn.length_le (hgo : h.GoesOn h') : h.slots.length ≤ h'.slots.length := by
  by_contra hlt
  -- otherwise the first slot behind the others would be gone
  obtain ⟨s', hs', -⟩ := hgo h'.slots.length _ (List.getElem?_eq_getElem (by omega))
  rw [List.getElem?_eq_none (Nat.le_refl _)] at hs'
  cases hs'

/-- Changing slots where they are leaves them there. -/
lemma SameSlots.of_getElem? (f : Nat → Slot V → Slot V)
    (hslots : ∀ k, h'.slots[k]? = h.slots[k]?.map (f k)) (hname : ∀ k s, (f k s).name = s.name)
    (hover : ∀ k s, s.IsOver → (f k s).IsOver) : h.SameSlots h' := by
  have hmap : h'.slots = h.slots.mapIdx f :=
    List.ext_getElem? fun k => by rw [hslots, List.getElem?_mapIdx]
  refine ⟨fun i s hs => ?_, by rw [hmap, List.length_mapIdx]⟩
  exact ⟨f i s, by rw [hslots, hs, Option.map_some], hname i s, hover i s⟩

/-- Work on one slot leaves all slots where they are. -/
lemma Touches.sameSlots {r : Reaction (Host V) HostJob HostEvent} (ht : Touches i s h r)
    (hs : h.slots[i]? = some s) : h.SameSlots r.state := by
  obtain ⟨receivers, hap, hslots⟩ := ht.slots
  refine ⟨fun k s' hs' => ?_, by rw [hslots, List.length_set]⟩
  by_cases hk : i = k
  · subst hk
    obtain rfl : s = s' := Option.some.inj (hs.symm.trans hs')
    refine ⟨{ s with pipeline := s.pipeline.after receivers hap }, ?_, rfl,
      fun hover => hover.after receivers hap⟩
    rw [hslots, List.getElem?_set_self (List.getElem?_eq_some_iff.1 hs).1]
  · exact ⟨s', by rw [hslots, List.getElem?_set_ne hk, hs'], rfl, id⟩

end Host

end Mermaid
