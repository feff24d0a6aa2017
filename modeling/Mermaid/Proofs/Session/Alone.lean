import Mermaid.Proofs.EventLoop.Excerpt
import Mermaid.Proofs.Pipeline.Moving
import Mermaid.Proofs.Session.Silence

/-!
# A document on its own

Documents share the settings and the validator of their session, and nothing else. A session that
has only one of the documents, with the slots that the document has had, does for it what the whole
session does: the work about these slots is the same, at other places, and all other work is none of
the document's business.

* `Host.Leaves` and `Session.Leaves` compare a session with one that has a single document;
* `Session.about` is the excerpt of a loop that is about one document and about some callers;
* `Session.follows_handle` says that jobs keep it so.
-/

namespace Mermaid

/-! ## One of many things -/

namespace ByName

variable {α β : Type}

/-- What is kept under one name. -/
def only (name : String) (t : ByName α) : ByName α := ⟨t.entries.filter fun e => e.1 = name⟩

/-- Other things kept under the same names. -/
def map (f : α → β) (t : ByName α) : ByName β := ⟨t.entries.map fun e => (e.1, f e.2)⟩

lemma get?_only (name : String) (t : ByName α) : (t.only name).get? name = t.get? name := by
  simp [get?, only, List.find?_filter]

lemma get?_map (f : α → β) (t : ByName α) (name : String) :
    (t.map f).get? name = (t.get? name).map f := by
  rw [get?, get?, map, List.find?_map, Option.map_map, Option.map_map]
  rfl

lemma only_erase_self (name : String) (t : ByName α) :
    (t.erase name).only name = (t.only name).erase name := by
  rw [only, erase, only, erase, List.filter_filter, List.filter_filter]
  congr 2
  funext e
  exact Bool.and_comm ..

lemma only_erase_of_ne {name other : String} (hne : other ≠ name) (t : ByName α) :
    (t.erase other).only name = t.only name := by
  rw [only, erase, only, List.filter_filter]
  congr 2
  funext e
  by_cases he : e.1 = name
  · simp [he, Ne.symm hne]
  · simp [he]

lemma only_insert_self (name : String) (t : ByName α) (a : α) :
    (t.insert name a).only name = (t.only name).insert name a := by
  have herase := congrArg entries (only_erase_self name t)
  simp only [only] at herase
  simp only [only, insert, List.filter_cons, decide_true, if_true, herase]

lemma only_insert_of_ne {name other : String} (hne : other ≠ name) (t : ByName α) (a : α) :
    (t.insert other a).only name = t.only name := by
  have herase := congrArg entries (only_erase_of_ne hne t)
  simp only [only] at herase
  simp only [only, insert, List.filter_cons, hne, decide_false, Bool.false_eq_true, if_false,
    herase]

lemma map_erase (f : α → β) (name : String) (t : ByName α) :
    (t.erase name).map f = (t.map f).erase name := by
  rw [map, erase, map, erase, List.filter_map]
  rfl

lemma map_insert (f : α → β) (name : String) (t : ByName α) (a : α) :
    (t.insert name a).map f = (t.map f).insert name (f a) := by
  have herase := congrArg entries (map_erase f name t)
  simp only [map] at herase
  simp only [map, insert, List.map_cons, herase]

end ByName

section Lists

variable {α : Type} {p : α → Bool}

private lemma getElem?_filter_of_pos {l : List α} {i : Nat} {a : α} (h : l[i]? = some a)
    (ha : p a = true) : (l.filter p)[(l.take i).countP p]? = some a := by
  induction l generalizing i with
  | nil => cases h
  | cons b l ih =>
    cases i with
    | zero =>
      obtain rfl : b = a := Option.some.inj h
      simp [ha]
    | succ i =>
      have hlater := ih h
      cases hb : p b <;> simp [hb, hlater]

private lemma filter_set_of_pos {l : List α} {i : Nat} {a b : α} (h : l[i]? = some a)
    (ha : p a = true) (hb : p b = true) :
    (l.set i b).filter p = (l.filter p).set ((l.take i).countP p) b := by
  induction l generalizing i with
  | nil => rfl
  | cons c l ih =>
    cases i with
    | zero =>
      obtain rfl : c = a := Option.some.inj h
      simp [ha, hb]
    | succ i =>
      have hlater := ih h
      cases hc : p c <;> simp [hc, hlater]

private lemma filter_set_of_neg {l : List α} {i : Nat} {a b : α} (h : l[i]? = some a)
    (ha : p a = false) (hb : p b = false) : (l.set i b).filter p = l.filter p := by
  induction l generalizing i with
  | nil => rfl
  | cons c l ih =>
    cases i with
    | zero =>
      obtain rfl : c = a := Option.some.inj h
      simp [ha, hb]
    | succ i =>
      have hlater := ih h
      cases hc : p c <;> simp [hc, hlater]

end Lists

/-! ## The slots of a document -/

namespace Host

variable {V : Type}

/-- The names of the slots of a host. -/
def names (h : Host V) : List String := h.slots.map Slot.name

/-- The place of a slot among those of its name. -/
def placeIn (name : String) (names : List String) (i : Nat) : Nat := (names.take i).count name

lemma placeIn_of_prefix {name : String} {ns ns' : List String} (hns : ns <+: ns') {i : Nat}
    (hi : i ≤ ns.length) : placeIn name ns' i = placeIn name ns i := by
  obtain ⟨rest, rfl⟩ := hns
  rw [placeIn, List.take_append_of_le_length hi, placeIn]

lemma placeIn_names (name : String) (h : Host V) (i : Nat) :
    placeIn name h.names i = (h.slots.take i).countP fun s => s.name = name := by
  rw [placeIn, names, ← List.map_take, List.count_eq_countP, List.countP_map]
  congr 1

lemma getElem?_names {h : Host V} {i : Nat} {s : Slot V} (hs : h.slots[i]? = some s) :
    h.names[i]? = some s.name := by
  rw [names, List.getElem?_map, hs, Option.map_some]

lemma exists_of_getElem?_names {h : Host V} {i : Nat} {name : String}
    (hname : h.names[i]? = some name) : ∃ s, h.slots[i]? = some s ∧ s.name = name := by
  rwa [names, List.getElem?_map, Option.map_eq_some_iff] at hname

lemma names_of_set {h h' : Host V} {i : Nat} {s t : Slot V} (hs : h.slots[i]? = some s)
    (hslots : h'.slots = h.slots.set i t) (ht : t.name = s.name) : h'.names = h.names := by
  rw [names, hslots, List.map_set, ht, names]
  apply List.ext_getElem?
  intro k
  by_cases hk : i = k
  · subst hk
    have hi := (List.getElem?_eq_some_iff.1 hs).1
    rw [List.getElem?_set_self (by rwa [List.length_map]), List.getElem?_map, hs, Option.map_some]
  · rw [List.getElem?_set_ne hk]

/-- Whether a host has the slots of a single document of another one. Nobody of some callers waits
for a pass of another document, and no pass is cancelled. -/
structure Leaves (name : String) (tickets : List Nat) (h h' : Host V) : Prop where
  slots : h'.slots = h.slots.filter fun s => s.name = name
  cancelled : h.cancelled = []
  cancelled' : h'.cancelled = []
  waiting : ∀ s ∈ h.slots, s.name ≠ name → s.pipeline.IsAwaitedBy (· ∉ tickets)

namespace Leaves

variable {name : String} {tickets : List Nat} {h h' k k' : Host V} {i : Nat} {s t : Slot V}

/-- A slot of the document stands at its place among those of the document. -/
lemma getElem? (hl : h.Leaves name tickets h') (hs : h.slots[i]? = some s) (hname : s.name = name) :
    h'.slots[placeIn name h.names i]? = some s := by
  rw [hl.slots, placeIn_names]
  exact getElem?_filter_of_pos hs (decide_eq_true hname)

/-- A slot of the document changes. -/
lemma set_own (hl : h.Leaves name tickets h') (hs : h.slots[i]? = some s) (hname : s.name = name)
    (hslots : k.slots = h.slots.set i t)
    (hslots' : k'.slots = h'.slots.set (placeIn name h.names i) t) (ht : t.name = s.name)
    (hk : k.cancelled = h.cancelled) (hk' : k'.cancelled = h'.cancelled) :
    k.Leaves name tickets k' where
  slots := by
    rw [hslots, hslots', hl.slots, placeIn_names]
    exact (filter_set_of_pos hs (decide_eq_true hname) (decide_eq_true (ht.trans hname))).symm
  cancelled := hk.trans hl.cancelled
  cancelled' := hk'.trans hl.cancelled'
  waiting := by
    intro u hu hne
    rw [hslots] at hu
    rcases List.mem_or_eq_of_mem_set hu with hold | rfl
    · exact hl.waiting u hold hne
    · exact absurd (ht.trans hname) hne

/-- A slot of another document changes. -/
lemma set_other (hl : h.Leaves name tickets h') (hs : h.slots[i]? = some s)
    (hname : s.name ≠ name) (hslots : k.slots = h.slots.set i t) (ht : t.name = s.name)
    (hwaiting : t.pipeline.IsAwaitedBy (· ∉ tickets)) (hk : k.cancelled = h.cancelled) :
    k.Leaves name tickets h' where
  slots := by
    rw [hslots, hl.slots]
    exact (filter_set_of_neg hs (decide_eq_false hname) (decide_eq_false (ht ▸ hname))).symm
  cancelled := hk.trans hl.cancelled
  cancelled' := hl.cancelled'
  waiting := by
    intro u hu hne
    rw [hslots] at hu
    rcases List.mem_or_eq_of_mem_set hu with hold | rfl
    · exact hl.waiting u hold hne
    · exact hwaiting

/-- The document gets a new slot. -/
lemma add_own (hl : h.Leaves name tickets h') (hname : s.name = name) :
    (h.add s).Leaves name tickets (h'.add s) where
  slots := by
    show h'.slots ++ [s] = (h.slots ++ [s]).filter _
    rw [List.filter_append, hl.slots]
    simp [hname]
  cancelled := hl.cancelled
  cancelled' := hl.cancelled'
  waiting := by
    intro u hu hne
    rcases List.mem_append.1 hu with hold | hnew
    · exact hl.waiting u hold hne
    · rw [List.mem_singleton.1 hnew] at hne
      exact absurd hname hne

/-- The new slot of the document comes behind the others. -/
lemma placeIn_add (hl : h.Leaves name tickets h') :
    placeIn name (h.add s).names h.slots.length = h'.slots.length := by
  rw [placeIn_names, hl.slots, ← List.countP_eq_length_filter]
  show ((h.slots ++ [s]).take h.slots.length).countP _ = _
  rw [List.take_left]

/-- Another document gets a new slot. -/
lemma add_other (hl : h.Leaves name tickets h') (hname : s.name ≠ name)
    (hwaiting : s.pipeline.IsAwaitedBy (· ∉ tickets)) : (h.add s).Leaves name tickets h' where
  slots := by
    show h'.slots = (h.slots ++ [s]).filter _
    rw [List.filter_append, hl.slots]
    simp [hname]
  cancelled := hl.cancelled
  cancelled' := hl.cancelled'
  waiting := by
    intro u hu hne
    rcases List.mem_append.1 hu with hold | hnew
    · exact hl.waiting u hold hne
    · rw [List.mem_singleton.1 hnew]
      exact hwaiting

end Leaves

end Host

/-- The caller who gets markers. -/
def SessionEvent.ticket? : SessionEvent → Option Nat
  | .validated ticket _ => some ticket
  | _ => none

/-- Whether something is sent about a document, or is the answer to one of some callers. -/
def SessionEvent.isAbout (name : String) (tickets : List Nat) (e : SessionEvent) : Bool :=
  e.name? = some name || e.ticket?.any (· ∈ tickets)

namespace Session

variable {name : String} {tickets : List Nat} {s s' t t' : Session} {w : World} {now : Instant}

lemma ticket?_of_visible {e : HostEvent} {e' : SessionEvent} (he : visible w e = some e') :
    e'.ticket? = e.ticket? := by
  cases isSeenAs_of_visible he <;> rfl

/-! ## The session of a single document -/

/-- Whether a session is left when all documents but one are taken away from another session. -/
structure Leaves (name : String) (tickets : List Nat) (s s' : Session) : Prop where
  host : s.host.Leaves name tickets s'.host
  documents : s'.documents = s.documents.only name
  pipelines : s'.pipelines = (s.pipelines.only name).map (Host.placeIn name s.host.names)
  /-- The pipeline of a document bears its name. -/
  placed : ∀ e ∈ s.pipelines.entries, s.host.names[e.2]? = some e.1
  resolver : s'.resolver = s.resolver
  settings : s'.settings = s.settings
  validator : s'.validator = s.validator

/-- What is left of a job: the work about slots of the document, and the callers. -/
def jobAbout? (name : String) (tickets : List Nat) (s : Session) : SessionJob → Option SessionJob
  | .host j =>
    if s.host.names[j.slot]? = some name then
      some (.host (j.moveTo (Host.placeIn name s.host.names j.slot)))
    else none
  | .validate ticket other => if other = some name then some (.validate ticket other) else none
  | .answerNothing ticket => if ticket ∈ tickets then some (.answerNothing ticket) else none

/-- Whether a job may be left to do: its slot is there, and one of the callers is about the
document. -/
def Admits (name : String) (tickets : List Nat) (s : Session) : SessionJob → Prop
  | .host j => j.slot < s.host.names.length ∧
    ∀ ticket, j.ticket? = some ticket → s.host.names[j.slot]? = some name ∨ ticket ∉ tickets
  | .validate ticket other => ticket ∈ tickets ↔ other = some name
  | .answerNothing _ => True

/-- The excerpt of a loop that is about a document and some callers. -/
def about (name : String) (tickets : List Nat) : Excerpt Session SessionJob SessionEvent where
  leaves := Leaves name tickets
  admits := Admits name tickets
  job? := jobAbout? name tickets
  isAbout := SessionEvent.isAbout name tickets

/-- Jobs are about the same slots, whatever slots are added. -/
lemma admits_of_prefix (hnames : s.host.names <+: t.host.names) {j : SessionJob}
    (hj : Admits name tickets s j) :
    Admits name tickets t j ∧ jobAbout? name tickets t j = jobAbout? name tickets s j := by
  cases j with
  | host j =>
    have hsame : t.host.names[j.slot]? = s.host.names[j.slot]? := by
      obtain ⟨rest, hrest⟩ := hnames
      rw [← hrest, List.getElem?_append_left hj.1]
    refine ⟨⟨Nat.lt_of_lt_of_le hj.1 hnames.length_le, hsame ▸ hj.2⟩, ?_⟩
    rw [jobAbout?, jobAbout?, hsame, Host.placeIn_of_prefix hnames hj.1.le]
  | validate ticket other => exact ⟨hj, rfl⟩
  | answerNothing ticket => exact ⟨hj, rfl⟩

/-- Nothing is seen, and nothing is left to do. -/
lemma follows_of_leaves (hnames : s.host.names <+: t.host.names) (ht : t.Leaves name tickets t') :
    (about name tickets).Follows s { state := t } { state := t' } where
  state := ht
  events := rfl
  ready := rfl
  timers := rfl
  admits := nofun
  keeps := fun _ hj => admits_of_prefix hnames hj

/-- What is done once slots have been added is done to the session from before. -/
lemma follows_from {r r' : Reaction Session SessionJob SessionEvent}
    (hr : (about name tickets).Follows t r r') (hnames : s.host.names <+: t.host.names) :
    (about name tickets).Follows s r r' where
  state := hr.state
  events := hr.events
  ready := hr.ready
  timers := hr.timers
  admits := hr.admits
  keeps := by
    intro j hj
    obtain ⟨hadmits, hsame⟩ := admits_of_prefix hnames hj
    exact ⟨(hr.keeps j hadmits).1, (hr.keeps j hadmits).2.trans hsame⟩

section Lift

variable {caller : Option Nat}
  {call : Host Validator → Nat → Reaction (Host Validator) HostJob HostEvent} {i : Nat}
  {slot : Slot Validator}

lemma Leaves.withHost (hs : s.Leaves name tickets s') {h h' : Host Validator}
    (hh : h.Leaves name tickets h') (hnames : h.names = s.host.names) :
    Leaves name tickets { s with host := h } { s' with host := h' } where
  host := hh
  documents := hs.documents
  pipelines := by
    show s'.pipelines = _
    rw [hs.pipelines, hnames]
  placed := fun e he => by
    show h.names[e.2]? = some e.1
    rw [hnames]
    exact hs.placed e he
  resolver := hs.resolver
  settings := hs.settings
  validator := hs.validator

/-- The same is left of a job when something has been done to the host. -/
private lemma jobAbout?_lift {r : Reaction (Host Validator) HostJob HostEvent}
    (hnames : r.state.names = s.host.names) (j : HostJob) :
    jobAbout? name tickets (s.lift w r).state (.host j) = jobAbout? name tickets s (.host j) := by
  show (if r.state.names[j.slot]? = some name then
    some (SessionJob.host (j.moveTo (Host.placeIn name r.state.names j.slot))) else none) = _
  rw [hnames, jobAbout?]

/-- What is done to a slot of the document is done at its place in the excerpt. -/
lemma follows_lift_own (hcall : Host.IsLocal caller call) (hs : s.Leaves name tickets s')
    (hslot : s.host.slots[i]? = some slot) (hname : slot.name = name) :
    (about name tickets).Follows s (s.lift w (call s.host i))
      (s'.lift w (call s'.host (Host.placeIn name s.host.names i))) := by
  have hmoves := hcall.moves hs.host.cancelled hs.host.cancelled' hslot
    (hs.host.getElem? hslot hname)
  obtain ⟨p, hslots, hslots'⟩ := hmoves.slots
  have hnames : (call s.host i).state.names = s.host.names :=
    Host.names_of_set hslot hslots rfl
  have hself : s.host.names[i]? = some name := hname ▸ Host.getElem?_names hslot
  -- all that is left to do is about the slot
  have hjob : ∀ j ∈ (call s.host i).jobs, jobAbout? name tickets (s.lift w (call s.host i)).state
      (.host j) = some (.host (j.moveTo (Host.placeIn name s.host.names i))) := by
    intro j hj
    rw [jobAbout?_lift hnames, jobAbout?, (hcall.touches hslot).jobs j hj, if_pos hself]
  refine ⟨?_, ?_, ?_, ?_, ?_, fun j hj => admits_of_prefix (hnames ▸ List.prefix_refl _) hj⟩
  · exact hs.withHost (hs.host.set_own hslot hname hslots hslots' rfl (hcall.cancelled _ _)
      (hcall.cancelled _ _)) hnames
  · show (List.filterMap (visible w) _).filter _ = (List.filterMap (visible w) _).filter _
    rw [hmoves.events]
  · show List.map SessionJob.host _ = (List.map SessionJob.host _).filterMap _
    rw [hmoves.ready, List.filterMap_map, List.map_map, ← List.filterMap_eq_map]
    exact List.filterMap_congr fun j hj => (hjob j (List.mem_append_left _ hj)).symm
  · show List.map _ (call s'.host _).timers = (List.map _ (call s.host i).timers).filterMap _
    rw [hmoves.timers, List.filterMap_map, List.map_map, ← List.filterMap_eq_map]
    refine List.filterMap_congr fun timer htimer => ?_
    have hmem := hjob timer.job (List.mem_append_right _ (List.mem_map_of_mem htimer))
    show _ = ((about name tickets).job? _ (.host timer.job)).map _
    rw [show (about name tickets).job? _ (.host timer.job) = _ from hmem]
    rfl
  · intro j hj
    rw [jobs_lift] at hj
    obtain ⟨j', hj', rfl⟩ := List.mem_map.1 hj
    have hsame := (hcall.touches hslot).jobs j' hj'
    refine ⟨?_, fun ticket _ => .inl ?_⟩
    · show j'.slot < (call s.host i).state.names.length
      rw [hsame, hnames]
      exact (List.getElem?_eq_some_iff.1 hself).1
    · show (call s.host i).state.names[j'.slot]? = some name
      rw [hsame, hnames, hself]

/-- What is done to a slot of another document, for none of the callers, does nothing to the
excerpt. -/
lemma follows_lift_other (hcall : Host.IsLocal caller call) (hs : s.Leaves name tickets s')
    (hslot : s.host.slots[i]? = some slot) (hname : slot.name ≠ name)
    (hcaller : ∀ ticket, caller = some ticket → ticket ∉ tickets) :
    (about name tickets).Follows s (s.lift w (call s.host i)) { state := s' } := by
  have htouches := hcall.touches hslot
  have hmem : slot ∈ s.host.slots := List.mem_of_getElem? hslot
  have hanswers := hcall.answers hslot (hs.host.waiting slot hmem hname) hcaller
  obtain ⟨receivers, hap, hslots⟩ := htouches.slots
  have hnames : (call s.host i).state.names = s.host.names :=
    Host.names_of_set hslot hslots rfl
  have hself : s.host.names[i]? = some slot.name := Host.getElem?_names hslot
  have hlt : i < s.host.slots.length := (List.getElem?_eq_some_iff.1 hslot).1
  -- nothing is left of what is to be done for the other document
  have hjob : ∀ j ∈ (call s.host i).jobs,
      jobAbout? name tickets (s.lift w (call s.host i)).state (.host j) = none := by
    intro j hj
    rw [jobAbout?_lift hnames, jobAbout?, htouches.jobs j hj, hself,
      if_neg fun heq => hname (Option.some.inj heq)]
  refine ⟨?_, ?_, ?_, ?_, ?_, fun j hj => admits_of_prefix (hnames ▸ List.prefix_refl _) hj⟩
  · have hafter := hanswers.waiting { slot with pipeline := slot.pipeline.after receivers hap }
      (by rw [hslots, List.getElem?_set_self hlt])
    exact hs.withHost (hs.host.set_other hslot hname hslots rfl hafter (hcall.cancelled _ _)) hnames
  · -- what is seen bears the name of the other document, or answers a caller who waits for it
    show [] = (List.filterMap (visible w) (call s.host i).events).filter _
    refine (List.filter_eq_nil_iff.2 fun e he => ?_).symm
    obtain ⟨e', he', hvisible⟩ := List.mem_filterMap.1 he
    have hnotName : e.name? ≠ some name := fun heq =>
      hname (htouches.notices e' he' name ((name?_of_visible hvisible).symm.trans heq)).1
    have hnotTicket : e.ticket?.any (· ∈ tickets) = false := by
      rw [ticket?_of_visible hvisible]
      cases hticket : e'.ticket? with
      | none => rfl
      | some ticket => simpa using hanswers.events e' he' ticket hticket
    show ¬ (decide (e.name? = some name) || e.ticket?.any (· ∈ tickets)) = true
    rw [decide_eq_false hnotName, hnotTicket]
    exact Bool.false_ne_true
  · show [] = (List.map SessionJob.host _).filterMap _
    rw [List.filterMap_map]
    exact (List.filterMap_eq_nil_iff.2 fun j hj => hjob j (List.mem_append_left _ hj)).symm
  · show [] = (List.map _ (call s.host i).timers).filterMap _
    rw [List.filterMap_map]
    refine (List.filterMap_eq_nil_iff.2 fun timer htimer => ?_).symm
    have hnone := hjob timer.job (List.mem_append_right _ (List.mem_map_of_mem htimer))
    show ((about name tickets).job? _ (.host timer.job)).map _ = none
    rw [show (about name tickets).job? _ (.host timer.job) = _ from hnone]
    rfl
  · intro j hj
    rw [jobs_lift] at hj
    obtain ⟨j', hj', rfl⟩ := List.mem_map.1 hj
    have hsame := htouches.jobs j' hj'
    refine ⟨?_, fun ticket hticket => .inr (hanswers.jobs j' hj' ticket hticket)⟩
    show j'.slot < (call s.host i).state.names.length
    rw [hsame, hnames]
    exact (List.getElem?_eq_some_iff.1 hself).1

end Lift

/-! ## Pipelines of documents -/

/-- The pipelines of a session bear names that its host has. -/
lemma Leaves.exists_slot (hs : s.Leaves name tickets s') {other : String} {i : Nat}
    (hother : s.pipelines.get? other = some i) :
    ∃ slot, s.host.slots[i]? = some slot ∧ slot.name = other := by
  obtain ⟨e, he, rfl⟩ := Option.map_eq_some_iff.1 hother
  have hplaced := hs.placed e (List.mem_of_find?_eq_some he)
  obtain rfl : e.1 = other := by simpa using List.find?_some he
  exact Host.exists_of_getElem?_names hplaced

lemma Leaves.get?_pipelines (hs : s.Leaves name tickets s') :
    s'.pipelines.get? name =
      (s.pipelines.get? name).map (Host.placeIn name s.host.names) := by
  rw [hs.pipelines, ByName.get?_map, ByName.get?_only]

/-- The pipelines of a document keep their places when slots are added. -/
lemma Leaves.map_placeIn (hs : s.Leaves name tickets s') {names : List String}
    (hnames : s.host.names <+: names) :
    (s.pipelines.only name).map (Host.placeIn name names) =
      (s.pipelines.only name).map (Host.placeIn name s.host.names) := by
  simp only [ByName.map, ByName.only]
  congr 1
  refine List.map_congr_left fun e he => ?_
  have hlt := (List.getElem?_eq_some_iff.1 (hs.placed e (List.mem_of_mem_filter he))).1
  rw [Host.placeIn_of_prefix hnames hlt.le]

/-- Pipelines bear their names when one more has been added. -/
lemma Leaves.placed_insert (hs : s.Leaves name tickets s') {names : List String}
    (hnames : s.host.names <+: names) {other : String} {i : Nat} (hi : names[i]? = some other) :
    ∀ e ∈ (s.pipelines.insert other i).entries, names[e.2]? = some e.1 := by
  intro e he
  rcases List.mem_cons.1 he with rfl | hold
  · exact hi
  · obtain ⟨rest, rfl⟩ := hnames
    have hplaced := hs.placed e (List.mem_of_mem_filter hold)
    rw [List.getElem?_append_left (List.getElem?_eq_some_iff.1 hplaced).1]
    exact hplaced

lemma prefix_names_pipelineFor (s : Session) (other : String) :
    s.host.names <+: (s.pipelineFor other).1.host.names := by
  unfold pipelineFor
  split
  · exact List.prefix_refl _
  · exact ⟨[other], by simp [Host.names, Host.add]⟩

/-- The document has its pipeline, old or new, at its place in the excerpt. -/
lemma Leaves.pipelineFor_own (hs : s.Leaves name tickets s') :
    (s.pipelineFor name).1.Leaves name tickets (s'.pipelineFor name).1 ∧
      (s'.pipelineFor name).2 =
        Host.placeIn name (s.pipelineFor name).1.host.names (s.pipelineFor name).2 ∧
      ∃ slot, (s.pipelineFor name).1.host.slots[(s.pipelineFor name).2]? = some slot ∧
        slot.name = name := by
  have hget := hs.get?_pipelines
  have hnames := prefix_names_pipelineFor s name
  unfold pipelineFor at hnames ⊢
  cases hname : s.pipelines.get? name with
  | some i =>
    rw [hname, Option.map_some] at hget
    rw [hget]
    exact ⟨hs, rfl, hs.exists_slot hname⟩
  | none =>
    rw [hname, Option.map_none] at hget
    rw [hname] at hnames
    rw [hget]
    dsimp only at hnames ⊢
    rw [hs.validator, hs.settings]
    -- the new slot comes last, in the host and among the slots of the document
    have hlast := hs.host.placeIn_add
      (s := ⟨name, s.validator, { delay := s.settings.debounce }⟩)
    have hslot : (s.host.add ⟨name, s.validator, { delay := s.settings.debounce }⟩).slots[
        s.host.slots.length]? = some ⟨name, s.validator, { delay := s.settings.debounce }⟩ :=
      List.getElem?_concat_length
    refine ⟨⟨hs.host.add_own rfl, hs.documents, ?_, ?_, hs.resolver, rfl, rfl⟩, hlast.symm,
      _, hslot, rfl⟩
    · dsimp only
      rw [ByName.only_insert_self, ByName.map_insert, hlast, hs.map_placeIn hnames, hs.pipelines]
    · exact hs.placed_insert hnames (Host.getElem?_names hslot)

/-- The pipeline of another document, old or new, is none of the excerpt. -/
lemma Leaves.pipelineFor_other (hs : s.Leaves name tickets s') {other : String}
    (hother : other ≠ name) : (s.pipelineFor other).1.Leaves name tickets s' ∧
      ∃ slot, (s.pipelineFor other).1.host.slots[(s.pipelineFor other).2]? = some slot ∧
        slot.name = other := by
  have hnames := prefix_names_pipelineFor s other
  unfold pipelineFor at hnames ⊢
  cases hget : s.pipelines.get? other with
  | some i => exact ⟨hs, hs.exists_slot hget⟩
  | none =>
    rw [hget] at hnames
    dsimp only at hnames ⊢
    have hslot : (s.host.add ⟨other, s.validator, { delay := s.settings.debounce }⟩).slots[
        s.host.slots.length]? = some ⟨other, s.validator, { delay := s.settings.debounce }⟩ :=
      List.getElem?_concat_length
    refine ⟨⟨hs.host.add_other hother nofun, hs.documents, ?_, ?_, hs.resolver, hs.settings,
      hs.validator⟩, _, hslot, rfl⟩
    · dsimp only
      rw [ByName.only_insert_of_ne hother, hs.map_placeIn hnames, hs.pipelines]
    · exact hs.placed_insert hnames (Host.getElem?_names hslot)

section Enter

variable {caller : Option Nat}
  {call : Host Validator → Nat → Reaction (Host Validator) HostJob HostEvent}

/-- The document gets a pipeline, and something is done to it. -/
lemma follows_enter_own (hcall : Host.IsLocal caller call) (hs : s.Leaves name tickets s') :
    (about name tickets).Follows s
      ((s.pipelineFor name).1.lift w
        (call (s.pipelineFor name).1.host (s.pipelineFor name).2))
      ((s'.pipelineFor name).1.lift w
        (call (s'.pipelineFor name).1.host (s'.pipelineFor name).2)) := by
  obtain ⟨hleaves, hplace, slot, hslot, hname⟩ := hs.pipelineFor_own
  rw [hplace]
  exact follows_from (follows_lift_own hcall hleaves hslot hname)
    (prefix_names_pipelineFor s name)

/-- Another document gets a pipeline, and something is done to it for none of the callers. -/
lemma follows_enter_other (hcall : Host.IsLocal caller call) (hs : s.Leaves name tickets s')
    {other : String} (hother : other ≠ name)
    (hcaller : ∀ ticket, caller = some ticket → ticket ∉ tickets) :
    (about name tickets).Follows s
      ((s.pipelineFor other).1.lift w
        (call (s.pipelineFor other).1.host (s.pipelineFor other).2)) { state := s' } := by
  obtain ⟨hleaves, slot, hslot, hname⟩ := hs.pipelineFor_other hother
  exact follows_from (follows_lift_other hcall hleaves hslot (hname ▸ hother) hcaller)
    (prefix_names_pipelineFor s other)

end Enter

/-! ## Jobs -/

lemma isQuiet_surroundings (w : World) : (surroundings w).IsQuiet := fun _ => rfl

/-- The document is open in both sessions or in none. -/
lemma Leaves.named? (hs : s.Leaves name tickets s') :
    s'.named? (some name) = s.named? (some name) := by
  simp only [Session.named?, hs.documents, ByName.get?_only]

lemma follows_host [Platform] (hs : s.Leaves name tickets s') {j : HostJob}
    (hj : Admits name tickets s (.host j)) :
    (about name tickets).Follows s (handle w now (.host j) s)
      ((jobAbout? name tickets s (.host j)).elim { state := s' } (handle w now · s')) := by
  have hlocal := Host.isLocal_handle (isQuiet_surroundings w) now j
  have hself : j.moveTo j.slot = j := by cases j <;> rfl
  obtain ⟨slot, hslot⟩ : ∃ slot, s.host.slots[j.slot]? = some slot :=
    ⟨_, List.getElem?_eq_getElem (by simpa [Host.names] using hj.1)⟩
  have hnames := Host.getElem?_names hslot
  rw [jobAbout?, hnames]
  by_cases hname : slot.name = name
  · have hfollows := follows_lift_own (w := w) hlocal hs hslot hname
    rw [hself] at hfollows
    rw [if_pos (congrArg some hname)]
    exact hfollows
  · have hcaller : ∀ ticket, j.ticket? = some ticket → ticket ∉ tickets := by
      intro ticket hticket
      rcases hj.2 ticket hticket with hown | hnot
      · rw [hnames] at hown
        exact absurd (Option.some.inj hown) hname
      · exact hnot
    have hfollows := follows_lift_other (w := w) hlocal hs hslot hname hcaller
    rw [hself] at hfollows
    rw [if_neg fun heq => hname (Option.some.inj heq)]
    exact hfollows

/-- A caller is told that there is nothing to mark. -/
lemma follows_nothing (hs : s.Leaves name tickets s') (ticket : Nat) :
    (about name tickets).Follows s { state := s, ready := [.answerNothing ticket] }
      { state := s', ready := if ticket ∈ tickets then [.answerNothing ticket] else [] } where
  state := hs
  events := rfl
  ready := by
    dsimp only
    by_cases hticket : ticket ∈ tickets <;> simp [about, jobAbout?, hticket]
  timers := rfl
  admits := by
    intro j hj
    obtain rfl : j = .answerNothing ticket := by simpa [Reaction.jobs] using hj
    exact trivial
  keeps := fun _ hj => ⟨hj, rfl⟩

lemma follows_validate [Platform] (hs : s.Leaves name tickets s') {ticket : Nat}
    {other : Option String} (hj : ticket ∈ tickets ↔ other = some name) :
    (about name tickets).Follows s (handle w now (.validate ticket other) s)
      ((jobAbout? name tickets s (.validate ticket other)).elim { state := s' }
        (handle w now · s')) := by
  have hlocal : ∀ text, Host.IsLocal (some ticket) fun h i =>
      h.handle (surroundings w) now (.flush ticket i text) :=
    fun text => Host.isLocal_handle (isQuiet_surroundings w) now (.flush ticket 0 text)
  rw [jobAbout?]
  by_cases hother : other = some name
  · obtain rfl := hother
    have hnothing := follows_nothing hs ticket
    rw [if_pos (hj.2 rfl)] at hnothing
    rw [if_pos rfl, Option.elim_some, Session.handle, Session.handle]
    unfold validateFor
    rw [hs.named?]
    cases s.named? (some name) with
    | none => exact hnothing
    | some doc => exact follows_enter_own (hlocal (some doc.text)) hs
  · have hnot : ticket ∉ tickets := fun hmem => hother (hj.1 hmem)
    have hnothing := follows_nothing hs ticket
    rw [if_neg hnot] at hnothing
    rw [if_neg hother, Option.elim_none, Session.handle]
    unfold validateFor
    split
    · next n doc _ =>
      refine follows_enter_other (hlocal (some doc.text)) hs (fun heq => hother (heq ▸ rfl)) ?_
      intro t ht
      exact Option.some.inj ht ▸ hnot
    · exact hnothing

/-- **Jobs keep an excerpt.** What is left of a job does to the session of a single document what is
left of what the job does. -/
theorem follows_handle [Platform] (hs : s.Leaves name tickets s') {j : SessionJob}
    (hj : Admits name tickets s j) :
    (about name tickets).Follows s (handle w now j s)
      ((jobAbout? name tickets s j).elim { state := s' } (handle w now · s')) := by
  cases j with
  | host j => exact follows_host hs hj
  | validate ticket other => exact follows_validate hs hj
  | answerNothing ticket =>
    have hunchanged : (about name tickets).Follows s { state := s } { state := s' } :=
      .unchanged hs
    by_cases hticket : ticket ∈ tickets
    · rw [jobAbout?, if_pos hticket]
      exact { hunchanged with events := rfl }
    · rw [jobAbout?, if_neg hticket]
      refine { hunchanged with events := ?_ }
      show [] = List.filter _ [SessionEvent.validated ticket (.ok [])]
      simp [about, SessionEvent.isAbout, SessionEvent.name?, SessionEvent.ticket?, hticket]

end Session

end Mermaid
