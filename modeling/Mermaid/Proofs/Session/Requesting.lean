import Mermaid.Proofs.Session.Alone

/-!
# Requests about one document

A request is about one document or, when it brings settings, about all of them. A session that has
only one of the documents answers the requests about that one as the whole session does.

* `Session.Leaves.equip` says that pipelines are equipped alike, and `Session.Leaves.adopt` that
  settings are taken alike;
* `Session.follows_answer` says that requests keep an excerpt that is about one document.
-/

namespace Mermaid

/-! ## Settings -/

namespace Host

variable {V : Type} {h h' : Host V}

lemma SameSlots.names (hslots : h.SameSlots h') : h'.names = h.names := by
  apply List.ext_getElem?
  intro i
  cases hs : h.slots[i]? with
  | none =>
    have hle := List.getElem?_eq_none_iff.1 hs
    simp [Host.names, hle, hslots.length]
  | some s =>
    obtain ⟨s', hs', hname, -⟩ := hslots.goesOn i s hs
    rw [getElem?_names hs, getElem?_names hs', hname]

/-- A slot that is changed where it is. -/
lemma slots_modifySlot {i : Nat} {s : Slot V} (hs : h.slots[i]? = some s) (f : Slot V → Slot V) :
    (h.modifySlot i f).slots = h.slots.set i (f s) := by
  apply List.ext_getElem?
  intro k
  show (h.slots.modify i f)[k]? = _
  rw [List.getElem?_modify, List.getElem?_set]
  by_cases hk : i = k
  · obtain ⟨hi, rfl⟩ := List.getElem?_eq_some_iff.1 hs
    simp [← hk, hi]
  · simp [hk]

end Host

namespace Session

variable {name : String} {tickets : List Nat} {s s' : Session} {w : World} {now : Instant}

/-- Pipelines that are equipped one after the other leave those of the document equipped. -/
private lemma leaves_foldl_equipSlot (v : Validator) (delay : Binary64) (es : List (String × Nat))
    {h h' : Host Validator} (hl : h.Leaves name tickets h')
    (hplaced : ∀ e ∈ es, h.names[e.2]? = some e.1) :
    ((es.map Prod.snd).foldl (equipSlot v delay) h).Leaves name tickets
      (((es.filter fun e => e.1 = name).map fun e => Host.placeIn name h.names e.2).foldl
        (equipSlot v delay) h') := by
  induction es generalizing h h' with
  | nil => exact hl
  | cons e es ih =>
    obtain ⟨slot, hslot, hname⟩ := Host.exists_of_getElem?_names (hplaced e List.mem_cons_self)
    have hslots : (equipSlot v delay h e.2).slots = h.slots.set e.2 (equipped v delay slot) :=
      Host.slots_modifySlot hslot _
    have hnames : (equipSlot v delay h e.2).names = h.names :=
      Host.names_of_set hslot hslots rfl
    -- names stay, and with them the places of slots among those of the document
    have hlater : ∀ e' ∈ es, (equipSlot v delay h e.2).names[e'.2]? = some e'.1 := by
      rw [hnames]
      exact fun e' he' => hplaced e' (List.mem_cons_of_mem e he')
    rw [List.map_cons, List.foldl_cons]
    by_cases hown : e.1 = name
    · have hslots' := Host.slots_modifySlot (hl.getElem? hslot (hname.trans hown))
        (equipped v delay)
      have hrest := ih (hl.set_own hslot (hname.trans hown) hslots hslots' rfl rfl rfl) hlater
      rw [hnames] at hrest
      rw [List.filter_cons, if_pos (decide_eq_true hown), List.map_cons, List.foldl_cons]
      exact hrest
    · have hne : slot.name ≠ name := hname ▸ hown
      have hwaiting : (equipped v delay slot).pipeline.IsAwaitedBy (· ∉ tickets) :=
        hl.waiting slot (List.mem_of_getElem? hslot) hne
      have hrest := ih (hl.set_other hslot hne hslots rfl hwaiting rfl) hlater
      rw [hnames] at hrest
      rw [List.filter_cons, if_neg (by simpa using hown)]
      exact hrest

lemma Leaves.equip (hs : s.Leaves name tickets s') (v : Validator) (delay : Binary64) :
    (s.equip v delay).Leaves name tickets (s'.equip v delay) := by
  have hvalues : s'.pipelines.values =
      (s.pipelines.entries.filter fun e => e.1 = name).map fun e =>
        Host.placeIn name s.host.names e.2 := by
    rw [hs.pipelines, ByName.values, ByName.map, ByName.only, List.map_map]
    rfl
  have hhost := leaves_foldl_equipSlot v delay s.pipelines.entries hs.host hs.placed
  rw [← hvalues] at hhost
  exact hs.withHost hhost (sameSlots_equip v delay s).names

/-- Both sessions take the settings, or neither. -/
lemma Leaves.applySettings [Platform] (hs : s.Leaves name tickets s') (files : FileTree) :
    (s.applySettings files).session.Leaves name tickets (s'.applySettings files).session := by
  unfold Session.applySettings
  rw [hs.resolver]
  dsimp only
  cases (s.resolver.resolve files).result with
  | error f => exact hs
  | ok new =>
    dsimp only
    rw [accept, accept]
    dsimp only
    cases Validator.ofSettings new with
    | error f =>
      exact ⟨hs.host, hs.documents, hs.pipelines, hs.placed, hs.resolver, rfl, hs.validator⟩
    | ok v =>
      have hnew : Leaves name tickets
          { s with settings := new, logLevel := levelFor s.logLevel new, validator := v }
          { s' with settings := new, logLevel := levelFor s'.logLevel new, validator := v } :=
        ⟨hs.host, hs.documents, hs.pipelines, hs.placed, hs.resolver, rfl, rfl⟩
      exact hnew.equip v new.debounce

lemma Leaves.adopt [Platform] (hs : s.Leaves name tickets s') (files : FileTree)
    (given : Settings.Reading Settings.Patch)
    (change : Resolver → Settings.Patch → Resolver) :
    (s.adopt files given change).session.Leaves name tickets
      (s'.adopt files given change).session := by
  unfold Session.adopt
  rw [hs.resolver]
  cases given.result with
  | error f => exact hs
  | ok p =>
    have hresolver : Leaves name tickets { s with resolver := change s.resolver p }
        { s' with resolver := change s.resolver p } :=
      ⟨hs.host, hs.documents, hs.pipelines, hs.placed, rfl, hs.settings, hs.validator⟩
    exact hresolver.applySettings files

/-- Settings are adopted alike, and nothing is seen of it. -/
lemma follows_adopt [Platform] (hs : s.Leaves name tickets s') (files : FileTree)
    (given : Settings.Reading Settings.Patch)
    (change : Resolver → Settings.Patch → Resolver) :
    (about name tickets).Follows s { state := (s.adopt files given change).session }
      { state := (s'.adopt files given change).session } :=
  follows_of_leaves ((sameSlots_adopt files given change s).2.names ▸ List.prefix_refl _)
    (hs.adopt files given change)

/-! ## Requests -/

/-- Whether a request is about a document, or about all of them. -/
def Request.concerns (name : String) : Request → Bool
  | .begin .. | .configure _ => true
  | .openDocument other .. | .changeDocument other .. | .closeDocument other => other = name
  | .validateDocument _ other | .layOut other => other = some name

/-- The document is kept with another text. -/
lemma Leaves.insert_own (hs : s.Leaves name tickets s') (d : Document) :
    Leaves name tickets { s with documents := s.documents.insert name d }
      { s' with documents := s'.documents.insert name d } :=
  ⟨hs.host, by rw [hs.documents, ByName.only_insert_self], hs.pipelines, hs.placed, hs.resolver,
    hs.settings, hs.validator⟩

/-- Another document is kept with another text. -/
lemma Leaves.insert_other (hs : s.Leaves name tickets s') {other : String} (hother : other ≠ name)
    (d : Document) :
    Leaves name tickets { s with documents := s.documents.insert other d } s' :=
  ⟨hs.host, by rw [hs.documents, ByName.only_insert_of_ne hother], hs.pipelines, hs.placed,
    hs.resolver, hs.settings, hs.validator⟩

section Enter

variable {call : Host Validator → Nat → Reaction (Host Validator) HostJob HostEvent}

/-- A text is kept for a document, and something is done to its pipeline. -/
private def enter (w : World)
    (call : Host Validator → Nat → Reaction (Host Validator) HostJob HostEvent) (name : String)
    (d : Document) (s : Session) : Reaction Session SessionJob SessionEvent :=
  let (s, i) := { s with documents := s.documents.insert name d }.pipelineFor name
  s.lift w (call s.host i)

private lemma follows_insert_own (hcall : Host.IsLocal none call) (hs : s.Leaves name tickets s')
    (d : Document) : (about name tickets).Follows s (s.enter w call name d)
      (s'.enter w call name d) :=
  follows_from (follows_enter_own hcall (hs.insert_own d)) (List.prefix_refl _)

private lemma follows_insert_other (hcall : Host.IsLocal none call)
    (hs : s.Leaves name tickets s') {other : String} (hother : other ≠ name) (d : Document) :
    (about name tickets).Follows s (s.enter w call other d) { state := s' } :=
  follows_from (follows_enter_other hcall (hs.insert_other hother d) hother nofun)
    (List.prefix_refl _)

end Enter

/-- The document is closed in both sessions. -/
lemma Leaves.closeDocument_own (hs : s.Leaves name tickets s') :
    (s.closeDocument w name).state.Leaves name tickets (s'.closeDocument w name).state := by
  have hget := hs.get?_pipelines
  have hnames : (s.teardownOf name).names = s.host.names := (sameSlots_teardownOf s name).1.names
  have hhost : (s.teardownOf name).Leaves name tickets (s'.teardownOf name) := by
    unfold teardownOf
    rw [hget]
    cases hname : s.pipelines.get? name with
    | none => exact hs.host
    | some i =>
      obtain ⟨slot, hslot, hslotName⟩ := hs.exists_slot hname
      have hslot' := hs.host.getElem? hslot hslotName
      exact hs.host.set_own hslot hslotName (Host.slots_modifySlot hslot _)
        (Host.slots_modifySlot hslot' _) rfl rfl rfl
  have hnew := hs.withHost hhost hnames
  refine ⟨hhost, ?_, ?_, ?_, hs.resolver, hs.settings, hs.validator⟩
  · show s'.documents.erase name = (s.documents.erase name).only name
    rw [hs.documents, ByName.only_erase_self]
  · show s'.pipelines.erase name = ((s.pipelines.erase name).only name).map _
    rw [ByName.only_erase_self, ByName.map_erase]
    exact congrArg (ByName.erase · name) hnew.pipelines
  · exact fun e he => hnew.placed e (List.mem_of_mem_filter he)

/-- Another document is closed. -/
lemma Leaves.closeDocument_other (hs : s.Leaves name tickets s') {other : String}
    (hother : other ≠ name) : (s.closeDocument w other).state.Leaves name tickets s' := by
  have hnames : (s.teardownOf other).names = s.host.names :=
    (sameSlots_teardownOf s other).1.names
  have hhost : (s.teardownOf other).Leaves name tickets s'.host := by
    unfold teardownOf
    cases hget : s.pipelines.get? other with
    | none => exact hs.host
    | some i =>
      -- a pipeline that is torn down keeps its callers waiting
      obtain ⟨slot, hslot, hslotName⟩ := hs.exists_slot hget
      have hne : slot.name ≠ name := hslotName ▸ hother
      exact hs.host.set_other hslot hne (Host.slots_modifySlot hslot _) rfl
        (hs.host.waiting slot (List.mem_of_getElem? hslot) hne) rfl
  have hnew := hs.withHost hhost hnames
  refine ⟨hhost, ?_, ?_, ?_, hs.resolver, hs.settings, hs.validator⟩
  · show s'.documents = (s.documents.erase other).only name
    rw [hs.documents, ByName.only_erase_of_ne hother]
  · show s'.pipelines = ((s.pipelines.erase other).only name).map _
    rw [ByName.only_erase_of_ne hother]
    exact hnew.pipelines
  · exact fun e he => hnew.placed e (List.mem_of_mem_filter he)

lemma follows_closeDocument (hs : s.Leaves name tickets s') (other : String) :
    (about name tickets).Follows s (s.closeDocument w other)
      (if other = name then s'.closeDocument w other else { state := s' }) := by
  have hnames : s.host.names <+: (s.closeDocument w other).state.host.names :=
    (sameSlots_teardownOf s other).1.names ▸ List.prefix_refl _
  by_cases hother : other = name
  · subst hother
    rw [if_pos rfl]
    exact { follows_of_leaves hnames (hs.closeDocument_own (w := w)) with events := rfl }
  · rw [if_neg hother]
    refine { follows_of_leaves hnames (hs.closeDocument_other (w := w) hother) with events := ?_ }
    show [] = (sent w other []).toList.filter _
    refine (List.filter_eq_nil_iff.2 fun e he => ?_).symm
    have hname : e.name? = some other :=
      name?_of_visible (e := .published other []) (Option.mem_toList.1 he)
    have hticket : e.ticket? = none :=
      ticket?_of_visible (e := .published other []) (Option.mem_toList.1 he)
    simp [about, SessionEvent.isAbout, hname, hticket, hother]

/-- **Requests keep an excerpt.** A request that is about the document, or about all of them, does
to the session of a single document what is left of what it does; other requests do nothing to it.
-/
theorem follows_answer [Platform] (hs : s.Leaves name tickets s') (q : Request)
    (hq : ∀ ticket other, q = .validateDocument ticket other →
      (ticket ∈ tickets ↔ other = some name)) :
    (about name tickets).Follows s (s.answer w now q)
      (if q.concerns name then s'.answer w now q else { state := s' }) := by
  have hunchanged : (about name tickets).Follows s { state := s } { state := s' } := .unchanged hs
  have hquiet := isQuiet_surroundings w
  cases q with
  | begin root options =>
    have hroot : Leaves name tickets { s with resolver := { root := root } }
        { s' with resolver := { root := root } } :=
      ⟨hs.host, hs.documents, hs.pipelines, hs.placed, rfl, hs.settings, hs.validator⟩
    rw [Request.concerns, if_pos rfl]
    exact follows_from
      (follows_adopt hroot w.files (Settings.ofOptions options) Resolver.replace)
      (List.prefix_refl _)
  | configure options =>
    rw [Request.concerns, if_pos rfl]
    exact follows_adopt hs w.files _ _
  | openDocument other text version =>
    by_cases hother : other = name
    · subst hother
      rw [Request.concerns, if_pos (decide_eq_true rfl)]
      exact follows_insert_own (Host.isLocal_validateNow hquiet (some text)) hs _
    · rw [Request.concerns, if_neg (by simpa using hother)]
      exact follows_insert_other (Host.isLocal_validateNow hquiet (some text)) hs hother _
  | changeDocument other texts version =>
    rw [Session.answer, Session.answer, changeDocument?, changeDocument?]
    cases texts.getLast? with
    | none =>
      rw [Option.map_none, Option.map_none, Option.getD_none, Option.getD_none, ite_self]
      exact hunchanged
    | some text =>
      rw [Option.map_some, Option.map_some, Option.getD_some, Option.getD_some]
      by_cases hother : other = name
      · subst hother
        rw [Request.concerns, if_pos (decide_eq_true rfl)]
        exact follows_insert_own (Host.isLocal_update hquiet now text) hs _
      · rw [Request.concerns, if_neg (by simpa using hother)]
        exact follows_insert_other (Host.isLocal_update hquiet now text) hs hother _
  | closeDocument other =>
    have hclose := follows_closeDocument (w := w) hs other
    simpa [Request.concerns, Session.answer] using hclose
  | validateDocument ticket other =>
    have hticket := hq ticket other rfl
    have hadmits : ∀ j ∈ (s.validateDocument ticket other).jobs, Admits name tickets s j := by
      intro j hj
      obtain rfl : j = .validate ticket other := by
        simpa [Reaction.jobs, Session.validateDocument] using hj
      exact hticket
    by_cases hother : other = some name
    · rw [Request.concerns, if_pos (decide_eq_true hother)]
      refine { hunchanged with ready := ?_, admits := hadmits }
      simp [Session.answer, validateDocument, about, jobAbout?, hother]
    · rw [Request.concerns, if_neg (by simpa using hother)]
      refine { hunchanged with ready := ?_, admits := hadmits }
      simp [Session.answer, validateDocument, about, jobAbout?, hother]
  | layOut other =>
    rw [Session.answer, Session.answer, ite_self]
    exact hunchanged

end Session

end Mermaid
