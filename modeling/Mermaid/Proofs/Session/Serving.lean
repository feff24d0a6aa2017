import Mathlib.Logic.Function.Basic
import Mermaid.Proofs.Pipeline.Hosting
import Mermaid.Session.Configuration
import Mermaid.Session.Documents

/-!
# Pipelines serve documents

Each open document of a session has its own pipeline, which is open and has the text of the
document, and the validator and the delay of the session.

`Session.Serves` says so of the texts of all documents. Requests enter texts into pipelines
(`Session.Serves.entered`), give documents a pipeline or take it away (`Session.Serves.pipelineFor`,
`Session.Serves.erase`), or equip all pipelines anew (`Session.Serves.equip`); jobs leave the texts
alone (`Session.Serves.work`).
-/

namespace Mermaid

/-- Whether a slot serves a document with a text: its pipeline is open and has the text, and the
validator and the delay are the given ones. -/
structure Slot.Serves {V : Type} (slot : Slot V) (name : String) (text : Text) (v : V)
    (delay : Binary64) : Prop where
  name : slot.name = name
  isOpen : slot.pipeline.isClosed = false
  text : slot.pipeline.text = text
  validator : slot.validator = v
  delay : slot.pipeline.delay = delay

/-! ## Slots -/

/-- What happens to a slot leaves it serving its document, with the text that is handed in or else
the one before. -/
lemma Slot.Serves.respond {V : Type} {slot : Slot V} {name : String} {text : Text} {v : V}
    {delay : Binary64} (hs : slot.Serves name text v delay) (r : Receivers) {hap : Happening}
    (hhap : hap.isWork = true ∨ hap.isEntry = true) :
    Slot.Serves { slot with pipeline := (slot.pipeline.respond r hap).pipeline } name
      (hap.text?.getD text) v delay := by
  cases hpossible : hap.isPossible slot.pipeline with
  | true =>
    have hnone : hap.delay? = none := by
      cases hap <;> first | rfl | simp [Happening.isWork, Happening.isEntry] at hhap
    obtain ⟨hopen, htext, hdelay⟩ :=
      (Pipeline.respond_transition r slot.pipeline hap hpossible).keeps_open hs.isOpen
        (by rintro rfl; simp [Happening.isWork, Happening.isEntry] at hhap)
    rw [hs.text] at htext
    rw [hnone, Option.getD_none, hs.delay] at hdelay
    exact ⟨hs.name, hopen, htext, hs.validator, hdelay⟩
  | false =>
    -- only work can be impossible, and work hands nothing in
    have hnone : hap.text? = none := by cases hap <;> first | rfl | cases hpossible
    rw [Pipeline.respond_of_impossible hpossible, hnone]
    exact hs

namespace Session

/-! ## Pipelines and the texts they serve -/

/-- Whether the pipelines of a session serve documents with the given texts, and no others. -/
structure Serves (texts : String → Option Text) (s : Session) : Prop where
  served : ∀ name text, texts name = some text → ∃ i slot, s.pipelines.get? name = some i ∧
    s.host.slots[i]? = some slot ∧ slot.Serves name text s.validator s.settings.debounce
  unserved : ∀ name, texts name = none → s.pipelines.get? name = none

variable {s : Session} {texts : String → Option Text} {name : String} {i : Nat}

/-- Pipelines serve the same texts whatever the session keeps of its documents. -/
lemma Serves.withDocuments (hs : s.Serves texts) (documents : ByName Document) :
    Serves texts { s with documents := documents } :=
  ⟨hs.served, hs.unserved⟩

/-- Pipelines serve the same texts wherever the settings come from. -/
lemma Serves.withResolver (hs : s.Serves texts) (resolver : Resolver) :
    Serves texts { s with resolver := resolver } :=
  ⟨hs.served, hs.unserved⟩

/-- The slot of a name serves a document of that name. -/
lemma Serves.slot (hs : s.Serves texts) (hname : s.pipelines.get? name = some i) :
    ∃ text slot, texts name = some text ∧ s.host.slots[i]? = some slot ∧
      slot.Serves name text s.validator s.settings.debounce := by
  cases htext : texts name with
  | none =>
    rw [hs.unserved name htext] at hname
    cases hname
  | some text =>
    obtain ⟨i', slot, hi', hslot, hserves⟩ := hs.served name text htext
    rw [hname] at hi'
    obtain rfl : i = i' := Option.some.inj hi'
    exact ⟨text, slot, rfl, hslot, hserves⟩

/-- Two names never share a slot. -/
lemma Serves.name_eq (hs : s.Serves texts) (hname : s.pipelines.get? name = some i)
    {other : String} (hother : s.pipelines.get? other = some i) : other = name := by
  obtain ⟨_, slot, -, hslot, hserves⟩ := hs.slot hname
  obtain ⟨_, slot', -, hslot', hserves'⟩ := hs.slot hother
  rw [hslot] at hslot'
  obtain rfl : slot = slot' := Option.some.inj hslot'
  exact hserves'.name.symm.trans hserves.name

/-- Changing one slot changes at most the text that is served from there. -/
lemma Serves.set (hs : s.Serves texts) {texts' : String → Option Text} {slot : Slot Validator}
    {host : Host Validator} (hhost : host.slots = s.host.slots.set i slot)
    (hsame : ∀ other, s.pipelines.get? other ≠ some i → texts' other = texts other)
    (hnew : ∀ other, s.pipelines.get? other = some i → ∃ text, texts' other = some text ∧
      slot.Serves other text s.validator s.settings.debounce) :
    Serves texts' { s with host := host } where
  served := by
    intro other text htext
    by_cases hother : s.pipelines.get? other = some i
    · obtain ⟨text', htext', hserves⟩ := hnew other hother
      obtain rfl : text = text' := Option.some.inj (htext.symm.trans htext')
      obtain ⟨-, old, -, hold, -⟩ := hs.slot hother
      refine ⟨i, slot, hother, ?_, hserves⟩
      rw [hhost, List.getElem?_set_self (List.getElem?_eq_some_iff.1 hold).1]
    · rw [hsame other hother] at htext
      obtain ⟨k, old, hk, hold, hserves⟩ := hs.served other text htext
      have hne : i ≠ k := by
        rintro rfl
        exact hother hk
      exact ⟨k, old, hk, by rw [hhost, List.getElem?_set_ne hne, hold], hserves⟩
  unserved := by
    intro other htext
    by_cases hother : s.pipelines.get? other = some i
    · obtain ⟨text', htext', -⟩ := hnew other hother
      rw [htext'] at htext
      cases htext
    · rw [hsame other hother] at htext
      exact hs.unserved other htext

/-- Jobs leave the texts that are served as they are, unless they bring one. -/
lemma Serves.work [Platform] (hs : s.Serves texts) (env : Surroundings Validator) (now : Instant)
    {j : HostJob} (hj : j.isFlush = false) :
    Serves texts { s with host := (s.host.handle env now j).state } := by
  have hslots : (s.host.handle env now j).state.slots = _ := Host.slots_handle j s.host
  cases hslot : s.host.slots[j.slot]? with
  | none =>
    rw [hslot] at hslots
    dsimp only at hslots
    exact ⟨fun name text htext => by simpa only [hslots] using hs.served name text htext,
      hs.unserved⟩
  | some slot =>
    rw [hslot] at hslots
    refine hs.set hslots (fun _ _ => rfl) fun other hother => ?_
    obtain ⟨text, slot', htext, hslot', hserves⟩ := hs.slot hother
    rw [hslot] at hslot'
    obtain rfl : slot = slot' := Option.some.inj hslot'
    refine ⟨text, htext, ?_⟩
    cases hhap : j.happening? env slot s.host with
    | none => exact hserves
    | some hap =>
      have hwork := HostJob.isWork_of_happening? hj hhap
      have hnone : hap.text? = none := by cases hap <;> first | rfl | cases hwork
      have hafter := hserves.respond (env.receivers s.host.publications) (.inl hwork)
      rw [hnone] at hafter
      exact hafter

/-- A text that is handed in is served from then on. -/
lemma Serves.entered (hs : s.Serves texts) (hname : s.pipelines.get? name = some i) (text : Text)
    {host : Host Validator} {r : Receivers} {hap : Happening} (hhap : hap.isEntry = true)
    (htext : hap.text? = some text)
    (hhost : ∀ slot, s.host.slots[i]? = some slot → host.slots = s.host.slots.set i { slot with
      pipeline := (slot.pipeline.respond r hap).pipeline }) :
    Serves (Function.update texts name (some text)) { s with host := host } := by
  obtain ⟨old, slot, -, hslot, hserves⟩ := hs.slot hname
  have hafter := hserves.respond r (.inr hhap)
  rw [htext] at hafter
  refine hs.set (hhost slot hslot) ?_ ?_
  · intro other hother
    rw [Function.update_of_ne]
    rintro rfl
    exact hother hname
  · intro other hother
    obtain rfl := hs.name_eq hname hother
    exact ⟨text, Function.update_self .., hafter⟩

/-- A document gets a pipeline if it has none; the text of a new pipeline is empty. -/
lemma Serves.pipelineFor (hs : s.Serves texts) (name : String) :
    Serves (Function.update texts name (some ((texts name).getD []))) (s.pipelineFor name).1 ∧
      (s.pipelineFor name).1.pipelines.get? name = some (s.pipelineFor name).2 := by
  unfold Session.pipelineFor
  cases hname : s.pipelines.get? name with
  | some i =>
    obtain ⟨text, -, htext, -⟩ := hs.slot hname
    have hsame : Function.update texts name (some ((texts name).getD [])) = texts := by
      rw [htext, Option.getD_some, ← htext, Function.update_eq_self]
    rw [hsame]
    exact ⟨hs, hname⟩
  | none =>
    have hnone : texts name = none := by
      cases htext : texts name with
      | none => rfl
      | some text =>
        obtain ⟨i, -, hi, -⟩ := hs.served name text htext
        rw [hname] at hi
        cases hi
    dsimp only
    rw [hnone, Option.getD_none]
    refine ⟨⟨?_, ?_⟩, by rw [ByName.get?_insert, if_pos rfl]⟩
    · intro other text htext
      by_cases hother : other = name
      · subst hother
        rw [Function.update_self] at htext
        obtain rfl : [] = text := Option.some.inj htext
        -- the new pipeline is the last one of the host
        exact ⟨s.host.slots.length, ⟨other, s.validator, { delay := s.settings.debounce }⟩,
          by rw [ByName.get?_insert, if_pos rfl], List.getElem?_concat_length,
          ⟨rfl, rfl, rfl, rfl, rfl⟩⟩
      · rw [Function.update_of_ne hother] at htext
        obtain ⟨k, slot, hk, hslot, hserves⟩ := hs.served other text htext
        refine ⟨k, slot, by rw [ByName.get?_insert, if_neg hother, hk], ?_, hserves⟩
        exact (List.getElem?_append_left (List.getElem?_eq_some_iff.1 hslot).1).trans hslot
    · intro other htext
      by_cases hother : other = name
      · subst hother
        rw [Function.update_self] at htext
        cases htext
      · rw [Function.update_of_ne hother] at htext
        rw [ByName.get?_insert, if_neg hother]
        exact hs.unserved other htext

/-- A document that is closed is served no more. -/
lemma Serves.erase (hs : s.Serves texts) (name : String) :
    Serves (Function.update texts name none)
      { s with host := s.teardownOf name, pipelines := s.pipelines.erase name } where
  served := by
    intro other text htext
    have hother : other ≠ name := by
      rintro rfl
      rw [Function.update_self] at htext
      cases htext
    rw [Function.update_of_ne hother] at htext
    obtain ⟨k, slot, hk, hslot, hserves⟩ := hs.served other text htext
    refine ⟨k, slot, by rw [ByName.get?_erase, if_neg hother, hk], ?_, hserves⟩
    show (s.teardownOf name).slots[k]? = some slot
    unfold teardownOf
    cases hname : s.pipelines.get? name with
    | none => exact hslot
    | some i =>
      have hne : i ≠ k := by
        rintro rfl
        exact hother (hs.name_eq hname hk)
      show (s.host.slots.modify i _)[k]? = some slot
      rw [List.getElem?_modify, hslot]
      simp only [if_neg hne]
      rfl
  unserved := by
    intro other htext
    show (s.pipelines.erase name).get? other = none
    rw [ByName.get?_erase]
    split
    · rfl
    · next hother =>
      rw [Function.update_of_ne hother] at htext
      exact hs.unserved other htext

/-! ## Equipment -/

/-- A slot with a validator and a delay. -/
def equipped (v : Validator) (delay : Binary64) (slot : Slot Validator) : Slot Validator :=
  { slot with validator := v, pipeline := { slot.pipeline with delay := delay } }

/-- Slots are equipped one after the other, and some of them perhaps more than once. -/
lemma getElem?_foldl_equipSlot (v : Validator) (delay : Binary64) (is : List Nat)
    (h : Host Validator) (k : Nat) :
    (is.foldl (equipSlot v delay) h).slots[k]? = h.slots[k]?.map fun slot =>
      if k ∈ is then equipped v delay slot else slot := by
  induction is generalizing h with
  | nil => simp
  | cons i is ih =>
    have hfirst : (equipSlot v delay h i).slots[k]? = h.slots[k]?.map fun slot =>
        if i = k then equipped v delay slot else slot := by
      show (h.slots.modify i (equipped v delay))[k]? = _
      rw [List.getElem?_modify]
      rfl
    rw [List.foldl_cons, ih, hfirst, Option.map_map]
    congr 1
    funext slot
    by_cases hk : i = k
    · subst hk
      by_cases hmem : i ∈ is
      · simp only [Function.comp_apply, if_pos, hmem, List.mem_cons, true_or]
        rfl
      · simp [hmem]
    · have hne : k ≠ i := Ne.symm hk
      simp [hk, hne]

lemma mem_values_of_get? {α : Type} {t : ByName α} {a : α} (h : t.get? name = some a) :
    a ∈ t.values := by
  obtain ⟨e, he, rfl⟩ := Option.map_eq_some_iff.1 h
  exact List.mem_map_of_mem (List.mem_of_find?_eq_some he)

/-- Pipelines that are equipped anew serve the same documents with what they have got. -/
lemma Serves.equip (hs : s.Serves texts) (v : Validator) (new : Settings) (level : LogLevel) :
    Serves texts (Session.equip v new.debounce
      { s with settings := new, logLevel := level, validator := v }) where
  served := by
    intro name text htext
    obtain ⟨i, slot, hi, hslot, hserves⟩ := hs.served name text htext
    refine ⟨i, equipped v new.debounce slot, hi, ?_,
      ⟨hserves.name, hserves.isOpen, hserves.text, rfl, rfl⟩⟩
    show (s.pipelines.values.foldl (equipSlot v new.debounce) s.host).slots[i]? = _
    rw [getElem?_foldl_equipSlot, hslot, Option.map_some, if_pos (mem_values_of_get? hi)]
  unserved := hs.unserved

end Session

end Mermaid
