import Mermaid.Proofs.EventLoop.Ticking
import Mermaid.Proofs.Pipeline.Turns
import Mermaid.Proofs.Session.Usability

/-!
# An editor at work

An editor makes requests and asks questions, and in between the event loop of the server works for
as long as it takes to the next of them. All of it is strung together as moves. The world around the
server changes with time, but a program that validates treats the same text in the same way.

* `Session.play` plays moves, and gives what the editor sees, with the instants;
* `Session.play_joined` says that a loop may as well work on where it stops and goes on at once;
* `Session.inOrder_play` says that timers stand in order as long as delays are numbers.
-/

namespace Mermaid

/-! ## Calls that set timers -/

lemma Pipeline.due_update {r : Receivers} {now : Instant} {text : Text} {p : Pipeline}
    {t : SetTimer} (ht : (p.update r now text).2 = some t) : t.due = .after now p.delay := by
  unfold update at ht
  split at ht
  · cases ht
  · split at ht <;> cases ht
    rfl

namespace Host

variable {V : Type} {env : Surroundings V} {now : Instant} {i : Nat} {h : Host V}

lemma timers_validateNow (text : Option Text) :
    (h.validateNow env i text).reaction.timers = [] := by
  unfold validateNow
  split <;> rfl

/-- A new text sets a timer for the delay of its pipeline. -/
lemma isOrderly_update {s : Slot V} (hs : h.slots[i]? = some s) (hdelay : s.pipeline.delay ≠ .nan)
    (text : Text) : EventLoop.IsOrderly (h.update env now i text).reaction.timers := by
  intro timer htimer
  rw [update, hs] at htimer
  obtain ⟨t, ht, rfl⟩ := Option.map_eq_some_iff.1 (Option.mem_toList.1 htimer)
  show t.due ≠ .unordered
  rw [Pipeline.due_update ht]
  exact Due.after_ne_unordered hdelay now

end Host

namespace Session

variable {s : Session} {name : String}

/-! ## Questions -/

/-- What an editor asks about a document. -/
inductive Query
  | completion (name : String) (p : Position)
  | hover (name : String) (p : Position)
  | edits (name : String)
  | semanticTokens (name : String)
  | layout (name : Option String)

/-- What a session replies. -/
inductive Reply
  | completion (range : Option Range)
  | hover (hover : Option Hover)
  | edits (edits : Option (Except Layout.Fault (List TextEdit)))
  | semanticTokens (numbers : Option (Except Unencodable (List Nat)))
  | layout (text : Option (Except Layout.Fault Text))

/-- The document that a question is about. -/
def Query.name? : Query → Option String
  | .completion name _ | .hover name _ | .edits name | .semanticTokens name => some name
  | .layout name => name

/-- The reply to a question. -/
def reply [Platform] (s : Session) : Query → Reply
  | .completion name p => .completion (s.completion? name p)
  | .hover name p => .hover (s.hover? name p)
  | .edits name => .edits (s.edits? name)
  | .semanticTokens name => .semanticTokens (s.semanticTokens? name)
  | .layout name => .layout (s.layout? name)

/-! ## The world over time -/

/-- What surrounds a session over time: the files, whether the editor can be reached, and the
programs that commands run, one for each text. -/
structure Outside where
  files : Instant → FileTree
  programs : Text → Program
  connected : Instant → Bool := fun _ => true

/-- The world at an instant, for the validation of a text. -/
def Outside.world (out : Outside) (now : Instant) (text : Text) : World :=
  ⟨out.files now, out.programs text, out.connected now⟩

/-- The text that a job hands to the validator, if it does. -/
def handedIn (s : Session) : SessionJob → Text
  | .host (.begin i n) =>
    ((s.host.slots[i]?.bind fun slot => slot.pipeline.pass? n).map Pass.text).getD []
  | _ => []

/-! ## Moves -/

/-- What happens to a server: the editor makes a request or asks a question, or the event loop does
a round, is held up until an instant, or works until an instant. -/
inductive Move
  | request (q : Request)
  | ask (q : Query)
  | round
  | holdUp (t : Instant)
  | work (t : Instant)

/-- What the editor sees of a server. -/
inductive Seen
  | event (e : SessionEvent)
  | replied (q : Query) (r : Reply)

/-- The instant until which a move takes, if it takes time. -/
def Move.until? : Move → Option Instant
  | .holdUp t | .work t => some t
  | _ => none

/-- The instants that moves come to. -/
def instants (moves : List Move) : List Instant := moves.filterMap Move.until?

/-- A move in front of others. A loop that would stop only to work on works on instead. -/
def Move.before : Move → List Move → List Move
  | .work _, .work t :: later => .work t :: later
  | m, later => m :: later

/-- The same moves, where the loop does not stop only to work on. -/
def joined (moves : List Move) : List Move := moves.foldr Move.before []

variable [Platform]

/-- The work of a session in a world that changes with time. -/
def machineIn (out : Outside) : Machine Session SessionJob SessionEvent where
  handle := fun now j s => handle (out.world now (s.handedIn j)) now j s
  weight := SessionJob.weight
  lighter := fun now j s => weigh_session_lt _ now j s

/-- What a move does to the loop of a server, and what the editor sees of it, and when. A request
runs no program. -/
def Move.play (out : Outside) (l : EventLoop Session SessionJob) :
    Move → EventLoop Session SessionJob × List (Instant × Seen)
  | .request q =>
    let (l', shown) := l.absorb ((l.state.answer (out.world l.now []) l.now q).stamp l.now)
    (l', shown.map (Prod.map id .event))
  | .ask q => (l, [(l.now, .replied q (l.state.reply q))])
  | .round =>
    let (l', shown) := l.round (machineIn out).stamped l.now
    (l', shown.map (Prod.map id .event))
  | .holdUp t => ({ l with now := t }, [])
  | .work t =>
    let (l', shown) := EventLoop.run (machineIn out).stamped t l
    (l', shown.map (Prod.map id .event))

/-- What moves do to the loop of a server, and what the editor sees of them, and when. -/
def play (out : Outside) (l : EventLoop Session SessionJob) :
    List Move → EventLoop Session SessionJob × List (Instant × Seen)
  | [] => (l, [])
  | m :: ms =>
    let (l₁, shown) := m.play out l
    let (l₂, later) := play out l₁ ms
    (l₂, shown ++ later)

lemma play_cons (out : Outside) (l : EventLoop Session SessionJob) (m : Move) (ms : List Move) :
    play out l (m :: ms) = ((play out (m.play out l).1 ms).1,
      (m.play out l).2 ++ (play out (m.play out l).1 ms).2) := rfl

/-- Whether moves come to instants that the clock shows, one after the other. -/
structure IsPaced (now : Instant) (moves : List Move) : Prop where
  later : (now :: instants moves).Pairwise (· ≤ ·)
  shown : ∀ t ∈ instants moves, Platform.clock t = t

variable {out : Outside} {l : EventLoop Session SessionJob} {m : Move} {moves : List Move}

/-! ## Stops on the way -/

/-- After a move it is as late as the move takes. -/
lemma now_play (out : Outside) (hm : ∀ t, m.until? = some t → l.now ≤ t) :
    (m.play out l).1.now = m.until?.getD l.now := by
  cases m with
  | work t => exact EventLoop.now_run (hm t rfl)
  | _ => rfl

/-- The moves behind the first one come to their instants one after the other. -/
lemma IsPaced.tail (out : Outside) (h : IsPaced l.now (m :: moves)) :
    IsPaced (m.play out l).1.now moves := by
  obtain ⟨hlater, hshown⟩ := h
  have hnow := now_play out (m := m) (l := l)
  cases hm : m.until? with
  | none =>
    rw [instants, List.filterMap_cons_none hm] at hlater hshown
    rw [hm] at hnow
    rw [hnow nofun]
    exact ⟨hlater, hshown⟩
  | some t =>
    rw [instants, List.filterMap_cons_some hm] at hlater hshown
    rw [hm] at hnow
    have hle : l.now ≤ t := List.rel_of_pairwise_cons hlater List.mem_cons_self
    rw [hnow fun t' ht' => Option.some.inj ht' ▸ hle]
    exact ⟨hlater.of_cons, fun t' ht' => hshown t' (List.mem_cons_of_mem t ht')⟩

omit [Platform] in
lemma Move.before_cases (m : Move) (later : List Move) :
    (∃ s t rest, m = .work s ∧ later = .work t :: rest ∧ m.before later = later) ∨
      m.before later = m :: later := by
  cases m with
  | work s =>
    rcases later with _ | ⟨_ | _ | _ | _ | t, rest⟩
    all_goals first | exact .inr rfl | exact .inl ⟨s, t, rest, rfl, rfl, rfl⟩
  | _ => exact .inr rfl

omit [Platform] in
private lemma instants_cons (m : Move) (moves : List Move) :
    instants (m :: moves) = m.until?.toList ++ instants moves := by
  cases hm : m.until? <;> simp [instants, hm]

omit [Platform] in
private lemma instants_joined (moves : List Move) :
    (instants (joined moves)).Sublist (instants moves) := by
  induction moves with
  | nil => exact .slnil
  | cons m ms ih =>
    rw [instants_cons]
    rcases m.before_cases (joined ms) with ⟨s, t, rest, rfl, -, hsame⟩ | hsame
    · rw [joined, List.foldr_cons, ← joined, hsame]
      exact ih.trans (List.sublist_append_right _ _)
    · rw [joined, List.foldr_cons, ← joined, hsame, instants_cons]
      exact ih.append_left _

/-- A loop may as well work on where it stops and goes on at once. -/
theorem play_joined (hticks : Platform.Ticks) (hmoves : IsPaced l.now moves) :
    play out l (joined moves) = play out l moves := by
  induction moves generalizing l with
  | nil => rfl
  | cons m ms ih =>
    have hrest := ih (hmoves.tail out)
    rw [joined, List.foldr_cons, ← joined]
    rcases m.before_cases (joined ms) with ⟨s, t, rest, rfl, hms, hsame⟩ | hsame
    · -- the loop works until the first instant, and at once until the second one
      have hs : l.now ≤ s := List.rel_of_pairwise_cons hmoves.later List.mem_cons_self
      have ht : t ∈ instants ms := by
        refine (instants_joined ms).subset ?_
        rw [hms]
        exact List.mem_cons_self
      have hst : s ≤ t := List.rel_of_pairwise_cons hmoves.later.of_cons ht
      have hclock := hmoves.shown s List.mem_cons_self
      have hrun := EventLoop.run_run hticks (machineIn out).stamped hclock hs hst
      rw [hsame, play_cons, ← hrest, hms, play_cons, play_cons]
      dsimp only [Move.play]
      rw [hrun, List.map_append, List.append_assoc]
    · rw [hsame, play_cons, play_cons, hrest]

/-! ## Where an editor comes to -/

/-- The work of a session goes on with its history, in whatever world. -/
lemma History.staysIn_machineIn (out : Outside) (qs : List Request) :
    (machineIn out).StaysIn (History qs) :=
  fun now sc j _ hsc hjobs => .work (out.world now (sc.state.handedIn j)) now hsc hjobs

/-- Whether a loop is one that the requests of an editor and work lead to. -/
def IsReached (l : EventLoop Session SessionJob) : Prop :=
  ∃ qs sc, History qs sc ∧ l.IsShownBy sc

lemma IsReached.start : IsReached { state := {} } := ⟨[], _, .start, rfl, .nil⟩

lemma IsReached.play (hl : IsReached l) (out : Outside) (m : Move) :
    IsReached (m.play out l).1 := by
  obtain ⟨qs, sc, hsc, hshown⟩ := hl
  have hstays := History.staysIn_machineIn out qs
  cases m with
  | ask q => exact ⟨qs, sc, hsc, hshown⟩
  | holdUp t => exact ⟨qs, sc, hsc, hshown.state, hshown.jobs⟩
  | round =>
    obtain ⟨sc', hsc', hshown', -⟩ := hstays.round l.now hsc hshown
    refine ⟨qs, sc', hsc', ?_⟩
    dsimp only [Move.play]
    rw [EventLoop.round_stamped]
    exact hshown'
  | work t =>
    obtain ⟨sc', hsc', hshown', -⟩ := hstays.run t l hsc hshown
    refine ⟨qs, sc', hsc', ?_⟩
    dsimp only [Move.play]
    rw [(EventLoop.run_stamped _ t l).1]
    exact hshown'
  | request q =>
    have hnext := hsc.request (out.world l.now []) l.now q
    rw [hshown.state] at hnext
    exact ⟨_, _, hnext, hshown.absorb _⟩

/-! ## Timers stand in order -/

omit [Platform] in
private lemma isOrderly_lift {w : World} {t : Session}
    {r : Reaction (Host Validator) HostJob HostEvent} (hr : EventLoop.IsOrderly r.timers) :
    EventLoop.IsOrderly (t.lift w r).timers := by
  intro timer htimer
  obtain ⟨timer', htimer', rfl⟩ := List.mem_map.1 htimer
  exact hr timer' htimer'

/-- All work of a session sets its timers for times that stand in order. -/
lemma isTimely_machineIn (out : Outside) : (machineIn out).IsTimely := by
  intro now j s
  show EventLoop.IsOrderly (handle (out.world now (s.handedIn j)) now j s).timers
  cases j with
  | host j => exact isOrderly_lift (Host.isTimely_machine _ now j s.host)
  | answerNothing ticket => exact EventLoop.isOrderly_nil
  | validate ticket other =>
    rw [Session.handle]
    unfold validateFor
    split
    · exact isOrderly_lift (Host.isTimely_machine _ now _ _)
    · exact EventLoop.isOrderly_nil

/-- So do requests, while the delay of the session is a number. -/
lemma IsReached.isOrderly_answer (hl : IsReached l) (hdelay : l.state.settings.debounce ≠ .nan)
    (w : World) (now : Instant) (q : Request) :
    EventLoop.IsOrderly (l.state.answer w now q).timers := by
  obtain ⟨qs, sc, hsc, hshown⟩ := hl
  have hserves : l.state.Serves (heldText qs) := hshown.state ▸ hsc.keeps.1.serves
  cases q with
  | changeDocument other texts version =>
    rw [Session.answer, changeDocument?]
    cases texts.getLast? with
    | none => exact EventLoop.isOrderly_nil
    | some text =>
      -- the pipeline of the document has the delay of the session, also when it is new
      obtain ⟨hnew, hname⟩ := (hserves.withDocuments
        (l.state.documents.insert other ⟨text, version⟩)).pipelineFor other
      obtain ⟨_, slot, -, hslot, hslotServes⟩ := hnew.slot hname
      rw [pipelineFor_frame] at hslotServes
      exact isOrderly_lift (Host.isOrderly_update hslot (hslotServes.delay ▸ hdelay) text)
  | openDocument other text version =>
    refine isOrderly_lift ?_
    rw [Host.timers_validateNow]
    exact EventLoop.isOrderly_nil
  | _ => exact EventLoop.isOrderly_nil

/-- Timers stand in order after each move, while the delay of the session is a number. -/
lemma inOrder_play (hl : IsReached l) (hts : EventLoop.InOrder l.timers)
    (hdelay : l.state.settings.debounce ≠ .nan) (out : Outside) (m : Move) :
    EventLoop.InOrder (m.play out l).1.timers := by
  have htimely := (isTimely_machineIn out).stamped
  cases m with
  | request q => exact hts.addTimers (hl.isOrderly_answer hdelay _ l.now q)
  | ask q => exact hts
  | round => exact hts.round htimely l.now
  | holdUp t => exact hts
  | work t => exact hts.run htimely t

end Session

end Mermaid
