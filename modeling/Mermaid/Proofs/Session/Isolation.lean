import Mathlib.Data.List.Infix
import Mermaid.Proofs.Session.Playing
import Mermaid.Proofs.Session.Requesting

/-!
# Documents are isolated

What the editor sees of a document depends on nothing that it does with other documents. Take all
requests about some document away from a run of the server, and keep the settings and the time: then
all other documents are shown as before, at the same times.

Timers that are set for a time that is no number are an exception: they stand behind timers of other
documents, whenever these fall due.

* `Session.shownAbout` is what the editor sees of a document;
* `Session.Mirrors` compares a server with one that has a single document, and
  `Session.Mirrors.play` says that moves keep to it;
* `Session.documents_isolated` is the main statement.
-/

namespace Mermaid

/-- Whether the times of settings are numbers. -/
structure Settings.HasTimes (s : Settings) : Prop where
  debounce : s.debounce ≠ .nan
  validatorTimeout : s.validatorTimeout ≠ .nan

instance (s : Settings) : Decidable s.HasTimes :=
  decidable_of_iff (s.debounce ≠ .nan ∧ s.validatorTimeout ≠ .nan)
    ⟨fun h => ⟨h.1, h.2⟩, fun h => ⟨h.debounce, h.validatorTimeout⟩⟩

namespace Session

variable {name : String} {tickets : List Nat} {s s' : Session}

/-! ## What is about a document -/

/-- The document that a request is about; settings are about none. -/
def Request.name? : Request → Option String
  | .begin .. | .configure _ => none
  | .openDocument name .. | .changeDocument name .. | .closeDocument name => some name
  | .validateDocument _ name | .layOut name => name

namespace Move

/-- The document that a move is about. -/
def name? : Move → Option String
  | .request q => q.name?
  | .ask q => q.name?
  | _ => none

/-- Whether a move is about a document, or about all of them. -/
def concerns (name : String) : Move → Bool
  | .request q => q.concerns name
  | .ask q => q.name? = some name
  | _ => true

/-- The caller who asks for the markers of a document, with its name. -/
def caller? : Move → Option (Nat × Option String)
  | .request (.validateDocument ticket name) => some (ticket, name)
  | _ => none

end Move

/-- Whether no caller asks for the markers of two documents; each has a ticket of its own. -/
def TicketsTell (moves : List Move) : Prop :=
  ∀ m ∈ moves, ∀ m' ∈ moves, ∀ ticket name name', m.caller? = some (ticket, name) →
    m'.caller? = some (ticket, name') → name = name'

/-- Tickets tell what callers ask for when no two callers have the same one. -/
lemma TicketsTell.of_nodup {moves : List Move}
    (hmoves : ((moves.filterMap Move.caller?).map Prod.fst).Nodup) : TicketsTell moves := by
  intro m hm m' hm' ticket name name' hcaller hcaller'
  have hsame := List.inj_on_of_nodup_map hmoves (List.mem_filterMap.2 ⟨m, hm, hcaller⟩)
    (List.mem_filterMap.2 ⟨m', hm', hcaller'⟩) rfl
  exact congrArg Prod.snd hsame

/-- The callers who ask for the markers of a document. -/
def ticketsFor (name : String) (moves : List Move) : List Nat :=
  moves.filterMap fun m => m.caller?.bind fun (ticket, other) =>
    if other = some name then some ticket else none

/-- Whether something is sent about a document, or is a reply to a question about it or to one of
some callers. -/
def Seen.isAbout (name : String) (tickets : List Nat) : Seen → Bool
  | .event e => e.isAbout name tickets
  | .replied q _ => q.name? = some name

/-- What the editor sees of a document, and when, while a server starts and makes some moves: the
notices about it, and the replies to questions about it and to the callers who ask for its markers.
-/
def shownAbout [Platform] (out : Outside) (name : String) (moves : List Move) :
    List (Instant × Seen) :=
  (play out { state := {} } moves).2.filter fun shown =>
    shown.2.isAbout name (ticketsFor name moves)

/-! ## A document as if it were the only one -/

/-- Questions about the document have the same replies. -/
lemma Leaves.reply [Platform] (hs : s.Leaves name tickets s') {q : Query}
    (hq : q.name? = some name) : s'.reply q = s.reply q := by
  have hget : s'.documents.get? name = s.documents.get? name := by
    rw [hs.documents, ByName.get?_only]
  cases q with
  | layout other =>
    obtain rfl : other = some name := hq
    rw [Session.reply, Session.reply, layout?, layout?, hs.named?, hs.settings]
  | completion other p =>
    obtain rfl := Option.some.inj hq
    rw [Session.reply, Session.reply, completion?, completion?, hget]
  | hover other p =>
    obtain rfl := Option.some.inj hq
    rw [Session.reply, Session.reply, hover?, hover?, hget]
  | edits other =>
    obtain rfl := Option.some.inj hq
    rw [Session.reply, Session.reply, edits?, edits?, hget, hs.settings]
  | semanticTokens other =>
    obtain rfl := Option.some.inj hq
    rw [Session.reply, Session.reply, semanticTokens?, semanticTokens?, hget]

/-- The same text is handed to the validator. -/
private lemma Leaves.handedIn (hs : s.Leaves name tickets s') {j j' : SessionJob}
    (hj : jobAbout? name tickets s j = some j') : s'.handedIn j' = s.handedIn j := by
  cases j with
  | validate ticket other =>
    rw [jobAbout?, Option.ite_none_right_eq_some] at hj
    rw [← Option.some.inj hj.2]
    rfl
  | answerNothing ticket =>
    rw [jobAbout?, Option.ite_none_right_eq_some] at hj
    rw [← Option.some.inj hj.2]
    rfl
  | host j =>
    rw [jobAbout?, Option.ite_none_right_eq_some] at hj
    obtain ⟨hnames, hj⟩ := hj
    rw [← Option.some.inj hj]
    cases j with
    | begin i n =>
      -- the pass is looked up in the slot, which is the same at its place in the excerpt
      obtain ⟨slot, hslot, hname⟩ := Host.exists_of_getElem?_names hnames
      have hslot' := hs.host.getElem? hslot hname
      simp only [HostJob.slot] at hslot hslot'
      simp only [HostJob.moveTo, HostJob.slot, Session.handedIn, hslot, hslot']
    | _ => rfl

section Mirrors

variable [Platform] {out : Outside} {l l' : EventLoop Session SessionJob}

/-- All jobs keep the excerpt, whatever the program does with each text. -/
lemma isKeptBy_machineIn (name : String) (tickets : List Nat) (out : Outside) :
    (about name tickets).IsKeptBy (machineIn out) := by
  intro now j s s' hs hj
  have hfollows : (about name tickets).Follows s
      (handle (out.world now (s.handedIn j)) now j s)
      ((jobAbout? name tickets s j).elim { state := s' }
        (handle (out.world now (s.handedIn j)) now · s')) := follows_handle hs hj
  show (about name tickets).Follows s _ ((jobAbout? name tickets s j).elim _ _)
  cases hjob : jobAbout? name tickets s j with
  | none =>
    rw [hjob] at hfollows
    exact hfollows
  | some j' =>
    rw [hjob] at hfollows
    rw [Option.elim_some, machineIn]
    dsimp only
    rw [Leaves.handedIn hs hjob]
    exact hfollows

/-- Whether a loop that a server has come to is mirrored by one that has a single document. -/
structure Mirrors (name : String) (tickets : List Nat) (l l' : EventLoop Session SessionJob) :
    Prop where
  shows : (about name tickets).stamped.Shows l l'
  now : l'.now = l.now
  inOrder : EventLoop.InOrder l.timers
  reached : IsReached l

/-- A server that has just started shows as much of each document as one that has no other. -/
lemma Mirrors.start (name : String) (tickets : List Nat) :
    Mirrors name tickets { state := {} } { state := {} } where
  shows :=
    { state :=
        { host := ⟨rfl, rfl, rfl, by simp⟩
          documents := rfl
          pipelines := rfl
          placed := by simp
          resolver := rfl
          settings := rfl
          validator := rfl }
      ready := rfl
      timers := rfl
      admits := by simp [EventLoop.jobs] }
  now := rfl
  inOrder := .nil
  reached := .start

/-- Whether something that is seen at some time is about a document or some callers. -/
def isAbout (name : String) (tickets : List Nat) (shown : Instant × Seen) : Bool :=
  shown.2.isAbout name tickets

omit [Platform] in
private lemma filter_isAbout (shown : List (Instant × SessionEvent)) :
    (shown.map (Prod.map id Seen.event)).filter (isAbout name tickets) =
      (shown.filter (about name tickets).stamped.isAbout).map (Prod.map id Seen.event) := by
  rw [List.filter_map]
  rfl

/-- A request keeps a mirror, and shows the same of the document. -/
private lemma Mirrors.request (h : Mirrors name tickets l l') (out : Outside) (q : Request)
    (hq : ∀ ticket other, q = .validateDocument ticket other →
      (ticket ∈ tickets ↔ other = some name))
    (hdelay : l.state.settings.debounce ≠ .nan) :
    let after := Move.play out l (.request q)
    let after' := if q.concerns name then Move.play out l' (.request q) else (l', [])
    Mirrors name tickets after.1 after'.1 ∧
      after'.2.filter (isAbout name tickets) = after.2.filter (isAbout name tickets) := by
  have hreached := h.reached.play out (.request q)
  have hinOrder := inOrder_play h.reached h.inOrder hdelay out (.request q)
  have hanswer : (about name tickets).Follows l.state
      (l.state.answer (out.world l.now []) l.now q)
      (if q.concerns name then l'.state.answer (out.world l.now []) l.now q
        else { state := l'.state }) := follows_answer h.shows.state q hq
  have hfollows := hanswer.stamp l.now
  have hafter := h.shows.absorb h.now hfollows
    h.inOrder (h.reached.isOrderly_answer hdelay _ l.now q)
  have hevents := congrArg (List.map (Prod.map id Seen.event)) hfollows.events
  rw [← filter_isAbout, ← filter_isAbout] at hevents
  by_cases hconcerns : q.concerns name
  · simp only [hconcerns, if_true] at hafter hevents ⊢
    dsimp only [Move.play]
    rw [h.now]
    exact ⟨⟨hafter, h.now, hinOrder, hreached⟩, hevents⟩
  · -- a request about another document leaves the mirror as it is
    have hsame : (EventLoop.absorb (E := SessionEvent) { state := l'.state } l').1 = l' := by
      simp [EventLoop.absorb]
    simp only [hconcerns, Bool.false_eq_true, if_false] at hafter hevents ⊢
    exact ⟨⟨hsame ▸ hafter, h.now, hinOrder, hreached⟩, hevents⟩

/-- Each move keeps a mirror, and shows the same of the document. -/
lemma Mirrors.play (hticks : Platform.Ticks) (h : Mirrors name tickets l l') (out : Outside)
    (m : Move) (hm : ∀ ticket other, m.caller? = some (ticket, other) →
      (ticket ∈ tickets ↔ other = some name))
    (hlater : ∀ t, m.until? = some t → l.now ≤ t) (hdelay : l.state.settings.debounce ≠ .nan) :
    let after' := if m.concerns name then m.play out l' else (l', [])
    Mirrors name tickets (m.play out l).1 after'.1 ∧
      after'.2.filter (isAbout name tickets) = (m.play out l).2.filter (isAbout name tickets) := by
  have hreached := h.reached.play out m
  have hinOrder := inOrder_play h.reached h.inOrder hdelay out m
  have hkept := (isKeptBy_machineIn name tickets out).stamped
  have htimely := (isTimely_machineIn out).stamped
  cases m with
  | request q =>
    refine h.request out q ?_ hdelay
    rintro ticket other rfl
    exact hm ticket other rfl
  | ask q =>
    by_cases hq : q.name? = some name
    · have hreply := Leaves.reply h.shows.state hq
      simp only [Move.concerns, hq, decide_true, if_true, Move.play, hreply, h.now]
      exact ⟨h, trivial⟩
    · simp only [Move.concerns, hq, decide_false, Bool.false_eq_true, if_false, Move.play]
      exact ⟨h, by simp [isAbout, Seen.isAbout, hq]⟩
  | holdUp t => exact ⟨⟨⟨h.shows.state, h.shows.ready, h.shows.timers, h.shows.admits⟩, rfl,
      hinOrder, hreached⟩, rfl⟩
  | round =>
    obtain ⟨hafter, hevents⟩ := h.shows.round hkept htimely l.now h.inOrder
    have hshown := congrArg (List.map (Prod.map id Seen.event)) hevents
    rw [← filter_isAbout, ← filter_isAbout] at hshown
    simp only [Move.concerns, if_true, Move.play, h.now]
    exact ⟨⟨hafter, rfl, hinOrder, hreached⟩, hshown⟩
  | work t =>
    have hle : l.now ≤ t := hlater t rfl
    obtain ⟨hafter, hevents⟩ := h.shows.run hticks hkept htimely h.now h.inOrder hle
    have hshown := congrArg (List.map (Prod.map id Seen.event)) hevents
    rw [← filter_isAbout, ← filter_isAbout] at hshown
    have hnow := (EventLoop.now_run (m := (machineIn out).stamped) (l := l') (h.now ▸ hle)).trans
      (EventLoop.now_run (m := (machineIn out).stamped) hle).symm
    simp only [Move.concerns, if_true]
    exact ⟨⟨hafter, hnow, hinOrder, hreached⟩, hshown⟩

/-! ## Moves that are left out -/

omit [Platform] in
/-- Moves that concern one document are not about another one. -/
private lemma Move.name?_ne_of_concerns {u v : String} (huv : u ≠ v) {m : Move}
    (hm : m.concerns v = true) : m.name? ≠ some u := by
  intro hname
  cases m with
  | ask q =>
    have hv : q.name? = some v := of_decide_eq_true hm
    exact huv (Option.some.inj (hname.symm.trans hv))
  | request q =>
    change q.name? = some u at hname
    change q.concerns v = true at hm
    cases q with
    | begin root options => cases hname
    | configure options => cases hname
    | openDocument other text version =>
      exact huv ((Option.some.inj hname).symm.trans (of_decide_eq_true hm))
    | changeDocument other texts version =>
      exact huv ((Option.some.inj hname).symm.trans (of_decide_eq_true hm))
    | closeDocument other => exact huv ((Option.some.inj hname).symm.trans (of_decide_eq_true hm))
    | validateDocument ticket other =>
      exact huv (Option.some.inj (hname.symm.trans (of_decide_eq_true hm)))
    | layOut other => exact huv (Option.some.inj (hname.symm.trans (of_decide_eq_true hm)))
  | _ => cases hname

omit [Platform] in
/-- The caller of a move asks for the markers of the document that the move is about. -/
private lemma Move.name?_of_caller? {m : Move} {ticket : Nat} {other : Option String}
    (hcaller : m.caller? = some (ticket, other)) : m.name? = other := by
  cases m with
  | request q =>
    cases q with
    | validateDocument t n =>
      cases hcaller
      rfl
    | _ => cases hcaller
  | _ => cases hcaller

omit [Platform] in
/-- A move that takes time is about no document. -/
private lemma Move.until?_of_name? {m : Move} (hname : m.name? = some name) : m.until? = none := by
  cases m with
  | request q => rfl
  | ask q => rfl
  | _ => cases hname

omit [Platform] in
/-- Each caller asks for the markers of one document, so the tickets of its callers tell what they
ask for. -/
lemma TicketsTell.mem_ticketsFor_iff {moves : List Move} (htell : TicketsTell moves) {m : Move}
    (hm : m ∈ moves) {ticket : Nat} {other : Option String}
    (hcaller : m.caller? = some (ticket, other)) :
    ticket ∈ ticketsFor name moves ↔ other = some name := by
  rw [ticketsFor, List.mem_filterMap]
  constructor
  · rintro ⟨m', hm', hfound⟩
    rw [Option.bind_eq_some_iff] at hfound
    obtain ⟨⟨t, n⟩, hcaller', hname⟩ := hfound
    rw [Option.ite_none_right_eq_some, Option.some.injEq] at hname
    obtain ⟨rfl, rfl⟩ := hname
    exact htell m hm m' hm' t other (some name) hcaller hcaller'
  · rintro rfl
    refine ⟨m, hm, ?_⟩
    rw [hcaller, Option.bind_some]
    exact if_pos rfl

omit [Platform] in
private lemma ticketsFor_joined (moves : List Move) :
    ticketsFor name (joined moves) = ticketsFor name moves := by
  induction moves with
  | nil => rfl
  | cons m ms ih =>
    rw [joined, List.foldr_cons, ← joined]
    rcases m.before_cases (joined ms) with ⟨s, t, rest, rfl, -, hsame⟩ | hsame
    · rw [hsame, ih]
      rfl
    · rw [hsame, ticketsFor, List.filterMap_cons, ← ticketsFor, ih]
      rfl

/-- Of two servers that are mirrored by the same loop, one makes all moves, and the other one those
that are not about some document. They show the same of every other document. -/
private theorem filter_play (hticks : Platform.Ticks) {k : EventLoop Session SessionJob}
    {u v : String} (huv : u ≠ v) {moves : List Move} (hl : Mirrors v tickets l l')
    (hk : Mirrors v tickets k l') (hpaced : IsPaced l.now moves)
    (hmoves : ∀ m ∈ moves, ∀ ticket other, m.caller? = some (ticket, other) →
      (ticket ∈ tickets ↔ other = some v))
    (hsettings : ∀ ms, ms <+: moves → (Session.play out l ms).1.state.settings.HasTimes) :
    (Session.play out k (moves.filter fun m => m.name? ≠ some u)).2.filter (isAbout v tickets) =
      (Session.play out l moves).2.filter (isAbout v tickets) := by
  induction moves generalizing l k l' with
  | nil => rfl
  | cons m ms ih =>
    have hdelay := (hsettings [] (List.nil_prefix)).debounce
    have hlater : ∀ t, m.until? = some t → l.now ≤ t := fun t ht =>
      List.rel_of_pairwise_cons hpaced.later
        (List.mem_filterMap.2 ⟨m, List.mem_cons_self, ht⟩)
    have hcaller := hmoves m List.mem_cons_self
    obtain ⟨hl₁, hshown⟩ := hl.play hticks out m hcaller hlater hdelay
    have htail := hpaced.tail out
    have hmoves' := fun m' hm' => hmoves m' (List.mem_cons_of_mem m hm')
    have hsettings' : ∀ ms', ms' <+: ms →
        (Session.play out (m.play out l).1 ms').1.state.settings.HasTimes := fun ms' hms' =>
      hsettings (m :: ms') (List.prefix_cons_inj m |>.2 hms')
    rw [play_cons, List.filter_append, ← hshown]
    by_cases hname : m.name? = some u
    · -- only the first server makes the move, and nothing of the other document is seen of it
      have hconcerns : m.concerns v = false := Bool.eq_false_iff.2 fun hm =>
        Move.name?_ne_of_concerns huv hm hname
      rw [List.filter_cons, if_neg (by simpa using hname)]
      simp only [hconcerns, Bool.false_eq_true, if_false] at hl₁ ⊢
      exact ih hl₁ hk htail hmoves' hsettings'
    · -- both servers have the same settings, and make the move
      have hsame : k.state.settings = l.state.settings :=
        (hk.shows.state.settings).symm.trans hl.shows.state.settings
      have hnow : k.now = l.now := hk.now.symm.trans hl.now
      obtain ⟨hk₁, hshown'⟩ := hk.play hticks out m hcaller (hnow ▸ hlater) (hsame ▸ hdelay)
      rw [List.filter_cons, if_pos (by simpa using hname), play_cons, List.filter_append, ← hshown',
        ih hl₁ hk₁ htail hmoves' hsettings']

/-- **Documents are isolated.** Take all moves that are about a document away from a run of a
server: the requests that open, change, close, validate or lay it out, and the questions about it.
The loop works on where it has stopped for these. Of every other document the editor sees the same
as before, and at the same times: the diagnostics and the statuses, the replies to questions, and
the answers to the callers who ask for its markers. The files and the requests that bring settings
are the same, a program treats the same text in the same way, and no time that is set is a NaN. -/
theorem documents_isolated (hticks : Platform.Ticks) (out : Outside) {moves : List Move}
    (hpaced : IsPaced 0 moves) (htell : TicketsTell moves)
    (hsettings : ∀ ms, ms <+: moves → (play out { state := {} } ms).1.state.settings.HasTimes)
    {u v : String} (huv : u ≠ v) :
    shownAbout out v (joined (moves.filter fun m => m.name? ≠ some u)) =
      shownAbout out v moves := by
  have hinstants : instants (moves.filter fun m => m.name? ≠ some u) = instants moves := by
    rw [instants, instants, List.filterMap_filter]
    refine List.filterMap_congr fun m _ => ?_
    by_cases hm : m.name? = some u
    · simp [hm, Move.until?_of_name? hm]
    · simp [hm]
  have htickets : ticketsFor v (moves.filter fun m => m.name? ≠ some u) = ticketsFor v moves := by
    rw [ticketsFor, ticketsFor, List.filterMap_filter]
    refine List.filterMap_congr fun m _ => ?_
    by_cases hm : m.name? = some u
    · -- the callers of the other document are none of the callers
      cases hcaller : m.caller? with
      | none => simp
      | some caller =>
        have hname : m.name? = caller.2 := Move.name?_of_caller? hcaller
        rw [hm] at hname
        simp [hm, ← hname, huv]
    · simp [hm]
  have hpaced' : IsPaced 0 (moves.filter fun m => m.name? ≠ some u) :=
    ⟨hinstants ▸ hpaced.later, hinstants ▸ hpaced.shown⟩
  have hstart := Mirrors.start v (ticketsFor v moves)
  rw [shownAbout, shownAbout, play_joined hticks hpaced', ticketsFor_joined, htickets]
  exact filter_play hticks huv hstart hstart hpaced
    (fun m hm _ _ hcaller => htell.mem_ticketsFor_iff hm hcaller) hsettings

end Mirrors

section Usual

open Platform.Usual

/-- Two documents are open and changed, and a caller waits for the markers of each. Without the
first document there is less to be seen, but of the second one the same: the diagnostics and the
status when it is opened and when it is validated again, the answer to the caller, and the reply to
a question. -/
theorem documents_isolated_pair : ∃ (out : Outside) (moves : List Move),
    IsPaced 0 moves ∧ TicketsTell moves ∧ (play out { state := {} } moves).2.length = 12 ∧
      (shownAbout out "b" moves).map Prod.fst = [0, 0, 1 / 2, 1 / 2, 1 / 2, 2] ∧
      shownAbout out "b" (joined (moves.filter fun m => m.name? ≠ some "a")) =
        shownAbout out "b" moves := by
  let program : Program := ⟨false, none, 0, [], [], .reaped⟩
  let out : Outside := ⟨fun _ => ⟨[], [], []⟩, fun _ => program, fun _ => true⟩
  let moves : List Move :=
    [.request (.openDocument "a" ['x'] 1), .request (.openDocument "b" ['x'] 1), .work (1 / 4),
      .request (.changeDocument "a" [['y']] 2), .work (1 / 2),
      .request (.changeDocument "b" [['y']] 2), .request (.validateDocument 1 (some "a")), .round,
      .request (.validateDocument 2 (some "b")), .work 2, .ask (.layout (some "b")),
      .ask (.layout (some "a"))]
  have hpaced : IsPaced 0 moves := ⟨by decide +kernel, by decide +kernel⟩
  have htell : TicketsTell moves := .of_nodup (by decide +kernel)
  have hsettings : ∀ ms ∈ moves.inits,
      (play out { state := {} } ms).1.state.settings.HasTimes := by decide +kernel
  exact ⟨out, moves, hpaced, htell, by decide +kernel, by decide +kernel,
    documents_isolated Platform.ticks_usual out hpaced htell
      (fun ms hms => hsettings ms ((List.mem_inits ms moves).2 hms)) (by decide)⟩

/-- A timer is set for a document. Then the project file gives a NaN as the delay, and another
document is changed: its timer stands behind the one from before, and the document is not validated
until that one falls due. Without the first document it is validated at once. -/
theorem not_forall_documents_isolated :
    ¬ ∀ (out : Outside) (moves : List Move) (u v : String), IsPaced 0 moves → TicketsTell moves →
      u ≠ v → shownAbout out v (joined (moves.filter fun m => m.name? ≠ some u)) =
        shownAbout out v moves := by
  intro h
  let file : Bytes := Utf8.encode "debounce = nan".toList
  let files : Instant → FileTree := fun t =>
    ⟨["w"], if t < 1 then [] else [([".mmdlsp.toml"], .file file)], ["w"]⟩
  let program : Program := ⟨false, none, 0, [], [], .reaped⟩
  let out : Outside := ⟨files, fun _ => program, fun _ => true⟩
  let moves : List Move :=
    [.request (.begin (some "/w") (.json .null)), .request (.openDocument "a" ['x'] 1),
      .request (.openDocument "b" ['x'] 1), .work 1, .request (.changeDocument "a" [['y']] 2),
      .request (.configure (.json .null)), .request (.changeDocument "b" [['y']] 2), .work 2]
  have hsame := h out moves "a" "b" ⟨by decide +kernel, by decide +kernel⟩
    (.of_nodup (by decide +kernel)) (by decide)
  have htimes : (shownAbout out "b" moves).map Prod.fst = [0, 0, 3 / 2, 3 / 2] := by decide +kernel
  rw [← hsame] at htimes
  revert htimes
  decide +kernel

end Usual

end Session

end Mermaid
