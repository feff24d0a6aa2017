import Mathlib.Data.List.Forall2
import Mermaid.Proofs.Text.Raw
import Mermaid.Proofs.Validator.Courses

/-!
# The objection of a command

A program that ends with another exit code than zero objects to the diagram. Its objection is a
message and perhaps a place: either the four whole numbers of a location, or none of them. Three
things break the reading of an objection: an output that is too deep, a `hash` that is given but no
object, and an infinite number where a whole number is read.

* `Failure.Located` and `Failure.Converts` say what is read as the place;
* `Command.Breaks` lists what breaks the reading;
* `Command.run_objects` says what a run comes to, whatever the program writes.
-/

namespace Mermaid

namespace Failure

/-- Whether a member of an object has a value that counts as given. -/
def IsGiven (members : List (String × Json)) (name : String) (v : Json) : Prop :=
  Json.member? members name = some v ∧ v.isTruthy = true

/-- Whether a member of an object stands for a whole number. -/
def IsWhole (members : List (String × Json)) (name : String) (i : Int) : Prop :=
  ∃ v, Json.member? members name = some v ∧ wholeNumber v = .ok (some i)

/-- Whether a value is read as the location of an objection: that of its `hash` if one is given
there, or else its own. -/
inductive Located (payload : List (String × Json)) (v : Json) : Prop
  | nested {hash : List (String × Json)} (hhash : IsGiven payload "hash" (.object hash))
    (hloc : IsGiven hash "loc" v) : Located payload v
  | own (hhash : ∀ w, IsGiven payload "hash" w →
      ∃ hash, w = .object hash ∧ ∀ u, ¬IsGiven hash "loc" u)
    (hloc : Json.member? payload "loc" = some v) : Located payload v

/-- Whether the four parts of a location are whole numbers and make up a range. -/
structure Converts (loc : List (String × Json)) (s : Span) : Prop where
  firstLine : IsWhole loc "first_line" s.firstLine
  lastLine : IsWhole loc "last_line" s.lastLine
  firstCol : IsWhole loc "first_column" s.firstCol
  lastCol : IsWhole loc "last_column" s.lastCol

/-- Whether an infinite number is reached when some members are read one after the other: those in
front of it are whole numbers. -/
def ReachesInfinity (members : List (String × Json)) (names : List String) : Prop :=
  ∃ before name after negative, names = before ++ name :: after ∧
    (∀ n ∈ before, ∃ i, IsWhole members n i) ∧
    Json.member? members name = some (.float (.infinite negative))

variable {members payload : List (String × Json)} {name : String} {names : List String}

lemma IsWhole.unique {i j : Int} (hi : IsWhole members name i) (hj : IsWhole members name j) :
    i = j := by
  obtain ⟨v, hv, hi⟩ := hi
  obtain ⟨w, hw, hj⟩ := hj
  cases hv.symm.trans hw
  cases hi.symm.trans hj
  rfl

lemma IsGiven.unique {v w : Json} (hv : IsGiven members name v) (hw : IsGiven members name w) :
    v = w := Option.some.inj (hv.1.symm.trans hw.1)

/-- An infinite number is reached at the first member, or behind it when it is a whole number. -/
lemma reachesInfinity_cons_iff : ReachesInfinity members (name :: names) ↔
    (∃ negative, Json.member? members name = some (.float (.infinite negative))) ∨
      (∃ i, IsWhole members name i) ∧ ReachesInfinity members names := by
  constructor
  · rintro ⟨before, n, after, negative, hsplit, hbefore, hn⟩
    cases before with
    | nil =>
      obtain ⟨rfl, -⟩ := List.cons.inj hsplit
      exact .inl ⟨negative, hn⟩
    | cons m before =>
      obtain ⟨rfl, rfl⟩ := List.cons.inj hsplit
      obtain ⟨hfirst, hbefore⟩ := List.forall_mem_cons.1 hbefore
      exact .inr ⟨hfirst, before, n, after, negative, rfl, hbefore, hn⟩
  · rintro (⟨negative, hname⟩ | ⟨hfirst, before, n, after, negative, rfl, hbefore, hn⟩)
    · exact ⟨[], name, names, negative, rfl, by simp, hname⟩
    · exact ⟨name :: before, n, after, negative, rfl, List.forall_mem_cons.2 ⟨hfirst, hbefore⟩, hn⟩

/-! ## Locations -/

lemma bind_given?_eq_some_iff {v : Json} :
    (Json.member? members name).bind Json.given? = some v ↔ IsGiven members name v := by
  rw [Option.bind_eq_some_iff]
  constructor
  · rintro ⟨w, hw, hv⟩
    unfold Json.given? at hv
    split at hv
    · next htruthy =>
      cases hv
      exact ⟨hw, htruthy⟩
    · cases hv
  · rintro ⟨hv, htruthy⟩
    exact ⟨v, hv, if_pos htruthy⟩

lemma bind_given?_eq_none_iff :
    (Json.member? members name).bind Json.given? = none ↔ ∀ v, ¬IsGiven members name v := by
  rw [Option.eq_none_iff_forall_ne_some]
  simp only [ne_eq, bind_given?_eq_some_iff]

/-- Only an infinite number breaks the reading of a whole number. -/
lemma wholeNumber_eq_error_iff {v : Json} {fault : Fault} : wholeNumber v = .error fault ↔
    fault = .infiniteInteger ∧ ∃ negative, v = .float (.infinite negative) := by
  constructor
  · intro h
    unfold wholeNumber at h
    split at h <;> cases h
    exact ⟨rfl, _, rfl⟩
  · rintro ⟨rfl, negative, rfl⟩
    rfl

/-- The first of some parts is a whole number, is none, or is infinite. -/
lemma readParts_cons_cases (members : List (String × Json)) (name : String) (names : List String) :
    (∃ i, IsWhole members name i ∧ readParts members (name :: names) =
        (readParts members names).map (Option.map (i :: ·))) ∨
      (∀ i, ¬IsWhole members name i) ∧
        (((∀ negative, Json.member? members name ≠ some (.float (.infinite negative))) ∧
            readParts members (name :: names) = .ok none) ∨
          (∃ negative, Json.member? members name = some (.float (.infinite negative))) ∧
            readParts members (name :: names) = .error .infiniteInteger) := by
  unfold IsWhole
  cases hmember : Json.member? members name with
  | none => exact .inr ⟨by simp, .inl ⟨by simp, by rw [readParts, hmember]⟩⟩
  | some v =>
    cases hwhole : wholeNumber v with
    | error fault =>
      obtain ⟨rfl, negative, rfl⟩ := wholeNumber_eq_error_iff.1 hwhole
      refine .inr ⟨by simp [hwhole], .inr ⟨⟨negative, rfl⟩, ?_⟩⟩
      rw [readParts, hmember]
      rfl
    | ok o =>
      cases o with
      | none =>
        refine .inr ⟨by simp [hwhole], .inl ⟨?_, ?_⟩⟩
        · intro negative hv
          cases hv
          cases hwhole
        · rw [readParts, hmember]
          show (wholeNumber v >>= _) = _
          rw [hwhole]
          rfl
      | some i =>
        refine .inl ⟨i, ⟨v, rfl, hwhole⟩, ?_⟩
        rw [readParts, hmember]
        show (wholeNumber v >>= _) = _
        rw [hwhole]
        cases readParts members names <;> rfl

/-- The parts are read together when all of them are whole numbers. -/
lemma readParts_eq_some_iff {is : List Int} : readParts members names = .ok (some is) ↔
    List.Forall₂ (IsWhole members) names is := by
  induction names generalizing is with
  | nil => simp [readParts, eq_comm]
  | cons name names ih =>
    have hnot : (∀ i, ¬IsWhole members name i) → ¬∃ i js, IsWhole members name i ∧
        List.Forall₂ (IsWhole members) names js ∧ is = i :: js := by
      rintro hnone ⟨i, -, hi, -⟩
      exact hnone i hi
    rw [List.forall₂_cons_left_iff]
    rcases readParts_cons_cases members name names with ⟨i, hi, h⟩ | ⟨hnone, ⟨-, h⟩ | ⟨-, h⟩⟩
    · have hmap : (readParts members names).map (Option.map (i :: ·)) = .ok (some is) ↔
          ∃ js, readParts members names = .ok (some js) ∧ is = i :: js := by
        cases readParts members names with
        | error fault => simp [Except.map]
        | ok o => cases o <;> simp [Except.map, eq_comm]
      rw [h, hmap]
      simp only [ih]
      constructor
      · rintro ⟨js, hjs, rfl⟩
        exact ⟨i, js, hi, hjs, rfl⟩
      · rintro ⟨j, js, hj, hjs, rfl⟩
        exact ⟨js, hjs, by rw [hi.unique hj]⟩
    · rw [h]
      exact iff_of_false (by simp) (hnot hnone)
    · rw [h]
      exact iff_of_false (by simp) (hnot hnone)

/-- The reading of the parts breaks when it reaches an infinite number. -/
lemma readParts_eq_error_iff {fault : Fault} : readParts members names = .error fault ↔
    fault = .infiniteInteger ∧ ReachesInfinity members names := by
  induction names with
  | nil => simp [readParts, ReachesInfinity]
  | cons name names ih =>
    rw [reachesInfinity_cons_iff]
    rcases readParts_cons_cases members name names with
      ⟨i, hi, h⟩ | ⟨hnone, ⟨hfinite, h⟩ | ⟨hinfinite, h⟩⟩
    · have hfinite : ¬∃ negative,
          Json.member? members name = some (.float (.infinite negative)) := by
        rintro ⟨negative, hname⟩
        obtain ⟨v, hv, hwhole⟩ := hi
        cases hname.symm.trans hv
        cases hwhole
      have hmap : (readParts members names).map (Option.map (i :: ·)) = .error fault ↔
          readParts members names = .error fault := by
        cases readParts members names <;> simp [Except.map]
      have hfirst : ∃ i, IsWhole members name i := ⟨i, hi⟩
      rw [h, hmap, ih, or_iff_right hfinite, and_iff_right hfirst]
    · rw [h]
      refine iff_of_false (by simp) ?_
      rintro ⟨-, ⟨negative, hname⟩ | ⟨⟨i, hi⟩, -⟩⟩
      · exact hfinite negative hname
      · exact hnone i hi
    · rw [h]
      constructor
      · intro hread
        cases hread
        exact ⟨rfl, .inl hinfinite⟩
      · rintro ⟨rfl, -⟩
        rfl

/-- A location is read as a range when all its parts are whole numbers. -/
lemma readSpan_eq_some_iff {s : Span} : readSpan members = .ok (some s) ↔ Converts members s := by
  have hparts : Converts members s ↔ readParts members locationKeys =
      .ok (some [s.firstLine, s.lastLine, s.firstCol, s.lastCol]) := by
    rw [readParts_eq_some_iff, locationKeys]
    simp only [List.forall₂_cons, List.Forall₂.nil, and_true]
    exact ⟨fun h => ⟨h.firstLine, h.lastLine, h.firstCol, h.lastCol⟩,
      fun h => ⟨h.1, h.2.1, h.2.2.1, h.2.2.2⟩⟩
  rw [hparts, readSpan]
  cases readParts members locationKeys with
  | error f => simp [bind, Except.bind]
  | ok o =>
    simp only [bind, Except.bind]
    split
    · obtain ⟨firstLine, lastLine, firstCol, lastCol⟩ := s
      simp [pure, Except.pure]
    · next hnot =>
      refine iff_of_false (by simp [pure, Except.pure]) ?_
      intro h
      exact hnot _ _ _ _ (Except.ok.inj h)

/-- The reading of a location breaks when it reaches an infinite number. -/
lemma readSpan_eq_error_iff {fault : Fault} : readSpan members = .error fault ↔
    fault = .infiniteInteger ∧ ReachesInfinity members locationKeys := by
  rw [← readParts_eq_error_iff, readSpan]
  cases readParts members locationKeys with
  | error f => simp [bind, Except.bind]
  | ok o =>
    simp only [bind, Except.bind]
    split <;> simp [pure, Except.pure]

/-- Whether the `hash` of an object is given, but is no object. -/
def HasOtherHash (payload : List (String × Json)) (v : Json) : Prop :=
  IsGiven payload "hash" v ∧ ∀ hash, v ≠ .object hash

/-- The location of an object with a `hash` that is no object cannot be read. -/
lemma HasOtherHash.not_located {v w : Json} (h : HasOtherHash payload v) : ¬Located payload w := by
  intro hlocated
  cases hlocated with
  | nested hhash _ => exact h.2 _ (h.1.unique hhash)
  | own hhash _ =>
    obtain ⟨hash, hv, -⟩ := hhash v h.1
    exact h.2 hash hv

/-- Without a `hash` the location of an object is its own. -/
lemma located_iff_of_no_hash (h : ∀ w, ¬IsGiven payload "hash" w) (v : Json) :
    Located payload v ↔ Json.member? payload "loc" = some v := by
  constructor
  · intro hlocated
    cases hlocated with
    | nested hhash _ => exact absurd hhash (h _)
    | own _ hloc => exact hloc
  · exact .own fun w hw => absurd hw (h w)

/-- With a `hash` the location of an object is the one given there, or else its own. -/
lemma located_iff_of_hash {hash : List (String × Json)} (h : IsGiven payload "hash" (.object hash))
    (v : Json) : Located payload v ↔ IsGiven hash "loc" v ∨
      (∀ u, ¬IsGiven hash "loc" u) ∧ Json.member? payload "loc" = some v := by
  constructor
  · intro hlocated
    cases hlocated with
    | nested hhash hloc =>
      cases hhash.unique h
      exact .inl hloc
    | own hown hloc =>
      obtain ⟨hash', heq, hnone⟩ := hown _ h
      cases heq
      exact .inr ⟨hnone, hloc⟩
  · rintro (hloc | ⟨hnone, hloc⟩)
    · exact .nested h hloc
    · exact .own (fun w hw => ⟨hash, hw.unique h, hnone⟩) hloc

/-- The location of an object without a `hash` is read. -/
lemma readLocation_of_no_hash (h : ∀ w, ¬IsGiven payload "hash" w) :
    ∃ o, readLocation payload = .ok o ∧ ∀ v, o = some v ↔ Located payload v := by
  refine ⟨Json.member? payload "loc", ?_, fun v => (located_iff_of_no_hash h v).symm⟩
  rw [readLocation, bind_given?_eq_none_iff.2 h]
  rfl

/-- The location of an object with a `hash` that is an object is read. -/
lemma readLocation_of_hash {hash : List (String × Json)}
    (h : IsGiven payload "hash" (.object hash)) :
    ∃ o, readLocation payload = .ok o ∧ ∀ v, o = some v ↔ Located payload v := by
  have hread : readLocation payload =
      .ok (((Json.member? hash "loc").bind Json.given?).or (Json.member? payload "loc")) := by
    rw [readLocation, bind_given?_eq_some_iff.2 h]
    simp only [bind, Except.bind, pure, Except.pure]
    cases (Json.member? hash "loc").bind Json.given? <;> rfl
  refine ⟨_, hread, fun v => ?_⟩
  rw [located_iff_of_hash h]
  cases hloc : (Json.member? hash "loc").bind Json.given? with
  | none =>
    have hnone := bind_given?_eq_none_iff.1 hloc
    rw [Option.none_or, or_iff_right (hnone v), and_iff_right hnone]
  | some loc =>
    have hgiven := bind_given?_eq_some_iff.1 hloc
    rw [Option.some_or, ← hloc, bind_given?_eq_some_iff, or_iff_left]
    exact fun h => h.1 loc hgiven

/-- A `hash` that is no object breaks the reading. -/
lemma readLocation_of_hasOtherHash {v : Json} (h : HasOtherHash payload v) :
    readLocation payload = .error (.noMembers (kindWord v)) := by
  obtain ⟨hgiven, hother⟩ := h
  rw [readLocation, bind_given?_eq_some_iff.2 hgiven]
  cases v with
  | object hash => exact absurd rfl (hother hash)
  | _ => rfl

/-- Where the location of an object is read, or what breaks the reading. -/
lemma readLocation_cases (payload : List (String × Json)) :
    (∃ v, HasOtherHash payload v ∧ readLocation payload = .error (.noMembers (kindWord v))) ∨
      (∀ v, ¬HasOtherHash payload v) ∧
        ∃ o, readLocation payload = .ok o ∧ ∀ v, o = some v ↔ Located payload v := by
  by_cases hhash : ∃ w, IsGiven payload "hash" w
  · obtain ⟨w, hgiven⟩ := hhash
    by_cases hobject : ∃ hash, w = .object hash
    · obtain ⟨hash, rfl⟩ := hobject
      exact .inr ⟨fun v h => h.2 hash (h.1.unique hgiven), readLocation_of_hash hgiven⟩
    · have hother : HasOtherHash payload w := ⟨hgiven, fun hash h => hobject ⟨hash, h⟩⟩
      exact .inl ⟨w, hother, readLocation_of_hasOtherHash hother⟩
  · rw [not_exists] at hhash
    exact .inr ⟨fun v h => hhash v h.1, readLocation_of_no_hash hhash⟩

/-- What breaks the reading of an object. -/
inductive Misread (payload : List (String × Json)) : Fault → Prop
  | hash {v : Json} (h : HasOtherHash payload v) : Misread payload (.noMembers (kindWord v))
  | infinity {loc : List (String × Json)} (hloc : Located payload (.object loc))
    (h : ReachesInfinity loc locationKeys) : Misread payload .infiniteInteger

/-- The message of an object: the one that it gives, or else the default one. -/
def messageOf (payload : List (String × Json)) : Json :=
  ((Json.member? payload "message").bind Json.given?).getD (.string defaultMessage)

/-- The failure of an object has its message, and the place that its location is read as. -/
lemma ofMembers_of_object {loc : List (String × Json)}
    (h : readLocation payload = .ok (some (.object loc))) :
    ofMembers payload = (readSpan loc).map (.rejected (messageOf payload)) := by
  rw [ofMembers, h]
  show (readSpan loc >>= fun span => pure (Failure.rejected (messageOf payload) span)) = _
  cases readSpan loc <;> rfl

/-- The failure of an object without a location that is an object has no place. -/
lemma ofMembers_of_no_object {o : Option Json} (h : readLocation payload = .ok o)
    (hobject : ∀ loc, o ≠ some (.object loc)) :
    ofMembers payload = .ok (.rejected (messageOf payload) none) := by
  rw [ofMembers, h]
  cases o with
  | none => rfl
  | some v =>
    cases v with
    | object loc => exact absurd rfl (hobject loc)
    | _ => rfl

/-- An object whose location is no object is misread for its `hash` only. -/
lemma Misread.hasOtherHash {fault : Fault} (h : Misread payload fault)
    (hobject : ∀ loc, ¬Located payload (.object loc)) : ∃ v, HasOtherHash payload v := by
  cases h with
  | hash h => exact ⟨_, h⟩
  | infinity hloc _ => exact absurd hloc (hobject _)

/-- An object with a `hash` that is no object is misread for this. -/
lemma HasOtherHash.misread_iff {v : Json} (h : HasOtherHash payload v) (fault : Fault) :
    Misread payload fault ↔ fault = .noMembers (kindWord v) := by
  constructor
  · intro hmisread
    cases hmisread with
    | hash h' => rw [h'.1.unique h.1]
    | infinity hloc _ => exact absurd hloc h.not_located
  · rintro rfl
    exact .hash h

/-- An object with a location is misread where the location is. -/
lemma misread_iff_readSpan {loc : List (String × Json)} (hother : ∀ v, ¬HasOtherHash payload v)
    (hloc : ∀ loc', Located payload (.object loc') ↔ loc' = loc) (fault : Fault) :
    Misread payload fault ↔ readSpan loc = .error fault := by
  rw [readSpan_eq_error_iff]
  constructor
  · intro hmisread
    cases hmisread with
    | hash h => exact absurd h (hother _)
    | infinity hloc' h =>
      rw [(hloc _).1 hloc'] at h
      exact ⟨rfl, h⟩
  · rintro ⟨rfl, h⟩
    exact .infinity ((hloc loc).2 rfl) h

/-- What an object is read as. -/
lemma ofMembers_cases (payload : List (String × Json)) :
    (∃ fault, ofMembers payload = .error fault ∧
        ∀ fault', Misread payload fault' ↔ fault' = fault) ∨
      ∃ span, ofMembers payload = .ok (.rejected (messageOf payload) span) ∧
        (∀ fault, ¬Misread payload fault) ∧
        ∀ s, span = some s ↔ ∃ loc, Located payload (.object loc) ∧ Converts loc s := by
  rcases readLocation_cases payload with ⟨v, hother, hread⟩ | ⟨hother, o, hread, hlocated⟩
  · exact .inl ⟨_, by rw [ofMembers, hread]; rfl, hother.misread_iff⟩
  by_cases hobject : ∃ loc, o = some (.object loc)
  · obtain ⟨loc, rfl⟩ := hobject
    have hloc : ∀ loc', Located payload (.object loc') ↔ loc' = loc := by
      intro loc'
      rw [← hlocated, Option.some.injEq, Json.object.injEq, eq_comm]
    have hmisread := misread_iff_readSpan hother hloc
    have hmembers := ofMembers_of_object hread
    cases hspan : readSpan loc with
    | error fault =>
      rw [hspan] at hmembers
      refine .inl ⟨fault, hmembers, fun fault' => ?_⟩
      rw [hmisread, hspan, Except.error.injEq, eq_comm]
    | ok span =>
      rw [hspan] at hmembers
      refine .inr ⟨span, hmembers, fun fault => ?_, fun s => ?_⟩
      · simp [hmisread, hspan]
      · simp only [hloc, exists_eq_left, ← readSpan_eq_some_iff, hspan, Except.ok.injEq]
  · rw [not_exists] at hobject
    have hnone : ∀ loc, ¬Located payload (.object loc) := fun loc h =>
      hobject loc ((hlocated _).2 h)
    refine .inr ⟨none, ofMembers_of_no_object hread hobject, fun fault h => ?_, fun s => ?_⟩
    · obtain ⟨v, hv⟩ := h.hasOtherHash hnone
      exact hother v hv
    · simp [hnone]

end Failure

/-! ## Runs -/

namespace Command

section

variable [Platform]

/-- Whether a program writes a JSON object as its output. -/
def Writes (p : Program) (payload : List (String × Json)) : Prop :=
  Json.read Platform.jsonDepth (written p.output) = .ok (.object payload)

/-- What breaks the reading of the output of a program. -/
inductive Breaks (p : Program) : Fault → Prop
  | tooDeep {k : Json.Container}
    (h : Json.read Platform.jsonDepth (written p.output) = .error (.tooDeep k)) :
    Breaks p (.tooDeep k)
  | misread {payload : List (String × Json)} {fault : Fault} (hwrites : Writes p payload)
    (h : Failure.Misread payload fault) : Breaks p fault

/-- Whether a failure is what the output of a program describes. -/
structure Describes (p : Program) (f : Failure) : Prop where
  breaks : ∀ fault, f = .broken fault ↔ Breaks p fault
  rejects : (∀ fault, ¬Breaks p fault) → ∃ m span, f = .rejected m span ∧
    (∀ payload m', Writes p payload → Failure.IsGiven payload "message" m' → m = m') ∧
    ∀ s, span = some s ↔ ∃ payload loc, Writes p payload ∧
      Failure.Located payload (.object loc) ∧ Failure.Converts loc s

variable {c : Command} {p : Program} {d limit : Rat}

lemma Writes.unique {payload payload' : List (String × Json)} (h : Writes p payload)
    (h' : Writes p payload') : payload' = payload := by
  cases h'.symm.trans h
  rfl

/-- The output that is an object breaks the reading where the object does. -/
lemma Writes.breaks_iff {payload : List (String × Json)} (h : Writes p payload) (fault : Fault) :
    Breaks p fault ↔ Failure.Misread payload fault := by
  constructor
  · intro hbreaks
    cases hbreaks with
    | tooDeep hdeep => cases hdeep.symm.trans h
    | misread hwrites hmisread => rwa [← h.unique hwrites]
  · exact .misread h

/-- The verdict on an output that is an object. -/
lemma exists_describes_of_writes (hexit : p.exitCode ≠ 0) {payload : List (String × Json)}
    (hwrites : Writes p payload) : ∃ f, judge p = .error f ∧ Describes p f := by
  rcases Failure.ofMembers_cases payload with
    ⟨fault, hread, hmisread⟩ | ⟨span, hread, hmisread, hspan⟩
  · have hjudge : judge p = .error (.broken fault) := by
      rw [judge, if_neg hexit, hwrites]
      simp only [hread]
    refine ⟨.broken fault, hjudge, fun fault' => ?_, fun h => ?_⟩
    · rw [hwrites.breaks_iff, hmisread, Failure.broken.injEq, eq_comm]
    · exact absurd ((hwrites.breaks_iff fault).2 ((hmisread fault).2 rfl)) (h fault)
  · have hjudge : judge p = .error (.rejected (Failure.messageOf payload) span) := by
      rw [judge, if_neg hexit, hwrites]
      simp only [hread]
    refine ⟨.rejected (Failure.messageOf payload) span, hjudge, fun fault => ?_,
      fun _ => ⟨_, span, rfl, ?_, fun s => ?_⟩⟩
    · refine iff_of_false (by simp) ?_
      rw [hwrites.breaks_iff]
      exact hmisread fault
    · intro payload' m hwrites' hm
      rw [hwrites.unique hwrites'] at hm
      rw [Failure.messageOf, Failure.bind_given?_eq_some_iff.2 hm, Option.getD_some]
    · rw [hspan s]
      constructor
      · rintro ⟨loc, h⟩
        exact ⟨payload, loc, hwrites, h⟩
      · rintro ⟨payload', loc, hwrites', h⟩
        rw [hwrites.unique hwrites'] at h
        exact ⟨loc, h⟩

/-- The verdict on an output that is no object. -/
lemma exists_describes_of_no_object (hexit : p.exitCode ≠ 0)
    (hobject : ∀ payload, ¬Writes p payload) : ∃ f, judge p = .error f ∧ Describes p f := by
  by_cases hdeep : ∃ k, Json.read Platform.jsonDepth (written p.output) = .error (.tooDeep k)
  · obtain ⟨k, hdeep⟩ := hdeep
    refine ⟨.broken (.tooDeep k), by rw [judge, if_neg hexit, hdeep], fun fault => ?_,
      fun h => absurd (.tooDeep hdeep) (h (.tooDeep k))⟩
    rw [Failure.broken.injEq]
    constructor
    · rintro rfl
      exact .tooDeep hdeep
    · intro h
      cases h with
      | tooDeep hdeep' =>
        cases hdeep'.symm.trans hdeep
        rfl
      | misread hwrites _ => exact absurd hwrites (hobject _)
  · have hjudge : judge p = .error (.rejected (.string (plainMessage p)) none) := by
      rw [judge, if_neg hexit]
      split
      · next payload hread => exact absurd hread (hobject payload)
      · next k hread => exact absurd ⟨k, hread⟩ hdeep
      · rfl
    refine ⟨_, hjudge, fun fault => ?_,
      fun _ => ⟨_, none, rfl, fun payload m h => absurd h (hobject payload), fun s => ?_⟩⟩
    · refine iff_of_false (by simp) fun h => ?_
      cases h with
      | tooDeep hdeep' => exact hdeep ⟨_, hdeep'⟩
      | misread hwrites _ => exact hobject _ hwrites
    · refine iff_of_false (by simp) ?_
      rintro ⟨payload, loc, hwrites, -⟩
      exact hobject payload hwrites

/-- **Objections.** The verdict of a program that answers in time, with another exit code than zero,
is a failure. It is a breakdown exactly when the output is too deep to be read, or is an object with
a `hash` that is given but no object, or with a location that reaches an infinite number; otherwise
the diagram is rejected. The message is that of the object if it gives one, and the place is the
range of its location if all four parts are whole numbers, or none.

A message is taken for what is legible of it: where the object gives half a surrogate pair on its
own, the message has a replacement character. -/
theorem run_objects (hexit : p.exitCode ≠ 0) (htime : c.AnswersAfter p d) (hlimit : d ≤ limit)
    (text : Text) :
    ∃ f, ((c.start p text.raw).2.run limit).2 = some (.error f) ∧ Describes p f := by
  have hdescribes : ∃ f, judge p = .error f ∧ Describes p f := by
    by_cases hobject : ∃ payload, Writes p payload
    · obtain ⟨payload, hwrites⟩ := hobject
      exact exists_describes_of_writes hexit hwrites
    · exact exists_describes_of_no_object hexit fun payload h => hobject ⟨payload, h⟩
  obtain ⟨f, hjudge, h⟩ := hdescribes
  exact ⟨f, by rw [run_of_answersAfter htime hlimit (Text.utf8Fault?_raw text), hjudge], h⟩

end

/-- A command that may take ten seconds. -/
def tenSeconds : Command := ⟨["v"], .finite false 5629499534213120 (-49)⟩

/-- A program that answers at once with exit code one and some output. -/
def answering (output : String) : Program :=
  ⟨true, some 0, 1, Utf8.encode output.toList, [], .reaped⟩

lemma answersAfter_answering [Platform] (output : String) :
    tenSeconds.AnswersAfter (answering output) 0 :=
  ⟨rfl, rfl, rfl, .inl (le_refl 0)⟩

/-- An objection whose place is a number, a boolean, a string and a fraction. -/
def placedOutput : String :=
  "\x7b\"message\": \"x\", \"loc\": \x7b\"first_line\": 2, \"last_line\": true, " ++
    "\"first_column\": \"4\", \"last_column\": 9.5\x7d\x7d"

section Usual

open Platform.Usual

/-- The parts of a place may be all that stands for a whole number. -/
theorem run_objects_place :
    (answering placedOutput).exitCode ≠ 0 ∧ tenSeconds.AnswersAfter (answering placedOutput) 0 ∧
      ((tenSeconds.start (answering placedOutput) (Text.raw "a".toList)).2.run 60).2 =
        some (.error (.rejected (.string "x") (some ⟨2, 1, 4, 9⟩))) := by
  set loc : List (String × Json) := [("first_line", .int 2), ("last_line", .bool true),
    ("first_column", .string "4"), ("last_column", .float (.finite false 5348024557502464 (-49)))]
  set payload : List (String × Json) := [("message", .string "x"), ("loc", .object loc)]
  have hwrites : Writes (answering placedOutput) payload := by rfl
  have hnone : ∀ fault, ¬Breaks (answering placedOutput) fault := by
    intro fault h
    rw [hwrites.breaks_iff] at h
    rcases Failure.ofMembers_cases payload with ⟨fault', hread, -⟩ | ⟨-, -, hmisread, -⟩
    · cases hread
    · exact hmisread fault h
  have hexit : (answering placedOutput).exitCode ≠ 0 := by decide
  have htime := answersAfter_answering placedOutput
  have hlimit : (0 : Rat) ≤ 60 := by norm_num
  obtain ⟨f, hrun, hdescribes⟩ := run_objects hexit htime hlimit "a".toList
  obtain ⟨m, span, rfl, hmessage, hspan⟩ := hdescribes.rejects hnone
  have hplace : span = some ⟨2, 1, 4, 9⟩ := by
    refine (hspan ⟨2, 1, 4, 9⟩).2 ⟨payload, loc, hwrites, .own (fun w h => ?_) rfl, ?_⟩
    · cases h.1
    · exact ⟨⟨_, rfl, rfl⟩, ⟨_, rfl, rfl⟩, ⟨_, rfl, rfl⟩, ⟨_, rfl, rfl⟩⟩
  rw [hmessage payload (.string "x") hwrites ⟨rfl, rfl⟩, hplace] at hrun
  exact ⟨hexit, htime, hrun⟩

/-- A `hash` that is no object breaks the validation down, in spite of the message beside it. -/
theorem not_forall_run_rejects :
    ¬∀ (c : Command) (p : Program) (d limit : Rat) (text : Text), p.exitCode ≠ 0 →
      c.AnswersAfter p d → d ≤ limit →
        ∃ m span, ((c.start p text.raw).2.run limit).2 = some (.error (.rejected m span)) := by
  intro h
  have htime := answersAfter_answering "\x7b\"message\": \"x\", \"hash\": \"y\"\x7d"
  have hlimit : (0 : Rat) ≤ 60 := by norm_num
  obtain ⟨m, span, hrun⟩ := h _ _ 0 60 "a".toList (by decide) htime hlimit
  rw [run_of_answersAfter htime hlimit (Text.utf8Fault?_raw _)] at hrun
  have hjudge : judge (answering "\x7b\"message\": \"x\", \"hash\": \"y\"\x7d") =
      .error (.broken (.noMembers "str")) := by rfl
  rw [hjudge] at hrun
  cases hrun

end Usual

end Command

end Mermaid
