import Mathlib.Data.List.Basic
import Mathlib.Tactic.Common
import Mathlib.Tactic.SplitIfs
import Mermaid.Editor.Diagnostic

/-!
# The range of a diagnostic

A marker counts its lines and columns from 1, and they may be any integers, since a validator may
send what it likes. A diagnostic counts from 0. What lies in front of the document is moved to its
start, an end on a line above the start is moved down to the line of the start, and a range that is
still empty or reversed is widened to one character. So every marker has a range that starts before
it ends, and only the limit of the protocol keeps it from being sent.

* `Diagnostic.bounds_ordered` and `Diagnostic.bounds_of_isWellFormed` say what the range is;
* `ProtocolTypes.TakesPositions` says which positions the types of the protocol take, and
  `Diagnostic.exists_rangeOf_iff` which ranges they take then;
* `Diagnostic.range_of_marker` is the main statement;
* `Diagnostic.exists_ofMarker_iff` says which markers have a diagnostic.
-/

namespace Mermaid

/-- Whether a marker lies in a document and is not empty: its coordinates count from 1, and it
starts before it ends. -/
structure Marker.IsWellFormed (m : Marker) : Prop where
  startLine : 1 ≤ m.startLine
  startCol : 1 ≤ m.startCol
  endLine : 1 ≤ m.endLine
  endCol : 1 ≤ m.endCol
  ordered : m.startLine < m.endLine ∨ m.startLine = m.endLine ∧ m.startCol < m.endCol

/-- Whether the place and the message of a marker can be sent: all its coordinates lie within the
limit, and the message is a string. -/
structure Marker.IsSendable (m : Marker) : Prop where
  startLine : (Diagnostic.bounds m).1 ≤ Position.limit
  startCol : (Diagnostic.bounds m).2.1 ≤ Position.limit
  endLine : (Diagnostic.bounds m).2.2.1 ≤ Position.limit
  endCol : (Diagnostic.bounds m).2.2.2 ≤ Position.limit
  message : ∃ s, m.message = .string s

namespace Diagnostic

variable {m : Marker}

/-! ## Coordinates from 0 -/

lemma shifted_eq (n : Int) : shifted n = max 0 (n - 1) := by
  unfold shifted
  split <;> omega

lemma shifted_nonneg (n : Int) : 0 ≤ shifted n := by
  rw [shifted_eq]
  omega

/-- The coordinates of a marker are not negative. -/
lemma bounds_nonneg (m : Marker) :
    0 ≤ (bounds m).1 ∧ 0 ≤ (bounds m).2.1 ∧ 0 ≤ (bounds m).2.2.1 ∧ 0 ≤ (bounds m).2.2.2 := by
  have hstartLine := shifted_nonneg m.startLine
  have hstartCol := shifted_nonneg m.startCol
  have hendCol := shifted_nonneg m.endCol
  simp only [bounds]
  refine ⟨hstartLine, hstartCol, ?_, ?_⟩
  · split_ifs <;> omega
  · split_ifs <;> omega

/-- The end of a marker lies on a later line than its start, or behind it on the same line. -/
lemma bounds_ordered (m : Marker) : (bounds m).1 < (bounds m).2.2.1 ∨
    (bounds m).1 = (bounds m).2.2.1 ∧ (bounds m).2.1 < (bounds m).2.2.2 := by
  have hline : (bounds m).1 ≤ (bounds m).2.2.1 := by
    simp only [bounds]
    split_ifs <;> omega
  have hcol : (bounds m).2.2.1 = (bounds m).1 → (bounds m).2.1 < (bounds m).2.2.2 := by
    intro hsame
    simp only [bounds] at hsame ⊢
    -- on one line the end is widened exactly when it is not behind the start
    simp only [hsame, decide_true, Bool.true_and, decide_eq_true_eq]
    split_ifs <;> omega
  omega

/-- The coordinates of a well-formed marker are only shifted. -/
lemma bounds_of_isWellFormed (h : m.IsWellFormed) :
    bounds m = (m.startLine - 1, m.startCol - 1, m.endLine - 1, m.endCol - 1) := by
  obtain ⟨hstartLine, hstartCol, hendLine, hendCol, hordered⟩ := h
  have hshifted : ∀ n : Int, 1 ≤ n → shifted n = n - 1 := by
    intro n hn
    rw [shifted_eq]
    omega
  have hbelow : ¬m.endLine - 1 < m.startLine - 1 := by omega
  have hbehind : ¬(m.endLine - 1 = m.startLine - 1 && m.endCol - 1 ≤ m.startCol - 1) = true := by
    simp only [Bool.and_eq_true, decide_eq_true_eq]
    omega
  simp only [bounds]
  rw [hshifted _ hstartLine, hshifted _ hstartCol, hshifted _ hendCol, if_neg hbelow,
    if_neg hbehind]

/-- On its start line a marker that does not end behind its start is widened to one character. -/
lemma bounds_of_empty (hline : (bounds m).2.2.1 = (bounds m).1) (hcol : m.endCol ≤ m.startCol) :
    (bounds m).2.2.2 = (bounds m).2.1 + 1 := by
  have hle : shifted m.endCol ≤ shifted m.startCol := by
    rw [shifted_eq, shifted_eq]
    omega
  simp only [bounds] at hline ⊢
  rw [hline, if_pos (by simpa using hle)]

end Diagnostic

/-! ## Coordinates within the limit -/

/-- Whether the types of the protocol take the positions with both coordinates from 0 to the limit,
and no others. -/
structure ProtocolTypes.TakesPositions (types : ProtocolTypes ε) : Prop where
  exists_iff : ∀ line character : Int, (∃ p, types.position line character = .ok p) ↔
    (0 ≤ line ∧ line ≤ Position.limit) ∧ 0 ≤ character ∧ character ≤ Position.limit
  coordinates : ∀ line character p, types.position line character = .ok p →
    (p.line : Int) = line ∧ (p.character : Int) = character

namespace Diagnostic

section Types

variable {types : ProtocolTypes ε} {startLine startCol endLine endCol : Nat}

/-- A position that the types take has the coordinates that they were given. -/
lemma position_eq (htypes : types.TakesPositions) {line character : Nat} {p : Position}
    (hp : types.position line character = .ok p) : p = ⟨line, character⟩ := by
  obtain ⟨hline, hcharacter⟩ := htypes.coordinates _ _ p hp
  rw [← Int.ofNat_inj.1 hline, ← Int.ofNat_inj.1 hcharacter]

/-- A position is refused above the limit only. -/
lemma exists_position_iff (htypes : types.TakesPositions) {line character : Nat} :
    (∃ p, types.position line character = .ok p) ↔
      line ≤ Position.limit ∧ character ≤ Position.limit := by
  rw [htypes.exists_iff]
  omega

/-- The range of a marker is the one with its bounds. -/
lemma rangeOf_eq (htypes : types.TakesPositions)
    (hbounds : bounds m = (↑startLine, ↑startCol, ↑endLine, ↑endCol)) {range : Range}
    (hrange : rangeOf types m = .ok range) :
    range = ⟨⟨startLine, startCol⟩, ⟨endLine, endCol⟩⟩ := by
  rw [rangeOf, hbounds] at hrange
  dsimp only at hrange
  cases hstart : types.position startLine startCol with
  | error e =>
    rw [hstart] at hrange
    cases hrange
  | ok start =>
    cases hstop : types.position endLine endCol with
    | error e =>
      rw [hstart, hstop] at hrange
      cases hrange
    | ok stop =>
      rw [hstart, hstop] at hrange
      obtain rfl : (⟨start, stop⟩ : Range) = range := Except.ok.inj hrange
      rw [position_eq htypes hstart, position_eq htypes hstop]

/-- A marker has a range exactly when no coordinate is above the limit. -/
lemma exists_rangeOf_iff (htypes : types.TakesPositions)
    (hbounds : bounds m = (↑startLine, ↑startCol, ↑endLine, ↑endCol)) :
    (∃ range, rangeOf types m = .ok range) ↔
      startLine ≤ Position.limit ∧ startCol ≤ Position.limit ∧ endLine ≤ Position.limit ∧
        endCol ≤ Position.limit := by
  rw [← and_assoc, ← exists_position_iff htypes, ← exists_position_iff htypes, rangeOf, hbounds]
  dsimp only
  cases types.position startLine startCol with
  | error e => exact iff_of_false (fun ⟨_, h⟩ => nomatch h) fun ⟨⟨_, h⟩, _⟩ => nomatch h
  | ok start =>
    cases types.position endLine endCol with
    | error e => exact iff_of_false (fun ⟨_, h⟩ => nomatch h) fun ⟨_, _, h⟩ => nomatch h
    | ok stop => exact iff_of_true ⟨_, rfl⟩ ⟨⟨start, rfl⟩, stop, rfl⟩

/-- A marker is converted when it has a range and the types take its message. -/
lemma convert_eq_ok_iff {d : Diagnostic} : convert types m = .ok d ↔
    rangeOf types m = .ok d.range ∧ types.message m.message = .ok d.message ∧
      m.severity = d.severity := by
  obtain ⟨range, message, severity⟩ := d
  rw [convert]
  cases rangeOf types m with
  | error e => exact iff_of_false nofun fun h => nomatch h.1
  | ok r =>
    cases types.message m.message with
    | error e => exact iff_of_false nofun fun h => nomatch h.2.1
    | ok s =>
      change Except.ok (Diagnostic.mk r s m.severity) = .ok ⟨range, message, severity⟩ ↔ _
      simp only [Except.ok.injEq, Diagnostic.mk.injEq]

lemma exists_convert_iff : (∃ d, convert types m = .ok d) ↔
    (∃ range, rangeOf types m = .ok range) ∧ ∃ s, types.message m.message = .ok s := by
  simp only [convert_eq_ok_iff]
  constructor
  · rintro ⟨d, hrange, hmessage, -⟩
    exact ⟨⟨_, hrange⟩, _, hmessage⟩
  · rintro ⟨⟨range, hrange⟩, s, hs⟩
    exact ⟨⟨range, s, m.severity⟩, hrange, hs, rfl⟩

/-- The coordinates of the range of a marker as natural numbers. -/
lemma exists_bounds (m : Marker) : ∃ startLine startCol endLine endCol : Nat,
    bounds m = (↑startLine, ↑startCol, ↑endLine, ↑endCol) := by
  obtain ⟨hstartLine, hstartCol, hendLine, hendCol⟩ := bounds_nonneg m
  refine ⟨(bounds m).1.toNat, (bounds m).2.1.toNat, (bounds m).2.2.1.toNat,
    (bounds m).2.2.2.toNat, ?_⟩
  rw [Int.toNat_of_nonneg hstartLine, Int.toNat_of_nonneg hstartCol, Int.toNat_of_nonneg hendLine,
    Int.toNat_of_nonneg hendCol]

end Types

/-- **The range of a diagnostic.** Whatever the coordinates of a marker are, those of its range are
not negative, and it starts before it ends. A well-formed marker is only shifted by one. Let the
types of the protocol take exactly the positions within the limit, and the message of the marker.
Then the marker has a diagnostic, and this is its range, unless one of the four coordinates is above
the limit. It may be that only the widening by one character takes a coordinate there. -/
theorem range_of_marker (types : ProtocolTypes ε) (htypes : types.TakesPositions) (m : Marker)
    {s : String} (hmessage : types.message m.message = .ok s) :
    ∃ startLine startCol endLine endCol : Nat,
      bounds m = (↑startLine, ↑startCol, ↑endLine, ↑endCol) ∧
      (startLine < endLine ∨ startLine = endLine ∧ startCol < endCol) ∧
      (m.IsWellFormed → m.startLine = startLine + 1 ∧ m.startCol = startCol + 1 ∧
        m.endLine = endLine + 1 ∧ m.endCol = endCol + 1) ∧
      ((∃ e, convert types m = .error e) ↔
        Position.limit < startLine ∨ Position.limit < startCol ∨ Position.limit < endLine ∨
          Position.limit < endCol) ∧
      (∀ d, convert types m = .ok d → d.range = ⟨⟨startLine, startCol⟩, ⟨endLine, endCol⟩⟩) ∧
      (startCol = Position.limit → endLine = startLine → m.endCol ≤ m.startCol →
        endCol = Position.limit + 1 ∧ ∃ e, convert types m = .error e) := by
  obtain ⟨startLine, startCol, endLine, endCol, hbounds⟩ := exists_bounds m
  have hfails : (∃ e, convert types m = .error e) ↔
      Position.limit < startLine ∨ Position.limit < startCol ∨ Position.limit < endLine ∨
        Position.limit < endCol := by
    have hok : (∃ d, convert types m = .ok d) ↔ _ :=
      exists_convert_iff.trans (and_iff_left ⟨s, hmessage⟩)
    rw [exists_rangeOf_iff htypes hbounds] at hok
    cases hconvert : convert types m with
    | ok d =>
      have hwithin := hok.1 ⟨d, hconvert⟩
      refine iff_of_false (fun ⟨_, h⟩ => nomatch h) ?_
      omega
    | error e =>
      have hout : ¬_ := mt hok.2 fun ⟨d, hd⟩ => nomatch hconvert.symm.trans hd
      refine iff_of_true ⟨e, rfl⟩ ?_
      omega
  refine ⟨startLine, startCol, endLine, endCol, hbounds, ?_, ?_, hfails, ?_, ?_⟩
  · have hordered := bounds_ordered m
    simp only [hbounds] at hordered
    omega
  · intro hwell
    have hshifted := bounds_of_isWellFormed hwell
    simp only [hbounds, Prod.mk.injEq] at hshifted
    omega
  · intro d hd
    exact rangeOf_eq htypes hbounds (convert_eq_ok_iff.1 hd).1
  · intro hstartCol hendLine hendCol
    have hwidened : endCol = Position.limit + 1 := by
      have hempty := bounds_of_empty (m := m)
      simp only [hbounds] at hempty
      have hsame : (endLine : Int) = startLine := by rw [hendLine]
      have hcast := hempty hsame hendCol
      omega
    refine ⟨hwidened, hfails.2 ?_⟩
    omega

/-! ## The usual types -/

/-- A coordinate is taken from 0 to the limit. -/
lemma coordinate_eq_ok_iff {c : Position.Coordinate} {value : Int} {n : Nat} :
    Position.coordinate c value = .ok n ↔ (n : Int) = value ∧ value ≤ Position.limit := by
  unfold Position.coordinate
  split
  · next h =>
    simp only [Bool.and_eq_true, decide_eq_true_eq] at h
    rw [Except.ok.injEq]
    omega
  · next h =>
    simp only [Bool.and_eq_true, decide_eq_true_eq] at h
    refine iff_of_false nofun ?_
    omega

lemma position_usualTypes_eq_ok_iff {line character : Int} {p : Position} :
    usualTypes.position line character = .ok p ↔
      ((p.line : Int) = line ∧ line ≤ Position.limit) ∧
        (p.character : Int) = character ∧ character ≤ Position.limit := by
  obtain ⟨l, k⟩ := p
  rw [← coordinate_eq_ok_iff (c := .line), ← coordinate_eq_ok_iff (c := .character)]
  change (Position.ofInts line character).mapError Obstacle.outOfRange = _ ↔ _
  rw [Position.ofInts]
  cases Position.coordinate .line line with
  | error e => exact iff_of_false nofun fun h => nomatch h.1
  | ok n =>
    cases Position.coordinate .character character with
    | error e => exact iff_of_false nofun fun h => nomatch h.2
    | ok c =>
      change Except.ok (Position.mk n c) = .ok ⟨l, k⟩ ↔ _
      simp only [Except.ok.injEq, Position.mk.injEq]

lemma takesPositions_usualTypes : usualTypes.TakesPositions where
  exists_iff := by
    intro line character
    simp only [position_usualTypes_eq_ok_iff]
    constructor
    · rintro ⟨p, ⟨hline, hlimit⟩, hcharacter, hlimit'⟩
      omega
    · rintro ⟨⟨hline, hlimit⟩, hcharacter, hlimit'⟩
      exact ⟨⟨line.toNat, character.toNat⟩, ⟨Int.toNat_of_nonneg hline, hlimit⟩,
        Int.toNat_of_nonneg hcharacter, hlimit'⟩
  coordinates := by
    intro line character p hp
    rw [position_usualTypes_eq_ok_iff] at hp
    exact ⟨hp.1.1, hp.2.1⟩

/-- The widening alone takes a marker over the limit. -/
theorem range_of_marker_widened :
    ∃ e, convert usualTypes ⟨.error, .string "x", 1, 2147483648, 1, 2147483648⟩ = .error e := by
  obtain ⟨startLine, startCol, endLine, endCol, hbounds, -, -, -, -, hwidened⟩ :=
    range_of_marker usualTypes takesPositions_usualTypes
      ⟨.error, .string "x", 1, 2147483648, 1, 2147483648⟩ rfl
  have hcoordinates : bounds ⟨.error, .string "x", 1, 2147483648, 1, 2147483648⟩ =
      (0, 2147483647, 0, 2147483648) := by decide
  rw [hcoordinates, Prod.mk.injEq, Prod.mk.injEq, Prod.mk.injEq] at hbounds
  refine (hwidened ?_ ?_ (Int.le_refl _)).2
  · exact (Int.ofNat_inj.1 hbounds.2.1).symm
  · omega

/-- A marker has a diagnostic by the usual types exactly when it can be sent. -/
theorem exists_ofMarker_iff (m : Marker) : (∃ d, ofMarker m = .ok d) ↔ m.IsSendable := by
  obtain ⟨startLine, startCol, endLine, endCol, hbounds⟩ := exists_bounds m
  have hmessage : (∃ s, usualTypes.message m.message = .ok s) ↔ ∃ s, m.message = .string s := by
    cases m.message with
    | string s => exact iff_of_true ⟨s, rfl⟩ ⟨s, rfl⟩
    | _ => exact iff_of_false (fun ⟨_, h⟩ => nomatch h) fun ⟨_, h⟩ => nomatch h
  rw [ofMarker, exists_convert_iff, exists_rangeOf_iff takesPositions_usualTypes hbounds, hmessage]
  constructor
  · rintro ⟨⟨hstartLine, hstartCol, hendLine, hendCol⟩, hstring⟩
    have hle : ∀ n : Nat, n ≤ Position.limit → (n : Int) ≤ Position.limit :=
      fun n hn => Int.ofNat_le.2 hn
    refine ⟨?_, ?_, ?_, ?_, hstring⟩ <;> rw [hbounds]
    exacts [hle _ hstartLine, hle _ hstartCol, hle _ hendLine, hle _ hendCol]
  · rintro ⟨hstartLine, hstartCol, hendLine, hendCol, hstring⟩
    rw [hbounds] at hstartLine hstartCol hendLine hendCol
    exact ⟨⟨Int.ofNat_le.1 hstartLine, Int.ofNat_le.1 hstartCol, Int.ofNat_le.1 hendLine,
      Int.ofNat_le.1 hendCol⟩, hstring⟩

end Diagnostic

end Mermaid
