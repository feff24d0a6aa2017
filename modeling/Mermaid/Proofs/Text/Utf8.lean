import Mermaid.Text.Utf8
import Mathlib.Tactic.Common

/-!
# What is encoded can be read again

* `Utf8.piecesAfter_encodeChar` reads one character off bytes that start with it;
* `Utf8.decode_of_encode` says that the bytes of a text hold that text.
-/

namespace Mermaid.Utf8

/-- The code points of characters are below the surrogates or above them. -/
lemma toNat_range (c : Char) : c.toNat < 0xD800 ∨ 0xDFFF < c.toNat ∧ c.toNat < 0x110000 := by
  have hvalid : c.toNat.isValidChar := c.valid
  unfold Nat.isValidChar at hvalid
  omega

private lemma toNat_ofNat {n : Nat} (h : n < 256) : (UInt8.ofNat n).toNat = n := by
  rw [UInt8.toNat_ofNat']
  omega

/-- A continuation byte that is owed and in range is taken into the code point. -/
lemma continuation_cons {low high code taken owed n : Nat} {bs : Bytes} (hn : n < 256)
    (hlow : low ≤ n) (hhigh : n ≤ high) :
    continuation low high code taken (owed + 1) (UInt8.ofNat n :: bs) =
      continuation 0x80 0xBF (code * 64 + n % 64) (taken + 1) owed bs := by
  rw [continuation, toNat_ofNat hn, if_pos]
  simp [hlow, hhigh]

lemma continuation_zero (low high taken : Nat) (bs : Bytes) {code : Nat} {c : Char}
    (hcode : code = c.toNat) : continuation low high code taken 0 bs = .char c taken := by
  rw [continuation, hcode, Char.ofNat_toNat]

/-- Where the bytes of a character stand, that character is found. -/
lemma piece_encodeChar (c : Char) (rest : Bytes) :
    ∃ b bs, encodeChar c = b :: bs ∧ piece b (bs ++ rest) = .char c (encodeChar c).length := by
  have hrange := toNat_range c
  unfold encodeChar
  dsimp only
  split
  · next hone =>
    refine ⟨_, [], rfl, ?_⟩
    simp only [piece, toNat_ofNat (show c.toNat < 256 by omega)]
    rw [if_pos hone, Char.ofNat_toNat]
    rfl
  · next hone =>
    split
    · next htwo =>
      refine ⟨_, _, rfl, ?_⟩
      simp only [piece, toNat_ofNat (show 0xC0 + c.toNat / 64 < 256 by omega)]
      rw [if_neg (by omega), if_neg (by omega), if_pos (by omega), List.cons_append,
        continuation_cons (by omega) (by omega) (by omega), continuation_zero (c := c)]
      · rfl
      · omega
    · next htwo =>
      split
      · next hthree =>
        refine ⟨_, _, rfl, ?_⟩
        simp only [piece, toNat_ofNat (show 0xE0 + c.toNat / 4096 < 256 by omega)]
        -- the first continuation byte rules out overlong forms and surrogates
        rw [if_neg (by omega), if_neg (by omega), if_neg (by omega), if_pos (by omega),
          List.cons_append, continuation_cons (by omega) (by split <;> omega) (by split <;> omega),
          List.cons_append, continuation_cons (by omega) (by omega) (by omega),
          continuation_zero (c := c)]
        · rfl
        · omega
      · next hthree =>
        refine ⟨_, _, rfl, ?_⟩
        simp only [piece, toNat_ofNat (show 0xF0 + c.toNat / 262144 < 256 by omega)]
        -- the first continuation byte rules out overlong forms and what is above all code points
        rw [if_neg (by omega), if_neg (by omega), if_neg (by omega), if_neg (by omega),
          if_pos (by omega), List.cons_append,
          continuation_cons (by omega) (by split <;> omega) (by split <;> omega),
          List.cons_append, continuation_cons (by omega) (by omega) (by omega),
          List.cons_append, continuation_cons (by omega) (by omega) (by omega),
          continuation_zero (c := c)]
        · rfl
        · omega

lemma piecesAfter_append (bs rest : Bytes) : piecesAfter bs.length (bs ++ rest) = pieces rest := by
  induction bs with
  | nil => rfl
  | cons b bs ih => exact ih

/-- The bytes of a character in front of others are read as that character. -/
lemma pieces_encodeChar_append (c : Char) (rest : Bytes) :
    pieces (encodeChar c ++ rest) = .char c (encodeChar c).length :: pieces rest := by
  obtain ⟨b, bs, hbytes, hpiece⟩ := piece_encodeChar c rest
  have hlength : (encodeChar c).length - 1 = bs.length := by rw [hbytes]; rfl
  rw [hbytes] at hpiece ⊢
  rw [List.cons_append, pieces, piecesAfter, hpiece, Piece.width, List.length_cons,
    Nat.add_sub_cancel, piecesAfter_append]

lemma pieces_encode (t : Text) :
    pieces (encode t) = t.map fun c => .char c (encodeChar c).length := by
  induction t with
  | nil => rfl
  | cons c cs ih =>
    rw [show encode (c :: cs) = encodeChar c ++ encode cs from List.flatMap_cons,
      pieces_encodeChar_append, ih, List.map_cons]

lemma decodePieces_map_char (all : Bytes) (width : Char → Nat) (t : Text) (position : Nat) :
    decodePieces all position (t.map fun c => .char c (width c)) = .ok t := by
  induction t generalizing position with
  | nil => rfl
  | cons c cs ih =>
    rw [List.map_cons, decodePieces, ih]
    rfl

/-- The bytes of a text hold that text. -/
theorem decode_of_encode (t : Text) : decode (encode t) = .ok t := by
  rw [decode, pieces_encode, decodePieces_map_char]

end Mermaid.Utf8
