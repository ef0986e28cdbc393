import CodeGauge.Text.Encoding
import Mathlib.Data.List.Basic

/-!
This module contains the recognition of UTF-8. A document in UTF-8 is taken for one unless one of
its first two characters is the null character, and a byte order mark is not part of its text.
-/

namespace CodeGauge.Text

variable {bytes rest : List UInt8} {cs : List Char} {b : UInt8}


/--
The character of a piece, if it is not malformed.
-/
def Piece.char? : Piece → Option Char
  | .char c _ => some c
  | .malformed .. => none

theorem strict_go_eq_ok_iff {encoding : String} {start : Nat} {found : List Char}
    {pieces : List Piece} :
    strict.go encoding start found pieces = .ok cs
      ↔
    ∃ tail, pieces.map Piece.char? = tail.map some ∧ cs = found.reverse ++ tail := by
  induction pieces generalizing start found with
  | nil =>
    rw [strict.go, Except.ok.injEq, eq_comm]
    simp
  | cons piece pieces ih =>
    cases piece with
    | char c width =>
      rw [strict.go, ih]
      constructor
      . rintro ⟨tail, htail, rfl⟩
        exact ⟨c :: tail, by simp [htail, Piece.char?], by simp⟩
      . rintro ⟨tail, htail, rfl⟩
        cases tail with
        | nil => cases htail
        | cons d tail =>
          rw [List.map_cons, List.map_cons, Piece.char?, List.cons_eq_cons, Option.some_inj]
            at htail
          obtain ⟨rfl, htail⟩ := htail
          exact ⟨tail, htail, by simp⟩
    | malformed bad reason =>
      rw [strict.go]
      constructor
      . intro h
        cases h
      . rintro ⟨tail, htail, _⟩
        cases tail <;> cases htail

/--
A text is written by pieces of which none is malformed.
-/
theorem strict_eq_ok_iff {encoding : String} {start : Nat} {pieces : List Piece} :
    strict encoding start pieces = .ok cs ↔ pieces.map Piece.char? = cs.map some := by
  rw [strict, strict_go_eq_ok_iff]
  simp

theorem piecesOf_go_eq (piece : UInt8 → List UInt8 → Piece) (bytes : List UInt8) (skip : Nat)
    (found : List Piece) :
    piecesOf.go piece bytes skip found = found.reverse ++ piecesOf.go piece bytes skip [] := by
  induction bytes generalizing skip found with
  | nil => simp [piecesOf.go]
  | cons b rest ih =>
    cases skip with
    | zero =>
      simp only [piecesOf.go]
      rw [ih, ih _ [_]]
      simp
    | succ skip =>
      simp only [piecesOf.go]
      exact ih skip found

theorem piecesOf_go_cons (piece : UInt8 → List UInt8 → Piece) (b : UInt8) (rest : List UInt8) :
    piecesOf.go piece (b :: rest) 0 []
      =
    piece b rest :: piecesOf.go piece rest ((piece b rest).width - 1) [] := by
  rw [piecesOf.go, piecesOf_go_eq]
  rfl

/--
No surrogate is a character of UTF-8, so it makes no difference how they are read.
-/
theorem utf8Piece_of_char {c : Char} {width : Nat} (h : Utf8.piece b rest = .char c width) :
    utf8Piece b rest = .char c width := by
  unfold utf8Piece
  split
  . next second third rest =>
    split
    . next hsurrogate =>
      have hbeyond : ¬ (0x80 ≤ second.toNat ∧ second.toNat ≤ 0x9f) := by
        have hfirst : 0xa0 ≤ second.toNat := hsurrogate.1
        omega
      rw [Utf8.piece] at h
      change Utf8.piece.extend 2 0xd 0x80 0x9f _ _ = _ at h
      rw [Utf8.piece.extend, if_neg hbeyond] at h
      cases h
    . exact h
  . exact h

theorem piecesOf_go_utf8Piece {skip : Nat}
    (h : (piecesOf.go Utf8.piece bytes skip []).map Piece.char? = cs.map some) :
    piecesOf.go utf8Piece bytes skip [] = piecesOf.go Utf8.piece bytes skip [] := by
  induction bytes generalizing skip cs with
  | nil => rfl
  | cons b rest ih =>
    cases skip with
    | succ skip =>
      rw [piecesOf.go] at h ⊢
      rw [piecesOf.go]
      exact ih h
    | zero =>
      rw [piecesOf_go_cons] at h ⊢
      rw [piecesOf_go_cons]
      cases cs with
      | nil => cases h
      | cons c cs =>
        rw [List.map_cons, List.map_cons, List.cons_eq_cons] at h
        cases hpiece : Utf8.piece b rest with
        | malformed bad reason =>
          rw [hpiece] at h
          cases h.1
        | char d width =>
          rw [hpiece] at h
          rw [utf8Piece_of_char hpiece, ih h.2]

theorem decodeMarked_utf8 (h : Utf8.decode bytes = .ok cs) : decodeMarked.utf8 bytes = .ok cs := by
  unfold Utf8.decode at h
  rw [strict_eq_ok_iff, piecesOf] at h
  unfold decodeMarked.utf8
  rw [strict_eq_ok_iff, piecesOf, piecesOf_go_utf8Piece h, h]

theorem piecesOf_go_skip (piece : UInt8 → List UInt8 → Piece) (bytes : List UInt8) (skip : Nat) :
    piecesOf.go piece bytes skip [] = piecesOf piece (bytes.drop skip) := by
  induction bytes generalizing skip with
  | nil => simp [piecesOf, piecesOf.go]
  | cons b rest ih =>
    cases skip with
    | zero => rfl
    | succ skip => rw [piecesOf.go, ih, List.drop_succ_cons]

theorem exists_of_decode_cons (h : Utf8.decode (b :: rest) = .ok cs) :
    ∃ c width tail, Utf8.piece b rest = .char c width ∧ cs = c :: tail
      ∧ Utf8.decode (rest.drop (width - 1)) = .ok tail := by
  unfold Utf8.decode at h
  rw [strict_eq_ok_iff, piecesOf, piecesOf_go_cons] at h
  cases cs with
  | nil => cases h
  | cons c tail =>
    rw [List.map_cons, List.map_cons, List.cons_eq_cons] at h
    cases hpiece : Utf8.piece b rest with
    | malformed bad reason =>
      rw [hpiece] at h
      cases h.1
    | char d width =>
      rw [hpiece] at h
      cases h.1
      refine ⟨c, width, tail, rfl, rfl, ?_⟩
      unfold Utf8.decode
      rw [strict_eq_ok_iff, ← piecesOf_go_skip]
      exact h.2

theorem piece_of_lt (hb : b.toNat < 0x80) (rest : List UInt8) :
    Utf8.piece b rest = .char (.ofNat b.toNat) 1 := by
  unfold Utf8.piece Utf8.lead?
  rw [if_pos hb]
  rfl

theorem lead?_of_le {n bits count lo hi : Nat} (h : Utf8.lead? n = some (bits, count, lo, hi))
    (hn : 0x80 ≤ n) : n < 0xf5 ∧ 0 < count ∧ 0x80 ≤ lo := by
  unfold Utf8.lead? at h
  rw [if_neg (Nat.not_lt.2 hn)] at h
  refine ⟨?_, ?_, ?_⟩ <;> grind

/--
A byte beyond ASCII starts a character only together with another one.
-/
theorem exists_of_piece {c : Char} {width : Nat} (h : Utf8.piece b rest = .char c width)
    (hb : 0x80 ≤ b.toNat) :
    b.toNat < 0xf5 ∧ ∃ second left, rest = second :: left ∧ 0x80 ≤ second.toNat := by
  unfold Utf8.piece at h
  split at h
  . cases h
  . next bits count lo hi hlead =>
    obtain ⟨hlt, hcount, hlo⟩ := lead?_of_le hlead hb
    refine ⟨hlt, ?_⟩
    obtain ⟨count, rfl⟩ := Nat.exists_eq_succ_of_ne_zero (Nat.ne_of_gt hcount)
    cases rest with
    | nil => cases h
    | cons second left =>
      rw [Utf8.piece.extend] at h
      split at h
      . next hwithin => exact ⟨second, left, rfl, Nat.le_trans hlo hwithin.1⟩
      . cases h

/--
Bytes without the byte order mark of UTF-8 in front, if it is there.
-/
def withoutMark (bytes : List UInt8) : List UInt8 :=
  if utf8Mark.isPrefixOf bytes then bytes.drop utf8Mark.length else bytes

theorem ne_zero_of_decode (h : Utf8.decode (b :: rest) = .ok cs) (hnul : '\x00' ∉ cs.take 2) :
    b ≠ 0 := by
  rintro rfl
  obtain ⟨c, width, tail, hpiece, rfl, _⟩ := exists_of_decode_cons h
  rw [piece_of_lt (by decide)] at hpiece
  cases hpiece
  exact hnul List.mem_cons_self

theorem second_ne_zero_of_decode {second : UInt8} (h : Utf8.decode (b :: second :: rest) = .ok cs)
    (hnul : '\x00' ∉ cs.take 2) : second ≠ 0 := by
  rintro rfl
  obtain ⟨c, width, tail, hpiece, rfl, htail⟩ := exists_of_decode_cons h
  by_cases hb : b.toNat < 0x80
  . rw [piece_of_lt hb] at hpiece
    cases hpiece
    obtain ⟨d, width, tail, hpiece, rfl, _⟩ := exists_of_decode_cons htail
    rw [piece_of_lt (by decide)] at hpiece
    cases hpiece
    exact hnul (List.mem_cons_of_mem _ List.mem_cons_self)
  . obtain ⟨_, second, left, heq, hsecond⟩ := exists_of_piece hpiece (Nat.le_of_not_lt hb)
    cases heq
    exact absurd hsecond (by decide)

theorem lt_of_decode (h : Utf8.decode (b :: rest) = .ok cs) : b.toNat < 0xf5 := by
  obtain ⟨c, width, tail, hpiece, _⟩ := exists_of_decode_cons h
  by_cases hb : b.toNat < 0x80
  . omega
  . exact (exists_of_piece hpiece (Nat.le_of_not_lt hb)).1

/--
No text in UTF-8 starts with the byte order mark of another encoding.
-/
theorem not_isPrefixOf_of_decode {mark : List UInt8} (h : Utf8.decode bytes = .ok cs)
    (hnul : '\x00' ∉ cs.take 2) (hmark : mark.head?.any fun b => b == 0 || 0xf5 ≤ b) :
    ¬ mark.isPrefixOf bytes := by
  intro hprefix
  obtain ⟨rest, rfl⟩ := List.isPrefixOf_iff_prefix.1 hprefix
  cases mark with
  | nil => cases hmark
  | cons b mark =>
    simp only [List.head?_cons, Option.any_some, Bool.or_eq_true, beq_iff_eq,
      decide_eq_true_eq] at hmark
    rcases hmark with hzero | hle
    . exact ne_zero_of_decode h hnul hzero
    . exact absurd (lt_of_decode h) (Nat.not_lt.2 hle)

theorem forall_ne_zero_of_decode (h : Utf8.decode bytes = .ok cs) (hnul : '\x00' ∉ cs.take 2) :
    ∀ b ∈ bytes.take 2, b ≠ 0 := by
  rcases bytes with _ | ⟨first, _ | ⟨second, rest⟩⟩
  . nofun
  . simpa using ne_zero_of_decode h hnul
  . simpa using ⟨ne_zero_of_decode h hnul, second_ne_zero_of_decode h hnul⟩

theorem byZeros_eq (h : ∀ b ∈ bytes.take 2, b ≠ 0) :
    decodeMarked.byZeros bytes = decodeMarked.utf8 bytes := by
  rcases bytes with _ | ⟨first, _ | ⟨second, rest⟩⟩
  . rfl
  . simp [decodeMarked.byZeros]
  . have hfirst : (first == 0) = false := by
      simpa using h first (by simp)
    have hsecond : (second == 0) = false := by
      simpa using h second (by simp)
    simp [decodeMarked.byZeros, hfirst, hsecond]

/--
A document in UTF-8 is read as one, unless a null character among its first two makes it look like
UTF-16 or UTF-32.
-/
theorem decodeMarked_of_utf8 (h : Utf8.decode (withoutMark bytes) = .ok cs)
    (hnul : '\x00' ∉ cs.take 2) : decodeMarked bytes = .ok cs := by
  unfold withoutMark at h
  split at h
  . next hmark =>
    obtain ⟨rest, rfl⟩ := List.isPrefixOf_iff_prefix.1 hmark
    exact decodeMarked_utf8 h
  . next hmark =>
    unfold decodeMarked
    rw [if_neg (not_isPrefixOf_of_decode h hnul rfl), if_neg (not_isPrefixOf_of_decode h hnul rfl),
      if_neg (not_isPrefixOf_of_decode h hnul rfl), if_neg (not_isPrefixOf_of_decode h hnul rfl),
      if_neg hmark, byZeros_eq (forall_ne_zero_of_decode h hnul)]
    exact decodeMarked_utf8 h

end CodeGauge.Text
