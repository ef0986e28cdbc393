import CodeGauge.Chat.Failure

/-!
This module contains the cutting of a text into pieces that are reviewed one by one.
-/

namespace CodeGauge.Review


/--
Pieces of `n + 1` elements each, and a last one of what is left.
-/
def pieces {α : Type} (n : Nat) (xs : List α) : List (List α) :=
  match xs with
  | [] => []
  | x :: xs => (x :: xs.take n) :: pieces n (xs.drop n)
termination_by xs.length
decreasing_by
  simp only [List.length_drop, List.length_cons]
  omega

/--
The pieces of a text, each with at most `most` characters. A negative limit leaves nothing, and a
text that is not empty cannot be cut into pieces of no characters.
-/
def chunks (most : Int) (text : List Char) : Except Failure (List (List Char)) :=
  if text.length ≤ most then
    .ok [text]
  else
    match most with
    | .ofNat 0 => .error .emptyChunks
    | .ofNat (n + 1) => .ok (pieces n text)
    | .negSucc _ => .ok []

/--
Nothing gets lost or out of order.
-/
@[simp]
theorem flatten_pieces {α : Type} (n : Nat) (xs : List α) : (pieces n xs).flatten = xs := by
  fun_induction pieces n xs with
  | case1 => rfl
  | case2 x xs ih => simp [ih]

end CodeGauge.Review
