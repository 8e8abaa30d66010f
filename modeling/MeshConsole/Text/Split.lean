/-!
# Splitting at separators

A sequence is cut at each of its separators. There is always one piece more than there are
separators, and putting the pieces together again with one separator between each two of them gives
back the sequence if only one element separates.
-/

namespace MeshConsole.Text

/-- One element in front of the piece and the later pieces that follow it. -/
def pushPiece {α : Type} (separates : α → Bool) (x : α) (seen : List α × List (List α)) :
    List α × List (List α) :=
  if separates x then ([], seen.1 :: seen.2) else (x :: seen.1, seen.2)

/-- The piece in front of the first separator, and all later pieces. -/
def splitFirst {α : Type} (separates : α → Bool) (xs : List α) : List α × List (List α) :=
  xs.foldr (pushPiece separates) ([], [])

/-- All pieces. -/
def splitOn {α : Type} (separates : α → Bool) (xs : List α) : List (List α) :=
  (splitFirst separates xs).1 :: (splitFirst separates xs).2

/-- What stands in front of the first separator, and what stands behind it if there is one. -/
def splitOnce {α : Type} (separates : α → Bool) (xs : List α) : List α × Option (List α) :=
  match xs.dropWhile fun x => !separates x with
  | [] => (xs, none)
  | _ :: later => (xs.takeWhile fun x => !separates x, some later)

@[simp] theorem splitFirst_nil {α : Type} (separates : α → Bool) :
    splitFirst separates [] = ([], []) := rfl

@[simp] theorem splitFirst_cons {α : Type} (separates : α → Bool) (x : α) (xs : List α) :
    splitFirst separates (x :: xs) = pushPiece separates x (splitFirst separates xs) := rfl

/-- A sequence without separators is its only piece. -/
theorem splitOn_of_forall {α : Type} {separates : α → Bool} {xs : List α}
    (h : ∀ x ∈ xs, separates x = false) : splitOn separates xs = [xs] := by
  induction xs with
  | nil => rfl
  | cons x xs ih =>
    have hx : separates x = false := h x (by simp)
    have hxs := ih fun y hy => h y (by simp [hy])
    simp only [splitOn, splitFirst_cons, pushPiece, hx] at hxs ⊢
    simp_all

end MeshConsole.Text
