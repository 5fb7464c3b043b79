/-!
# Splitting at a delimiter

A text cut at every occurrence of one character. There is always at least one piece, and `join` puts the pieces
together again.
-/

namespace BasinRegister.Text

/-- The pieces between the occurrences of `d`: one more than there are occurrences. -/
def pieces (d : Char) : List Char → List (List Char)
  | [] => [[]]
  | c :: cs =>
    if c = d then [] :: pieces d cs
    else
      match pieces d cs with
      | [] => [[c]]
      | p :: ps => (c :: p) :: ps

/-- The pieces of a text between the occurrences of `d`. -/
def splitAll (d : Char) (s : String) : List String :=
  (pieces d s.toList).map String.ofList

/-- The part before the first `d` and the part after it, or nothing when `d` does not occur. -/
def cutAt (d : Char) : List Char → Option (List Char × List Char)
  | [] => none
  | c :: cs => if c = d then some ([], cs) else (cutAt d cs).map fun (a, b) => (c :: a, b)

theorem pieces_ne_nil (d : Char) (cs : List Char) : pieces d cs ≠ [] := by
  cases cs with
  | nil => simp [pieces]
  | cons c cs =>
    rw [pieces]
    split
    · simp
    · split <;> simp

/-- Putting the delimiter back between the pieces gives the text. -/
theorem intercalate_pieces (d : Char) (cs : List Char) : [d].intercalate (pieces d cs) = cs := by
  induction cs with
  | nil => rfl
  | cons c cs ih =>
    rw [pieces]
    cases hp : pieces d cs with
    | nil => exact absurd hp (pieces_ne_nil d cs)
    | cons p ps =>
      rw [hp] at ih
      split
      · rename_i h
        subst h
        simpa [List.intercalate, List.intersperse] using ih
      · cases ps with
        | nil => simpa [List.intercalate, List.intersperse] using ih
        | cons q qs => simpa [List.intercalate, List.intersperse] using ih

end BasinRegister.Text
