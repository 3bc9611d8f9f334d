/-!
Cutting a text at separators. `pieces` keeps empty pieces, so that joining with a separator gives
the text back (`joined_pieces`) and there is always at least one piece (`pieces_ne_nil`).
-/

namespace DidRegistry.Split

variable {α : Type}

def consFirst (a : α) : List (List α) → List (List α)
  | [] => [[a]]
  | piece :: rest => (a :: piece) :: rest

/-- The pieces between separators. -/
def pieces (separates : α → Bool) : List α → List (List α)
  | [] => [[]]
  | a :: rest =>
    if separates a then [] :: pieces separates rest else consFirst a (pieces separates rest)

def joined (separator : α) : List (List α) → List α
  | [] => []
  | [piece] => piece
  | piece :: rest => piece ++ separator :: joined separator rest

theorem consFirst_ne_nil (a : α) (parts : List (List α)) : consFirst a parts ≠ [] := by
  cases parts <;> simp [consFirst]

theorem pieces_ne_nil (separates : α → Bool) (text : List α) : pieces separates text ≠ [] := by
  cases text with
  | nil => simp [pieces]
  | cons a rest =>
    simp only [pieces]
    split
    · simp
    · exact consFirst_ne_nil _ _

theorem joined_consFirst (separator a : α) (parts : List (List α)) :
    joined separator (consFirst a parts) = a :: joined separator parts := by
  match parts with
  | [] => rfl
  | [_] => rfl
  | _ :: _ :: _ => rfl

/-- Nothing is lost by cutting. -/
theorem joined_pieces [BEq α] [LawfulBEq α] (separator : α) (text : List α) :
    joined separator (pieces (· == separator) text) = text := by
  induction text with
  | nil => rfl
  | cons a rest ih =>
    simp only [pieces]
    split
    · rename_i same
      obtain rfl := eq_of_beq same
      have some_piece := pieces_ne_nil (· == a) rest
      cases cut : pieces (· == a) rest with
      | nil => exact absurd cut some_piece
      | cons piece others => rw [← ih, cut]; rfl
    · rw [joined_consFirst, ih]

end DidRegistry.Split
