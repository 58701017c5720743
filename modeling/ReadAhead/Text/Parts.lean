/-
Lists cut at separators, and put together again. There is always one part more
than there are separators.
-/

set_option autoImplicit false

namespace ReadAhead.Text

variable {α : Type}

/-- The parts of a list between the places where a separator stands. -/
def splitOn (isSeparator : α → Bool) : List α → List (List α)
  | [] => [[]]
  | a :: rest =>
    match splitOn isSeparator rest with
    | [] => [[a]]
    | part :: parts => if isSeparator a then [] :: part :: parts else (a :: part) :: parts

/-- Parts put together again with a separator. -/
def joinWith (separator : List α) : List (List α) → List α
  | [] => []
  | [part] => part
  | part :: parts => part ++ separator ++ joinWith separator parts

end ReadAhead.Text
