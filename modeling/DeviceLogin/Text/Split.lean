set_option autoImplicit false

namespace DeviceLogin.Text

def splitOn (separator : Char) : List Char → List (List Char)
  | [] => [[]]
  | c :: rest =>
      match splitOn separator rest with
      | [] => [[c]]
      | piece :: pieces => if c = separator then [] :: piece :: pieces else (c :: piece) :: pieces

def intercalate (separator : List Char) : List (List Char) → List Char
  | [] => []
  | [piece] => piece
  | piece :: rest => piece ++ separator ++ intercalate separator rest

def occurs (part : List Char) : List Char → Bool
  | [] => part.isEmpty
  | c :: rest => part.isPrefixOf (c :: rest) || occurs part rest

theorem splitOn_ne_nil (separator : Char) (text : List Char) : splitOn separator text ≠ [] := by
  cases text with
  | nil => simp [splitOn]
  | cons c rest =>
      rw [splitOn]
      split
      · simp
      · split <;> simp

theorem intercalate_splitOn (separator : Char) (text : List Char) :
    intercalate [separator] (splitOn separator text) = text := by
  induction text with
  | nil => rfl
  | cons c rest ih =>
      rw [splitOn]
      split
      · next empty => exact absurd empty (splitOn_ne_nil separator rest)
      · next piece pieces found =>
          rw [found] at ih
          by_cases same : c = separator
          · subst same
            rw [if_pos rfl, intercalate, ih]
            · rfl
            · simp
          · rw [if_neg same, ← ih]
            cases pieces <;> simp [intercalate]

end DeviceLogin.Text
