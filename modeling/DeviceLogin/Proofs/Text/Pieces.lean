import Mathlib.Data.List.DropRight
import DeviceLogin.Text.Blank
import DeviceLogin.Text.Split

set_option autoImplicit false

namespace DeviceLogin.Text

def EndsAt (separator : Char) (after : List Char) : Prop := after = [] ∨ ∃ rest, after = separator :: rest

theorem split_plain (separator : Char) (text : List Char) (plain : separator ∉ text) : splitOn separator text = [text] := by
  induction text with
  | nil => rfl
  | cons c rest ih =>
      simp only [List.mem_cons, not_or] at plain
      rw [splitOn, ih plain.2]
      exact if_neg (Ne.symm plain.1)

theorem split_cons (separator c : Char) (rest first : List Char) (later : List (List Char))
    (split : splitOn separator rest = first :: later) :
    splitOn separator (c :: rest) = if c = separator then [] :: first :: later else (c :: first) :: later := by
  rw [splitOn, split]

theorem split_append (separator : Char) (text rest : List Char) :
    splitOn separator (text ++ separator :: rest) = splitOn separator text ++ splitOn separator rest := by
  induction text with
  | nil =>
      obtain ⟨first, later, split⟩ := List.exists_cons_of_ne_nil (splitOn_ne_nil separator rest)
      rw [List.nil_append, split_cons separator separator rest first later split, if_pos rfl, split]
      rfl
  | cons c text ih =>
      obtain ⟨first, later, split⟩ := List.exists_cons_of_ne_nil (splitOn_ne_nil separator text)
      rw [split] at ih
      rw [List.cons_append, split_cons separator c _ _ _ ih, split_cons separator c _ _ _ split]
      by_cases same : c = separator
      · rw [if_pos same, if_pos same]
        rfl
      · rw [if_neg same, if_neg same]
        rfl

theorem split_first (separator : Char) (first rest : List Char) (plain : separator ∉ first) :
    splitOn separator (first ++ separator :: rest) = first :: splitOn separator rest := by
  rw [split_append, split_plain separator first plain]
  rfl

theorem piece_unbroken (separator : Char) (text piece : List Char) (member : piece ∈ splitOn separator text) :
    separator ∉ piece := by
  induction text generalizing piece with
  | nil =>
      rw [List.mem_singleton.mp member]
      exact List.not_mem_nil
  | cons c rest ih =>
      obtain ⟨first, later, split⟩ := List.exists_cons_of_ne_nil (splitOn_ne_nil separator rest)
      rw [split_cons separator c rest first later split] at member
      rw [split] at ih
      by_cases same : c = separator
      · rw [if_pos same] at member
        rcases List.mem_cons.mp member with rfl | known
        · exact List.not_mem_nil
        · exact ih piece known
      · rw [if_neg same] at member
        rcases List.mem_cons.mp member with rfl | known
        · simpa [Ne.symm same] using ih first List.mem_cons_self
        · exact ih piece (List.mem_cons_of_mem _ known)

theorem first_piece (separator : Char) (text first : List Char) (later : List (List Char))
    (split : splitOn separator text = first :: later) : ∃ after, text = first ++ after ∧ EndsAt separator after := by
  have whole := intercalate_splitOn separator text
  rw [split] at whole
  cases later with
  | nil => exact ⟨[], by rw [← whole, intercalate, List.append_nil], .inl rfl⟩
  | cons second rest => exact ⟨separator :: intercalate [separator] (second :: rest), by simp [← whole, intercalate], .inr ⟨_, rfl⟩⟩

theorem later_piece_iff (separator : Char) (text piece : List Char) :
    piece ∈ (splitOn separator text).drop 1 ↔
      separator ∉ piece ∧ ∃ before after, text = before ++ separator :: (piece ++ after) ∧ EndsAt separator after := by
  constructor
  · intro member
    refine ⟨piece_unbroken separator text piece (List.mem_of_mem_drop member), ?_⟩
    induction text with
    | nil => simp [splitOn] at member
    | cons c rest ih =>
        obtain ⟨first, later, split⟩ := List.exists_cons_of_ne_nil (splitOn_ne_nil separator rest)
        rw [split_cons separator c rest first later split] at member
        rw [split] at ih
        have further (known : piece ∈ later) :
            ∃ before after, c :: rest = before ++ separator :: (piece ++ after) ∧ EndsAt separator after := by
          obtain ⟨before, after, text, ends⟩ := ih known
          exact ⟨c :: before, after, by rw [text, List.cons_append], ends⟩
        by_cases same : c = separator
        · rw [if_pos same, List.drop_one, List.tail_cons] at member
          rcases List.mem_cons.mp member with rfl | known
          · obtain ⟨after, text, ends⟩ := first_piece separator rest piece later split
            exact ⟨[], after, by rw [same, text, List.nil_append], ends⟩
          · exact further known
        · rw [if_neg same, List.drop_one, List.tail_cons] at member
          exact further member
  · rintro ⟨plain, before, after, rfl, ends⟩
    have here : piece ∈ splitOn separator (piece ++ after) := by
      rcases ends with rfl | ⟨rest, rfl⟩
      · rw [List.append_nil, split_plain separator piece plain]
        exact List.mem_singleton_self piece
      · rw [split_first separator piece rest plain]
        exact List.mem_cons_self
    obtain ⟨first, later, split⟩ := List.exists_cons_of_ne_nil (splitOn_ne_nil separator before)
    rw [split_append, split, List.cons_append, List.drop_one, List.tail_cons]
    exact List.mem_append_right _ here

theorem trim_parts (text : List Char) :
    ∃ blanks trailing, text = blanks ++ (trimEnd (trimStart text) ++ trailing) ∧ blanks.all isSpace = true ∧
      trailing.all isSpace = true := by
  refine ⟨text.takeWhile isSpace, (trimStart text).rtakeWhile isSpace, ?_, List.all_takeWhile, ?_⟩
  · have ending : trimEnd (trimStart text) ++ (trimStart text).rtakeWhile isSpace = trimStart text :=
      List.rdropWhile_append_rtakeWhile
    rw [ending]
    exact List.takeWhile_append_dropWhile.symm
  · exact List.all_eq_true.mpr fun c member => List.mem_rtakeWhile_imp member

theorem trim_start_blanks (blanks text : List Char) (blank : blanks.all isSpace = true)
    (solid : ∀ c ∈ text.head?, isSpace c = false) : trimStart (blanks ++ text) = text := by
  rw [trimStart, List.dropWhile_append_of_pos (List.all_eq_true.mp blank)]
  cases text with
  | nil => rfl
  | cons c rest => rw [List.dropWhile_cons_of_neg (by simp [solid c rfl])]

theorem trim_around (blanks word trailing : List Char) (before : blanks.all isSpace = true)
    (after : trailing.all isSpace = true) (solid : ∀ c ∈ word, isSpace c = false) (filled : word ≠ []) :
    trimEnd (trimStart (blanks ++ (word ++ trailing))) = word := by
  have start : ∀ c ∈ (word ++ trailing).head?, isSpace c = false := by
    intro c first
    rw [List.head?_append_of_ne_nil word filled] at first
    exact solid c (List.mem_of_mem_head? first)
  have last : ∀ c ∈ word.reverse.head?, isSpace c = false :=
    fun c first => solid c (List.mem_reverse.mp (List.mem_of_mem_head? first))
  have turned := trim_start_blanks trailing.reverse word.reverse (by simpa using after) last
  rw [trim_start_blanks blanks _ before start, trimEnd, List.reverse_append]
  rw [trimStart] at turned
  rw [turned, List.reverse_reverse]

end DeviceLogin.Text
