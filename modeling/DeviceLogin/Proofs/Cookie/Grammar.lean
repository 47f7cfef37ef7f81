import DeviceLogin.Cookie.Basic
import DeviceLogin.Proofs.Text.Pieces

set_option autoImplicit false

namespace DeviceLogin.Cookie

-- Blanks, the name, an equals sign, and the value up to the first semicolon or the end. The name is not empty
-- and free of equals signs, semicolons and white space.
structure Spells (setting name value : String) : Prop where
  named : name.toList.all isNameChar = true
  filled : name ≠ ""
  plain : ';' ∉ value.toList
  text : ∃ blanks attributes, setting.toList = blanks ++ (name.toList ++ '=' :: (value.toList ++ attributes)) ∧
    blanks.all Text.isSpace = true ∧ Text.EndsAt ';' attributes

def Expires (setting : String) : Prop :=
  ∃ before blanks word trailing after,
    setting.toList = before ++ ';' :: (blanks ++ (word ++ trailing) ++ after) ∧ blanks.all Text.isSpace = true ∧
      word.map Char.toLower = "max-age=0".toList ∧ trailing.all Text.isSpace = true ∧ Text.EndsAt ';' after

theorem solid_name (c : Char) (named : isNameChar c = true) : Text.isSpace c = false := by
  simp only [isNameChar, Bool.and_eq_true] at named
  simpa using named.2

theorem read_of_spells (setting name value : String) (spells : Spells setting name value) :
    read? setting = some ⟨name, value⟩ := by
  obtain ⟨named, filled, plain, blanks, attributes, text, blank, ends⟩ := spells
  obtain ⟨first, more, chars⟩ : ∃ first more, name.toList = first :: more :=
    List.exists_cons_of_ne_nil fun empty => filled (String.toList_eq_nil_iff.mp empty)
  have start : Text.trimStart setting.toList = name.toList ++ '=' :: (value.toList ++ attributes) := by
    rw [text]
    refine Text.trim_start_blanks blanks _ blank fun c head => ?_
    rw [chars, List.cons_append, List.head?_cons, Option.mem_some_iff] at head
    rw [chars, head, List.all_cons, Bool.and_eq_true] at named
    exact solid_name c named.1
  have whole : (name.toList ++ '=' :: (value.toList ++ attributes)).takeWhile isNameChar = name.toList := by
    rw [List.takeWhile_append_of_pos (List.all_eq_true.mp named)]
    simp [isNameChar]
  have after : (value.toList ++ attributes).takeWhile (· != ';') = value.toList := by
    have inside : ∀ c ∈ value.toList, (c != ';') = true := by
      intro c member
      rw [bne_iff_ne]
      rintro rfl
      exact plain member
    rw [List.takeWhile_append_of_pos inside]
    rcases ends with rfl | ⟨rest, rfl⟩ <;> simp
  have same : String.ofList name.toList = name := String.ofList_toList
  unfold read?
  simp only [start, whole, List.drop_left]
  rw [chars] at same ⊢
  simp only [after, same, String.ofList_toList]

theorem spells_of_read (setting name value : String) (read : read? setting = some ⟨name, value⟩) :
    Spells setting name value := by
  have named : ((Text.trimStart setting.toList).takeWhile isNameChar).all isNameChar = true := List.all_takeWhile
  have body := List.prefix_iff_eq_append.mp (List.takeWhile_prefix isNameChar (l := Text.trimStart setting.toList))
  have start : setting.toList = setting.toList.takeWhile Text.isSpace ++ Text.trimStart setting.toList :=
    List.takeWhile_append_dropWhile.symm
  unfold read? at read
  dsimp only at read
  split at read
  · next first more rest here there =>
    cases read
    have tail : rest = rest.takeWhile (· != ';') ++ rest.dropWhile (· != ';') := List.takeWhile_append_dropWhile.symm
    rw [there] at body
    refine ⟨by rwa [String.toList_ofList], by simp [here], ?_, setting.toList.takeWhile Text.isSpace,
      rest.dropWhile (· != ';'), ?_, List.all_takeWhile, ?_⟩
    · rw [String.toList_ofList]
      exact fun member => absurd (List.all_eq_true.mp List.all_takeWhile _ member) (by decide)
    · rw [String.toList_ofList, String.toList_ofList, ← tail, body]
      exact start
    · cases ended : rest.dropWhile (· != ';') with
      | nil => exact .inl rfl
      | cons c more =>
          have stop := List.head?_dropWhile_not (· != ';') rest
          rw [ended] at stop
          exact .inr ⟨more, by simpa using stop⟩
  · cases read

theorem space_lower (c : Char) (space : Text.isSpace c = true) : c.toLower = c := by
  refine dif_neg fun upper => ?_
  have least : 65 ≤ c.toNat := upper.1
  have most : c.toNat ≤ 90 := upper.2
  simp only [Text.isSpace, Bool.or_eq_true, Bool.and_eq_true, decide_eq_true_eq, beq_iff_eq] at space
  omega

theorem age_word_solid (word : List Char) (lowered : word.map Char.toLower = "max-age=0".toList) :
    (∀ c ∈ word, Text.isSpace c = false) ∧ ';' ∉ word := by
  have letters (c : Char) (member : c ∈ word) : c.toLower ∈ "max-age=0".toList :=
    lowered ▸ List.mem_map_of_mem member
  have solid : "max-age=0".toList.all (fun c => !Text.isSpace c) = true := by decide
  constructor
  · intro c member
    cases space : Text.isSpace c with
    | false => rfl
    | true =>
        have known := letters c member
        rw [space_lower c space] at known
        have unblank := List.all_eq_true.mp solid c known
        rw [space] at unblank
        exact nomatch unblank
  · exact fun member => absurd (letters ';' member) (by decide)

theorem age_zero_iff (part : List Char) :
    isAgeZero part = true ↔
      ∃ blanks word trailing, part = blanks ++ (word ++ trailing) ∧ blanks.all Text.isSpace = true ∧
        word.map Char.toLower = "max-age=0".toList ∧ trailing.all Text.isSpace = true := by
  rw [isAgeZero, beq_iff_eq]
  constructor
  · intro lowered
    obtain ⟨blanks, trailing, text, before, after⟩ := Text.trim_parts part
    exact ⟨blanks, _, trailing, text, before, lowered, after⟩
  · rintro ⟨blanks, word, trailing, rfl, before, lowered, after⟩
    have filled : word ≠ [] := by
      rintro rfl
      cases lowered
    rw [Text.trim_around blanks word trailing before after (age_word_solid word lowered).1 filled]
    exact lowered

theorem expires_iff (setting : String) : expires setting = true ↔ Expires setting := by
  rw [expires, List.any_eq_true]
  constructor
  · rintro ⟨part, later, zero⟩
    obtain ⟨-, before, after, text, ends⟩ := (Text.later_piece_iff ';' setting.toList part).mp later
    obtain ⟨blanks, word, trailing, rfl, front, lowered, back⟩ := (age_zero_iff part).mp zero
    exact ⟨before, blanks, word, trailing, after, text, front, lowered, back, ends⟩
  · rintro ⟨before, blanks, word, trailing, after, text, front, lowered, back, ends⟩
    have spaces (some : List Char) (blank : some.all Text.isSpace = true) : ';' ∉ some :=
      fun member => absurd (List.all_eq_true.mp blank ';' member) (by decide)
    have plain : ';' ∉ blanks ++ (word ++ trailing) := by
      simp [spaces blanks front, spaces trailing back, (age_word_solid word lowered).2]
    refine ⟨_, (Text.later_piece_iff ';' setting.toList _).mpr ⟨plain, before, after, text, ends⟩, ?_⟩
    exact (age_zero_iff _).mpr ⟨blanks, word, trailing, rfl, front, lowered, back⟩

end DeviceLogin.Cookie
