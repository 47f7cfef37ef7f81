import Mathlib.Data.List.DropRight
import DeviceLogin.Url.Reader

set_option autoImplicit false

namespace DeviceLogin.Url

def Solid (special : Bool) (text : List Char) : Prop := ∃ c, text.getLast? = some c ∧ isSlash special c = false

-- A name that stands in a path as it is.
structure Ordinary (name : List Char) : Prop where
  filled : name ≠ []
  whole : ∀ c ∈ name, isSlash true c = false
  kept : ∀ c ∈ name, encodesInPath c = false
  apart : isParent name = false ∧ isHere name = false ∧ isDrive name = false

def Beneath (slashes : Nat) (name path below : List Char) : Prop :=
  ∃ front more, path = front ++ List.replicate more '/' ∧ below = front ++ '/' :: name ∧
    (max 1 slashes ≤ more ∨ front.getLast? ≠ some '/')

def joined (names : List (List Char)) : List Char := names.flatMap fun name => '/' :: name

theorem joined_append (names more : List (List Char)) : joined (names ++ more) = joined names ++ joined more :=
  List.flatMap_append

theorem joined_one (name : List Char) : joined [name] = '/' :: name := by simp [joined]

theorem joined_empty (count : Nat) : joined (List.replicate count []) = List.replicate count '/' := by
  induction count with
  | zero => rfl
  | succ count ih => exact congrArg ('/' :: ·) ih

theorem ends_whole (front last : List Char) (filled : last ≠ []) (whole : '/' ∉ last) :
    (front ++ last).getLast? ≠ some '/' := by
  intro same
  rw [List.getLast?_append_of_ne_nil front filled] at same
  exact whole (List.mem_of_getLast? same)

theorem slash_apart (special : Bool) (c : Char) (plain : isSlash special c = false) : c ≠ '/' := by
  rintro rfl
  simp [isSlash] at plain

theorem Ordinary.undivided {name : List Char} (ordinary : Ordinary name) (special : Bool) :
    ∀ c ∈ name, isSlash special c = false := by
  intro c member
  have plain := ordinary.whole c member
  simp only [isSlash, Bool.true_and, Bool.or_eq_false_iff] at plain ⊢
  simp [plain]

theorem Solid.of_append {special : Bool} {first rest : List Char} (solid : Solid special (first ++ rest))
    (filled : rest ≠ []) : Solid special rest := by
  obtain ⟨c, last, plain⟩ := solid
  exact ⟨c, by rwa [List.getLast?_append_of_ne_nil first filled] at last, plain⟩

theorem Solid.behind {special : Bool} (first : List Char) {rest : List Char} {c : Char}
    (solid : Solid special (first ++ c :: rest)) (slash : isSlash special c = true) : Solid special rest := by
  have filled : rest ≠ [] := by
    rintro rfl
    obtain ⟨last, final, plain⟩ := solid
    rw [List.getLast?_concat] at final
    rw [Option.some.inj final, plain] at slash
    cases slash
  rw [List.append_cons] at solid
  exact solid.of_append filled

section Names

variable (special : Bool)

theorem split_names_eq (text : List Char) : splitNames special text = text.splitOnP (isSlash special) := by
  induction text with
  | nil => exact List.splitOnP_nil.symm
  | cons c rest ih =>
      obtain ⟨first, later, split⟩ := List.exists_cons_of_ne_nil (List.splitOnP_ne_nil (isSlash special) rest)
      rw [splitNames, ih, List.splitOnP_cons_eq_if_modifyHead, split]
      rfl

theorem names_around (text rest : List Char) (c : Char) (slash : isSlash special c = true) :
    splitNames special (text ++ c :: rest) = splitNames special text ++ splitNames special rest := by
  simp only [split_names_eq, List.splitOnP_append_cons _ _ slash]

theorem names_plain (text : List Char) (plain : ∀ c ∈ text, isSlash special c = false) :
    splitNames special text = [text] := by
  rw [split_names_eq, List.splitOnP_eq_singleton plain]

theorem names_slashes (text : List Char) (count : Nat) :
    splitNames special (text ++ List.replicate count '/') = splitNames special text ++ List.replicate count [] := by
  induction count with
  | zero => simp
  | succ count ih =>
      rw [List.replicate_succ', ← List.append_assoc, names_around special _ [] '/' rfl, ih, List.append_assoc,
        List.replicate_succ']
      rfl

theorem last_name (text : List Char) (solid : Solid special text) :
    ∃ before last, splitNames special text = before ++ [last] ∧ last ≠ [] ∧ '/' ∉ last := by
  obtain ⟨c, ends, plain⟩ := solid
  obtain ⟨begun, rfl⟩ := List.getLast?_eq_some_iff.mp ends
  -- The last name is what stands behind the last slash, if there is one.
  let isPlain : Char → Bool := fun c => !isSlash special c
  let last := begun.rtakeWhile isPlain ++ [c]
  have parts : begun ++ [c] = begun.rdropWhile isPlain ++ last := by
    rw [← List.append_assoc, List.rdropWhile_append_rtakeWhile]
  have unbroken : ∀ d ∈ last, isSlash special d = false := by
    intro d member
    rcases List.mem_append.mp member with inside | final
    · simpa [isPlain] using List.mem_rtakeWhile_imp inside
    · rw [List.mem_singleton.mp final]
      exact plain
  have whole : '/' ∉ last := fun member => slash_apart special '/' (unbroken '/' member) rfl
  rcases List.eq_nil_or_concat (begun.rdropWhile isPlain) with empty | ⟨front, slash, split⟩
  · refine ⟨[], last, ?_, by simp [last], whole⟩
    rw [parts, empty, List.nil_append, names_plain special last unbroken]
    rfl
  · rw [List.concat_eq_append] at split
    have filled : begun.rdropWhile isPlain ≠ [] := by simp [split]
    have separates : isSlash special slash = true := by
      have stop := List.rdropWhile_last_not isPlain begun filled
      simpa [isPlain, split] using stop
    refine ⟨splitNames special front, last, ?_, by simp [last], whole⟩
    rw [parts, split, List.append_assoc]
    exact (names_around special front last slash separates).trans (by rw [names_plain special last unbroken])

end Names

section Encoding

variable (encodes : Char → Bool)

theorem digit_no_slash : ∀ value < 16, Text.hexDigitUpper value ≠ '/' := by decide

theorem escape_no_slash (byte : UInt8) : '/' ∉ escapeByte byte := by
  have high := digit_no_slash (byte.toNat / 16) (by have := byte.toNat_lt; omega)
  have low := digit_no_slash (byte.toNat % 16) (by omega)
  simp [escapeByte, Ne.symm high, Ne.symm low]

theorem encoded_append (text rest : List Char) :
    percentEncode encodes (text ++ rest) = percentEncode encodes text ++ percentEncode encodes rest :=
  List.flatMap_append

theorem encoded_same (text : List Char) (kept : ∀ c ∈ text, encodes c = false) : percentEncode encodes text = text := by
  induction text with
  | nil => rfl
  | cons c rest ih =>
      have here : percentEncode encodes [c] = [c] := by simp [percentEncode, kept c List.mem_cons_self]
      have there := ih fun c member => kept c (List.mem_cons_of_mem _ member)
      rw [← List.singleton_append, encoded_append, here, there]

theorem encoded_no_slash (text : List Char) (plain : '/' ∉ text) : '/' ∉ percentEncode encodes text := by
  intro member
  obtain ⟨c, known, spelled⟩ := List.mem_flatMap.mp member
  split at spelled
  · obtain ⟨byte, -, found⟩ := List.mem_flatMap.mp spelled
    exact escape_no_slash byte found
  · exact plain (List.mem_singleton.mp spelled ▸ known)

theorem encoded_filled (text : List Char) (filled : text ≠ []) : percentEncode encodes text ≠ [] := by
  obtain ⟨c, rest, rfl⟩ := List.exists_cons_of_ne_nil filled
  obtain ⟨byte, bytes, spelled⟩ := List.exists_cons_of_ne_nil (String.utf8EncodeChar_ne_nil (c := c))
  by_cases encoded : encodes c = true <;> simp [percentEncode, encoded, spelled, escapeByte]

theorem kept_unlocated (c : Char) (kept : encodesInPath c = false) : encodesInOpaque c = false := by
  simp only [encodesInPath, encodesInQuery, Bool.or_eq_false_iff] at kept
  exact kept.1.1

end Encoding

section Resolving

variable (scheme : String)

def onward (names : List (List Char)) (name : List Char) : List (List Char) :=
  if isParent name then leave (scheme == "file") names
  else if isHere name then names
  else enter (scheme == "file") names name

theorem resolve_last (names before : List (List Char)) (last : List Char) :
    resolve scheme names (before ++ [last]) = resolve scheme (before.foldl (onward scheme) names) [last] := by
  induction before generalizing names with
  | nil => rfl
  | cons name before ih =>
      obtain ⟨next, rest, more⟩ := List.exists_cons_of_ne_nil (show before ++ [last] ≠ [] by simp)
      rw [List.foldl_cons, ← ih, List.cons_append, more, resolve, onward]
      · split
        · rfl
        · split <;> rfl
      · simp

theorem onward_empty (names : List (List Char)) : onward scheme names [] = names ++ [[]] := by
  simp [onward, isParent, isHere, lowerAscii, enter, isDrive]

theorem onward_slashes (names : List (List Char)) (count : Nat) :
    (List.replicate count []).foldl (onward scheme) names = names ++ List.replicate count [] := by
  induction count generalizing names with
  | zero => simp
  | succ count ih => rw [List.replicate_succ, List.foldl_cons, onward_empty, ih, List.append_assoc, List.singleton_append]

theorem resolve_empty (names : List (List Char)) : resolve scheme names [[]] = names ++ [[]] := by
  simp [resolve, isParent, isHere, lowerAscii, enter, isDrive]

theorem resolve_ordinary (names : List (List Char)) (name : List Char) (ordinary : Ordinary name) :
    resolve scheme names [name] = names ++ [name] := by
  obtain ⟨parent, here, drive⟩ := ordinary.apart
  simp [resolve, enter, parent, here, drive]

theorem resolve_end (names : List (List Char)) (last : List Char) (filled : last ≠ []) (whole : '/' ∉ last) :
    ∃ more, joined (resolve scheme names [last]) = joined (onward scheme names last) ++ List.replicate more '/' ∧
      (1 ≤ more ∨ (joined (onward scheme names last)).getLast? ≠ some '/') := by
  rw [resolve, onward]
  by_cases parent : isParent last = true
  · rw [if_pos parent, if_pos parent]
    split
    · next top =>
        have none : names = [] := by simp_all
        refine ⟨0, ?_, .inr ?_⟩ <;> simp [none, leave, joined]
    · refine ⟨1, ?_, .inl le_rfl⟩
      rw [joined_append, joined_one]
      rfl
  · rw [if_neg parent, if_neg parent]
    by_cases here : isHere last = true
    · rw [if_pos here, if_pos here]
      exact ⟨1, by rw [joined_append, joined_one]; rfl, .inl le_rfl⟩
    · rw [if_neg here, if_neg here]
      refine ⟨0, by simp, .inr ?_⟩
      rw [enter]
      split
      · rw [joined_append, joined_one, List.append_cons]
        refine ends_whole _ _ (by simp) fun member => ?_
        rcases List.mem_append.mp member with inside | mark
        · exact whole (List.mem_of_mem_take inside)
        · cases List.mem_singleton.mp mark
      · rw [joined_append, joined_one, List.append_cons]
        exact ends_whole _ _ filled whole

theorem segments_beneath (text name : List Char) (slashes : Nat) (solid : Solid (isSpecial scheme) text)
    (ordinary : Ordinary name) :
    Beneath slashes name (joined (segments scheme (text ++ List.replicate slashes '/')))
      (joined (segments scheme (text ++ '/' :: name))) := by
  obtain ⟨before, last, names, filled, whole⟩ := last_name (isSpecial scheme) text solid
  let encoded := before.map (percentEncode encodesInPath)
  let final := percentEncode encodesInPath last
  let front := (encoded ++ [final]).foldl (onward scheme) []
  have same : percentEncode encodesInPath name = name := encoded_same _ name ordinary.kept
  have below : segments scheme (text ++ '/' :: name) = front ++ [name] := by
    rw [segments, names_around _ text name '/' rfl, names_plain _ name (ordinary.undivided _), names, List.map_append,
      List.map_append, List.map_singleton, List.map_singleton, same, resolve_last]
    exact resolve_ordinary scheme front name ordinary
  rw [below, joined_append, joined_one, segments, names_slashes, names, List.map_append, List.map_append,
    List.map_singleton, List.map_replicate]
  cases slashes with
  | zero =>
      have onto : front = onward scheme (encoded.foldl (onward scheme) []) final := by
        rw [show front = _ from List.foldl_append]
        rfl
      obtain ⟨more, path, ends⟩ := resolve_end scheme (encoded.foldl (onward scheme) []) final
        (encoded_filled _ last filled) (encoded_no_slash _ last whole)
      rw [← onto] at path ends
      refine ⟨joined front, more, ?_, rfl, ends⟩
      rw [List.replicate_zero, List.append_nil, resolve_last]
      exact path
  | succ count =>
      have slash : percentEncode encodesInPath [] = [] := rfl
      refine ⟨joined front, count + 1, ?_, rfl, .inl (by omega)⟩
      rw [slash, List.replicate_succ', ← List.append_assoc, resolve_last, List.foldl_append, onward_slashes,
        resolve_empty, List.append_assoc, ← List.replicate_succ', joined_append, joined_empty]

theorem segments_slashes (count : Nat) :
    joined (segments scheme (List.replicate count '/')) = List.replicate (count + 1) '/' := by
  have names := names_slashes (isSpecial scheme) [] count
  have slash : percentEncode encodesInPath [] = [] := rfl
  rw [List.nil_append, names_plain _ [] (by simp), List.singleton_append, ← List.replicate_succ] at names
  rw [segments, names, List.map_replicate, slash, List.replicate_succ', resolve_last, onward_slashes, resolve_empty,
    List.nil_append, ← List.replicate_succ', joined_empty]

theorem segments_name (name : List Char) (ordinary : Ordinary name) : joined (segments scheme name) = '/' :: name := by
  rw [segments, names_plain _ name (ordinary.undivided _), List.map_singleton, encoded_same _ name ordinary.kept,
    resolve_ordinary scheme [] name ordinary, List.nil_append, joined_one]

end Resolving

section Slashes

variable (text : List Char) (count : Nat)

theorem without_slashes : (text ++ List.replicate count '/').rdropWhile (· == '/') = text.rdropWhile (· == '/') := by
  induction count with
  | zero => simp
  | succ count ih =>
      rw [List.replicate_succ', ← List.append_assoc, List.rdropWhile_concat_pos (· == '/') _ '/' rfl, ih]

theorem last_slashes : (text ++ List.replicate count '/').rtakeWhile (· == '/') =
    text.rtakeWhile (· == '/') ++ List.replicate count '/' := by
  induction count with
  | zero => simp
  | succ count ih =>
      rw [List.replicate_succ', ← List.append_assoc, List.rtakeWhile_concat_pos (· == '/') _ '/' rfl, ih,
        List.append_assoc]

theorem only_slashes : text.rtakeWhile (· == '/') = List.replicate (text.rtakeWhile (· == '/')).length '/' :=
  List.eq_replicate_iff.mpr ⟨rfl, fun c member => by simpa using List.mem_rtakeWhile_imp member⟩

end Slashes

theorem Beneath.path {slashes : Nat} {name path below : List Char} (beneath : Beneath slashes name path below)
    (few : (path.rtakeWhile (· == '/')).length ≤ max 1 slashes) :
    below = path.rdropWhile (· == '/') ++ '/' :: name := by
  obtain ⟨front, more, rfl, rfl, ends⟩ := beneath
  rw [last_slashes, List.length_append, List.length_replicate] at few
  have same : front.rdropWhile (· == '/') = front := by
    rcases ends with enough | apart
    · have none : front.rtakeWhile (· == '/') = [] := List.length_eq_zero_iff.mp (by omega)
      have whole := List.rdropWhile_append_rtakeWhile (p := (· == '/')) (l := front)
      rwa [none, List.append_nil] at whole
    · refine List.rdropWhile_eq_self_iff.mpr fun filled slash => apart ?_
      rw [List.getLast?_eq_some_getLast filled, beq_iff_eq.mp slash]
  rw [without_slashes, same]

end DeviceLogin.Url
