import DeviceLogin.Proofs.Url.Below
import DeviceLogin.Text.Blank

set_option autoImplicit false

namespace DeviceLogin.Url

def unbroken (text : List Char) : List Char := text.filter fun c => !oneOf [0x09, 0x0A, 0x0D] c

theorem unbroken_append (first rest : List Char) : unbroken (first ++ rest) = unbroken first ++ unbroken rest :=
  List.filter_append ..

theorem broken_edge (c : Char) (broken : oneOf [0x09, 0x0A, 0x0D] c = true) : isEdge c = true := by
  simp only [oneOf, List.contains_eq_mem, List.mem_cons, List.not_mem_nil, or_false, decide_eq_true_eq] at broken
  simp only [isEdge, decide_eq_true_eq]
  omega

theorem unbroken_dropped (text : List Char) : unbroken (text.dropWhile isEdge) = (unbroken text).dropWhile isEdge := by
  induction text with
  | nil => rfl
  | cons c rest ih =>
      by_cases edge : isEdge c = true
      · rw [List.dropWhile_cons_of_pos edge, ih, unbroken, unbroken, List.filter_cons]
        split
        · rw [List.dropWhile_cons_of_pos edge]
        · rfl
      · have kept : oneOf [0x09, 0x0A, 0x0D] c = false := by
          cases broken : oneOf [0x09, 0x0A, 0x0D] c with
          | false => rfl
          | true => exact absurd (broken_edge c broken) edge
        have whole : unbroken (c :: rest) = c :: unbroken rest := by simp [unbroken, kept]
        rw [List.dropWhile_cons_of_neg edge, whole, List.dropWhile_cons_of_neg edge]

theorem edges_dropped (text rest : List Char) (solid : ∀ c ∈ rest.head?, isEdge c = false) :
    (text ++ rest).dropWhile isEdge = text.dropWhile isEdge ++ rest := by
  rw [List.dropWhile_append]
  split
  · next empty =>
      rw [List.isEmpty_iff.mp empty, List.nil_append]
      cases rest with
      | nil => rfl
      | cons c rest => exact List.dropWhile_cons_of_neg (by simp [solid c rfl])
  · rfl

theorem cleaned_eq (text : List Char) : cleaned text = ((unbroken text).dropWhile isEdge).rdropWhile isEdge := by
  have turned (text : List Char) : unbroken text.reverse = (unbroken text).reverse := List.filter_reverse ..
  rw [List.rdropWhile, ← unbroken_dropped, ← turned, ← unbroken_dropped, ← turned]
  rfl

theorem cleaned_solid (text : List Char) (solid : ∀ c ∈ (unbroken text).getLast?, isEdge c = false) :
    cleaned text = (unbroken text).dropWhile isEdge := by
  rw [cleaned_eq]
  rcases List.eq_nil_or_concat (unbroken text) with empty | ⟨begun, c, whole⟩
  · rw [empty]
    rfl
  · rw [List.concat_eq_append] at whole
    have last : isEdge c = false := solid c (by simp [whole])
    rw [whole, edges_dropped begun [c] (by simpa using last), List.rdropWhile_concat_neg]
    simp [last]

theorem unbroken_slashes (count : Nat) : unbroken (List.replicate count '/') = List.replicate count '/' :=
  List.filter_eq_self.mpr fun c member => by rw [List.eq_of_mem_replicate member]; rfl

theorem Ordinary.solid {name : List Char} (ordinary : Ordinary name) (c : Char) (member : c ∈ name) :
    isEdge c = false ∧ oneOf [0x09, 0x0A, 0x0D] c = false := by
  have kept := ordinary.kept c member
  have solid : isEdge c = false := by
    cases edge : isEdge c with
    | false => rfl
    | true =>
        have low : c.toNat ≤ 0x20 := by simpa [isEdge] using edge
        have encoded : encodesInPath c = true := by
          simp only [encodesInPath, encodesInQuery, encodesInOpaque, oneOf, List.contains_eq_mem, List.mem_cons,
            Bool.or_eq_true, decide_eq_true_eq]
          omega
        rw [encoded] at kept
        cases kept
  refine ⟨solid, ?_⟩
  cases broken : oneOf [0x09, 0x0A, 0x0D] c with
  | false => rfl
  | true => rw [broken_edge c broken] at solid; cases solid

theorem Ordinary.unbroken_name {name : List Char} (ordinary : Ordinary name) : unbroken ('/' :: name) = '/' :: name := by
  refine List.filter_eq_self.mpr fun c member => ?_
  rcases List.mem_cons.mp member with rfl | inside
  · rfl
  · simp [(ordinary.solid c inside).2]

theorem split_scheme (name rest : List Char) (first : Char) (letter : first.isAlpha = true)
    (spelled : ∀ c ∈ first :: name, isSchemeChar c = true) :
    splitScheme? ((first :: name) ++ ':' :: rest) = some (String.ofList ((first :: name).map Char.toLower), rest) := by
  have ends : isSchemeChar ':' = false := by decide
  have front : ((first :: name) ++ ':' :: rest).takeWhile isSchemeChar = first :: name := by
    rw [List.takeWhile_append_of_pos spelled, List.takeWhile_cons_of_neg (by simp [ends]), List.append_nil]
  simp only [splitScheme?, front, List.drop_left, letter, if_true]

theorem scheme_split (text rest : List Char) (scheme : String) (split : splitScheme? text = some (scheme, rest)) :
    ∃ first name, text = (first :: name) ++ ':' :: rest ∧ first.isAlpha = true ∧
      (∀ c ∈ first :: name, isSchemeChar c = true) ∧ scheme = String.ofList ((first :: name).map Char.toLower) := by
  have front : text.take (text.takeWhile isSchemeChar).length = text.takeWhile isSchemeChar :=
    (List.prefix_iff_eq_take.mp (List.takeWhile_prefix _)).symm
  have whole := List.take_append_drop (text.takeWhile isSchemeChar).length text
  have spelled : ∀ c ∈ text.takeWhile isSchemeChar, isSchemeChar c = true := fun c member => List.mem_takeWhile_imp member
  simp only [splitScheme?] at split
  split at split
  · next first name more named behind =>
      split at split
      · next letter =>
          cases split
          rw [front, behind, named] at whole
          rw [named] at spelled
          exact ⟨first, name, whole.symm, letter, spelled, by rw [named]⟩
      · cases split
  · cases split

theorem read_eq (source : String) :
    read? source = (splitScheme? (cleaned source.toList)).bind fun parts => behindScheme? parts.1 parts.2 := rfl

theorem location_scheme (scheme : String) (text : List Char) (url : Url) (read : location? scheme text = some url) :
    url.scheme = scheme := by
  simp only [location?] at read
  split at read
  · cases read
  · split at read <;>
    · obtain ⟨host, -, more⟩ := Option.bind_eq_some_iff.mp read
      obtain ⟨port, -, made⟩ := Option.bind_eq_some_iff.mp more
      rw [← Option.some.inj made]

theorem located_scheme (scheme : String) (text : List Char) (url : Url) (read : located? scheme text = some url) :
    url.scheme = scheme := by
  obtain ⟨place, found, made⟩ := Option.bind_eq_some_iff.mp read
  rw [← location_scheme scheme _ place found, ← Option.some.inj made]
  rfl

theorem remote_scheme (text : List Char) (url : Url) (read : remoteFile? text = some url) : url.scheme = "file" := by
  simp only [remoteFile?] at read
  split at read
  · rw [← Option.some.inj read]
    rfl
  · split at read <;>
    · obtain ⟨host, -, made⟩ := Option.bind_eq_some_iff.mp read
      rw [← Option.some.inj made]
      rfl

theorem file_scheme (text : List Char) (url : Url) (read : file? text = some url) : url.scheme = "file" := by
  simp only [file?] at read
  repeat' split at read
  all_goals first | exact remote_scheme _ url read | (rw [← Option.some.inj read]; rfl)

theorem behind_scheme_scheme (scheme : String) (rest : List Char) (url : Url)
    (read : behindScheme? scheme rest = some url) : url.scheme = scheme := by
  rw [behindScheme?] at read
  split at read
  · next file => rw [file_scheme rest url read, beq_iff_eq.mp file]
  · split at read
    · exact located_scheme scheme _ url read
    · rw [generic?.eq_def] at read
      split at read
      · exact located_scheme scheme _ url read
      · rw [← Option.some.inj read]
        rfl
      · rw [← Option.some.inj read]
        rfl

theorem letter_no_space (c : Char) (letter : c.isAlpha = true) : Text.isSpace c = false := by
  have range : (0x41 ≤ c.toNat ∧ c.toNat ≤ 0x5A) ∨ (0x61 ≤ c.toNat ∧ c.toNat ≤ 0x7A) := by
    change (decide (0x41 ≤ c.val ∧ c.val ≤ 0x5A) || decide (0x61 ≤ c.val) && decide (c.val ≤ 0x7A)) = true at letter
    simpa [UInt32.le_iff_toNat_le, ← Char.toNat_val] using letter
  simp only [Text.isSpace, Bool.or_eq_false_iff, Bool.and_eq_false_iff, decide_eq_false_iff_not, beq_eq_false_iff_ne]
  omega

theorem readable_filled (source : String) (url : Url) (read : read? source = some url) : Text.isBlank source = false := by
  rw [read_eq] at read
  obtain ⟨⟨scheme, rest⟩, split, -⟩ := Option.bind_eq_some_iff.mp read
  obtain ⟨first, name, whole, letter, -⟩ := scheme_split _ _ _ split
  have member : first ∈ source.toList := by
    have within : first ∈ cleaned source.toList := by rw [whole]; exact List.mem_cons_self
    rw [cleaned_eq] at within
    have dropped := (List.dropWhile_suffix _).subset ((List.rdropWhile_prefix _ _).subset within)
    exact (List.mem_filter.mp dropped).1
  cases blank : Text.isBlank source with
  | false => rfl
  | true =>
      have space := List.all_eq_true.mp blank first member
      rw [letter_no_space first letter] at space
      cases space

theorem slashes_behind (text front rest : List Char) (count : Nat)
    (same : text ++ List.replicate count '/' = front ++ ':' :: rest) :
    ∃ behind, text = front ++ ':' :: behind ∧ rest = behind ++ List.replicate count '/' := by
  rcases List.append_eq_append_iff.mp same with ⟨more, -, slashes⟩ | ⟨more, whole, slashes⟩
  · have mark : ':' ∈ List.replicate count '/' := by simp [slashes]
    cases List.eq_of_mem_replicate mark
  · rcases more with _ | ⟨c, behind⟩
    · have mark : ':' ∈ List.replicate count '/' := by rw [← List.nil_append (List.replicate count '/'), ← slashes]; simp
      cases List.eq_of_mem_replicate mark
    · obtain ⟨rfl, rest⟩ := List.cons.inj slashes
      exact ⟨behind, whole, rest⟩

def Hostless (special : Bool) (text : List Char) : Prop :=
  ∃ scheme one two, text = scheme ++ [':', one, two] ∧ ':' ∉ scheme ∧ isSlash special one = true ∧
    isSlash special two = true

theorem read_below (base name : List Char) (slashes : Nat) (device : Url)
    (read : read? (String.ofList (base ++ List.replicate slashes '/')) = some device) (tailless : Tailless base)
    (trimmed : ∀ c ∈ (unbroken (base ++ List.replicate slashes '/')).getLast?, isEdge c = false)
    (ended : (∀ c ∈ (unbroken base).getLast?, isSlash (isSpecial device.scheme) c = false) ∨
      Hostless (isSpecial device.scheme) (unbroken base)) (ordinary : Ordinary name) :
    ∃ below, read? (String.ofList (base ++ '/' :: name)) = some below ∧ Below slashes name device below := by
  have slash : ∀ c ∈ (List.replicate slashes '/').head?, isEdge c = false := by
    intro c first
    rw [List.eq_of_mem_replicate (List.mem_of_mem_head? first)]
    rfl
  rw [read_eq, String.toList_ofList, cleaned_solid _ trimmed, unbroken_append, unbroken_slashes,
    edges_dropped _ _ slash] at read
  obtain ⟨⟨scheme, rest⟩, split, behind⟩ := Option.bind_eq_some_iff.mp read
  obtain ⟨first, letters, whole, letter, spelled, rfl⟩ := scheme_split _ _ _ split
  obtain ⟨text, start, rfl⟩ := slashes_behind _ _ _ _ whole
  have inside : unbroken base = ((unbroken base).takeWhile isEdge ++ (first :: letters)) ++ ':' :: text := by
    rw [List.append_assoc, ← start, List.takeWhile_append_dropWhile]
  have same : device.scheme = String.ofList ((first :: letters).map Char.toLower) := behind_scheme_scheme _ _ device behind
  have opens : Opens (isSpecial (String.ofList ((first :: letters).map Char.toLower))) text := by
    rw [← same]
    rcases ended with solid | ⟨front, one, two, hostless, colon, slash, another⟩
    · rcases List.eq_nil_or_concat text with empty | ⟨begun, c, filled⟩
      · exact .inl empty
      · rw [List.concat_eq_append] at filled
        have last : text.getLast? = some c := by rw [filled, List.getLast?_concat]
        refine .inr (.inr ⟨c, last, solid c ?_⟩)
        rw [inside, List.append_cons, List.getLast?_append_of_ne_nil _ (by simp [filled])]
        exact last
    · have apart : ':' ∉ [one, two] := by
        have mark (special : Bool) : isSlash special ':' = false := by cases special <;> rfl
        intro member
        have either : ':' = one ∨ ':' = two := by simpa using member
        rcases either with rfl | rfl
        · exact absurd slash (by simp [mark])
        · exact absurd another (by simp [mark])
      obtain ⟨-, -, rfl⟩ := (List.append_cons_inj_of_notMem colon apart).mp (hostless.symm.trans inside)
      exact .inr (.inl ⟨one, two, rfl, slash, another⟩)
  have kept : ∀ c ∈ text, c ∈ base := by
    intro c member
    have known : c ∈ unbroken base := by
      rw [inside]
      exact List.mem_append_right _ (List.mem_cons_of_mem _ member)
    exact (List.mem_filter.mp known).1
  have marks : Tailless text := ⟨fun mark => tailless.1 (kept _ mark), fun mark => tailless.2 (kept _ mark)⟩
  obtain ⟨below, found, lies⟩ := behind_scheme_below _ slashes text device opens marks ordinary behind
  have final : ∀ c ∈ (unbroken (base ++ '/' :: name)).getLast?, isEdge c = false := by
    intro c last
    rw [unbroken_append, ordinary.unbroken_name, List.append_cons, List.getLast?_append_of_ne_nil _ ordinary.filled] at last
    exact (ordinary.solid c (List.mem_of_getLast? last)).1
  have apart : ∀ c ∈ ('/' :: name).head?, isEdge c = false := by
    intro c first
    cases first
    rfl
  have whole : (first :: letters) ++ ':' :: text ++ '/' :: name = (first :: letters) ++ ':' :: (text ++ '/' :: name) := by
    simp
  refine ⟨below, ?_, lies⟩
  rw [read_eq, String.toList_ofList, cleaned_solid _ final, unbroken_append, ordinary.unbroken_name,
    edges_dropped _ _ apart, start, whole, split_scheme _ _ first letter spelled]
  exact found

end DeviceLogin.Url
