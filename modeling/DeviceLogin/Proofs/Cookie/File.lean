import Mathlib.Data.List.DropRight
import DeviceLogin.Cookie.Jar
import DeviceLogin.Proofs.Json.Quoting
import DeviceLogin.Proofs.MemberOrder
import DeviceLogin.Proofs.Shapes

set_option autoImplicit false

namespace DeviceLogin

namespace CookieJar

def lineChars (cookie : String × String) : List Char :=
  ' ' :: ' ' :: (Json.quote cookie.1 ++ ':' :: ' ' :: Json.quote cookie.2)

def listedChars (cookies : Ordered String) : List Char := List.intercalate [',', '\n'] (cookies.map lineChars)

def asTexts (cookies : Ordered String) : List (String × Json) := cookies.map fun cookie => (cookie.1, .str cookie.2)

theorem file_text_empty (cookies : Ordered String) (empty : Ordered.inMemberOrder cookies = []) :
    (fileText cookies).toList = ['\x7b', '\x7d'] := by
  simp [fileText, empty]

theorem file_text_listed (cookies : Ordered String) (held : Ordered.inMemberOrder cookies ≠ []) :
    (fileText cookies).toList =
      '\x7b' :: '\n' :: (listedChars (Ordered.inMemberOrder cookies) ++ ['\n', '\x7d']) := by
  have line (cookie : String × String) : lineChars cookie =
      ("  " ++ String.ofList (Json.quote cookie.1) ++ ": " ++ String.ofList (Json.quote cookie.2)).toList := by
    simp [lineChars]
  cases ordered : Ordered.inMemberOrder cookies with
  | nil => exact absurd ordered held
  | cons first rest =>
      rw [fileText, ordered, listedChars, List.map_congr_left fun cookie _ => line cookie]
      simp only [String.toList_append, String.toList_intercalate, List.map_map, Function.comp_def]
      rfl

theorem line_length (cookie : String × String) :
    cookie.1.toList.length + cookie.2.toList.length + 8 ≤ (lineChars cookie).length := by
  have name := Json.escaped_length cookie.1.toList
  have value := Json.escaped_length cookie.2.toList
  simp only [lineChars, Json.quote, List.length_cons, List.length_append, List.length_nil]
  omega

theorem read_line (cookie : String × String) (fuel : Nat) (tail : List Char)
    (enough : (lineChars cookie).length < fuel) :
    Json.readMembers fuel (lineChars cookie ++ tail) =
      match Json.skipGap tail with
      | '\x7d' :: rest => some ([(cookie.1, .str cookie.2)], rest)
      | ',' :: rest => (Json.readMembers (fuel - 1) rest).map fun (members, rest) => ((cookie.1, .str cookie.2) :: members, rest)
      | _ => none := by
  have long := line_length cookie
  obtain ⟨steps, rfl⟩ : ∃ steps, fuel = steps + 2 := ⟨fuel - 2, by omega⟩
  have name := Json.read_quoted cookie.1 (steps + 1) (':' :: ' ' :: (Json.quote cookie.2 ++ tail)) (by omega)
  have value := Json.read_quoted cookie.2 steps tail (by omega)
  have start : Json.skipGap (lineChars cookie ++ tail) =
      '"' :: (cookie.1.toList.flatMap Json.escapeChar ++ '"' :: ':' :: ' ' :: (Json.quote cookie.2 ++ tail)) := by
    simp [lineChars, Json.quote, Json.skipGap, Json.isGap]
  have colon (rest : List Char) : Json.skipGap (':' :: rest) = ':' :: rest := by simp [Json.skipGap, Json.isGap]
  have gap : Json.skipGap (' ' :: (Json.quote cookie.2 ++ tail)) =
      '"' :: (cookie.2.toList.flatMap Json.escapeChar ++ '"' :: tail) := by
    simp [Json.quote, Json.skipGap, Json.isGap]
  have step := Json.readMembers.eq_def (steps + 2) (lineChars cookie ++ tail)
  simp only [start, name, colon, gap, Json.readValue, value, Option.map_some] at step
  exact step

theorem members_gap (fuel : Nat) (text : List Char) :
    Json.readMembers fuel (Json.skipGap text) = Json.readMembers fuel text := by
  have twice : Json.skipGap (Json.skipGap text) = Json.skipGap text := List.dropWhile_idempotent _ text
  cases fuel with
  | zero => rw [Json.readMembers, Json.readMembers]
  | succ fuel => rw [Json.readMembers, Json.readMembers, twice]

theorem read_listed (first : String × String) (cookies : Ordered String) (fuel : Nat) (rest : List Char)
    (enough : (listedChars (first :: cookies)).length < fuel) :
    Json.readMembers fuel (listedChars (first :: cookies) ++ '\n' :: '\x7d' :: rest) =
      some (asTexts (first :: cookies), rest) := by
  induction cookies generalizing first fuel with
  | nil =>
      have single : listedChars [first] = lineChars first := by simp [listedChars]
      rw [single] at enough ⊢
      rw [read_line first fuel _ enough]
      simp [Json.skipGap, Json.isGap, asTexts]
  | cons second cookies ih =>
      have split : listedChars (first :: second :: cookies) =
          lineChars first ++ ',' :: '\n' :: listedChars (second :: cookies) := by
        simp [listedChars, List.intercalate_cons_cons]
      rw [split, List.length_append] at enough
      simp only [List.length_cons] at enough
      have comma (after : List Char) : Json.skipGap (',' :: after) = ',' :: after := by simp [Json.skipGap, Json.isGap]
      obtain ⟨steps, rfl⟩ : ∃ steps, fuel = steps + 1 := ⟨fuel - 1, by omega⟩
      have later := ih second steps (by omega)
      have gap : Json.readMembers steps ('\n' :: (listedChars (second :: cookies) ++ '\n' :: '\x7d' :: rest)) =
          Json.readMembers steps (listedChars (second :: cookies) ++ '\n' :: '\x7d' :: rest) := by
        rw [← members_gap, ← members_gap steps (listedChars _ ++ _)]
        rfl
      rw [split, List.append_assoc, read_line first _ _ (by omega), List.cons_append, comma]
      simp only [List.cons_append, Nat.add_sub_cancel, gap, later, Option.map_some, asTexts, List.map_cons]

theorem listed_opens (first : String × String) (cookies : Ordered String) (rest : List Char) :
    ∃ tail, Json.skipGap (listedChars (first :: cookies) ++ rest) = '"' :: tail := by
  cases cookies with
  | nil => simp [listedChars, lineChars, Json.quote, Json.skipGap, Json.isGap]
  | cons second cookies =>
      simp [listedChars, List.intercalate_cons_cons, lineChars, Json.quote, Json.skipGap, Json.isGap]

theorem as_texts_members (cookies : Ordered String) (distinct : (Ordered.keys cookies).Nodup) :
    Json.object (asTexts (Ordered.inMemberOrder cookies)) = .obj (asTexts (Ordered.inMemberOrder cookies)) := by
  have keys : Ordered.keys (asTexts (Ordered.inMemberOrder cookies)) = Ordered.keys (Ordered.inMemberOrder cookies) := by
    simp [Ordered.keys, asTexts, Function.comp_def]
  have ordered : Ordered.inMemberOrder (asTexts (Ordered.inMemberOrder cookies)) =
      asTexts (Ordered.inMemberOrder cookies) := by
    rw [asTexts, Ordered.member_order_map fun cookie => Json.str cookie.2, Ordered.member_order_twice]
  have apart : (Ordered.keys (asTexts (Ordered.inMemberOrder cookies))).Nodup := by
    rw [keys]
    exact (Ordered.keys_member_order cookies).nodup_iff.mpr distinct
  rw [Json.object, Ordered.as_members_distinct _ apart, ordered]

theorem file_text_read (cookies : Ordered String) (distinct : (Ordered.keys cookies).Nodup) :
    Json.read? (fileText cookies) = some (.obj (asTexts (Ordered.inMemberOrder cookies))) := by
  by_cases empty : Ordered.inMemberOrder cookies = []
  · have chars := file_text_empty cookies empty
    simp [Json.read?, chars, empty, Json.skipGap, Json.isGap, Json.readValue, asTexts]
  · have chars := file_text_listed cookies empty
    obtain ⟨first, rest, ordered⟩ := List.exists_cons_of_ne_nil empty
    have start : Json.skipGap (fileText cookies).toList = (fileText cookies).toList := by
      rw [chars]
      simp [Json.skipGap, Json.isGap]
    obtain ⟨tail, opening⟩ := listed_opens first rest ['\n', '\x7d']
    have inside : Json.readMembers ((listedChars (first :: rest)).length + 4) ('"' :: tail) =
        some (asTexts (first :: rest), []) := by
      rw [← opening, members_gap]
      exact read_listed first rest _ [] (by omega)
    have gap : Json.skipGap ('\n' :: (listedChars (first :: rest) ++ ['\n', '\x7d'])) = '"' :: tail := opening
    have whole := as_texts_members cookies distinct
    rw [ordered] at whole
    rw [Json.read?, start, chars, ordered]
    have ended : Json.skipGap [] = [] := rfl
    simp [Json.readValue, gap, inside, whole, ended]

theorem check_texts (cookies : Ordered String) :
    Shape.accept? Shape.cookies (some (.obj (asTexts cookies))) = some (.obj (Shape.keepMembers (asTexts cookies))) := by
  have kept : Shape.checkMembers (fun value => Shape.present value (Shape.check Shape.plain (some value))) (asTexts cookies) =
      .ok (asTexts cookies) := by
    induction cookies with
    | nil => rfl
    | cons first rest ih =>
        have first_kept : Shape.present (.str first.2) (Shape.check Shape.plain (some (.str first.2))) =
            .ok (.str first.2) := rfl
        simp only [asTexts] at ih
        simp only [asTexts, List.map_cons, Shape.checkMembers, first_kept, ih, Shape.atStep, Shape.both, Shape.mapChecked]
  simp [Shape.accept?, Shape.cookies, Shape.check, kept, Shape.mapChecked]

theorem of_file_text (cookies : Ordered String) (distinct : (Ordered.keys cookies).Nodup) :
    ofFileText? (fileText cookies) =
      some ((Ordered.inMemberOrder cookies).filter fun cookie => !Shape.dropped cookie.1) := by
  rw [ofFileText?, file_text_read cookies distinct, check_texts]
  simp [Shape.keepMembers, asTexts, List.filter_map, List.filterMap_map, Function.comp_def, Json.text?]

theorem read_value_distinct (fuel : Nat) (text rest : List Char) (members : List (String × Json))
    (found : Json.readValue fuel text = some (.obj members, rest)) : (Ordered.keys members).Nodup := by
  have word (word text : List Char) (value : Json) (other : ∀ members, value ≠ .obj members)
      (read : Json.readWord word value text = some (.obj members, rest)) : False := by
    rw [Json.readWord] at read
    split at read
    · cases read
      exact other members rfl
    · cases read
  cases fuel with
  | zero => simp [Json.readValue] at found
  | succ fuel =>
      rw [Json.readValue.eq_def] at found
      dsimp only at found
      split at found
      · obtain ⟨read, -, made⟩ := Option.map_eq_some_iff.mp found
        cases made
      · split at found
        · cases found
        · obtain ⟨read, -, made⟩ := Option.map_eq_some_iff.mp found
          cases made
      · split at found
        · cases found
          exact List.nodup_nil
        · obtain ⟨read, -, made⟩ := Option.map_eq_some_iff.mp found
          cases made
          exact Ordered.nodup_keys_as_members _
      · exact (word _ _ _ (by simp) found).elim
      · exact (word _ _ _ (by simp) found).elim
      · exact (word _ _ _ (by simp) found).elim
      · obtain ⟨read, -, made⟩ := Option.map_eq_some_iff.mp found
        cases made

theorem read_distinct (text : String) (members : List (String × Json)) (found : Json.read? text = some (.obj members)) :
    (Ordered.keys members).Nodup := by
  rw [Json.read?] at found
  split at found
  · next value rest read =>
    split at found
    · cases found
      exact read_value_distinct _ _ _ _ read
    · cases found
  · cases found

theorem keys_texts (members : List (String × Json)) :
    (Ordered.keys (members.filterMap fun member => member.2.text?.map fun value => (member.1, value))).Sublist
      (Ordered.keys members) := by
  induction members with
  | nil => exact List.Sublist.slnil
  | cons first rest ih =>
      rw [List.filterMap_cons]
      cases first.2.text? with
      | none => exact ih.cons _
      | some value => exact ih.cons_cons _

theorem accepted_texts (value : Option Json) (kept : List (String × Json))
    (accepted : Shape.accept? Shape.cookies value = some (.obj kept)) :
    ∃ members passed, value = some (.obj members) ∧
      Shape.checkMembers (fun value => Shape.present value (Shape.check Shape.plain (some value))) members = .ok passed ∧
      kept = Shape.keepMembers passed := by
  cases value with
  | none => simp [Shape.accept?, Shape.cookies, Shape.check] at accepted
  | some value =>
      cases value with
      | obj members =>
          simp only [Shape.accept?, Shape.cookies, Shape.check] at accepted
          split at accepted
          · next found passed =>
            obtain ⟨checked, good, rfl⟩ := Shape.mapped_ok passed
            cases accepted
            exact ⟨members, checked, rfl, good, rfl⟩
          · cases accepted
      | _ => simp [Shape.accept?, Shape.cookies, Shape.check] at accepted

theorem of_file_text_fit (text : String) (cookies : Ordered String) (found : ofFileText? text = some cookies) :
    (Ordered.keys cookies).Nodup ∧ ∀ name ∈ Ordered.keys cookies, Shape.dropped name = false := by
  rw [ofFileText?] at found
  split at found
  · next kept accepted =>
    cases found
    obtain ⟨members, passed, read, checked, rfl⟩ := accepted_texts _ kept accepted
    have within := keys_texts (Shape.keepMembers passed)
    constructor
    · have distinct : (Ordered.keys passed).Nodup := by
        rw [Shape.check_members_keys _ _ _ checked]
        exact read_distinct text members read
      exact within.nodup ((List.filter_sublist.map _).nodup distinct)
    · intro name member
      obtain ⟨kept, known, rfl⟩ := List.mem_map.mp (within.subset member)
      simpa using (List.mem_filter.mp known).2
  · cases found

end CookieJar

end DeviceLogin
