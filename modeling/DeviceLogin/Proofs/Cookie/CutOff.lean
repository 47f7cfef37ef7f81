import DeviceLogin.Proofs.Cookie.File
import DeviceLogin.Proofs.Text.Encodings

set_option autoImplicit false

namespace DeviceLogin

open Text (BreaksOff breaks_nil breaks_cons breaks_append replacement)

namespace Json

variable (fuel : Nat) (done kept : List Char)

theorem hex_replacement : Text.hexValue? replacement = none := by decide

theorem skip_replacement : skipGap [replacement] = [replacement] := rfl

theorem string_unstarted (last : kept = [] ∨ kept = [replacement]) : readString fuel done kept = none := by
  rcases last with rfl | rfl
  · cases fuel <;> rfl
  · rcases fuel with _ | _ | fuel <;> simp [readString, replacement]

theorem slash_unfinished : readString fuel done ['\\'] = none := by
  rcases fuel with _ | _ | fuel <;> simp [readString]

theorem pair_unfinished (mark : Char) (cut : BreaksOff ['\\', mark] kept) : readString fuel done kept = none := by
  simp only [breaks_cons, breaks_nil, and_false, exists_false, or_false] at cut
  obtain rfl | rfl | ⟨tail, rfl, rfl | rfl⟩ := cut
  · exact string_unstarted fuel done _ (.inl rfl)
  · exact string_unstarted fuel done _ (.inr rfl)
  · exact slash_unfinished fuel done
  · rcases fuel with _ | fuel <;> rfl

theorem control_unfinished (high low : Char) (cut : BreaksOff ['\\', 'u', '0', '0', high, low] kept) :
    readString fuel done kept = none := by
  have quad : hexQuad? '0' '0' high replacement = none := by
    simp [hexQuad?, hex_replacement]
  simp only [breaks_cons, breaks_nil, and_false, exists_false, or_false] at cut
  cases fuel with
  | zero => rfl
  | succ fuel =>
      obtain rfl | rfl | ⟨tail, rfl, cut⟩ := cut
      · exact string_unstarted _ done _ (.inl rfl)
      · exact string_unstarted _ done _ (.inr rfl)
      obtain rfl | rfl | ⟨tail, rfl, cut⟩ := cut
      · exact slash_unfinished _ done
      · rfl
      obtain rfl | rfl | ⟨tail, rfl, cut⟩ := cut
      · rfl
      · rfl
      obtain rfl | rfl | ⟨tail, rfl, cut⟩ := cut
      · rfl
      · rfl
      obtain rfl | rfl | ⟨tail, rfl, rfl | rfl⟩ := cut
      · rfl
      · rfl
      · rfl
      · simp [readString, quad]

theorem escape_unfinished (c : Char) (cut : BreaksOff (escapeChar c) kept) : readString fuel done kept = none := by
  unfold escapeChar at cut
  repeat' split at cut
  any_goals exact pair_unfinished fuel done kept _ cut
  · exact control_unfinished fuel done kept _ _ cut
  · simp only [breaks_cons, breaks_nil, and_false, exists_false, or_false] at cut
    exact string_unstarted fuel done kept cut

theorem string_unfinished (text : List Char) (cut : BreaksOff (text.flatMap escapeChar ++ ['"']) kept) :
    readString fuel done kept = none := by
  induction text generalizing fuel done kept with
  | nil =>
      simp only [List.flatMap_nil, List.nil_append, breaks_cons, breaks_nil, and_false, exists_false, or_false] at cut
      exact string_unstarted fuel done kept cut
  | cons c rest ih =>
      rw [List.flatMap_cons, List.append_assoc] at cut
      rcases breaks_append cut with inside | ⟨tail, rfl, outside⟩
      · exact escape_unfinished fuel done kept c inside
      · cases fuel with
        | zero => rfl
        | succ fuel => exact (read_escaped c fuel done tail).trans (ih fuel (c :: done) tail outside)

theorem value_unstarted (last : kept = [] ∨ kept = [replacement]) : readValue fuel kept = none := by
  rcases last with rfl | rfl
  · cases fuel <;> rfl
  · cases fuel <;> simp [readValue, readNumber, replacement]

theorem members_unstarted (last : kept = [] ∨ kept = [replacement]) : readMembers fuel kept = none := by
  rcases last with rfl | rfl
  · cases fuel <;> rfl
  · cases fuel <;> simp [readMembers, skipGap, isGap, replacement]

theorem members_blank (c : Char) (rest : List Char) (gap : isGap c = true) :
    readMembers fuel (c :: rest) = readMembers fuel rest := by
  rw [← CookieJar.members_gap, ← CookieJar.members_gap fuel rest]
  exact congrArg (readMembers fuel) (List.dropWhile_cons_of_pos gap)

theorem blank_unfinished (c : Char) (whole : List Char) (gap : isGap c = true)
    (rest : ∀ tail, tail.length ≤ kept.length → BreaksOff whole tail → readMembers fuel tail = none)
    (cut : BreaksOff (c :: whole) kept) : readMembers fuel kept = none := by
  obtain last | last | ⟨tail, rfl, later⟩ := (breaks_cons c whole kept).mp cut
  · exact members_unstarted fuel kept (.inl last)
  · exact members_unstarted fuel kept (.inr last)
  · exact (members_blank fuel c tail gap).trans (rest tail (by simp) later)

theorem text_unfinished (value : String) (cut : BreaksOff (quote value) kept) : readValue fuel kept = none := by
  obtain last | last | ⟨inner, rfl, inside⟩ := (breaks_cons _ _ _).mp cut
  · exact value_unstarted fuel kept (.inl last)
  · exact value_unstarted fuel kept (.inr last)
  · cases fuel with
    | zero => rfl
    | succ fuel => rw [readValue, string_unfinished fuel [] inner _ inside, Option.map_none]

theorem member_unfinished (name value : String) (enough : kept.length < fuel)
    (cut : BreaksOff (quote name ++ ':' :: ' ' :: quote value) kept) : readMembers fuel kept = none := by
  have colon (rest : List Char) : skipGap (':' :: rest) = ':' :: rest := by simp [skipGap, isGap]
  have opening (rest : List Char) : skipGap ('"' :: rest) = '"' :: rest := by simp [skipGap, isGap]
  have parts : quote name ++ ':' :: ' ' :: quote value =
      '"' :: ((name.toList.flatMap escapeChar ++ ['"']) ++ ':' :: ' ' :: quote value) := by simp [quote]
  obtain ⟨steps, rfl⟩ : ∃ steps, fuel = steps + 1 := ⟨fuel - 1, by omega⟩
  rw [parts] at cut
  obtain last | last | ⟨inner, rfl, named⟩ := (breaks_cons _ _ _).mp cut
  · exact members_unstarted _ kept (.inl last)
  · exact members_unstarted _ kept (.inr last)
  rw [readMembers.eq_def]
  simp only [opening]
  obtain inside | ⟨tail, rfl, valued⟩ := breaks_append named
  · rw [string_unfinished steps [] inner _ inside]
  have long := escaped_length name.toList
  have read := read_quoted name steps tail (by
    simp only [List.length_cons, List.length_append, List.length_nil] at enough
    omega)
  rw [List.append_assoc, List.cons_append, List.nil_append, read]
  obtain rfl | rfl | ⟨after, rfl, spaced⟩ := (breaks_cons _ _ _).mp valued
  · rfl
  · rfl
  simp only [colon]
  obtain rfl | rfl | ⟨last, rfl, text⟩ := (breaks_cons _ _ _).mp spaced
  · rw [show skipGap [] = [] from rfl, value_unstarted steps _ (.inl rfl)]
  · rw [skip_replacement, value_unstarted steps _ (.inr rfl)]
  · have blank : skipGap (' ' :: last) = skipGap last := by simp [skipGap, isGap]
    have start : skipGap last = last := by
      obtain rfl | rfl | ⟨inner, rfl, -⟩ := (breaks_cons _ _ _).mp text
      · rfl
      · rfl
      · exact opening inner
    rw [blank, start, text_unfinished steps last value text]

end Json

namespace CookieJar

theorem line_unfinished (cookie : String × String) (fuel : Nat) (kept : List Char) (enough : kept.length < fuel)
    (cut : BreaksOff (lineChars cookie) kept) : Json.readMembers fuel kept = none := by
  refine Json.blank_unfinished fuel kept ' ' _ (by decide) (fun tail short cut => ?_) cut
  refine Json.blank_unfinished fuel tail ' ' _ (by decide) (fun rest shorter cut => ?_) cut
  exact Json.member_unfinished fuel rest cookie.1 cookie.2 (by omega) cut

theorem listed_unfinished (first : String × String) (cookies : Ordered String) (fuel : Nat) (kept : List Char)
    (enough : kept.length < fuel) (cut : BreaksOff (listedChars (first :: cookies) ++ ['\n', '\x7d']) kept) :
    Json.readMembers fuel kept = none := by
  induction cookies generalizing first fuel kept with
  | nil =>
      have single : listedChars [first] = lineChars first := by simp [listedChars]
      rw [single] at cut
      obtain inside | ⟨tail, rfl, outside⟩ := breaks_append cut
      · exact line_unfinished first fuel kept enough inside
      · rw [List.length_append] at enough
        rw [read_line first fuel tail (by omega)]
        simp only [breaks_cons, breaks_nil, and_false, exists_false, or_false] at outside
        obtain rfl | rfl | ⟨last, rfl, rfl | rfl⟩ := outside <;> rfl
  | cons second cookies ih =>
      have split : listedChars (first :: second :: cookies) ++ ['\n', '\x7d'] =
          lineChars first ++ ',' :: '\n' :: (listedChars (second :: cookies) ++ ['\n', '\x7d']) := by
        simp [listedChars, List.intercalate_cons_cons]
      have comma (rest : List Char) : Json.skipGap (',' :: rest) = ',' :: rest := by simp [Json.skipGap, Json.isGap]
      rw [split] at cut
      obtain inside | ⟨tail, rfl, outside⟩ := breaks_append cut
      · exact line_unfinished first fuel kept enough inside
      · rw [List.length_append] at enough
        rw [read_line first fuel tail (by omega)]
        obtain rfl | rfl | ⟨rest, rfl, later⟩ := (breaks_cons _ _ _).mp outside
        · rfl
        · rfl
        rw [List.length_cons] at enough
        have unfinished : Json.readMembers (fuel - 1) rest = none :=
          Json.blank_unfinished (fuel - 1) rest '\n' _ (by decide)
            (fun last short cut => ih second (fuel - 1) last (by omega) cut) later
        rw [comma]
        simp only [unfinished, Option.map_none]

theorem listed_unclosed (first : String × String) (cookies : Ordered String) (kept : List Char)
    (cut : BreaksOff ('\n' :: (listedChars (first :: cookies) ++ ['\n', '\x7d'])) kept) (rest : List Char) :
    Json.skipGap kept ≠ '\x7d' :: rest := by
  have opening : ∃ tail, listedChars (first :: cookies) ++ ['\n', '\x7d'] = ' ' :: ' ' :: '"' :: tail := by
    cases cookies <;> simp [listedChars, List.intercalate_cons_cons, lineChars, Json.quote]
  obtain ⟨tail, opening⟩ := opening
  rw [opening] at cut
  obtain rfl | rfl | ⟨one, rfl, early⟩ := (breaks_cons _ _ _).mp cut
  · simp [Json.skipGap]
  · simp [Json.skipGap, Json.isGap, replacement]
  obtain rfl | rfl | ⟨two, rfl, later⟩ := (breaks_cons _ _ _).mp early
  · simp [Json.skipGap, Json.isGap]
  · simp [Json.skipGap, Json.isGap, replacement]
  obtain rfl | rfl | ⟨three, rfl, last⟩ := (breaks_cons _ _ _).mp later
  · simp [Json.skipGap, Json.isGap]
  · simp [Json.skipGap, Json.isGap, replacement]
  obtain rfl | rfl | ⟨four, rfl, -⟩ := (breaks_cons _ _ _).mp last
  · simp [Json.skipGap, Json.isGap]
  · simp [Json.skipGap, Json.isGap, replacement]
  · simp [Json.skipGap, Json.isGap]

theorem object_unfinished (fuel : Nat) (kept : List Char) (unclosed : ∀ rest, Json.skipGap kept ≠ '\x7d' :: rest)
    (unfinished : Json.readMembers fuel kept = none) : Json.readValue (fuel + 1) ('\x7b' :: kept) = none := by
  rw [Json.readValue]
  split
  · next rest closed => exact absurd closed (unclosed rest)
  · rw [members_gap, unfinished, Option.map_none]

theorem cut_text_unread (cookies : Ordered String) (text : String)
    (cut : BreaksOff (fileText cookies).toList text.toList) : Json.read? text = none := by
  by_cases empty : Ordered.inMemberOrder cookies = []
  · rw [file_text_empty cookies empty] at cut
    simp only [breaks_cons, breaks_nil, and_false, exists_false, or_false] at cut
    rw [Json.read?]
    obtain chars | chars | ⟨_, chars, rfl | rfl⟩ := cut <;> rw [chars] <;> rfl
  · rw [file_text_listed cookies empty] at cut
    obtain ⟨first, rest, ordered⟩ := List.exists_cons_of_ne_nil empty
    rw [ordered] at cut
    have unread (kept : List Char)
        (cut : BreaksOff ('\n' :: (listedChars (first :: rest) ++ ['\n', '\x7d'])) kept) (fuel : Nat)
        (enough : kept.length < fuel) : Json.readMembers fuel kept = none :=
      Json.blank_unfinished fuel kept '\n' _ (by decide)
        (fun last short cut => listed_unfinished first rest fuel last (by omega) cut) cut
    rw [Json.read?]
    obtain chars | chars | ⟨inner, chars, inside⟩ := (breaks_cons _ _ _).mp cut
    · rw [chars]
      rfl
    · rw [chars]
      rfl
    · have start : Json.skipGap ('\x7b' :: inner) = '\x7b' :: inner := by simp [Json.skipGap, Json.isGap]
      have unfinished := unread inner inside (inner.length + 1) (by omega)
      rw [chars, start, List.length_cons, object_unfinished _ inner (listed_unclosed first rest inner inside) unfinished]

theorem kept_file_text (cookies : Ordered String) (fault : FileFault) :
    ofFileText? (fault.kept (fileText cookies)) = none ∨ fault.kept (fileText cookies) = fileText cookies := by
  rcases Text.taken_bytes (fileText cookies) (fault.written.getD 0) with whole | cut
  · exact .inr whole
  · have unread : Json.read? (fault.kept (fileText cookies)) = none := cut_text_unread cookies _ cut
    exact .inl (by rw [ofFileText?, unread]; rfl)

end CookieJar

end DeviceLogin
