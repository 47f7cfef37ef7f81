import DeviceLogin.Cookie.Jar
import DeviceLogin.Proofs.Clients
import DeviceLogin.Proofs.Cookie.Grammar
import DeviceLogin.Proofs.MemberOrder

set_option autoImplicit false

namespace DeviceLogin

namespace Cookie

def text (cookie : String × String) : String := cookie.1 ++ "=" ++ cookie.2

def unspaced : List Char → List Char
  | ' ' :: rest => rest
  | piece => piece

def pieces (header : String) : List String :=
  match Text.splitOn ';' header.toList with
  | [] => []
  | first :: rest => String.ofList first :: rest.map fun piece => String.ofList (unspaced piece)

-- Names and values as they come out of cookie settings.
structure Sound (cookie : String × String) : Prop where
  name : cookie.1.toList.all isNameChar = true
  value : ';' ∉ cookie.2.toList

structure AllSound (cookies : Ordered String) : Prop where
  distinct : (Ordered.keys cookies).Nodup
  sound : ∀ cookie ∈ cookies, Sound cookie

theorem plain_of_name (name : List Char) (sound : name.all isNameChar) : '=' ∉ name ∧ ';' ∉ name ∧ ' ' ∉ name := by
  rw [List.all_eq_true] at sound
  refine ⟨fun member => ?_, fun member => ?_, fun member => ?_⟩
  · exact absurd (sound _ member) (by decide)
  · exact absurd (sound _ member) (by decide)
  · exact absurd (sound _ member) (by decide)

theorem text_chars (cookie : String × String) : (text cookie).toList = cookie.1.toList ++ '=' :: cookie.2.toList := by
  simp [text]

theorem text_plain (cookie : String × String) (sound : Sound cookie) : ';' ∉ (text cookie).toList := by
  have name := (plain_of_name _ sound.name).2.1
  simp [text_chars, name, sound.value]

theorem split_texts (first : String × String) (cookies : Ordered String) (sound : ∀ cookie ∈ first :: cookies, Sound cookie) :
    Text.splitOn ';' (String.intercalate "; " ((first :: cookies).map text)).toList =
      (text first).toList :: cookies.map fun cookie => ' ' :: (text cookie).toList := by
  rw [String.toList_intercalate, List.map_map]
  induction cookies generalizing first with
  | nil =>
      have plain := text_plain first (sound first List.mem_cons_self)
      simpa using Text.split_plain ';' (text first).toList plain
  | cons second rest ih =>
      have plain := text_plain first (sound first List.mem_cons_self)
      have later := ih second fun cookie member => sound cookie (List.mem_cons_of_mem _ member)
      have joined : List.intercalate "; ".toList ((first :: second :: rest).map (String.toList ∘ text)) =
          (text first).toList ++ ';' :: ' ' :: List.intercalate "; ".toList ((second :: rest).map (String.toList ∘ text)) := by
        simp [List.intercalate_cons_cons]
      rw [joined, Text.split_first ';' _ _ plain, Text.splitOn, later]
      exact congrArg _ (if_neg (by decide))

theorem split_header (jar : CookieJar) (header : String) (sound : ∀ cookie ∈ jar.cookies, Sound cookie)
    (sent : jar.header? = some header) :
    ∃ first rest, jar.cookies = first :: rest ∧
      Text.splitOn ';' header.toList = (text first).toList :: rest.map fun cookie => ' ' :: (text cookie).toList := by
  rw [CookieJar.header?] at sent
  cases held : jar.cookies with
  | nil => simp [held] at sent
  | cons first rest =>
      rw [held] at sent sound
      simp only [List.isEmpty_cons, Bool.false_eq_true, if_false, Option.some.injEq] at sent
      have texts : ((first :: rest).map fun cookie => cookie.1 ++ "=" ++ cookie.2) = (first :: rest).map text := rfl
      exact ⟨first, rest, rfl, by rw [← sent, texts, split_texts first rest sound]⟩

theorem pieces_header (jar : CookieJar) (header : String) (sound : ∀ cookie ∈ jar.cookies, Sound cookie)
    (sent : jar.header? = some header) : pieces header = jar.cookies.map text := by
  obtain ⟨first, rest, held, split⟩ := split_header jar header sound sent
  have later (cookie : String × String) : String.ofList (unspaced (' ' :: (text cookie).toList)) = text cookie :=
    String.ofList_toList
  rw [pieces, split, held]
  simp only [String.ofList_toList, List.map_map, Function.comp_def, later, List.map_cons]

theorem split_name (name other value rest : List Char) (plain : '=' ∉ name) (pure : '=' ∉ other)
    (same : name ++ '=' :: value = other ++ '=' :: rest) : name = other ∧ value = rest := by
  induction name generalizing other with
  | nil =>
      cases other with
      | nil => exact ⟨rfl, (List.cons.inj same).2⟩
      | cons c tail =>
          simp only [List.mem_cons, not_or] at pure
          exact absurd (List.cons.inj same).1 pure.1
  | cons c tail ih =>
      simp only [List.mem_cons, not_or] at plain
      cases other with
      | nil => exact absurd (List.cons.inj same).1.symm plain.1
      | cons d later =>
          simp only [List.mem_cons, not_or] at pure
          obtain ⟨rfl, tails⟩ := List.cons.inj same
          obtain ⟨rfl, rest⟩ := ih later plain.2 pure.2 tails
          exact ⟨rfl, rest⟩

theorem text_injective (cookie other : String × String) (sound : Sound cookie) (pure : '=' ∉ other.1.toList)
    (same : text cookie = text other) : cookie = other := by
  have chars := congrArg String.toList same
  rw [text_chars, text_chars] at chars
  obtain ⟨name, value⟩ := split_name _ _ _ _ (plain_of_name _ sound.name).1 pure chars
  exact Prod.ext (String.toList_inj.mp name) (String.toList_inj.mp value)

theorem piece_iff (jar : CookieJar) (sound : AllSound jar.cookies) (name value : String) (plain : '=' ∉ name.toList) :
    name ++ "=" ++ value ∈ (jar.header?.map pieces).getD [] ↔ jar.cookies.get? name = some value := by
  have held : jar.cookies.get? name = some value ↔ (name, value) ∈ jar.cookies :=
    ⟨Ordered.mem_of_get _ _ _, Ordered.get_of_mem _ _ _ sound.distinct⟩
  rw [held]
  cases sent : jar.header? with
  | none =>
      have empty : jar.cookies = [] := by
        rw [CookieJar.header?] at sent
        split at sent
        · next empty => exact List.isEmpty_iff.mp empty
        · cases sent
      simp [empty]
  | some header =>
      rw [Option.map_some, Option.getD_some, pieces_header jar header sound.sound sent, List.mem_map]
      constructor
      · rintro ⟨cookie, member, same⟩
        exact text_injective cookie (name, value) (sound.sound cookie member) plain same ▸ member
      · exact fun member => ⟨_, member, rfl⟩

theorem read_sound (setting : String) (cookie : Cookie) (found : read? setting = some cookie) :
    Sound (cookie.name, cookie.value) := by
  have spells := spells_of_read setting cookie.name cookie.value found
  exact ⟨spells.named, spells.plain⟩

theorem sound_put (cookies : Ordered String) (name value : String) (sound : AllSound cookies) (fit : Sound (name, value)) :
    AllSound (cookies.put name value) := by
  refine ⟨Ordered.nodup_keys_put _ _ _ sound.distinct, fun cookie member => ?_⟩
  rcases Ordered.mem_put _ _ _ _ member with rfl | old
  · exact fit
  · exact sound.sound cookie old

theorem sound_filter (cookies : Ordered String) (keep : String × String → Bool) (sound : AllSound cookies) :
    AllSound (cookies.filter keep) :=
  ⟨(List.filter_sublist.map _).nodup sound.distinct, fun cookie member => sound.sound cookie (List.mem_filter.mp member).1⟩

theorem sound_perm {cookies other : Ordered String} (same : cookies.Perm other) (sound : AllSound other) : AllSound cookies :=
  ⟨(same.map _).nodup_iff.mpr sound.distinct, fun cookie member => sound.sound cookie (same.mem_iff.mp member)⟩

theorem sound_apply (cookies : Ordered String) (setting : String) (sound : AllSound cookies) :
    AllSound (apply cookies setting) := by
  rw [apply]
  cases found : read? setting with
  | none => exact sound
  | some cookie =>
      dsimp only
      split
      · exact sound_filter cookies _ sound
      · exact sound_put cookies _ _ sound (read_sound setting cookie found)

def Spares (name setting : String) : Prop := ∀ cookie, read? setting = some cookie → cookie.name ≠ name

structure Sets (name value setting : String) : Prop where
  text : ∃ attributes, setting.toList = name.toList ++ '=' :: (value.toList ++ attributes) ∧
    (attributes = [] ∨ ∃ rest, attributes = ';' :: rest)
  lasting : expires setting = false

theorem get_spared (cookies : Ordered String) (name setting : String) (spares : Spares name setting) :
    (apply cookies setting).get? name = cookies.get? name := by
  rw [apply]
  cases found : read? setting with
  | none => rfl
  | some cookie =>
      have apart := spares cookie found
      dsimp only
      split
      · rw [Ordered.get_erase, if_neg apart]
      · rw [Ordered.get_put, if_neg apart]

theorem get_spared_fold (settings : List String) (cookies : Ordered String) (name : String)
    (spares : ∀ setting ∈ settings, Spares name setting) :
    (settings.foldl apply cookies).get? name = cookies.get? name := by
  induction settings generalizing cookies with
  | nil => rfl
  | cons setting rest ih =>
      rw [List.foldl_cons, ih _ fun later member => spares later (List.mem_cons_of_mem _ member),
        get_spared cookies name setting (spares setting List.mem_cons_self)]

theorem read_sets (name value setting : String) (named : name.toList.all isNameChar) (filled : name ≠ "")
    (plain : ';' ∉ value.toList) (sets : Sets name value setting) : read? setting = some ⟨name, value⟩ := by
  obtain ⟨attributes, text, ended⟩ := sets.text
  exact read_of_spells setting name value ⟨named, filled, plain, [], attributes, text, rfl, ended⟩

theorem get_sets (cookies : Ordered String) (name value setting : String) (named : name.toList.all isNameChar)
    (filled : name ≠ "") (plain : ';' ∉ value.toList) (sets : Sets name value setting) :
    (apply cookies setting).get? name = some value := by
  rw [apply, read_sets name value setting named filled plain sets]
  simp [sets.lasting, Ordered.get_put]

theorem get_sets_fold (settings : List String) (cookies : Ordered String) (name value : String)
    (named : name.toList.all isNameChar) (filled : name ≠ "") (plain : ';' ∉ value.toList)
    (each : ∀ setting ∈ settings, Sets name value setting ∨ Spares name setting)
    (some : cookies.get? name = some value ∨ ∃ setting ∈ settings, Sets name value setting) :
    (settings.foldl apply cookies).get? name = .some value := by
  induction settings generalizing cookies with
  | nil => simpa using some
  | cons setting rest ih =>
      refine ih _ (fun later member => each later (List.mem_cons_of_mem _ member)) ?_
      rcases each setting List.mem_cons_self with sets | spares
      · exact .inl (get_sets cookies name value setting named filled plain sets)
      · rcases some with held | ⟨other, member, sets⟩
        · exact .inl ((get_spared cookies name setting spares).trans held)
        · rcases List.mem_cons.mp member with rfl | later
          · exact absurd rfl (spares _ (read_sets name value _ named filled plain sets))
          · exact .inr ⟨other, later, sets⟩

end Cookie

end DeviceLogin
