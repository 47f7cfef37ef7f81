import DeviceLogin.Proofs.Cookie.CutOff
import DeviceLogin.Proofs.Cookie.Storing
import DeviceLogin.Proofs.Cookie.Upkeep

set_option autoImplicit false

namespace DeviceLogin

open Act

namespace Cookie

def cutPiece (piece : String) : String × String :=
  (String.ofList (piece.toList.takeWhile (· != '=')), String.ofList ((piece.toList.dropWhile (· != '=')).drop 1))

def readHeader (header : Option String) : Ordered String := ((header.map pieces).getD []).map cutPiece

-- Cookies with one value for each name, and no empty name.
structure Formed (cookies : Ordered String) : Prop extends AllSound cookies where
  filled : "" ∉ Ordered.keys cookies

theorem cut_text (cookie : String × String) (sound : Sound cookie) : cutPiece (text cookie) = cookie := by
  have name : ∀ c ∈ cookie.1.toList, (c != '=') = true := by
    intro c member
    rw [bne_iff_ne]
    rintro rfl
    exact (plain_of_name _ sound.name).1 member
  rw [cutPiece, text_chars, List.takeWhile_append_of_pos name, List.dropWhile_append_of_pos name]
  simp

theorem header_none_iff (jar : CookieJar) : jar.header? = none ↔ jar.cookies = [] := by
  rw [CookieJar.header?]
  cases jar.cookies <;> simp

theorem read_header (jar : CookieJar) (sound : ∀ cookie ∈ jar.cookies, Sound cookie) :
    readHeader jar.header? = jar.cookies := by
  rw [readHeader]
  cases sent : jar.header? with
  | none => rw [(header_none_iff jar).mp sent]; rfl
  | some header =>
      rw [Option.map_some, Option.getD_some, pieces_header jar header sound sent, List.map_map]
      exact (List.map_congr_left fun cookie member => cut_text cookie (sound cookie member)).trans (List.map_id _)

theorem later_pieces_spaced (jar : CookieJar) (header : String) (sound : ∀ cookie ∈ jar.cookies, Sound cookie)
    (sent : jar.header? = some header) :
    ∀ piece ∈ (Text.splitOn ';' header.toList).drop 1, piece.head? = some ' ' := by
  obtain ⟨first, rest, -, split⟩ := split_header jar header sound sent
  intro piece later
  rw [split, List.drop_one, List.tail_cons] at later
  obtain ⟨cookie, -, rfl⟩ := List.mem_map.mp later
  rfl

theorem formed_empty : Formed [] := ⟨⟨List.nodup_nil, nofun⟩, List.not_mem_nil⟩

theorem formed_apply (cookies : Ordered String) (setting : String) (formed : Formed cookies) :
    Formed (apply cookies setting) := by
  refine ⟨sound_apply cookies setting formed.toAllSound, ?_⟩
  rw [apply]
  cases read : read? setting with
  | none => exact formed.filled
  | some cookie =>
      have filled := (spells_of_read setting cookie.name cookie.value read).filled
      dsimp only
      split
      · rw [Ordered.keys_erase]
        exact fun member => formed.filled (List.mem_filter.mp member).1
      · rw [Ordered.keys_put]
        split
        · exact formed.filled
        · simp [formed.filled, Ne.symm filled]

theorem formed_fold (settings : List String) (cookies : Ordered String) (formed : Formed cookies) :
    Formed (settings.foldl apply cookies) := by
  induction settings generalizing cookies with
  | nil => exact formed
  | cons setting rest ih => exact ih _ (formed_apply cookies setting formed)

theorem formed_file (cookies : Ordered String) (formed : Formed cookies) :
    Formed ((CookieJar.ofFileText? (CookieJar.fileText cookies)).getD []) := by
  rw [CookieJar.of_file_text cookies formed.distinct, Option.getD_some]
  refine ⟨sound_filter _ _ (sound_perm (Ordered.member_order_perm cookies) formed.toAllSound), fun member => ?_⟩
  have held := (List.filter_sublist.map Prod.fst).subset member
  exact formed.filled ((Ordered.keys_member_order cookies).mem_iff.mp held)

end Cookie

namespace World

theorem save_jar_files (number : Nat) (path : String) (world : World) (file : (world.jar number).file = some path) :
    let after := ((saveJar number).run world).2
    after.files.cookiesAt path = world.files.cookiesAt path ∨
      after.files.cookiesAt path = [] ∨
      after.files.cookiesAt path = (CookieJar.ofFileText? (CookieJar.fileText (world.jar number).cookies)).getD [] := by
  intro after
  obtain ⟨events, saved⟩ := save_jar_run number path world file
  have same : after = _ := saved
  rw [same, saveCookies, write_file_perform]
  cases barred : world.barred? path .replacePrivately with
  | some message => exact .inl rfl
  | none =>
      have plain := write_obstacle_replacing world.files path (unbarred barred)
      have written (content : String) := cookies_at_written world.accessed path content .replacePrivately plain
      cases world.fault? .write path with
      | none => exact .inr (.inr (written _))
      | some fault =>
          rcases CookieJar.kept_file_text (world.jar number).cookies fault with unread | whole
          · exact .inr (.inl ((written _).trans (by rw [unread]; rfl)))
          · exact .inr (.inr ((written _).trans (by rw [whole])))

theorem drop_cookie_file_files (path : String) (world : World) :
    let after := ((dropCookieFile path).run world).2
    after.jars = world.jars ∧
      (after.files.cookiesAt path = world.files.cookiesAt path ∨ after.files.cookiesAt path = []) := by
  intro after
  have same : after = _ := congrArg Prod.snd (run_recover _ _ world)
  rw [same, perform_bind]
  cases unprobed : world.fault? .probe path with
  | some message =>
      rw [file_exists_faulty unprobed]
      exact ⟨rfl, .inl rfl⟩
  | none =>
      rw [file_exists_perform path world unprobed]
      cases world.files.isFile path || world.files.isFolder path with
      | false => exact ⟨rfl, .inl rfl⟩
      | true =>
          simp only [if_true]
          rw [remove_file_perform]
          cases world.accessed.fault? .remove path with
          | some message => exact ⟨rfl, .inl rfl⟩
          | none =>
              cases world.accessed.files.isFolder path with
              | true => exact ⟨rfl, .inl rfl⟩
              | false =>
                  cases world.accessed.files.isFile path with
                  | false => exact ⟨rfl, .inl rfl⟩
                  | true => exact ⟨rfl, .inr (cookies_at_removed world.accessed.accessed path)⟩

theorem clear_jar_files (number : Nat) (world : World) (opened : number < world.jars.length) :
    let after := ((clearJar number).run world).2
    after.jars = (world.holding number []).jars ∧
      ∀ path, (world.jar number).file = some path →
        after.files.cookiesAt path = world.files.cookiesAt path ∨ after.files.cookiesAt path = [] := by
  intro after
  cases file : (world.jar number).file with
  | some path =>
      have same : after = _ := clear_jar_run number path world opened file
      obtain ⟨jars, files⟩ := drop_cookie_file_files path (world.holding number [])
      refine ⟨by rw [same]; exact jars, fun other here => ?_⟩
      cases here
      rw [same]
      exact files
  | none =>
      have held : ((world.holding number []).jar number).file = none := by rw [jar_holding number [] world opened, file]
      have same : after = world.holding number [] := by
        simp only [after, clearJar, updateJar, StateT.run_bind, StateT.run_modify, StateT.run_get, pure_bind]
        split
        · next path given => cases held.symm.trans given
        · rfl
      refine ⟨by rw [same], fun path here => ?_⟩
      cases here

theorem open_jar_unfiled (file : Option String) (alarm : Alarm) (world : World)
    (unfiled : file.filter (fun path => !path.isEmpty) = none) :
    (openJar file alarm).run world =
      (world.jars.length, { world with jars := world.jars ++ [{ alarm := alarm }] }) := by
  rw [openJar, unfiled]
  rfl

end World

inductive CookieJar.Arisen : World → Nat → Prop
  | opened (file : Option String) (alarm : Alarm) (world : World)
      (unheld : ∀ path, file = some path → world.files.cookiesAt path = []) :
      Arisen ((World.openJar file alarm).run world).2 ((World.openJar file alarm).run world).1
  | stored {world : World} {number : Nat} (before : Arisen world number) (settings : List String) :
      Arisen ((World.storeCookies number settings).run world).2 number
  | cleared {world : World} {number : Nat} (before : Arisen world number) :
      Arisen ((World.clearJar number).run world).2 number
  | reopened {world : World} {number : Nat} (before : Arisen world number) (alarm : Alarm) :
      Arisen ((World.openJar (world.jar number).file alarm).run world).2
        ((World.openJar (world.jar number).file alarm).run world).1
  | meanwhile {world : World} {number : Nat} (before : Arisen world number) (after : World)
      (there : number < after.jars.length) (jar : after.jar number = world.jar number)
      (file : ∀ path, (world.jar number).file = some path → after.files.cookiesAt path = world.files.cookiesAt path) :
      Arisen after number

structure CookieJar.Telling (world : World) (number : Nat) : Prop where
  opened : number < world.jars.length
  formed : Cookie.Formed (world.jar number).cookies
  stored : ∀ path, (world.jar number).file = some path → Cookie.Formed (world.files.cookiesAt path)

namespace CookieJar

variable {world : World} {number : Nat}

theorem telling_opened (file : Option String) (alarm : Alarm) (world : World)
    (formed : ∀ path, file = some path → Cookie.Formed (world.files.cookiesAt path)) :
    Telling ((World.openJar file alarm).run world).2 ((World.openJar file alarm).run world).1 := by
  cases filed : file.filter (fun path => !path.isEmpty) with
  | none =>
      rw [World.open_jar_unfiled file alarm world filed]
      have held := World.jar_opened world { alarm := alarm } world.files
      refine ⟨by simp, ?_, fun path named => ?_⟩
      · rw [held]
        exact Cookie.formed_empty
      · rw [held] at named
        cases named
  | some path =>
      obtain ⟨rfl, named⟩ := Option.filter_eq_some_iff.mp filed
      obtain ⟨accesses, loaded, ways⟩ := World.load_cookies_ways path world
      rw [World.open_jar_loaded alarm (by simpa using named) loaded rfl]
      have held := World.jar_opened world
        { cookies := ((World.loadCookies path).run world).1.getD [], file := some path, alarm := alarm }
        { world.files with accesses := accesses }
      refine ⟨by simp, ?_, fun other here => ?_⟩
      · rw [held]
        rcases ways with cookies | ⟨none, -⟩
        · rw [cookies]
          exact formed path rfl
        · rw [none]
          exact Cookie.formed_empty
      · rw [held] at here
        cases here
        exact formed path rfl

theorem telling_stored (telling : Telling world number) (settings : List String) :
    Telling ((World.storeCookies number settings).run world).2 number := by
  have jars := World.store_cookies_jars number settings world
  have held := World.jar_modified telling.opened jars
  have formed := Cookie.formed_fold settings _ telling.formed
  refine ⟨?_, ?_, fun path file => ?_⟩
  · rw [jars, List.length_modify]
    exact telling.opened
  · rw [held]
    exact formed
  · rw [held] at file
    rw [World.store_cookies_run]
    split
    · let cookies := (Cookie.applyAll (world.jar number).cookies settings).1
      have holding := World.jar_holding number cookies world telling.opened
      rcases World.save_jar_files number path (world.holding number cookies) (by rw [holding]; exact file) with
        same | lost | written
      · exact same ▸ telling.stored path file
      · exact lost ▸ Cookie.formed_empty
      · rw [holding] at written
        rw [← Cookie.apply_all_held] at formed
        exact written ▸ Cookie.formed_file cookies formed
    · exact telling.stored path file

theorem telling_cleared (telling : Telling world number) :
    Telling ((World.clearJar number).run world).2 number := by
  obtain ⟨jars, files⟩ := World.clear_jar_files number world telling.opened
  have held := World.jar_modified telling.opened jars
  refine ⟨?_, ?_, fun path file => ?_⟩
  · rw [jars, World.holding, List.length_modify]
    exact telling.opened
  · rw [held]
    exact Cookie.formed_empty
  · rw [held] at file
    rcases files path file with same | gone
    · exact same ▸ telling.stored path file
    · exact gone ▸ Cookie.formed_empty

theorem telling_meanwhile (telling : Telling world number) {after : World} (there : number < after.jars.length)
    (jar : after.jar number = world.jar number)
    (file : ∀ path, (world.jar number).file = some path → after.files.cookiesAt path = world.files.cookiesAt path) :
    Telling after number := by
  refine ⟨there, jar ▸ telling.formed, fun path named => ?_⟩
  rw [jar] at named
  exact file path named ▸ telling.stored path named

theorem arisen_telling (arisen : Arisen world number) : Telling world number := by
  induction arisen with
  | opened file alarm world unheld => exact telling_opened file alarm world fun path named => unheld path named ▸ Cookie.formed_empty
  | stored before settings ih => exact telling_stored ih settings
  | cleared before ih => exact telling_cleared ih
  | reopened before alarm ih => exact telling_opened _ alarm _ ih.stored
  | meanwhile before after there jar file ih => exact telling_meanwhile ih there jar file

end CookieJar

-- Take any jar that started empty and has stored and lost cookies since, or that was opened again on the file of
-- such a jar. Its names are not empty and free of equals signs, semicolons and white space, its values are free of
-- semicolons, and no name stands there twice. It sends no header exactly if it is empty; otherwise every piece of the
-- header but the first begins with a space, and the device reads in the header the cookies of the jar, each once and in
-- order. So no other such jar sends this header unless it holds the same cookies, and whatever settings come, the
-- device goes on to read the same of every cookie that they do not spell.
theorem header_tells_cookies (world : World) (number : Nat) (arisen : CookieJar.Arisen world number) :
    let jar := world.jar number
    (∀ cookie ∈ jar.cookies, cookie.1 ≠ "" ∧
      (∀ c ∈ cookie.1.toList, c ≠ '=' ∧ c ≠ ';' ∧ Text.isSpace c = false) ∧ ';' ∉ cookie.2.toList) ∧
    (Ordered.keys jar.cookies).Nodup ∧
    (jar.header? = none ↔ jar.cookies = []) ∧
    (∀ header, jar.header? = some header →
      ∀ piece ∈ (Text.splitOn ';' header.toList).drop 1, piece.head? = some ' ') ∧
    Cookie.readHeader jar.header? = jar.cookies ∧
    (∀ other place, CookieJar.Arisen other place → (other.jar place).header? = jar.header? →
      (other.jar place).cookies = jar.cookies) ∧
    ∀ settings name, (∀ setting ∈ settings, ∀ value, ¬ Cookie.Spells setting name value) →
      let after := ((World.storeCookies number settings).run world).2.jar number
      (Cookie.readHeader after.header?).get? name = (Cookie.readHeader jar.header?).get? name := by
  intro jar
  have reads {world : World} {number : Nat} (arisen : CookieJar.Arisen world number) :
      Cookie.readHeader (world.jar number).header? = (world.jar number).cookies :=
    Cookie.read_header _ (CookieJar.arisen_telling arisen).formed.sound
  have telling := CookieJar.arisen_telling arisen
  refine ⟨fun cookie member => ⟨?_, fun c here => ?_, ?_⟩, telling.formed.distinct, Cookie.header_none_iff jar,
    fun header sent => Cookie.later_pieces_spaced jar header telling.formed.sound sent, reads arisen, ?_, ?_⟩
  · intro empty
    exact telling.formed.filled (empty ▸ List.mem_map_of_mem member)
  · have named := List.all_eq_true.mp (telling.formed.sound cookie member).name c here
    simpa [Cookie.isNameChar, and_assoc] using named
  · exact (telling.formed.sound cookie member).value
  · intro other place grown same
    rw [← reads grown, same, reads arisen]
  · intro settings name unspelled after
    have held : after = CookieJar.take settings jar :=
      World.jar_modified telling.opened (World.store_cookies_jars number settings world)
    rw [reads (.stored arisen settings), reads arisen]
    change after.cookies.get? name = jar.cookies.get? name
    rw [held]
    exact Cookie.get_spared_fold settings _ name fun setting member =>
      (Cookie.spares_iff name setting).mpr (unspelled setting member)

theorem header_tells_cookies_reopened :
    let start : World := { device := fun _ _ => .timedOut }
    let opened := (World.openJar (some "cookies.json") .silent).run start
    let stored := (World.storeCookies opened.1 ["auth=x=1, admin=1; Path=/", "\t7= \"q\""]).run opened.2
    let reopened := (World.openJar (stored.2.jar opened.1).file .report).run stored.2
    (reopened.2.jar reopened.1).header? = some "7= \"q\"; auth=x=1, admin=1" ∧
      Cookie.readHeader (some "7= \"q\"; auth=x=1, admin=1") = [("7", " \"q\""), ("auth", "x=1, admin=1")] := by
  intro start opened stored reopened
  have unheld : ∀ path, some "cookies.json" = some path → start.files.cookiesAt path = [] := by
    intro path named
    cases named
    rfl
  have arisen : CookieJar.Arisen reopened.2 reopened.1 :=
    .reopened (.stored (.opened (some "cookies.json") .silent start unheld) _) .report
  have sent : (reopened.2.jar reopened.1).header? = some "7= \"q\"; auth=x=1, admin=1" := by decide +kernel
  have reads := (header_tells_cookies reopened.2 reopened.1 arisen).2.2.2.2.1
  rw [sent] at reads
  exact ⟨sent, reads.trans (by decide +kernel)⟩

end DeviceLogin
