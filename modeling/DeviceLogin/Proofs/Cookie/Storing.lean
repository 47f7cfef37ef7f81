import DeviceLogin.Proofs.Cookie.Header
import DeviceLogin.Proofs.Posting

set_option autoImplicit false

namespace DeviceLogin

namespace Cookie

theorem apply_idle (held : Ordered String) (setting : String) (idle : ∀ name value, ¬ Spells setting name value) :
    apply held setting = held := by
  rw [apply]
  cases read : read? setting with
  | none => rfl
  | some cookie => exact absurd (spells_of_read setting cookie.name cookie.value read) (idle _ _)

theorem apply_lasting (held : Ordered String) {setting name value : String} (spells : Spells setting name value)
    (lasting : ¬ Expires setting) : apply held setting = held.put name value := by
  rw [apply, read_of_spells setting name value spells]
  exact if_neg fun ended => lasting ((expires_iff setting).mp ended)

theorem apply_expired (held : Ordered String) {setting name value : String} (spells : Spells setting name value)
    (expired : Expires setting) : apply held setting = held.erase name := by
  rw [apply, read_of_spells setting name value spells]
  exact if_pos ((expires_iff setting).mpr expired)

theorem spares_iff (name setting : String) : Spares name setting ↔ ∀ value, ¬ Spells setting name value := by
  constructor
  · intro spares value spells
    exact spares _ (read_of_spells setting name value spells) rfl
  · rintro unspelled cookie read rfl
    exact unspelled cookie.value (spells_of_read setting cookie.name cookie.value read)

theorem get_last_setting (early later : List String) (held : Ordered String) {setting name value : String}
    (spells : Spells setting name value) (last : ∀ other ∈ later, ∀ value, ¬ Spells other name value) :
    let after := (early ++ setting :: later).foldl apply held
    (Expires setting → after.get? name = none) ∧ (¬ Expires setting → after.get? name = some value) := by
  intro after
  have decided : after.get? name = (apply (early.foldl apply held) setting).get? name := by
    simp only [after, List.foldl_append, List.foldl_cons]
    exact get_spared_fold later _ name fun other member => (spares_iff name other).mpr (last other member)
  constructor
  · intro expired
    rw [decided, apply_expired _ spells expired, Ordered.get_erase, if_pos rfl]
  · intro lasting
    rw [decided, apply_lasting _ spells lasting, Ordered.get_put, if_pos rfl]

def removes (settings : List String) (name : String) : Bool :=
  settings.any fun setting => expires setting && (read? setting).any (·.name == name)

theorem removes_iff (settings : List String) (name : String) :
    removes settings name = true ↔ ∃ setting ∈ settings, Expires setting ∧ ∃ value, Spells setting name value := by
  have named (setting : String) :
      (read? setting).any (·.name == name) = true ↔ ∃ value, Spells setting name value := by
    rw [Option.any_eq_true]
    constructor
    · rintro ⟨cookie, read, same⟩
      exact ⟨cookie.value, beq_iff_eq.mp same ▸ spells_of_read setting cookie.name cookie.value read⟩
    · rintro ⟨value, spells⟩
      exact ⟨_, read_of_spells setting name value spells, beq_self_eq_true name⟩
  simp only [removes, List.any_eq_true, Bool.and_eq_true, expires_iff, named]

theorem keys_fold (settings : List String) (held : Ordered String) :
    ∃ new, Ordered.keys (settings.foldl apply held) =
      (Ordered.keys held).filter (fun name => !removes settings name) ++ new := by
  induction settings generalizing held with
  | nil => exact ⟨[], by simp [removes]⟩
  | cons setting rest ih =>
      obtain ⟨new, later⟩ := ih (apply held setting)
      rw [List.foldl_cons, later, apply]
      cases read : read? setting with
      | none => exact ⟨new, by simp [removes, read]⟩
      | some cookie =>
          cases ended : expires setting with
          | true =>
              refine ⟨new, ?_⟩
              have gone (name : String) : removes (setting :: rest) name = (name == cookie.name || removes rest name) := by
                simp [removes, read, ended, BEq.comm]
              simp only [if_true, Ordered.keys_erase, List.filter_filter, gone, Bool.not_or, bne, Bool.and_comm]
          | false =>
              have same : removes (setting :: rest) = removes rest := by
                funext name
                simp [removes, ended]
              simp only [Bool.false_eq_true, if_false, Ordered.keys_put, same]
              split
              · exact ⟨new, rfl⟩
              · exact ⟨_, by rw [List.filter_append, List.append_assoc]⟩

end Cookie

namespace World

def storeResponses (number : Nat) (responses : List (Ordered Http.HeaderValue)) (world : World) : World :=
  responses.foldl (fun world headers => ((storeCookies number (settingsIn headers)).run world).2) world

theorem store_responses_jars (number : Nat) (responses : List (Ordered Http.HeaderValue)) (world : World) :
    (storeResponses number responses world).jars =
      world.jars.modify number (CookieJar.take (responses.flatMap settingsIn)) := by
  induction responses generalizing world with
  | nil => exact (Channel.take_nothing world.jars number).symm
  | cons headers rest ih =>
      have both : CookieJar.take (rest.flatMap settingsIn) ∘ CookieJar.take (settingsIn headers) =
          CookieJar.take ((headers :: rest).flatMap settingsIn) := by
        funext jar
        simp [CookieJar.take, List.foldl_append]
      refine (ih ((storeCookies number (settingsIn headers)).run world).2).trans ?_
      rw [store_cookies_jars, List.modify_modify_eq, both]

def cookiesAfter (number : Nat) (responses : List (Ordered Http.HeaderValue)) (world : World) : Ordered String :=
  ((storeResponses number responses world).jar number).cookies

theorem cookies_after_stored (number : Nat) (responses : List (Ordered Http.HeaderValue)) (world : World)
    (opened : number < world.jars.length) :
    cookiesAfter number responses world =
      (responses.flatMap settingsIn).foldl Cookie.apply (world.jar number).cookies := by
  rw [cookiesAfter, jar_modified opened (store_responses_jars number responses world)]
  rfl

end World

namespace Cookie

open World

-- What a jar holds after the cookies of any responses have been stored, one response after the other. The last
-- setting that spells a cookie of a name decides: the jar holds the value that it gives, or nothing if it expires; a
-- name that no setting spells is left as it was. Settings that spell no cookie count for nothing, and neither does the
-- way in which the settings are shared out to the responses. Of the names that are held at some moment, those that no
-- later setting removes stay in front, in their order. A name that is set keeps its place if it is held, and comes last
-- if it is not, be it for the first time or again.
theorem last_setting_decides (number : Nat) (responses : List (Ordered Http.HeaderValue)) (world : World)
    (opened : number < world.jars.length) :
    let settings := responses.flatMap settingsIn
    (∀ name, (∀ setting ∈ settings, ∀ value, ¬ Spells setting name value) →
      (cookiesAfter number responses world).get? name = (world.jar number).cookies.get? name) ∧
    (∀ early setting later name value, settings = early ++ setting :: later → Spells setting name value →
      (∀ other ∈ later, ∀ value, ¬ Spells other name value) →
      (Expires setting → (cookiesAfter number responses world).get? name = none) ∧
        (¬ Expires setting → (cookiesAfter number responses world).get? name = some value)) ∧
    (∀ early setting later others, settings = early ++ setting :: later → (∀ name value, ¬ Spells setting name value) →
      others.flatMap settingsIn = early ++ later →
      cookiesAfter number others world = cookiesAfter number responses world) ∧
    (∀ others, others.flatMap settingsIn = settings →
      cookiesAfter number others world = cookiesAfter number responses world) ∧
    (∀ later, ∃ kept new,
      Ordered.keys (cookiesAfter number (responses ++ later) world) = kept ++ new ∧
      kept.Sublist (Ordered.keys (cookiesAfter number responses world)) ∧
      ∀ name, name ∈ kept ↔ name ∈ Ordered.keys (cookiesAfter number responses world) ∧
        ¬ ∃ setting ∈ later.flatMap settingsIn, Expires setting ∧ ∃ value, Spells setting name value) ∧
    ∀ headers setting name value, settingsIn headers = [setting] → Spells setting name value → ¬ Expires setting →
      let names := Ordered.keys (cookiesAfter number responses world)
      Ordered.keys (cookiesAfter number (responses ++ [headers]) world) =
        if name ∈ names then names else names ++ [name] := by
  intro settings
  have stored (others : List (Ordered Http.HeaderValue)) := cookies_after_stored number others world opened
  have further (later : List (Ordered Http.HeaderValue)) : cookiesAfter number (responses ++ later) world =
      (later.flatMap settingsIn).foldl apply (cookiesAfter number responses world) := by
    rw [stored, stored, List.flatMap_append, List.foldl_append]
  refine ⟨fun name unspelled => ?_, ?_, ?_, fun others same => ?_, fun later => ?_, ?_⟩
  · rw [stored]
    exact get_spared_fold settings _ name fun setting member => (spares_iff name setting).mpr (unspelled setting member)
  · intro early setting later name value split spells last
    have decided := get_last_setting early later (world.jar number).cookies spells last
    rwa [← split, ← stored] at decided
  · intro early setting later others split idle same
    rw [stored, stored, same, show responses.flatMap settingsIn = _ from split, List.foldl_append, List.foldl_append,
      List.foldl_cons, apply_idle _ setting idle]
  · rw [stored, stored, same]
  · rw [further]
    obtain ⟨new, keys⟩ := keys_fold (later.flatMap settingsIn) (cookiesAfter number responses world)
    refine ⟨_, new, keys, List.filter_sublist, fun name => ?_⟩
    rw [List.mem_filter, Bool.not_eq_true', ← removes_iff, Bool.not_eq_true]
  · intro headers setting name value single spells lasting names
    have one : [headers].flatMap settingsIn = [setting] := by simp [single]
    rw [further, one, List.foldl_cons, List.foldl_nil, apply_lasting _ spells lasting, Ordered.keys_put]

theorem last_setting_decides_set_again :
    let removal : Ordered Http.HeaderValue :=
      [("set-cookie", .many [" theme=dark; Path=/", "auth=old;\u00a0MAX-AGE=0 ;HttpOnly", "no cookie"])]
    let renewal : Ordered Http.HeaderValue := [("set-cookie", .many ["auth=a=b; Max-Age=00"])]
    let world : World :=
      { device := fun _ _ => .timedOut, jars := [{ cookies := [("auth", "old"), ("theme", "light")] }] }
    (cookiesAfter 0 [removal, renewal] world).get? "auth" = some "a=b" ∧
      (cookiesAfter 0 [removal] world).get? "auth" = none ∧
      Ordered.keys (cookiesAfter 0 [removal, renewal] world) = ["theme", "auth"] := by
  intro removal renewal world
  have opened : 0 < world.jars.length := by decide
  have renews : Spells "auth=a=b; Max-Age=00" "auth" "a=b" := spells_of_read _ _ _ rfl
  have lasting : ¬ Expires "auth=a=b; Max-Age=00" := fun ends => absurd ((expires_iff _).mpr ends) (by decide +kernel)
  have removes : Spells "auth=old;\u00a0MAX-AGE=0 ;HttpOnly" "auth" "old" := spells_of_read _ _ _ rfl
  have expired : Expires "auth=old;\u00a0MAX-AGE=0 ;HttpOnly" := (expires_iff _).mp (by decide +kernel)
  have silent : ∀ other ∈ ["no cookie"], ∀ value, ¬ Spells other "auth" value := by
    intro other member value spells
    rw [List.mem_singleton.mp member] at spells
    exact nomatch (rfl : read? "no cookie" = none).symm.trans (read_of_spells _ _ _ spells)
  have both := last_setting_decides 0 [removal, renewal] world opened
  have first := last_setting_decides 0 [removal] world opened
  have held : Ordered.keys (cookiesAfter 0 [removal] world) = ["theme"] := by decide +kernel
  refine ⟨(both.2.1 _ _ [] "auth" "a=b" rfl renews (by simp)).2 lasting,
    (first.2.1 [_] _ ["no cookie"] "auth" "old" rfl removes silent).1 expired, ?_⟩
  have last := first.2.2.2.2.2 renewal _ "auth" "a=b" rfl renews lasting
  rw [held] at last
  exact last

end Cookie

end DeviceLogin
