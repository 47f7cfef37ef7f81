import DeviceLogin.Proofs.Http.Sending
import DeviceLogin.Proofs.Login.Confinement
import DeviceLogin.Proofs.Pairing.Device
import DeviceLogin.Proofs.Text.Base64

set_option autoImplicit false

namespace DeviceLogin

open Http (isPlain isPrintable)

theorem World.setting_sent {world : World} {asked : List Http.Request} {request : Http.Request}
    {response : Http.Response} {setting : String} (answered : (world.answers asked request).response? = some response)
    (member : setting ∈ World.settingsIn response.headers) :
    setting ∈ (world.device (asked.filter world.sender.sends) request).settings := by
  rw [answers] at answered
  split at answered
  · cases answered
  · rw [Http.Exchange.settings, answered]
    exact member

namespace Cookie

variable {sender : Http.Sender} {cookies other : Ordered String}

-- Cookies that the client takes in a header.
structure Legible (sender : Http.Sender) (cookies : Ordered String) : Prop extends AllSound cookies where
  legible : ∀ cookie ∈ cookies, sender.takes cookie.1 = true ∧ sender.takes cookie.2 = true

theorem legible_empty : Legible sender [] := ⟨⟨List.nodup_nil, nofun⟩, nofun⟩

theorem legible_filter (keep : String × String → Bool) (legible : Legible sender cookies) :
    Legible sender (cookies.filter keep) :=
  ⟨sound_filter cookies keep legible.toAllSound, fun cookie member => legible.legible cookie (List.mem_filter.mp member).1⟩

theorem legible_perm (same : cookies.Perm other) (legible : Legible sender other) : Legible sender cookies :=
  ⟨sound_perm same legible.toAllSound, fun cookie member => legible.legible cookie (same.mem_iff.mp member)⟩

theorem takes_read {setting : String} {cookie : Cookie} (read : read? setting = some cookie)
    (takes : sender.takes setting = true) : sender.takes cookie.name = true ∧ sender.takes cookie.value = true := by
  obtain ⟨blanks, attributes, text, -⟩ := (spells_of_read setting cookie.name cookie.value read).text
  have every : ∀ c ∈ blanks ++ (cookie.name.toList ++ '=' :: (cookie.value.toList ++ attributes)), sender.field c = true :=
    text ▸ List.all_eq_true.mp takes
  simp only [List.mem_append, List.mem_cons] at every
  exact ⟨List.all_eq_true.mpr fun c member => every c (.inr (.inl member)),
    List.all_eq_true.mpr fun c member => every c (.inr (.inr (.inr (.inl member))))⟩

theorem legible_apply (setting : String) (takes : sender.takes setting = true) (legible : Legible sender cookies) :
    Legible sender (apply cookies setting) := by
  refine ⟨sound_apply cookies setting legible.toAllSound, ?_⟩
  rw [apply]
  cases read : read? setting with
  | none => exact legible.legible
  | some cookie =>
      dsimp only
      split
      · exact (legible_filter _ legible).legible
      · intro held member
        rcases Ordered.mem_put _ _ _ _ member with rfl | old
        · exact takes_read read takes
        · exact legible.legible held old

theorem legible_fold (settings : List String) (takes : ∀ setting ∈ settings, sender.takes setting = true)
    (legible : Legible sender cookies) : Legible sender (settings.foldl apply cookies) := by
  induction settings generalizing cookies with
  | nil => exact legible
  | cons setting rest ih =>
      exact ih (fun later member => takes later (List.mem_cons_of_mem _ member))
        (legible_apply setting (takes setting List.mem_cons_self) legible)

theorem mem_intercalate {between : List Char} {parts : List (List Char)} {c : Char}
    (member : c ∈ List.intercalate between parts) : c ∈ between ∨ ∃ part ∈ parts, c ∈ part := by
  induction parts with
  | nil => simp at member
  | cons first rest ih =>
      cases rest with
      | nil => exact .inr ⟨first, by simp, by simpa using member⟩
      | cons second rest =>
          rw [List.intercalate_cons_cons, List.append_assoc, List.mem_append, List.mem_append] at member
          rcases member with here | here | later
          · exact .inr ⟨first, by simp, here⟩
          · exact .inl here
          · exact (ih later).imp_right fun ⟨part, member, inside⟩ => ⟨part, List.mem_cons_of_mem _ member, inside⟩

theorem takes_header {jar : CookieJar} {header : String} (legible : Legible sender jar.cookies)
    (sent : jar.header? = some header) : sender.takes header = true := by
  have listed : (String.intercalate "; " (jar.cookies.map text)) = header := by
    rw [CookieJar.header?] at sent
    split at sent
    · cases sent
    · exact Option.some.inj sent
  have plain : ∀ c ∈ "; ".toList ++ ['='], sender.field c = true := by
    intro c member
    refine sender.printed c ?_
    simp only [String.reduceToList, List.cons_append, List.nil_append, List.mem_cons, List.not_mem_nil, or_false] at member
    obtain rfl | rfl | rfl := member <;> decide
  refine List.all_eq_true.mpr fun c member => ?_
  rw [← listed, String.toList_intercalate, List.map_map] at member
  rcases mem_intercalate member with between | ⟨part, listed, inside⟩
  · exact plain c (List.mem_append_left _ between)
  · obtain ⟨cookie, held, rfl⟩ := List.mem_map.mp listed
    rw [Function.comp_apply, text_chars, List.mem_append, List.mem_cons] at inside
    obtain ⟨name, value⟩ := legible.legible cookie held
    rcases inside with named | rfl | valued
    · exact List.all_eq_true.mp name c named
    · exact plain _ (by simp)
    · exact List.all_eq_true.mp value c valued

end Cookie

theorem Pairing.basic_plain (pin : String) : isPlain (basic pin) = true := by
  have letters : ('=' :: Text.Base64.alphabet).all isPrintable = true := by decide
  refine List.all_eq_true.mpr fun c member => ?_
  have text : (basic pin).toList = "Basic ".toList ++ Text.Base64.digits (Text.utf8 (":" ++ pin)) := by
    simp [basic, Text.Base64.encode]
  rw [text, List.mem_append] at member
  rcases member with word | coded
  · exact List.all_eq_true.mp (by decide : "Basic ".toList.all isPrintable = true) c word
  · exact List.all_eq_true.mp letters c (Text.Base64.padded_letters (Text.Base64.digits_padded _) c coded)

-- A channel over whose address and with whose timeout the client sends.
structure Channel.Open (sender : Http.Sender) (channel : Channel) (url : Url) : Prop where
  read : Url.read? channel.url = some url
  path : url.requestPath.toList.all sender.path = true
  timed : sender.timeout (channel.timeout.getD Http.defaultTimeout) = true

def Http.Sender.Fits (sender : Http.Sender) (fields : Ordered String) : Prop :=
  ∀ field ∈ fields, sender.name field.1 = true ∧ sender.takes field.2 = true

theorem fits_put {sender : Http.Sender} {fields : Ordered String} (fits : sender.Fits fields) (name value : String)
    (own : name ∈ Http.ownHeaders) (takes : sender.takes value = true) : sender.Fits (fields.put name value) := by
  intro field member
  rcases Ordered.mem_put _ _ _ _ member with rfl | old
  · exact ⟨sender.named _ own, takes⟩
  · exact fits field old

theorem usual_fits (sender : Http.Sender) :
    sender.Fits [("Content-Type", "application/json; charset=UTF-8"), ("Accept", "application/json")] := by
  have kind : isPlain "application/json; charset=UTF-8" = true := by decide +kernel
  have accepted : isPlain "application/json" = true := by decide +kernel
  simp only [Http.Sender.Fits, List.mem_cons, List.not_mem_nil, or_false, forall_eq_or_imp, forall_eq]
  exact ⟨⟨sender.named _ (by decide), sender.takes_plain kind⟩, sender.named _ (by decide), sender.takes_plain accepted⟩

theorem posted_sends {sender : Http.Sender} {channel : Channel} {url : Url} {traffic : Traffic} {jar : Option Nat}
    (clear : channel.Open sender url) (only : channel.credentials.Only none jar)
    (legible : ∀ header, jar.bind traffic.cookies? = some header → sender.takes header = true) (message : Message)
    (pin : Option String) :
    sender.sends (Sent.posted channel message (Pairing.headers pin) url traffic).request = true := by
  let base : Ordered String := [("Content-Type", "application/json; charset=UTF-8"), ("Accept", "application/json")]
  have extended : sender.Fits ((base.putAll channel.credentials.headers).putAll (Pairing.headers pin)) := by
    rw [only.1]
    cases pin with
    | none => exact usual_fits sender
    | some pin => exact fits_put (usual_fits sender) "Authorization" _ (by decide) (sender.takes_plain (Pairing.basic_plain pin))
  have headers : sender.Fits (channel.headersFor (Pairing.headers pin) (channel.credentials.jar.bind traffic.cookies?)) := by
    rw [only.2]
    cases sent : jar.bind traffic.cookies? with
    | none => exact extended
    | some cookies => exact fits_put extended "Cookie" cookies (by decide) (legible cookies sent)
  refine (sender.sends_iff _).mpr ⟨clear.path, fun field member => headers field ?_, clear.timed⟩
  exact (List.mem_filter.mp member).1

end DeviceLogin
