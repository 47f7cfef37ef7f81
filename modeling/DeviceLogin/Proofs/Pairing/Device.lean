import DeviceLogin.Pairing
import DeviceLogin.Proofs.Cookie.Header
import DeviceLogin.Proofs.Json.Quoting
import DeviceLogin.Proofs.Replies
import DeviceLogin.Proofs.Text.Encodings
import DeviceLogin.Proofs.Traffic

set_option autoImplicit false

namespace DeviceLogin

namespace Http

def callOpening (method : String) : List Char := '\x7b' :: (Json.quote "method" ++ ':' :: Json.quote method)

def Request.calls (request : Request) (method : String) : Bool :=
  match request.body with
  | some body => (callOpening method).isPrefixOf body.toList
  | none => false

def readBasic? (text : String) : Option (String × String) :=
  if "Basic ".toList.isPrefixOf text.toList then
    (Text.Base64.decode? (text.toList.drop 6)).bind fun bytes =>
      let pair := (Text.ofUtf8 bytes).toList
      match pair.dropWhile (· != ':') with
      | ':' :: password => some (String.ofList (pair.takeWhile (· != ':')), String.ofList password)
      | _ => none
  else none

def Request.credentials? (request : Request) : Option (String × String) :=
  (request.headers.get? "Authorization").bind readBasic?

def Request.cookies (request : Request) : List String := ((request.headers.get? "Cookie").map Cookie.pieces).getD []

def ErrorFree (body : String) : Prop :=
  ∃ members, Json.read? body = some (.obj members) ∧
    ∀ codes, Ordered.get? members "error" = some (.arr codes) → codes = []

theorem call_opening_unique {method other : String} {rest tail : List Char}
    (same : callOpening method ++ rest = callOpening other ++ tail) : method = other := by
  simp only [callOpening, List.cons_append, List.append_assoc, List.cons.injEq, true_and] at same
  have quoted := (List.cons.inj (List.append_cancel_left same)).2
  exact Json.quote_unique quoted

theorem calls_one {request : Request} {method other : String} (one : request.calls method) (two : request.calls other) :
    method = other := by
  unfold Request.calls at one two
  cases body : request.body with
  | none => simp [body] at one
  | some body =>
      simp only [body, List.isPrefixOf_iff_prefix] at one two
      obtain ⟨rest, first⟩ := one
      obtain ⟨tail, second⟩ := two
      exact call_opening_unique (first.trans second.symm)

theorem calls_of_body (request : Request) (method : String) (members : List (String × Json))
    (body : request.body = some (Json.write (.obj (("method", .str method) :: members)))) : request.calls method := by
  have written : ∃ rest, (Json.write (.obj (("method", .str method) :: members))).toList = callOpening method ++ rest := by
    cases members <;> simp [Json.write, Json.chars, Json.memberChars, callOpening]
  obtain ⟨rest, written⟩ := written
  simp [Request.calls, body, written, List.isPrefixOf_iff_prefix]

theorem read_basic (pin : String) : readBasic? (Pairing.basic pin) = some ("", pin) := by
  have text : (Pairing.basic pin).toList = "Basic ".toList ++ Text.Base64.digits (Text.utf8 (":" ++ pin)) := by
    simp [Pairing.basic, Text.Base64.encode]
  have chars : (":" ++ pin).toList = ':' :: pin.toList := by simp
  have after : (Pairing.basic pin).toList.drop 6 = Text.Base64.digits (Text.utf8 (":" ++ pin)) := by
    rw [text]
    rfl
  rw [readBasic?, after, Text.Base64.decode_digits, if_pos (by simp [text])]
  simp only [Option.bind_some, Text.of_utf8_utf8, chars]
  simp [String.ofList_toList]

end Http

namespace Reply

theorem fault_of_empty (status : Number) : (ofBody status "").fault = none := rfl

theorem fault_free (status : Number) (body : String) (free : Http.ErrorFree body) : (ofBody status body).fault = none := by
  obtain ⟨members, read, free⟩ := free
  cases good : isEnvelope members with
  | false => rw [of_body_object_other status body members read good]
  | true =>
      have unfaulted := (faultless_iff members).mpr free
      rw [of_body_envelope status body members read good, fault_of_envelope, unfaulted]

end Reply

-- It lets a client register with the PIN alone, gives it a cookie for that, and lets in who shows the cookie.
structure PairingDevice (device : List Http.Request → Http.Request → Http.Exchange) (pin value : String) : Prop where
  refuses : ∀ asked request, request.calls "actRegister" →
    (request.headers.get? "Authorization" = none ∨ ∃ user other, request.credentials? = some (user, other) ∧ other ≠ pin) →
    ∃ response, (device asked request).response? = some response ∧ response.status = 401
  registers : ∀ asked request, request.calls "actRegister" → request.credentials? = some ("", pin) →
    ∃ response, (device asked request).response? = some response ∧ response.status = 200 ∧ Http.ErrorFree response.body ∧
      (∃ setting ∈ World.settingsIn response.headers, Cookie.Sets "auth" value setting) ∧
      ∀ setting ∈ World.settingsIn response.headers, Cookie.Sets "auth" value setting ∨ Cookie.Spares "auth" setting
  admits : ∀ asked request, request.calls "getDeviceMode" ∨ request.calls "getPowerStatus" →
    "auth" ++ "=" ++ value ∈ request.cookies →
    ∃ response, (device asked request).response? = some response ∧ response.status = 200 ∧ Http.ErrorFree response.body
  denies : ∀ asked request, request.calls "getDeviceMode" ∨ request.calls "getPowerStatus" →
    "auth" ++ "=" ++ value ∉ request.cookies →
    ∃ response, (device asked request).response? = some response ∧ response.status = 403 ∧ response.body = ""
  silent : ∀ asked request, ¬ (request.calls "actRegister" ∧ request.credentials? = some ("", pin)) →
    ∀ setting ∈ (device asked request).settings, Cookie.Spares "auth" setting

namespace Http

def Exchange.whole (status : Number) (headers : Ordered HeaderValue) (body : String) : Exchange :=
  .answered { status := some status, headers := headers, chunks := [.text body], streamError := none, truncated := false }

theorem response_whole (status : Number) (headers : Ordered HeaderValue) (body : String) (final : status.isZero = false) :
    (Exchange.whole status headers body).response? = some ⟨status, body, headers⟩ := by
  simp [Exchange.whole, Exchange.response?, Answer.events, settle, Chunk.toBytes, statusOr500, final, Text.of_utf8_utf8]

theorem settings_whole (status : Number) (headers : Ordered HeaderValue) (body : String) (final : status.isZero = false) :
    (Exchange.whole status headers body).settings = World.settingsIn headers := by
  rw [Exchange.settings, response_whole status headers body final]

theorem unset_whole (status : Number) (body : String) (final : status.isZero = false) (P : String → Prop) :
    ∀ setting ∈ (Exchange.whole status [] body).settings, P setting := by
  rw [settings_whole status [] body final]
  exact fun _ member => absurd member List.not_mem_nil

end Http

def emptyResult : String := "\x7b\"result\":[]\x7d"

def lastingSetting (value : String) : String := "auth=" ++ value ++ "; Path=/; HttpOnly"

def cookieDevice (pin value : String) (_ : List Http.Request) (request : Http.Request) : Http.Exchange :=
  if request.calls "actRegister" then
    if request.credentials? = some ("", pin) then .whole 200 [("set-cookie", .many [lastingSetting value])] emptyResult
    else .whole 401 [] ""
  else if "auth" ++ "=" ++ value ∈ request.cookies then .whole 200 [] emptyResult
  else .whole 403 [] ""

theorem read_empty_result : Json.read? emptyResult = some (.obj [("result", .arr [])]) := by
  have chars : emptyResult.toList = ['\x7b', '"', 'r', 'e', 's', 'u', 'l', 't', '"', ':', '[', ']', '\x7d'] := by decide
  have members : Json.readMembers 13 ['"', 'r', 'e', 's', 'u', 'l', 't', '"', ':', '[', ']', '\x7d'] =
      some ([("result", .arr [])], []) := rfl
  have ordered : Ordered.asMembers [("result", Json.arr [])] = [("result", .arr [])] :=
    List.perm_singleton.mp (Ordered.member_order_perm _)
  rw [Json.read?, chars]
  simp [Json.skipGap, Json.isGap, Json.readValue, members, Json.object, ordered]

theorem empty_result_free : Http.ErrorFree emptyResult := by
  refine ⟨[("result", .arr [])], read_empty_result, fun codes named => ?_⟩
  cases named

theorem lasting_setting_sets (value : String) (plain : ';' ∉ value.toList) :
    Cookie.Sets "auth" value (lastingSetting value) := by
  have text : (lastingSetting value).toList = ("auth=".toList ++ value.toList) ++ ';' :: " Path=/; HttpOnly".toList := by
    simp [lastingSetting]
  refine ⟨⟨"; Path=/; HttpOnly".toList, by simp [lastingSetting], .inr ⟨_, rfl⟩⟩, ?_⟩
  rw [Cookie.expires, text, Text.split_first ';' _ _ (by simpa using plain), List.drop_one, List.tail_cons]
  decide

theorem probe_elsewhere {request : Http.Request} (probe : request.calls "getDeviceMode" ∨ request.calls "getPowerStatus") :
    ¬ request.calls "actRegister" := by
  intro registers
  rcases probe with mode | power
  · exact absurd (Http.calls_one mode registers) (by decide)
  · exact absurd (Http.calls_one power registers) (by decide)

theorem cookie_device_settings (pin value : String) (asked : List Http.Request) (request : Http.Request) :
    ∀ setting ∈ (cookieDevice pin value asked request).settings, setting = lastingSetting value := by
  rw [cookieDevice]
  split
  · split
    · rw [Http.settings_whole 200 _ _ (by decide +kernel)]
      exact fun setting member => List.mem_singleton.mp member
    · exact Http.unset_whole 401 "" (by decide +kernel) _
  · split
    · exact Http.unset_whole 200 _ (by decide +kernel) _
    · exact Http.unset_whole 403 "" (by decide +kernel) _

theorem cookie_device_pairs (pin value : String) (plain : ';' ∉ value.toList) :
    PairingDevice (cookieDevice pin value) pin value where
  refuses asked request calls wrong := by
    have other : request.credentials? ≠ some ("", pin) := by
      rcases wrong with none | ⟨user, other, credentials, apart⟩
      · simp [Http.Request.credentials?, none]
      · simp [credentials, apart]
    rw [cookieDevice, if_pos calls, if_neg other]
    exact ⟨_, Http.response_whole 401 [] "" (by decide +kernel), rfl⟩
  registers asked request calls credentials := by
    rw [cookieDevice, if_pos calls, if_pos credentials]
    refine ⟨_, Http.response_whole 200 _ _ (by decide +kernel), rfl, empty_result_free, ?_⟩
    have only : World.settingsIn [("set-cookie", .many [lastingSetting value])] = [lastingSetting value] := rfl
    rw [only]
    exact ⟨⟨_, List.mem_singleton_self _, lasting_setting_sets value plain⟩, fun setting member =>
      .inl (List.mem_singleton.mp member ▸ lasting_setting_sets value plain)⟩
  admits asked request probe shown := by
    rw [cookieDevice, if_neg (probe_elsewhere probe), if_pos shown]
    exact ⟨_, Http.response_whole 200 _ _ (by decide +kernel), rfl, empty_result_free⟩
  denies asked request probe hidden := by
    rw [cookieDevice, if_neg (probe_elsewhere probe), if_neg hidden]
    exact ⟨_, Http.response_whole 403 _ _ (by decide +kernel), rfl, rfl⟩
  silent asked request unregistered := by
    rw [cookieDevice]
    split
    · next calls =>
      rw [if_neg fun credentials => unregistered ⟨calls, credentials⟩]
      exact Http.unset_whole 401 "" (by decide +kernel) _
    · split
      · exact Http.unset_whole 200 _ (by decide +kernel) _
      · exact Http.unset_whole 403 _ (by decide +kernel) _

end DeviceLogin
