import DeviceLogin.Client
import DeviceLogin.Proofs.Shapes
import DeviceLogin.Proofs.Url.Reading

set_option autoImplicit false

namespace DeviceLogin

theorem Shape.address_ok (value result : Option Json) (passed : Shape.check (.text [.address]) value = .ok result) :
    ∃ text url, value = some (.str text) ∧ Url.read? text = some url := by
  rcases value with _ | value
  · cases passed
  cases value with
  | str text =>
      cases read : Url.read? text with
      | some url => exact ⟨text, url, rfl, read⟩
      | none => simp [Shape.check, Shape.TextRule.fault?, read] at passed
  | _ => cases passed

namespace Settings

def written (settings : List (String × Setting)) : List (String × Json) :=
  settings.filterMap fun member => member.2.toJson?.map fun value => (member.1, value)

theorem written_get (name : String) (setting : Setting) (others : List (String × Setting))
    (apart : ∀ other ∈ others, other.1 ≠ name) :
    Ordered.get? (written ((name, setting) :: others)) name = setting.toJson? := by
  have absent : Ordered.get? (written others) name = none := by
    refine (Ordered.get_none_iff _ _).mpr fun listed => ?_
    obtain ⟨entry, member, named⟩ := List.mem_map.mp listed
    obtain ⟨other, within, found⟩ := List.mem_filterMap.mp member
    obtain ⟨json, -, rfl⟩ := Option.map_eq_some_iff.mp found
    exact apart other within named
  cases setting with
  | absent => exact absent
  | null | text => simp [written, Setting.toJson?, Ordered.get?]

theorem json_address (settings : Settings) : ∃ members, settings.toJson = .obj members ∧
    Ordered.get? members "deviceAddress" = settings.deviceAddress.toJson? :=
  ⟨_, rfl, written_get "deviceAddress" settings.deviceAddress _ (by simp)⟩

theorem accepted_checked (settings : Settings) (accepted : settings.errors = []) :
    ∃ found, Shape.check Shape.settings (some settings.toJson) = .ok found := by
  cases checked : Shape.check Shape.settings (some settings.toJson) with
  | ok found => exact ⟨found, rfl⟩
  | error issues => simp [errors, checked] at accepted

theorem accepted_address (settings : Settings) (accepted : settings.errors = []) :
    ∃ device, settings.deviceUrl? = some device ∧ Url.read? settings.address = some device := by
  obtain ⟨found, checked⟩ := settings.accepted_checked accepted
  obtain ⟨members, json, given⟩ := settings.json_address
  rw [json, Shape.settings, Shape.check] at checked
  obtain ⟨known, fields, -⟩ := Shape.mapped_ok checked
  rw [Shape.checkFields] at fields
  obtain ⟨⟨value, rest⟩, both, -⟩ := Shape.mapped_ok fields
  obtain ⟨text, device, value, read⟩ := Shape.address_ok _ _ (Shape.step_ok (Shape.both_ok both).1)
  have kind : settings.deviceAddress = .text text := by
    rw [given] at value
    cases kind : settings.deviceAddress <;> rw [kind] at value <;> cases value
    rfl
  refine ⟨device, ?_, ?_⟩
  · simp [deviceUrl?, kind, Setting.present?, Setting.value?, Text.present?, Url.readable_filled text device read, read]
  · simpa [address, kind, Setting.value?] using read

-- The address ends as it is read: with no query or fragment, with no white space, with no slash but those that one
-- takes off its end, unless all that it has is the start of a host, and with no further slash that dot segments leave.
structure EndsPlainly (settings : Settings) (device : Url) : Prop where
  tailless : Url.Tailless settings.address.toList
  trimmed : ∀ c ∈ (Url.unbroken settings.address.toList).getLast?, Url.isEdge c = false
  ended : (∀ c ∈ (Url.unbroken (settings.address.toList.rdropWhile (· == '/'))).getLast?,
      Url.isSlash (Url.isSpecial device.scheme) c = false) ∨
    Url.Hostless (Url.isSpecial device.scheme) (Url.unbroken (settings.address.toList.rdropWhile (· == '/')))
  few : (device.pathChars.rtakeWhile (· == '/')).length ≤ max 1 (settings.address.toList.rtakeWhile (· == '/')).length

theorem usual_ordinary (name : String) (usual : name ∈ Client.usualServices) : Url.Ordinary name.toList := by
  have kept : ∀ name ∈ Client.usualServices,
      name.toList.all (fun c => !Url.isSlash true c && !Url.encodesInPath c) = true := by decide
  have apart : ∀ name ∈ Client.usualServices, name.toList ≠ [] ∧
      Url.isParent name.toList = false ∧ Url.isHere name.toList = false ∧ Url.isDrive name.toList = false := by decide
  have each := List.all_eq_true.mp (kept name usual)
  simp only [Bool.and_eq_true, Bool.not_eq_true'] at each
  exact ⟨(apart name usual).1, fun c member => (each c member).1, fun c member => (each c member).2,
    (apart name usual).2⟩

-- The address of a usual service names the same place as the address of the device, and its path is that path, with
-- its last slashes left off, and the name of the service. The address of the device is one that the check accepts and
-- that ends as it is read.
theorem service_beneath_device (settings : Settings) (name : String) (usual : name ∈ Client.usualServices)
    (accepted : settings.errors = []) (plain : ∀ device ∈ settings.deviceUrl?, settings.EndsPlainly device) :
    ∃ device url, settings.deviceUrl? = some device ∧ Url.read? (settings.serviceUrl name) = some url ∧
      url.scheme = device.scheme ∧ url.hostName = device.hostName ∧ url.port = device.port ∧
      ∀ order, (Http.requestOf url order).path =
        String.ofList (device.pathChars.rdropWhile (· == '/') ++ '/' :: name.toList) := by
  obtain ⟨device, known, read⟩ := settings.accepted_address accepted
  have plain := plain device known
  let base := settings.address.toList.rdropWhile (· == '/')
  let slashes := (settings.address.toList.rtakeWhile (· == '/')).length
  have whole : settings.address.toList = base ++ List.replicate slashes '/' := by
    rw [← Url.only_slashes, List.rdropWhile_append_rtakeWhile]
  have tailless := plain.tailless
  have trimmed := plain.trimmed
  rw [← String.ofList_toList (s := settings.address), whole] at read
  rw [whole] at tailless trimmed
  obtain ⟨url, found, below⟩ := Url.read_below base name.toList slashes device read (tailless.before _) trimmed
    plain.ended (usual_ordinary name usual)
  refine ⟨device, url, known, found, below.scheme, below.host, below.port, fun order => ?_⟩
  have path := below.path.path plain.few
  rw [Http.requestOf, Url.requestPath, below.search, List.append_nil, path]

theorem dotted_address_beneath :
    let settings : Settings := { deviceAddress := .text " HTTP://192.168.1.20:80/a/../sony/.//" }
    settings.errors = [] ∧ (∀ device ∈ settings.deviceUrl?, settings.EndsPlainly device) ∧
      ∃ url, Url.read? (settings.serviceUrl "system") = some url ∧ url.hostName = "192.168.1.20" ∧
        ∀ order, (Http.requestOf url order).path = "/sony/system" := by
  intro settings
  have accepted : settings.errors = [] := by decide +kernel
  have read : settings.deviceUrl? = some
      { scheme := "http", host := some "192.168.1.20".toList, path := .segments ["sony".toList, [], []] } := by
    decide +kernel
  have plain : ∀ device ∈ settings.deviceUrl?, settings.EndsPlainly device := by
    intro device known
    rw [read] at known
    cases known
    have last : (Url.unbroken settings.address.toList).getLast? = some '/' := by decide +kernel
    have bare : (Url.unbroken (settings.address.toList.rdropWhile (· == '/'))).getLast? = some '.' := by decide +kernel
    refine ⟨⟨by decide +kernel, by decide +kernel⟩, ?_, .inl ?_, by decide +kernel⟩
    · simp [last, Url.isEdge]
    · simp [bare, Url.isSlash]
  obtain ⟨device, url, known, found, -, host, -, path⟩ :=
    service_beneath_device settings "system" (by decide) accepted plain
  rw [read] at known
  cases known
  exact ⟨accepted, plain, url, found, host, path⟩

theorem blank_ending_divides :
    let settings : Settings := { deviceAddress := .text "http://192.168.1.20/sony " }
    settings.errors = [] ∧ "system" ∈ Client.usualServices ∧
      ∃ device url, settings.deviceUrl? = some device ∧ Url.read? (settings.serviceUrl "system") = some url ∧
        String.ofList (device.pathChars.rdropWhile (· == '/') ++ '/' :: "system".toList) = "/sony/system" ∧
        (Http.requestOf url {}).path = "/sony%20/system" := by
  refine ⟨by decide +kernel, by decide,
    { scheme := "http", host := some "192.168.1.20".toList, path := .segments ["sony".toList] },
    { scheme := "http", host := some "192.168.1.20".toList, path := .segments ["sony%20".toList, "system".toList] },
    by decide +kernel, by decide +kernel, by decide +kernel, by decide +kernel⟩

end Settings

end DeviceLogin
