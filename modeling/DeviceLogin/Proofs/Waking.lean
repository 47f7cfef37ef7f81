import DeviceLogin.Proofs.ServiceAddresses
import DeviceLogin.Proofs.Text.HexDigits
import DeviceLogin.WakeOnLan

set_option autoImplicit false

namespace DeviceLogin

namespace WakeOnLan

def ungrouped (mac : String) : List Char := mac.toList.filter (!isGrouping ·)

def Spelled (mac : String) : Prop :=
  (ungrouped mac).length = 12 ∧ ∀ c ∈ ungrouped mac, Text.isHexDigit c = true

def packetOf (bytes : List UInt8) : List UInt8 := List.replicate 6 0xFF ++ (List.replicate 16 bytes).flatten

-- The layout of a packet: six bytes of ones, and sixteen times the six bytes that the digits spell in pairs.
structure Laid (digits : List Char) (packet : List UInt8) : Prop where
  length : packet.length = 102
  ones : ∀ place < 6, packet[place]? = some 0xFF
  copies : ∀ copy < 16, ∀ place < 6, ∃ high low h l, digits[2 * place]? = some high ∧ digits[2 * place + 1]? = some low ∧
    Text.hexValue? high = some h ∧ Text.hexValue? low = some l ∧
    packet[6 + 6 * copy + place]? = some (UInt8.ofNat (16 * h + l))

theorem mac_digits (mac : String) (digits : List Char) :
    macDigits? mac = some digits ↔ Spelled mac ∧ ungrouped mac = digits := by
  have whole : macDigits? mac =
      if (ungrouped mac).length = 12 && (ungrouped mac).all Text.isHexDigit then some (ungrouped mac) else none := rfl
  have spelled : ((ungrouped mac).length = 12 && (ungrouped mac).all Text.isHexDigit) = true ↔ Spelled mac := by
    rw [Bool.and_eq_true, decide_eq_true_eq, List.all_eq_true, Spelled]
  rw [whole, Option.ite_none_right_eq_some, spelled, Option.some_inj]

theorem packet_iff (mac : String) (packet : List UInt8) :
    packet? mac = some packet ↔ Spelled mac ∧ packetOf (Text.bytesOfHex (ungrouped mac)) = packet := by
  rw [packet?, Option.map_eq_some_iff]
  constructor
  · rintro ⟨digits, known, rfl⟩
    obtain ⟨spelled, rfl⟩ := (mac_digits mac digits).mp known
    exact ⟨spelled, rfl⟩
  · rintro ⟨spelled, rfl⟩
    exact ⟨ungrouped mac, (mac_digits mac _).mpr ⟨spelled, rfl⟩, rfl⟩

theorem get_copies {α : Type} (block : List α) (copies copy place : Nat) (within : copy < copies)
    (inside : place < block.length) :
    (List.replicate copies block).flatten[block.length * copy + place]? = block[place]? := by
  induction copies generalizing copy with
  | zero => omega
  | succ rest ih =>
      rw [List.replicate_succ, List.flatten_cons]
      cases copy with
      | zero => rw [Nat.mul_zero, Nat.zero_add, List.getElem?_append_left inside]
      | succ before =>
          have behind : block.length * (before + 1) + place = block.length + (block.length * before + place) := by
            rw [Nat.mul_succ]
            omega
          rw [behind, List.getElem?_append_right (Nat.le_add_right _ _), Nat.add_sub_cancel_left]
          exact ih before (by omega)

theorem get_packet (bytes : List UInt8) (six : bytes.length = 6) (copy place : Nat) (within : copy < 16)
    (inside : place < 6) : (packetOf bytes)[6 + 6 * copy + place]? = bytes[place]? := by
  have copied := get_copies bytes 16 copy place within (by omega)
  rw [six] at copied
  rw [packetOf, Nat.add_assoc, List.getElem?_append_right (by simp), List.length_replicate, Nat.add_sub_cancel_left]
  exact copied

theorem six_bytes (mac : String) (spelled : Spelled mac) : (Text.bytesOfHex (ungrouped mac)).length = 6 := by
  rw [Text.bytes_length _ spelled.2, spelled.1]

theorem laid_packet (mac : String) (spelled : Spelled mac) :
    Laid (ungrouped mac) (packetOf (Text.bytesOfHex (ungrouped mac))) := by
  have six := six_bytes mac spelled
  refine ⟨?_, fun place early => ?_, fun copy within place inside => ?_⟩
  · simp [packetOf, six]
  · rw [packetOf, List.getElem?_append_left (by simpa using early), List.getElem?_replicate, if_pos early]
  · obtain ⟨high, low, h, l, first, second, one, two, byte⟩ :=
      Text.byte_spelled (ungrouped mac) spelled.2 place (by rw [spelled.1]; omega)
    exact ⟨high, low, h, l, first, second, one, two, (get_packet _ six copy place within inside).trans byte⟩

theorem packet_of_injective (bytes others : List UInt8) (six : bytes.length = 6) (also : others.length = 6)
    (same : packetOf bytes = packetOf others) : bytes = others := by
  refine List.ext_getElem? fun place => ?_
  by_cases inside : place < 6
  · have here := get_packet bytes six 0 place (by decide) inside
    rw [same, get_packet others also 0 place (by decide) inside] at here
    exact here.symm
  · rw [List.getElem?_eq_none (by omega), List.getElem?_eq_none (by omega)]

theorem same_packet_iff (mac other : String) (one : Spelled mac) (two : Spelled other) :
    packetOf (Text.bytesOfHex (ungrouped mac)) = packetOf (Text.bytesOfHex (ungrouped other)) ↔
      Text.sameCaseless (String.ofList (ungrouped mac)) (String.ofList (ungrouped other)) = true := by
  rw [Text.same_caseless_digits _ _ one.2 two.2,
    ← Text.same_bytes_iff _ _ one.2 two.2 (by rw [one.1]) (two.1.trans one.1.symm)]
  constructor
  · exact packet_of_injective _ _ (six_bytes mac one) (six_bytes other two)
  · exact congrArg packetOf

theorem digit_ungrouping (c : Char) (digit : Text.isHexDigit c = true) : isGrouping c = false := by
  have known : ∀ code < 128, Text.isHexDigit (Char.ofNat code) = true → isGrouping (Char.ofNat code) = false := by decide
  have here := known c.toNat (Text.hex_digit_ascii c digit)
  rw [Char.ofNat_toNat] at here
  exact here digit

theorem spells_pair (pairs : Nat) (text : List Char) (spells : Shape.spellsMac (pairs + 1) text = true) :
    ∃ a b between tail, text = a :: b :: (between ++ tail) ∧ Text.isHexDigit a = true ∧ Text.isHexDigit b = true ∧
      between ∈ [[], [':'], ['-']] ∧ Shape.spellsMac pairs tail = true := by
  match text, spells with
  | a :: b :: rest, spells =>
      simp only [Shape.spellsMac, Bool.and_eq_true] at spells
      obtain ⟨⟨first, second⟩, later⟩ := spells
      split at later
      · next tail => exact ⟨a, b, [':'], tail, rfl, first, second, by simp, later⟩
      · next tail => exact ⟨a, b, ['-'], tail, rfl, first, second, by simp, later⟩
      · exact ⟨a, b, [], rest, rfl, first, second, by simp, later⟩

theorem spells_last (text : List Char) (spells : Shape.spellsMac 0 text = true) :
    ∃ a b, text = [a, b] ∧ Text.isHexDigit a = true ∧ Text.isHexDigit b = true := by
  match text, spells with
  | [a, b], spells => exact ⟨a, b, rfl, Bool.and_eq_true_iff.mp spells⟩

theorem spells_digits (pairs : Nat) (text : List Char) (spells : Shape.spellsMac pairs text = true) :
    (text.filter (!isGrouping ·)).length = 2 * pairs + 2 ∧
      ∀ c ∈ text.filter (!isGrouping ·), Text.isHexDigit c = true := by
  induction pairs generalizing text with
  | zero =>
      obtain ⟨a, b, rfl, first, second⟩ := spells_last text spells
      simp [digit_ungrouping, first, second]
  | succ pairs ih =>
      obtain ⟨a, b, between, tail, rfl, first, second, separator, later⟩ := spells_pair pairs text spells
      obtain ⟨length, digits⟩ := ih tail later
      have skipped : between.filter (!isGrouping ·) = [] := by
        have each : ∀ between ∈ [[], [':'], ['-']], between.filter (!isGrouping ·) = [] := by decide
        exact each between separator
      have kept : (a :: b :: (between ++ tail)).filter (!isGrouping ·) = a :: b :: tail.filter (!isGrouping ·) := by
        simp [digit_ungrouping, first, second, skipped]
      rw [kept]
      refine ⟨by simp only [List.length_cons, length]; omega, ?_⟩
      simp only [List.forall_mem_cons]
      exact ⟨first, second, digits⟩

theorem spelled_of_check (mac : String) (spells : Shape.spellsMac 5 mac.toList = true) : Spelled mac :=
  spells_digits 5 mac.toList spells

theorem spelled_filled (mac : String) (spelled : Spelled mac) : Text.isBlank mac = false := by
  rw [Bool.eq_false_iff]
  intro blank
  have gone : ungrouped mac = [] := by
    refine List.filter_eq_nil_iff.mpr fun c member => ?_
    simp [isGrouping, List.all_eq_true.mp blank c member]
  have twelve := spelled.1
  rw [gone] at twelve
  cases twelve

def use (target : Target) (packet : List UInt8) (plan : SocketPlan) : SocketUse :=
  ⟨if plan.bindError.isSome then none else some packet, target.port, target.address⟩

def broadcasted (target : Target) (packet : List UInt8) (world : World) : World :=
  { world with
    socketsOpened := world.socketsOpened + 1
    trace := world.trace ++ [.broadcast (use target packet (world.sockets world.socketsOpened))] }

theorem broadcast_run (target : Target) (packet : List UInt8) (world : World) :
    ∃ message, (broadcast target packet).run world = (message, broadcasted target packet world) := by
  rw [broadcasted, use]
  simp only [broadcast, StateT.run_bind, StateT.run_get, pure_bind]
  cases (world.sockets world.socketsOpened).bindError with
  | some message => exact ⟨some message, rfl⟩
  | none => exact ⟨_, rfl⟩

theorem wake_run (parent : Logger) (target : Target) (ip : Option String) (mac : String) (packet : List UInt8)
    (found : packet? mac = some packet) (world : World) :
    ∃ line, ((wake parent target ip (some mac)).run world).2 =
      ((World.record (.logged .debug line)).run (broadcasted target packet world)).2 := by
  have present : Text.present? (some mac) = some mac := by
    rw [Text.present?, spelled_filled mac ((packet_iff mac packet).mp found).1]
    rfl
  obtain ⟨message, sent⟩ := broadcast_run target packet world
  simp only [wake, present, found, StateT.run_bind, sent]
  cases message <;> exact ⟨_, rfl⟩

end WakeOnLan

namespace Shape

theorem mac_ok (value result : Option Json) (given : Json) (passed : check (.optional (.text [.macAddress])) value = .ok result)
    (there : value = some given) : ∃ mac, given = .str mac ∧ spellsMac 5 mac.toList = true := by
  subst there
  cases given with
  | str mac =>
      cases spells : spellsMac 5 mac.toList with
      | true => exact ⟨mac, rfl, spells⟩
      | false => simp [check, TextRule.fault?, spells] at passed
  | _ => cases passed

theorem accepted_mac (data value : Json) (found : Option Json) (passed : check settings (some data) = .ok found)
    (given : data.member? "deviceMacAddress" = some value) :
    ∃ mac, value = .str mac ∧ WakeOnLan.Spelled mac := by
  cases data with
  | obj members =>
      rw [settings, check] at passed
      obtain ⟨known, fields, -⟩ := mapped_ok passed
      have field := check_fields_get _ members known (by decide) fields ("deviceMacAddress", .optional (.text [.macAddress])) (by simp)
      obtain ⟨mac, rfl, spells⟩ := mac_ok _ _ value field given
      exact ⟨mac, rfl, WakeOnLan.spelled_of_check mac spells⟩
  | _ => cases given

end Shape

namespace Settings

theorem written_get_behind (first : String × Setting) (others : List (String × Setting)) (name : String)
    (apart : first.1 ≠ name) : Ordered.get? (written (first :: others)) name = Ordered.get? (written others) name := by
  obtain ⟨known, setting⟩ := first
  cases setting with
  | absent => rfl
  | null | text => simp [written, Setting.toJson?, Ordered.get?, apart]

theorem json_mac (settings : Settings) : settings.toJson.member? "deviceMacAddress" = settings.deviceMacAddress.toJson? :=
  (written_get_behind _ _ _ (by simp)).trans (written_get "deviceMacAddress" settings.deviceMacAddress _ (by simp))

theorem accepted_spelled (settings : Settings) (mac : String) (accepted : settings.errors = [])
    (configured : settings.deviceMacAddress = .text mac) :
    WakeOnLan.Spelled mac ∧ settings.macAddress? = some mac := by
  obtain ⟨found, checked⟩ := settings.accepted_checked accepted
  have given : settings.toJson.member? "deviceMacAddress" = some (.str mac) := by
    rw [json_mac, configured, Setting.toJson?]
  obtain ⟨same, value, spelled⟩ := Shape.accepted_mac settings.toJson (.str mac) found checked given
  cases value
  have filled := WakeOnLan.spelled_filled mac spelled
  exact ⟨spelled, by simp [macAddress?, configured, Setting.present?, Setting.value?, Text.present?, filled]⟩

end Settings

-- An address has a packet if and only if twelve hexadecimal digits are left of it without what groups them. The packet
-- is laid out for these digits, and packets of two spellings are equal exactly if the digits differ in case only. Every
-- address that the check of the settings accepts has a packet, and so the device of settings that are accepted with one is
-- woken over exactly one socket, which the whole packet is sent over if it can be bound.
theorem WakeOnLan.packets_fit_check :
    (∀ mac, (packet? mac).isSome = true ↔
      (ungrouped mac).length = 12 ∧ ∀ c ∈ ungrouped mac, Text.isHexDigit c = true) ∧
    (∀ mac packet, packet? mac = some packet → Laid (ungrouped mac) packet) ∧
    (∀ mac other packet another, packet? mac = some packet → packet? other = some another →
      (packet = another ↔
        Text.sameCaseless (String.ofList (ungrouped mac)) (String.ofList (ungrouped other)) = true)) ∧
    (∀ data found value, Shape.check Shape.settings (some data) = .ok found →
      data.member? "deviceMacAddress" = some value →
      ∃ mac packet, value = .str mac ∧ packet? mac = some packet) ∧
    ∀ (settings : Settings) mac, settings.errors = [] → settings.deviceMacAddress = .text mac →
      settings.macAddress? = some mac ∧ ∃ packet, packet? mac = some packet ∧
        ∀ parent target ip (world : World),
          let after := ((wake parent target ip settings.macAddress?).run world).2
          let plan := world.sockets world.socketsOpened
          let sent := if plan.bindError.isSome then none else some packet
          after.socketsOpened = world.socketsOpened + 1 ∧
            ∃ line, after.trace =
              world.trace ++ [.broadcast ⟨sent, target.port, target.address⟩, .logged .debug line] := by
  have packet (mac : String) (spelled : Spelled mac) := (packet_iff mac _).mpr ⟨spelled, rfl⟩
  refine ⟨fun mac => ⟨fun found => ?_, fun spelled => ?_⟩, ?_, ?_, ?_, ?_⟩
  · obtain ⟨packet, found⟩ := Option.isSome_iff_exists.mp found
    exact ((packet_iff mac packet).mp found).1
  · rw [packet mac spelled]
    rfl
  · intro mac packet found
    obtain ⟨spelled, rfl⟩ := (packet_iff mac packet).mp found
    exact laid_packet mac spelled
  · intro mac other packet another found also
    obtain ⟨one, rfl⟩ := (packet_iff mac packet).mp found
    obtain ⟨two, rfl⟩ := (packet_iff other another).mp also
    exact same_packet_iff mac other one two
  · intro data found value passed given
    obtain ⟨mac, same, spelled⟩ := Shape.accepted_mac data value found passed given
    exact ⟨mac, _, same, packet mac spelled⟩
  · intro settings mac accepted configured
    obtain ⟨spelled, used⟩ := settings.accepted_spelled mac accepted configured
    refine ⟨used, _, packet mac spelled, fun parent target ip world => ?_⟩
    obtain ⟨line, woken⟩ := wake_run parent target ip mac _ (packet mac spelled) world
    rw [used]
    refine ⟨congrArg World.socketsOpened woken, line, (congrArg World.trace woken).trans ?_⟩
    exact List.append_assoc _ _ _

example : (WakeOnLan.packet? "aabb.ccdd.eeff").isSome = true ∧ Shape.spellsMac 5 "aabb.ccdd.eeff".toList = false := by
  decide +kernel

end DeviceLogin
