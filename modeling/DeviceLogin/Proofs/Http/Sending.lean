import DeviceLogin.Http.Client
import DeviceLogin.Json.Reader
import DeviceLogin.Proofs.MemberOrder

set_option autoImplicit false

namespace DeviceLogin

theorem Json.unread_capital (c : Char) (text : String) (capital : c ∈ ['H', 'I', 'R', 'T']) (opens : text.toList.head? = some c) :
    Json.read? text = none := by
  obtain ⟨rest, chars⟩ : ∃ rest, text.toList = c :: rest := List.head?_eq_some_iff.mp opens
  rw [read?, chars]
  simp only [List.mem_cons, List.not_mem_nil, or_false] at capital
  obtain rfl | rfl | rfl | rfl := capital <;> simp [skipGap, isGap, readValue, readNumber]

namespace Http

def isPlain (text : String) : Bool := text.toList.all isPrintable

end Http

namespace Http.Sender

variable (sender : Sender) (request : Request)

theorem takes_plain {value : String} (plain : isPlain value = true) : sender.takes value = true :=
  List.all_eq_true.mpr fun c member => sender.printed c (List.all_eq_true.mp plain c member)

theorem refusal_unread {message : String} (refused : sender.refusal? request = some message) :
    Json.read? message = none := by
  rw [refusal?] at refused
  split at refused
  · cases refused
    exact Json.unread_capital 'R' _ (by decide) (by decide)
  · split at refused
    · next found =>
      obtain rfl := Option.some.inj refused
      obtain ⟨field, -, fault⟩ := List.exists_of_findSome?_eq_some found
      rw [fieldFault?] at fault
      split at fault
      · cases fault
        exact Json.unread_capital 'H' _ (by decide) (by simp)
      · split at fault
        · cases fault
          exact Json.unread_capital 'I' _ (by decide) (by simp)
        · cases fault
    · rw [timeoutFault?] at refused
      split at refused
      · cases refused
      · cases refused
        exact Json.unread_capital 'T' _ (by decide) (by simp)

theorem sends_iff :
    sender.sends request = true ↔ request.path.toList.all sender.path = true ∧
      (∀ field ∈ request.given, sender.name field.1 = true ∧ sender.takes field.2 = true) ∧
      sender.timeout request.timeout = true := by
  have fit (field : String × String) :
      sender.fieldFault? field = none ↔ sender.name field.1 = true ∧ sender.takes field.2 = true := by
    rw [fieldFault?]
    cases sender.name field.1 <;> cases sender.takes field.2 <;> simp
  have inTime : sender.timeoutFault? request.timeout = none ↔ sender.timeout request.timeout = true := by
    rw [timeoutFault?]
    cases sender.timeout request.timeout <;> simp
  have fields : (Ordered.inMemberOrder request.given).findSome? sender.fieldFault? = none ↔
      ∀ field ∈ request.given, sender.name field.1 = true ∧ sender.takes field.2 = true := by
    rw [List.findSome?_eq_none_iff]
    exact ⟨fun all field member => (fit field).mp (all field ((Ordered.member_order_perm _).mem_iff.mpr member)),
      fun all field member => (fit field).mpr (all field ((Ordered.member_order_perm _).mem_iff.mp member))⟩
  rw [sends, refusal?, Option.isNone_iff_eq_none, ← fields, ← inTime]
  cases request.path.toList.all sender.path with
  | false => simp
  | true => cases (Ordered.inMemberOrder request.given).findSome? sender.fieldFault? <;> simp

theorem refused_of_not_sends (stopped : sender.sends request = false) :
    ∃ message, sender.refusal? request = some message := by
  rw [sends, Option.isNone_eq_false_iff] at stopped
  exact Option.isSome_iff_exists.mp stopped

end Http.Sender

namespace World

variable {world : World} {request : Http.Request}

theorem answers_sent (asked : List Http.Request) (sends : world.sender.sends request = true) :
    world.answers asked request = world.device (asked.filter world.sender.sends) request := by
  rw [answers, Option.isNone_iff_eq_none.mp sends]

theorem answers_refused {message : String} (asked : List Http.Request)
    (refused : world.sender.refusal? request = some message) : world.answers asked request = .failed message := by
  rw [answers, refused]

end World

end DeviceLogin
