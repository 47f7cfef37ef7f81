import DeviceLogin.Ordered
import DeviceLogin.Text.Blank
import DeviceLogin.Text.Split

set_option autoImplicit false

namespace DeviceLogin

structure Cookie where
  name : String
  value : String

namespace Cookie

def isNameChar (c : Char) : Bool := c != '=' && c != ';' && !Text.isSpace c

def read? (setting : String) : Option Cookie :=
  let body := Text.trimStart setting.toList
  let name := body.takeWhile isNameChar
  match name, body.drop name.length with
  | _ :: _, '=' :: rest => some ⟨String.ofList name, String.ofList (rest.takeWhile (· != ';'))⟩
  | _, _ => none

def isAgeZero (part : List Char) : Bool :=
  (Text.trimEnd (Text.trimStart part)).map Char.toLower == "max-age=0".toList

def expires (setting : String) : Bool := ((Text.splitOn ';' setting.toList).drop 1).any isAgeZero

def apply (held : Ordered String) (setting : String) : Ordered String :=
  match read? setting with
  | none => held
  | some cookie => if expires setting then held.erase cookie.name else held.put cookie.name cookie.value

def changes (held : Ordered String) (setting : String) : Bool :=
  match read? setting with
  | none => false
  | some cookie =>
      if expires setting then held.has cookie.name else held.get? cookie.name != some cookie.value

def applyAll (held : Ordered String) (settings : List String) : Ordered String × Bool :=
  settings.foldl (fun (held, changed) setting => (apply held setting, changed || changes held setting)) (held, false)

theorem apply_unchanged (held : Ordered String) (setting : String) (same : changes held setting = false) :
    apply held setting = held := by
  unfold changes at same
  unfold apply
  cases found : read? setting with
  | none => rfl
  | some cookie =>
      rw [found] at same
      by_cases old : expires setting
      · simp only [if_pos old, Ordered.has, Option.isSome_eq_false_iff, Option.isNone_iff_eq_none] at same ⊢
        exact Ordered.erase_absent held cookie.name same
      · simp only [if_neg old, bne_eq_false_iff_eq] at same ⊢
        exact Ordered.put_same held cookie.name cookie.value same

theorem fold_changes (settings : List String) (held : Ordered String) (changed : Bool) :
    settings.foldl (fun (held, changed) setting => (apply held setting, changed || changes held setting)) (held, changed) =
      (settings.foldl apply held, changed || (applyAll held settings).2) := by
  induction settings generalizing held changed with
  | nil => simp [applyAll]
  | cons setting rest ih =>
      have tail : (applyAll held (setting :: rest)).2 = (changes held setting || (applyAll (apply held setting) rest).2) := by
        rw [applyAll, List.foldl_cons, ih, Bool.false_or]
      rw [List.foldl_cons, ih, tail, Bool.or_assoc]
      rfl

theorem apply_all_held (held : Ordered String) (settings : List String) :
    (applyAll held settings).1 = settings.foldl apply held := by
  rw [applyAll, fold_changes]

theorem apply_all_unchanged (held : Ordered String) (settings : List String) (same : (applyAll held settings).2 = false) :
    settings.foldl apply held = held := by
  induction settings generalizing held with
  | nil => rfl
  | cons setting rest ih =>
      rw [applyAll, List.foldl_cons, fold_changes] at same
      simp only [Bool.false_or, Bool.or_eq_false_iff] at same
      rw [List.foldl_cons, apply_unchanged held setting same.1]
      exact ih held (apply_unchanged held setting same.1 ▸ same.2)

end Cookie

end DeviceLogin
