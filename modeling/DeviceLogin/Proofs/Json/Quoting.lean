import DeviceLogin.Json.Reader
import DeviceLogin.Json.Writer

set_option autoImplicit false

namespace DeviceLogin

theorem Text.hex_value_digit : ∀ value < 16, hexValue? (hexDigit value) = some value := by decide

namespace Json

theorem read_control (c : Char) (control : c.toNat < 0x20) (fuel : Nat) (done rest : List Char) :
    readString (fuel + 1) done
        (['\\', 'u', '0', '0', Text.hexDigit (c.toNat / 16), Text.hexDigit (c.toNat % 16)] ++ rest) =
      readString fuel (c :: done) rest := by
  have zero : Text.hexValue? '0' = some 0 := by decide
  have high := Text.hex_value_digit (c.toNat / 16) (by omega)
  have low := Text.hex_value_digit (c.toNat % 16) (by omega)
  have unit : hexQuad? '0' '0' (Text.hexDigit (c.toNat / 16)) (Text.hexDigit (c.toNat % 16)) = some c.toNat := by
    simp only [hexQuad?, zero, high, low, Option.bind_eq_bind, Option.bind_some]
    exact congrArg some (by omega)
  have whole : isHighHalf c.toNat = false ∧ isLowHalf c.toNat = false := by
    simp only [isHighHalf, isLowHalf, Bool.and_eq_false_iff, decide_eq_false_iff_not]
    omega
  simp [readString, unit, whole, ofUnit, Char.ofNat_toNat]

theorem read_escaped (c : Char) (fuel : Nat) (done rest : List Char) :
    readString (fuel + 1) done (escapeChar c ++ rest) = readString fuel (c :: done) rest := by
  unfold escapeChar
  split
  · next same => simp [readString, escaped?, same]
  split
  · next same => simp [readString, escaped?, same]
  split
  · next same => simp [readString, escaped?, same]
  split
  · next same => simp [readString, escaped?, same]
  split
  · next same => simp [readString, escaped?, same]
  split
  · next same =>
    obtain rfl : Char.ofNat 8 = c := by rw [← same, Char.ofNat_toNat]
    simp [readString, escaped?]
  split
  · next same =>
    obtain rfl : Char.ofNat 12 = c := by rw [← same, Char.ofNat_toNat]
    simp [readString, escaped?]
  split
  · next control => exact read_control c control fuel done rest
  · next quote slash _ _ _ _ _ plain => simp [readString, slash, plain]

theorem read_characters (text : List Char) (fuel : Nat) (done rest : List Char) (enough : text.length < fuel) :
    readString fuel done (text.flatMap escapeChar ++ '"' :: rest) =
      some (String.ofList (done.reverse ++ text), rest) := by
  induction text generalizing fuel done with
  | nil =>
      obtain ⟨steps, rfl⟩ : ∃ steps, fuel = steps + 1 := ⟨fuel - 1, by simp at enough; omega⟩
      simp [readString]
  | cons c tail ih =>
      obtain ⟨steps, rfl⟩ : ∃ steps, fuel = steps + 1 := ⟨fuel - 1, by simp at enough; omega⟩
      rw [List.flatMap_cons, List.append_assoc, read_escaped, ih steps (c :: done) (by simpa using enough)]
      simp

theorem read_quoted (text : String) (fuel : Nat) (rest : List Char) (enough : text.toList.length < fuel) :
    readString fuel [] (text.toList.flatMap escapeChar ++ '"' :: rest) = some (text, rest) := by
  rw [read_characters text.toList fuel [] rest enough]
  simp

theorem escaped_length (text : List Char) : text.length ≤ (text.flatMap escapeChar).length := by
  induction text with
  | nil => simp
  | cons c tail ih =>
      have some : 1 ≤ (escapeChar c).length := by
        unfold escapeChar
        repeat' split
        all_goals simp
      rw [List.flatMap_cons, List.length_append, List.length_cons]
      omega

theorem quote_append (text : String) (rest : List Char) :
    quote text ++ rest = '"' :: (text.toList.flatMap escapeChar ++ '"' :: rest) := by
  simp [quote]

theorem quote_unique {text other : String} {rest tail : List Char} (same : quote text ++ rest = quote other ++ tail) :
    text = other := by
  rw [quote_append, quote_append] at same
  have inner := (List.cons.inj same).2
  have one := read_quoted text (text.toList.length + other.toList.length + 1) rest (by omega)
  have two := read_quoted other (text.toList.length + other.toList.length + 1) tail (by omega)
  rw [inner, two] at one
  exact (Prod.mk.inj (Option.some.inj one)).1.symm

end Json

end DeviceLogin
