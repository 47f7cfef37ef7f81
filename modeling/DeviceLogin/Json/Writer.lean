import DeviceLogin.Json.Basic
import DeviceLogin.Text.Hex

set_option autoImplicit false

namespace DeviceLogin.Json

def escapeChar (c : Char) : List Char :=
  if c = '"' then ['\\', '"']
  else if c = '\\' then ['\\', '\\']
  else if c = '\n' then ['\\', 'n']
  else if c = '\r' then ['\\', 'r']
  else if c = '\t' then ['\\', 't']
  else if c.toNat = 8 then ['\\', 'b']
  else if c.toNat = 12 then ['\\', 'f']
  else if c.toNat < 0x20 then
    ['\\', 'u', '0', '0', Text.hexDigit (c.toNat / 16), Text.hexDigit (c.toNat % 16)]
  else [c]

def quote (text : String) : List Char := '"' :: (text.toList.flatMap escapeChar ++ ['"'])

def writeNumber : Number → List Char
  | .finite negative units => (Number.text (.finite negative units)).toList
  | _ => ['n', 'u', 'l', 'l']

mutual

def chars : Json → List Char
  | .null => ['n', 'u', 'l', 'l']
  | .bool value => if value then ['t', 'r', 'u', 'e'] else ['f', 'a', 'l', 's', 'e']
  | .num value => writeNumber value
  | .str value => quote value
  | .arr items => '[' :: (itemChars items ++ [']'])
  | .obj members => '\x7b' :: (memberChars members ++ ['\x7d'])

def itemChars : List Json → List Char
  | [] => []
  | [item] => chars item
  | item :: rest => chars item ++ ',' :: itemChars rest

def memberChars : List (String × Json) → List Char
  | [] => []
  | [(name, value)] => quote name ++ ':' :: chars value
  | (name, value) :: rest => quote name ++ ':' :: (chars value ++ ',' :: memberChars rest)

end

def write (value : Json) : String := String.ofList (chars value)

end DeviceLogin.Json
