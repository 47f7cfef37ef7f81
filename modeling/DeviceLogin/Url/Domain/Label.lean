import DeviceLogin.Url.Domain.Label.Table
import DeviceLogin.Url.Domain.Spelling
import DeviceLogin.Url.Punycode

set_option autoImplicit false

namespace DeviceLogin.Url.Domain

open Text (inCodeRanges)

inductive Direction where
  | leftToRight
  | rightToLeft
  | arabicDigit
  | commonDigit
  | undirected
  | nonspacing
deriving DecidableEq

def direction (c : Char) : Direction :=
  if inCodeRanges nonspacingMarks c then .nonspacing
  else if inCodeRanges rightToLeftLetters c || inCodeRanges arabicLetters c then .rightToLeft
  else if inCodeRanges arabicDigits c then .arabicDigit
  else if inCodeRanges commonDigits c then .commonDigit
  else if inCodeRanges undirected c then .undirected
  else .leftToRight

def isMark (c : Char) : Bool := inCodeRanges nonspacingMarks c || inCodeRanges spacingMarks c

def cutsVowel (c : Char) : Bool := Text.combiningClass c == 9

def nonJoiner : Nat := 0x200C

def joiner : Nat := 0x200D

def separatesJoining (before after : List Char) : Bool :=
  before.any (inCodeRanges joinsAfter) && after.any (inCodeRanges joinsBefore)

def joinerInPlace? (before : List Char) : List Char → Option Bool
  | [] => none
  | c :: rest =>
      if c.toNat = nonJoiner then some (before.head?.any cutsVowel || separatesJoining before rest)
      else if c.toNat = joiner then some (before.head?.any cutsVowel)
      else joinerInPlace? (c :: before) rest

def runsLeftToRight (body : List Direction) : Bool :=
  body.dropLast.all fun d => d != .rightToLeft && d != .arabicDigit

def runsRightToLeft (body : List Direction) : Bool :=
  body.all (· != .leftToRight) && !(body.contains .arabicDigit && body.contains .commonDigit) &&
    body.getLast?.any fun d => d == .rightToLeft || d == .arabicDigit || d == .commonDigit

def directionBody (label : List Char) : List Direction :=
  ((label.map direction).reverse.dropWhile (· == .nonspacing)).reverse

def runsOneWay (label : List Char) : Bool :=
  let body := directionBody label
  if !(body.contains .rightToLeft || body.contains .arabicDigit) then true
  else if body.head? == some .leftToRight then runsLeftToRight body
  else runsRightToLeft body

def isValidLabel (label : List Char) : Bool :=
  match label with
  | [] => false
  | first :: _ => !isMark first && (joinerInPlace? [] label).getD (runsOneWay label)

def asciiMark : List Char := ['x', 'n', '-', '-']

def isAsciiForm (label : List Char) : Bool :=
  match Punycode.decode? (label.drop asciiMark.length) with
  | none => false
  | some plain => label.all Punycode.isAscii && isSpelled plain && isValidLabel plain

def labelToAscii? (label : List Char) : Option (List Char) :=
  if asciiMark.isPrefixOf label then if isAsciiForm label then some label else none
  else if label.all Punycode.isAscii then some label
  else if isValidLabel label then some (asciiMark ++ Punycode.encode label)
  else none

end DeviceLogin.Url.Domain
