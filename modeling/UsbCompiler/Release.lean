import UsbCompiler.Error
import UsbCompiler.Text.Pattern

/-!
# `UsbCompiler.Release` — the release of a device

A release can be given as a text that names a version. A version is a row of numbers between dots, such as
`1.4.2`. Around it there can be blanks, a `v` and an epoch in front, and marks for pre-releases, post-releases,
development releases and local builds behind. Only the numbers matter here; the rest just has to be well-formed.
Letters can have either case.

The device descriptor shows the release as four decimal digits, one in each four bits: two for the first number
of the version and one each for the second and the third.

## Contents
- `Version.suffix`: the pattern of all that follows the numbers.
- `Version.skipEpoch`, `Version.readNumbers` and `Version.numbers?`: reading a text from left to right.
- `Version.IsVersion`: what it means for a text to name a version with certain numbers.
- `Release.encode`: three numbers as binary-coded decimal.
- `Release.ofText` and `Release.ofCode`: the two ways to give a release.
- `Release.ofCode_eq_ok_iff`: a code that passes is not changed.
-/

namespace UsbCompiler.Release

namespace Version

/-! ## Characters -/

/-- The blanks of Unicode, with the four separators of ASCII counted among them. -/
def blanks : List Char := [
  '\t', '\n', '\x0B', '\x0C', '\r', '\x1C', '\x1D', '\x1E', '\x1F', ' ', '\u0085', '\u00A0', '\u1680',
  '\u2000', '\u2001', '\u2002', '\u2003', '\u2004', '\u2005', '\u2006', '\u2007', '\u2008', '\u2009',
  '\u200A', '\u2028', '\u2029', '\u202F', '\u205F', '\u3000']

/-- The decimal digits. Digits of other scripts do not count. -/
def digits : List Char := ['0', '1', '2', '3', '4', '5', '6', '7', '8', '9']

/-- The letters that local builds can be named with. -/
def letters : List Char := [
  'a', 'b', 'c', 'd', 'e', 'f', 'g', 'h', 'i', 'j', 'k', 'l', 'm', 'n', 'o', 'p', 'q', 'r', 's', 't', 'u',
  'v', 'w', 'x', 'y', 'z', 'A', 'B', 'C', 'D', 'E', 'F', 'G', 'H', 'I', 'J', 'K', 'L', 'M', 'N', 'O', 'P',
  'Q', 'R', 'S', 'T', 'U', 'V', 'W', 'X', 'Y', 'Z']

/-- The number of a digit. -/
def digitValue (c : Char) : Nat := c.toNat - 48

/-! ## What follows the numbers -/

/-- A number. -/
def number : Pattern := .several (.oneOf digits)

/-- What can stand between two parts. -/
def separator : Pattern := .oneOf ['.', '_', '-']

/-- A word of lower-case letters, in either case. -/
def word (lower : List Char) : Pattern :=
  .sequence (lower.map fun c => .oneOf [c, c.toUpper])

/-- A mark: one of some words, with a separator in front and a number behind that can both be left out. -/
def mark (first : List Char) (others : List (List Char)) : Pattern :=
  .sequence [.optional separator, .choice (word first) (others.map word), .optional separator,
    .optional number]

/-- The mark of a pre-release. -/
def preRelease : Pattern :=
  mark ['a', 'l', 'p', 'h', 'a'] [['a'], ['b', 'e', 't', 'a'], ['b'], ['p', 'r', 'e', 'v', 'i', 'e', 'w'],
    ['p', 'r', 'e'], ['c'], ['r', 'c']]

/-- The mark of a post-release, which can also be a bare number behind a hyphen. -/
def postRelease : Pattern :=
  .either (.both (.oneOf ['-']) number) (mark ['p', 'o', 's', 't'] [['r', 'e', 'v'], ['r']])

/-- The mark of a development release. -/
def development : Pattern := mark ['d', 'e', 'v'] []

/-- One part of the name of a local build. -/
def localPart : Pattern := .several (.oneOf (letters ++ digits))

/-- The name of a local build. -/
def localBuild : Pattern :=
  .sequence [.oneOf ['+'], localPart, .many (.both separator localPart)]

/-- All that can follow the numbers. -/
def suffix : Pattern :=
  .sequence [.optional preRelease, .optional postRelease, .optional development, .optional localBuild,
    .many (.oneOf blanks)]

/-! ## Reading -/

/-- A text behind the `v` that it may begin with. -/
def skipLetter : List Char → List Char
  | [] => []
  | c :: rest => if c = 'v' ∨ c = 'V' then rest else c :: rest

/-- A text behind the epoch that it may begin with: a number and an exclamation mark. -/
def skipEpoch (text : List Char) : List Char :=
  if text.takeWhile (· ∈ digits) = [] then text
  else
    match text.dropWhile (· ∈ digits) with
    | [] => text
    | c :: rest => if c = '!' then rest else text

/-- The numbers between dots at the start of a text, and what follows them. The first digits of the first
    number have been read and make `current`. A dot belongs to the numbers if a digit follows it. -/
def readNumbers (current : Nat) : List Char → List Nat × List Char
  | [] => ([current], [])
  | [c] => if c ∈ digits then ([10 * current + digitValue c], []) else ([current], [c])
  | c :: d :: rest =>
    if c ∈ digits then readNumbers (10 * current + digitValue c) (d :: rest)
    else if c = '.' ∧ d ∈ digits then
      let (numbers, tail) := readNumbers (digitValue d) rest
      (current :: numbers, tail)
    else ([current], c :: d :: rest)

/-- The numbers of the version that a text names, if it names one. -/
def numbers? (text : List Char) : Option (List Nat) :=
  match skipEpoch (skipLetter (text.dropWhile (· ∈ blanks))) with
  | [] => none
  | c :: rest =>
    if c ∈ digits then
      let (numbers, tail) := readNumbers (digitValue c) rest
      if suffix.accepts tail then some numbers else none
    else none

/-! ## The form of a version -/

/-- Digits that spell a number, leading zeros allowed. -/
def Spells (text : List Char) (n : Nat) : Prop :=
  text ≠ [] ∧ (∀ c ∈ text, c ∈ digits) ∧ text.foldl (fun value c => 10 * value + digitValue c) 0 = n

/-- Numbers between dots. -/
inductive Dotted : List Char → List Nat → Prop
  | one {text : List Char} {n : Nat} (h : Spells text n) : Dotted text [n]
  | more {text rest : List Char} {n : Nat} {numbers : List Nat} (h : Spells text n)
      (hrest : Dotted rest numbers) : Dotted (text ++ '.' :: rest) (n :: numbers)

/-- What can stand in front of the numbers. -/
def lead : Pattern :=
  .sequence [.many (.oneOf blanks), .optional (.oneOf ['v', 'V']), .optional (.both number (.oneOf ['!']))]

/-- A text names a version with the given numbers if it consists of a lead, these numbers between dots and a
    suffix. -/
def IsVersion (text : List Char) (numbers : List Nat) : Prop :=
  ∃ front middle back, text = front ++ middle ++ back
    ∧ Pattern.Matches lead front ∧ Dotted middle numbers ∧ Pattern.Matches suffix back

end Version

/-! ## Releases in binary-coded decimal -/

/-- Three numbers as binary-coded decimal: two digits, one digit, one digit. -/
def encode (major minor micro : Nat) : Nat :=
  0x1000 * (major / 10) + 0x100 * (major % 10) + 0x10 * minor + micro

/-- The code of the version that a text names. Numbers that the text does not have are zero, and those behind
    the third do not matter. -/
def ofText (text : Text) : Except Error Int :=
  match text.characters?.bind Version.numbers? with
  | none => .error (.invalidRelease text)
  | some numbers =>
    let major := numbers.getD 0 0
    let minor := numbers.getD 1 0
    let micro := numbers.getD 2 0
    if major ≤ 99 ∧ minor ≤ 9 ∧ micro ≤ 9 then .ok (encode major minor micro)
    else .error (.releaseTooBig text)

/-- A code that a caller already has. It only needs to fit in 16 bits. -/
def ofCode (code : Int) : Except Error Int :=
  if 0 ≤ code ∧ code < 0x10000 then .ok code else .error (.releaseRange code)

theorem ofCode_eq_ok_iff {code release : Int} :
    ofCode code = .ok release ↔ (0 ≤ code ∧ code < 0x10000) ∧ code = release := by
  unfold ofCode
  split
  · next range => exact ⟨fun h => ⟨range, Except.ok.inj h⟩, fun h => congrArg Except.ok h.2⟩
  · next range => exact ⟨nofun, fun h => absurd h.1 range⟩

end UsbCompiler.Release
