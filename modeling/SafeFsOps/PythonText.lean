import Mathlib.Tactic.Common
import SafeFsOps.Json

/-!
# Texts as Python writes them

Error messages quote texts with `repr`, and payload columns hold JSON; both reach
the journal, so they are written out here character by character.
-/

namespace SafeFsOps

/-- The first and the last of each stretch of characters that `str.isprintable` refuses:
controls, formats, separators other than the blank, and private use. (Code points that are
not assigned, which differ from one version of Unicode to the next, are left out.) -/
def notPrintable : List (Nat × Nat) :=
  [(0x0, 0x1f), (0x7f, 0xa0), (0xad, 0xad), (0x600, 0x605), (0x61c, 0x61c), (0x6dd, 0x6dd), (0x70f, 0x70f),
    (0x890, 0x891), (0x8e2, 0x8e2), (0x1680, 0x1680), (0x180e, 0x180e), (0x2000, 0x200f), (0x2028, 0x202f),
    (0x205f, 0x2064), (0x2066, 0x206f), (0x3000, 0x3000), (0xe000, 0xf8ff), (0xfeff, 0xfeff), (0xfff9, 0xfffb),
    (0x110bd, 0x110bd), (0x110cd, 0x110cd), (0x13430, 0x13438), (0x1bca0, 0x1bca3), (0x1d173, 0x1d17a),
    (0xe0001, 0xe0001), (0xe0020, 0xe007f), (0xf0000, 0xffffd), (0x100000, 0x10fffd)]

/-- `str.isprintable`, of one character. -/
def isPrintable (c : Char) : Bool := ¬ notPrintable.any fun r => r.1 ≤ c.toNat ∧ c.toNat ≤ r.2

/-- So many hexadecimal digits of a number. -/
def hexDigits : Nat → Nat → List Char
  | 0, _ => []
  | width + 1, n => hexDigits width (n / 16) ++ [hexDigit (n % 16)]

/-- `repr` of a text, as `!r` puts it into a message: single quotes unless only
those occur in it, escapes for the quote, the backslash and what is not printable. -/
def pyRepr (s : String) : String :=
  let single := Char.ofNat 39
  let double := Char.ofNat 34
  let backslash := Char.ofNat 92
  let quote := if single ∈ s.toList ∧ double ∉ s.toList then double else single
  let escape (c : Char) : List Char :=
    if c = quote ∨ c = backslash then [backslash, c]
    else if c.toNat = 10 then [backslash, 'n']
    else if c.toNat = 13 then [backslash, 'r']
    else if c.toNat = 9 then [backslash, 't']
    else if isPrintable c then [c]
    else if c.toNat < 0x100 then [backslash, 'x'] ++ hexDigits 2 c.toNat
    else if c.toNat < 0x10000 then [backslash, 'u'] ++ hexDigits 4 c.toNat
    else [backslash, 'U'] ++ hexDigits 8 c.toNat
  String.ofList ([quote] ++ s.toList.flatMap escape ++ [quote])

/-- `repr` of an optional text. -/
def pyReprOpt (s : Option String) : String := (s.map pyRepr).getD "None"

/-- A text as `json.dumps` writes it: ASCII only, in double quotes. -/
def jsonString (s : String) : String := String.ofList (Json.writeText s.toList)

/-- A JSON object of already written values, its keys given in order. -/
def jsonObject (items : List (String × String)) : String :=
  String.ofList [Char.ofNat 123] ++
    ",".intercalate (items.map fun item => jsonString item.1 ++ ":" ++ item.2) ++ String.ofList [Char.ofNat 125]

end SafeFsOps
