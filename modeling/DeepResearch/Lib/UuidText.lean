/-
`UUID(text)`: a UUID is read from its text, whatever decorates it.

`urn:`, `uuid:` and hyphens are dropped wherever they stand, and braces at
the ends. What is left are 32 characters that `int` reads to the base 16,
so that a sign, a prefix, underscores and white space count among the 32.
-/
import DeepResearch.Lib.DecimalDigits
import DeepResearch.Lib.FormCoding
import DeepResearch.Lib.Trim

namespace UuidText

/-- `text.replace(part, "")`, with some characters still to be passed
over. -/
def remove (part : List Char) : Nat → List Char → List Char
  | _, [] => []
  | skip + 1, _ :: text => remove part skip text
  | 0, c :: text =>
      if part <+: c :: text then remove part (part.length - 1) text
      else c :: remove part 0 text

/-- A decimal digit of any script, as the ASCII one. -/
def asciiDigit (c : Char) : Char :=
  (DecimalDigits.decimalValue c).elim c fun value => Char.ofNat (0x30 + value)

/-- Hexadecimal digits behind a value, with single underscores between
them; `due` says that a digit has to come. -/
def hexDigits : Nat → Bool → List Char → Option Nat
  | value, due, [] => if due then none else some value
  | value, due, c :: text =>
      if c = '_' then if due then none else hexDigits value true text
      else (FormCoding.hexValue c).bind fun digit =>
        hexDigits (16 * value + digit) false text

/-- The digits behind the sign. One underscore may follow the prefix. -/
def unsigned : List Char → Option Nat
  | '0' :: 'x' :: '_' :: text | '0' :: 'X' :: '_' :: text
  | '0' :: 'x' :: text | '0' :: 'X' :: text
  | text => hexDigits 0 true text

/-- `int(text, 16)`, of a text without a minus sign. The information
separators are white space to `isspace` only. -/
def intBase16 (isSpace : Char → Bool) (text : List Char) : Option Nat :=
  let isBlank := fun c : Char =>
    isSpace c && !(0x1C ≤ c.toNat && c.toNat ≤ 0x1F)
  match (Trim.trim isBlank text).map asciiDigit with
  | '+' :: digits => unsigned digits
  | digits => unsigned digits

/-- `UUID(text)`, unless it raises. -/
def ofText? (isSpace : Char → Bool) (text : List Char) :
    Option (BitVec 128) :=
  let braces := [Char.ofNat 0x7B, Char.ofNat 0x7D]
  let plain := remove "uuid:".toList 0 (remove "urn:".toList 0 text)
  let hex := remove ['-'] 0 (Trim.trim (· ∈ braces) plain)
  if hex.length = 32 then (intBase16 isSpace hex).map (BitVec.ofNat 128)
  else none

-- The hyphens may stand anywhere, and may be missing.
example : ofText? (· = ' ') "urn:uuid:0123456789abcdef-0123456789ABCDEF".toList
    = some 0x0123456789abcdef0123456789abcdef#128 := by decide

example : ofText? (· = ' ') "e1".toList = none := by decide

end UuidText
