import AlertConsole.Text.Unprintable
set_option autoImplicit false

/-!
# Quoted text in log lines

A log line shows a text in double quotes, so that blanks and controls in it can be seen.
-/

namespace AlertConsole.Text

/-- A number in lower-case hexadecimal digits. -/
def hex (n : Nat) : String := String.ofList (Nat.toDigits 16 n)

/-- A character as it stands between double quotes. -/
def quoteChar (c : Char) : String :=
  if c = '\x00' then "\\0"
  else if c = '\t' then "\\t"
  else if c = '\r' then "\\r"
  else if c = '\n' then "\\n"
  else if c = '"' then "\\\""
  else if c = '\\' then "\\\\"
  else if isUnprintable c then "\\u\x7b" ++ hex c.toNat ++ "\x7d"
  else String.singleton c

/-- A text in double quotes. -/
def quote (s : String) : String :=
  (s.toList.foldl (fun out c => out ++ quoteChar c) "\"").push '"'

/-- A byte of a header value as it stands between double quotes: visible ASCII, the space and the
tab as they are, the quote escaped, all others by their two hexadecimal digits. -/
def quoteByte (b : UInt8) : String :=
  if b = 0x22 then "\\\""
  else if b = 0x09 ∨ (0x20 ≤ b ∧ b ≤ 0x7E) then String.singleton (Char.ofNat b.toNat)
  else String.ofList ['\\', 'x', Nat.digitChar (b.toNat / 16), Nat.digitChar (b.toNat % 16)]

/-- A header value in double quotes. -/
def quoteBytes (value : List UInt8) : String :=
  (value.foldl (fun out b => out ++ quoteByte b) "\"").push '"'

end AlertConsole.Text
