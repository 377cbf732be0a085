import AlertConsole.Json.Value
set_option autoImplicit false

/-!
# Compact JSON text

The text of a value, without blanks.  In strings the quote, the backslash and the characters below
U+0020 are escaped, and all others stand for themselves.  The functions append to the text that is
already there, so that a long list costs no more than its length.
-/

namespace AlertConsole.Json

/-- A hexadecimal digit in lower case. -/
def hexDigit (n : Nat) : Char := Nat.digitChar n

/-- A character as it stands in a quoted string. -/
def escape (c : Char) : String :=
  if c = '"' then "\\\""
  else if c = '\\' then "\\\\"
  else if c = '\x08' then "\\b"
  else if c = '\x0c' then "\\f"
  else if c = '\n' then "\\n"
  else if c = '\r' then "\\r"
  else if c = '\t' then "\\t"
  else if c.toNat < 0x20 then
    String.ofList ['\\', 'u', '0', '0', hexDigit (c.toNat / 16), hexDigit (c.toNat % 16)]
  else String.singleton c

/-- Appends a string in quotes. -/
def appendQuoted (out : String) (s : String) : String :=
  s.toList.foldl (fun out c => out ++ escape c) (out.push '"') |>.push '"'

mutual

/-- Appends a value. -/
def Value.append (out : String) : Value → String
  | .null => out ++ "null"
  | .bool true => out ++ "true"
  | .bool false => out ++ "false"
  | .number n => out ++ n.text
  | .string s => appendQuoted out s
  | .array [] => out ++ "[]"
  | .array (v :: vs) => (appendItems (v.append (out.push '[')) vs).push ']'
  | .object [] => out ++ "\x7b\x7d"
  | .object ((k, v) :: ms) =>
    (appendMembers (v.append ((appendQuoted (out.push '\x7b') k).push ':')) ms).push '\x7d'

/-- Appends the elements of an array that follow the first. -/
def appendItems (out : String) : List Value → String
  | [] => out
  | v :: vs => appendItems (v.append (out.push ',')) vs

/-- Appends the members of an object that follow the first. -/
def appendMembers (out : String) : List (String × Value) → String
  | [] => out
  | (k, v) :: ms => appendMembers (v.append ((appendQuoted (out.push ',') k).push ':')) ms

end

/-- The compact text of a value. -/
def Value.text (v : Value) : String := v.append ""

/-! ## Appending

What is appended does not depend on the text that is there already. -/

theorem foldl_escape (cs : List Char) (out : String) :
    cs.foldl (fun out c => out ++ escape c) out =
      out ++ cs.foldl (fun out c => out ++ escape c) "" := by
  induction cs generalizing out with
  | nil => simp
  | cons c cs ih =>
    simp only [List.foldl_cons]
    rw [ih (out ++ escape c), ih ("" ++ escape c)]
    simp [String.append_assoc]

theorem appendQuoted_eq (out s : String) : appendQuoted out s = out ++ appendQuoted "" s := by
  simp only [appendQuoted]
  rw [foldl_escape s.toList (out.push '"'), foldl_escape s.toList ("".push '"')]
  simp [String.append_assoc, String.push_eq_append]

mutual

theorem Value.append_eq (out : String) : (v : Value) → v.append out = out ++ v.append ""
  | .null => by simp [Value.append]
  | .bool true => by simp [Value.append]
  | .bool false => by simp [Value.append]
  | .number n => by simp [Value.append]
  | .string s => by simpa [Value.append] using appendQuoted_eq out s
  | .array [] => by simp [Value.append]
  | .array (v :: vs) => by
    simp only [Value.append]
    rw [appendItems_eq _ vs, Value.append_eq (out.push '[') v,
      appendItems_eq (v.append ("".push '[')) vs, Value.append_eq ("".push '[') v]
    simp [String.append_assoc, String.push_eq_append]
  | .object [] => by simp [Value.append]
  | .object ((k, v) :: ms) => by
    simp only [Value.append]
    rw [appendMembers_eq _ ms, Value.append_eq _ v, appendQuoted_eq (out.push '\x7b') k,
      appendMembers_eq (v.append _) ms,
      Value.append_eq ((appendQuoted ("".push '\x7b') k).push ':') v,
      appendQuoted_eq ("".push '\x7b') k]
    simp [String.append_assoc, String.push_eq_append]

theorem appendItems_eq (out : String) : (vs : List Value) →
    appendItems out vs = out ++ appendItems "" vs
  | [] => by simp [appendItems]
  | v :: vs => by
    simp only [appendItems]
    rw [appendItems_eq _ vs, Value.append_eq (out.push ',') v,
      appendItems_eq (v.append ("".push ',')) vs, Value.append_eq ("".push ',') v]
    simp [String.append_assoc, String.push_eq_append]

theorem appendMembers_eq (out : String) : (ms : List (String × Value)) →
    appendMembers out ms = out ++ appendMembers "" ms
  | [] => by simp [appendMembers]
  | (k, v) :: ms => by
    simp only [appendMembers]
    rw [appendMembers_eq _ ms, Value.append_eq _ v, appendQuoted_eq (out.push ',') k,
      appendMembers_eq (v.append _) ms,
      Value.append_eq ((appendQuoted ("".push ',') k).push ':') v,
      appendQuoted_eq ("".push ',') k]
    simp [String.append_assoc, String.push_eq_append]

end

end AlertConsole.Json
