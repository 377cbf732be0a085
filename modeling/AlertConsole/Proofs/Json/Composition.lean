import AlertConsole.Proofs.Json.Documents
set_option autoImplicit false

/-!
# Texts put together

A text made of other texts spells what they spell: strings of characters that stand for themselves,
texts with commas between them in brackets, and a key with a value behind a colon.
-/

namespace AlertConsole.Json

/-! ## Strings -/

/-- Whether a character stands for itself in a quoted string. -/
def standsForItself (c : Char) : Bool := 0x20 ≤ c.toNat && c ≠ '"' && c ≠ '\\'

theorem spellsChars_raw {cs : List Char} (h : cs.all standsForItself = true) :
    SpellsChars (Utf8.encode cs) cs := by
  induction cs with
  | nil => exact .nil
  | cons c cs ih =>
    rw [List.all_cons, Bool.and_eq_true] at h
    obtain ⟨hc, hcs⟩ := h
    simp only [standsForItself, Bool.and_eq_true, decide_eq_true_eq] at hc
    obtain ⟨⟨hcontrol, hquote⟩, hbackslash⟩ := hc
    exact .cons (.raw hcontrol hquote hbackslash) (ih hcs)

/-- A string in its quotes, no character of which is escaped. -/
theorem spellsString_raw {s : String} (h : s.toList.all standsForItself = true) :
    SpellsString (Byte.quote :: (Utf8.bytes s ++ [Byte.quote])) s :=
  .mk (spellsChars_raw h)

/-! ## Arrays and objects -/

/-- A value with no blanks around it. -/
theorem Padded.bare {α : Type} {G : List UInt8 → α → Prop} {s : List UInt8} {x : α} (h : G s x) :
    Padded G s x := by
  have hpadded := Padded.mk blanks_nil h blanks_nil
  rwa [List.nil_append, List.append_nil] at hpadded

/-- Texts with commas between them. -/
theorem listed_intercalate {α : Type} {G : List UInt8 → α → Prop} {texts : List (List UInt8)}
    {xs : List α} (h : List.Forall₂ G texts xs) (hne : texts ≠ []) :
    Listed G ([Byte.comma].intercalate texts) xs := by
  induction h with
  | nil => contradiction
  | @cons s x texts xs hx hxs ih =>
    cases hxs with
    | nil =>
      rw [List.intercalate_singleton]
      exact .one hx
    | cons hy hys =>
      rw [List.intercalate_cons_cons, List.append_assoc]
      exact .more hx (ih (List.cons_ne_nil _ _))

/-- Texts with commas between them, in brackets, are the array of what they say. -/
theorem spells_array_intercalate {texts : List (List UInt8)} {ts : List Tree}
    (h : List.Forall₂ SpellsText texts ts) :
    Spells (Byte.openBracket :: ([Byte.comma].intercalate texts ++ [Byte.closeBracket]))
      (.array ts) := by
  cases h with
  | nil => exact .emptyArray blanks_nil
  | cons hx hxs => exact .array (listed_intercalate (.cons hx hxs) (List.cons_ne_nil _ _))

end AlertConsole.Json
