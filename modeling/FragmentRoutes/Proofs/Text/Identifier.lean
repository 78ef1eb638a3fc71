import FragmentRoutes.Text.Identifier
import Mathlib.Data.List.Basic
import Mathlib.Data.String.Basic

/-!
# Identifiers with numbers

An identifier goes on with letters, digits and underscores (`isIdentifier_append`).  No reserved
word ends with a digit, so an identifier with a number after it can name something
(`isName_append_number`), whatever the identifier is.
-/

namespace FragmentRoutes.Text

theorem isAsciiDigit_eq_isDigit (c : Char) : isAsciiDigit c = c.isDigit :=
  rfl

theorem continuesIdentifier_of_isAsciiDigit {c : Char} (h : isAsciiDigit c = true) :
    continuesIdentifier c = true := by
  simp [continuesIdentifier, h]

theorem isIdentifierChars_append {cs ds : List Char} (h : isIdentifierChars cs = true)
    (hds : ∀ d ∈ ds, continuesIdentifier d = true) : isIdentifierChars (cs ++ ds) = true := by
  cases cs with
  | nil => cases h
  | cons c cs =>
    rw [isIdentifierChars, Bool.and_eq_true] at h
    rw [List.cons_append, isIdentifierChars, List.all_append, h.1, h.2, List.all_eq_true.mpr hds]
    rfl

theorem continuesIdentifier_of_isIdentifier {s : String} (h : isIdentifier s = true) :
    s.toList.all continuesIdentifier = true := by
  rw [isIdentifier] at h
  cases hchars : s.toList with
  | nil => rfl
  | cons c cs =>
    rw [hchars, isIdentifierChars, Bool.and_eq_true] at h
    rw [List.all_cons, h.2, continuesIdentifier, h.1]
    rfl

/-- An identifier goes on with every text of the characters that may follow. -/
theorem isIdentifier_append {s t : String} (h : isIdentifier s = true)
    (ht : t.toList.all continuesIdentifier = true) : isIdentifier (s ++ t) = true := by
  rw [isIdentifier, String.toList_append]
  exact isIdentifierChars_append h (List.all_eq_true.mp ht)

/-! ### Numbers at the end -/

/-- The last character of the text is a digit. -/
def endsWithDigit (s : String) : Bool :=
  s.toList.getLast?.any isAsciiDigit

/-- The digits of a number. -/
theorem isAsciiDigit_of_mem_toString {n : Nat} {c : Char} (h : c ∈ (toString n).toList) :
    isAsciiDigit c = true := by
  rw [Nat.toString_eq_ofList_toDigits, String.toList_ofList] at h
  rw [isAsciiDigit_eq_isDigit]
  exact Nat.isDigit_of_mem_toDigits (by decide) le_rfl h

theorem endsWithDigit_append_number (s : String) (n : Nat) :
    endsWithDigit (s ++ toString n) = true := by
  have hne : (toString n).toList ≠ [] := by
    rw [Nat.toString_eq_ofList_toDigits, String.toList_ofList]
    exact Nat.toDigits_ne_nil
  rw [endsWithDigit, String.toList_append, List.getLast?_append_of_ne_nil _ hne,
    List.getLast?_eq_some_getLast hne, Option.any_some]
  exact isAsciiDigit_of_mem_toString (List.getLast_mem hne)

/-- A text that does not end with a digit has no number after it. -/
theorem append_number_ne {s t : String} {n : Nat} (h : endsWithDigit t = false) :
    s ++ toString n ≠ t := by
  rintro rfl
  rw [endsWithDigit_append_number] at h
  cases h

/-- No reserved word ends with a digit. -/
theorem not_isReserved_append_number (s : String) (n : Nat) :
    isReserved (s ++ toString n) = false := by
  rw [isReserved, List.contains_eq_mem, decide_eq_false_iff_not]
  intro hmem
  have hwords : ∀ word ∈ reservedWords, endsWithDigit word = false := by decide
  exact append_number_ne (hwords _ hmem) rfl

/-- **An identifier with a number after it** can name something. -/
theorem isName_append_number {s : String} (h : isIdentifier s = true) (n : Nat) :
    isName (s ++ toString n) = true := by
  rw [isName, not_isReserved_append_number, Bool.not_false, Bool.and_true]
  exact isIdentifier_append h (List.all_eq_true.mpr fun c hc =>
    continuesIdentifier_of_isAsciiDigit (isAsciiDigit_of_mem_toString hc))

theorem isIdentifier_of_isName {s : String} (h : isName s = true) : isIdentifier s = true :=
  (Bool.and_eq_true _ _ ▸ h).1

end FragmentRoutes.Text
