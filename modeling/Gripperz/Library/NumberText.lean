import Mathlib.Logic.Encodable.Basic
import Gripperz.Library.Words

/-! # Numbers as text

A way to write each number as a word and to read words as numbers; with a number text nothing
is lost.
-/
namespace Gripperz.Library

structure NumberFormat (R : Type) where
  text : R → String
  read : String → Option R
  isWord : ∀ x, IsWord (text x).toList

structure NumberText (R : Type) extends NumberFormat R where
  read_text : ∀ x, read (text x) = some x

instance {R : Type} : Coe (NumberText R) (NumberFormat R) := ⟨NumberText.toNumberFormat⟩

namespace NumberText

theorem not_isSpace_of_isDigit {c : Char} (h : c.isDigit = true) : isSpace c = false := by
  simp only [Char.isDigit, Bool.and_eq_true, decide_eq_true_eq] at h
  have hlow : 48 ≤ c.toNat := h.1
  simp only [isSpace, Bool.or_eq_false_iff, decide_eq_false_iff_not, Bool.and_eq_false_iff]
  omega

/-- Numbers written as the decimal digits of their codes. -/
def ofEncodable (R : Type) [Encodable R] : NumberText R where
  text x := (Encodable.encode x).repr
  read s := Encodable.decode (Nat.ofDigitChars 10 s.toList 0)
  read_text x := by
    rw [Nat.toList_repr, Nat.ofDigitChars_toDigits (by decide) (by decide), Encodable.encodek]
  isWord x := by
    rw [Nat.toList_repr]
    constructor
    · exact Nat.toDigits_ne_nil
    · intro c hc
      exact not_isSpace_of_isDigit (Nat.isDigit_of_mem_toDigits (by decide) (by decide) hc)

end NumberText
end Gripperz.Library
