import Mathlib.Algebra.Ring.Nat
import Mathlib.Tactic.Common

/-!
# Strings as the source handles them
-/

set_option autoImplicit false

namespace LiveChat.Foundation.Text

/-- `str.isspace` of one character. -/
def isSpace (char : Char) : Bool :=
  let code := char.toNat
  (9 ≤ code && code ≤ 13) || (28 ≤ code && code ≤ 32) || code == 0x85 || code == 0xA0 ||
    code == 0x1680 || (0x2000 ≤ code && code ≤ 0x200A) || code == 0x2028 || code == 0x2029 ||
    code == 0x202F || code == 0x205F || code == 0x3000

def strip (text : String) : String :=
  String.ofList (((text.toList.dropWhile isSpace).reverse.dropWhile isSpace).reverse)

/-- `text.startswith(start)`, and what follows. -/
def afterPrefix (start text : String) : Option String :=
  if start.toList.isPrefixOf text.toList then
    some (String.ofList (text.toList.drop start.length))
  else none

/-- Digits from the last one, with a comma after every three. -/
def groupThousands : List Char → List Char
  | a :: b :: c :: d :: rest => a :: b :: c :: ',' :: groupThousands (d :: rest)
  | short => short

/-- The format `{number:,}`. -/
def grouped (number : Nat) : String :=
  String.ofList (groupThousands (toString number).toList.reverse).reverse

example : grouped 5000000 = "5,000,000" := by decide

/-! ## Decimal numerals -/

/-- A numeral with leading zeros, in `width` digits at least. -/
def padded (width value : Nat) : List Char := (Nat.toDigits 10 value).leftpad width '0'

theorem isDigit_toDigits (number : Nat) : ∀ char ∈ Nat.toDigits 10 number, char.isDigit = true :=
  fun _ member => Nat.isDigit_of_mem_toDigits (by decide) (by decide) member

theorem isDigit_padded (width value : Nat) : ∀ char ∈ padded width value, char.isDigit = true := by
  intro char member
  simp only [padded, List.leftpad, List.mem_append, List.mem_replicate] at member
  rcases member with ⟨_, rfl⟩ | member
  · rfl
  · exact isDigit_toDigits value char member

theorem length_padded {width value : Nat} (positive : 0 < width) (small : value < 10 ^ width) :
    (padded width value).length = width := by
  have short := (Nat.length_toDigits_le_iff (by decide) positive).mpr small
  rw [padded, List.length_leftpad]
  omega

theorem padded_ne_nil (width value : Nat) : padded width value ≠ [] := by
  simp [padded, List.leftpad]

theorem ofDigitChars_padded (width value : Nat) :
    Nat.ofDigitChars 10 (padded width value) 0 = value := by
  rw [padded, List.leftpad, Nat.ofDigitChars_append, Nat.ofDigitChars_replicate_zero,
    Nat.mul_zero, Nat.ofDigitChars_ten_toDigits]

end LiveChat.Foundation.Text
