import Mathlib.Algebra.GroupWithZero.Nat
import Mathlib.Algebra.Ring.Int.Defs

/-! Numbers as text: `strconv.ParseInt` in base ten with 64 bits reads what `%d` writes. -/

namespace Go

/-- Decimal digits behind a sign, as a number that fits into 64 bits. -/
def parseDigits (negative : Bool) (digits : List Char) : Option Int :=
  if digits.isEmpty || !digits.all Char.isDigit then none
  else
    let value := Nat.ofDigitChars 10 digits 0
    if negative then if value ≤ 2 ^ 63 then some (-(value : Int)) else none
    else if value < 2 ^ 63 then some (value : Int) else none

/-- A decimal number with an optional sign that fits into 64 bits. -/
def parseInt (text : String) : Option Int :=
  match text.toList with
  | '-' :: digits => parseDigits true digits
  | '+' :: digits => parseDigits false digits
  | digits => parseDigits false digits

/-- The decimal digits of a number are digits. -/
theorem isDigit_toDigits {n : Nat} {digit : Char} (member : digit ∈ Nat.toDigits 10 n) :
    digit.isDigit = true :=
  Nat.isDigit_of_mem_toDigits (by decide) (by decide) member

/-- The decimal digits of a number say which number it is. -/
theorem value_toDigits (n : Nat) : Nat.ofDigitChars 10 (Nat.toDigits 10 n) 0 = n :=
  Nat.ofDigitChars_toDigits (by decide) (by decide)

/-- Decimal digits are read as their value. -/
theorem parseDigits_toDigits (negative : Bool) (n : Nat) :
    parseDigits negative (Nat.toDigits 10 n) =
      if negative then if n ≤ 2 ^ 63 then some (-(n : Int)) else none
      else if n < 2 ^ 63 then some (n : Int) else none := by
  -- The digits of a number are digits, there is one at least, and their value is the number.
  have nonempty : (Nat.toDigits 10 n).isEmpty = false := by simp
  have digits : (Nat.toDigits 10 n).all Char.isDigit = true := by
    rw [List.all_eq_true]
    exact fun _ member => isDigit_toDigits member
  simp only [parseDigits, nonempty, digits, value_toDigits, Bool.not_true, Bool.or_self,
    Bool.false_eq_true, if_false]

/-- Text that starts with a digit has no sign. -/
theorem parseInt_unsigned {text : String} {digits : List Char} (written : text.toList = digits)
    (unsigned : ∀ digit ∈ digits, digit.isDigit = true) :
    parseInt text = parseDigits false digits := by
  -- A digit is neither of the two signs.
  rw [parseInt, written]
  split
  · exact absurd (unsigned '-' List.mem_cons_self) (by decide)
  · exact absurd (unsigned '+' List.mem_cons_self) (by decide)
  · rfl

/-- A number that is not negative is written as its digits. -/
theorem toList_toString_ofNat (n : Nat) : (toString (Int.ofNat n)).toList = Nat.toDigits 10 n :=
  Nat.toList_repr

/-- A negative number is written as the digits of its magnitude behind a sign. -/
theorem toList_toString_negSucc (n : Nat) :
    (toString (Int.negSucc n)).toList = '-' :: Nat.toDigits 10 (n + 1) := by
  -- A negative number is written with its sign in front.
  have written : toString (Int.negSucc n) = "-" ++ Nat.repr (n + 1) := rfl
  rw [written, String.toList_append, Nat.toList_repr]
  rfl

/-- What is written for a number of 64 bits is read back as that number. -/
theorem parseInt_toString {value : Int} (least : -2 ^ 63 ≤ value) (most : value < 2 ^ 63) :
    parseInt (toString value) = some value := by
  -- Without a sign for the naturals and with one for the others, in the range of 64 bits.
  cases value with
  | ofNat n =>
    have small : n < 2 ^ 63 := by
      have bound : (n : Int) < 2 ^ 63 := most
      omega
    rw [parseInt_unsigned (toList_toString_ofNat n) fun _ member => isDigit_toDigits member,
      parseDigits_toDigits]
    simp only [Bool.false_eq_true, if_false, if_pos small]
    rfl
  | negSucc n =>
    have small : n + 1 ≤ 2 ^ 63 := by omega
    have signed : parseInt (toString (Int.negSucc n)) =
        parseDigits true (Nat.toDigits 10 (n + 1)) := by
      rw [parseInt, toList_toString_negSucc]
      rfl
    rw [signed, parseDigits_toDigits]
    simp only [if_true, if_pos small]
    rfl

/-- Two numbers are never written alike. -/
theorem toString_injective {first second : Int} (same : toString first = toString second) :
    first = second := by
  have lists := congrArg String.toList same
  -- A sign is no digit, so both numbers have one or neither has.
  have sign : ∀ n m, '-' :: Nat.toDigits 10 n ≠ Nat.toDigits 10 m := by
    intro n m equal
    have isDigit : '-'.isDigit = true :=
      isDigit_toDigits (by rw [← equal]; exact List.mem_cons_self)
    exact absurd isDigit (by decide)
  have digits : ∀ {n m}, Nat.toDigits 10 n = Nat.toDigits 10 m → n = m := by
    intro n m equal
    rw [← value_toDigits n, equal, value_toDigits]
  cases first with
  | ofNat n =>
    rw [toList_toString_ofNat] at lists
    cases second with
    | ofNat m =>
      rw [toList_toString_ofNat] at lists
      rw [digits lists]
    | negSucc m =>
      rw [toList_toString_negSucc] at lists
      exact absurd lists.symm (sign (m + 1) n)
  | negSucc n =>
    rw [toList_toString_negSucc] at lists
    cases second with
    | ofNat m =>
      rw [toList_toString_ofNat] at lists
      exact absurd lists (sign (n + 1) m)
    | negSucc m =>
      rw [toList_toString_negSucc] at lists
      have equal := digits (List.cons.inj lists).2
      obtain rfl : n = m := by omega
      rfl

end Go
