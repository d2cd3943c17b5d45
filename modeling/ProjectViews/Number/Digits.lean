/-
Decimal digits.

A natural number is written with its digits, most significant first, without
leading zeros; zero is the single digit zero.  `ofDigits` reads any run of digits,
leading zeros included, and gives the number back: `ofDigits (digits n) = n`.
-/
namespace ProjectViews

namespace Number

/-- A decimal digit. -/
abbrev Digit := Fin 10

/-- The digit zero. -/
def Digit.zero : Digit := ⟨0, by decide⟩

/-- The character of a digit. -/
def Digit.char (d : Digit) : Char := Char.ofNat (48 + d.val)

/-- The digit that a character writes. -/
def digit? (c : Char) : Option Digit :=
  if h : 48 ≤ c.toNat ∧ c.toNat < 58 then some ⟨c.toNat - 48, by omega⟩ else none

/-- Whether a character writes a digit. -/
def isDigit (c : Char) : Bool := (digit? c).isSome

theorem Digit.toNat_char : ∀ d : Digit, d.char.toNat = 48 + d.val := by decide

/-- The character of a digit writes that digit. -/
@[simp] theorem digit?_char (d : Digit) : digit? d.char = some d := by
  have h := d.toNat_char
  have hd := d.isLt
  simp [digit?, h]
  omega

/-- The number that a run of digits writes, when `n` stands before it. -/
def ofDigitsFrom (n : Nat) : List Digit → Nat
  | [] => n
  | d :: ds => ofDigitsFrom (10 * n + d.val) ds

/-- The number that a run of digits writes. -/
def ofDigits (ds : List Digit) : Nat := ofDigitsFrom 0 ds

/-- The digits of a number before those already found. -/
def digitsOnto (n : Nat) (found : List Digit) : List Digit :=
  if n < 10 then Fin.ofNat 10 n :: found
  else digitsOnto (n / 10) (Fin.ofNat 10 (n % 10) :: found)
termination_by n

/-- The digits of a number. -/
def digits (n : Nat) : List Digit := digitsOnto n []

theorem ofDigitsFrom_append (n : Nat) (a b : List Digit) :
    ofDigitsFrom n (a ++ b) = ofDigitsFrom (ofDigitsFrom n a) b := by
  induction a generalizing n with
  | nil => rfl
  | cons d a ih => simp [ofDigitsFrom, ih]

theorem ofDigitsFrom_digitsOnto (n : Nat) (found : List Digit) :
    ofDigitsFrom 0 (digitsOnto n found) = ofDigitsFrom n found := by
  induction n using Nat.strongRecOn generalizing found with
  | ind n ih =>
    unfold digitsOnto
    split
    · rename_i h
      simp [ofDigitsFrom, Fin.ofNat, Nat.mod_eq_of_lt h]
    · rename_i h
      rw [ih (n / 10) (by omega)]
      simp only [ofDigitsFrom, Fin.ofNat]
      congr 1
      omega

/-- Reading the digits of a number gives the number back. -/
@[simp] theorem ofDigits_digits (n : Nat) : ofDigits (digits n) = n := by
  simp [ofDigits, digits, ofDigitsFrom_digitsOnto, ofDigitsFrom]

/-- The longest run of digits that a text starts with, and what follows it. -/
def takeDigits : List Char → List Digit × List Char
  | [] => ([], [])
  | c :: cs =>
    match digit? c with
    | some d => ((takeDigits cs).1.cons d, (takeDigits cs).2)
    | none => ([], c :: cs)

/-- The digits of a text that holds nothing else. -/
def digitsOf? (cs : List Char) : Option (List Digit) := cs.mapM digit?

/-- The characters of a run of digits. -/
def writeDigits (ds : List Digit) : List Char := ds.map Digit.char

/-- A number written with its digits. -/
def write (n : Nat) : String := String.ofList (writeDigits (digits n))

end Number

end ProjectViews
