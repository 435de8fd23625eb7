import Mnslp.Lib.Bytes

/-! Texts as lists of characters, one for each byte, and the decimal digits of numbers. -/
namespace Mnslp.Lib

abbrev Text := List Char

namespace Text

def nul : Char := Char.ofNat 0

def ofByte (byte : UInt8) : Char := Char.ofNat byte.toNat

def decimal (n : Nat) : Text := Nat.toDigits 10 n

def decimalInt : Int → Text
  | .ofNat n => decimal n
  | .negSucc n => '-' :: decimal (n + 1)

/-- `isspace` of the C library. -/
def isSpace (c : Char) : Bool := c = ' ' || (9 ≤ c.toNat && c.toNat ≤ 13)

/-- The number in front of a text, which is read as a `long` and kept as an `int`. -/
def atoi (text : Text) : Int :=
  let (negative,digits) := match text.dropWhile isSpace with
    | '-' :: rest => (true,rest)
    | '+' :: rest => (false,rest)
    | rest => (false,rest)
  let number : Int := Nat.ofDigitChars 10 (digits.takeWhile Char.isDigit) 0
  (if negative then max (-number) (-2^63) else min number (2^63 - 1)).bmod (2^32)

/-- Two digits for each byte. -/
def hexByte (byte : UInt8) : Text := [Nat.digitChar (byte.toNat / 16),Nat.digitChar (byte.toNat % 16)]

/-- The text that ends before the first NUL. -/
def untilNul (text : Text) : Text := text.takeWhile (· ≠ nul)

theorem decimal_injective {n m : Nat} (same : decimal n = decimal m) : n = m := by
  have values := congrArg (Nat.ofDigitChars 10 · 0) same
  simpa only [decimal,Nat.ofDigitChars_ten_toDigits] using values

theorem isDigit_of_mem_decimal {n : Nat} {c : Char} (member : c ∈ decimal n) : c.isDigit = true :=
  Nat.isDigit_of_mem_toDigits (by decide) (by decide) member

theorem decimal_ne_minus (n : Nat) (rest : Text) : decimal n ≠ '-' :: rest := by
  intro same
  have digit := isDigit_of_mem_decimal (same ▸ List.mem_cons_self : '-' ∈ decimal n)
  cases digit

theorem decimalInt_natCast (n : Nat) : decimalInt n = decimal n := rfl

theorem decimalInt_injective {a b : Int} (same : decimalInt a = decimalInt b) : a = b := by
  cases a with
  | ofNat n =>
    cases b with
    | ofNat m => rw [decimal_injective same]
    | negSucc m => exact absurd same (decimal_ne_minus n _)
  | negSucc n =>
    cases b with
    | ofNat m => exact absurd same.symm (decimal_ne_minus m _)
    | negSucc m =>
      have digits := decimal_injective (List.cons.inj same).2
      rw [Nat.succ.inj digits]

theorem length_decimal_le {n k : Nat} (positive : 0 < k) : (decimal n).length ≤ k ↔ n < 10^k :=
  Nat.length_toDigits_le_iff (by decide) positive

theorem nul_notMem_decimalInt (a : Int) : nul ∉ decimalInt a := by
  have digits (n : Nat) : nul ∉ decimal n := fun member => nomatch isDigit_of_mem_decimal member
  cases a with
  | ofNat n => exact digits n
  | negSucc n =>
    rw [decimalInt,List.mem_cons,not_or]
    exact ⟨by decide,digits _⟩

theorem untilNul_append {text : Text} (rest : Text) (none : nul ∉ text) : untilNul (text ++ nul :: rest) = text := by
  have all : ∀ c ∈ text, decide (c ≠ nul) = true := fun c member => decide_eq_true fun same => none (same ▸ member)
  rw [untilNul,List.takeWhile_append_of_pos all,List.takeWhile_cons_of_neg (by simp),List.append_nil]

end Text
end Mnslp.Lib
