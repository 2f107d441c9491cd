import DecoderKit.Text.Blank

/-!
# Numerals

Reading a numeral that has to stay below a bound. An optional plus sign comes
first, then at least one digit. Digits are taken from the left, and the first one
that fails decides what is wrong: a character that is no digit makes the numeral
malformed, a value above the bound makes it too large, whatever follows.

Writing uses the shortest digits, with letters in lower case. Real numbers are only
told from other texts; their value is nowhere needed.
-/

namespace DecoderKit.Numeral

/-- What can be wrong with a numeral. -/
inductive Fault
  /-- It has no digits, or a character among them that is none. -/
  | malformed
  /-- Its value is above the bound. -/
  | tooLarge
deriving DecidableEq, Repr

/-- The value of an ASCII digit or letter, whatever the base. -/
def digitValue? (c : Char) : Option Nat :=
  if '0' ≤ c ∧ c ≤ '9' then some (c.toNat - '0'.toNat)
  else if 'a' ≤ c ∧ c ≤ 'z' then some (c.toNat - 'a'.toNat + 10)
  else if 'A' ≤ c ∧ c ≤ 'Z' then some (c.toNat - 'A'.toNat + 10)
  else none

/-- The value of a digit in a base. -/
def digit? (base : Nat) (c : Char) : Option Nat :=
  (digitValue? c).filter (· < base)

/-- Reads digits to the end of the text, going on from a value already read. -/
def readDigits (base bound : Nat) (value : Nat) : Text → Except Fault Nat
  | [] => .ok value
  | c :: rest =>
    match digit? base c with
    | none => .error .malformed
    | some d =>
      if bound < value * base + d then .error .tooLarge
      else readDigits base bound (value * base + d) rest

/-- The text of a numeral without its plus sign. -/
def unsigned : Text → Text
  | '+' :: digits => digits
  | digits => digits

/-- Reads a numeral of at most `bound`. -/
def read (base bound : Nat) (t : Text) : Except Fault Nat :=
  match unsigned t with
  | [] => .error .malformed
  | digits => readDigits base bound 0 digits

/-! ## Real numbers -/

/-- Text without one sign at its start. -/
def withoutSign : Text → Text
  | '+' :: t => t
  | '-' :: t => t
  | t => t

/-- Whether a text is an exponent, or nothing. -/
def isExponent : Text → Bool
  | [] => true
  | c :: rest =>
    let digits := withoutSign rest
    (c == 'e' || c == 'E') && !digits.isEmpty && digits.all Char.isDigit

/-- The words for what is no finite number. -/
def realWords : List String := ["inf", "infinity", "nan"]

/-- Whether a text is a real number: digits with a point and an exponent, or one of the words. -/
def isReal (t : Text) : Bool :=
  let t := withoutSign t
  let whole := t.takeWhile Char.isDigit
  let (fraction, rest) :=
    match t.drop whole.length with
    | '.' :: rest => (rest.takeWhile Char.isDigit, rest.dropWhile Char.isDigit)
    | rest => ([], rest)
  realWords.contains (String.ofList (t.map Char.toLower))
    || !(whole ++ fraction).isEmpty && isExponent rest

/-! ## Writing -/

/-- A number in decimal. -/
def decimal (n : Nat) : Text := Nat.toDigits 10 n

/-- An integer in decimal, with a minus sign if it is negative. -/
def signedDecimal : Int → Text
  | .ofNat n => decimal n
  | .negSucc n => '-' :: decimal (n + 1)

/-- A number in hexadecimal, lower case. -/
def hex (n : Nat) : Text := Nat.toDigits 16 n

/-- A number in hexadecimal, padded with a zero to two digits. -/
def hexByte (n : Nat) : Text := List.leftpad 2 '0' (hex n)

end DecoderKit.Numeral
