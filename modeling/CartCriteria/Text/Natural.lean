/-! Natural numbers of 64 bits as they are typed: decimal digits behind an optional plus sign. -/
namespace CartCriteria.Text

/-- Why a text is no natural number of 64 bits. -/
inductive NaturalFault
  | empty
  | invalidDigit
  | tooLarge
  deriving DecidableEq

def NaturalFault.message : NaturalFault → String
  | .empty => "cannot parse integer from empty string"
  | .invalidDigit => "invalid digit found in string"
  | .tooLarge => "number too large to fit in target type"

/-- Takes on digits one by one. A character that is no digit is noticed before the number grows. -/
def naturalFrom (n : Nat) : List Char → Except NaturalFault Nat
  | [] => .ok n
  | c :: rest =>
    if c.isDigit then
      let next := n * 10 + (c.toNat - 0x30)
      if next < UInt64.size then naturalFrom next rest else .error .tooLarge
    else .error .invalidDigit

/-- The natural number that a text denotes; a sign alone has an invalid digit. -/
def natural (s : String) : Except NaturalFault Nat :=
  match s.toList with
  | [] => .error .empty
  | ['+'] => .error .invalidDigit
  | '+' :: rest => naturalFrom 0 rest
  | cs => naturalFrom 0 cs

private theorem naturalFrom_lt {n m : Nat} {cs : List Char} (h : naturalFrom n cs = .ok m)
    (hn : n < UInt64.size) : m < UInt64.size := by
  induction cs generalizing n with
  | nil => cases h; exact hn
  | cons c rest ih =>
    rw [naturalFrom] at h
    split at h
    · dsimp only at h
      split at h
      · exact ih h ‹_›
      · cases h
    · cases h

/-- What is read fits 64 bits. -/
theorem natural_lt {s : String} {m : Nat} (h : natural s = .ok m) : m < UInt64.size := by
  rw [natural] at h
  split at h
  · cases h
  · cases h
  · exact naturalFrom_lt h (by decide)
  · exact naturalFrom_lt h (by decide)

end CartCriteria.Text
