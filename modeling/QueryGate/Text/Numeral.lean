/-! Numbers written in digits. `decimal` writes a natural number without leading zeros and
`ofDigits` reads any run of decimal digits, so reading what was written gives the number back. -/
namespace QueryGate.Text

/-- The character of a digit below sixteen, in lower case. -/
def digitChar (digit : Nat) : Char :=
  if digit < 10 then Char.ofNat ('0'.toNat + digit) else Char.ofNat ('a'.toNat + (digit - 10))

/-- The number that a decimal or hexadecimal digit stands for. -/
def digitValue (c : Char) : Nat :=
  if c.isDigit then c.toNat - '0'.toNat
  else if 'a' ≤ c ∧ c ≤ 'f' then c.toNat - 'a'.toNat + 10
  else c.toNat - 'A'.toNat + 10

/-- The decimal digits of a number, most significant first. -/
def decimal (n : Nat) : List Char :=
  if n < 10 then [digitChar n] else decimal (n / 10) ++ [digitChar (n % 10)]

/-- The hexadecimal digits of a number, most significant first. -/
def hexadecimal (n : Nat) : List Char :=
  if n < 16 then [digitChar n] else hexadecimal (n / 16) ++ [digitChar (n % 16)]

/-- The number that digits denote in a base. -/
def ofDigitsIn (base : Nat) (digits : List Char) : Nat :=
  digits.foldl (fun total c => total * base + digitValue c) 0

/-- The number that decimal digits denote. -/
def ofDigits (digits : List Char) : Nat := ofDigitsIn 10 digits

/-- A number as text. -/
def natural (n : Nat) : String := String.ofList (decimal n)

/-- A signed number as text: a minus sign before a negative one. -/
def integer (n : Int) : String :=
  if n < 0 then "-" ++ natural n.natAbs else natural n.natAbs

def isHexDigit (c : Char) : Bool :=
  c.isDigit || ('a' ≤ c && c ≤ 'f') || ('A' ≤ c && c ≤ 'F')

private theorem digitChar_lt_ten :
    ∀ digit < 10, (digitChar digit).isDigit = true ∧ digitValue (digitChar digit) = digit := by
  decide

theorem isDigit_of_mem_decimal (n : Nat) : ∀ c ∈ decimal n, c.isDigit = true := by
  fun_induction decimal n with
  | case1 n small => simpa using (digitChar_lt_ten n small).1
  | case2 n _ earlier =>
    intro c member
    rcases List.mem_append.mp member with member | member
    · exact earlier c member
    · rw [List.mem_singleton.mp member]
      exact (digitChar_lt_ten (n % 10) (Nat.mod_lt _ (by decide))).1

theorem decimal_ne_nil (n : Nat) : decimal n ≠ [] := by
  rw [decimal]
  split <;> simp

/-- Only zero is written with a zero in front. -/
theorem head?_decimal_ne {n : Nat} (positive : 0 < n) : (decimal n).head? ≠ some '0' := by
  fun_induction decimal n with
  | case1 n small =>
    have nonzero : ∀ digit < 10, 0 < digit → digitChar digit ≠ '0' := by decide
    simpa using nonzero n small positive
  | case2 n large earlier =>
    obtain ⟨c, rest, digits⟩ := List.exists_cons_of_ne_nil (decimal_ne_nil (n / 10))
    rw [digits] at earlier ⊢
    exact earlier (by omega)

theorem ofDigits_append_singleton (digits : List Char) (c : Char) :
    ofDigits (digits ++ [c]) = ofDigits digits * 10 + digitValue c := by
  simp [ofDigits, ofDigitsIn]

/-- Reading what was written gives the number back. -/
theorem ofDigits_decimal (n : Nat) : ofDigits (decimal n) = n := by
  fun_induction decimal n with
  | case1 n small => simp [ofDigits, ofDigitsIn, (digitChar_lt_ten n small).2]
  | case2 n _ earlier =>
    rw [ofDigits_append_singleton, earlier,
      (digitChar_lt_ten (n % 10) (Nat.mod_lt _ (by decide))).2]
    omega

end QueryGate.Text
