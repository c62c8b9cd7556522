/-! Bytes read as UTF-8. Every maximal run of bytes that begins a character but does not finish
it, and every byte that begins none, is shown as one replacement character. -/
namespace QueryGate.Text

/-- What a first byte announces: the bits it carries, how many bytes follow, and the bounds of
the next of them. -/
structure LeadByte where
  bits : Nat
  following : Nat
  low : Nat
  high : Nat

/-- The bounds exclude overlong forms, surrogates and points above U+10FFFF. -/
def leadByte? (byte : Nat) : Option LeadByte :=
  if byte < 0x80 then some ⟨byte, 0, 0, 0⟩
  else if byte < 0xC2 then none
  else if byte < 0xE0 then some ⟨byte - 0xC0, 1, 0x80, 0xBF⟩
  else if byte = 0xE0 then some ⟨0, 2, 0xA0, 0xBF⟩
  else if byte = 0xED then some ⟨0xD, 2, 0x80, 0x9F⟩
  else if byte < 0xF0 then some ⟨byte - 0xE0, 2, 0x80, 0xBF⟩
  else if byte = 0xF0 then some ⟨0, 3, 0x90, 0xBF⟩
  else if byte < 0xF4 then some ⟨byte - 0xF0, 3, 0x80, 0xBF⟩
  else if byte = 0xF4 then some ⟨4, 3, 0x80, 0x8F⟩
  else none

/-- Takes the announced bytes while they are in bounds: the code point if all of them came, and
the bytes left over. -/
def finishScalar : (following low high point : Nat) → List UInt8 → Option Nat × List UInt8
  | 0, _, _, point, bytes => (some point, bytes)
  | _ + 1, _, _, _, [] => (none, [])
  | following + 1, low, high, point, byte :: bytes =>
    if low ≤ byte.toNat ∧ byte.toNat ≤ high then
      finishScalar following 0x80 0xBF (point * 64 + (byte.toNat - 0x80)) bytes
    else (none, byte :: bytes)

theorem length_finishScalar_le (following low high point : Nat) (bytes : List UInt8) :
    (finishScalar following low high point bytes).2.length ≤ bytes.length := by
  induction following generalizing low high point bytes with
  | zero => simp [finishScalar]
  | succ following shorter =>
    cases bytes with
    | nil => simp [finishScalar]
    | cons byte bytes =>
      rw [finishScalar]
      split
      · exact Nat.le_succ_of_le (shorter ..)
      · simp

/-- The characters of a byte sequence, with U+FFFD for what is not UTF-8. -/
def utf8Lossy : List UInt8 → List Char
  | [] => []
  | byte :: bytes =>
    match leadByte? byte.toNat with
    | none => '\ufffd' :: utf8Lossy bytes
    | some lead =>
      let scalar := finishScalar lead.following lead.low lead.high lead.bits bytes
      scalar.1.elim '\ufffd' Char.ofNat :: utf8Lossy scalar.2
  termination_by bytes => bytes.length
  decreasing_by
    · exact Nat.lt_succ_self _
    · exact Nat.lt_succ_of_le (length_finishScalar_le ..)

end QueryGate.Text
