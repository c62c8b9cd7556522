import QueryGate.Proofs.JsonTexts
import QueryGate.Value.Json

/-! Values survive JSON. The text of a value does not name its kind: a reader tries the kinds in a
fixed order on the tree of the text and takes the first that fits. For every value but a real, whose
digits may be rounded, that first kind is the value's own and the content is what was written. -/
namespace QueryGate.ValueRoundTrip
open Value
open Json (ReadsAs)

/-! The order of the kinds -/

def readNull : Json → Option Value
  | .null => some .null
  | _ => none

def readBool : Json → Option Value
  | .bool b => some (.bool b)
  | _ => none

/-- Integers of 64 bits. -/
def readInteger : Json → Option Value
  | .number n => n.integer?.bind fun i =>
    if Int64.minValue.toInt ≤ i ∧ i ≤ Int64.maxValue.toInt then some (.integer (.ofInt i)) else none
  | _ => none

def readReal : Json → Option Value
  | .number n => n.real?.map .real
  | _ => none

def readText : Json → Option Value
  | .string t => t.map .text
  | _ => none

def readBlob : Json → Option Value
  | .array items => (items.mapM byte?).map .blob
  | _ => none

/-- How the kinds are read, in the order in which they are tried. -/
def readings : List (Json → Option Value) :=
  [readNull, readBool, readInteger, readReal, readText, readBlob]

/-- A tree is read as the first kind that fits it. -/
theorem ofTree_eq_first (tree : Json) : ofTree tree = readings.findSome? (· tree) := by
  cases tree with
  | null => rfl
  | bool b => rfl
  | number n =>
    simp only [readings, List.findSome?_cons, List.findSome?_nil, readNull, readBool, readInteger,
      readReal, readText, readBlob, ofTree, ofNumeral]
    cases n.integer? with
    | none => cases n.real? <;> rfl
    | some i =>
      by_cases bounds : Int64.minValue.toInt ≤ i ∧ i ≤ Int64.maxValue.toInt
      · simp only [Option.bind_some, if_pos bounds]
      · simp only [Option.bind_some, if_neg bounds]
        cases n.real? <;> rfl
  | string t => cases t <;> rfl
  | array items =>
    simp only [readings, List.findSome?_cons, List.findSome?_nil, readNull, readBool, readInteger,
      readReal, readText, readBlob, ofTree]
    cases items.mapM byte? <;> rfl
  | object members => rfl

/-! What each kind is written as -/

theorem ofTree_integer (n : Int64) : ofTree (.number (.ofInt n.toInt)) = some (.integer n) := by
  have bounds := And.intro n.minValue_le_toInt n.toInt_le
  simp only [ofTree, ofNumeral, Json.Numeral.integer?_ofInt, if_pos bounds, Int64.ofInt_toInt]

theorem byte?_ofInt (byte : UInt8) : byte? (.number (.ofInt byte.toNat)) = some byte := by
  have bounds : (0 : Int) ≤ byte.toNat ∧ (byte.toNat : Int) < 256 := by
    have small := byte.toNat_lt
    omega
  simp only [byte?, Json.Numeral.integer?_ofInt, if_pos bounds, Int.toNat_natCast,
    UInt8.ofNat_toNat]

/-- The trees of the bytes of a blob. -/
def byteTrees (bytes : List UInt8) : List Json :=
  bytes.map fun byte => .number (.ofInt byte.toNat)

theorem ofTree_blob (bytes : List UInt8) : ofTree (.array (byteTrees bytes)) = some (.blob bytes) := by
  have all : (byteTrees bytes).mapM byte? = some bytes := by
    induction bytes with
    | nil => rfl
    | cons byte bytes later =>
      rw [byteTrees] at later
      simp [byteTrees, List.mapM_cons, byte?_ofInt, later]
  rw [ofTree, all]
  rfl

theorem readsAs_blob (bytes : List UInt8) :
    ReadsAs (toJson (.blob bytes)) (.array (byteTrees bytes)) := by
  apply Json.readsAs_array
  induction bytes with
  | nil => exact .nil
  | cons byte bytes later =>
    have written : Text.integer byte.toNat = Text.natural byte.toNat := by simp [Text.integer]
    have first := Json.readsAs_integer byte.toNat
    rw [written] at first
    exact .cons first later

/-- A value that is no real is written as a tree from which it is read back. -/
theorem exists_tree (value : Value) (exact : ∀ x, value ≠ .real x) :
    ∃ tree, ReadsAs value.toJson tree ∧ ofTree tree = some value := by
  cases value with
  | null => exact ⟨.null, Json.readsAs_null, rfl⟩
  | bool b => exact ⟨.bool b, Json.readsAs_bool b, rfl⟩
  | integer n => exact ⟨_, Json.readsAs_integer n.toInt, ofTree_integer n⟩
  | real x => exact absurd rfl (exact x)
  | text t => exact ⟨.string t, Json.readsAs_string t, rfl⟩
  | blob bytes => exact ⟨_, readsAs_blob bytes, ofTree_blob bytes⟩

theorem ofJson_toJson (value : Value) (exact : ∀ x, value ≠ .real x) :
    ofJson value.toJson = some value := by
  obtain ⟨tree, written, read⟩ := exists_tree value exact
  rw [ofJson, written.read, Option.bind_some, read]

/-- A value that is no real is read from its text with its kind and its content; its kind is the
first that fits the tree of the text. So no two such values have the same text. -/
theorem value_json_round_trip (value : Value) (exact : ∀ x, value ≠ .real x) :
    ofJson value.toJson = some value ∧
    (∃ tree, Json.read value.toJson = some tree ∧
      readings.findSome? (· tree) = some value) ∧
    ∀ other : Value, (∀ x, other ≠ .real x) → other.toJson = value.toJson → other = value := by
  refine ⟨ofJson_toJson value exact, ?_, ?_⟩
  · obtain ⟨tree, written, read⟩ := exists_tree value exact
    exact ⟨tree, written.read, ofTree_eq_first tree ▸ read⟩
  · intro other exact' same
    have read := ofJson_toJson other exact'
    rw [same, ofJson_toJson value exact] at read
    exact (Option.some.inj read).symm

/-- The least integer, a text with a quote, a backslash and a control character, the empty blob,
and a text that looks like null. -/
theorem unusual_values_read_back :
    ofJson (toJson (.integer Int64.minValue)) = some (.integer Int64.minValue) ∧
    ofJson (toJson (.text "\"\\\x01")) = some (.text "\"\\\x01") ∧
    ofJson (toJson (.blob [])) = some (.blob []) ∧
    toJson .null ≠ toJson (.text "null") := by
  have least := value_json_round_trip (.integer Int64.minValue) (by simp)
  have special := value_json_round_trip (.text "\"\\\x01") (by simp)
  have empty := value_json_round_trip (.blob []) (by simp)
  have lookalike := value_json_round_trip (.text "null") (by simp)
  refine ⟨least.1, special.1, empty.1, fun same => ?_⟩
  have equal := lookalike.2.2 .null (by simp) same
  cases equal

/-- Digits between quotes are a text, and a number that is no byte makes no blob. -/
example : ofJson "\"12\"" = some (.text "12") ∧ ofJson "[256]" = none := by cbv

end QueryGate.ValueRoundTrip
