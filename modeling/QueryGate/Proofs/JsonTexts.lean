import Mathlib.Data.List.Forall2
import Mathlib.Data.List.TakeDrop
import QueryGate.Json
import QueryGate.Json.Writer

/-! What is written as JSON is read back. A written string is read one character at a time, whatever
characters it has; a written integer is read up to the text that ends it; and an array is read if its
items are. The last two depend on what follows, so a text is said to be read as a tree wherever a
number in its place would end. -/
namespace QueryGate.Json

variable {rest : List Char}

/-! Integers -/

/-- A text that does not continue a number written before it. -/
def EndsNumber (rest : List Char) : Prop :=
  ∀ c ∈ rest.head?, c.isDigit = false ∧ c ≠ '.' ∧ c ≠ 'e' ∧ c ≠ 'E'

theorem endsNumber_nil : EndsNumber [] := by simp [EndsNumber]

theorem endsNumber_comma (rest : List Char) : EndsNumber (',' :: rest) := by simp [EndsNumber]

theorem endsNumber_bracket (rest : List Char) : EndsNumber (']' :: rest) := by simp [EndsNumber]

/-- The numeral that an integer is written as. -/
def Numeral.ofInt (i : Int) : Numeral := ⟨i < 0, Text.decimal i.natAbs, none, none⟩

theorem Numeral.integer?_ofInt (i : Int) : (ofInt i).integer? = some i := by
  have plain : ¬ ((ofInt i).fraction.isSome ∨ (ofInt i).exponent.isSome) := by simp [ofInt]
  have magnitude : Text.ofDigits (ofInt i).whole = i.natAbs := Text.ofDigits_decimal i.natAbs
  rw [integer?, if_neg plain, magnitude]
  by_cases negative : i < 0
  · have nonzero : i.natAbs ≠ 0 := by omega
    have value : -(i.natAbs : Int) = i := by omega
    have sign : (ofInt i).negative = true := decide_eq_true negative
    rw [if_pos sign, if_neg nonzero, value]
  · have value : (i.natAbs : Int) = i := by omega
    have sign : ¬ (ofInt i).negative = true := by simpa [ofInt] using negative
    rw [if_neg sign, value]

namespace Numeral

theorem readDigits_append {digits : List Char} (some : digits ≠ [])
    (all : ∀ c ∈ digits, c.isDigit = true) (ends : EndsNumber rest) :
    readDigits (digits ++ rest) = .some (digits, rest) := by
  have stops : rest.takeWhile Char.isDigit = [] ∧ rest.dropWhile Char.isDigit = rest := by
    cases rest with
    | nil => exact ⟨rfl, rfl⟩
    | cons c rest => simp [(ends c rfl).1]
  rw [readDigits, List.takeWhile_append_of_pos all, List.dropWhile_append_of_pos all, stops.1,
    stops.2, List.append_nil, if_neg (by simpa using some)]

theorem readWhole_decimal (n : Nat) (ends : EndsNumber rest) :
    readWhole (Text.decimal n ++ rest) = some (Text.decimal n, rest) := by
  have plain : ¬ ((Text.decimal n).head? = some '0' ∧ (Text.decimal n).length ≠ 1) := by
    rintro ⟨leading, long⟩
    rcases Nat.eq_zero_or_pos n with rfl | positive
    · exact long (by rw [Text.decimal]; rfl)
    · exact Text.head?_decimal_ne positive leading
  simp only [readWhole, readDigits_append (Text.decimal_ne_nil n) (Text.isDigit_of_mem_decimal n) ends,
    Option.bind_eq_bind, Option.bind_some, if_neg plain]

theorem readFraction_of_ends (ends : EndsNumber rest) : readFraction rest = some (none, rest) := by
  unfold readFraction
  split
  · exact absurd rfl (ends '.' rfl).2.1
  · rfl

theorem readExponent_of_ends (ends : EndsNumber rest) : readExponent rest = some (none, rest) := by
  cases rest with
  | nil => rfl
  | cons c rest =>
    obtain ⟨-, -, small, capital⟩ := ends c rfl
    simp [readExponent, small, capital]

theorem readSign_decimal (n : Nat) (rest : List Char) :
    readSign (Text.decimal n ++ rest) = (false, Text.decimal n ++ rest) := by
  obtain ⟨c, digits, whole⟩ := List.exists_cons_of_ne_nil (Text.decimal_ne_nil n)
  have digit := Text.isDigit_of_mem_decimal n c (by simp [whole])
  rw [whole, List.cons_append]
  unfold readSign
  split
  · rename_i same
    cases same
    exact absurd digit (by decide)
  · rfl

/-- An integer is read as it was written, up to the text that ends it. -/
theorem read_integer (i : Int) (ends : EndsNumber rest) :
    read ((Text.integer i).toList ++ rest) = some (ofInt i, rest) := by
  have sign : readSign ((Text.integer i).toList ++ rest) =
      (decide (i < 0), Text.decimal i.natAbs ++ rest) := by
    by_cases negative : i < 0
    · simp [Text.integer, Text.natural, negative, readSign]
    · simp [Text.integer, Text.natural, negative, readSign_decimal]
  simp [read, sign, readWhole_decimal _ ends, readFraction_of_ends ends, readExponent_of_ends ends,
    ofInt]

end Numeral

/-! Strings -/

/-- The character that an item stands for: itself, or the control character of a unit. -/
inductive StandsFor : StringItem → Char → Prop where
  | char (c : Char) : StandsFor (.char c) c
  | unit {c : Char} (control : c.toNat < 0x20) : StandsFor (.unit c.toNat) c

theorem joinItems_cons {item : StringItem} {c : Char} (stands : StandsFor item c)
    (items : List StringItem) : joinItems (item :: items) = (joinItems items).map (c :: ·) := by
  cases stands with
  | char => rw [joinItems]
  | unit control =>
    have high : ¬ 0xD800 ≤ c.toNat := by omega
    rcases items with _ | ⟨_ | _, _⟩ <;> simp [joinItems, high, Char.ofNat_toNat]

theorem hexadecimal?_pair {high low : Nat} (highBound : high < 16) (lowBound : low < 16) :
    hexadecimal? ['0', '0', Text.digitChar high, Text.digitChar low] = some (high * 16 + low) := by
  have digit : ∀ digit < 16, Text.isHexDigit (Text.digitChar digit) = true ∧
      Text.digitValue (Text.digitChar digit) = digit := by decide
  have zero : Text.isHexDigit '0' = true ∧ Text.digitValue '0' = 0 := by decide
  simp [hexadecimal?, Text.ofDigitsIn, zero, digit high highBound, digit low lowBound]

theorem readItems_short {letter c : Char} (short : shortEscape? letter = some c)
    (rest : List Char) : readItems ('\\' :: letter :: rest) =
      (readItems rest).map fun (items, rest) => (.char c :: items, rest) := by
  rw [readItems, short]
  · cases readItems rest <;> rfl
  · rintro _ _ _ _ _ rfl
    cases short

theorem readItems_plain {c : Char} (quote : c ≠ '"') (backslash : c ≠ '\\')
    (printable : ¬ c.toNat < 0x20) (rest : List Char) :
    readItems (c :: rest) = (readItems rest).map fun (items, rest) => (.char c :: items, rest) := by
  rw [readItems, if_neg printable]
  · exact quote
  · exact fun _ _ _ _ _ same => absurd same backslash
  · exact fun _ _ same => absurd same backslash

theorem readItems_unit {c : Char} (control : c.toNat < 0x20) (rest : List Char) :
    readItems ('\\' :: 'u' :: '0' :: '0' :: Text.digitChar (c.toNat / 16) ::
        Text.digitChar (c.toNat % 16) :: rest) =
      (readItems rest).map fun (items, rest) => (.unit c.toNat :: items, rest) := by
  have digits := hexadecimal?_pair (show c.toNat / 16 < 16 by omega)
    (Nat.mod_lt c.toNat (by decide))
  rw [show c.toNat / 16 * 16 + c.toNat % 16 = c.toNat by omega] at digits
  rw [readItems, digits]
  cases readItems rest <;> rfl

/-- Whatever character is written, one item that stands for it is read. -/
theorem readItems_escaped (c : Char) : ∃ item, StandsFor item c ∧
    ∀ rest, readItems (escaped c ++ rest) =
      (readItems rest).map fun (items, rest) => (item :: items, rest) := by
  unfold escaped
  split
  case h_8 quote backslash _ _ _ _ _ =>
    by_cases control : c.toNat < 0x20
    · rw [if_pos control]
      exact ⟨.unit c.toNat, .unit control, readItems_unit control⟩
    · rw [if_neg control]
      exact ⟨.char c, .char c, readItems_plain quote backslash control⟩
  all_goals exact ⟨.char _, .char _, readItems_short rfl⟩

/-- A written text is read back up to its closing quote. -/
theorem readString_escaped (text rest : List Char) :
    readString (text.flatMap escaped ++ '"' :: rest) = some (some (String.ofList text), rest) := by
  have items : ∃ items, readItems (text.flatMap escaped ++ '"' :: rest) = some (items, rest) ∧
      joinItems items = some text := by
    induction text with
    | nil => exact ⟨[], by simp [readItems], rfl⟩
    | cons c text later =>
      obtain ⟨items, read, joined⟩ := later
      obtain ⟨item, stands, first⟩ := readItems_escaped c
      refine ⟨item :: items, ?_, by rw [joinItems_cons stands, joined]; rfl⟩
      rw [List.flatMap_cons, List.append_assoc, first, read]
      rfl
  obtain ⟨items, read, joined⟩ := items
  rw [readString, read]
  simp [joined]

/-! Values -/

theorem skipBlanks_cons {c : Char} (visible : isBlank c = false) (rest : List Char) :
    skipBlanks (c :: rest) = c :: rest := by
  simp [skipBlanks, visible]

/-- The text is read as the tree wherever a number may end after it. Its first character is neither
blank nor the end of an array, so that it may stand as an item. -/
structure ReadsAs (text : String) (tree : Json) : Prop where
  opens : ∃ c tail, text.toList = c :: tail ∧ isBlank c = false ∧ c ≠ ']'
  reads : ∀ fuel rest, 2 * text.toList.length ≤ fuel + 1 → EndsNumber rest →
    readValue (fuel + 1) (text.toList ++ rest) = some (tree, rest)

theorem ReadsAs.readValue {text : String} {tree : Json} (value : ReadsAs text tree) {fuel : Nat}
    (enough : 2 * text.toList.length ≤ fuel) (ends : EndsNumber rest) :
    Json.readValue fuel (text.toList ++ rest) = some (tree, rest) := by
  obtain ⟨c, tail, whole, -, -⟩ := value.opens
  have visible : 0 < text.toList.length := by simp [whole]
  obtain ⟨fuel, rfl⟩ := Nat.exists_eq_add_one_of_ne_zero (show fuel ≠ 0 by omega)
  exact value.reads fuel rest enough ends

theorem ReadsAs.read {text : String} {tree : Json} (value : ReadsAs text tree) :
    Json.read text = some tree := by
  have whole := value.reads (2 * text.toList.length + 1) [] (by omega) endsNumber_nil
  rw [List.append_nil] at whole
  simp only [Json.read, whole]
  rfl

theorem readsAs_null : ReadsAs "null" .null where
  opens := ⟨'n', _, rfl, rfl, by decide⟩
  reads fuel rest _ _ := by simp [readValue, skipBlanks, isBlank]

theorem readsAs_bool (b : Bool) : ReadsAs (writeBool b) (.bool b) where
  opens := by cases b <;> exact ⟨_, _, rfl, rfl, by decide⟩
  reads fuel rest _ _ := by cases b <;> simp [writeBool, readValue, skipBlanks, isBlank]

theorem readsAs_string (text : String) : ReadsAs (writeString text) (.string text) where
  opens := ⟨'"', _, by rw [writeString, String.toList_ofList]; rfl, rfl, by decide⟩
  reads fuel rest _ _ := by
    have content := readString_escaped text.toList rest
    simp [writeString, readValue, skipBlanks, isBlank, content]

/-- A minus sign or a digit. -/
def StartsNumber (c : Char) : Prop := c = '-' ∨ c.isDigit = true

instance : DecidablePred StartsNumber := fun _ => inferInstanceAs (Decidable (_ ∨ _))

theorem StartsNumber.ne {c : Char} (starts : StartsNumber c) (other : Char)
    (differs : ¬ StartsNumber other) : c ≠ other := fun same => differs (same ▸ starts)

theorem StartsNumber.not_blank {c : Char} (starts : StartsNumber c) : isBlank c = false := by
  have space := starts.ne ' ' (by decide)
  have tab := starts.ne '\t' (by decide)
  have feed := starts.ne '\n' (by decide)
  have ret := starts.ne '\r' (by decide)
  simp [isBlank, space, tab, feed, ret]

theorem startsNumber_integer (i : Int) :
    ∃ c tail, (Text.integer i).toList = c :: tail ∧ StartsNumber c := by
  by_cases negative : i < 0
  · exact ⟨'-', Text.decimal i.natAbs, by simp [Text.integer, Text.natural, negative], .inl rfl⟩
  · obtain ⟨c, tail, whole⟩ := List.exists_cons_of_ne_nil (Text.decimal_ne_nil i.natAbs)
    have digit := Text.isDigit_of_mem_decimal i.natAbs c (by simp [whole])
    exact ⟨c, tail, by simp [Text.integer, Text.natural, negative, whole], .inr digit⟩

theorem readValue_number {c : Char} (starts : StartsNumber c) (fuel : Nat) (rest : List Char) :
    readValue (fuel + 1) (c :: rest) =
      (Numeral.read (c :: rest)).map fun (numeral, rest) => (.number numeral, rest) := by
  rw [readValue, skipBlanks_cons starts.not_blank]
  -- Every other kind of value starts with a character of its own.
  split
  case h_7 => rfl
  all_goals
    rename_i same
    cases same
    exact absurd starts (by decide)

theorem readsAs_integer (i : Int) : ReadsAs (Text.integer i) (.number (.ofInt i)) where
  opens := by
    obtain ⟨c, tail, whole, starts⟩ := startsNumber_integer i
    exact ⟨c, tail, whole, starts.not_blank, starts.ne ']' (by decide)⟩
  reads fuel rest _ ends := by
    have number := Numeral.read_integer i ends
    obtain ⟨c, tail, whole, starts⟩ := startsNumber_integer i
    rw [whole, List.cons_append] at number ⊢
    rw [readValue_number starts, number]
    rfl

/-! Arrays -/

/-- The characters between the brackets of an array. -/
def between (texts : List String) : List Char := [','].intercalate (texts.map String.toList)

theorem toList_writeArray (texts : List String) :
    (writeArray texts).toList = '[' :: (between texts ++ [']']) := by
  simp [writeArray, between, String.toList_intercalate]

theorem between_singleton (text : String) : between [text] = text.toList := by simp [between]

theorem between_cons_cons (text next : String) (texts : List String) :
    between (text :: next :: texts) = text.toList ++ ',' :: between (next :: texts) := by
  simp [between, List.intercalate_cons_cons]

/-- Items are read one after the other, each up to the comma or the bracket that ends it. -/
theorem readArray_between {texts : List String} {trees : List Json}
    (items : List.Forall₂ ReadsAs texts trees) (some : texts ≠ []) {fuel : Nat}
    (enough : 2 * (between texts).length < fuel) :
    readArray fuel (between texts ++ ']' :: rest) = .some (trees, rest) := by
  -- Reading an item and its comma takes one unit of fuel from at least two characters' worth.
  induction items generalizing fuel with
  | nil => exact absurd rfl some
  | @cons text tree texts trees first others later =>
    obtain ⟨fuel, rfl⟩ := Nat.exists_eq_add_one_of_ne_zero (Nat.ne_zero_of_lt enough)
    cases others with
    | nil =>
      rw [between_singleton] at enough ⊢
      have item := first.readValue (show 2 * text.toList.length ≤ fuel by omega)
        (endsNumber_bracket rest)
      simp [readArray, item, skipBlanks, isBlank]
    | @cons next _ texts _ =>
      rw [between_cons_cons] at enough ⊢
      simp only [List.length_append, List.length_cons] at enough
      have item := first.readValue (show 2 * text.toList.length ≤ fuel by omega)
        (endsNumber_comma (between (next :: texts) ++ ']' :: rest))
      have further := later (by simp) (show 2 * (between (next :: texts)).length < fuel by omega)
      simp [readArray, item, skipBlanks, isBlank, further]

theorem readValue_array {c : Char} (visible : isBlank c = false) (item : c ≠ ']') (fuel : Nat)
    (rest : List Char) : readValue (fuel + 1) ('[' :: c :: rest) =
      (readArray fuel (c :: rest)).map fun (items, rest) => (.array items, rest) := by
  have bracket : isBlank '[' = false := rfl
  simp only [readValue, skipBlanks_cons bracket, skipBlanks_cons visible]
  split
  · rename_i same
    cases same
    exact absurd rfl item
  · rfl

theorem readsAs_array {texts : List String} {trees : List Json}
    (items : List.Forall₂ ReadsAs texts trees) : ReadsAs (writeArray texts) (.array trees) where
  opens := ⟨'[', _, toList_writeArray texts, rfl, by decide⟩
  reads fuel rest enough _ := by
    rw [toList_writeArray] at enough ⊢
    simp only [List.length_cons, List.length_append, List.length_nil] at enough
    cases items with
    | nil => simp [between, readValue, skipBlanks, isBlank]
    | @cons text tree texts trees first others =>
      have content : readArray fuel (between (text :: texts) ++ ']' :: rest) =
          some (tree :: trees, rest) := readArray_between (.cons first others) (by simp) (by omega)
      obtain ⟨c, tail, whole, visible, item⟩ := first.opens
      obtain ⟨more, starts⟩ : ∃ more, between (text :: texts) = c :: more := by
        cases texts with
        | nil => exact ⟨tail, by rw [between_singleton, whole]⟩
        | cons next texts => exact ⟨_, by rw [between_cons_cons, whole]; rfl⟩
      rw [starts, List.cons_append] at content
      simp [starts, readValue_array visible item, content]

end QueryGate.Json
