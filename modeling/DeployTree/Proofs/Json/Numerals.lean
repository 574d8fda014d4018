import DeployTree.Proofs.Json.Reading

/-! # Reading whole numbers

A whole number that fits 64 bits, with a sign if it is negative, is read as it was written
(`DeployTree.Json.Reader.reads_anyOf_integerChars`): its digits are gathered one by one, no digit is
dropped, and what comes after it neither adds a digit nor makes it a binary number.
-/

namespace DeployTree.Json

open Reader

/-- Digits that are appended only make a number greater. -/
theorem le_ofDigitChars (digits : List Char) (start : Nat) :
    start ≤ Nat.ofDigitChars 10 digits start := by
  induction digits generalizing start with
  | nil => exact Nat.le_refl _
  | cons digit rest ih =>
      rw [Nat.ofDigitChars_cons]
      have later := ih (10 * start + (digit.toNat - '0'.toNat))
      omega

/-- All digits of a number within the limit are taken. -/
theorem absorb_eq {limit start : Nat} {digits : List Char}
    (fits : Nat.ofDigitChars 10 digits start ≤ limit) :
    absorb limit start digits = (Nat.ofDigitChars 10 digits start, digits.length) := by
  induction digits generalizing start with
  | nil => rfl
  | cons digit rest ih =>
      rw [Nat.ofDigitChars_cons] at fits ⊢
      have same : start * 10 + digitValue digit = 10 * start + (digit.toNat - '0'.toNat) := by
        rw [Nat.mul_comm, digitValue]
      have within : start * 10 + digitValue digit ≤ limit := by
        rw [same]
        exact Nat.le_trans (le_ofDigitChars rest _) fits
      rw [absorb, if_pos within, same, ih fits]
      rfl

/-- A positive number does not start with the digit zero. -/
theorem exists_toDigits_eq_cons {value : Nat} (positive : 0 < value) :
    ∃ c rest, Nat.toDigits 10 value = c :: rest ∧ c ≠ '0' := by
  have digits : ∀ digit < 10, 0 < digit → digit.digitChar ≠ '0' := by decide
  -- All digits but the last are those of a tenth of the number.
  induction value using Nat.strongRecOn with
  | ind value ih =>
      by_cases small : value < 10
      · exact ⟨value.digitChar, [], Nat.toDigits_of_lt_base small, digits value small positive⟩
      · obtain ⟨c, rest, same, notZero⟩ := ih (value / 10) (by omega) (by omega)
        refine ⟨c, rest ++ [(value % 10).digitChar], ?_, notZero⟩
        rw [Nat.toDigits_of_base_le (by decide) (Nat.not_lt.mp small), same, List.cons_append]

private theorem forall_isDigit_toDigits (value : Nat) :
    ∀ c ∈ Nat.toDigits 10 value, c.isDigit = true :=
  fun _ => Nat.isDigit_of_mem_toDigits (by decide) (by decide)

/-- A whole number starts with its sign or with a digit. -/
theorem exists_integerChars_eq_cons (number : Int) :
    ∃ c rest, integerChars number = c :: rest ∧ (c = '-' ∨ c.isDigit = true) := by
  cases number with
  | ofNat value =>
      obtain ⟨c, rest, same⟩ :=
        List.exists_cons_of_ne_nil (Nat.toDigits_ne_nil (n := value) (b := 10))
      exact ⟨c, rest, same, .inr (forall_isDigit_toDigits value c (same ▸ List.mem_cons_self))⟩
  | negSucc value => exact ⟨'-', _, rfl, .inl rfl⟩

/-- A digit is no character that is not a digit. -/
theorem ne_of_isDigit {c other : Char} (digit : c.isDigit = true) (letter : other.isDigit = false) :
    c ≠ other := by
  rintro rfl
  rw [digit] at letter
  cases letter

/-- A digit is no blank. -/
theorem isBlank_of_isDigit {c : Char} (digit : c.isDigit = true) : Cursor.isBlank c = false := by
  simp [Cursor.isBlank, ne_of_isDigit digit]

namespace Reader

variable {digits rest : List Char} {place : Position}

private theorem not_isDigit_of_delimited (after : Delimited rest) :
    rest.takeWhile Char.isDigit = [] := by
  cases rest with
  | nil => rfl
  | cons c others =>
      rcases after c rfl with rfl | rfl | rfl
      · rfl
      · rfl
      · rfl

private theorem advanceBy_append (digits rest : List Char) (place : Position) :
    advanceBy digits.length ⟨digits ++ rest, place⟩ =
      .ok ((), ⟨rest, place.afterChars digits⟩) := by
  induction digits generalizing place with
  | nil => rfl
  | cons digit digits ih =>
      rw [List.length_cons, advanceBy, List.cons_append, bind_of_ok (advance_cons digit _ place)]
      exact ih _

private theorem takeDigits_append (all : ∀ c ∈ digits, c.isDigit = true) (after : Delimited rest)
    (place : Position) :
    takeDigits ⟨digits ++ rest, place⟩ = .ok (digits, ⟨rest, place.afterChars digits⟩) := by
  have ahead : peekDigits ⟨digits ++ rest, place⟩ = .ok (digits, ⟨digits ++ rest, place⟩) := by
    rw [peekDigits, List.takeWhile_append_of_pos all, not_isDigit_of_delimited after,
      List.append_nil]
  rw [takeDigits, bind_of_ok ahead, bind_of_ok (advanceBy_append digits rest place)]
  rfl

/-- A number that ends with its whole part is a whole number. -/
theorem afterWhole_of_delimited (negative : Bool) (significand : Nat) (after : Delimited rest)
    (place : Position) :
    afterWhole negative significand 0 ⟨rest, place⟩ =
      .ok (wholeOf negative significand, ⟨rest, place⟩) := by
  have next : peek ⟨rest, place⟩ = .ok (rest.head?, ⟨rest, place⟩) := rfl
  rw [afterWhole, bind_of_ok next]
  cases rest with
  | nil => rfl
  | cons c others =>
      rcases after c rfl with rfl | rfl | rfl
      · rfl
      · rfl
      · rfl

private theorem numeral_zero (negative : Bool) (after : Delimited rest) (place : Position) :
    numeral negative ⟨'0' :: rest, place⟩ =
      .ok (wholeOf negative 0, ⟨rest, place.afterChar '0'⟩) := by
  have ends := afterWhole_of_delimited negative 0 after (place.afterChar '0')
  cases rest with
  | nil => exact ends
  | cons c others =>
      rcases after c rfl with rfl | rfl | rfl
      · exact ends
      · exact ends
      · exact ends

/-- The digits of a number that fits are read as this number. -/
theorem numeral_toDigits (negative : Bool) {value : Nat} (fits : value ≤ significandLimit)
    (after : Delimited rest) (place : Position) :
    numeral negative ⟨Nat.toDigits 10 value ++ rest, place⟩ =
      .ok (wholeOf negative value, ⟨rest, place.afterChars (Nat.toDigits 10 value)⟩) := by
  by_cases positive : 0 < value
  · obtain ⟨c, others, same, notZero⟩ := exists_toDigits_eq_cons positive
    have digit : c.isDigit = true :=
      forall_isDigit_toDigits value c (same ▸ List.mem_cons_self)
    have next : peek ⟨Nat.toDigits 10 value ++ rest, place⟩ =
        .ok (some c, ⟨Nat.toDigits 10 value ++ rest, place⟩) := by
      rw [same]
      exact peek_cons c (others ++ rest) place
    have taken := takeDigits_append (forall_isDigit_toDigits value) after place
    have total : Nat.ofDigitChars 10 (Nat.toDigits 10 value) 0 = value :=
      Nat.ofDigitChars_ten_toDigits
    have absorbed := absorb_eq (total.symm ▸ fits)
    rw [total] at absorbed
    rw [numeral, bind_of_ok next]
    simp only [digit, ↓reduceIte]
    rw [bind_of_ok taken]
    simp only [absorbed, Nat.sub_self]
    exact afterWhole_of_delimited negative value after _
  · obtain rfl : value = 0 := Nat.eq_zero_of_not_pos positive
    exact numeral_zero negative after place

/-- Where a digit stands, a number is read. -/
theorem anyOf_digit {c : Char} (digit : c.isDigit = true) (array object : Reader Json)
    (others : List Char) (place : Position) :
    anyOf array object ⟨c :: others, place⟩ =
      (Json.number <$> numeral false) ⟨c :: others, place⟩ := by
  have notN : c ≠ 'n' := ne_of_isDigit digit rfl
  have notT : c ≠ 't' := ne_of_isDigit digit rfl
  have notF : c ≠ 'f' := ne_of_isDigit digit rfl
  have notMinus : c ≠ '-' := ne_of_isDigit digit rfl
  have notQuote : c ≠ '"' := ne_of_isDigit digit rfl
  have notBracket : c ≠ '[' := ne_of_isDigit digit rfl
  have notBrace : c ≠ '\x7b' := ne_of_isDigit digit rfl
  rw [anyOf, bind_of_ok (peekPastBlanks_cons (isBlank_of_isDigit digit))]
  simp only [digit, ↓reduceIte]

/-- **Whole numbers.** A whole number that fits 64 bits is read as it was written. -/
theorem reads_anyOf_integerChars (array object : Reader Json) {number : Int}
    (lower : -(UInt64.size / 2 : Nat) ≤ number) (upper : number < UInt64.size) :
    Reads (anyOf array object) (integerChars number) (.number (.integer number)) := by
  intro rest place after
  cases number with
  | ofNat value =>
      have fits : value ≤ significandLimit := by
        have limit : significandLimit + 1 = UInt64.size := rfl
        rw [Int.ofNat_eq_natCast] at upper
        omega
      have read := map_of_ok (numeral_toDigits false fits after place) Json.number
      obtain ⟨c, others, same⟩ :=
        List.exists_cons_of_ne_nil (Nat.toDigits_ne_nil (n := value) (b := 10))
      have digit : c.isDigit = true :=
        forall_isDigit_toDigits value c (same ▸ List.mem_cons_self)
      rw [integerChars, same, List.cons_append, anyOf_digit digit]
      rw [same] at read
      exact read
  | negSucc value =>
      have fits : value + 1 ≤ UInt64.size / 2 := by
        rw [Int.negSucc_eq] at lower
        omega
      have within : value + 1 ≤ significandLimit :=
        Nat.le_trans fits (by decide)
      have whole : wholeOf true (value + 1) = .integer (.negSucc value) := by
        rw [wholeOf, if_pos rfl, if_pos ⟨Nat.succ_pos value, fits⟩]
        rfl
      rw [integerChars, List.cons_append, anyOf, bind_of_ok (peekPastBlanks_cons rfl)]
      have read := map_of_ok (numeral_toDigits true within after (place.afterChar '-')) Json.number
      rw [whole] at read
      exact read

end Reader

end DeployTree.Json
