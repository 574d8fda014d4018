import DeployTree.Proofs.Json.Numerals
import DeployTree.Proofs.Pattern.Language
import DeployTree.Rule
import DeployTree.Value.Encoding

/-! # Flags written as texts

A flag may be written as a text: a word for a truth value, in letters of either case. Whether a rule
accepts the text and which truth value is emitted for it are decided by two notions of case, the
folding of letters and the small letters of the basic alphabet. They agree on every word that does
not hold the long s, and a word that holds it is accepted as *false* but emitted as `null`
(`DeployTree.Value.flagJson_of_accepts`). Numbers and lists are never accepted.
-/

namespace DeployTree

namespace Pattern

/-- A text fits the pattern of flags when its letters fold to a word that names a truth value, or to
none at all. -/
theorem fits_flagText_iff {text : List Char} :
    flagText.fits text = true ↔
      text.map Text.foldCase ∈
        [['t'], ['t', 'r', 'u', 'e'], ['f'], ['f', 'a', 'l', 's', 'e'], []] := by
  rw [fits, flagText, if_pos rfl, Regex.accepts_iff_matches, Regex.matches_anyOf_iff]
  simp [Regex.matches_word_iff, Regex.matches_empty_iff]

end Pattern

namespace Text

/-- The long s, which folds to `s` like the capital does. -/
def longS : Char := '\u017f'

/-- The Kelvin sign, which folds to `k`. -/
def kelvin : Char := '\u212a'

private theorem foldCase_eq_toLower {c : Char} (notLongS : c ≠ longS) (notKelvin : c ≠ kelvin) :
    foldCase c = c.toLower := by
  rw [longS] at notLongS
  rw [kelvin] at notKelvin
  rw [foldCase, if_neg notLongS, if_neg notKelvin]

private theorem foldCase_of_isDigit {c : Char} (digit : c.isDigit = true) : foldCase c = c := by
  have bounds : 48 ≤ c.val ∧ c.val ≤ 57 := by
    have tests : (decide (c.val ≥ 48) && decide (c.val ≤ 57)) = true := digit
    simpa using tests
  have notUpper : ¬ (c.val ≥ 'A'.val ∧ c.val ≤ 'Z'.val) := fun upper =>
    absurd (UInt32.le_trans upper.1 bounds.2) (by decide)
  calc foldCase c
      = c.toLower :=
        foldCase_eq_toLower (Json.ne_of_isDigit digit rfl) (Json.ne_of_isDigit digit rfl)
    _ = c := dif_neg notUpper

private theorem map_foldCase_eq {text : List Char} (notLongS : longS ∉ text)
    (notKelvin : kelvin ∉ text) :
    text.map foldCase = text.map Char.toLower := by
  apply List.map_congr_left
  intro c member
  apply foldCase_eq_toLower
  · rintro rfl
    exact notLongS member
  · rintro rfl
    exact notKelvin member

end Text

namespace Value

/-- The words for the truth values. -/
def flagWords : List (String × Bool) :=
  [("t", true), ("true", true), ("f", false), ("false", false)]

/-- Whether a value names a truth value, whatever the case of its letters. -/
inductive Names : Value → Bool → Prop
  | flag (state : Bool) : Names (.flag state) state
  | text {content word : String} {state : Bool} (listed : (word, state) ∈ flagWords)
      (variant : content.toList.map Text.foldCase = word.toList) : Names (.text content) state

open Text (longS kelvin foldCase)

variable {name : String} {value : Value} {state : Bool} {content word : String} {text : List Char}

private theorem truthOf?_eq_some_iff :
    truthOf? text = some state ↔
      ∃ word, (word, state) ∈ flagWords ∧ text.map Char.toLower = word.toList := by
  constructor
  · intro named
    rw [truthOf?] at named
    split at named
    · rename_i small
      obtain rfl := Option.some.inj named
      rcases small with small | small
      · exact ⟨"t", by decide, small⟩
      · exact ⟨"true", by decide, small⟩
    · split at named
      · rename_i small
        obtain rfl := Option.some.inj named
        rcases small with small | small
        · exact ⟨"f", by decide, small⟩
        · exact ⟨"false", by decide, small⟩
      · cases named
  · rintro ⟨word, listed, small⟩
    rw [truthOf?, small]
    simp only [flagWords, List.mem_cons, Prod.mk.injEq, List.not_mem_nil, or_false] at listed
    rcases listed with ⟨rfl, rfl⟩ | ⟨rfl, rfl⟩ | ⟨rfl, rfl⟩ | ⟨rfl, rfl⟩ <;> rfl

private theorem flagJson_text (content : String) :
    flagJson (some (.text content)) = (truthOf? content.toList).elim .null .bool := by
  rw [flagJson, chars]
  · cases truthOf? content.toList <;> rfl
  · nofun

private theorem flagJson_cases (setting : Option Value) :
    flagJson setting = .null ∨ ∃ state, flagJson setting = .bool state := by
  unfold flagJson
  split
  · exact .inl rfl
  · exact .inr ⟨_, rfl⟩
  · split
    · exact .inr ⟨_, rfl⟩
    · exact .inl rfl

private theorem names_flag_iff {own : Bool} : (flag own).Names state ↔ own = state := by
  constructor
  · rintro ⟨⟩
    rfl
  · rintro rfl
    exact .flag own

private theorem notMem_of_map_toLower {c : Char} (small : text.map Char.toLower = word.toList)
    (apart : c.toLower ∉ word.toList) : c ∉ text := by
  intro member
  rw [← small] at apart
  exact apart (List.mem_map_of_mem member)

/-- A text is taken for the truth value that it names unless it holds the long s. -/
theorem truthOf?_eq_some_iff_names :
    truthOf? content.toList = some state ↔
      (Value.text content).Names state ∧ longS ∉ content.toList := by
  -- The two signs have no place in small words, and the fold of the Kelvin sign has none either.
  have plain : ∀ entry ∈ flagWords, longS.toLower ∉ entry.1.toList ∧
      kelvin.toLower ∉ entry.1.toList ∧ foldCase kelvin ∉ entry.1.toList := by
    decide
  rw [truthOf?_eq_some_iff]
  constructor
  · rintro ⟨word, listed, small⟩
    obtain ⟨apartLongS, apartKelvin, -⟩ := plain _ listed
    have notLongS := notMem_of_map_toLower small apartLongS
    have notKelvin := notMem_of_map_toLower small apartKelvin
    exact ⟨.text listed ((Text.map_foldCase_eq notLongS notKelvin).trans small), notLongS⟩
  · rintro ⟨names, notLongS⟩
    cases names with
    | @text _ word _ listed variant =>
        have notKelvin : kelvin ∉ content.toList := by
          intro member
          apply (plain _ listed).2.2
          rw [← variant]
          exact List.mem_map_of_mem member
        exact ⟨word, listed, (Text.map_foldCase_eq notLongS notKelvin).symm.trans variant⟩

private theorem Names.eq_false (names : value.Names state) (member : longS ∈ value.chars) :
    state = false := by
  have only : ∀ entry ∈ flagWords, foldCase longS ∈ entry.1.toList → entry.2 = false := by
    decide
  cases names with
  | flag state => cases state <;> exact absurd member (by decide)
  | @text content word state listed variant =>
      apply only _ listed
      rw [← variant]
      exact List.mem_map_of_mem member

private theorem accepts_flag_iff :
    (Rule.flag name).accepts (some value) = true ↔ Pattern.flagText.fits value.chars = true := by
  cases value with
  | text content => rfl
  | _ => simp [Rule.accepts, Rule.flag, Pattern.accepts, rendered]

private theorem toList_toString (number : Int) :
    (toString number).toList = Json.integerChars number := by
  cases number with
  | ofNat value => exact Nat.toList_repr
  | negSucc value =>
      change ("-" ++ (value + 1).repr).toList = _
      rw [String.toList_append, Nat.toList_repr]
      rfl

/-- What fits the pattern of flags is a flag or a text: numbers and lists are written with
characters that no word for a truth value has. -/
theorem exists_of_fits (fits : Pattern.flagText.fits value.chars = true) :
    (∃ state, value = .flag state) ∨ ∃ content, value = .text content := by
  have first {c : Char} {rest : List Char} (split : value.chars = c :: rest) :
      foldCase c = 't' ∨ foldCase c = 'f' := by
    have folded := Pattern.fits_flagText_iff.mp fits
    rw [split, List.map_cons] at folded
    simp only [List.mem_cons, List.cons.injEq, List.not_mem_nil, or_false, reduceCtorEq] at folded
    rcases folded with ⟨letter, -⟩ | ⟨letter, -⟩ | ⟨letter, -⟩ | ⟨letter, -⟩
    · exact .inl letter
    · exact .inl letter
    · exact .inr letter
    · exact .inr letter
  cases value with
  | text content => exact .inr ⟨content, rfl⟩
  | flag state => exact .inl ⟨state, rfl⟩
  | integer number =>
      obtain ⟨c, rest, split, sign⟩ := Json.exists_integerChars_eq_cons number.toInt
      have letter := first ((toList_toString number.toInt).trans split)
      rcases sign with rfl | digit
      · exact absurd letter (by decide)
      · rw [Text.foldCase_of_isDigit digit] at letter
        rcases letter with rfl | rfl <;> cases digit
  | list items =>
      have letter : foldCase '[' = 't' ∨ foldCase '[' = 'f' := first rfl
      exact absurd letter (by decide)

/-- A value that a rule for flags accepts names a truth value or is the empty text. -/
theorem names_of_accepts (accepted : (Rule.flag name).accepts (some value) = true) :
    value = .text "" ∨ ∃ state, value.Names state := by
  rw [accepts_flag_iff] at accepted
  rcases exists_of_fits accepted with ⟨state, rfl⟩ | ⟨content, rfl⟩
  · exact .inr ⟨state, .flag state⟩
  · have folded := Pattern.fits_flagText_iff.mp accepted
    simp only [chars, List.mem_cons, List.not_mem_nil, or_false] at folded
    rcases folded with variant | variant | variant | variant | variant
    · exact .inr ⟨true, .text (by decide : ("t", true) ∈ flagWords) variant⟩
    · exact .inr ⟨true, .text (by decide : ("true", true) ∈ flagWords) variant⟩
    · exact .inr ⟨false, .text (by decide : ("f", false) ∈ flagWords) variant⟩
    · exact .inr ⟨false, .text (by decide : ("false", false) ∈ flagWords) variant⟩
    · have blank : content = "" := String.toList_eq_nil_iff.mp (List.map_eq_nil_iff.mp variant)
      exact .inl (congrArg Value.text blank)

/-- **Flags written as texts.** A value that a rule for flags accepts is the empty text or names a
truth value. It is emitted as the truth value that it names, except that a word written with the
long s is emitted as `null`, like the empty text. -/
theorem flagJson_of_accepts (accepted : (Rule.flag name).accepts (some value) = true) :
    (value = .text "" ∨ ∃ state, value.Names state) ∧
      (∀ state, flagJson (some value) = .bool state ↔ value.Names state ∧ longS ∉ value.chars) ∧
      (flagJson (some value) = .null ↔
        value = .text "" ∨ value.Names false ∧ longS ∈ value.chars) := by
  have truth (state : Bool) :
      flagJson (some value) = .bool state ↔ value.Names state ∧ longS ∉ value.chars := by
    rw [accepts_flag_iff] at accepted
    rcases exists_of_fits accepted with ⟨own, rfl⟩ | ⟨content, rfl⟩
    · have plain : longS ∉ (Value.flag own).chars := by cases own <;> decide
      rw [flagJson, names_flag_iff, Json.bool.injEq, and_iff_left plain]
    · rw [flagJson_text, chars, ← truthOf?_eq_some_iff_names]
      cases truthOf? content.toList <;> simp
  have given := names_of_accepts accepted
  refine ⟨given, truth, ?_⟩
  constructor
  · intro null
    rcases given with blank | ⟨state, names⟩
    · exact .inl blank
    · by_cases member : longS ∈ value.chars
      · exact .inr ⟨names.eq_false member ▸ names, member⟩
      · have emitted := (truth state).mpr ⟨names, member⟩
        rw [null] at emitted
        cases emitted
  · rintro (rfl | ⟨-, member⟩)
    · rfl
    · rcases flagJson_cases (some value) with null | ⟨state, emitted⟩
      · exact null
      · exact absurd member ((truth state).mp emitted).2

/-- Capitals make no difference. -/
theorem flagJson_capitals :
    (Rule.flag "required").accepts (some (.text "FaLsE")) = true ∧
      (Value.text "FaLsE").Names false ∧ longS ∉ (Value.text "FaLsE").chars ∧
      flagJson (some (.text "FaLsE")) = .bool false := by
  have accepted : (Rule.flag "required").accepts (some (.text "FaLsE")) = true := by decide +kernel
  have names : (Value.text "FaLsE").Names false :=
    .text (by decide : ("false", false) ∈ flagWords) (by decide)
  have plain : longS ∉ (Value.text "FaLsE").chars := by decide
  exact ⟨accepted, names, plain, ((flagJson_of_accepts accepted).2.1 false).mpr ⟨names, plain⟩⟩

/-- With the long s the word is accepted, and still it is emitted as `null`. -/
theorem flagJson_longS_eq_null :
    (Rule.flag "use_inventory").accepts (some (.text "fal\u017fe")) = true ∧
      (Value.text "fal\u017fe").Names false ∧
      flagJson (some (.text "fal\u017fe")) = .null := by
  refine ⟨by decide +kernel, ?_, by decide +kernel⟩
  exact .text (by decide : ("false", false) ∈ flagWords) (by decide)

end Value

end DeployTree
