import Mathlib.Data.List.TakeDrop
import LiveChat.Foundation.JsonText

/-!
# What is written is read back

`loads` returns the value of every text that `dumps` makes of a value whose objects have no
key twice, in every layout.  Each reader is met by one lemma: it reads what its writer wrote,
and leaves what follows.
-/

set_option autoImplicit false

namespace LiveChat.Foundation.JsonText

open Text

/-! ## Values that a `dict` can hold -/

mutual

/-- No object has a key twice. -/
def WellFormed : Json → Prop
  | .array items => WellFormedItems items
  | .object members => (members.map Prod.fst).Nodup ∧ WellFormedMembers members
  | .null | .bool _ | .number _ _ | .string _ => True

def WellFormedItems : List Json → Prop
  | [] => True
  | item :: rest => WellFormed item ∧ WellFormedItems rest

def WellFormedMembers : List (String × Json) → Prop
  | [] => True
  | (_, value) :: rest => WellFormed value ∧ WellFormedMembers rest

end

/-- Pairs without a repeated key are a `dict` already. -/
theorem dict_of_nodup {pairs : Json.Object} (distinct : (pairs.map Prod.fst).Nodup) :
    dict pairs = pairs := by
  have grow : ∀ (front back : Json.Object), ((front ++ back).map Prod.fst).Nodup →
      back.foldl (fun members pair => insertMember members pair.1 pair.2) front = front ++ back := by
    intro front back
    induction back generalizing front with
    | nil => simp
    | cons pair rest ih =>
        intro distinct
        have fresh : pair.1 ∉ front.map Prod.fst := by
          rw [List.map_append, List.nodup_append] at distinct
          intro member
          exact distinct.2.2 pair.1 member pair.1 (by simp) rfl
        rw [List.foldl_cons, insertMember, if_neg fresh, ih (front ++ [pair]) (by simpa using distinct)]
        simp
  simpa [dict] using grow [] pairs (by simpa using distinct)

/-! ## Spans -/

theorem span_append {test : Char → Bool} {front rest : List Char}
    (all : ∀ char ∈ front, test char = true) (stops : ∀ char ∈ rest.head?, test char = false) :
    (front ++ rest).span test = (front, rest) := by
  rw [List.span_eq_takeWhile_dropWhile, List.takeWhile_append_of_pos all,
    List.dropWhile_append_of_pos all]
  cases rest with
  | nil => simp
  | cons char rest =>
      have stop := stops char rfl
      simp [stop]

theorem skipBlanks_append {front : List Char} (blank : ∀ char ∈ front, isBlank char = true)
    {char : Char} (solid : isBlank char = false) (rest : List Char) :
    skipBlanks (front ++ char :: rest) = char :: rest := by
  rw [skipBlanks, List.dropWhile_append_of_pos blank]
  simp [solid]

theorem skipBlanks_cons {char : Char} (solid : isBlank char = false) (rest : List Char) :
    skipBlanks (char :: rest) = char :: rest := by
  simp [skipBlanks, solid]

/-! ## Strings -/

theorem hexValue_digitChar : ∀ digit < 16, hexValue (Nat.digitChar digit) = some digit := by
  decide

theorem readUnit_digits {unit : Nat} (small : unit < 65536) (rest : List Char) :
    readUnit (Nat.digitChar (unit / 4096) :: Nat.digitChar (unit / 256 % 16) ::
      Nat.digitChar (unit / 16 % 16) :: Nat.digitChar (unit % 16) :: rest) = some (unit, rest) := by
  have first := hexValue_digitChar (unit / 4096) (by omega)
  have second := hexValue_digitChar (unit / 256 % 16) (by omega)
  have third := hexValue_digitChar (unit / 16 % 16) (by omega)
  have fourth := hexValue_digitChar (unit % 16) (by omega)
  simp only [readUnit, first, second, third, fourth]
  have sum : ((unit / 4096 * 16 + unit / 256 % 16) * 16 + unit / 16 % 16) * 16 + unit % 16 = unit := by
    omega
  rw [sum]

theorem readChar_writeUnit (unit : Nat) (rest : List Char) :
    readChar (writeUnit unit ++ rest) =
      readUnicode (Nat.digitChar (unit / 4096) :: Nat.digitChar (unit / 256 % 16) ::
        Nat.digitChar (unit / 16 % 16) :: Nat.digitChar (unit % 16) :: rest) := by
  simp [writeUnit, readChar, readEscape]

theorem readLowSurrogate_writeUnit {low : Nat} (small : low < 1024) (rest : List Char) :
    readLowSurrogate (writeUnit (0xdc00 + low) ++ rest) = some (low, rest) := by
  have read := readUnit_digits (show 0xdc00 + low < 65536 by omega) rest
  have range : 0xdc00 ≤ 0xdc00 + low ∧ 0xdc00 + low < 0xe000 := by omega
  simp only [writeUnit, List.cons_append, List.nil_append, readLowSurrogate, if_true, read,
    if_pos range, Nat.add_sub_cancel_left]

theorem char_range (char : Char) :
    char.toNat < 0xd800 ∨ (0xdfff < char.toNat ∧ char.toNat < 0x110000) := char.valid

/-- Every character is read as it was written. -/
theorem readChar_writeChar (char : Char) (rest : List Char) :
    readChar (writeChar char ++ rest) = some (char, rest) := by
  unfold writeChar
  cases short : shortEscapes.lookup char with
  | some letter =>
      have listed : (char, letter) ∈ shortEscapes := by
        obtain ⟨front, back, whole, _⟩ := List.lookup_eq_some_iff.mp short
        simp [whole]
      simp only [shortEscapes, List.mem_cons, Prod.mk.injEq, List.not_mem_nil, or_false] at listed
      rcases listed with ⟨rfl, rfl⟩ | ⟨rfl, rfl⟩ | ⟨rfl, rfl⟩ | ⟨rfl, rfl⟩ | ⟨rfl, rfl⟩ |
        ⟨rfl, rfl⟩ | ⟨rfl, rfl⟩ <;> rfl
  | none =>
      have plain : char ≠ BACKSLASH := by
        rintro rfl
        cases short
      have back := Char.ofNat_toNat char
      have range := char_range char
      simp only
      split
      · rename_i printable
        have low : ¬ char.toNat < 0x20 := by omega
        simp [readChar, plain, low]
      · split
        · rename_i small
          rw [readChar_writeUnit, readUnicode, readUnit_digits small]
          have high : ¬ (0xd800 ≤ char.toNat ∧ char.toNat < 0xdc00) := by omega
          have lowHalf : ¬ (0xdc00 ≤ char.toNat ∧ char.toNat < 0xe000) := by omega
          simp only [if_neg high, if_neg lowHalf, back]
        · rename_i large
          have unit : 0xd800 + (char.toNat - 0x10000) / 1024 < 65536 := by omega
          have low : (char.toNat - 0x10000) % 1024 < 1024 := Nat.mod_lt _ (by decide)
          have high : 0xd800 ≤ 0xd800 + (char.toNat - 0x10000) / 1024 ∧
              0xd800 + (char.toNat - 0x10000) / 1024 < 0xdc00 := by omega
          rw [List.append_assoc, readChar_writeUnit, readUnicode, readUnit_digits unit]
          simp only [if_pos high, readLowSurrogate_writeUnit low]
          have code : 0x10000 + (0xd800 + (char.toNat - 0x10000) / 1024 - 0xd800) * 1024 +
              (char.toNat - 0x10000) % 1024 = char.toNat := by omega
          rw [code, back]

/-- No character is written with a quote in front. -/
theorem writeChar_head (char : Char) : ∃ first more, writeChar char = first :: more ∧
    first ≠ QUOTE := by
  unfold writeChar
  cases short : shortEscapes.lookup char with
  | some letter => exact ⟨BACKSLASH, [letter], rfl, by decide⟩
  | none =>
      have plain : char ≠ QUOTE := by
        rintro rfl
        cases short
      simp only
      split
      · exact ⟨char, [], rfl, plain⟩
      · split
        · exact ⟨BACKSLASH, _, rfl, by decide⟩
        · exact ⟨BACKSLASH, _, rfl, by decide⟩

theorem length_writeChar (char : Char) : 1 ≤ (writeChar char).length := by
  obtain ⟨first, more, whole, _⟩ := writeChar_head char
  simp [whole]

theorem readString_write (text rest : List Char) {fuel : Nat} (enough : text.length < fuel) :
    readString fuel (text.flatMap writeChar ++ QUOTE :: rest) = some (text, rest) := by
  induction text generalizing fuel with
  | nil =>
      obtain ⟨fuel, rfl⟩ := Nat.exists_eq_succ_of_ne_zero (Nat.ne_of_gt enough)
      simp [readString]
  | cons char text ih =>
      obtain ⟨fuel, rfl⟩ := Nat.exists_eq_succ_of_ne_zero (Nat.ne_zero_of_lt enough)
      obtain ⟨first, more, whole, unquoted⟩ := writeChar_head char
      have head : ((char :: text).flatMap writeChar ++ QUOTE :: rest).head? ≠ some QUOTE := by
        simp [whole, unquoted]
      have read := readChar_writeChar char (text.flatMap writeChar ++ QUOTE :: rest)
      rw [readString, if_neg head, List.flatMap_cons, List.append_assoc, read]
      simp [ih (Nat.lt_of_succ_lt_succ enough)]

/-- The characters of a string take at least as much room as the string. -/
theorem length_flatMap_writeChar (text : List Char) :
    text.length ≤ (text.flatMap writeChar).length := by
  induction text with
  | nil => exact Nat.le_refl _
  | cons char text ih =>
      have one := length_writeChar char
      rw [List.flatMap_cons, List.length_append, List.length_cons]
      omega

/-- A key or a string value, quotes included. -/
theorem readString_writeString (value : String) (rest : List Char) :
    (writeString value ++ rest).head? = some QUOTE ∧
      readString (writeString value ++ rest).length (writeString value ++ rest).tail =
        some (value.toList, rest) := by
  have room := length_flatMap_writeChar value.toList
  have shape : (writeString value ++ rest).tail =
      value.toList.flatMap writeChar ++ QUOTE :: rest := by simp [writeString]
  refine ⟨rfl, ?_⟩
  rw [shape]
  refine readString_write value.toList rest ?_
  simp only [writeString, List.cons_append, List.length_cons, List.length_append]
  omega

/-! ## Numbers -/

/-- What may follow a number: nothing that could belong to it. -/
def Ends (rest : List Char) : Prop :=
  ∀ char ∈ rest.head?, char.isDigit = false ∧ char ≠ '.' ∧ char ≠ 'e' ∧ char ≠ 'E'

theorem ends_nil : Ends [] := fun _ none => by cases none

theorem ends_cons {char : Char} (rest : List Char)
    (other : char.isDigit = false ∧ char ≠ '.' ∧ char ≠ 'e' ∧ char ≠ 'E') :
    Ends (char :: rest) := by
  intro head here
  cases here
  exact other

/-- A positive number does not begin with a zero. -/
theorem toDigits_head (number : Nat) (positive : 0 < number) :
    ∃ first more, Nat.toDigits 10 number = first :: more ∧ first ≠ '0' := by
  induction number using Nat.strongRecOn with
  | ind number ih =>
      by_cases small : number < 10
      · refine ⟨_, [], Nat.toDigits_of_lt_base small, ?_⟩
        rw [ne_eq, Nat.digitChar_eq_zero]
        omega
      · obtain ⟨first, more, whole, nonzero⟩ := ih (number / 10) (by omega) (by omega)
        refine ⟨first, more ++ [(number % 10).digitChar], ?_, nonzero⟩
        rw [Nat.toDigits_of_base_le (by decide) (by omega), whole]
        rfl

theorem readWhole_toDigits (number : Nat) {rest : List Char}
    (stops : ∀ char ∈ rest.head?, char.isDigit = false) :
    readWhole (Nat.toDigits 10 number ++ rest) = some (Nat.toDigits 10 number, rest) := by
  have span := span_append (isDigit_toDigits number) stops
  rcases Nat.eq_zero_or_pos number with rfl | positive
  · rw [Nat.toDigits_zero] at span ⊢
    simp only [readWhole, span, List.nil_append]
  · obtain ⟨first, more, whole, nonzero⟩ := toDigits_head number positive
    rw [whole] at span ⊢
    simp only [readWhole, span]
    split
    · rename_i same
      cases same
    · rename_i same
      cases same
      exact absurd rfl nonzero
    · rename_i same
      cases same
      rfl

theorem readWhole_digit {first : Char} (digit : first.isDigit = true) {rest : List Char}
    (stops : ∀ char ∈ rest.head?, char.isDigit = false) :
    readWhole (first :: rest) = some ([first], rest) := by
  have all : ∀ char ∈ [first], char.isDigit = true := by simpa using digit
  have span := span_append all stops
  simp only [List.cons_append, List.nil_append] at span
  simp only [readWhole, span]
  split
  · rename_i same
    cases same
  · rename_i same
    cases same
    rfl
  · rename_i same
    cases same
    rfl

theorem readFraction_writeFraction {digits : List Char}
    (all : ∀ char ∈ digits, char.isDigit = true) {rest : List Char}
    (stops : ∀ char ∈ rest.head?, char.isDigit = false ∧ char ≠ '.') :
    readFraction (writeFraction digits ++ rest) = (digits, rest) := by
  cases digits with
  | nil =>
      cases rest with
      | nil => rfl
      | cons char rest =>
          have point := (stops char rfl).2
          simp only [writeFraction, List.nil_append]
          unfold readFraction
          split
          · rename_i same
            cases same
            exact absurd rfl point
          · rfl
  | cons first more =>
      have span := span_append all fun char here => (stops char here).1
      simp only [writeFraction, List.cons_append] at span ⊢
      simp only [readFraction, span]

theorem writeFraction_padded (places fraction : Nat) :
    writeFraction (padded places fraction) = '.' :: padded places fraction := by
  cases whole : padded places fraction with
  | nil => exact absurd whole (padded_ne_nil places fraction)
  | cons first more => rfl

theorem readExponent_writeExponent (exponent : Int) {rest : List Char}
    (stops : ∀ char ∈ rest.head?, char.isDigit = false) :
    readExponent (writeExponent exponent ++ rest) = (some exponent, rest) := by
  have span := span_append (isDigit_padded 2 exponent.natAbs) stops
  have value := ofDigitChars_padded 2 exponent.natAbs
  cases whole : padded 2 exponent.natAbs with
  | nil => exact absurd whole (padded_ne_nil 2 exponent.natAbs)
  | cons first more =>
      rw [whole] at span value
      by_cases negative : exponent < 0
      · have size : -(exponent.natAbs : Int) = exponent := by omega
        simp only [writeExponent, if_pos negative, whole, List.cons_append] at span ⊢
        simp only [readExponent, true_or, if_true, span, value, size]
      · have size : (exponent.natAbs : Int) = exponent := by omega
        simp only [writeExponent, if_neg negative, whole, List.cons_append] at span ⊢
        simp only [readExponent, true_or, if_true, span, value, Bool.false_eq_true, if_false, size]

theorem readExponent_ends {rest : List Char} (ends : Ends rest) :
    readExponent rest = (none, rest) := by
  cases rest with
  | nil => rfl
  | cons char rest =>
      obtain ⟨_, _, lower, upper⟩ := ends char rfl
      simp [readExponent, lower, upper]

theorem natAbs_sign (mantissa : Int) :
    (if decide (mantissa < 0) = true then -(mantissa.natAbs : Int) else mantissa.natAbs) =
      mantissa := by
  by_cases negative : mantissa < 0
  · simp only [negative, decide_true, if_true]
    omega
  · simp only [negative, decide_false, Bool.false_eq_true, if_false]
    omega

theorem numeral_integer (mantissa : Int) :
    numeral (decide (mantissa < 0)) (Nat.toDigits 10 mantissa.natAbs) [] none =
      .number mantissa 0 := by
  simp only [numeral, List.append_nil, Nat.ofDigitChars_ten_toDigits, and_self, if_true,
    natAbs_sign]

theorem numeral_float (mantissa : Int) {places : Nat} (positive : 0 < places) :
    numeral (decide (mantissa < 0)) (Nat.toDigits 10 (mantissa.natAbs / 10 ^ places))
        (padded places (mantissa.natAbs % 10 ^ places)) none =
      .number mantissa places := by
  have power : 0 < 10 ^ places := Nat.pow_pos (by decide)
  have length := length_padded positive (Nat.mod_lt mantissa.natAbs power)
  have solid : padded places (mantissa.natAbs % 10 ^ places) ≠ [] := by
    intro empty
    rw [empty] at length
    exact absurd length (Nat.ne_of_lt positive)
  have one : (1 : Int) ≤ places - 0 := by omega
  have value : Nat.ofDigitChars 10 (Nat.toDigits 10 (mantissa.natAbs / 10 ^ places) ++
      padded places (mantissa.natAbs % 10 ^ places)) 0 = mantissa.natAbs := by
    rw [Nat.ofDigitChars_append, Nat.ofDigitChars_ten_toDigits,
      Nat.ofDigitChars_eq_ofDigitChars_zero, ofDigitChars_padded, length]
    exact Nat.div_add_mod _ _
  simp only [numeral, solid, false_and, if_false, value, natAbs_sign, length, Option.getD_none,
    if_pos one]
  simp

/-- What the significant digits leave out is a row of zeros, and only of a whole number. -/
theorem toDigits_significantDigits (places : Nat) {magnitude : Nat} (positive : 0 < magnitude) :
    ∃ first more zeros, significantDigits magnitude places = first :: more ∧
      Nat.toDigits 10 magnitude = first :: more ++ List.replicate zeros '0' ∧
      (zeros = 0 ∨ places = 1) := by
  obtain ⟨first, more, whole, nonzero⟩ := toDigits_head magnitude positive
  by_cases one : places = 1
  · have join : (Nat.toDigits 10 magnitude).rdropWhile (· == '0') ++
        (Nat.toDigits 10 magnitude).rtakeWhile (· == '0') = Nat.toDigits 10 magnitude :=
      List.rdropWhile_append_rtakeWhile
    have zeros : ∀ char ∈ (Nat.toDigits 10 magnitude).rtakeWhile (· == '0'), char = '0' := by
      intro char member
      simpa using List.mem_rtakeWhile_imp member
    have solid : (Nat.toDigits 10 magnitude).rdropWhile (· == '0') ≠ [] := by
      intro empty
      have all := List.rdropWhile_eq_nil_iff.mp empty first (by simp [whole])
      exact nonzero (by simpa using all)
    obtain ⟨head, tail, split⟩ := List.exists_cons_of_ne_nil solid
    have row := List.eq_replicate_of_mem zeros
    refine ⟨head, tail, ((Nat.toDigits 10 magnitude).rtakeWhile (· == '0')).length, ?_, ?_,
      Or.inr one⟩
    · rw [significantDigits, if_pos one, split]
    · rw [← row, ← split, join]
  · refine ⟨first, more, 0, ?_, ?_, Or.inl rfl⟩
    · rw [significantDigits, if_neg one, whole]
    · rw [List.replicate_zero, List.append_nil, whole]

/-- The exponent gives back the zeros that the digits leave out. -/
theorem numeral_scientific (mantissa : Int) {places zeros : Nat} {first : Char} {more : List Char}
    (positive : 0 < places)
    (whole : Nat.toDigits 10 mantissa.natAbs = first :: more ++ List.replicate zeros '0')
    (left : zeros = 0 ∨ places = 1) :
    numeral (decide (mantissa < 0)) [first] more
        (some ((Nat.toDigits 10 mantissa.natAbs).length - 1 - places)) =
      .number mantissa places := by
  have value : Nat.ofDigitChars 10 ([first] ++ more) 0 * 10 ^ zeros = mantissa.natAbs := by
    have all := Nat.ofDigitChars_ten_toDigits (n := mantissa.natAbs)
    rw [whole, Nat.ofDigitChars_append, Nat.ofDigitChars_replicate_zero, Nat.mul_comm] at all
    exact all
  have length : (Nat.toDigits 10 mantissa.natAbs).length = more.length + 1 + zeros := by
    rw [whole, List.length_append, List.length_cons, List.length_replicate]
  have shift : (more.length : Int) - (((more.length + 1 + zeros : Nat) : Int) - 1 - places) =
      places - zeros := by omega
  simp only [numeral, reduceCtorEq, and_false, if_false, Option.getD_some, length, shift]
  rcases Nat.eq_zero_or_pos zeros with rfl | some
  · have one : (1 : Int) ≤ places - (0 : Nat) := by omega
    rw [Nat.pow_zero, Nat.mul_one] at value
    rw [if_pos one, value, natAbs_sign]
    simp
  · obtain rfl : places = 1 := left.resolve_left (Nat.ne_of_gt some)
    have low : ¬ (1 : Int) ≤ (1 : Nat) - zeros := by omega
    have power : ((1 : Int) - ((1 : Nat) - zeros)).toNat = zeros := by omega
    have scaled : ((Nat.ofDigitChars 10 ([first] ++ more) 0 : Nat) : Int) * 10 ^ zeros =
        mantissa.natAbs := by
      rw [← value]
      push_cast
      rfl
    rw [if_neg low, power, ite_mul, Int.neg_mul, scaled, natAbs_sign]

theorem writeScientific_head {magnitude : Nat} (positive : 0 < magnitude) (places : Nat) :
    ∃ first more, writeScientific magnitude places = first :: more ∧ first.isDigit = true := by
  obtain ⟨first, more, zeros, digits, whole, _⟩ := toDigits_significantDigits places positive
  refine ⟨first, _, by rw [writeScientific, digits]; rfl, ?_⟩
  exact isDigit_toDigits magnitude first (by simp [whole])

theorem pos_of_takesExponent {magnitude places : Nat}
    (scientific : takesExponent magnitude places = true) : 0 < magnitude := by
  simp only [takesExponent, decide_eq_true_eq] at scientific
  exact scientific.1

theorem writeMagnitude_head (magnitude places : Nat) :
    ∃ first more, writeMagnitude magnitude places = first :: more ∧ first.isDigit = true := by
  have digits : ∀ number : Nat, ∃ first more,
      Nat.toDigits 10 number = first :: more ∧ first.isDigit = true := by
    intro number
    cases whole : Nat.toDigits 10 number with
    | nil => exact absurd whole Nat.toDigits_ne_nil
    | cons first more =>
        exact ⟨first, more, rfl, isDigit_toDigits number first (by rw [whole]; exact List.mem_cons_self)⟩
  unfold writeMagnitude
  split
  · exact digits magnitude
  · split
    · rename_i scientific
      exact writeScientific_head (pos_of_takesExponent scientific) places
    · obtain ⟨first, more, whole, digit⟩ := digits (magnitude / 10 ^ places)
      exact ⟨first, more ++ '.' :: padded places (magnitude % 10 ^ places), by rw [whole]; rfl,
        digit⟩

/-- The pieces of a number, after its sign, are read from the text. -/
def ReadsBack (mantissa : Int) (places : Nat) (text rest : List Char) : Prop :=
  ∃ whole tail fraction after exponent,
    readWhole (text ++ rest) = some (whole, tail) ∧
    readFraction tail = (fraction, after) ∧
    readExponent after = (exponent, rest) ∧
    numeral (decide (mantissa < 0)) whole fraction exponent = .number mantissa places

theorem readsBack_writeScientific {mantissa : Int} {places : Nat} (positive : 0 < places)
    (nonzero : 0 < mantissa.natAbs) {rest : List Char} (ends : Ends rest) :
    ReadsBack mantissa places (writeScientific mantissa.natAbs places) rest := by
  obtain ⟨first, more, zeros, digits, whole, left⟩ := toDigits_significantDigits places nonzero
  have all : ∀ char ∈ first :: more, char.isDigit = true := fun char member =>
    isDigit_toDigits mantissa.natAbs char (by rw [whole]; exact List.mem_append_left _ member)
  let exponent : Int := (Nat.toDigits 10 mantissa.natAbs).length - 1 - places
  have letter : ∀ char ∈ (writeExponent exponent ++ rest).head?,
      char.isDigit = false ∧ char ≠ '.' := by
    intro char here
    cases here
    decide
  have fraction : readFraction (writeFraction more ++ (writeExponent exponent ++ rest)) =
      (more, writeExponent exponent ++ rest) :=
    readFraction_writeFraction (fun char member => all char (List.mem_cons_of_mem _ member)) letter
  refine ⟨[first], _, more, _, _, ?_, fraction,
    readExponent_writeExponent exponent fun char here => (ends char here).1,
    numeral_scientific mantissa positive whole left⟩
  rw [writeScientific, digits]
  simp only [List.take_succ_cons, List.take_zero, List.tail_cons, List.cons_append,
    List.nil_append, List.append_assoc]
  refine readWhole_digit (all first List.mem_cons_self) fun char here => ?_
  cases more with
  | nil => exact (letter char here).1
  | cons second more =>
      cases here
      rfl

theorem readsBack_writeMagnitude (mantissa : Int) (places : Nat) {rest : List Char}
    (ends : Ends rest) :
    ReadsBack mantissa places (writeMagnitude mantissa.natAbs places) rest := by
  have stops : ∀ char ∈ rest.head?, char.isDigit = false ∧ char ≠ '.' :=
    fun char here => ⟨(ends char here).1, (ends char here).2.1⟩
  have unread := readExponent_ends ends
  rcases Nat.eq_zero_or_pos places with rfl | positive
  · have none : readFraction rest = ([], rest) :=
      readFraction_writeFraction (fun _ member => absurd member List.not_mem_nil) stops
    refine ⟨_, rest, [], rest, _, ?_, none, unread, numeral_integer mantissa⟩
    rw [writeMagnitude, if_pos rfl]
    exact readWhole_toDigits _ fun char here => (ends char here).1
  · by_cases scientific : takesExponent mantissa.natAbs places = true
    · rw [writeMagnitude, if_neg (Nat.ne_of_gt positive), if_pos scientific]
      exact readsBack_writeScientific positive (pos_of_takesExponent scientific) ends
    · have fraction := readFraction_writeFraction
        (isDigit_padded places (mantissa.natAbs % 10 ^ places)) stops
      rw [writeFraction_padded] at fraction
      refine ⟨_, _, _, rest, _, ?_, fraction, unread, numeral_float mantissa positive⟩
      rw [writeMagnitude, if_neg (Nat.ne_of_gt positive), if_neg scientific, List.append_assoc]
      refine readWhole_toDigits _ fun char here => ?_
      cases here
      rfl

theorem readSign_of_ne {char : Char} (unsigned : char ≠ '-') (rest : List Char) :
    readSign (char :: rest) = (false, char :: rest) := by
  unfold readSign
  split
  · rename_i same
    cases same
    exact absurd rfl unsigned
  · rfl

theorem readNumber_writeNumber (mantissa : Int) (places : Nat) {rest : List Char}
    (ends : Ends rest) :
    readNumber (writeNumber mantissa places ++ rest) = some (.number mantissa places, rest) := by
  obtain ⟨whole, tail, fraction, after, exponent, readsWhole, readsFraction, readsExponent, value⟩ :=
    readsBack_writeMagnitude mantissa places ends
  by_cases negative : mantissa < 0
  · simp only [decide_eq_true negative] at value
    simp only [readNumber, writeNumber, if_pos negative, List.cons_append, readSign, readsWhole,
      readsFraction, readsExponent, value]
  · simp only [decide_eq_false negative] at value
    obtain ⟨first, more, shape, digit⟩ := writeMagnitude_head mantissa.natAbs places
    have unsigned : first ≠ '-' := by
      rintro rfl
      cases digit
    have start : readSign (writeMagnitude mantissa.natAbs places ++ rest) =
        (false, writeMagnitude mantissa.natAbs places ++ rest) := by
      rw [shape, List.cons_append]
      exact readSign_of_ne unsigned _
    simp only [readNumber, writeNumber, if_neg negative, start, readsWhole, readsFraction,
      readsExponent, value]

/-! ## Values -/

/-- What a value begins with. -/
structure Opens (char : Char) : Prop where
  solid : isBlank char = false
  bracket : char ≠ ']'
  brace : char ≠ '}'

theorem opens_of_isDigit {char : Char} (digit : char.isDigit = true) : Opens char := by
  refine ⟨?_, ?_, ?_⟩
  · cases blank : isBlank char with
    | false => rfl
    | true =>
        simp only [isBlank, Bool.or_eq_true, beq_iff_eq] at blank
        rcases blank with ((rfl | rfl) | rfl) | rfl <;> cases digit
  · rintro rfl
    cases digit
  · rintro rfl
    cases digit

theorem write_head (layout : Layout) (value : Json) :
    ∃ first more, write layout value = first :: more ∧ Opens first := by
  cases value with
  | null => exact ⟨'n', _, rfl, by decide, by decide, by decide⟩
  | bool value =>
      cases value with
      | true => exact ⟨'t', _, rfl, by decide, by decide, by decide⟩
      | false => exact ⟨'f', _, rfl, by decide, by decide, by decide⟩
  | number mantissa places =>
      obtain ⟨first, more, shape, digit⟩ := writeMagnitude_head mantissa.natAbs places
      simp only [write, writeNumber]
      split
      · exact ⟨'-', _, rfl, by decide, by decide, by decide⟩
      · exact ⟨first, more, shape, opens_of_isDigit digit⟩
  | string value => exact ⟨QUOTE, _, rfl, by decide, by decide, by decide⟩
  | array items => exact ⟨'[', _, rfl, by decide, by decide, by decide⟩
  | object members => exact ⟨'{', _, rfl, by decide, by decide, by decide⟩

theorem writeNumber_head (mantissa : Int) (places : Nat) :
    ∃ first more, writeNumber mantissa places = first :: more ∧
      (first = '-' ∨ first.isDigit = true) := by
  obtain ⟨first, more, shape, digit⟩ := writeMagnitude_head mantissa.natAbs places
  unfold writeNumber
  split
  · exact ⟨'-', _, rfl, Or.inl rfl⟩
  · exact ⟨first, more, shape, Or.inr digit⟩

theorem readScalar_writeNumber (mantissa : Int) (places : Nat) {rest : List Char}
    (ends : Ends rest) :
    readScalar (writeNumber mantissa places ++ rest) = some (.number mantissa places, rest) := by
  obtain ⟨first, more, shape, start⟩ := writeNumber_head mantissa places
  have noWord : (words.find? fun word => word.1.isPrefixOf (writeNumber mantissa places ++ rest)) =
      none := by
    have other : first ≠ 'n' ∧ first ≠ 't' ∧ first ≠ 'f' := by
      refine ⟨?_, ?_, ?_⟩ <;> rintro rfl <;> rcases start with same | digit
      all_goals first | cases same | cases digit
    simp [words, shape, List.isPrefixOf, other.1.symm, other.2.1.symm, other.2.2.symm]
  rw [readScalar, noWord]
  exact readNumber_writeNumber mantissa places ends

/-- Scalars are read by their own readers. -/
theorem readValue_scalar {text : List Char} {fuel : Nat} {first : Char} {more : List Char}
    (shape : text = first :: more) (bracket : first ≠ '[') (brace : first ≠ '{') :
    readValue (fuel + 1) text =
      if text.head? = some QUOTE then
        (readString text.length text.tail).map fun read => (.string (String.ofList read.1), read.2)
      else readScalar text := by
  subst shape
  rw [readValue]
  · intro rest same
    cases same
    exact bracket rfl
  · intro rest same
    cases same
    exact brace rfl

theorem readScalar_word {word : List Char} {value : Json} (listed : (word, value) ∈ words)
    (rest : List Char) : readScalar (word ++ rest) = some (value, rest) := by
  simp only [words, List.mem_cons, Prod.mk.injEq, List.not_mem_nil, or_false] at listed
  rcases listed with ⟨rfl, rfl⟩ | ⟨rfl, rfl⟩ | ⟨rfl, rfl⟩ <;>
    simp [readScalar, words, List.isPrefixOf]

theorem readValue_word {word : List Char} {value : Json} (listed : (word, value) ∈ words)
    (fuel : Nat) (rest : List Char) :
    readValue (fuel + 1) (word ++ rest) = some (value, rest) := by
  have read := readScalar_word listed rest
  simp only [words, List.mem_cons, Prod.mk.injEq, List.not_mem_nil, or_false] at listed
  rcases listed with ⟨rfl, rfl⟩ | ⟨rfl, rfl⟩ | ⟨rfl, rfl⟩
  all_goals exact (readValue_scalar rfl (by decide) (by decide)).trans read

theorem readValue_writeString (value : String) (fuel : Nat) (rest : List Char) :
    readValue (fuel + 1) (writeString value ++ rest) = some (.string value, rest) := by
  obtain ⟨quoted, read⟩ := readString_writeString value rest
  have shape : writeString value ++ rest =
      QUOTE :: (value.toList.flatMap writeChar ++ [QUOTE] ++ rest) := rfl
  refine (readValue_scalar shape (by decide) (by decide)).trans ?_
  rw [if_pos quoted, read]
  simp

theorem length_pos_write (layout : Layout) (value : Json) : 1 ≤ (write layout value).length := by
  obtain ⟨first, more, shape, _⟩ := write_head layout value
  simp [shape]

theorem skipBlanks_write (layout : Layout) (value : Json) (rest : List Char) :
    skipBlanks (write layout value ++ rest) = write layout value ++ rest := by
  obtain ⟨first, more, shape, opens⟩ := write_head layout value
  rw [shape]
  exact skipBlanks_cons opens.solid _

theorem noBlanks : ∀ char ∈ ([] : List Char), isBlank char = true :=
  fun _ member => absurd member List.not_mem_nil

/-- A gap before a value is skipped. -/
theorem skipBlanks_gap {gap : List Char} (blank : ∀ char ∈ gap, isBlank char = true)
    (layout : Layout) (value : Json) (rest : List Char) :
    skipBlanks (gap ++ (write layout value ++ rest)) = write layout value ++ rest := by
  obtain ⟨first, more, shape, opens⟩ := write_head layout value
  rw [shape]
  exact skipBlanks_append blank opens.solid _

theorem writeMembers_head (layout : Layout) (member : String × Json)
    (rest : List (String × Json)) :
    ∃ more, writeMembers layout (member :: rest) = QUOTE :: more := by
  cases rest <;> exact ⟨_, rfl⟩

theorem skipBlanks_members {gap : List Char} (blank : ∀ char ∈ gap, isBlank char = true)
    (layout : Layout) (member : String × Json) (members : List (String × Json))
    (rest : List Char) :
    skipBlanks (gap ++ (writeMembers layout (member :: members) ++ rest)) =
      writeMembers layout (member :: members) ++ rest := by
  obtain ⟨more, shape⟩ := writeMembers_head layout member members
  rw [shape]
  exact skipBlanks_append blank (by decide) _

theorem writeItems_head (layout : Layout) (item : Json) (rest : List Json) :
    ∃ first more, writeItems layout (item :: rest) = first :: more ∧ Opens first := by
  obtain ⟨first, more, shape, opens⟩ := write_head layout item
  cases rest with
  | nil => exact ⟨first, more, shape, opens⟩
  | cons next rest => exact ⟨first, _, by rw [writeItems, shape, List.cons_append], opens⟩

theorem skipBlanks_items {gap : List Char} (blank : ∀ char ∈ gap, isBlank char = true)
    (layout : Layout) (item : Json) (items : List Json) (rest : List Char) :
    skipBlanks (gap ++ (writeItems layout (item :: items) ++ rest)) =
      writeItems layout (item :: items) ++ rest := by
  obtain ⟨first, more, shape, opens⟩ := writeItems_head layout item items
  rw [shape]
  exact skipBlanks_append blank opens.solid _

/-! Every reader meets its writer; the fuel that is left covers the text that is left. -/

mutual

theorem readValue_write (layout : Layout) (value : Json) {fuel : Nat} {rest : List Char}
    (wellFormed : WellFormed value) (ends : Ends rest)
    (enough : (write layout value).length ≤ fuel) :
    readValue fuel (write layout value ++ rest) = some (value, rest) := by
  obtain ⟨fuel, rfl⟩ := Nat.exists_eq_succ_of_ne_zero
    (Nat.ne_of_gt (Nat.lt_of_lt_of_le (length_pos_write layout value) enough))
  cases value with
  | null => exact readValue_word (by simp [words, write]) fuel rest
  | bool value =>
      cases value with
      | true => exact readValue_word (by simp [words, write]) fuel rest
      | false => exact readValue_word (by simp [words, write]) fuel rest
  | number mantissa places =>
      obtain ⟨first, more, shape, start⟩ := writeNumber_head mantissa places
      have other : first ≠ '[' ∧ first ≠ '{' ∧ first ≠ QUOTE := by
        refine ⟨?_, ?_, ?_⟩ <;> rintro rfl <;> rcases start with same | digit
        all_goals first | cases same | cases digit
      have whole : writeNumber mantissa places ++ rest = first :: (more ++ rest) := by rw [shape]; rfl
      rw [write, readValue_scalar whole other.1 other.2.1, if_neg (by simp [shape, other.2.2])]
      exact readScalar_writeNumber mantissa places ends
  | string value => exact readValue_writeString value fuel rest
  | array items =>
      cases items with
      | nil => simp [write, writeItems, readValue, skipBlanks_cons (by decide : isBlank ']' = false)]
      | cons item items =>
          have room : (writeItems layout (item :: items)).length + 1 ≤ fuel := by
            simp only [write, List.length_cons, List.length_append, List.length_nil] at enough
            omega
          obtain ⟨first, more, shape, opens⟩ := writeItems_head layout item items
          have text : skipBlanks (writeItems layout (item :: items) ++ ']' :: rest) =
              writeItems layout (item :: items) ++ ']' :: rest :=
            skipBlanks_items noBlanks layout item items _
          have full : (writeItems layout (item :: items) ++ ']' :: rest).head? ≠ some ']' := by
            simp [shape, opens.bracket]
          simp only [write, List.cons_append, List.append_assoc, List.nil_append, readValue, text,
            if_neg full, readItems_write layout item items wellFormed room, Option.map_some]
  | object members =>
      cases members with
      | nil =>
          simp [write, writeMembers, readValue, skipBlanks_cons (by decide : isBlank '}' = false)]
      | cons member members =>
          obtain ⟨distinct, values⟩ := wellFormed
          have room : (writeMembers layout (member :: members)).length + 1 ≤ fuel := by
            simp only [write, List.length_cons, List.length_append, List.length_nil] at enough
            omega
          obtain ⟨more, shape⟩ := writeMembers_head layout member members
          have text : skipBlanks (writeMembers layout (member :: members) ++ '}' :: rest) =
              writeMembers layout (member :: members) ++ '}' :: rest :=
            skipBlanks_members noBlanks layout member members _
          have full : (writeMembers layout (member :: members) ++ '}' :: rest).head? ≠
              some '}' := by
            simp [shape, QUOTE]
          simp only [write, List.cons_append, List.append_assoc, List.nil_append, readValue, text,
            if_neg full, readMembers_write layout member members values room, Option.map_some,
            dict_of_nodup distinct]

theorem readItems_write (layout : Layout) (item : Json) (items : List Json) {fuel : Nat}
    {rest : List Char} (wellFormed : WellFormedItems (item :: items))
    (enough : (writeItems layout (item :: items)).length + 1 ≤ fuel) :
    readItems fuel (writeItems layout (item :: items) ++ ']' :: rest) =
      some (item :: items, rest) := by
  obtain ⟨fuel, rfl⟩ := Nat.exists_eq_succ_of_ne_zero (Nat.ne_zero_of_lt enough)
  obtain ⟨here, later⟩ := wellFormed
  cases items with
  | nil =>
      have room : (write layout item).length ≤ fuel := by
        simp only [writeItems] at enough
        omega
      have read : readValue fuel (write layout item ++ ']' :: rest) = some (item, ']' :: rest) :=
        readValue_write layout item here (ends_cons rest (by decide)) room
      simp only [writeItems, readItems, read, skipBlanks_cons (by decide : isBlank ']' = false)]
  | cons next items =>
      have room : (write layout item).length ≤ fuel ∧
          (writeItems layout (next :: items)).length + 1 ≤ fuel := by
        simp only [writeItems, List.length_cons, List.length_append] at enough
        omega
      have ends := ends_cons (layout.afterComma ++ (writeItems layout (next :: items) ++ ']' :: rest))
        (by decide : ','.isDigit = false ∧ ',' ≠ '.' ∧ ',' ≠ 'e' ∧ ',' ≠ 'E')
      have read := readValue_write layout item here ends room.1
      simp only [writeItems, List.append_assoc, List.cons_append, readItems, read,
        skipBlanks_cons (by decide : isBlank ',' = false),
        skipBlanks_items layout.blankComma, readItems_write layout next items later room.2,
        Option.map_some]

theorem readMembers_write (layout : Layout) (member : String × Json)
    (members : List (String × Json)) {fuel : Nat} {rest : List Char}
    (wellFormed : WellFormedMembers (member :: members))
    (enough : (writeMembers layout (member :: members)).length + 1 ≤ fuel) :
    readMembers fuel (writeMembers layout (member :: members) ++ '}' :: rest) =
      some (member :: members, rest) := by
  obtain ⟨fuel, rfl⟩ := Nat.exists_eq_succ_of_ne_zero (Nat.ne_zero_of_lt enough)
  obtain ⟨key, value⟩ := member
  obtain ⟨here, later⟩ := wellFormed
  cases members with
  | nil =>
      have room : (write layout value).length ≤ fuel := by
        simp only [writeMembers, List.length_cons, List.length_append] at enough
        omega
      have read : readValue fuel (write layout value ++ '}' :: rest) = some (value, '}' :: rest) :=
        readValue_write layout value here (ends_cons rest (by decide)) room
      obtain ⟨quoted, key'⟩ := readString_writeString key
        (':' :: (layout.afterColon ++ (write layout value ++ '}' :: rest)))
      simp only [writeMembers, List.append_assoc, List.cons_append, readMembers, quoted, if_true,
        key', skipBlanks_cons (by decide : isBlank ':' = false),
        skipBlanks_gap layout.blankColon, read, skipBlanks_cons (by decide : isBlank '}' = false),
        String.ofList_toList]
  | cons next members =>
      have room : (write layout value).length ≤ fuel ∧
          (writeMembers layout (next :: members)).length + 1 ≤ fuel := by
        simp only [writeMembers, List.length_cons, List.length_append] at enough
        omega
      have ends := ends_cons (layout.afterComma ++ (writeMembers layout (next :: members) ++ '}' :: rest))
        (by decide : ','.isDigit = false ∧ ',' ≠ '.' ∧ ',' ≠ 'e' ∧ ',' ≠ 'E')
      have read := readValue_write layout value here ends room.1
      obtain ⟨quoted, key'⟩ := readString_writeString key
        (':' :: (layout.afterColon ++ (write layout value ++ ',' :: (layout.afterComma ++
          (writeMembers layout (next :: members) ++ '}' :: rest)))))
      simp only [writeMembers, List.append_assoc, List.cons_append, readMembers, quoted, if_true,
        key', skipBlanks_cons (by decide : isBlank ':' = false),
        skipBlanks_gap layout.blankColon, read, skipBlanks_cons (by decide : isBlank ',' = false),
        skipBlanks_members layout.blankComma, readMembers_write layout next members later room.2,
        Option.map_some, String.ofList_toList]

end

/-- A `dict` comes back from its text. -/
theorem loads_dumps (layout : Layout) {value : Json} (wellFormed : WellFormed value) :
    loads (dumps layout value) = some value := by
  have text : skipBlanks (write layout value) = write layout value := by
    simpa using skipBlanks_write layout value []
  have read := readValue_write layout value wellFormed ends_nil
    (Nat.le_refl (write layout value).length)
  rw [List.append_nil] at read
  simp only [loads, dumps, String.toList_ofList, text, read]
  exact if_pos rfl

/-- Different values have different texts. -/
theorem dumps_injective (layout : Layout) {left right : Json} (wellFormed : WellFormed left)
    (wellFormed' : WellFormed right) (same : dumps layout left = dumps layout right) :
    left = right := by
  have read := loads_dumps layout wellFormed
  rw [same, loads_dumps layout wellFormed'] at read
  exact (Option.some.inj read).symm

end LiveChat.Foundation.JsonText
