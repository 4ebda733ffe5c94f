import Mathlib.Algebra.Ring.Int.Defs
import Mathlib.Data.List.DropRight
import LiveChat.Foundation.Json
import LiveChat.Foundation.Text

/-!
# JSON texts

`json.dumps` with `ensure_ascii`, and `json.loads`.  A float is written with the digits that
its value carries, and with an exponent where `repr` writes one.  The reader is given as much fuel as the text is long, which is always
enough; it takes no `NaN`, no infinity and no lone surrogate, which no value here can hold.
-/

set_option autoImplicit false

namespace LiveChat.Foundation.JsonText

open Text

def QUOTE : Char := Char.ofNat 0x22

def BACKSLASH : Char := Char.ofNat 0x5c

/-- The whitespace of JSON. -/
def isBlank (char : Char) : Bool :=
  char == ' ' || char == '\t' || char == '\n' || char == '\r'

def skipBlanks (text : List Char) : List Char := text.dropWhile isBlank

/-- What a writer puts after a comma and after a colon. -/
structure Layout where
  afterComma : List Char := []
  afterColon : List Char := []
  blankComma : ∀ char ∈ afterComma, isBlank char = true := by simp [isBlank]
  blankColon : ∀ char ∈ afterColon, isBlank char = true := by simp [isBlank]

/-- `separators=(",", ":")`. -/
def compact : Layout := {}

/-- The separators of `json.dumps` when none are given. -/
def spaced : Layout := { afterComma := [' '], afterColon := [' '] }

/-! ## Writing -/

/-- `\uXXXX`. -/
def writeUnit (unit : Nat) : List Char :=
  [BACKSLASH, 'u', Nat.digitChar (unit / 4096), Nat.digitChar (unit / 256 % 16),
    Nat.digitChar (unit / 16 % 16), Nat.digitChar (unit % 16)]

/-- The escapes with a letter of their own. -/
def shortEscapes : List (Char × Char) :=
  [(QUOTE, QUOTE), (BACKSLASH, BACKSLASH), ('\n', 'n'), ('\r', 'r'), ('\t', 't'),
    (Char.ofNat 0x08, 'b'), (Char.ofNat 0x0c, 'f')]

/-- A character beyond the first plane is written as a surrogate pair. -/
def writeChar (char : Char) : List Char :=
  match shortEscapes.lookup char with
  | some letter => [BACKSLASH, letter]
  | none =>
      let code := char.toNat
      if 0x20 ≤ code ∧ code ≤ 0x7e then [char]
      else if code < 0x10000 then writeUnit code
      else writeUnit (0xd800 + (code - 0x10000) / 1024) ++
        writeUnit (0xdc00 + (code - 0x10000) % 1024)

def writeString (text : String) : List Char :=
  QUOTE :: (text.toList.flatMap writeChar ++ [QUOTE])

/-- `repr` takes an exponent below `1e-04` and from `1e+16` on. -/
def takesExponent (magnitude places : Nat) : Bool :=
  let length := (Nat.toDigits 10 magnitude).length
  decide (0 < magnitude ∧ (length + 4 ≤ places ∨ places + 16 < length))

/-- The digits in front of an exponent; a whole number leaves its zeros to it. -/
def significantDigits (magnitude places : Nat) : List Char :=
  let digits := Nat.toDigits 10 magnitude
  if places = 1 then digits.rdropWhile (· == '0') else digits

def writeFraction : List Char → List Char
  | [] => []
  | digits => '.' :: digits

/-- At least two digits after the sign. -/
def writeExponent (exponent : Int) : List Char :=
  'e' :: (if exponent < 0 then '-' else '+') :: padded 2 exponent.natAbs

def writeScientific (magnitude places : Nat) : List Char :=
  let digits := significantDigits magnitude places
  let exponent : Int := (Nat.toDigits 10 magnitude).length - 1 - places
  digits.take 1 ++ (writeFraction digits.tail ++ writeExponent exponent)

def writeMagnitude (magnitude places : Nat) : List Char :=
  if places = 0 then Nat.toDigits 10 magnitude
  else if takesExponent magnitude places then writeScientific magnitude places
  else Nat.toDigits 10 (magnitude / 10 ^ places) ++
    '.' :: padded places (magnitude % 10 ^ places)

def writeNumber (mantissa : Int) (places : Nat) : List Char :=
  if mantissa < 0 then '-' :: writeMagnitude mantissa.natAbs places
  else writeMagnitude mantissa.natAbs places

/-- `repr` of a number: the zeros that end a fraction are not shown. -/
def reprNumber (mantissa : Int) : (places : Nat) → List Char
  | places + 2 =>
      if mantissa % 10 = 0 then reprNumber (mantissa / 10) (places + 1)
      else writeNumber mantissa (places + 2)
  | places => writeNumber mantissa places

mutual

def write (layout : Layout) : Json → List Char
  | .null => ['n', 'u', 'l', 'l']
  | .bool true => ['t', 'r', 'u', 'e']
  | .bool false => ['f', 'a', 'l', 's', 'e']
  | .number mantissa places => writeNumber mantissa places
  | .string value => writeString value
  | .array items => '[' :: (writeItems layout items ++ [']'])
  | .object members => '{' :: (writeMembers layout members ++ ['}'])

def writeItems (layout : Layout) : List Json → List Char
  | [] => []
  | [item] => write layout item
  | item :: next :: rest =>
      write layout item ++ ',' :: (layout.afterComma ++ writeItems layout (next :: rest))

def writeMembers (layout : Layout) : List (String × Json) → List Char
  | [] => []
  | [(key, value)] => writeString key ++ ':' :: (layout.afterColon ++ write layout value)
  | (key, value) :: next :: rest =>
      writeString key ++ ':' :: (layout.afterColon ++ write layout value) ++
        ',' :: (layout.afterComma ++ writeMembers layout (next :: rest))

end

def dumps (layout : Layout) (value : Json) : String := String.ofList (write layout value)

/-! ## Reading -/

def hexValue (char : Char) : Option Nat :=
  if '0' ≤ char ∧ char ≤ '9' then some (char.toNat - 48)
  else if 'a' ≤ char ∧ char ≤ 'f' then some (char.toNat - 87)
  else if 'A' ≤ char ∧ char ≤ 'F' then some (char.toNat - 55)
  else none

/-- The four digits after `\u`. -/
def readUnit : List Char → Option (Nat × List Char)
  | a :: b :: c :: d :: rest =>
      match hexValue a, hexValue b, hexValue c, hexValue d with
      | some a, some b, some c, some d => some (((a * 16 + b) * 16 + c) * 16 + d, rest)
      | _, _, _, _ => none
  | _ => none

/-- The second half of a surrogate pair. -/
def readLowSurrogate : List Char → Option (Nat × List Char)
  | slash :: 'u' :: rest =>
      if slash = BACKSLASH then
        match readUnit rest with
        | some (unit, rest) =>
            if 0xdc00 ≤ unit ∧ unit < 0xe000 then some (unit - 0xdc00, rest) else none
        | none => none
      else none
  | _ => none

def readUnicode (text : List Char) : Option (Char × List Char) :=
  match readUnit text with
  | none => none
  | some (unit, rest) =>
      if 0xd800 ≤ unit ∧ unit < 0xdc00 then
        match readLowSurrogate rest with
        | some (low, rest) => some (Char.ofNat (0x10000 + (unit - 0xd800) * 1024 + low), rest)
        | none => none
      else if 0xdc00 ≤ unit ∧ unit < 0xe000 then none
      else some (Char.ofNat unit, rest)

def letterEscapes : List (Char × Char) :=
  ('/', '/') :: shortEscapes.map Prod.swap

/-- What follows a backslash. -/
def readEscape : List Char → Option (Char × List Char)
  | [] => none
  | letter :: rest =>
      if letter = 'u' then readUnicode rest
      else (letterEscapes.lookup letter).map fun char => (char, rest)

/-- One character of a string. -/
def readChar : List Char → Option (Char × List Char)
  | [] => none
  | char :: rest =>
      if char = BACKSLASH then readEscape rest
      else if char.toNat < 0x20 then none
      else some (char, rest)

/-- A string after its opening quote, and what follows its closing one. -/
def readString : (fuel : Nat) → List Char → Option (List Char × List Char)
  | 0, _ => none
  | fuel + 1, text =>
      if text.head? = some QUOTE then some ([], text.tail)
      else
        match readChar text with
        | none => none
        | some (char, rest) => (readString fuel rest).map fun read => (char :: read.1, read.2)

/-- The integer part; a leading zero stands alone. -/
def readWhole (text : List Char) : Option (List Char × List Char) :=
  match text.span Char.isDigit with
  | ([], _) => none
  | ('0' :: digits, rest) => some (['0'], digits ++ rest)
  | (digits, rest) => some (digits, rest)

/-- The digits after a point, if there are any. -/
def readFraction : List Char → List Char × List Char
  | '.' :: rest =>
      match rest.span Char.isDigit with
      | ([], _) => ([], '.' :: rest)
      | (digits, rest) => (digits, rest)
  | text => ([], text)

/-- The exponent of ten, if there is one. -/
def readExponent (text : List Char) : Option Int × List Char :=
  match text with
  | [] => (none, [])
  | letter :: rest =>
      if letter = 'e' ∨ letter = 'E' then
        let (negative, digits) := match rest with
          | '-' :: rest => (true, rest)
          | '+' :: rest => (false, rest)
          | rest => (false, rest)
        match digits.span Char.isDigit with
        | ([], _) => (none, text)
        | (digits, rest) =>
            let magnitude : Int := Nat.ofDigitChars 10 digits 0
            (some (if negative then -magnitude else magnitude), rest)
      else (none, text)

/-- An integer, or a float when there is a fraction or an exponent. -/
def numeral (negative : Bool) (whole fraction : List Char) (exponent : Option Int) : Json :=
  let magnitude : Int := Nat.ofDigitChars 10 (whole ++ fraction) 0
  let mantissa := if negative then -magnitude else magnitude
  if fraction = [] ∧ exponent = none then .number mantissa 0
  else
    let places : Int := fraction.length - exponent.getD 0
    if 1 ≤ places then .number mantissa places.toNat
    else .number (mantissa * 10 ^ (1 - places).toNat) 1

def readSign : List Char → Bool × List Char
  | '-' :: rest => (true, rest)
  | text => (false, text)

def readNumber (text : List Char) : Option (Json × List Char) :=
  let (negative, text) := readSign text
  match readWhole text with
  | none => none
  | some (whole, rest) =>
      let (fraction, rest) := readFraction rest
      let (exponent, rest) := readExponent rest
      some (numeral negative whole fraction exponent, rest)

/-- A later value replaces an earlier one of its key, in the earlier one's place. -/
def insertMember (members : Json.Object) (key : String) (value : Json) : Json.Object :=
  if key ∈ members.map Prod.fst then
    members.map fun member => if member.1 = key then (key, value) else member
  else members ++ [(key, value)]

/-- `dict(pairs)`. -/
def dict (pairs : Json.Object) : Json.Object :=
  pairs.foldl (fun members pair => insertMember members pair.1 pair.2) []

def words : List (List Char × Json) :=
  [(['n', 'u', 'l', 'l'], .null), (['t', 'r', 'u', 'e'], .bool true),
    (['f', 'a', 'l', 's', 'e'], .bool false)]

/-- A constant, or a number. -/
def readScalar (text : List Char) : Option (Json × List Char) :=
  match words.find? fun word => word.1.isPrefixOf text with
  | some word => some (word.2, text.drop word.1.length)
  | none => readNumber text

mutual

/-- A value that begins with the text. -/
def readValue : (fuel : Nat) → List Char → Option (Json × List Char)
  | 0, _ => none
  | fuel + 1, text =>
      match text with
      | '[' :: rest =>
          if (skipBlanks rest).head? = some ']' then some (.array [], (skipBlanks rest).tail)
          else (readItems fuel (skipBlanks rest)).map fun read => (.array read.1, read.2)
      | '{' :: rest =>
          if (skipBlanks rest).head? = some '}' then some (.object [], (skipBlanks rest).tail)
          else (readMembers fuel (skipBlanks rest)).map fun read => (.object (dict read.1), read.2)
      | text =>
          if text.head? = some QUOTE then
            (readString text.length text.tail).map fun read =>
              (.string (String.ofList read.1), read.2)
          else readScalar text

/-- The items of an array and its closing bracket. -/
def readItems : (fuel : Nat) → List Char → Option (List Json × List Char)
  | 0, _ => none
  | fuel + 1, text =>
      match readValue fuel text with
      | none => none
      | some (item, rest) =>
          match skipBlanks rest with
          | ',' :: rest =>
              (readItems fuel (skipBlanks rest)).map fun read => (item :: read.1, read.2)
          | ']' :: rest => some ([item], rest)
          | _ => none

/-- The members of an object and its closing brace. -/
def readMembers : (fuel : Nat) → List Char → Option (Json.Object × List Char)
  | 0, _ => none
  | fuel + 1, text =>
      if text.head? = some QUOTE then
        match readString text.length text.tail with
        | none => none
        | some (key, rest) =>
            match skipBlanks rest with
            | ':' :: rest =>
                match readValue fuel (skipBlanks rest) with
                | none => none
                | some (value, rest) =>
                    let member := (String.ofList key, value)
                    match skipBlanks rest with
                    | ',' :: rest =>
                        (readMembers fuel (skipBlanks rest)).map fun read =>
                          (member :: read.1, read.2)
                    | '}' :: rest => some ([member], rest)
                    | _ => none
            | _ => none
      else none

end

/-- `json.loads`; `none` is a `JSONDecodeError`. -/
def loads (text : String) : Option Json :=
  let text := skipBlanks text.toList
  match readValue text.length text with
  | none => none
  | some (value, rest) => if skipBlanks rest = [] then some value else none

end LiveChat.Foundation.JsonText
