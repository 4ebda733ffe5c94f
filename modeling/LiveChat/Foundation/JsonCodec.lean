import LiveChat.Foundation.JsonRoundTrip

/-!
# Values that are stored as JSON texts

A `Codec` says how values of a type become JSON and what is made of JSON that is read, and it
carries the proof that nothing is lost.  `Fits` singles out the values without a repeated key,
whose text can be read back.
-/

set_option autoImplicit false

namespace LiveChat.Foundation

universe u v

structure Codec (Value : Type u) where
  encode : Value → Json
  decode : Json → Option Value
  Fits : Value → Prop
  wellFormed : ∀ value, Fits value → JsonText.WellFormed (encode value)
  decode_encode : ∀ value, decode (encode value) = some value

namespace Codec

variable {Value : Type u} {Other : Type v}

def string : Codec String where
  encode := .string
  decode
    | .string value => some value
    | _ => none
  Fits _ := True
  wellFormed _ _ := trivial
  decode_encode _ := rfl

def bool : Codec Bool where
  encode := .bool
  decode
    | .bool value => some value
    | _ => none
  Fits _ := True
  wellFormed _ _ := trivial
  decode_encode _ := rfl

def int : Codec Int where
  encode value := .number value 0
  decode
    | .number value 0 => some value
    | _ => none
  Fits _ := True
  wellFormed _ _ := trivial
  decode_encode _ := rfl

def nat : Codec Nat where
  encode value := .number value 0
  decode
    | .number (.ofNat value) 0 => some value
    | _ => none
  Fits _ := True
  wellFormed _ _ := trivial
  decode_encode _ := rfl

/-- `dict[str, Any]`. -/
def object : Codec Json.Object where
  encode := .object
  decode
    | .object members => some members
    | _ => none
  Fits members := JsonText.WellFormed (.object members)
  wellFormed _ fits := fits
  decode_encode _ := rfl

/-- A value, or `None`; no value of the type may be `null` itself. -/
def option (codec : Codec Value) (solid : ∀ value, codec.encode value ≠ .null) :
    Codec (Option Value) where
  encode
    | none => .null
    | some value => codec.encode value
  decode json := if json = .null then some none else (codec.decode json).map some
  Fits value := ∀ inner ∈ value, codec.Fits inner
  wellFormed value fits := by
    cases value with
    | none => trivial
    | some value => exact codec.wellFormed value (fits value rfl)
  decode_encode value := by
    cases value with
    | none => rfl
    | some value =>
        simp only
        rw [if_neg (solid value), codec.decode_encode, Option.map_some]

/-- The decoded items, when all of them can be decoded. -/
def decodeAll (decode : Json → Option Value) : List Json → Option (List Value)
  | [] => some []
  | item :: rest =>
      match decode item, decodeAll decode rest with
      | some value, some values => some (value :: values)
      | _, _ => none

theorem decodeAll_encode (codec : Codec Value) (values : List Value) :
    decodeAll codec.decode (values.map codec.encode) = some values := by
  induction values with
  | nil => rfl
  | cons value rest ih =>
      simp only [List.map_cons, decodeAll, codec.decode_encode, ih]

theorem wellFormedItems_map (codec : Codec Value) {values : List Value}
    (fits : ∀ value ∈ values, codec.Fits value) :
    JsonText.WellFormedItems (values.map codec.encode) := by
  induction values with
  | nil => trivial
  | cons value rest ih =>
      obtain ⟨here, others⟩ := List.forall_mem_cons.mp fits
      exact ⟨codec.wellFormed value here, ih others⟩

def list (codec : Codec Value) : Codec (List Value) where
  encode values := .array (values.map codec.encode)
  decode
    | .array items => decodeAll codec.decode items
    | _ => none
  Fits values := ∀ value ∈ values, codec.Fits value
  wellFormed _ fits := wellFormedItems_map codec fits
  decode_encode values := decodeAll_encode codec values

/-- The decoded members, under their keys. -/
def decodeMembers (decode : Json → Option Value) : Json.Object → Option (List (String × Value))
  | [] => some []
  | (key, item) :: rest =>
      match decode item, decodeMembers decode rest with
      | some value, some members => some ((key, value) :: members)
      | _, _ => none

theorem decodeMembers_encode (codec : Codec Value) (members : List (String × Value)) :
    decodeMembers codec.decode (members.map fun member => (member.1, codec.encode member.2)) =
      some members := by
  induction members with
  | nil => rfl
  | cons member rest ih =>
      simp only [List.map_cons, decodeMembers, codec.decode_encode, ih]

theorem wellFormedMembers_map (codec : Codec Value) {members : List (String × Value)}
    (fits : ∀ member ∈ members, codec.Fits member.2) :
    JsonText.WellFormedMembers
      (members.map fun member => (member.1, codec.encode member.2)) := by
  induction members with
  | nil => trivial
  | cons member rest ih =>
      obtain ⟨here, others⟩ := List.forall_mem_cons.mp fits
      exact ⟨codec.wellFormed member.2 here, ih others⟩

/-- `dict[str, Value]`. -/
def dict (codec : Codec Value) : Codec (List (String × Value)) where
  encode members := .object (members.map fun member => (member.1, codec.encode member.2))
  decode
    | .object members => decodeMembers codec.decode members
    | _ => none
  Fits members := (members.map Prod.fst).Nodup ∧ ∀ member ∈ members, codec.Fits member.2
  wellFormed members fits := by
    refine ⟨?_, wellFormedMembers_map codec fits.2⟩
    rw [List.map_map]
    exact fits.1
  decode_encode members := decodeMembers_encode codec members

/-! ## Members of an object -/

/-- A member that must be there. -/
def required (codec : Codec Value) (key : String) (members : Json.Object) : Option Value :=
  (members.lookup key).bind codec.decode

/-- A member with a default. -/
def defaulted (codec : Codec Value) (key : String) (default : Value) (members : Json.Object) :
    Option Value :=
  match members.lookup key with
  | none => some default
  | some json => codec.decode json

/-! ## Texts -/

/-- `json.dumps` with its usual separators. -/
def text (codec : Codec Value) (value : Value) : String :=
  JsonText.dumps JsonText.spaced (codec.encode value)

theorem loads_text (codec : Codec Value) {value : Value} (fits : codec.Fits value) :
    JsonText.loads (codec.text value) = some (codec.encode value) :=
  JsonText.loads_dumps _ (codec.wellFormed value fits)

/-- Reading a text gives the value that was written. -/
theorem read_text (codec : Codec Value) {value : Value} (fits : codec.Fits value) :
    (JsonText.loads (codec.text value)).bind codec.decode = some value := by
  rw [codec.loads_text fits, Option.bind_some, codec.decode_encode]

end Codec

end LiveChat.Foundation
