import Mathlib.Tactic.Common

/-!
# JSON values

A value as a JSON parser delivers it.  A number is `mantissa * 10 ^ (-places)`;
an object keeps its members in order.  Equality of values is decidable.
-/

set_option autoImplicit false

namespace LiveChat.Foundation

inductive Json where
  | null
  | bool (value : Bool)
  | number (mantissa : Int) (places : Nat)
  | string (value : String)
  | array (items : List Json)
  | object (members : List (String × Json))

namespace Json

mutual

def decEq : (left right : Json) → Decidable (left = right)
  | .null, .null => isTrue rfl
  | .bool a, .bool b => decidable_of_iff (a = b) (by simp)
  | .number a m, .number b n => decidable_of_iff (a = b ∧ m = n) (by simp)
  | .string a, .string b => decidable_of_iff (a = b) (by simp)
  | .array xs, .array ys =>
      match decEqItems xs ys with
      | isTrue same => isTrue (congrArg _ same)
      | isFalse differ => isFalse fun same => differ (Json.array.inj same)
  | .object xs, .object ys =>
      match decEqMembers xs ys with
      | isTrue same => isTrue (congrArg _ same)
      | isFalse differ => isFalse fun same => differ (Json.object.inj same)
  | .null, .bool _ | .null, .number _ _ | .null, .string _ | .null, .array _
  | .null, .object _ | .bool _, .null | .bool _, .number _ _ | .bool _, .string _
  | .bool _, .array _ | .bool _, .object _ | .number _ _, .null | .number _ _, .bool _
  | .number _ _, .string _ | .number _ _, .array _ | .number _ _, .object _
  | .string _, .null | .string _, .bool _ | .string _, .number _ _ | .string _, .array _
  | .string _, .object _ | .array _, .null | .array _, .bool _ | .array _, .number _ _
  | .array _, .string _ | .array _, .object _ | .object _, .null | .object _, .bool _
  | .object _, .number _ _ | .object _, .string _ | .object _, .array _ =>
      isFalse fun same => by cases same

def decEqItems : (left right : List Json) → Decidable (left = right)
  | [], [] => isTrue rfl
  | x :: xs, y :: ys =>
      match decEq x y, decEqItems xs ys with
      | isTrue head, isTrue tail => isTrue (by rw [head, tail])
      | isFalse differ, _ => isFalse fun same => differ (List.cons.inj same).1
      | _, isFalse differ => isFalse fun same => differ (List.cons.inj same).2
  | [], _ :: _ | _ :: _, [] => isFalse fun same => by cases same

def decEqMembers : (left right : List (String × Json)) → Decidable (left = right)
  | [], [] => isTrue rfl
  | (k, x) :: xs, (l, y) :: ys =>
      match decEq x y, decEqMembers xs ys with
      | isTrue head, isTrue tail =>
          decidable_of_iff (k = l) (by rw [head, tail]; simp)
      | isFalse differ, _ =>
          isFalse fun same => differ (Prod.mk.inj (List.cons.inj same).1).2
      | _, isFalse differ => isFalse fun same => differ (List.cons.inj same).2
  | [], _ :: _ | _ :: _, [] => isFalse fun same => by cases same

end

instance : DecidableEq Json := decEq

def optionalString : Option String → Json
  | none => .null
  | some value => .string value

/-- `dict[str, Any]`: the members of a JSON object. -/
abbrev Object := List (String × Json)

/-- Whether a value counts as true in a condition: not `None`, not zero, not empty. -/
def isTruthy : Json → Bool
  | .null => false
  | .bool value => value
  | .number mantissa _ => decide (mantissa ≠ 0)
  | .string value => decide (value ≠ "")
  | .array items => !items.isEmpty
  | .object members => !members.isEmpty

end Json

end LiveChat.Foundation
