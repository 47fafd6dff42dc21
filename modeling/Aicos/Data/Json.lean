import Mathlib.Data.Rat.Defs

namespace Aicos.Data

/-! JSON values as `JSON.parse` makes them. -/

/-- `text` is what `String` prints of a number, and `value` the decimal that this is: literals
of one double print alike, in the order of the doubles.  A literal too large for a double is an
infinity. -/
inductive Json where
  | null
  | bool (value : Bool)
  | number (value : ℚ) (text : String)
  | infinity (negative : Bool)
  | string (text : String)
  | array (items : List Json)
  | object (fields : List (String × Json))

namespace Json

mutual

def same : Json → Json → Bool
  | .null, .null => true
  | .bool value, .bool other => value = other
  | .number value text, .number other print => value = other ∧ text = print
  | .infinity negative, .infinity other => negative = other
  | .string text, .string other => text = other
  | .array items, .array others => sameItems items others
  | .object fields, .object others => sameFields fields others
  | _, _ => false

def sameItems : List Json → List Json → Bool
  | [], [] => true
  | item :: items, other :: others => same item other && sameItems items others
  | _, _ => false

def sameFields : List (String × Json) → List (String × Json) → Bool
  | [], [] => true
  | (name, value) :: fields, (key, other) :: others =>
      decide (name = key) && same value other && sameFields fields others
  | _, _ => false

end

mutual

theorem same_iff : (json other : Json) → (same json other = true ↔ json = other)
  | .array items, other => by cases other <;> simp [same, sameItems_iff items]
  | .object fields, other => by cases other <;> simp [same, sameFields_iff fields]
  | .null, other => by cases other <;> simp [same]
  | .bool _, other => by cases other <;> simp [same]
  | .number _ _, other => by cases other <;> simp [same]
  | .infinity _, other => by cases other <;> simp [same]
  | .string _, other => by cases other <;> simp [same]

theorem sameItems_iff : (items others : List Json) → (sameItems items others = true ↔ items = others)
  | [], others => by cases others <;> simp [sameItems]
  | item :: items, others => by cases others <;> simp [sameItems, same_iff item, sameItems_iff items]

theorem sameFields_iff : (fields others : List (String × Json)) → (sameFields fields others = true ↔ fields = others)
  | [], others => by cases others <;> simp [sameFields]
  | (name, value) :: fields, others => by
      cases others <;> simp [sameFields, same_iff value, sameFields_iff fields, Prod.ext_iff, and_assoc]

end

instance : DecidableEq Json := fun json other => decidable_of_iff _ (same_iff json other)

/-- `null` stands for `undefined` too: nothing that reads a field tells them apart. -/
def field (name : String) : Json → Json
  | .object fields => (fields.lookup name).getD .null
  | _ => .null

/-- `Array.isArray(raw) ? raw : Array.isArray(raw?.[name]) ? raw[name] : []`. -/
def itemsUnder (name : String) : Json → List Json
  | .array items => items
  | json => match json.field name with
      | .array items => items
      | _ => []

def truthy : Json → Bool
  | .null => false
  | .bool value => value
  | .number value _ => value ≠ 0
  | .string text => text ≠ ""
  | .infinity _ | .array _ | .object _ => true

/-- What `?.` reads as text; another value has no string method, and the call throws. -/
def optionalText : Json → Option (Option String)
  | .null => some none
  | .string text => some (some text)
  | _ => none

end Json

end Aicos.Data
