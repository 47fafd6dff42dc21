import Aicos.Billing.Events
import Aicos.Shipping.Service

namespace Aicos.Shipping

open Aicos.Billing Aicos.Commerce Aicos.Data

/-! The address of an order between its two readers: the worker writes what Stripe has
collected, and a label is bought for what is read back. -/

def AddressSnapshot.toJson (snapshot : AddressSnapshot) : Json :=
  .object [
    ("name", orNull snapshot.name),
    ("phone", orNull snapshot.phone),
    ("line1", orNull snapshot.line1),
    ("line2", orNull snapshot.line2),
    ("city", orNull snapshot.city),
    ("state", orNull snapshot.state),
    ("postalCode", orNull snapshot.postalCode),
    ("country", orNull snapshot.country)]

/-- The column once a checkout is completed; without a snapshot it stays as it was. -/
def storedAddress (before : Json) (contact : Option StripeContactDetails) : Json :=
  ((toAddressSnapshot contact).map AddressSnapshot.toJson).getD before

/-- A text with more than blanks. -/
def filled (text : Option String) : Option String :=
  text.filter fun text => trim text ≠ ""

theorem filledText_orNull (text : Option String) : filledText (orNull text) = filled text := by
  cases text with
  | none => rfl
  | some text => by_cases blank : trim text = "" <;> simp [orNull, filledText, filled, Option.filter, blank]

theorem filled_eq_some {text : Option String} {value : String} :
    filled text = some value ↔ text = some value ∧ trim value ≠ "" := by
  rw [filled, Option.filter_eq_some_iff, decide_eq_true_iff]

theorem truthy_of_filled {text : Option String} {value : String} (full : filled text = some value) :
    truthy text = true := by
  obtain ⟨rfl, left⟩ := filled_eq_some.mp full
  have nonempty : value ≠ "" := by
    rintro rfl
    exact left (by decide)
  exact decide_eq_true nonempty

/-- None of the alternative keys is written, so each field is read from its own. -/
theorem toAddress_toJson (snapshot : AddressSnapshot) :
    toAddress (AddressSnapshot.toJson snapshot) =
      match filled snapshot.line1, filled snapshot.city, filled snapshot.country with
      | some street1, some city, some country =>
          some {
            name := (filled snapshot.name).getD "Customer"
            street1
            street2 := filled snapshot.line2
            city
            state := filled snapshot.state
            zip := filled snapshot.postalCode
            country
            phone := filled snapshot.phone }
      | _, _, _ => none := by
  have read (name : String) (value : Option String)
      (there : (AddressSnapshot.toJson snapshot).field name = orNull value) :
      filledText ((AddressSnapshot.toJson snapshot).field name) = filled value := by
    rw [there, filledText_orNull]
  have missing (name : String) (absent : (AddressSnapshot.toJson snapshot).field name = .null) :
      filledText ((AddressSnapshot.toJson snapshot).field name) = none := by
    rw [absent]
    rfl
  have unnamed : joinNames [none, none] = "" := rfl
  cases line1 : filled snapshot.line1 <;> cases city : filled snapshot.city <;>
    cases country : filled snapshot.country <;>
    simp only [toAddress, read "line1" _ rfl, line1, city, country, missing "street1" rfl, read "city" _ rfl,
      read "country" _ rfl, missing "firstName" rfl, missing "lastName" rfl, read "name" _ rfl, read "line2" _ rfl,
      missing "street2" rfl, missing "region" rfl, read "state" _ rfl, read "postalCode" _ rfl, missing "zip" rfl,
      read "phone" _ rfl, unnamed, if_true, Option.or_none, Option.none_or]

end Aicos.Shipping
