import Aicos.Shipping.Snapshots

namespace Aicos.Properties

open Aicos.Billing Aicos.Commerce Aicos.Data Aicos.Shipping

/-! What is read back as the address of an order is what Stripe has collected. -/

def NotBlank (text : Option String) : Prop :=
  ∃ value, text = some value ∧ trim value ≠ ""

/-- The street, the city and the country are there. -/
def Usable (contact : Option StripeContactDetails) : Prop :=
  ∃ details address, contact = some details ∧ details.address = some address ∧
    NotBlank address.line1 ∧ NotBlank address.city ∧ NotBlank address.country

/-- The address of a contact; what is blank in it is null. -/
structure ShipsTo (details : StripeContactDetails) (address : StripeAddress) (receiver : ShippoAddress) : Prop where
  street1 : some receiver.street1 = address.line1
  city : some receiver.city = address.city
  country : some receiver.country = address.country
  street2 : receiver.street2 = filled address.line2
  state : receiver.state = filled address.state
  zip : receiver.zip = filled address.postalCode
  phone : receiver.phone = filled details.phone
  name : receiver.name = (filled details.name).getD "Customer"

theorem notBlank_iff {text : Option String} : NotBlank text ↔ ∃ value, filled text = some value :=
  exists_congr fun _ => filled_eq_some.symm

/-- What is read back of a contact that is stored. -/
theorem toAddress_storedAddress {details : StripeContactDetails} {address : StripeAddress}
    (located : details.address = some address) :
    toAddress (storedAddress .null (some details)) =
      match filled address.line1, filled address.city, filled address.country with
      | some street1, some city, some country =>
          some {
            name := (filled details.name).getD "Customer"
            street1
            street2 := filled address.line2
            city
            state := filled address.state
            zip := filled address.postalCode
            country
            phone := filled details.phone }
      | _, _, _ => none := by
  by_cases usable : truthy address.line1 ∨ truthy address.city ∨ truthy address.postalCode
  · rw [storedAddress, toAddressSnapshot, located]
    dsimp only
    rw [if_pos usable, Option.map_some, Option.getD_some]
    refine (toAddress_toJson _).trans ?_
    cases filled address.line1 <;> cases filled address.city <;> cases filled address.country <;> rfl
  · have unnamed : filled address.line1 = none := by
      cases full : filled address.line1 with
      | none => rfl
      | some value => exact absurd (.inl (truthy_of_filled full)) usable
    rw [storedAddress, toAddressSnapshot, located]
    dsimp only
    rw [if_neg usable, unnamed]
    rfl

/-- A contact without an address leaves nothing to read. -/
theorem toAddress_unlocated {contact : Option StripeContactDetails} (unlocated : contact.bind (·.address) = none) :
    toAddress (storedAddress .null contact) = none := by
  have nothing : toAddressSnapshot contact = none := by
    cases contact with
    | none => rfl
    | some details =>
        have none : details.address = none := unlocated
        rw [toAddressSnapshot, none]
  rw [storedAddress, nothing]
  rfl

theorem usable_iff {details : StripeContactDetails} {address : StripeAddress} (located : details.address = some address) :
    Usable (some details) ↔ NotBlank address.line1 ∧ NotBlank address.city ∧ NotBlank address.country := by
  constructor
  · intro given
    obtain ⟨_, _, same, there, usable⟩ := given
    cases same
    rw [located] at there
    cases there
    exact usable
  · exact fun usable => ⟨details, address, rfl, located, usable⟩

theorem shipsTo_of_located {details : StripeContactDetails} {address : StripeAddress}
    (located : details.address = some address) :
    ((toAddress (storedAddress .null (some details))).isSome = true ↔ Usable (some details)) ∧
      ∀ receiver ∈ toAddress (storedAddress .null (some details)), ShipsTo details address receiver := by
  rw [toAddress_storedAddress located, usable_iff located, notBlank_iff, notBlank_iff, notBlank_iff]
  cases street1 : filled address.line1 with
  | none => simp
  | some line1 =>
      cases city : filled address.city with
      | none => simp
      | some town =>
          cases country : filled address.country with
          | none => simp
          | some land =>
              refine ⟨by simp, fun receiver read => ?_⟩
              cases read
              exact {
                street1 := (filled_eq_some.mp street1).1.symm
                city := (filled_eq_some.mp city).1.symm
                country := (filled_eq_some.mp country).1.symm
                street2 := rfl
                state := rfl
                zip := rfl
                phone := rfl
                name := rfl }

/-- Whatever a contact leaves out, an order ships to it exactly when its street, city and country are there. -/
theorem shipsTo_of_contact (contact : Option StripeContactDetails) :
    ((toAddress (storedAddress .null contact)).isSome = true ↔ Usable contact) ∧
      ∀ receiver ∈ toAddress (storedAddress .null contact), ∃ details address,
        contact = some details ∧ details.address = some address ∧ ShipsTo details address receiver := by
  cases located : contact.bind (·.address) with
  | none =>
      rw [toAddress_unlocated located]
      constructor
      · constructor
        · intro read
          cases read
        · rintro ⟨details, address, rfl, there, -⟩
          cases there.symm.trans located
      · intro receiver read
        cases read
  | some address =>
      obtain ⟨details, rfl, there⟩ := Option.bind_eq_some_iff.mp located
      obtain ⟨usable, ships⟩ := shipsTo_of_located there
      exact ⟨usable, fun receiver read => ⟨details, address, rfl, there, ships receiver read⟩⟩

end Aicos.Properties
