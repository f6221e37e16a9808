import Invetrixa.Schema
import Invetrixa.Text
import Invetrixa.Library.Handlers

/-!
# Customers

`CustomerService`: the customers of a tenant with their addresses, of which one of each kind may be
the default. The flag is taken from the others in a statement of its own before an address gets
it. Of an address only its kind and the flag are modelled, and of a customer what is checked.

## Main definitions

- `CustomerService.create`, `addAddress`, `updateAddress`, `setDefaultAddress`, `removeAddress`
- `CustomerService.update`, `CustomerService.remove`
- `CustomerService.unsetDefaultAddresses`
-/

namespace Invetrixa

open Rowstore Requests

inductive CustomerType
  | individual
  | business
  deriving DecidableEq

inductive AddressType
  | billing
  | shipping
  | both
  deriving DecidableEq

/-- A row of `customers`. -/
structure CustomerRow where
  phone : String
  email : Option String
  tenantId : Id
  deletedAt : Option ℕ

structure CustomerAddress where
  addressType : AddressType
  isDefault : Bool
  customerId : Id
  deriving DecidableEq

structure CustomerStore where
  customers : Serial CustomerRow
  addresses : Serial CustomerAddress

def CustomerStore.empty : CustomerStore := ⟨Serial.empty, Serial.empty⟩

abbrev CustomerHandler (α : Type) : Type := Handler CustomerStore HttpError α

/-- A field of a body: left out, `null` or a value. -/
abbrev Field (α : Type) : Type := Option (Option α)

namespace Field

variable {α : Type}

/-- What is written of a field to a column that is not nullable; the client refuses `null`. -/
def written (field : Field α) : Except HttpError (Option α) :=
  match field with
  | none => .ok none
  | some (some a) => .ok (some a)
  | some none => .error queryValidationError

/-- `field || default`, for values that are all truthy -/
def orElse (field : Field α) (default : α) : α := field.join.getD default

end Field

structure CreateCustomerAddressDto where
  addressType : Field AddressType
  isDefault : Field Bool

/-- All fields of `CreateCustomerAddressDto` are optional already. -/
abbrev UpdateCustomerAddressDto : Type := CreateCustomerAddressDto

structure CreateCustomerDto where
  customerType : Field CustomerType
  firstName : Option String
  lastName : Option String
  companyName : Option String
  email : Option String
  phone : String
  alternatePhone : Option String
  addresses : List CreateCustomerAddressDto

namespace CreateCustomerAddressDto

/-- The flag is asked for. -/
def SetsDefault (dto : CreateCustomerAddressDto) : Prop := dto.isDefault = some (some true)

instance (dto : CreateCustomerAddressDto) : Decidable dto.SetsDefault :=
  inferInstanceAs (Decidable (_ = _))

/-- The row of a new address, with the defaults of its columns. -/
def row (customerId : Id) (dto : CreateCustomerAddressDto) : Except HttpError CustomerAddress := do
  let addressType ← dto.addressType.written
  let isDefault ← dto.isDefault.written
  return ⟨addressType.getD .both, isDefault.getD false, customerId⟩

end CreateCustomerAddressDto

namespace CustomerService

def validateCustomerData (dto : CreateCustomerDto) : Except HttpError Unit :=
  let type := dto.customerType.join.getD .individual
  if type = .individual ∧ truthy dto.firstName = none ∧ truthy dto.lastName = none then
    .error (.badRequest "Individual customers must have a first name or last name")
  else if type = .business ∧ truthy dto.companyName = none then
    .error (.badRequest "Business customers must have a company name")
  else .ok ⟨⟩

/-- The unique constraints of a new customer, as `handleUniqueConstraintError` reports them by
`meta.target`. Without it both are reported as "A customer with these details already exists". -/
def checkUnique (tenantId : Id) (dto : CreateCustomerDto) (s : CustomerStore) :
    Except HttpError Unit :=
  if (s.customers.rows.any fun r => r.2.phone = dto.phone ∧ r.2.tenantId = tenantId) then
    .error (.conflict "Customer with this phone already exists")
  else if (s.customers.rows.any fun r =>
      dto.email ≠ none ∧ r.2.email = dto.email ∧ r.2.tenantId = tenantId) then
    .error (.conflict "Customer with this email already exists")
  else .ok ⟨⟩

/-- `customer.create` with its nested addresses -/
def insertCustomer (tenantId : Id) (dto : CreateCustomerDto) (s : CustomerStore) :
    Except HttpError (Id × CustomerStore) := do
  let _ ← dto.customerType.written
  let addresses ← dto.addresses.mapM (CreateCustomerAddressDto.row s.customers.next)
  column 20 dto.phone
  column 20 (dto.alternatePhone.getD "")
  checkUnique tenantId dto s
  return (s.customers.next,
    { customers := s.customers.create ⟨dto.phone, dto.email, tenantId, none⟩
      addresses := addresses.foldl Serial.create s.addresses })

def create (tenantId : Id) (dto : CreateCustomerDto) : CustomerHandler Id := do
  Handler.read fun _ => validateCustomerData dto
  Handler.atomically (insertCustomer tenantId dto)

def verifyCustomerExists (tenantId id : Id) (s : CustomerStore) : Except HttpError Unit :=
  match (s.customers.find? id).filter fun c => c.tenantId = tenantId ∧ c.deletedAt = none with
  | some _ => .ok ⟨⟩
  | none => .error (.notFound ("Customer with ID " ++ toString id ++ " not found"))

def getAddressOrThrow (customerId addressId : Id) (s : CustomerStore) :
    Except HttpError CustomerAddress :=
  match (s.addresses.find? addressId).filter fun a => a.customerId = customerId with
  | some address => .ok address
  | none => .error (.notFound "Address not found for this customer")

def unsetDefaultAddresses (customerId : Id) (addressType : AddressType) (s : CustomerStore) :
    CustomerStore :=
  { s with
    addresses := s.addresses.modifyWhere
      (fun _ a => a.customerId = customerId ∧ a.addressType = addressType ∧ a.isDefault)
      fun a => { a with isDefault := false } }

/-- The default addresses of a kind are unset if the body asks for the flag. -/
def makeWay (customerId : Id) (dto : CreateCustomerAddressDto) (addressType : AddressType)
    (s : CustomerStore) : CustomerStore :=
  if dto.SetsDefault then unsetDefaultAddresses customerId addressType s else s

/-- `customerAddress.create` -/
def insertAddress (customerId : Id) (dto : CreateCustomerAddressDto) (s : CustomerStore) :
    Except HttpError (Unit × CustomerStore) := do
  let address ← dto.row customerId
  return (⟨⟩, { s with addresses := s.addresses.create address })

def addAddress (tenantId customerId : Id) (dto : CreateCustomerAddressDto) :
    CustomerHandler Unit := do
  Handler.read (verifyCustomerExists tenantId customerId)
  Handler.write (makeWay customerId dto (dto.addressType.orElse .both))
  Handler.atomically (insertAddress customerId dto)

/-- `customerAddress.update`; what the body leaves out stays. -/
def writeAddress (addressId : Id) (dto : UpdateCustomerAddressDto) (s : CustomerStore) :
    Except HttpError (Unit × CustomerStore) := do
  let addressType ← dto.addressType.written
  let isDefault ← dto.isDefault.written
  return (⟨⟩, { s with
    addresses := s.addresses.modify addressId fun a =>
      { a with
        addressType := addressType.getD a.addressType
        isDefault := isDefault.getD a.isDefault } })

def updateAddress (tenantId customerId addressId : Id) (dto : UpdateCustomerAddressDto) :
    CustomerHandler Unit := do
  Handler.read (verifyCustomerExists tenantId customerId)
  let address ← Handler.read (getAddressOrThrow customerId addressId)
  Handler.write (makeWay customerId dto (dto.addressType.orElse address.addressType))
  Handler.atomically (writeAddress addressId dto)

def removeAddress (tenantId customerId addressId : Id) : CustomerHandler Unit := do
  Handler.read (verifyCustomerExists tenantId customerId)
  let _ ← Handler.read (getAddressOrThrow customerId addressId)
  Handler.write fun s => { s with addresses := s.addresses.deleteWhere fun k _ => k = addressId }

def setDefaultAddress (tenantId customerId addressId : Id) : CustomerHandler Unit := do
  Handler.read (verifyCustomerExists tenantId customerId)
  let address ← Handler.read (getAddressOrThrow customerId addressId)
  Handler.write (unsetDefaultAddresses customerId address.addressType)
  Handler.write fun s =>
    { s with addresses := s.addresses.modify addressId fun a => { a with isDefault := true } }

/-- A customer is deleted by setting `deletedAt`. -/
def remove (now tenantId id : ℕ) : CustomerHandler Unit := do
  Handler.read (verifyCustomerExists tenantId id)
  Handler.write fun s =>
    { s with customers := s.customers.modify id fun c => { c with deletedAt := some now } }

/-- `UpdateCustomerDto`: every field may be left out, and addresses are none of its fields. -/
structure UpdateDto where
  customerType : Field CustomerType
  firstName : Field String
  email : Field String
  phone : Field String
  alternatePhone : Field String

/-- The row with what the body has of it; what the body leaves out stays. -/
def UpdateDto.changed (dto : UpdateDto) (c : CustomerRow) : Except HttpError CustomerRow := do
  let _ ← dto.customerType.written
  let _ ← dto.firstName.written
  let phone ← dto.phone.written
  column 20 (phone.getD "")
  column 20 (dto.alternatePhone.join.getD "")
  return { c with phone := phone.getD c.phone, email := dto.email.getD c.email }

/-- The unique constraints of a changed customer, as `handleUniqueConstraintError` reports them. -/
def checkOthers (id : Id) (c : CustomerRow) (s : CustomerStore) : Except HttpError Unit :=
  if (s.customers.rows.any fun r =>
      r.1 ≠ id ∧ r.2.phone = c.phone ∧ r.2.tenantId = c.tenantId) then
    .error (.conflict "Customer with this phone already exists")
  else if (s.customers.rows.any fun r =>
      r.1 ≠ id ∧ c.email ≠ none ∧ r.2.email = c.email ∧ r.2.tenantId = c.tenantId) then
    .error (.conflict "Customer with this email already exists")
  else .ok ⟨⟩

/-- `customer.update` -/
def writeCustomer (id : Id) (dto : UpdateDto) (s : CustomerStore) :
    Except HttpError (Unit × CustomerStore) :=
  match s.customers.find? id with
  | none => .error recordNotFound
  | some c => do
    let changed ← dto.changed c
    checkOthers id changed s
    return (⟨⟩, { s with customers := s.customers.modify id fun _ => changed })

def update (tenantId id : Id) (dto : UpdateDto) : CustomerHandler Unit := do
  Handler.read (verifyCustomerExists tenantId id)
  Handler.atomically (writeCustomer id dto)

end CustomerService

inductive CustomerRequest
  | create (dto : CreateCustomerDto)
  | addAddress (customerId : Id) (dto : CreateCustomerAddressDto)
  | updateAddress (customerId addressId : Id) (dto : UpdateCustomerAddressDto)
  | removeAddress (customerId addressId : Id)
  | setDefaultAddress (customerId addressId : Id)
  | remove (id : Id)

structure CustomerCall where
  tenantId : Id
  now : ℕ
  request : CustomerRequest

open CustomerService in
/-- The store after a request; what a refused request has written stays. -/
def serveCustomer (call : CustomerCall) (s : CustomerStore) : CustomerStore :=
  match call.request with
  | .create dto => (create call.tenantId dto s).2
  | .addAddress customerId dto => (addAddress call.tenantId customerId dto s).2
  | .updateAddress customerId addressId dto =>
    (updateAddress call.tenantId customerId addressId dto s).2
  | .removeAddress customerId addressId => (removeAddress call.tenantId customerId addressId s).2
  | .setDefaultAddress customerId addressId =>
    (setDefaultAddress call.tenantId customerId addressId s).2
  | .remove id => (remove call.now call.tenantId id s).2

/-- A request, or an update of a customer. -/
inductive CustomerEvent
  | request (call : CustomerCall)
  | update (tenantId id : Id) (dto : CustomerService.UpdateDto)

namespace CustomerEvent

/-- The tenant that a request is made in. -/
def tenantId : CustomerEvent → Id
  | request call => call.tenantId
  | update tenantId _ _ => tenantId

def step : CustomerEvent → CustomerStore → CustomerStore
  | request call, s => serveCustomer call s
  | update tenantId id dto, s => (CustomerService.update tenantId id dto s).2

def run (events : List CustomerEvent) : CustomerStore :=
  events.foldl (fun s e => e.step s) CustomerStore.empty

end CustomerEvent

end Invetrixa
