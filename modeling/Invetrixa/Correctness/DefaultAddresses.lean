import Invetrixa.Customer.Customer

/-!
# Default addresses

A customer has at most one default address of a kind, as long as no customer is created with two
and no update gives a default address the kind of another one: these two writes leave the other
addresses alone.

## Main definitions

- `CustomerStore.DefaultAt` — a default address of a customer, of a kind
- `OneDefault` — at most one of each
- `KeepsOneDefault` — what a request must meet

## Main results

- `AddressInv.serveCustomer` — such a request keeps the invariant
- `one_default_iff` — a run keeps at most one default exactly if all its requests are such
-/

namespace Invetrixa

open Rowstore Requests CustomerService

/-- The address is the customer's, of the kind, and a default. -/
def CustomerStore.DefaultAt (s : CustomerStore) (customerId : Id) (addressType : AddressType)
    (id : Id) : Prop :=
  s.addresses.find? id = some ⟨addressType, true, customerId⟩

/-- Every customer has at most one default address of each kind. -/
def OneDefault (s : CustomerStore) : Prop :=
  ∀ customerId addressType id id', s.DefaultAt customerId addressType id →
    s.DefaultAt customerId addressType id' → id = id'

/-- The row that a body without `null` makes. -/
def CreateCustomerAddressDto.newRow (customerId : Id) (dto : CreateCustomerAddressDto) :
    CustomerAddress :=
  ⟨dto.addressType.orElse .both, dto.isDefault.orElse false, customerId⟩

/-- Neither of the fields is `null`. -/
def CreateCustomerAddressDto.NonNull (dto : CreateCustomerAddressDto) : Prop :=
  dto.addressType ≠ some none ∧ dto.isDefault ≠ some none

/-- The store with a new customer and its addresses. -/
def CustomerStore.withCustomer (tenantId : Id) (dto : CreateCustomerDto) (s : CustomerStore) :
    CustomerStore where
  customers := s.customers.create ⟨dto.phone, dto.email, tenantId, none⟩
  addresses := (dto.addresses.map
    (CreateCustomerAddressDto.newRow s.customers.next)).foldl Serial.create s.addresses

/-- What is asked of a new customer. -/
structure CreateCustomerDto.Creatable (tenantId : Id) (dto : CreateCustomerDto)
    (s : CustomerStore) : Prop where
  valid : validateCustomerData dto = .ok ⟨⟩
  customerType : dto.customerType ≠ some none
  addresses : ∀ address ∈ dto.addresses, address.NonNull
  phone : dto.phone.length ≤ 20
  alternatePhone : (dto.alternatePhone.getD "").length ≤ 20
  unique : checkUnique tenantId dto s = .ok ⟨⟩

/-- The kinds of the addresses that are to be defaults. -/
def defaultTypes (addresses : List CreateCustomerAddressDto) : List AddressType :=
  (addresses.filter fun dto => dto.SetsDefault).map fun dto => dto.addressType.orElse .both

/-- A default address that gets another kind, and not the flag with it, is the first default of
its new kind. -/
def UpdateKeeps (customerId addressId : Id) (dto : UpdateCustomerAddressDto)
    (s : CustomerStore) : Prop :=
  dto.isDefault = none → ∀ old new, s.DefaultAt customerId old addressId →
    dto.addressType = some (some new) → new ≠ old → ∀ id, ¬s.DefaultAt customerId new id

/-- A new customer comes with at most one default of each kind, and no update makes a second. -/
def KeepsOneDefault (s : CustomerStore) (call : CustomerCall) : Prop :=
  match call.request with
  | .create dto => dto.Creatable call.tenantId s → (defaultTypes dto.addresses).Nodup
  | .updateAddress customerId addressId dto =>
    verifyCustomerExists call.tenantId customerId s = .ok ⟨⟩ →
      UpdateKeeps customerId addressId dto s
  | _ => True

/-- At most one default of each kind, and every address is of a customer. -/
structure AddressInv (s : CustomerStore) : Prop where
  one : OneDefault s
  owned : ∀ id a, s.addresses.find? id = some a → a.customerId < s.customers.next

section Fields

variable {α : Type}

theorem written_eq_ok_iff {field : Field α} {x : Option α} :
    field.written = .ok x ↔ field ≠ some none ∧ x = field.join := by
  rcases field with _ | _ | a
  · simp [Field.written, eq_comm]
  · simp [Field.written]
  · simp [Field.written, eq_comm]

theorem row_eq_ok_iff {customerId : Id} (dto : CreateCustomerAddressDto) (a : CustomerAddress) :
    dto.row customerId = .ok a ↔ dto.NonNull ∧ a = dto.newRow customerId := by
  rw [CreateCustomerAddressDto.row]
  constructor
  · intro h
    obtain ⟨addressType, htype, h⟩ := Except.bind_eq_ok_iff.mp h
    obtain ⟨isDefault, hdefault, h⟩ := Except.bind_eq_ok_iff.mp h
    obtain ⟨hnull, rfl⟩ := written_eq_ok_iff.mp htype
    obtain ⟨hnull', rfl⟩ := written_eq_ok_iff.mp hdefault
    exact ⟨⟨hnull, hnull'⟩, (Except.ok.inj h).symm⟩
  · rintro ⟨⟨hnull, hnull'⟩, rfl⟩
    exact Except.bind_eq_ok_iff.mpr ⟨_, written_eq_ok_iff.mpr ⟨hnull, rfl⟩,
      Except.bind_eq_ok_iff.mpr ⟨_, written_eq_ok_iff.mpr ⟨hnull', rfl⟩, rfl⟩⟩

theorem newRow_isDefault_iff {customerId : Id} {dto : CreateCustomerAddressDto} :
    (dto.newRow customerId).isDefault = true ↔ dto.SetsDefault := by
  simp only [CreateCustomerAddressDto.newRow, CreateCustomerAddressDto.SetsDefault, Field.orElse]
  rcases dto.isDefault with _ | _ | flag
  · simp
  · simp
  · simp

theorem newRow_of_setsDefault {dto : CreateCustomerAddressDto} (h : dto.SetsDefault)
    (customerId : Id) :
    dto.newRow customerId = ⟨dto.addressType.orElse .both, true, customerId⟩ := by
  have hflag : (dto.newRow customerId).isDefault = true := newRow_isDefault_iff.mpr h
  rw [← hflag]
  rfl

theorem defaultTypes_cons (dto : CreateCustomerAddressDto)
    (rest : List CreateCustomerAddressDto) :
    defaultTypes (dto :: rest) =
      if dto.SetsDefault then dto.addressType.orElse .both :: defaultTypes rest
      else defaultTypes rest := by
  by_cases hset : dto.SetsDefault
  · simp [defaultTypes, hset]
  · simp [defaultTypes, hset]

theorem mem_defaultTypes_iff {dtos : List CreateCustomerAddressDto} {t : AddressType}
    (customerId : Id) :
    t ∈ defaultTypes dtos ↔
      (⟨t, true, customerId⟩ : CustomerAddress) ∈
        dtos.map (CreateCustomerAddressDto.newRow customerId) := by
  rw [defaultTypes]
  simp only [List.mem_map, List.mem_filter, decide_eq_true_eq]
  refine exists_congr fun dto => ⟨?_, ?_⟩
  · rintro ⟨⟨hdto, hset⟩, rfl⟩
    exact ⟨hdto, newRow_of_setsDefault hset customerId⟩
  · rintro ⟨hdto, hrow⟩
    have hset : (dto.newRow customerId).isDefault = true := by rw [hrow]
    exact ⟨⟨hdto, newRow_isDefault_iff.mp hset⟩, congrArg CustomerAddress.addressType hrow⟩

end Fields

variable {s : CustomerStore} {tenantId customerId addressId : Id} {addressType : AddressType}

section Writes

theorem defaultAt_unset {c id : Id} {t : AddressType} :
    (unsetDefaultAddresses customerId addressType s).DefaultAt c t id ↔
      s.DefaultAt c t id ∧ ¬(c = customerId ∧ t = addressType) := by
  rw [CustomerStore.DefaultAt, unsetDefaultAddresses, Serial.toTable_modifyWhere,
    Table.find?_modifyWhere, Option.map_eq_some_iff]
  constructor
  · rintro ⟨a, ha, heq⟩
    split at heq
    · cases heq
    · next hkept =>
      subst heq
      exact ⟨ha, fun h => hkept (by simpa using h)⟩
  · rintro ⟨hdefault, hne⟩
    exact ⟨_, hdefault, if_neg (by simpa using hne)⟩

/-- An address after defaults are unset is the same but for the flag. -/
theorem find?_unset {id : Id} {a : CustomerAddress} (h : s.addresses.find? id = some a) :
    ∃ isDefault, (unsetDefaultAddresses customerId addressType s).addresses.find? id =
      some { a with isDefault } := by
  rw [unsetDefaultAddresses, Serial.toTable_modifyWhere, Table.find?_modifyWhere, h,
    Option.map_some]
  split
  · exact ⟨false, rfl⟩
  · exact ⟨a.isDefault, rfl⟩

theorem customers_makeWay (dto : CreateCustomerAddressDto) :
    (makeWay customerId dto addressType s).customers = s.customers := by
  rw [makeWay]
  split <;> rfl

theorem verified_lt (h : verifyCustomerExists tenantId customerId s = .ok ⟨⟩) :
    customerId < s.customers.next := by
  rw [verifyCustomerExists] at h
  split at h
  · next c hc =>
    obtain ⟨hfind, _⟩ := Option.filter_eq_some_iff.mp hc
    exact s.customers.lt_next _ (List.mem_map_of_mem (Table.mem_rows_of_find? hfind))
  · cases h

theorem getAddressOrThrow_ok {a : CustomerAddress}
    (h : getAddressOrThrow customerId addressId s = .ok a) :
    s.addresses.find? addressId = some a ∧ a.customerId = customerId := by
  rw [getAddressOrThrow] at h
  split at h
  · next a' ha =>
    obtain rfl := Except.ok.inj h
    obtain ⟨hfind, hcustomer⟩ := Option.filter_eq_some_iff.mp ha
    exact ⟨hfind, of_decide_eq_true hcustomer⟩
  · cases h

namespace AddressInv

/-- Unsetting defaults keeps the invariant. -/
theorem unset (h : AddressInv s) (customerId : Id) (addressType : AddressType) :
    AddressInv (unsetDefaultAddresses customerId addressType s) where
  one c t id id' hid hid' :=
    h.one c t id id' (defaultAt_unset.mp hid).1 (defaultAt_unset.mp hid').1
  owned id a ha := by
    rw [unsetDefaultAddresses, Serial.toTable_modifyWhere, Table.find?_modifyWhere] at ha
    obtain ⟨a', ha', rfl⟩ := Option.map_eq_some_iff.mp ha
    have howned := h.owned id a' ha'
    split <;> exact howned

theorem makeWay (h : AddressInv s) (customerId : Id) (dto : CreateCustomerAddressDto)
    (addressType : AddressType) : AddressInv (makeWay customerId dto addressType s) := by
  rw [CustomerService.makeWay]
  split
  · exact h.unset customerId addressType
  · exact h

/-- A new address that is a default is the first of its kind. -/
theorem insert (h : AddressInv s) {a : CustomerAddress} (howner : a.customerId < s.customers.next)
    (hfirst : a.isDefault = true → ∀ id, ¬s.DefaultAt a.customerId a.addressType id) :
    AddressInv { s with addresses := s.addresses.create a } where
  one c t id id' hid hid' := by
    rcases Serial.find?_create_cases hid with hold | ⟨rfl, hnew⟩
    · rcases Serial.find?_create_cases hid' with hold' | ⟨rfl, hnew'⟩
      · exact h.one c t id id' hold hold'
      · rw [← hnew'] at hfirst
        exact absurd hold (hfirst rfl id)
    · rcases Serial.find?_create_cases hid' with hold' | ⟨rfl, _⟩
      · rw [← hnew] at hfirst
        exact absurd hold' (hfirst rfl id')
      · rfl
  owned id a' ha' := by
    rcases Serial.find?_create_cases ha' with ha' | ⟨_, rfl⟩
    · exact h.owned id a' ha'
    · exact howner

/-- A rewritten address that is a default afterwards is the only one of its kind. -/
theorem modify (h : AddressInv s) {a : CustomerAddress} {f : CustomerAddress → CustomerAddress}
    (hfind : s.addresses.find? addressId = some a) (howner : (f a).customerId = a.customerId)
    (honly : (f a).isDefault = true →
      ∀ id, id ≠ addressId → ¬s.DefaultAt (f a).customerId (f a).addressType id) :
    AddressInv { s with addresses := s.addresses.modify addressId f } where
  one c t id id' hid hid' := by
    have hrow {id : Id} (hid : (s.addresses.modify addressId f).find? id = some ⟨t, true, c⟩) :
        (id ≠ addressId ∧ s.DefaultAt c t id) ∨ (id = addressId ∧ f a = ⟨t, true, c⟩) := by
      rcases Table.find?_modify_cases hid with hother | ⟨rfl, a', ha', heq⟩
      · exact .inl hother
      · obtain rfl := Option.some.inj (hfind.symm.trans ha')
        exact .inr ⟨rfl, heq.symm⟩
    rcases hrow hid with ⟨hne, hold⟩ | ⟨rfl, hrewritten⟩
    · rcases hrow hid' with ⟨_, hold'⟩ | ⟨rfl, hrewritten⟩
      · exact h.one c t id id' hold hold'
      · rw [hrewritten] at honly
        exact absurd hold (honly rfl id hne)
    · rcases hrow hid' with ⟨hne, hold'⟩ | ⟨rfl, _⟩
      · rw [hrewritten] at honly
        exact absurd hold' (honly rfl id' hne)
      · rfl
  owned id a' ha' := by
    rcases Table.find?_modify_cases ha' with ⟨_, ha'⟩ | ⟨rfl, a₀, ha₀, rfl⟩
    · exact h.owned id a' ha'
    · obtain rfl := Option.some.inj (hfind.symm.trans ha₀)
      rw [howner]
      exact h.owned id a hfind

end AddressInv

end Writes

section Addresses

/-- What an address that is to be the default has made way for. -/
theorem cleared_makeWay {dto : CreateCustomerAddressDto} (hset : dto.SetsDefault) (id : Id) :
    ¬(makeWay customerId dto addressType s).DefaultAt customerId addressType id := by
  rw [makeWay, if_pos hset, defaultAt_unset]
  exact fun h => h.2 ⟨rfl, rfl⟩

theorem AddressInv.addAddress (dto : CreateCustomerAddressDto) (h : AddressInv s) :
    AddressInv (addAddress tenantId customerId dto s).2 := by
  refine Handler.Ensures.snd (P := AddressInv) ?_ h
  refine Handler.Ensures.bind (Q := fun _ s => AddressInv s ∧ customerId < s.customers.next)
    (Handler.Ensures.read (fun _ _ hs hok => ⟨hs, verified_lt hok⟩) fun _ _ hs _ => hs) fun _ => ?_
  refine Handler.Ensures.bind (Q := fun _ s =>
      (AddressInv s ∧ customerId < s.customers.next) ∧ (dto.SetsDefault →
        ∀ id, ¬s.DefaultAt customerId (dto.addressType.orElse .both) id))
    (Handler.Ensures.write fun s hs => ?_) fun _ => ?_
  · rw [customers_makeWay]
    exact ⟨⟨hs.1.makeWay _ dto _, hs.2⟩, fun hset id => cleared_makeWay hset id⟩
  · refine Handler.Ensures.atomically (fun s _ s' hs hok => ?_) fun _ _ hs _ => hs.1.1
    obtain ⟨a, hrow, hok⟩ := Except.bind_eq_ok_iff.mp hok
    obtain rfl := congrArg Prod.snd (Except.ok.inj hok)
    obtain ⟨_, rfl⟩ := (row_eq_ok_iff dto a).mp hrow
    exact hs.1.1.insert hs.1.2 fun hdefault => hs.2 (newRow_isDefault_iff.mp hdefault)

theorem AddressInv.removeAddress (h : AddressInv s) :
    AddressInv (removeAddress tenantId customerId addressId s).2 := by
  refine Handler.Ensures.snd (P := AddressInv) ?_ h
  refine Handler.Ensures.bind (Q := fun _ => AddressInv)
    (Handler.Ensures.read (fun _ _ hs _ => hs) fun _ _ hs _ => hs) fun _ => ?_
  refine Handler.Ensures.bind (Q := fun _ => AddressInv)
    (Handler.Ensures.read (fun _ _ hs _ => hs) fun _ _ hs _ => hs) fun _ => ?_
  refine Handler.Ensures.write fun s hs => ⟨fun c t id id' hid hid' => ?_, fun id a ha => ?_⟩
  · exact hs.one c t id id' (Table.find?_of_find?_deleteWhere hid).1
      (Table.find?_of_find?_deleteWhere hid').1
  · exact hs.owned id a (Table.find?_of_find?_deleteWhere ha).1

theorem AddressInv.remove (h : AddressInv s) (now : ℕ) :
    AddressInv (remove now tenantId customerId s).2 := by
  refine Handler.Ensures.snd (P := AddressInv) ?_ h
  refine Handler.Ensures.bind (Q := fun _ => AddressInv)
    (Handler.Ensures.read (fun _ _ hs _ => hs) fun _ _ hs _ => hs) fun _ => ?_
  exact Handler.Ensures.write fun s hs => ⟨hs.one, hs.owned⟩

theorem AddressInv.setDefaultAddress (h : AddressInv s) :
    AddressInv (setDefaultAddress tenantId customerId addressId s).2 := by
  refine Handler.Ensures.snd (P := AddressInv) ?_ h
  refine Handler.Ensures.bind (Q := fun _ => AddressInv)
    (Handler.Ensures.read (fun _ _ hs _ => hs) fun _ _ hs _ => hs) fun _ => ?_
  refine Handler.Ensures.bind
    (Q := fun a s => AddressInv s ∧ s.addresses.find? addressId = some a ∧
      a.customerId = customerId)
    (Handler.Ensures.read (fun _ _ hs hok => ⟨hs, getAddressOrThrow_ok hok⟩) fun _ _ hs _ => hs)
    fun a => ?_
  refine Handler.Ensures.bind
    (Q := fun _ s => AddressInv s ∧ (∃ isDefault, s.addresses.find? addressId =
        some ⟨a.addressType, isDefault, customerId⟩) ∧
      ∀ id, ¬s.DefaultAt customerId a.addressType id)
    (Handler.Ensures.write fun s hs => ?_) fun _ => ?_
  · obtain ⟨hinv, hfind, rfl⟩ := hs
    exact ⟨hinv.unset _ _, find?_unset hfind, fun id hid => (defaultAt_unset.mp hid).2 ⟨rfl, rfl⟩⟩
  · refine Handler.Ensures.write fun s hs => ?_
    obtain ⟨hinv, ⟨isDefault, hfind⟩, hcleared⟩ := hs
    exact hinv.modify hfind rfl fun _ id _ => hcleared id

theorem AddressInv.updateAddress {dto : UpdateCustomerAddressDto} (h : AddressInv s)
    (hkeeps : verifyCustomerExists tenantId customerId s = .ok ⟨⟩ →
      UpdateKeeps customerId addressId dto s) :
    AddressInv (updateAddress tenantId customerId addressId dto s).2 := by
  refine Handler.Ensures.snd (P := fun s => AddressInv s ∧
    (verifyCustomerExists tenantId customerId s = .ok ⟨⟩ →
      UpdateKeeps customerId addressId dto s)) ?_ ⟨h, hkeeps⟩
  refine Handler.Ensures.bind
    (Q := fun _ s => AddressInv s ∧ UpdateKeeps customerId addressId dto s)
    (Handler.Ensures.read (fun _ _ hs hok => ⟨hs.1, hs.2 hok⟩) fun _ _ hs _ => hs.1) fun _ => ?_
  refine Handler.Ensures.bind
    (Q := fun a s => (AddressInv s ∧ UpdateKeeps customerId addressId dto s) ∧
      s.addresses.find? addressId = some a ∧ a.customerId = customerId)
    (Handler.Ensures.read (fun _ _ hs hok => ⟨hs, getAddressOrThrow_ok hok⟩) fun _ _ hs _ => hs.1)
    fun a => ?_
  by_cases hset : dto.SetsDefault
  · -- The kind that the address will have is cleared first.
    refine Handler.Ensures.bind
      (Q := fun _ s => AddressInv s ∧ (∃ isDefault, s.addresses.find? addressId =
          some ⟨a.addressType, isDefault, customerId⟩) ∧
        ∀ id, ¬s.DefaultAt customerId (dto.addressType.orElse a.addressType) id)
      (Handler.Ensures.write fun s hs => ?_) fun _ => ?_
    · obtain ⟨⟨hinv, _⟩, hfind, rfl⟩ := hs
      refine ⟨hinv.makeWay _ dto _, ?_, fun id => cleared_makeWay hset id⟩
      rw [CustomerService.makeWay, if_pos hset]
      exact find?_unset hfind
    · refine Handler.Ensures.atomically (fun s _ s' hs hok => ?_) fun _ _ hs _ => hs.1
      obtain ⟨newType, htype, hok⟩ := Except.bind_eq_ok_iff.mp hok
      obtain ⟨newDefault, _, hok⟩ := Except.bind_eq_ok_iff.mp hok
      obtain rfl := congrArg Prod.snd (Except.ok.inj hok)
      obtain ⟨_, rfl⟩ := written_eq_ok_iff.mp htype
      obtain ⟨hinv, ⟨isDefault, hfind⟩, hcleared⟩ := hs
      exact hinv.modify hfind rfl fun _ id _ => hcleared id
  · -- Nothing is cleared, and the address keeps its flag if it has one afterwards.
    refine Handler.Ensures.bind
      (Q := fun _ s => (AddressInv s ∧ UpdateKeeps customerId addressId dto s) ∧
        s.addresses.find? addressId = some a ∧ a.customerId = customerId)
      (Handler.Ensures.write fun s hs => ?_) fun _ => ?_
    · rw [CustomerService.makeWay, if_neg hset]
      exact hs
    · refine Handler.Ensures.atomically (fun s _ s' hs hok => ?_) fun _ _ hs _ => hs.1.1
      obtain ⟨newType, htype, hok⟩ := Except.bind_eq_ok_iff.mp hok
      obtain ⟨newDefault, hdefault, hok⟩ := Except.bind_eq_ok_iff.mp hok
      obtain rfl := congrArg Prod.snd (Except.ok.inj hok)
      obtain ⟨hnull, rfl⟩ := written_eq_ok_iff.mp htype
      obtain ⟨hnull', rfl⟩ := written_eq_ok_iff.mp hdefault
      obtain ⟨⟨hinv, hkeeps⟩, hfind, rfl⟩ := hs
      refine hinv.modify hfind rfl fun hflag id hne hid => ?_
      obtain ⟨oldType, isDefault, customerId⟩ := a
      have hleft : dto.isDefault = none := by
        rcases hfield : dto.isDefault with _ | _ | flag
        · rfl
        · exact absurd hfield hnull'
        · rw [hfield] at hflag
          obtain rfl : flag = true := hflag
          exact absurd hfield hset
      rw [hleft] at hflag
      obtain rfl : isDefault = true := hflag
      have hsame : ¬s.DefaultAt customerId oldType id := fun hother =>
        hne (hinv.one customerId oldType id addressId hother hfind)
      rcases hfield : dto.addressType with _ | _ | newType
      · rw [hfield] at hid
        exact hsame hid
      · exact hnull hfield
      · rw [hfield] at hid
        by_cases hnew : newType = oldType
        · exact hsame (hnew ▸ hid)
        · exact hkeeps hleft oldType newType hfind hfield hnew id hid

/-- The addresses of a new customer, at most one of each kind a default. -/
theorem AddressInv.insertAll {dtos : List CreateCustomerAddressDto} (h : AddressInv s)
    (hcustomer : customerId < s.customers.next)
    (hnone : ∀ t ∈ defaultTypes dtos, ∀ id, ¬s.DefaultAt customerId t id)
    (hnodup : (defaultTypes dtos).Nodup) :
    AddressInv { s with
      addresses := (dtos.map (CreateCustomerAddressDto.newRow customerId)).foldl Serial.create
        s.addresses } := by
  induction dtos generalizing s with
  | nil => exact h
  | cons dto rest ih =>
    rw [defaultTypes_cons] at hnone hnodup
    have hrest : (defaultTypes rest).Nodup := by
      split at hnodup
      · exact (List.nodup_cons.mp hnodup).2
      · exact hnodup
    refine ih (s := { s with addresses := s.addresses.create (dto.newRow customerId) })
      (h.insert hcustomer fun hflag => hnone _ ?_) hcustomer (fun t ht id hid => ?_) hrest
    · rw [if_pos (newRow_isDefault_iff.mp hflag)]
      exact List.mem_cons_self
    · rcases Serial.find?_create_cases hid with hold | ⟨_, hnew⟩
      · refine hnone t ?_ id hold
        split
        · exact List.mem_cons_of_mem _ ht
        · exact ht
      · -- The row of this turn is a default of the kind, and so is a later one.
        have hset : dto.SetsDefault := newRow_isDefault_iff.mp (congrArg _ hnew).symm
        rw [if_pos hset] at hnodup
        have htype : t = dto.addressType.orElse .both := congrArg CustomerAddress.addressType hnew
        exact (List.nodup_cons.mp hnodup).1 (htype ▸ ht)

/-- Two default addresses of one kind in the body are two in the store. -/
theorem nodup_of_insertAll {dtos : List CreateCustomerAddressDto}
    (h : OneDefault { s with
      addresses := (dtos.map (CreateCustomerAddressDto.newRow customerId)).foldl Serial.create
        s.addresses }) :
    (defaultTypes dtos).Nodup := by
  induction dtos generalizing s with
  | nil => exact List.nodup_nil
  | cons dto rest ih =>
    have hrest := ih (s := { s with
      addresses := s.addresses.create (dto.newRow customerId) }) h
    rw [defaultTypes_cons]
    split
    · next hset =>
      refine List.nodup_cons.mpr ⟨fun hmem => ?_, hrest⟩
      set row := dto.newRow customerId with hrow
      set t := dto.addressType.orElse .both with ht
      -- The address of this turn, and the later one of its kind, which has a larger id.
      have hfirst : (s.addresses.next, (⟨t, true, customerId⟩ : CustomerAddress)) ∈
          ((rest.map (CreateCustomerAddressDto.newRow customerId)).foldl Serial.create
            (s.addresses.create row)).rows := by
        refine Serial.mem_rows_foldl_create _ (List.mem_append_right _ (List.mem_singleton.mpr ?_))
        rw [hrow, newRow_of_setsDefault hset]
      obtain ⟨i, hi, hlater⟩ := List.mem_iff_getElem.mp ((mem_defaultTypes_iff customerId).mp hmem)
      have hsecond : ((s.addresses.create row).next + i,
          (⟨t, true, customerId⟩ : CustomerAddress)) ∈
          ((rest.map (CreateCustomerAddressDto.newRow customerId)).foldl Serial.create
            (s.addresses.create row)).rows := by
        rw [Serial.rows_foldl_create, ← hlater]
        exact List.mem_append_right _ (List.mem_mapIdx.mpr ⟨i, hi, rfl⟩)
      have hids := h customerId t _ _ (Table.find?_of_mem_rows hfirst)
        (Table.find?_of_mem_rows hsecond)
      have hlt : s.addresses.next < (s.addresses.create row).next + i :=
        Nat.lt_add_right i (Nat.lt_succ_self _)
      exact absurd hids hlt.ne
    · exact hrest

/-- A new customer is written exactly if the body and the other customers allow it. -/
theorem insertCustomer_ok_iff {dto : CreateCustomerDto} {r : Id × CustomerStore} :
    validateCustomerData dto = .ok ⟨⟩ ∧ insertCustomer tenantId dto s = .ok r ↔
      dto.Creatable tenantId s ∧ r = (s.customers.next, s.withCustomer tenantId dto) := by
  have hcolumn (size : ℕ) (text : String) : column size text = .ok ⟨⟩ ↔ text.length ≤ size := by
    rw [column]
    split
    · next hle => exact iff_of_true rfl hle
    · next hgt => exact iff_of_false nofun hgt
  constructor
  · rintro ⟨hvalid, h⟩
    obtain ⟨_, htype, h⟩ := Except.bind_eq_ok_iff.mp h
    obtain ⟨addresses, haddresses, h⟩ := Except.bind_eq_ok_iff.mp h
    obtain ⟨_, hphone, h⟩ := Except.bind_eq_ok_iff.mp h
    obtain ⟨_, halternate, h⟩ := Except.bind_eq_ok_iff.mp h
    obtain ⟨_, hunique, h⟩ := Except.bind_eq_ok_iff.mp h
    obtain ⟨hnull, rfl⟩ := (Except.mapM_eq_ok_iff row_eq_ok_iff).mp haddresses
    exact ⟨⟨hvalid, (written_eq_ok_iff.mp htype).1, hnull, (hcolumn _ _).mp hphone,
      (hcolumn _ _).mp halternate, hunique⟩, (Except.ok.inj h).symm⟩
  · rintro ⟨⟨hvalid, htype, hnull, hphone, halternate, hunique⟩, rfl⟩
    refine ⟨hvalid, ?_⟩
    refine Except.bind_eq_ok_iff.mpr ⟨_, written_eq_ok_iff.mpr ⟨htype, rfl⟩, ?_⟩
    refine Except.bind_eq_ok_iff.mpr
      ⟨_, (Except.mapM_eq_ok_iff row_eq_ok_iff).mpr ⟨hnull, rfl⟩, ?_⟩
    refine Except.bind_eq_ok_iff.mpr ⟨_, (hcolumn _ _).mpr hphone, ?_⟩
    refine Except.bind_eq_ok_iff.mpr ⟨_, (hcolumn _ _).mpr halternate, ?_⟩
    exact Except.bind_eq_ok_iff.mpr ⟨_, hunique, rfl⟩

theorem create_of_creatable {dto : CreateCustomerDto} (h : dto.Creatable tenantId s) :
    (CustomerService.create tenantId dto s).2 = s.withCustomer tenantId dto := by
  obtain ⟨hvalid, hinsert⟩ := insertCustomer_ok_iff.mpr ⟨h, rfl⟩
  simp only [CustomerService.create, bind, Handler.read, Handler.atomically, hvalid,
    transaction_of_ok hinsert]

theorem create_of_not_creatable {dto : CreateCustomerDto} (h : ¬dto.Creatable tenantId s) :
    (CustomerService.create tenantId dto s).2 = s := by
  simp only [CustomerService.create, bind, Handler.read, Handler.atomically]
  cases hvalid : validateCustomerData dto with
  | error e => rfl
  | ok _ =>
    cases hinsert : insertCustomer tenantId dto s with
    | error e => exact congrArg Prod.snd (transaction_of_error hinsert)
    | ok r => exact absurd (insertCustomer_ok_iff.mp ⟨hvalid, hinsert⟩).1 h

/-- The addresses of a new customer are all there are of it. -/
theorem AddressInv.withCustomer (h : AddressInv s) {dto : CreateCustomerDto}
    (hnodup : (defaultTypes dto.addresses).Nodup) : AddressInv (s.withCustomer tenantId dto) := by
  have hcustomer : AddressInv
      { s with customers := s.customers.create ⟨dto.phone, dto.email, tenantId, none⟩ } :=
    ⟨h.one, fun id a ha => Nat.lt_succ_of_lt (h.owned id a ha)⟩
  refine hcustomer.insertAll (Nat.lt_succ_self _) (fun t _ id hid => ?_) hnodup
  exact absurd (h.owned id _ hid) (lt_irrefl _)

/-- The second default that an update of the kind makes. -/
theorem not_oneDefault_updateAddress {dto : UpdateCustomerAddressDto}
    (hcustomer : verifyCustomerExists tenantId customerId s = .ok ⟨⟩)
    (hbad : ¬UpdateKeeps customerId addressId dto s) :
    ¬OneDefault (updateAddress tenantId customerId addressId dto s).2 := by
  simp only [UpdateKeeps, not_forall, not_not] at hbad
  obtain ⟨hleft, old, new, hold, hfield, hne, id, hid⟩ := hbad
  have hfound : getAddressOrThrow customerId addressId s = .ok ⟨old, true, customerId⟩ := by
    rw [getAddressOrThrow, hold, Option.filter_some_pos (by simp)]
  have hset : ¬dto.SetsDefault := by
    rw [CreateCustomerAddressDto.SetsDefault, hleft]
    exact nofun
  have hwrite : writeAddress addressId dto s = .ok (⟨⟩, { s with
      addresses := s.addresses.modify addressId fun a => { a with addressType := new } }) := by
    rw [writeAddress, hfield, hleft]
    rfl
  have hafter : (updateAddress tenantId customerId addressId dto s).2 = { s with
      addresses := s.addresses.modify addressId fun a => { a with addressType := new } } := by
    simp only [updateAddress, bind, Handler.read, Handler.write, Handler.atomically, hcustomer,
      hfound, makeWay, if_neg hset]
    exact congrArg Prod.snd (transaction_of_ok hwrite)
  -- Both addresses are now defaults of the kind.
  intro hone
  rw [hafter] at hone
  have hfirst : (s.addresses.modify addressId fun a => { a with addressType := new }).find?
      addressId = some ⟨new, true, customerId⟩ := Serial.find?_modify_of_some hold _
  have hother : id ≠ addressId := by
    rintro rfl
    exact hne (congrArg CustomerAddress.addressType (Option.some.inj (hid.symm.trans hold)))
  have hsecond : (s.addresses.modify addressId fun a => { a with addressType := new }).find?
      id = some ⟨new, true, customerId⟩ := by
    rw [Serial.toTable_modify, Table.find?_modify, if_neg hother]
    exact hid
  exact hother (hone customerId new id addressId hsecond hfirst)

end Addresses

section Runs

/-- A request that makes no second default keeps the invariant. -/
theorem AddressInv.serveCustomer {call : CustomerCall} (h : AddressInv s)
    (hkeeps : KeepsOneDefault s call) : AddressInv (serveCustomer call s) := by
  obtain ⟨tenantId, now, request⟩ := call
  cases request with
  | create dto =>
    show AddressInv (CustomerService.create tenantId dto s).2
    by_cases hcreatable : dto.Creatable tenantId s
    · rw [create_of_creatable hcreatable]
      exact h.withCustomer (hkeeps hcreatable)
    · rw [create_of_not_creatable hcreatable]
      exact h
  | addAddress customerId dto => exact h.addAddress dto
  | updateAddress customerId addressId dto => exact h.updateAddress hkeeps
  | removeAddress customerId addressId => exact h.removeAddress
  | setDefaultAddress customerId addressId => exact h.setDefaultAddress
  | remove id => exact h.remove now

/-- Any other request makes a second default. -/
theorem not_oneDefault_serveCustomer {call : CustomerCall} (hbad : ¬KeepsOneDefault s call) :
    ¬OneDefault (Invetrixa.serveCustomer call s) := by
  obtain ⟨tenantId, now, request⟩ := call
  cases request with
  | create dto =>
    obtain ⟨hcreatable, hrepeated⟩ := Classical.not_imp.mp hbad
    show ¬OneDefault (CustomerService.create tenantId dto s).2
    rw [create_of_creatable hcreatable]
    exact fun hone => hrepeated (nodup_of_insertAll
      (s := { s with customers := s.customers.create ⟨dto.phone, dto.email, tenantId, none⟩ })
      hone)
  | updateAddress customerId addressId dto =>
    obtain ⟨hcustomer, hbad⟩ := Classical.not_imp.mp hbad
    exact not_oneDefault_updateAddress hcustomer hbad
  | addAddress _ _ => exact absurd trivial hbad
  | removeAddress _ _ => exact absurd trivial hbad
  | setDefaultAddress _ _ => exact absurd trivial hbad
  | remove _ => exact absurd trivial hbad

/-- In every run each customer has at most one default address of each kind, exactly if no customer
is created with two and no update gives a default the kind of another one. -/
theorem one_default_iff (hs : AddressInv s) (calls : List CustomerCall) :
    Runs.Always Invetrixa.serveCustomer OneDefault calls s ↔
      Runs.AllMeet Invetrixa.serveCustomer KeepsOneDefault calls s :=
  Runs.always_iff_allMeet (I := AddressInv) (fun _ h => h.one)
    (fun _ _ h _ hkeeps => h.serveCustomer hkeeps)
    (fun _ _ _ _ hbad => not_oneDefault_serveCustomer hbad) hs (Runs.allMeet_true calls)

theorem AddressInv.empty : AddressInv CustomerStore.empty where
  one _ _ _ _ h _ := nomatch h
  owned _ _ h := nomatch h

/-- A default address of a kind. -/
def defaultOf (addressType : AddressType) : CreateCustomerAddressDto :=
  ⟨some (some addressType), some (some true)⟩

/-- A customer with the addresses. -/
def janeWith (addresses : List CreateCustomerAddressDto) : CustomerCall :=
  ⟨0, 0, .create ⟨none, some "Jane", none, none, none, "+123", none, addresses⟩⟩

theorem one_default_iff_jane :
    Runs.Always Invetrixa.serveCustomer OneDefault
      [janeWith [defaultOf .shipping, defaultOf .billing], ⟨0, 1, .addAddress 0 (defaultOf .billing)⟩,
        ⟨0, 2, .setDefaultAddress 0 1⟩] CustomerStore.empty := by
  refine (one_default_iff AddressInv.empty _).mpr ⟨fun _ => ?_, trivial, trivial, trivial⟩
  decide

/-- A customer is created with two defaults of a kind; the default for billing becomes one for
shipping, of which there is one already. -/
theorem two_default_addresses :
    ¬Runs.Always Invetrixa.serveCustomer OneDefault
        [janeWith [defaultOf .shipping, defaultOf .shipping]] CustomerStore.empty ∧
      ¬Runs.Always Invetrixa.serveCustomer OneDefault
        [janeWith [defaultOf .shipping, defaultOf .billing],
          ⟨0, 1, .updateAddress 0 1 ⟨some (some .shipping), none⟩⟩] CustomerStore.empty := by
  constructor
  · intro h
    have htwo := h.last 0 .shipping 0 1 (by unfold CustomerStore.DefaultAt; decide +kernel)
      (by unfold CustomerStore.DefaultAt; decide +kernel)
    cases htwo
  · intro h
    have htwo := h.last 0 .shipping 0 1 (by unfold CustomerStore.DefaultAt; decide +kernel)
      (by unfold CustomerStore.DefaultAt; decide +kernel)
    cases htwo

end Runs

end Invetrixa
