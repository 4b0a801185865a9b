import StorePulse.Backend.Models
import StorePulse.Python.Text

/-!
# Request bodies

`EventBody` is a JSON body whose members have the types the schema names.
`EventBody.validate` strips and checks it (`PosEventCreateBase` and its two
subclasses), and gives the payload the endpoint receives.  A payload carries
what validation has established, so no later function has to check it again.
-/

namespace StorePulse

/-! ## Payloads -/

/-- The fields common to both events, with the bounds of `Field(...)`. -/
structure PosEventCreateBase where
  eventId : UUID
  storeCode : String
  productSku : String
  quantity : Int
  amountCents : Int
  occurredAt : Instant
  sourceInstance : String
  metadata : Option JsonObject
  note : Option String
  storeCode_length : 1 ≤ storeCode.length ∧ storeCode.length ≤ 40
  productSku_length : 1 ≤ productSku.length ∧ productSku.length ≤ 64
  quantity_pos : 0 < quantity
  amountCents_pos : 0 < amountCents
  sourceInstance_length : 1 ≤ sourceInstance.length ∧ sourceInstance.length ≤ 120

/-- The payload of a SALE. -/
structure SaleEventCreate extends PosEventCreateBase

/-- The payload of a REFUND. -/
structure RefundEventCreate extends PosEventCreateBase where
  originalEventId : UUID

/-- `SaleEventCreate | RefundEventCreate`, told apart by `event_type`. -/
inductive EventCreate where
  | sale (payload : SaleEventCreate)
  | refund (payload : RefundEventCreate)

namespace EventCreate

/-- The common fields. -/
def base : EventCreate → PosEventCreateBase
  | .sale p => p.toPosEventCreateBase
  | .refund p => p.toPosEventCreateBase

/-- `payload.event_type`. -/
def eventType : EventCreate → EventType
  | .sale _ => .sale
  | .refund _ => .refund

/-- `payload.event_id`. -/
def eventId (p : EventCreate) : UUID := p.base.eventId

/-- `payload.store_code`. -/
def storeCode (p : EventCreate) : String := p.base.storeCode

/-- `payload.product_sku`. -/
def productSku (p : EventCreate) : String := p.base.productSku

end EventCreate

/-- `_payload_original_event_id`. -/
def payloadOriginalEventId : EventCreate → Option UUID
  | .sale _ => none
  | .refund p => some p.originalEventId

/-! ## Validation -/

/-- `str_strip_whitespace`. -/
def strip (s : String) : String :=
  String.ofList (((s.toList.dropWhile isWhitespace).reverse.dropWhile isWhitespace).reverse)

/-- A JSON body of `POST /api/v1/events`. -/
structure EventBody where
  eventId : UUID
  storeCode : String
  productSku : String
  eventType : EventType
  quantity : Int
  amountCents : Int
  occurredAt : Instant
  originalEventId : Option UUID
  sourceInstance : String
  metadata : Option JsonObject
  note : Option String

/-- The common fields, stripped and checked.  The keys of the metadata are strings of the schema and
are stripped too; its values are not. -/
def EventBody.validateBase (b : EventBody) : Option PosEventCreateBase :=
  if h : (1 ≤ (strip b.storeCode).length ∧ (strip b.storeCode).length ≤ 40) ∧
      (1 ≤ (strip b.productSku).length ∧ (strip b.productSku).length ≤ 64) ∧
      0 < b.quantity ∧ 0 < b.amountCents ∧
      (1 ≤ (strip b.sourceInstance).length ∧ (strip b.sourceInstance).length ≤ 120) then
    some {
      eventId := b.eventId
      storeCode := strip b.storeCode
      productSku := strip b.productSku
      quantity := b.quantity
      amountCents := b.amountCents
      occurredAt := b.occurredAt
      sourceInstance := strip b.sourceInstance
      metadata := b.metadata.map (JsonObject.mapKeys strip)
      note := b.note.map strip
      storeCode_length := h.1
      productSku_length := h.2.1
      quantity_pos := h.2.2.1
      amountCents_pos := h.2.2.2.1
      sourceInstance_length := h.2.2.2.2 }
  else none

/-- Of two keys that are stripped to one, the later gives the value. -/
example :
    (JsonObject.mapKeys strip ⟨[("a ", .null), ("b", .null), (" a", .bool true)], rfl⟩).fields.map
      (fun f => (f.1, f.2.number?)) = [("a", some (.finite 1)), ("b", none)] := by decide +kernel

/-- The payload of a body.  A SALE with `original_event_id` has an extra field, a
REFUND without it lacks one; both are refused. -/
def EventBody.validate (b : EventBody) : Option EventCreate :=
  match b.eventType, b.originalEventId with
  | .sale, none => b.validateBase.map fun p => .sale { p with }
  | .refund, some original =>
      b.validateBase.map fun p => .refund { p with originalEventId := original }
  | _, _ => none

/-- The common fields of a payload are those of the body, its strings stripped. -/
structure EventBody.Gives (b : EventBody) (p : PosEventCreateBase) : Prop where
  eventId : p.eventId = b.eventId
  storeCode : p.storeCode = strip b.storeCode
  productSku : p.productSku = strip b.productSku
  quantity : p.quantity = b.quantity
  amountCents : p.amountCents = b.amountCents
  occurredAt : p.occurredAt = b.occurredAt
  sourceInstance : p.sourceInstance = strip b.sourceInstance
  metadata : p.metadata = b.metadata.map (JsonObject.mapKeys strip)
  note : p.note = b.note.map strip

theorem EventBody.validateBase_some {b : EventBody} {p : PosEventCreateBase}
    (h : b.validateBase = some p) : b.Gives p := by
  rw [validateBase] at h
  split at h
  · cases h
    exact ⟨rfl, rfl, rfl, rfl, rfl, rfl, rfl, rfl, rfl⟩
  · cases h

/-- What validation keeps of a body. -/
theorem EventBody.validate_some {b : EventBody} {p : EventCreate} (h : b.validate = some p) :
    b.Gives p.base ∧ p.eventType = b.eventType ∧ payloadOriginalEventId p = b.originalEventId := by
  rw [validate] at h
  split at h
  · next ht ho =>
    obtain ⟨q, hq, rfl⟩ := Option.map_eq_some_iff.mp h
    exact ⟨validateBase_some hq, ht.symm, ho.symm⟩
  · next original ht ho =>
    obtain ⟨q, hq, rfl⟩ := Option.map_eq_some_iff.mp h
    exact ⟨validateBase_some hq, ht.symm, ho.symm⟩
  · cases h

/-- The body of a REFUND whose common fields are accepted. -/
theorem EventBody.validate_refund {b : EventBody} {p : PosEventCreateBase} {original : UUID}
    (ht : b.eventType = .refund) (ho : b.originalEventId = some original)
    (hb : b.validateBase = some p) :
    b.validate = some (.refund { p with originalEventId := original }) := by
  rw [validate, ht, ho, hb]
  rfl

theorem EventBody.validate_eventId {b : EventBody} {p : EventCreate} (h : b.validate = some p) :
    p.eventId = b.eventId := (validate_some h).1.eventId

end StorePulse
