import StorePulse.Backend.Schemas
import StorePulse.Python.Floats
import StorePulse.Simulator.Config

/-!
# The traffic generator

`domain.py`, function by function.  What the random source and `uuid4` give is an
argument (`Draws`); a draw the source cannot give makes a function `none`.  A
payload is the JSON body the backend receives, its identifiers and instants
given by what their texts denote.

The sales ledger is a dict whose keys are the ids of its entries, in insertion
order.  A function that changes an entry in place gives the changed generator.
-/

namespace StorePulse

/-! ## The catalogue -/

/-- `ProductSpec`. -/
structure ProductSpec where
  sku : String
  unitPriceCents : Int

/-- `PRODUCT_CATALOG`. -/
def productCatalog : List ProductSpec := [
  ⟨"COFFEE-001", 899⟩, ⟨"TEA-001", 549⟩, ⟨"MUG-001", 1299⟩, ⟨"BOTTLE-001", 1899⟩,
  ⟨"NOTE-001", 699⟩, ⟨"PEN-001", 599⟩, ⟨"BAG-001", 1499⟩, ⟨"CABLE-001", 1299⟩,
  ⟨"POWER-001", 2499⟩, ⟨"SNACK-001", 249⟩]

/-! ## Events -/

/-- `SaleLedgerEntry`. -/
structure SaleLedgerEntry where
  eventId : UUID
  productSku : String
  unitPriceCents : Int
  occurredAt : Instant
  remainingQuantity : Int
  remainingAmountCents : Int
deriving DecidableEq

/-- The `kind` of an outbound event. -/
inductive EventKind where
  | sale
  | refund
  | duplicate
deriving DecidableEq

/-- `OutboundEvent`. -/
structure OutboundEvent where
  payload : EventBody
  kind : EventKind
  saleEntry : Option SaleLedgerEntry := none
  refundOriginalEventId : Option UUID := none
  reservedQuantity : Int := 0
  reservedAmountCents : Int := 0
  allowDeliberateDuplicate : Bool := true

/-! ## Randomness -/

/-- What the random source and `uuid4` give for one event. -/
structure Draws where
  /-- `random()` in `make_business_event`. -/
  business : Rat
  /-- The index `choice` takes. -/
  choice : Nat
  /-- `randint` for the quantity. -/
  quantity : Int
  /-- `random()` in `_event_time`. -/
  late : Rat
  /-- `randint` for the seconds of a late event. -/
  lateSeconds : Int
  /-- `uuid4()`. -/
  eventId : UUID

/-- `rng.random()`: in `[0, 1)`. -/
def rngRandom (draw : Rat) : Option PyFloat :=
  if 0 ≤ draw ∧ draw < 1 then some (.finite draw) else none

/-- `rng.randint(a, b)`. -/
def rngRandint (a b draw : Int) : Option Int := if a ≤ draw ∧ draw ≤ b then some draw else none

/-! ## The generator -/

/-- `TrafficGenerator`, without its random source. -/
structure TrafficGenerator where
  config : SimulatorConfig
  sales : List SaleLedgerEntry

namespace TrafficGenerator

variable (g : TrafficGenerator)

/-- The entry of a sale. -/
def findSale (eventId : UUID) : Option SaleLedgerEntry :=
  g.sales.find? fun s => s.eventId == eventId

/-- Change the entry of a sale in place. -/
def updateSale (eventId : UUID) (f : SaleLedgerEntry → SaleLedgerEntry) : TrafficGenerator :=
  { g with sales := g.sales.map fun s => if s.eventId = eventId then f s else s }

/-- `_event_time`.  Before `datetime.min` there is no time. -/
def eventTime (now : Instant) (notBefore : Option Instant) (draws : Draws) :
    Option (Except PyError (Instant × Bool)) := do
  let isLate := (← rngRandom draws.late).lt g.config.lateEventRate
  let seconds ← (if isLate then rngRandint 1 g.config.maxLateSeconds draws.lateSeconds
    else some 0 : Option Int)
  let occurredAt := now - seconds * microseconds
  if occurredAt < 0 then return .error .overflowError
  match notBefore with
  | some t => return .ok (if occurredAt < t then t else occurredAt, isLate)
  | none => return .ok (occurredAt, isLate)

/-- `_metadata`. -/
def metadata (isLate : Bool) : JsonObject where
  fields := [("generator", .str "storepulse-pos-v1"), ("late", .bool isLate)]
  distinct := by cases isLate <;> decide

/-- `make_sale`. -/
def makeSale (now : Instant) (draws : Draws) : Option (Except PyError OutboundEvent) := do
  let product ← productCatalog[draws.choice]?
  let quantity ← rngRandint 1 g.config.maxQuantity draws.quantity
  let time ← g.eventTime now none draws
  let eventId := draws.eventId
  let amountCents := product.unitPriceCents * quantity
  return time.map fun (occurredAt, isLate) => {
    payload := {
      eventId := eventId
      storeCode := g.config.storeCode
      productSku := product.sku
      eventType := .sale
      quantity := quantity
      amountCents := amountCents
      occurredAt := occurredAt
      originalEventId := none
      sourceInstance := g.config.instanceLabel
      metadata := some (metadata isLate)
      note := none }
    kind := .sale
    saleEntry := some {
      eventId := eventId
      productSku := product.sku
      unitPriceCents := product.unitPriceCents
      occurredAt := occurredAt
      remainingQuantity := quantity
      remainingAmountCents := amountCents } }

/-- `_refundable_sales`. -/
def refundableSales : List SaleLedgerEntry :=
  g.sales.filter fun sale =>
    sale.remainingQuantity > 0 && sale.remainingAmountCents ≥ sale.unitPriceCents

/-- Take a reserved quantity and amount off an entry. -/
def reserve (quantity amountCents : Int) (sale : SaleLedgerEntry) : SaleLedgerEntry :=
  { sale with
    remainingQuantity := sale.remainingQuantity - quantity
    remainingAmountCents := sale.remainingAmountCents - amountCents }

/-- `make_refund`, when there is a candidate. -/
def makeRefundOf (now : Instant) (draws : Draws) :
    Option (Except PyError (OutboundEvent × TrafficGenerator)) := do
  let original ← g.refundableSales[draws.choice]?
  let quantity ← rngRandint 1 original.remainingQuantity draws.quantity
  let amountCents := original.unitPriceCents * quantity
  let time ← g.eventTime now (some original.occurredAt) draws
  let eventId := draws.eventId
  return time.map fun (occurredAt, isLate) =>
    ({
      payload := {
        eventId := eventId
        storeCode := g.config.storeCode
        productSku := original.productSku
        eventType := .refund
        quantity := quantity
        amountCents := amountCents
        occurredAt := occurredAt
        originalEventId := some original.eventId
        sourceInstance := g.config.instanceLabel
        metadata := some (metadata isLate)
        note := none }
      kind := .refund
      refundOriginalEventId := some original.eventId
      reservedQuantity := quantity
      reservedAmountCents := amountCents },
    g.updateSale original.eventId (reserve quantity amountCents))

/-- `make_refund`. -/
def makeRefund (now : Instant) (draws : Draws) :
    Option (Except PyError (Option OutboundEvent × TrafficGenerator)) :=
  if g.refundableSales.isEmpty then some (.ok (none, g))
  else (g.makeRefundOf now draws).map fun r => r.map fun (event, g') => (some event, g')

/-- `make_business_event`. -/
def makeBusinessEvent (now : Instant) (draws : Draws) :
    Option (Except PyError (OutboundEvent × TrafficGenerator)) :=
  let sale := (g.makeSale now draws).map fun r => r.map fun event => (event, g)
  (rngRandom draws.business).bind fun u =>
    if u.lt g.config.refundRate then
      (g.makeRefund now draws).bind fun
        | .error e => some (.error e)
        | .ok (some refund, g') => some (.ok (refund, g'))
        | .ok (none, _) => sale
    else sale

/-- `commit_delivery`. -/
def commitDelivery (event : OutboundEvent) : TrafficGenerator :=
  match event.kind, event.saleEntry with
  | .sale, some entry =>
      -- `setdefault` keeps an entry that is there
      if (g.findSale entry.eventId).isSome then g else { g with sales := g.sales ++ [entry] }
  | _, _ => g

/-- `rollback_delivery`. -/
def rollbackDelivery (event : OutboundEvent) : TrafficGenerator :=
  match event.kind, event.refundOriginalEventId with
  | .refund, some original =>
      g.updateSale original fun sale => { sale with
        remainingQuantity := sale.remainingQuantity + event.reservedQuantity
        remainingAmountCents := sale.remainingAmountCents + event.reservedAmountCents }
  | _, _ => g

/-- `make_duplicate`. -/
def makeDuplicate (event : OutboundEvent) : OutboundEvent where
  payload := event.payload
  kind := .duplicate
  allowDeliberateDuplicate := false

/-! ## What the functions give -/

variable {g : TrafficGenerator} {now t : Instant} {draws : Draws} {event : OutboundEvent}

/-- An event is not later than it was generated, and not before `notBefore`. -/
theorem eventTime_ok {notBefore : Option Instant} {late : Bool}
    (h : g.eventTime now notBefore draws = some (.ok (t, late))) :
    (∀ b, notBefore = some b → b ≤ t ∧ t ≤ max now b) ∧ (notBefore = none → t ≤ now) := by
  simp only [eventTime, Option.bind_eq_bind, Option.bind_eq_some_iff] at h
  obtain ⟨u, _, seconds, hs, h⟩ := h
  have hseconds : 0 ≤ seconds := by
    split at hs
    · simp only [rngRandint] at hs
      split at hs
      · next hr =>
        cases hs
        omega
      · cases hs
    · cases hs
      exact le_rfl
  have hpast : now - seconds * microseconds ≤ now := by
    have hmul : 0 ≤ seconds * microseconds := Int.mul_nonneg hseconds (by decide)
    exact Int.sub_le_self now hmul
  split at h
  · cases h
  · cases notBefore with
    | none =>
        cases h
        exact ⟨nofun, fun _ => hpast⟩
    | some b =>
        cases h
        refine ⟨fun b' hb => ?_, nofun⟩
        cases hb
        split
        · exact ⟨le_rfl, le_max_right _ _⟩
        · next hlate => exact ⟨not_lt.mp hlate, hpast.trans (le_max_left _ _)⟩

end TrafficGenerator

/-- A ledger entry is about a SALE. -/
structure SaleLedgerEntry.Of (entry : SaleLedgerEntry) (sale : OutboundEvent) : Prop where
  kind : sale.kind = .sale
  eventId : entry.eventId = sale.payload.eventId
  productSku : entry.productSku = sale.payload.productSku
  occurredAt : entry.occurredAt = sale.payload.occurredAt
  amount : sale.payload.amountCents = entry.unitPriceCents * sale.payload.quantity
  price : 0 < entry.unitPriceCents

/-- What `make_sale` makes. -/
structure OutboundEvent.IsSale (config : SimulatorConfig) (event : OutboundEvent)
    (entry : SaleLedgerEntry) : Prop where
  about : entry.Of event
  saleEntry : event.saleEntry = some entry
  refunds : event.refundOriginalEventId = none
  remainingQuantity : entry.remainingQuantity = event.payload.quantity
  remainingAmountCents : entry.remainingAmountCents = event.payload.amountCents
  quantity : 1 ≤ event.payload.quantity
  eventType : event.payload.eventType = .sale
  original : event.payload.originalEventId = none
  storeCode : event.payload.storeCode = config.storeCode
  sourceInstance : event.payload.sourceInstance = config.instanceLabel
  metadata : ∃ late, event.payload.metadata = some (TrafficGenerator.metadata late)
  note : event.payload.note = none

/-- What `make_refund` makes of an entry. -/
structure OutboundEvent.IsRefund (config : SimulatorConfig) (event : OutboundEvent)
    (entry : SaleLedgerEntry) : Prop where
  kind : event.kind = .refund
  saleEntry : event.saleEntry = none
  refunds : event.refundOriginalEventId = some entry.eventId
  reservedQuantity : event.reservedQuantity = event.payload.quantity
  reservedAmountCents : event.reservedAmountCents = event.payload.amountCents
  quantity : 1 ≤ event.payload.quantity
  amount : event.payload.amountCents = entry.unitPriceCents * event.payload.quantity
  productSku : event.payload.productSku = entry.productSku
  eventType : event.payload.eventType = .refund
  original : event.payload.originalEventId = some entry.eventId
  storeCode : event.payload.storeCode = config.storeCode
  sourceInstance : event.payload.sourceInstance = config.instanceLabel
  metadata : ∃ late, event.payload.metadata = some (TrafficGenerator.metadata late)
  note : event.payload.note = none

namespace TrafficGenerator

variable {g g' : TrafficGenerator} {now : Instant} {draws : Draws} {event : OutboundEvent}

theorem price_pos {product : ProductSpec} (h : product ∈ productCatalog) :
    0 < product.unitPriceCents := by
  simp only [productCatalog, List.mem_cons, List.not_mem_nil, or_false] at h
  rcases h with rfl | rfl | rfl | rfl | rfl | rfl | rfl | rfl | rfl | rfl <;> decide

theorem rngRandint_some {a b draw n : Int} (h : rngRandint a b draw = some n) : a ≤ n ∧ n ≤ b := by
  rw [rngRandint] at h
  split at h
  · cases h
    assumption
  · cases h

theorem rollbackDelivery_sale (h : event.kind = .sale) : g.rollbackDelivery event = g := by
  rw [rollbackDelivery, h]

theorem rollbackDelivery_refund {original : UUID} (h : event.kind = .refund)
    (ho : event.refundOriginalEventId = some original) :
    g.rollbackDelivery event = g.updateSale original fun sale => { sale with
      remainingQuantity := sale.remainingQuantity + event.reservedQuantity
      remainingAmountCents := sale.remainingAmountCents + event.reservedAmountCents } := by
  rw [rollbackDelivery, h, ho]

theorem rollbackDelivery_config : (g.rollbackDelivery event).config = g.config := by
  rw [rollbackDelivery]
  split <;> rfl

theorem commitDelivery_refund (h : event.kind = .refund) : g.commitDelivery event = g := by
  rw [commitDelivery, h]

theorem commitDelivery_sale {entry : SaleLedgerEntry} (h : event.kind = .sale)
    (he : event.saleEntry = some entry) :
    g.commitDelivery event =
      if (g.findSale entry.eventId).isSome then g else { g with sales := g.sales ++ [entry] } := by
  rw [commitDelivery, h, he]

theorem commitDelivery_config : (g.commitDelivery event).config = g.config := by
  rw [commitDelivery]
  split
  · split <;> rfl
  · rfl

theorem makeSale_ok (h : g.makeSale now draws = some (.ok event)) :
    ∃ entry, event.IsSale g.config entry ∧ event.payload.occurredAt ≤ now ∧
      event.payload.eventId = draws.eventId := by
  simp only [makeSale, Option.bind_eq_bind, Option.bind_eq_some_iff, Option.pure_def,
    Option.some.injEq] at h
  obtain ⟨product, hp, quantity, hq, time, ht, h⟩ := h
  cases time with
  | error e => cases h
  | ok time =>
      obtain ⟨t, late⟩ := time
      cases h
      refine ⟨_, ⟨⟨rfl, rfl, rfl, rfl, rfl, ?_⟩, rfl, rfl, rfl, rfl, (rngRandint_some hq).1, rfl,
        rfl, rfl, rfl, ⟨late, rfl⟩, rfl⟩, (eventTime_ok ht).2 rfl, rfl⟩
      exact price_pos (List.mem_of_getElem? hp)

theorem makeRefundOf_ok (h : g.makeRefundOf now draws = some (.ok (event, g'))) :
    ∃ entry ∈ g.refundableSales, event.IsRefund g.config entry ∧
      event.payload.quantity ≤ entry.remainingQuantity ∧
      entry.occurredAt ≤ event.payload.occurredAt ∧
      event.payload.occurredAt ≤ max now entry.occurredAt ∧
      event.payload.eventId = draws.eventId ∧
      g' = g.updateSale entry.eventId
        (reserve event.payload.quantity event.payload.amountCents) := by
  simp only [makeRefundOf, Option.bind_eq_bind, Option.bind_eq_some_iff, Option.pure_def,
    Option.some.injEq] at h
  obtain ⟨entry, he, quantity, hq, time, ht, h⟩ := h
  cases time with
  | error e => cases h
  | ok time =>
      obtain ⟨t, late⟩ := time
      cases h
      obtain ⟨hlow, hhigh⟩ := rngRandint_some hq
      obtain ⟨hafter, hbefore⟩ := (eventTime_ok ht).1 _ rfl
      exact ⟨entry, List.mem_of_getElem? he, ⟨rfl, rfl, rfl, rfl, rfl, hlow, rfl, rfl, rfl, rfl,
        rfl, rfl, ⟨late, rfl⟩, rfl⟩, hhigh, hafter, hbefore, rfl, rfl⟩

/-- What `make_business_event` can make. -/
inductive Makes (g : TrafficGenerator) (now : Instant) (draws : Draws) :
    OutboundEvent → TrafficGenerator → Prop where
  | sale {event : OutboundEvent} {entry : SaleLedgerEntry} : event.IsSale g.config entry →
      event.payload.occurredAt ≤ now → event.payload.eventId = draws.eventId →
      Makes g now draws event g
  | refund {event : OutboundEvent} {entry : SaleLedgerEntry} : entry ∈ g.refundableSales →
      event.IsRefund g.config entry → event.payload.quantity ≤ entry.remainingQuantity →
      entry.occurredAt ≤ event.payload.occurredAt →
      event.payload.occurredAt ≤ max now entry.occurredAt →
      event.payload.eventId = draws.eventId →
      Makes g now draws event (g.updateSale entry.eventId
        (reserve event.payload.quantity event.payload.amountCents))

/-- An event has the id `uuid4` gives. -/
theorem eventId_of_makes (h : g.Makes now draws event g') :
    event.payload.eventId = draws.eventId := by
  cases h with
  | sale _ _ hid => exact hid
  | refund _ _ _ _ _ hid => exact hid

/-- An event is made by `make_sale`, or by `make_refund` from a SALE of the ledger. -/
theorem makeBusinessEvent_cases (h : g.makeBusinessEvent now draws = some (.ok (event, g'))) :
    (g.makeSale now draws = some (.ok event) ∧ g' = g) ∨
      g.makeRefundOf now draws = some (.ok (event, g')) := by
  have hsale : ((g.makeSale now draws).map fun r => r.map fun event => (event, g)) =
      some (.ok (event, g')) → g.makeSale now draws = some (.ok event) ∧ g' = g := by
    intro hs
    obtain ⟨r, hr, hs⟩ := Option.map_eq_some_iff.mp hs
    cases r with
    | error e => cases hs
    | ok made =>
        cases hs
        exact ⟨hr, rfl⟩
  obtain ⟨u, _, h⟩ := Option.bind_eq_some_iff.mp h
  split at h
  · obtain ⟨made, hm, h⟩ := Option.bind_eq_some_iff.mp h
    rw [makeRefund] at hm
    split at hm
    · cases hm
      exact Or.inl (hsale h)
    · obtain ⟨r, hr, hm⟩ := Option.map_eq_some_iff.mp hm
      subst hm
      cases r with
      | error e => cases h
      | ok made =>
          obtain ⟨refund, reserved⟩ := made
          cases h
          exact Or.inr hr
  · exact Or.inl (hsale h)

theorem makeBusinessEvent_ok (h : g.makeBusinessEvent now draws = some (.ok (event, g'))) :
    g.Makes now draws event g' := by
  rcases makeBusinessEvent_cases h with ⟨hmade, rfl⟩ | hmade
  · obtain ⟨entry, hi, ht, hid⟩ := makeSale_ok hmade
    exact .sale hi ht hid
  · obtain ⟨entry, he, hi, hq, hafter, hbefore, hid, rfl⟩ := makeRefundOf_ok hmade
    exact .refund he hi hq hafter hbefore hid

end TrafficGenerator

end StorePulse
