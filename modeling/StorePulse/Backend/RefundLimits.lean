import StorePulse.Backend.Invariant

/-!
# Refunds keep to their sales

The committed events form a sound ledger in every reachable state, so every
committed REFUND names a committed SALE of its store and product, and the
refunds of a SALE stay within its quantity and its amount.
-/

namespace StorePulse

variable {cat : Catalogue} {T : List PosEvent}

/-- A REFUND row names a row it may refund. -/
theorem WellFormed.refund_names_sale (h : WellFormed cat T) {r : PosEvent} (hr : r ∈ T)
    (ht : r.eventType = .refund) :
    ∃ s ∈ T, r.originalEventId = some s.eventId ∧ r.Refundable s := by
  obtain ⟨p, store, product, hw⟩ := h.written r hr
  have ho : r.originalEventId = payloadOriginalEventId p :=
    congrArg EventValues.originalEventId hw.values
  have htype : p.eventType = .refund := (congrArg EventValues.eventType hw.values).symm.trans ht
  cases p with
  | sale p => cases htype
  | refund p =>
      obtain ⟨s, hs, hk, hunder⟩ := h.sound.parents r hr p.originalEventId hw.refunds
      exact ⟨s, hs, by rw [ho, show s.eventId = p.originalEventId from hk]; rfl, hunder⟩

/-- The refunds of a row stay within it, in each measure. -/
theorem WellFormed.refunds_within (h : WellFormed cat T) {s : PosEvent} (hs : s ∈ T)
    (d : Measure) :
    sumOfRefunds (fun e => d.of e.toEventValues) T s.eventId ≤ d.of s.toEventValues := by
  rw [← spent_eq_sumOfRefunds]
  exact h.sound.within s hs d

/-- In every reachable state every REFUND names a SALE of its store and product, and the
refunds of a SALE stay within its quantity and its amount. -/
theorem refunds_keep_to_their_sales {w : World} (h : w.Reachable cat) :
    (∀ r ∈ w.db.events.committed, r.eventType = .refund →
      ∃ s ∈ w.db.events.committed, r.originalEventId = some s.eventId ∧ s.eventType = .sale ∧
        s.storeId = r.storeId ∧ s.productId = r.productId ∧ s.originalEventId = none) ∧
    ∀ s ∈ w.db.events.committed, s.eventType = .sale →
      sumOfRefunds (fun e => e.quantity) w.db.events.committed s.eventId ≤ s.quantity ∧
      sumOfRefunds (fun e => e.amountCents) w.db.events.committed s.eventId ≤ s.amountCents := by
  have hwell := h.ok.consistent.wellFormed
  constructor
  · intro r hr ht
    obtain ⟨s, hs, ho, hunder⟩ := hwell.refund_names_sale hr ht
    exact ⟨s, hs, ho, hunder.sale, hunder.store.symm, hunder.product.symm, hunder.root⟩
  · intro s hs _
    exact ⟨hwell.refunds_within hs .quantity, hwell.refunds_within hs .amountCents⟩

/-! ## A run -/

namespace Sample

/-- One store and one product. -/
def catalogue : Catalogue where
  stores := [⟨1, "POA-CENTRO"⟩]
  products := [⟨2, "COFFEE"⟩]
  store_ids := by decide
  store_codes := by decide
  product_ids := by decide
  product_skus := by decide

/-- The common fields of an event of that store and product. -/
def base (eventId : UUID) (quantity : Nat) (h : 0 < quantity) : PosEventCreateBase where
  eventId := eventId
  storeCode := "POA-CENTRO"
  productSku := "COFFEE"
  quantity := quantity
  amountCents := 100 * quantity
  occurredAt := 5
  sourceInstance := "simulator"
  metadata := none
  note := none
  storeCode_length := by decide
  productSku_length := by decide
  quantity_pos := by omega
  amountCents_pos := by omega
  sourceInstance_length := by decide

theorem three_pieces : 0 < 3 := by decide

/-- The SALE 10, of three pieces. -/
def sale : EventCreate := .sale { base 10 3 (by decide) with }

/-- The row of the SALE 10. -/
def saleRow : PosEvent where
  toEventValues := sale.values ⟨1, "POA-CENTRO"⟩ ⟨2, "COFFEE"⟩
  receivedAt := 0

/-- A REFUND of two pieces of the SALE 10. -/
def refund (eventId : UUID) : EventCreate :=
  .refund { base eventId 2 (by decide) with originalEventId := 10 }

/-- The run of a list of steps from time 0. -/
def run (labels : List Label) : Option World := (server catalogue).run (.initial 0) labels

theorem run_reachable {labels : List Label} {w : World} (h : run labels = some w) :
    w.Reachable catalogue := ⟨0, System.run_reaches h⟩

/-- A SALE from its arrival to its answer. -/
def saleSteps : List Label := .arrive (.event sale) :: List.replicate 9 (.run 0)

/-- The SALE, and later two REFUNDS that together ask for more than it has.  The second
one waits for the lock of the first until that one has committed. -/
def raceSteps : List Label :=
  saleSteps ++ [.tick 1, .arrive (.event (refund 11)), .arrive (.event (refund 12))] ++
  List.replicate 5 (.run 1) ++ List.replicate 4 (.run 2) ++ List.replicate 7 (.run 1) ++
  List.replicate 4 (.run 2)

end Sample

/-- After the race of two REFUNDS one of them is stored, and the sums are within the SALE. -/
theorem refunds_keep_to_their_sales_in_race :
    ∃ w, Sample.run Sample.raceSteps = some w ∧ w.db.events.committed.length = 2 ∧
      ∀ s ∈ w.db.events.committed, s.eventType = .sale →
        sumOfRefunds (fun e => e.quantity) w.db.events.committed s.eventId ≤ s.quantity ∧
        sumOfRefunds (fun e => e.amountCents) w.db.events.committed s.eventId ≤ s.amountCents := by
  have hrun : (Sample.run Sample.raceSteps).isSome = true := by decide +kernel
  have hlen : ((Sample.run Sample.raceSteps).map fun w => w.db.events.committed.length) =
      some 2 := by decide +kernel
  obtain ⟨w, hw⟩ := Option.isSome_iff_exists.mp hrun
  rw [hw] at hlen
  exact ⟨w, hw, Option.some.inj hlen, (refunds_keep_to_their_sales (Sample.run_reachable hw)).2⟩

end StorePulse
