import StorePulse.Simulator.Accounting

/-!
# What the generator sells

Every event is about a product of `PRODUCT_CATALOG` at its price, and about at
most `MAX_QUANTITY` pieces of it (`Reachable.sells`).  A REFUND takes over the
product and the price of its SALE, which the ledger keeps.
-/

namespace StorePulse

/-- An event sells a product of the catalogue, or takes it back. -/
structure OutboundEvent.Sells (config : SimulatorConfig) (event : OutboundEvent) : Prop where
  product : ∃ product ∈ productCatalog, event.payload.productSku = product.sku ∧
    event.payload.amountCents = product.unitPriceCents * event.payload.quantity
  quantity : 1 ≤ event.payload.quantity ∧ event.payload.quantity ≤ config.maxQuantity
  occurredAt : 0 ≤ event.payload.occurredAt

namespace TrafficGenerator

variable {g g' : TrafficGenerator} {now t : Instant} {draws : Draws} {event : OutboundEvent}

/-- No time is before `datetime.min`. -/
theorem eventTime_nonneg {late : Bool} (h : g.eventTime now none draws = some (.ok (t, late))) :
    0 ≤ t := by
  simp only [eventTime, Option.bind_eq_bind, Option.bind_eq_some_iff] at h
  obtain ⟨_, _, _, _, h⟩ := h
  split at h
  · cases h
  · next hpast =>
    cases h
    exact not_lt.mp hpast

theorem makeSale_sells (h : g.makeSale now draws = some (.ok event)) : event.Sells g.config := by
  simp only [makeSale, Option.bind_eq_bind, Option.bind_eq_some_iff, Option.pure_def,
    Option.some.injEq] at h
  obtain ⟨product, hp, quantity, hq, time, ht, h⟩ := h
  cases time with
  | error e => cases h
  | ok time =>
      obtain ⟨t, late⟩ := time
      cases h
      exact ⟨⟨product, List.mem_of_getElem? hp, rfl, rfl⟩, rngRandint_some hq, eventTime_nonneg ht⟩

/-- A SALE comes from `make_sale`. -/
theorem makeBusinessEvent_sells (h : g.makeBusinessEvent now draws = some (.ok (event, g')))
    (hkind : event.kind = .sale) : event.Sells g.config := by
  rcases makeBusinessEvent_cases h with ⟨hmade, _⟩ | hmade
  · exact makeSale_sells hmade
  · obtain ⟨_, _, hi, _⟩ := makeRefundOf_ok hmade
    rw [hi.kind] at hkind
    cases hkind

theorem makeBusinessEvent_config (h : g.makeBusinessEvent now draws = some (.ok (event, g'))) :
    g'.config = g.config := by
  cases makeBusinessEvent_ok h with
  | sale => rfl
  | refund => rfl

end TrafficGenerator

namespace Simulator

variable {s s' : Simulator} {event : OutboundEvent} {config : SimulatorConfig}

/-- No step changes the configuration. -/
theorem config_of_step {l : SimulatorLabel} (hs : s.step l = some s') : s'.config = s.config := by
  have hput : ∀ (t : Simulator) event, (t.put event).config = t.config := by
    intro t event
    rw [put]
    split <;> rfl
  cases step_cases hs with
  | generate _ hmade => exact (hput _ _).trans (TrafficGenerator.makeBusinessEvent_config hmade)
  | put => exact hput _ _
  | deliveryFails => exact TrafficGenerator.rollbackDelivery_config
  | deliveryReplays | deliveryEnds => exact TrafficGenerator.commitDelivery_config
  | generateFails | get | deliverySleeps | deliveryEscapes | replaySleeps | replayEscapes
  | replayFails | replaySucceeds | wakeDelivery | wakeReplay => rfl

/-- The configuration is the one the producer was started with, for its host. -/
theorem Reachable.config_eq (h : s.Reachable config) :
    ∃ hostname, s.config = config.effective hostname := by
  obtain ⟨hostname, clock, hr⟩ := h
  exact ⟨hostname, hr.invariant (I := fun s => s.config = config.effective hostname) rfl
    fun _ _ _ _ ht hs => (config_of_step hs).trans ht⟩

/-- A REFUND of a SALE of the catalogue sells the same product. -/
theorem Reachable.refund_sells {entry : SaleLedgerEntry} (h : s.Reachable config)
    (hsales : ∀ e now, .generated e now ∈ s.log → e.Sells s.config)
    (hentry : entry ∈ s.generator.sales) (hi : event.IsRefund s.config entry)
    (hquantity : event.payload.quantity ≤ entry.remainingQuantity)
    (hafter : entry.occurredAt ≤ event.payload.occurredAt) : event.Sells s.config := by
  obtain ⟨hrec, hbal⟩ := h.balanced
  obtain ⟨sale, hsale, hof, hsum⟩ := (hbal.accounts entry hentry).sale
  obtain ⟨now, hg⟩ := hrec.deliveries sale hsale
  obtain ⟨⟨product, hproduct, hsku, hamount⟩, ⟨hone, hmax⟩, hpast⟩ := hsales sale now hg
  have hprice : entry.unitPriceCents = product.unitPriceCents :=
    Int.eq_of_mul_eq_mul_right (by omega) (hof.amount.symm.trans hamount)
  have hnonneg := Balanced.outstanding_nonneg (S := entry.eventId) hrec
  refine ⟨⟨product, hproduct, ?_, ?_⟩, ⟨hi.quantity, by omega⟩, ?_⟩
  · rw [hi.productSku, hof.productSku, hsku]
  · rw [hi.amount, hprice]
  · exact hpast.trans (hof.occurredAt ▸ hafter)

/-- Every event sells a product of the catalogue. -/
theorem Reachable.sells (h : s.Reachable config) :
    ∀ event now, .generated event now ∈ s.log → event.Sells s.config := by
  obtain ⟨hostname, clock, hr⟩ := h
  refine hr.invariant (I := fun s => ∀ event now, .generated event now ∈ s.log →
    event.Sells s.config) (fun event now hm => (List.not_mem_nil hm).elim) ?_
  intro t l t' ht hsells hs event now hm
  rw [config_of_step hs]
  rcases shows_of_step hs hm with hold | hshows
  · exact hsells event now hold
  · cases hshows with
    | generated hmade =>
        cases TrafficGenerator.makeBusinessEvent_ok hmade with
        | sale hi => exact TrafficGenerator.makeBusinessEvent_sells hmade hi.about.kind
        | refund hentry hi hquantity hafter =>
            have hreach : t.Reachable config := ⟨hostname, clock, ht⟩
            exact hreach.refund_sells hsells (List.mem_filter.mp hentry).1 hi hquantity hafter
    | other _ hne => exact absurd rfl (hne event now)

end Simulator

end StorePulse
