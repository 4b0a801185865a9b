import StorePulse.Deployment.LedgerBound
import StorePulse.Simulator.Assortment
import StorePulse.Stores.Seed

/-!
# A seeded deployment loses nothing

The stores of `docker-compose.yml` are those of the seed, and so are the products
of the generator.  A producer for one of them that retries without a limit, with a
label and a `MAX_QUANTITY` that give bodies the schema admits and values that fit
(`SimulatorConfig.ForSeed`), is refused nothing: for a SALE there is no reason, and
for a REFUND the ledger keeps its promise.  So no delivery fails, and an event is
on its way or stored, or was left behind when an exception ended the producer.
-/

namespace StorePulse

/-! ## Bodies the schema admits -/

/-- Stripping brings in no character. -/
theorem noNul_strip {s : String} (h : noNul s = true) : noNul (strip s) = true := by
  rw [noNul, List.all_eq_true] at h ⊢
  intro c hc
  rw [strip, String.toList_ofList, List.mem_reverse] at hc
  exact h c ((List.dropWhile_sublist _).subset
    (List.mem_reverse.mp ((List.dropWhile_sublist _).subset hc)))

/-- A producer for a store of the seed that retries without a limit.  Its label, with the run and
the host in it, has 1 to 120 characters when it is stripped, and no U+0000, and its amounts fit a
`BIGINT`. -/
structure SimulatorConfig.ForSeed (c : SimulatorConfig) : Prop where
  storeCode : ∃ store ∈ seedStores, c.storeCode = store.code
  instanceLabel : 1 ≤ (strip c.instanceLabel).length ∧ (strip c.instanceLabel).length ≤ 120 ∧
    noNul c.instanceLabel = true
  maxQuantity : ∀ product ∈ productCatalog, product.unitPriceCents * c.maxQuantity ≤ bigintMax
  unlimited : c.maxRetryAttempts = 0

/-- The codes of the seed are stripped and fit. -/
theorem seedStores_code {store : SeedStore} (h : store ∈ seedStores) :
    strip store.code = store.code ∧ (1 ≤ store.code.length ∧ store.code.length ≤ 40) ∧
      noNul store.code = true := by
  have hall : ∀ store : SeedStore, store ∈ seedStores → strip store.code = store.code ∧
      (1 ≤ store.code.length ∧ store.code.length ≤ 40) ∧ noNul store.code = true := by
    decide +kernel
  exact hall store h

/-- So are the SKUs of the generator. -/
theorem productCatalog_sku {product : ProductSpec} (h : product ∈ productCatalog) :
    strip product.sku = product.sku ∧ (1 ≤ product.sku.length ∧ product.sku.length ≤ 64) ∧
      noNul product.sku = true := by
  have hall : ∀ product : ProductSpec, product ∈ productCatalog → strip product.sku = product.sku ∧
      (1 ≤ product.sku.length ∧ product.sku.length ≤ 64) ∧ noNul product.sku = true := by
    decide +kernel
  exact hall product h

/-- A body whose common fields are accepted, and which names an original exactly for a REFUND. -/
theorem EventBody.validate_of_base {b : EventBody} {p : PosEventCreateBase}
    (hb : b.validateBase = some p)
    (hshape : (b.eventType = .sale ∧ b.originalEventId = none) ∨
      ∃ original, b.eventType = .refund ∧ b.originalEventId = some original) :
    ∃ q, b.validate = some q ∧ q.base = p := by
  rcases hshape with ⟨ht, ho⟩ | ⟨original, ht, ho⟩
  · exact ⟨.sale { p with }, by rw [validate, ht, ho, hb]; rfl, rfl⟩
  · exact ⟨_, validate_refund ht ho hb, rfl⟩

namespace OutboundEvent

variable {config : SimulatorConfig} {event : OutboundEvent} {now : Instant}
  {before : List SimulatorEntry}

/-- The schema admits what the generator makes, and the values fit their columns. -/
theorem Sells.admitted (h : event.Sells config) (hc : config.ForSeed)
    (hmade : Emitted config before now event) :
    ∃ p, event.payload.validate = some p ∧
      (∃ store ∈ seedStores, p.storeCode = store.code) ∧
      (∃ product ∈ productCatalog, p.productSku = product.sku) ∧
      (event.payload.occurredAt ≤ datetimeMax → p.fits = true) := by
  obtain ⟨store, hstore, hcode⟩ := hc.storeCode
  obtain ⟨product, hproduct, hsku, hamount⟩ := h.product
  obtain ⟨hstrip, hlength, hnul⟩ := seedStores_code hstore
  obtain ⟨hstrip', hlength', hnul'⟩ := productCatalog_sku hproduct
  obtain ⟨hone, hmax⟩ := h.quantity
  obtain ⟨hlabel, hlabelMax, hlabelNul⟩ := hc.instanceLabel
  have hprice := TrafficGenerator.price_pos hproduct
  have hcommon : event.payload.storeCode = config.storeCode ∧
      event.payload.sourceInstance = config.instanceLabel ∧
      (∃ late, event.payload.metadata = some (TrafficGenerator.metadata late)) ∧
      event.payload.note = none ∧
      ((event.payload.eventType = .sale ∧ event.payload.originalEventId = none) ∨
        ∃ original, event.payload.eventType = .refund ∧
          event.payload.originalEventId = some original) := by
    cases hmade with
    | sale hi _ =>
        exact ⟨hi.storeCode, hi.sourceInstance, hi.metadata, hi.note,
          Or.inl ⟨hi.eventType, hi.original⟩⟩
    | refund hi _ _ _ _ =>
        exact ⟨hi.storeCode, hi.sourceInstance, hi.metadata, hi.note,
          Or.inr ⟨_, hi.eventType, hi.original⟩⟩
  obtain ⟨hstoreCode, hinstance, ⟨late, hmetadata⟩, hnote, hshape⟩ := hcommon
  have hpositive : 0 < event.payload.amountCents := by
    rw [hamount]
    exact Int.mul_pos hprice (by omega)
  have hbase : ∃ p, event.payload.validateBase = some p := by
    refine ⟨_, dif_pos ?_⟩
    rw [hstoreCode, hcode, hstrip, hsku, hstrip', hinstance]
    exact ⟨hlength, hlength', by omega, hpositive, hlabel, hlabelMax⟩
  obtain ⟨p, hp⟩ := hbase
  have hgives := EventBody.validateBase_some hp
  obtain ⟨q, hq, rfl⟩ := EventBody.validate_of_base hp hshape
  have hqstore : q.base.storeCode = store.code := by
    rw [hgives.storeCode, hstoreCode, hcode, hstrip]
  have hqsku : q.base.productSku = product.sku := by
    rw [hgives.productSku, hsku, hstrip']
  refine ⟨q, hq, ⟨store, hstore, hqstore⟩, ⟨product, hproduct, hqsku⟩, fun ht => ?_⟩
  have hmetadataFits : JsonObject.fits? q.base.metadata = true := by
    rw [hgives.metadata, hmetadata]
    cases late <;> decide +kernel
  have hinstanceFits : q.base.sourceInstance.length ≤ 120 ∧ noNul q.base.sourceInstance = true := by
    rw [hgives.sourceInstance, hinstance]
    exact ⟨hlabelMax, noNul_strip hlabelNul⟩
  have hamountMax : event.payload.amountCents ≤ bigintMax := by
    rw [hamount]
    exact (Int.mul_le_mul_of_nonneg_left hmax hprice.le).trans (hc.maxQuantity product hproduct)
  have hquantityMax : event.payload.quantity ≤ event.payload.amountCents := by
    rw [hamount]
    exact le_mul_of_one_le_left (by omega) hprice
  have hsmall : 0 ≤ bigintMax := by decide
  have hquantityFits : -bigintMax - 1 ≤ event.payload.quantity ∧
      event.payload.quantity ≤ bigintMax := by omega
  have hamountFits : -bigintMax - 1 ≤ event.payload.amountCents ∧
      event.payload.amountCents ≤ bigintMax := by omega
  have htimeFits : 0 ≤ event.payload.occurredAt ∧ event.payload.occurredAt ≤ datetimeMax :=
    ⟨h.occurredAt, ht⟩
  rw [EventCreate.fits, EventCreate.storeCode, EventCreate.productSku, hqstore, hqsku, hnul, hnul',
    EventValues.fitsColumns]
  simp [EventCreate.values, hmetadataFits, hinstanceFits, hgives.quantity, hgives.amountCents,
    hgives.occurredAt, hgives.note, hnote, hquantityFits, hamountFits, htimeFits]

end OutboundEvent

/-- The time of the traffic loop is a `datetime`. -/
def SimulatorEntry.dated : SimulatorEntry → Bool
  | .generated _ now => now ≤ datetimeMax
  | _ => true

/-- The times the producer has read are `datetime`s. -/
def Simulator.Dated (s : Simulator) : Prop := ∀ x ∈ s.log, x.dated = true

theorem Simulator.Dated.le {s : Simulator} {event : OutboundEvent} {now : Instant} (h : s.Dated)
    (hg : .generated event now ∈ s.log) : now ≤ datetimeMax := of_decide_eq_true (h _ hg)

/-- So are the times of its events. -/
theorem Simulator.Recorded.occurred_le {s : Simulator} {event : OutboundEvent} {now : Instant}
    (h : s.Recorded) (hdated : s.Dated) (hg : .generated event now ∈ s.log) :
    event.payload.occurredAt ≤ datetimeMax := by
  cases h.emitted_of_mem hg with
  | sale _ ht => exact ht.trans (hdated.le hg)
  | @refund _ sale _ hsale hof _ ht =>
      obtain ⟨made, hmade⟩ := h.deliveries sale (mem_deliveries.mpr hsale)
      cases h.emitted_of_mem hmade with
      | sale _ hpast =>
          rw [hof.occurredAt] at ht
          exact ht.trans (max_le (hdated.le hg) (hpast.trans (hdated.le hmade)))
      | refund hi _ _ _ _ =>
          have hkind := hof.kind
          rw [hi.kind] at hkind
          cases hkind

/-! ## The catalogue -/

/-- The catalogue has the stores of the seed and the products of the generator. -/
structure Catalogue.Stocked (cat : Catalogue) : Prop where
  stores : ∀ store ∈ seedStores, cat.storeByCode store.code ≠ none
  products : ∀ product ∈ productCatalog, cat.productBySku product.sku ≠ none

variable {cat : Catalogue} {ours : UUID → Bool} {config : SimulatorConfig}

/-- A seed that succeeds completes the tables. -/
theorem Tables.complete_of_seed {now : Instant} {t t' : Tables} (h : seed now t = (.ok (), t')) :
    t'.Complete := by
  rcases Tables.seed_cases now t with ⟨_, hfails⟩ | ⟨_, _, _, hok⟩
  · rw [hfails] at h
    cases h
  · rw [hok] at h
    cases h
    exact Tables.complete_seeded now t

/-- The catalogue of seeded tables. -/
theorem Tables.Complete.stocked {t : Tables} (h : t.Complete)
    (hcat : (cat.stores, cat.products) = t.keys) : cat.Stocked := by
  obtain ⟨hstores, hproducts⟩ := Prod.mk.inj hcat
  have hskus : ∀ product : ProductSpec, product ∈ productCatalog →
      product.sku ∈ seedProducts.map SeedProduct.sku := by decide +kernel
  constructor
  · intro store hstore hnone
    obtain ⟨row, hrow, hcode⟩ := List.mem_map.mp (h.1 store hstore)
    have hne := List.find?_eq_none.mp hnone ⟨row.id, row.code⟩
      (hstores ▸ List.mem_map_of_mem hrow)
    exact hne (beq_iff_eq.mpr hcode)
  · intro product hproduct hnone
    obtain ⟨p, hp, hsku⟩ := List.mem_map.mp (hskus product hproduct)
    obtain ⟨row, hrow, hsku'⟩ := List.mem_map.mp (h.2 p hp)
    have hne := List.find?_eq_none.mp hnone ⟨row.id, row.sku⟩
      (hproducts ▸ List.mem_map_of_mem hrow)
    exact hne (beq_iff_eq.mpr (hsku'.trans hsku))

/-- A refusal has one of the status codes of a refusal, unless a value does not fit. -/
theorem Refuses.statusCode {T : List PosEvent} {p : EventCreate} {x : Exception}
    (h : Refuses cat T p x) : (raiseHttp x).statusCode ∈ refusalStatusCodes ∨ p.fits = false := by
  cases h with
  | unfit hfits => exact Or.inr hfits
  | eventConflict | unknownStore | unknownProduct | originalSaleNotFound | invalidOriginalSale
  | refundReferenceMismatch | refundLimitExceeded =>
      exact Or.inl (by simp [raiseHttp, Answer.statusCode, refusalStatusCodes])

namespace Deployment

variable {s s' : Deployment} {event : OutboundEvent} {now : Instant}

/-- The configuration stays. -/
theorem config_of_step {l : DeploymentLabel} (hs : s.step cat l = some s') :
    s'.simulator.config = s.simulator.config := by
  rcases (step_parts hs).1 with he | ⟨x, hx⟩
  · rw [he]
  · exact Simulator.config_of_step hx

/-- A producer that retries without a limit gives no delivery up. -/
theorem ReachableWithin.careful (hmax : config.maxRetryAttempts = 0)
    (hr : s.ReachableWithin cat config fun s l => s.separates ours l) :
    s.ReachableWithin cat config fun s l => s.careful ours l := by
  obtain ⟨hostname, clock, serverClock, hr⟩ := hr
  refine ⟨hostname, clock, serverClock, hr.invariant
    (I := (deployment cat).ReachesWithin (fun s l => s.careful ours l)
      (.initial config hostname clock serverClock)) .refl fun t l t' ht hcareful hl hs => ?_⟩
  have hreach : t.ReachableWithin cat config fun s l => s.separates ours l :=
    ⟨hostname, clock, serverClock, ht⟩
  obtain ⟨host, hconfig⟩ := hreach.simulator.config_eq
  have hunlimited : t.simulator.config.maxRetryAttempts = 0 := by
    rw [hconfig]
    exact hmax
  refine hcareful.tail ?_ hs
  have hnone : t.exhausts l = none := by
    unfold exhausts
    split
    · split
      · rw [if_neg fun h => h.1 hunlimited]
      · rfl
    · rfl
  show t.careful ours l = true
  rw [Deployment.careful, hl, givesUpSafely, hnone]
  rfl

section Seeded

variable (hr : s.ReachableWithin cat config fun s l => s.separates ours l) (hcat : cat.Stocked)
  (hc : s.simulator.config.ForSeed)

include hr hc

/-- The schema admits every event. -/
theorem ReachableWithin.admitted (hg : .generated event now ∈ s.simulator.log) :
    ∃ p, event.payload.validate = some p ∧
      (∃ store ∈ seedStores, p.storeCode = store.code) ∧
      (∃ product ∈ productCatalog, p.productSku = product.sku) ∧
      (s.simulator.Dated → p.fits = true) := by
  have hrec := hr.simulator.balanced.1
  obtain ⟨p, hvalid, hstore, hproduct, hfits⟩ :=
    (hr.simulator.sells event now hg).admitted hc (hrec.emitted_of_mem hg)
  exact ⟨p, hvalid, hstore, hproduct, fun hdated => hfits (hrec.occurred_le hdated hg)⟩

/-- What a producer for the seed can be told of is in the reserved runs. -/
theorem ReachableWithin.reserved_of_seed : s.Reserved ours := by
  obtain ⟨host, hconfig⟩ := hr.simulator.config_eq
  have hmax : config.maxRetryAttempts = 0 := by
    have h := hc.unlimited
    rw [hconfig] at h
    exact h
  exact (hr.careful hmax).reserved.2

include hcat

/-- No answer to a post refuses. -/
theorem ReachableWithin.not_refused {post i : Nat} {call : Call} {a : Answer}
    (hroute : (post, i) ∈ s.routes) (ha : .answered i call a ∈ s.world.log) :
    a.statusCode ∉ refusalStatusCodes ∧
      (s.simulator.Dated → a.statusCode ∈ [200, 201]) := by
  obtain ⟨hl, _⟩ := hr.separated
  have hreserved := hr.reserved_of_seed hc
  have hi := (hr.world.listed.answered i call a).mp ha
  obtain ⟨body, q, state, hbody, hvalid, hi'⟩ := hl.routed post i hroute
  rw [hi] at hi'
  cases hi'
  obtain ⟨event, now, hg, rfl⟩ := hr.simulator.posted.posts body (List.mem_of_getElem? hbody)
  obtain ⟨q', hvalid', ⟨store, hstore, hcode⟩, ⟨product, hproduct, hsku⟩, hfits⟩ :=
    hr.admitted hc hg
  rw [hvalid] at hvalid'
  cases hvalid'
  obtain ⟨T, T', hspec, hgrows⟩ := hr.world.answer_spec ha
  have hnot : a.statusCode ∉ refusalStatusCodes := by
    by_cases ht : event.payload.eventType = .refund
    · exact hreserved.answers post i _ q _ a hroute hbody ht hi rfl
    have hroot : payloadOriginalEventId q = none := by
      obtain ⟨_, htype, _⟩ := EventBody.validate_some hvalid
      cases q with
      | sale p => rfl
      | refund p => exact absurd htype.symm ht
    have hnames : ∀ {o : UUID}, payloadOriginalEventId q ≠ some o := by
      intro o ho
      rw [hroot] at ho
      cases ho
    cases hspec with
    | accepted =>
        show 201 ∉ refusalStatusCodes
        decide
    | duplicate =>
        show 200 ∉ refusalStatusCodes
        decide
    | refused hx =>
        cases hx with
        | @eventConflict e he hid hdiffers =>
            obtain ⟨q', _, _, hvalid', hw⟩ := hl.row hr.simulator.posted hr.ids_differ hr.world hg
              (hgrows.subset he) (hid.trans (EventBody.validate_eventId hvalid))
              (hreserved.issued event now hg)
            rw [hvalid] at hvalid'
            cases hvalid'
            exact absurd hw.matchesPayload hdiffers
        | unknownStore hnone =>
            rw [hcode] at hnone
            exact absurd hnone (hcat.stores store hstore)
        | unknownProduct hnone =>
            rw [hsku] at hnone
            exact absurd hnone (hcat.products product hproduct)
        | originalSaleNotFound ho => exact absurd ho hnames
        | invalidOriginalSale ho => exact absurd ho hnames
        | refundReferenceMismatch ho => exact absurd ho hnames
        | refundLimitExceeded ho => exact absurd ho hnames
        | unfit => decide
  refine ⟨hnot, fun hdated => ?_⟩
  cases hspec with
  | accepted => exact List.mem_cons_of_mem _ List.mem_cons_self
  | duplicate => exact List.mem_cons_self
  | refused hx =>
      rcases hx.statusCode with hcode | hunfit
      · exact absurd hcode hnot
      · rw [hfits hdated] at hunfit
        cases hunfit

/-- No post of a delivery ends with a permanent error. -/
theorem ReachableWithin.not_permanent {worker attempt n statusCode : Nat} {ending : PostEnding}
    {detail : String} (hworker : s.simulator.workers[worker]? =
      some (.delivering event (.posting attempt n)))
    (hcan : s.canEnd n ending = true) : ending.result.attempt ≠ .permanent statusCode detail := by
  intro hattempt
  obtain ⟨r, hresult, rfl, hsuccess, hretry⟩ := PostResult.attempt_permanent hattempt
  cases ending with
  | transportError => cases hresult
  | intermediary response =>
      cases hresult
      exact hretry (of_decide_eq_true hcan)
  | backend response =>
      cases hresult
      obtain ⟨now, hg⟩ := hr.simulator.balanced.1.pending event
        (Simulator.mem_pending_of_worker hworker)
      have hbody : s.simulator.posts[n]? = some event.payload :=
        hr.simulator.posted.workers _ _ hworker n rfl
      rcases responds_cases hcan with ⟨_, body, hbody', hnone⟩ | ⟨i, call, a, hroute, hi, hsends⟩
      · obtain ⟨p, hvalid, _⟩ := hr.admitted hc hg
        rw [hbody] at hbody'
        cases hbody'
        rw [hvalid] at hnone
        cases hnone
      · have ha := (hr.world.listed.answered i call a).mpr hi
        obtain ⟨_, q, _, _, _, hi'⟩ := hr.separated.1.routed n i hroute
        rw [hi] at hi'
        cases hi'
        obtain ⟨_, _, hspec, _⟩ := hr.world.answer_spec ha
        have hcode := hspec.statusCode
        have hnot := (hr.not_refused hcat hc hroute ha).1
        rw [Answer.sends_statusCode hsends] at hsuccess hretry
        simp only [successStatusCodes, retryableStatusCodes, refusalStatusCodes, List.mem_cons,
          List.not_mem_nil, or_false] at hsuccess hretry hnot hcode
        omega

end Seeded

/-- An event is on its way or delivered. -/
theorem ReachableWithin.held (hcat : cat.Stocked)
    (hr : s.ReachableWithin cat config fun s l => s.separates ours l)
    (hc : s.simulator.config.ForSeed) :
    ∀ event now, .generated event now ∈ s.simulator.log →
      event ∈ s.simulator.pending ∨ event ∈ s.simulator.deliveries := by
  obtain ⟨hostname, clock, serverClock, hrun⟩ := hr
  revert hc
  refine hrun.invariant (I := fun t => t.simulator.config.ForSeed → ∀ event now,
    .generated event now ∈ t.simulator.log →
      event ∈ t.simulator.pending ∨ event ∈ t.simulator.deliveries)
    (fun _ event now hm => (List.not_mem_nil hm).elim)
    fun t l t' ht hheld _ hs hc event now hm => ?_
  have hreach : t.ReachableWithin cat config fun s l => s.separates ours l :=
    ⟨hostname, clock, serverClock, ht⟩
  rw [config_of_step hs] at hc
  cases step_cases hs with
  | producer hlabel hx =>
      rcases Simulator.generated_of_step hx hm with hg | ⟨hpending, _⟩
      · rcases Simulator.held_of_step hx (hheld hc event now hg) with
          hheld | ⟨worker, _, _, result, draw, _, rfl, _⟩
        · exact hheld
        · exact absurd rfl (hlabel worker result draw)
      · exact Or.inl hpending
  | @postEnds worker post ending draw simulator hpost hcan hx =>
      rcases Simulator.generated_of_step hx hm with hg | ⟨hpending, _⟩
      swap
      · exact Or.inl hpending
      rcases Simulator.held_of_step hx (hheld hc event now hg) with
        hheld | ⟨_, attempt, n, _, _, error, he, hworker, ha⟩
      · exact hheld
      · cases he
        have hn : some n = some post := (postOf_eq hworker).symm.trans hpost
        cases hn
        rcases afterAttempt_raised ha with
          ⟨statusCode, detail, hattempt, _⟩ | ⟨_, _, _, hlimited, _⟩
        · exact absurd hattempt (hreach.not_permanent hcat hc hworker hcan)
        · exact absurd hc.unlimited hlimited
  | deliver | lose | backend => exact hheld hc event now hm

/-- So none has failed. -/
theorem ReachableWithin.no_failure (hcat : cat.Stocked)
    (hr : s.ReachableWithin cat config fun s l => s.separates ours l)
    (hc : s.simulator.config.ForSeed) :
    s.simulator.stats.permanentFailures = 0 ∧
      s.simulator.generatedEvents.length =
        s.simulator.pending.length + s.simulator.deliveries.length := by
  have hdistinct : s.simulator.generatedEvents.Nodup :=
    List.Nodup.of_map (fun e => e.payload.eventId) (hr.simulator.issued_eq ▸ hr.ids_differ)
  have hplaces : s.simulator.generatedEvents ⊆
      s.simulator.pending ++ s.simulator.deliveries := by
    intro event he
    obtain ⟨now, hg⟩ := Simulator.generated_of_mem he
    exact List.mem_append.mpr (ReachableWithin.held hcat hr hc event now hg)
  have hle := (List.subperm_of_subset hdistinct hplaces).length_le
  have hcreated := hr.simulator.accounted.places.length_eq
  rw [List.length_append, List.length_append] at hcreated
  rw [List.length_append] at hle
  rw [hr.simulator.counted.failureCount]
  omega

end Deployment

open Deployment

/-- A producer for a store of the seed that retries without a limit loses nothing, in any run with
seeded tables in which the ids of `uuid4` are new and used by nobody else, if its label, stripped,
has 1 to 120 characters and no U+0000 and its amounts fit a `BIGINT`: no delivery fails, every event
is on its way, or left behind by a producer that is down, or its row is stored, and no answer to a
post refuses.  Every answer is a success where the times the producer has read are `datetime`s. -/
theorem seeded_deployment_loses_nothing {t t' : Tables} {now : Instant} {s : Deployment}
    (hseed : seed now t = (.ok (), t')) (hcat : (cat.stores, cat.products) = t'.keys)
    (hr : s.ReachableWithin cat config fun s l => s.separates ours l)
    (hc : s.simulator.config.ForSeed) :
    s.simulator.stats.permanentFailures = 0 ∧
    s.simulator.stats.generatedSales + s.simulator.stats.generatedRefunds =
      s.simulator.onTheirWay.length + s.simulator.leftBehind.length +
        s.simulator.deliveries.length ∧
    (∀ event now, .generated event now ∈ s.simulator.log →
      (event ∈ s.simulator.onTheirWay ∨ event ∈ s.simulator.leftBehind) ∨
        event ∈ s.simulator.deliveries ∧ ∃ p store product row, event.payload.validate = some p ∧
          WrittenFor cat p store product row ∧ row ∈ s.world.db.events.committed ∧
          row.eventId = event.payload.eventId) ∧
    ∀ post i call a, (post, i) ∈ s.routes → .answered i call a ∈ s.world.log →
      a.statusCode ∉ refusalStatusCodes ∧
        (s.simulator.Dated → a.statusCode ∈ [200, 201]) := by
  have hstocked := (Tables.complete_of_seed hseed).stocked hcat
  obtain ⟨hfailures, hcount⟩ := ReachableWithin.no_failure hstocked hr hc
  have hreserved := hr.reserved_of_seed hc
  refine ⟨hfailures, ?_, fun event now hg => ?_,
    fun post i call a hroute ha => hr.not_refused hstocked hc hroute ha⟩
  · rw [← Simulator.length_pending]
    exact hr.simulator.counted.eventCount.trans hcount
  · exact (ReachableWithin.held hstocked hr hc event now hg).imp Simulator.mem_pending.mp
      fun hdelivered => ⟨hdelivered, hreserved.row_of_delivered hr hdelivered⟩

namespace Sample

/-- Tables without a row. -/
def noRows : Tables := ⟨[], [], []⟩

theorem seed_noRows : seed 0 noRows = (.ok (), noRows.seeded 0) ∧ (noRows.seeded 0).Keyed := by
  have hkeyed : noRows.Keyed :=
    ⟨⟨List.nodup_nil, List.nodup_nil⟩, List.nodup_nil, List.nodup_nil⟩
  rcases Tables.seed_cases 0 noRows with
    ⟨⟨_, _, _, hid⟩ | ⟨_, _, _, hid⟩, _⟩ | ⟨_, hstores, hproducts, hok⟩
  · exact absurd hid List.not_mem_nil
  · exact absurd hid List.not_mem_nil
  · exact ⟨hok, hkeyed.seeded hstores hproducts⟩

/-- The catalogue of the seed. -/
def seededShop : Catalogue := (noRows.seeded 0).catalogue seed_noRows.2

/-- A producer for New York that retries without a limit. -/
def seededConfig : SimulatorConfig :=
  { simulatorConfig with storeCode := "MAD-NYC", maxRetryAttempts := 0 }

/-- A SALE is delivered; the first post of a REFUND of it is lost, and the second is stored while
the producer still waits. -/
def seededSteps : List DeploymentLabel :=
  saleDelivery ++ [.producer (.generate 6 (draws 0 2 11)), .producer (.get 0), .lose 1,
    .postEnds 0 .transportError 0, .producer (.wake 0), .deliver 2] ++
  List.replicate 12 (.backend (.run 1))

/-- A run of it in which every client is the producer's. -/
def seededRun (labels : List DeploymentLabel) : Option Deployment :=
  System.runWithin (fun (s : Deployment) l => s.separates (fun _ => true) l = true)
    (deployment seededShop) (.initial seededConfig "host" 0 0) labels

theorem seededRun_reaches {labels : List DeploymentLabel} {s : Deployment}
    (h : seededRun labels = some s) :
    s.ReachableWithin seededShop seededConfig (fun s l => s.separates (fun _ => true) l) ∧
      s.simulator.config.ForSeed := by
  have hr := System.runWithin_reaches h
  have hconfig : s.simulator.config = seededConfig.effective "host" :=
    hr.invariant (I := fun t => t.simulator.config = seededConfig.effective "host") rfl
      fun _ _ _ _ ht _ hs => (config_of_step hs).trans ht
  refine ⟨⟨"host", 0, 0, hr⟩, ?_⟩
  rw [hconfig]
  exact ⟨by decide +kernel, by decide +kernel, by decide +kernel, rfl⟩

end Sample

/-- With a SALE delivered and a REFUND stored, one event is on its way and none has failed. -/
theorem seeded_deployment_loses_nothing_after_loss : ∃ s,
    Sample.seededRun Sample.seededSteps = some s ∧
    s.world.db.events.committed.length = 2 ∧ s.simulator.onTheirWay.length = 1 ∧
    s.simulator.stats.permanentFailures = 0 ∧
    s.simulator.stats.generatedSales + s.simulator.stats.generatedRefunds =
      s.simulator.onTheirWay.length + s.simulator.leftBehind.length +
        s.simulator.deliveries.length := by
  have hrun : ((Sample.seededRun Sample.seededSteps).map fun s =>
      (s.world.db.events.committed.length, s.simulator.onTheirWay.length)) = some (2, 1) := by
    decide +kernel
  obtain ⟨s, hs, he⟩ := Option.map_eq_some_iff.mp hrun
  obtain ⟨hrows, hpending⟩ := Prod.mk.inj he
  obtain ⟨hr, hc⟩ := Sample.seededRun_reaches hs
  obtain ⟨hfailures, hcount, _⟩ :=
    seeded_deployment_loses_nothing Sample.seed_noRows.1 rfl hr hc
  exact ⟨s, hs, hrows, hpending, hfailures, hcount⟩

end StorePulse
