import StorePulse.Foundation.EventLog
import StorePulse.Foundation.Totals
import StorePulse.Simulator.Runtime

/-!
# Refund capacity of the producer

A REFUND takes its quantity off the ledger before it is queued, and gives it back
when its delivery fails.  So the quantity of a delivered SALE is at any time
divided among the ledger, the REFUNDS on their way, and the REFUNDS delivered
(`Simulator.Accounts`).  `Simulator.Balanced` is the invariant that carries this
over every step of the traffic loop and of the workers.
-/

namespace StorePulse

/-! ## Events on their way, and events delivered -/

/-- The event a worker is delivering for the first time. -/
def Worker.inDelivery : Worker → List OutboundEvent
  | .delivering event _ => [event]
  | _ => []

/-- The event of a `commit_delivery`. -/
def SimulatorEntry.delivery? : SimulatorEntry → Option OutboundEvent
  | .committed event => some event
  | _ => none

namespace Simulator

/-- The events in `put`, in the queue, or with a worker in their first delivery. -/
def pending (s : Simulator) : List OutboundEvent :=
  s.putting.toList ++ s.queue ++ s.workers.flatMap Worker.inDelivery

/-- The events on their way. -/
def onTheirWay (s : Simulator) : List OutboundEvent := if s.down then [] else s.pending

/-- The events a producer that is down has left where they were. -/
def leftBehind (s : Simulator) : List OutboundEvent := if s.down then s.pending else []

/-- The events delivered. -/
def deliveries (s : Simulator) : List OutboundEvent := s.log.filterMap SimulatorEntry.delivery?

end Simulator

/-- A weight of an event, if it refunds the SALE `original`. -/
def ofRefund (original : UUID) (f : OutboundEvent → Int) (event : OutboundEvent) : Int :=
  if event.refundOriginalEventId = some original then f event else 0

/-- The total of a weight over the REFUNDS of a SALE. -/
def refundTotal (original : UUID) (f : OutboundEvent → Int) (events : List OutboundEvent) : Int :=
  total (ofRefund original f) events

/-! ## The invariant -/

/-- How an event was generated at the time `now`, after the entries `before`. -/
inductive Emitted (config : SimulatorConfig) (before : List SimulatorEntry) (now : Instant)
    (event : OutboundEvent) : Prop where
  | sale {entry : SaleLedgerEntry} : event.IsSale config entry →
      event.payload.occurredAt ≤ now → Emitted config before now event
  | refund {entry : SaleLedgerEntry} {sale : OutboundEvent} : event.IsRefund config entry →
      .committed sale ∈ before → entry.Of sale → entry.occurredAt ≤ event.payload.occurredAt →
      event.payload.occurredAt ≤ max now entry.occurredAt → Emitted config before now event

/-- An entry of a generated event shows one the generator makes. -/
def SimulatorEntry.Emitted (config : SimulatorConfig) (before : List SimulatorEntry) :
    SimulatorEntry → Prop
  | .generated event now => StorePulse.Emitted config before now event
  | _ => True

/-- A ledger entry with `n` pieces taken off it. -/
def SaleLedgerEntry.take (entry : SaleLedgerEntry) (n : Int) : SaleLedgerEntry :=
  { entry with
    remainingQuantity := entry.remainingQuantity - n
    remainingAmountCents := entry.remainingAmountCents - entry.unitPriceCents * n }

@[simp] theorem SaleLedgerEntry.take_zero (entry : SaleLedgerEntry) : entry.take 0 = entry := by
  simp [SaleLedgerEntry.take]

theorem SaleLedgerEntry.Of.take {entry : SaleLedgerEntry} {sale : OutboundEvent}
    (h : entry.Of sale) (n : Int) : (entry.take n).Of sale :=
  ⟨h.kind, h.eventId, h.productSku, h.occurredAt, h.amount, h.price⟩

namespace Simulator

variable {s s' : Simulator} {event : OutboundEvent} {entry : SaleLedgerEntry} {S : UUID}

/-- The quantity of the REFUNDS of a SALE that are on their way or delivered. -/
def outstanding (s : Simulator) (S : UUID) : Int :=
  refundTotal S OutboundEvent.reservedQuantity s.pending +
    refundTotal S OutboundEvent.reservedQuantity s.deliveries

/-- The account of a delivered SALE. -/
structure Accounts (s : Simulator) (entry : SaleLedgerEntry) : Prop where
  sale : ∃ sale ∈ s.deliveries, entry.Of sale ∧
    entry.remainingQuantity + s.outstanding entry.eventId = sale.payload.quantity
  amount : entry.remainingAmountCents = entry.unitPriceCents * entry.remainingQuantity
  nonneg : 0 ≤ entry.remainingQuantity

/-- The log shows where the events come from. -/
structure Recorded (s : Simulator) : Prop where
  emitted : EachAfter (SimulatorEntry.Emitted s.config) s.log
  pending : ∀ event ∈ s.pending, ∃ now, .generated event now ∈ s.log
  deliveries : ∀ event ∈ s.deliveries, ∃ now, .generated event now ∈ s.log

/-- A REFUND takes off an entry of the ledger, at its unit price. -/
def Charged (s : Simulator) (event : OutboundEvent) : Prop :=
  ∀ S, event.refundOriginalEventId = some S → ∃ entry ∈ s.generator.sales, entry.eventId = S ∧
    event.reservedAmountCents = entry.unitPriceCents * event.reservedQuantity

/-- The ledger accounts for every REFUND. -/
structure Balanced (s : Simulator) : Prop where
  keys : (s.generator.sales.map SaleLedgerEntry.eventId).Nodup
  accounts : ∀ entry ∈ s.generator.sales, s.Accounts entry
  charged : ∀ event, event ∈ s.pending ∨ event ∈ s.deliveries → s.Charged event

/-! ## Records -/

/-- What is in a place is on its way, or left behind. -/
theorem mem_pending : event ∈ s.pending ↔ event ∈ s.onTheirWay ∨ event ∈ s.leftBehind := by
  rw [onTheirWay, leftBehind]
  cases s.down <;> simp

theorem length_pending : s.pending.length = s.onTheirWay.length + s.leftBehind.length := by
  rw [onTheirWay, leftBehind]
  cases s.down <;> simp

theorem mem_deliveries : event ∈ s.deliveries ↔ .committed event ∈ s.log := by
  rw [deliveries, List.mem_filterMap]
  constructor
  · rintro ⟨x, hx, hd⟩
    cases x with
    | committed e => cases hd; exact hx
    | _ => cases hd
  · exact fun hm => ⟨_, hm, rfl⟩

/-- How an event of the log was generated. -/
theorem Recorded.emitted_of_mem {now : Instant} (h : s.Recorded)
    (hm : .generated event now ∈ s.log) : StorePulse.Emitted s.config s.log now event := by
  obtain ⟨a, b, hab⟩ := List.append_of_mem hm
  have hsub : a ⊆ s.log := hab ▸ List.subset_append_left _ _
  have he : StorePulse.Emitted s.config a now event := h.emitted a _ b hab
  cases he with
  | sale hi ht => exact .sale hi ht
  | refund hi hs ho hafter ht => exact .refund hi (hsub hs) ho hafter ht

/-- What a step must show of its entries. -/
theorem Recorded.update {new : List SimulatorEntry} (h : s.Recorded)
    (hconfig : s'.config = s.config) (hlog : s'.log = s.log ++ new)
    (hemitted : EachAfter (SimulatorEntry.Emitted s.config) (s.log ++ new))
    (hpending : ∀ e ∈ s'.pending, e ∈ s.pending ∨ ∃ now, .generated e now ∈ new)
    (hdelivered : ∀ e, .committed e ∈ new → e ∈ s.pending) : s'.Recorded where
  emitted := by rw [hlog, hconfig]; exact hemitted
  pending e he := by
    rw [hlog]
    rcases hpending e he with he | ⟨now, hm⟩
    · obtain ⟨now, hm⟩ := h.pending e he
      exact ⟨now, List.mem_append_left _ hm⟩
    · exact ⟨now, List.mem_append_right _ hm⟩
  deliveries e he := by
    rw [mem_deliveries, hlog, List.mem_append] at he
    rw [hlog]
    rcases he with he | he
    · obtain ⟨now, hm⟩ := h.deliveries e (mem_deliveries.mpr he)
      exact ⟨now, List.mem_append_left _ hm⟩
    · obtain ⟨now, hm⟩ := h.pending e (hdelivered e he)
      exact ⟨now, List.mem_append_left _ hm⟩

/-! ## Accounts -/

/-- A piece taken off an entry is on its way or delivered. -/
theorem Accounts.take {n : Int} (h : s.Accounts entry)
    (hdeliveries : s.deliveries ⊆ s'.deliveries) (hn : n ≤ entry.remainingQuantity)
    (htotal : s'.outstanding entry.eventId = s.outstanding entry.eventId + n) :
    s'.Accounts (entry.take n) where
  sale := by
    obtain ⟨sale, hsale, hof, hsum⟩ := h.sale
    refine ⟨sale, hdeliveries hsale, hof.take n, ?_⟩
    show entry.remainingQuantity - n + s'.outstanding entry.eventId = _
    omega
  amount := by
    show entry.remainingAmountCents - entry.unitPriceCents * n =
      entry.unitPriceCents * (entry.remainingQuantity - n)
    rw [h.amount, Int.mul_sub]
  nonneg := Int.sub_nonneg_of_le hn

/-- What a step must show of the ledger: `n` tells how much it takes off each entry. -/
theorem Balanced.update (h : s.Balanced) (n : UUID → Int)
    (hdeliveries : s.deliveries ⊆ s'.deliveries)
    (hkeys : (s'.generator.sales.map SaleLedgerEntry.eventId).Nodup)
    (hsales : ∀ e' ∈ s'.generator.sales,
      (∃ e ∈ s.generator.sales, e' = e.take (n e.eventId) ∧ n e.eventId ≤ e.remainingQuantity) ∨
      s'.Accounts e')
    (hkept : ∀ e ∈ s.generator.sales, e.take (n e.eventId) ∈ s'.generator.sales)
    (htotal : ∀ e ∈ s.generator.sales,
      s'.outstanding e.eventId = s.outstanding e.eventId + n e.eventId)
    (hcharged : ∀ e, e ∈ s'.pending ∨ e ∈ s'.deliveries →
      (e ∈ s.pending ∨ e ∈ s.deliveries) ∨ s'.Charged e) : s'.Balanced where
  keys := hkeys
  accounts e' he' := by
    rcases hsales e' he' with ⟨e, he, rfl, hn⟩ | ha
    · exact (h.accounts e he).take hdeliveries hn (htotal e he)
    · exact ha
  charged e he := by
    rcases hcharged e he with he | hc
    · intro S hS
      obtain ⟨entry, hentry, hid, hamount⟩ := h.charged e he S hS
      exact ⟨_, hkept entry hentry, hid, hamount⟩
    · exact hc

/-- A step that keeps the ledger. -/
theorem Balanced.sameLedger (h : s.Balanced) (hsales : s'.generator.sales = s.generator.sales)
    (hdeliveries : s.deliveries ⊆ s'.deliveries)
    (htotal : ∀ S, s'.outstanding S = s.outstanding S)
    (hcharged : ∀ e, e ∈ s'.pending ∨ e ∈ s'.deliveries →
      (e ∈ s.pending ∨ e ∈ s.deliveries) ∨ e.refundOriginalEventId = none) : s'.Balanced := by
  refine h.update (fun _ => 0) hdeliveries (hsales ▸ h.keys) (fun e he => ?_)
    (fun e he => ?_) (fun e _ => ?_) fun e he => ?_
  · rw [hsales] at he
    exact Or.inl ⟨e, he, (e.take_zero).symm, (h.accounts e he).nonneg⟩
  · rw [e.take_zero, hsales]
    exact he
  · rw [htotal, add_zero]
  · refine (hcharged e he).imp_right fun hnone S hS => ?_
    rw [hnone] at hS
    cases hS

/-- A step that takes `m` pieces off one entry, or gives them back. -/
theorem Balanced.updateLedger {m : Int} {f : SaleLedgerEntry → SaleLedgerEntry} (h : s.Balanced)
    (hentry : entry ∈ s.generator.sales) (hf : f entry = entry.take m)
    (hgenerator : s'.generator = s.generator.updateSale entry.eventId f)
    (hdeliveries : s.deliveries ⊆ s'.deliveries)
    (hm : m ≤ entry.remainingQuantity)
    (htotal : ∀ S, s'.outstanding S = s.outstanding S + if S = entry.eventId then m else 0)
    (hcharged : ∀ e, e ∈ s'.pending ∨ e ∈ s'.deliveries →
      (e ∈ s.pending ∨ e ∈ s.deliveries) ∨ (e.refundOriginalEventId = some entry.eventId ∧
        e.reservedAmountCents = entry.unitPriceCents * e.reservedQuantity)) : s'.Balanced := by
  have hsales : s'.generator.sales = s.generator.sales.map fun e =>
      e.take (if e.eventId = entry.eventId then m else 0) := by
    rw [hgenerator]
    refine List.map_congr_left fun e he => ?_
    by_cases hid : e.eventId = entry.eventId
    · obtain rfl := List.inj_on_of_nodup_map h.keys he hentry hid
      rw [if_pos rfl, if_pos rfl, hf]
    · rw [if_neg hid, if_neg hid, e.take_zero]
  refine h.update (fun S => if S = entry.eventId then m else 0) hdeliveries ?_
    (fun e' he' => ?_) (fun e he => ?_) (fun e _ => htotal _) fun e he => ?_
  · rw [hsales, List.map_map]
    exact h.keys
  · rw [hsales, List.mem_map] at he'
    obtain ⟨e, he, rfl⟩ := he'
    refine Or.inl ⟨e, he, rfl, ?_⟩
    split
    · next hid =>
      obtain rfl := List.inj_on_of_nodup_map h.keys he hentry hid
      exact hm
    · exact (h.accounts e he).nonneg
  · rw [hsales]
    exact List.mem_map_of_mem he
  · refine (hcharged e he).imp_right fun ⟨hrefunds, hamount⟩ S hS => ?_
    rw [hrefunds] at hS
    cases hS
    refine ⟨entry.take (if entry.eventId = entry.eventId then m else 0), ?_, rfl, hamount⟩
    rw [hsales]
    exact List.mem_map.mpr ⟨entry, hentry, rfl⟩

/-! ## Where the events are -/

theorem refundTotal_snoc {f : OutboundEvent → Int} {xs : List OutboundEvent} :
    refundTotal S f (xs ++ [event]) = refundTotal S f xs + ofRefund S f event := by
  simp [refundTotal]

theorem ofRefund_of_none {f : OutboundEvent → Int} (h : event.refundOriginalEventId = none) :
    ofRefund S f event = 0 := by
  simp [ofRefund, h]

theorem ofRefund_of_some {f : OutboundEvent → Int} {o : UUID}
    (h : event.refundOriginalEventId = some o) :
    ofRefund S f event = if S = o then f event else 0 := by
  simp [ofRefund, h, eq_comm]

/-- An event is added to those on their way. -/
theorem outstanding_add (hpending : s'.pending.Perm (s.pending ++ [event]))
    (hdeliveries : s'.deliveries = s.deliveries) :
    s'.outstanding S = s.outstanding S + ofRefund S OutboundEvent.reservedQuantity event := by
  rw [outstanding, outstanding, refundTotal, total_perm hpending, ← refundTotal, refundTotal_snoc,
    hdeliveries]
  omega

/-- An event on its way is dropped. -/
theorem outstanding_drop (hpending : (s'.pending ++ [event]).Perm s.pending)
    (hdeliveries : s'.deliveries = s.deliveries) :
    s.outstanding S = s'.outstanding S + ofRefund S OutboundEvent.reservedQuantity event :=
  outstanding_add hpending.symm hdeliveries.symm

/-- An event on its way is delivered. -/
theorem outstanding_deliver (hpending : (s'.pending ++ [event]).Perm s.pending)
    (hdeliveries : s'.deliveries = s.deliveries ++ [event]) :
    s'.outstanding S = s.outstanding S := by
  rw [outstanding, outstanding, hdeliveries, refundTotal_snoc]
  have hp : refundTotal S OutboundEvent.reservedQuantity s.pending =
      refundTotal S OutboundEvent.reservedQuantity (s'.pending ++ [event]) :=
    total_perm hpending.symm
  rw [hp, refundTotal_snoc]
  omega

/-- A worker changes what it does. -/
theorem pending_set {i : Nat} {a b : Worker} (hw : s.workers[i]? = some a)
    (hputting : s'.putting = s.putting) (hqueue : s'.queue = s.queue)
    (hworkers : s'.workers = s.workers.set i b) :
    (s'.pending ++ a.inDelivery).Perm (s.pending ++ b.inDelivery) := by
  simp only [pending, hputting, hqueue, hworkers, List.append_assoc]
  exact ((flatMap_set_perm hw).append_left _).append_left _

/-- A worker goes on with what it delivers. -/
theorem pending_same {i : Nat} {a b : Worker} (hw : s.workers[i]? = some a)
    (hputting : s'.putting = s.putting) (hqueue : s'.queue = s.queue)
    (hworkers : s'.workers = s.workers.set i b) (hin : a.inDelivery = b.inDelivery) :
    s'.pending.Perm s.pending := by
  have hp := pending_set hw hputting hqueue hworkers
  rw [hin] at hp
  exact (List.perm_append_right_iff _).mp hp

/-- A worker ends a first delivery. -/
theorem pending_leave {i : Nat} {a b : Worker} (hw : s.workers[i]? = some a)
    (hputting : s'.putting = s.putting) (hqueue : s'.queue = s.queue)
    (hworkers : s'.workers = s.workers.set i b) (ha : a.inDelivery = [event])
    (hb : b.inDelivery = []) : (s'.pending ++ [event]).Perm s.pending := by
  have hp := pending_set hw hputting hqueue hworkers
  rwa [ha, hb, List.append_nil] at hp

/-- `put` with a free place, or without one. -/
theorem pending_put (hputting : s.putting = none) :
    (s.put event).pending.Perm (s.pending ++ [event]) := by
  rw [put]
  split
  · simp only [pending, hputting, Option.toList_some, Option.toList_none, List.nil_append]
    rw [List.append_assoc]
    exact List.perm_append_comm
  · simp only [pending, hputting, Option.toList_none, List.nil_append, List.append_assoc]
    exact List.perm_append_comm.append_left s.queue

/-- `put` comes back. -/
theorem pending_put_back (hputting : s.putting = some event) (hfull : s.full = false) :
    (s.put event).pending.Perm s.pending := by
  rw [put, if_neg (by rw [hfull]; exact Bool.false_ne_true)]
  simp only [pending, hputting, Option.toList_some, Option.toList_none, List.nil_append]
  exact List.perm_append_comm.append_right _

/-- A worker takes the first event of the queue. -/
theorem pending_get {i : Nat} {rest : List OutboundEvent} {state : Nat → Worker}
    (hw : s.workers[i]? = some .waiting) (hqueue : s.queue = event :: rest)
    (hstate : ∀ n, (state n).inDelivery = [event]) :
    ({ s with queue := rest }.post i event.payload state).pending.Perm s.pending := by
  have hset := flatMap_set_perm (g := Worker.inDelivery) (b := state s.posts.length) hw
  rw [hstate] at hset
  simp only [Worker.inDelivery, List.append_nil] at hset
  simp only [pending, post, hqueue, List.append_assoc]
  refine List.Perm.append_left _ ?_
  refine (hset.append_left rest).trans ?_
  rw [← List.append_assoc]
  exact List.perm_append_comm

/-! ## Steps -/

/-- A step that moves no event to another place, or only within those on their way. -/
theorem Balanced.keep (new : List SimulatorEntry) (hrec : s.Recorded) (h : s.Balanced)
    (hgenerator : s'.generator = s.generator)
    (hlog : s'.log = s.log ++ new)
    (hnew : ∀ x ∈ new, x.delivery? = none ∧ ∀ e now, x ≠ .generated e now)
    (hpending : s'.pending.Perm s.pending) : s'.Recorded ∧ s'.Balanced := by
  have hdeliveries : s'.deliveries = s.deliveries := by
    rw [deliveries, hlog, List.filterMap_append,
      List.filterMap_eq_nil_iff.mpr fun x hx => (hnew x hx).1, List.append_nil]
    rfl
  constructor
  · refine hrec.update (congrArg TrafficGenerator.config hgenerator) hlog ?_
      (fun e he => Or.inl (hpending.mem_iff.mp he)) fun e hm => ?_
    · refine hrec.emitted.append_all fun x hx a => ?_
      cases x with
      | generated e now => exact absurd rfl ((hnew _ hx).2 e now)
      | _ => trivial
    · cases (hnew _ hm).1
  · refine h.sameLedger (congrArg TrafficGenerator.sales hgenerator)
      (hdeliveries ▸ List.Subset.refl _) (fun S => ?_) fun e he => Or.inl ?_
    · rw [outstanding, outstanding, hdeliveries, refundTotal, total_perm hpending, ← refundTotal]
    · rwa [hpending.mem_iff, hdeliveries] at he

/-- The traffic loop generates an event. -/
theorem Balanced.generate {g : TrafficGenerator} {now : Instant} {draws : Draws}
    (hrec : s.Recorded) (h : s.Balanced) (hmakes : s.generator.Makes now draws event g)
    (hgenerator : s'.generator = g) (hlog : s'.log = s.log ++ [.generated event now])
    (hpending : s'.pending.Perm (s.pending ++ [event])) : s'.Recorded ∧ s'.Balanced := by
  have hdeliveries : s'.deliveries = s.deliveries := by
    rw [deliveries, hlog, List.filterMap_append]
    exact List.append_nil _
  have hplaces : ∀ e, e ∈ s'.pending ∨ e ∈ s'.deliveries →
      (e ∈ s.pending ∨ e ∈ s.deliveries) ∨ e = event := by
    intro e he
    rw [hpending.mem_iff, List.mem_append, List.mem_singleton, hdeliveries] at he
    tauto
  have hrecord : g.config = s.config → StorePulse.Emitted s.config s.log now event →
      s'.Recorded := by
    intro hconfig he
    refine hrec.update ((congrArg TrafficGenerator.config hgenerator).trans hconfig) hlog
      (hrec.emitted.snoc he) (fun e he => ?_) fun e hm => ?_
    · rw [hpending.mem_iff, List.mem_append, List.mem_singleton] at he
      exact he.imp_right fun he => ⟨now, by rw [he]; exact List.mem_singleton_self _⟩
    · cases List.mem_singleton.mp hm
  cases hmakes with
  | sale hi ht hid =>
      refine ⟨hrecord rfl (.sale hi ht), h.sameLedger (congrArg TrafficGenerator.sales hgenerator)
        (hdeliveries ▸ List.Subset.refl _) (fun S => ?_) fun e he => ?_⟩
      · rw [outstanding_add hpending hdeliveries, ofRefund_of_none hi.refunds, add_zero]
      · refine (hplaces e he).imp_right fun he => ?_
        subst he
        exact hi.refunds
  | @refund entry hrefundable hi hq hafter hbefore hid =>
      have hentry : entry ∈ s.generator.sales := (List.mem_filter.mp hrefundable).1
      have ha := h.accounts entry hentry
      obtain ⟨sale, hsale, hof, _⟩ := ha.sale
      refine ⟨hrecord rfl (.refund hi (mem_deliveries.mp hsale) hof hafter hbefore), ?_⟩
      refine h.updateLedger hentry ?_ hgenerator (hdeliveries ▸ List.Subset.refl _) hq
        (fun S => ?_) fun e he => ?_
      · rw [TrafficGenerator.reserve, SaleLedgerEntry.take, hi.amount]
      · rw [outstanding_add hpending hdeliveries, ofRefund_of_some hi.refunds, hi.reservedQuantity]
      · refine (hplaces e he).imp_right fun he => ?_
        subst he
        exact ⟨hi.refunds, by rw [hi.reservedAmountCents, hi.reservedQuantity, hi.amount]⟩

/-- The first delivery of an event fails. -/
theorem Balanced.fail (new : List SimulatorEntry) (hrec : s.Recorded) (h : s.Balanced)
    (hgenerator : s'.generator = s.generator.rollbackDelivery event)
    (hlog : s'.log = s.log ++ new)
    (hnew : ∀ x ∈ new, x.delivery? = none ∧ ∀ e now, x ≠ .generated e now)
    (hpending : (s'.pending ++ [event]).Perm s.pending) : s'.Recorded ∧ s'.Balanced := by
  have hdeliveries : s'.deliveries = s.deliveries := by
    rw [deliveries, hlog, List.filterMap_append,
      List.filterMap_eq_nil_iff.mpr fun x hx => (hnew x hx).1, List.append_nil]
    rfl
  have hsub : ∀ e, e ∈ s'.pending → e ∈ s.pending := fun e he =>
    hpending.mem_iff.mp (List.mem_append_left _ he)
  have hevent : event ∈ s.pending :=
    hpending.mem_iff.mp (List.mem_append_right _ (List.mem_singleton_self _))
  have hplaces : ∀ e, e ∈ s'.pending ∨ e ∈ s'.deliveries → e ∈ s.pending ∨ e ∈ s.deliveries :=
    fun e he => he.imp (hsub e) fun he => hdeliveries ▸ he
  have hdrop := fun S => outstanding_drop (S := S) hpending hdeliveries
  constructor
  · refine hrec.update ?_ hlog ?_ (fun e he => Or.inl (hsub e he)) fun e hm => ?_
    · show s'.generator.config = s.generator.config
      rw [hgenerator]
      exact TrafficGenerator.rollbackDelivery_config
    · refine hrec.emitted.append_all fun x hx a => ?_
      cases x with
      | generated e now => exact absurd rfl ((hnew _ hx).2 e now)
      | _ => trivial
    · cases (hnew _ hm).1
  · obtain ⟨now, hm⟩ := hrec.pending event hevent
    cases hrec.emitted_of_mem hm with
    | sale hi _ =>
        rw [TrafficGenerator.rollbackDelivery_sale hi.about.kind] at hgenerator
        refine h.sameLedger (congrArg TrafficGenerator.sales hgenerator)
          (hdeliveries ▸ List.Subset.refl _) (fun S => ?_) fun e he => Or.inl (hplaces e he)
        have := hdrop S
        rw [ofRefund_of_none hi.refunds] at this
        omega
    | @refund entry sale hi _ _ _ _ =>
        rw [TrafficGenerator.rollbackDelivery_refund hi.kind hi.refunds] at hgenerator
        obtain ⟨entry', hentry', hid, hamount⟩ := h.charged event (Or.inl hevent) _ hi.refunds
        rw [← hid] at hgenerator
        have hpos : 0 < event.reservedQuantity := by
          have := hi.quantity
          rw [hi.reservedQuantity]
          omega
        refine h.updateLedger (m := -event.reservedQuantity) hentry' ?_ hgenerator
          (hdeliveries ▸ List.Subset.refl _) ?_ (fun S => ?_) fun e he => Or.inl (hplaces e he)
        · rw [SaleLedgerEntry.take, hamount, Int.mul_neg, Int.sub_neg, Int.sub_neg]
        · have := (h.accounts entry' hentry').nonneg
          omega
        · have := hdrop S
          rw [ofRefund_of_some hi.refunds, ← hid] at this
          split at this <;> rename_i hS
          · rw [if_pos hS]
            omega
          · rw [if_neg hS]
            omega

theorem findSale_none {g : TrafficGenerator} (h : (g.findSale S).isSome = false) :
    ∀ e ∈ g.sales, e.eventId ≠ S := by
  intro e he
  rw [TrafficGenerator.findSale, Option.isSome_eq_false_iff, Option.isNone_iff_eq_none,
    List.find?_eq_none] at h
  simpa using h e he

/-- The first delivery of an event succeeds. -/
theorem Balanced.deliver (new : List SimulatorEntry) (hrec : s.Recorded) (h : s.Balanced)
    (hgenerator : s'.generator = s.generator.commitDelivery event)
    (hlog : s'.log = s.log ++ .committed event :: new)
    (hnew : ∀ x ∈ new, x.delivery? = none ∧ ∀ e now, x ≠ .generated e now)
    (hpending : (s'.pending ++ [event]).Perm s.pending) : s'.Recorded ∧ s'.Balanced := by
  have hdeliveries : s'.deliveries = s.deliveries ++ [event] := by
    rw [deliveries, hlog, List.filterMap_append, List.filterMap_cons,
      List.filterMap_eq_nil_iff.mpr fun x hx => (hnew x hx).1]
    rfl
  have hsub : ∀ e, e ∈ s'.pending → e ∈ s.pending := fun e he =>
    hpending.mem_iff.mp (List.mem_append_left _ he)
  have hevent : event ∈ s.pending :=
    hpending.mem_iff.mp (List.mem_append_right _ (List.mem_singleton_self _))
  have hplaces : ∀ e, e ∈ s'.pending ∨ e ∈ s'.deliveries → e ∈ s.pending ∨ e ∈ s.deliveries := by
    rintro e (he | he)
    · exact Or.inl (hsub e he)
    · rw [hdeliveries, List.mem_append, List.mem_singleton] at he
      rcases he with he | rfl
      · exact Or.inr he
      · exact Or.inl hevent
  have hgrow : s.deliveries ⊆ s'.deliveries := hdeliveries ▸ List.subset_append_left _ _
  have htotal := fun S => outstanding_deliver (S := S) hpending hdeliveries
  constructor
  · refine hrec.update ?_ hlog ?_ (fun e he => Or.inl (hsub e he)) fun e hm => ?_
    · show s'.generator.config = s.generator.config
      rw [hgenerator]
      exact TrafficGenerator.commitDelivery_config
    · refine hrec.emitted.append_all fun x hx a => ?_
      rcases List.mem_cons.mp hx with rfl | hx
      · trivial
      · cases x with
        | generated e now => exact absurd rfl ((hnew _ hx).2 e now)
        | _ => trivial
    · rcases List.mem_cons.mp hm with he | hm
      · cases he
        exact hevent
      · cases (hnew _ hm).1
  · obtain ⟨now, hm⟩ := hrec.pending event hevent
    have hsame : s'.generator = s.generator → s'.Balanced := fun hg =>
      h.sameLedger (congrArg TrafficGenerator.sales hg) hgrow htotal
        fun e he => Or.inl (hplaces e he)
    cases hrec.emitted_of_mem hm with
    | refund hi _ _ _ _ =>
        exact hsame (hgenerator.trans (TrafficGenerator.commitDelivery_refund hi.kind))
    | @sale entry hi ht =>
        rw [TrafficGenerator.commitDelivery_sale hi.about.kind hi.saleEntry] at hgenerator
        by_cases hfound : (s.generator.findSale entry.eventId).isSome = true
        · rw [if_pos hfound] at hgenerator
          exact hsame hgenerator
        · rw [if_neg hfound] at hgenerator
          have hfresh := findSale_none (Bool.not_eq_true _ |>.mp hfound)
          have hsales : s'.generator.sales = s.generator.sales ++ [entry] :=
            congrArg TrafficGenerator.sales hgenerator
          -- nothing can refund a SALE that is not in the ledger yet
          have hzero : s'.outstanding entry.eventId = 0 := by
            have hnone : ∀ e, e ∈ s.pending ∨ e ∈ s.deliveries →
                ofRefund entry.eventId OutboundEvent.reservedQuantity e = 0 := by
              intro e he
              rw [ofRefund, if_neg]
              intro ho
              obtain ⟨e', he', hid, _⟩ := h.charged e he _ ho
              exact hfresh e' he' hid
            rw [htotal, outstanding, refundTotal, refundTotal,
              total_eq_zero fun e he => hnone e (Or.inl he),
              total_eq_zero fun e he => hnone e (Or.inr he), add_zero]
          refine h.update (fun _ => 0) hgrow ?_ (fun e he => ?_) (fun e he => ?_)
            (fun e _ => by rw [htotal, add_zero]) fun e he => Or.inl (hplaces e he)
          · rw [hsales, List.map_append, List.nodup_append]
            refine ⟨h.keys, List.nodup_singleton _, fun a ha b hb => ?_⟩
            obtain ⟨e, he, rfl⟩ := List.mem_map.mp ha
            rw [List.mem_singleton.mp hb]
            exact hfresh e he
          · rw [hsales, List.mem_append, List.mem_singleton] at he
            rcases he with he | rfl
            · exact Or.inl ⟨e, he, (e.take_zero).symm, (h.accounts e he).nonneg⟩
            · refine Or.inr ⟨⟨event, ?_, hi.about, ?_⟩, ?_, ?_⟩
              · rw [hdeliveries]
                exact List.mem_append_right _ (List.mem_singleton_self _)
              · rw [hzero, add_zero]
                exact hi.remainingQuantity
              · rw [hi.remainingAmountCents, hi.remainingQuantity]
                exact hi.about.amount
              · rw [hi.remainingQuantity]
                exact (Int.zero_le_ofNat 1).trans hi.quantity
          · rw [e.take_zero, hsales]
            exact List.mem_append_left _ he

/-- Every step keeps the invariant. -/
theorem Balanced.step {l : SimulatorLabel} (hrec : s.Recorded) (h : s.Balanced)
    (hs : s.step l = some s') : s'.Recorded ∧ s'.Balanced := by
  have hempty : ∀ x ∈ ([] : List SimulatorEntry), x.delivery? = none ∧
      ∀ e now, x ≠ SimulatorEntry.generated e now := fun x hx => by cases hx
  have hdone : ∀ event, ∀ x ∈ [SimulatorEntry.taskDone event], x.delivery? = none ∧
      ∀ e now, x ≠ SimulatorEntry.generated e now := by simp [SimulatorEntry.delivery?]
  have hsame : ∀ {t : Simulator}, t.generator = s.generator → t.log = s.log →
      t.pending.Perm s.pending → t.Recorded ∧ t.Balanced := by
    intro t hgenerator hlog hpending
    exact h.keep [] hrec hgenerator (hlog.trans (List.append_nil _).symm) hempty hpending
  cases step_cases hs with
  | generateFails =>
      exact h.keep [] hrec rfl (List.append_nil _).symm hempty (List.Perm.refl _)
  | generate hputting hmade =>
      refine h.generate hrec (TrafficGenerator.makeBusinessEvent_ok hmade) ?_ ?_
        (pending_put hputting)
      all_goals
        rw [put]
        split <;> rfl
  | put hputting hfull =>
      refine hsame ?_ ?_ (pending_put_back hputting hfull)
      all_goals
        rw [put]
        split <;> rfl
  | get hw hqueue => exact hsame rfl rfl (pending_get hw hqueue fun _ => rfl)
  | deliverySleeps hw _ => exact hsame rfl rfl (pending_same hw rfl rfl rfl rfl)
  | @deliveryEscapes _ _ _ event =>
      exact h.keep [.taskDone event] hrec rfl rfl (hdone event) (List.Perm.refl _)
  | @deliveryFails _ _ _ event _ _ error hw _ =>
      refine h.fail [.rolledBack event error, .taskDone event] hrec rfl ?_ ?_
        (pending_leave hw rfl rfl rfl rfl rfl)
      · simp [failed, taskDone]
      · simp [SimulatorEntry.delivery?]
  | deliveryReplays hw _ _ =>
      exact h.deliver [] hrec rfl rfl hempty (pending_leave hw rfl rfl rfl rfl rfl)
  | @deliveryEnds _ _ _ event _ _ _ hw _ =>
      refine h.deliver [.taskDone event] hrec rfl ?_ (hdone event)
        (pending_leave hw rfl rfl rfl rfl rfl)
      simp [delivered, taskDone]
  | replaySleeps hw _ => exact hsame rfl rfl (pending_same hw rfl rfl rfl rfl)
  | @replayEscapes _ _ _ event =>
      exact h.keep [.taskDone event] hrec rfl rfl (hdone event) (List.Perm.refl _)
  | @replayFails _ _ _ event replay _ _ _ hw _ =>
      refine h.keep [.replayFailed replay, .taskDone event] hrec rfl ?_ ?_
        (pending_same hw rfl rfl rfl rfl)
      · simp [replayFailed, taskDone]
      · simp [SimulatorEntry.delivery?]
  | @replaySucceeds _ _ _ event replay _ _ receipt hw _ =>
      refine h.keep ([.replayed replay receipt] ++ (if receipt.status = .accepted then
        [.unexpectedlyAccepted replay.payload.eventId] else []) ++ [.taskDone event]) hrec rfl
        ?_ ?_ (pending_same hw rfl rfl rfl rfl)
      · simp [replayed, taskDone]
      · split <;> simp [SimulatorEntry.delivery?]
  | wakeDelivery hw => exact hsame rfl rfl (pending_same hw rfl rfl rfl rfl)
  | wakeReplay hw => exact hsame rfl rfl (pending_same hw rfl rfl rfl rfl)

/-- The invariant holds in every reachable state. -/
theorem Reachable.balanced {config : SimulatorConfig} (h : s.Reachable config) :
    s.Recorded ∧ s.Balanced := by
  obtain ⟨hostname, clock, hr⟩ := h
  refine hr.invariant (I := fun s => s.Recorded ∧ s.Balanced) ?_
    fun _ _ _ _ ht hs => ht.2.step ht.1 hs
  have hpending : ∀ e, e ∉ (initial config hostname clock).pending := by
    simp [pending, initial, Worker.inDelivery]
  have hdeliveries : ∀ e, e ∉ (initial config hostname clock).deliveries := by
    simp [deliveries, initial]
  constructor
  · exact ⟨.nil, fun e he => (hpending e he).elim,
      fun e he => (hdeliveries e he).elim⟩
  · exact ⟨List.nodup_nil, fun e he => (List.not_mem_nil he).elim,
      fun e he => (he.elim (hpending e) (hdeliveries e)).elim⟩

/-! ## Times -/

/-- What the producer has generated is of the past, and has happened by then. -/
structure Timely (s : Simulator) : Prop where
  past : ∀ event now, .generated event now ∈ s.log → now ≤ s.clock
  occurred : ∀ event now, .generated event now ∈ s.log → event.payload.occurredAt ≤ now

/-- So have the SALES of the ledger. -/
theorem Timely.entry_past (h : s.Timely) (hrec : s.Recorded) (hbal : s.Balanced)
    (hentry : entry ∈ s.generator.sales) : entry.occurredAt ≤ s.clock := by
  obtain ⟨sale, hsale, hof, _⟩ := (hbal.accounts entry hentry).sale
  obtain ⟨now, hm⟩ := hrec.deliveries sale hsale
  rw [hof.occurredAt]
  exact (h.occurred sale now hm).trans (h.past sale now hm)

/-- The clock shows the time of the last event. -/
theorem clock_of_step {l : SimulatorLabel} (hl : s.keepsTime l = true) (hs : s.step l = some s') :
    s.clock ≤ s'.clock ∧ ∀ now draws, l = .generate now draws → s'.clock = now := by
  have hput : ∀ {t : Simulator} {event : OutboundEvent}, (t.put event).clock = t.clock := by
    intro t event
    rw [put]
    split <;> rfl
  cases step_cases hs with
  | generateFails =>
      refine ⟨of_decide_eq_true hl, fun _ _ he => ?_⟩
      cases he
      rfl
  | generate =>
      rw [hput]
      refine ⟨of_decide_eq_true hl, fun _ _ he => ?_⟩
      cases he
      rfl
  | put =>
      refine ⟨hput.ge, fun _ _ he => ?_⟩
      cases he
  | _ =>
      refine ⟨le_rfl, fun _ _ he => ?_⟩
      cases he

/-- A step of a clock that does not go back keeps the times in order. -/
theorem Timely.step {l : SimulatorLabel} (hrec : s.Recorded) (hbal : s.Balanced) (h : s.Timely)
    (hl : s.keepsTime l = true) (hs : s.step l = some s') : s'.Timely := by
  obtain ⟨hclock, hnow⟩ := clock_of_step hl hs
  have hgenerated : ∀ e now, .generated e now ∈ s'.log → .generated e now ∈ s.log ∨
      s'.clock = now ∧ e.payload.occurredAt ≤ now := by
    intro e now hm
    refine (shows_of_step hs hm).imp_right fun hshows => ?_
    cases hshows with
    | generated hmade =>
        refine ⟨hnow _ _ rfl, ?_⟩
        cases TrafficGenerator.makeBusinessEvent_ok hmade with
        | sale _ ht _ => exact ht
        | refund hrefundable _ _ _ hbefore _ =>
            have hpast := h.entry_past hrec hbal (List.mem_filter.mp hrefundable).1
            exact hbefore.trans (max_le le_rfl (hpast.trans (of_decide_eq_true hl)))
    | other _ hne => exact absurd rfl (hne _ _)
  refine ⟨fun e now hm => ?_, fun e now hm => ?_⟩
  · rcases hgenerated e now hm with hm | ⟨he, _⟩
    · exact (h.past e now hm).trans hclock
    · exact he.ge
  · exact (hgenerated e now hm).elim (h.occurred e now) And.right

/-- The times are in order where the clock does not go back. -/
theorem ReachableWithin.timely {config : SimulatorConfig}
    (h : s.ReachableWithin config fun s l => s.keepsTime l) : s.Timely := by
  obtain ⟨hostname, clock, hr⟩ := h
  refine hr.invariant ⟨fun _ _ hm => (List.not_mem_nil hm).elim,
    fun _ _ hm => (List.not_mem_nil hm).elim⟩ fun t l t' hreach ht hl hs => ?_
  have hreachable : t.Reachable config := ⟨hostname, clock, hreach.reaches⟩
  obtain ⟨hrec, hbal⟩ := hreachable.balanced
  exact ht.step hrec hbal hl hs

/-! ## The totals -/

theorem refundTotal_congr {f f' : OutboundEvent → Int} {xs : List OutboundEvent}
    (h : ∀ e ∈ xs, e.refundOriginalEventId = some S → f e = f' e) :
    refundTotal S f xs = refundTotal S f' xs := by
  rw [refundTotal, refundTotal, total, total]
  refine congrArg List.sum (List.map_congr_left fun e he => ?_)
  rw [ofRefund, ofRefund]
  split
  · next ho => exact h e he ho
  · rfl

/-- What a REFUND reserves is what it asks for. -/
theorem Recorded.reserved (h : s.Recorded) (he : event ∈ s.deliveries ∨ event ∈ s.pending)
    (ho : event.refundOriginalEventId = some S) :
    event.reservedQuantity = event.payload.quantity ∧
      event.reservedAmountCents = event.payload.amountCents ∧ 1 ≤ event.payload.quantity := by
  have hgenerated : ∃ now, .generated event now ∈ s.log :=
    he.elim (h.deliveries event) (h.pending event)
  obtain ⟨now, hm⟩ := hgenerated
  cases h.emitted_of_mem hm with
  | sale hi _ =>
      rw [hi.refunds] at ho
      cases ho
  | refund hi _ _ _ _ => exact ⟨hi.reservedQuantity, hi.reservedAmountCents, hi.quantity⟩

theorem Balanced.outstanding_nonneg (hrec : s.Recorded) : 0 ≤ s.outstanding S := by
  have hnonneg : ∀ e, e ∈ s.deliveries ∨ e ∈ s.pending →
      0 ≤ ofRefund S OutboundEvent.reservedQuantity e := by
    intro e he
    rw [ofRefund]
    split
    · next ho =>
      obtain ⟨hq, _, hpos⟩ := hrec.reserved he ho
      omega
    · exact le_rfl
  exact Int.add_nonneg (total_nonneg fun e he => hnonneg e (Or.inr he))
    (total_nonneg fun e he => hnonneg e (Or.inl he))

/-- The reserved amounts are the reserved quantities at the unit price. -/
theorem Balanced.amount_eq {xs : List OutboundEvent} (h : s.Balanced)
    (hentry : entry ∈ s.generator.sales)
    (hxs : ∀ e ∈ xs, e ∈ s.pending ∨ e ∈ s.deliveries) :
    refundTotal entry.eventId OutboundEvent.reservedAmountCents xs =
      entry.unitPriceCents * refundTotal entry.eventId OutboundEvent.reservedQuantity xs := by
  refine total_mul fun e he => ?_
  rw [ofRefund, ofRefund]
  split
  · next ho =>
    obtain ⟨entry', hentry', hid, hamount⟩ := h.charged e (hxs e he) _ ho
    obtain rfl := List.inj_on_of_nodup_map h.keys hentry' hentry hid
    exact hamount
  · exact (Int.mul_zero _).symm

/-- The amount of a SALE is divided as its quantity is. -/
theorem Balanced.amount_divided {sale : OutboundEvent} (h : s.Balanced)
    (hentry : entry ∈ s.generator.sales) (hof : entry.Of sale)
    (hsum : entry.remainingQuantity + s.outstanding entry.eventId = sale.payload.quantity) :
    entry.remainingAmountCents +
      (refundTotal entry.eventId OutboundEvent.reservedAmountCents s.pending +
        refundTotal entry.eventId OutboundEvent.reservedAmountCents s.deliveries) =
      sale.payload.amountCents := by
  rw [h.amount_eq hentry fun e he => Or.inl he, h.amount_eq hentry fun e he => Or.inr he,
    (h.accounts entry hentry).amount, hof.amount, ← hsum, outstanding, Int.mul_add, Int.mul_add]

end Simulator

open Simulator

/-- Conservation of refund capacity where the clock does not go back: (1) the quantity and the
amount of a delivered SALE are divided among its ledger entry, its REFUNDS on their way and its
REFUNDS delivered, the entry has between nothing and everything, at the unit price, and is
refundable while anything is left; (2) a REFUND names a SALE delivered before, asks for at least
one piece of its product at its unit price, and happens between the SALE and its own generation. -/
theorem refund_capacity_conserved {config : SimulatorConfig} {s : Simulator}
    (h : s.ReachableWithin config fun s l => s.keepsTime l) :
    (∀ entry ∈ s.generator.sales, ∃ sale ∈ s.deliveries, entry.Of sale ∧
      0 ≤ entry.remainingQuantity ∧ entry.remainingQuantity ≤ sale.payload.quantity ∧
      entry.remainingAmountCents = entry.unitPriceCents * entry.remainingQuantity ∧
      entry.remainingQuantity + refundTotal entry.eventId (fun e => e.reservedQuantity) s.pending +
        refundTotal entry.eventId (fun e => e.payload.quantity) s.deliveries =
        sale.payload.quantity ∧
      entry.remainingAmountCents +
        refundTotal entry.eventId (fun e => e.reservedAmountCents) s.pending +
        refundTotal entry.eventId (fun e => e.payload.amountCents) s.deliveries =
        sale.payload.amountCents ∧
      (0 < entry.remainingQuantity → entry ∈ s.generator.refundableSales)) ∧
    ∀ before event now after, s.log = before ++ .generated event now :: after →
      event.kind = .refund → ∃ (sale : OutboundEvent) (entry : SaleLedgerEntry),
        .committed sale ∈ before ∧ entry.Of sale ∧
        event.payload.originalEventId = some sale.payload.eventId ∧
        event.payload.productSku = sale.payload.productSku ∧ 1 ≤ event.payload.quantity ∧
        event.payload.amountCents = entry.unitPriceCents * event.payload.quantity ∧
        sale.payload.occurredAt ≤ event.payload.occurredAt ∧ event.payload.occurredAt ≤ now := by
  obtain ⟨hrec, hbal⟩ := h.reachable.balanced
  constructor
  · intro entry hentry
    have ha := hbal.accounts entry hentry
    obtain ⟨sale, hsale, hof, hsum⟩ := ha.sale
    have hnonneg := Balanced.outstanding_nonneg (S := entry.eventId) hrec
    have hquantity : refundTotal entry.eventId (fun e => e.payload.quantity) s.deliveries =
        refundTotal entry.eventId OutboundEvent.reservedQuantity s.deliveries :=
      refundTotal_congr fun e he ho => (hrec.reserved (Or.inl he) ho).1.symm
    have hamount : refundTotal entry.eventId (fun e => e.payload.amountCents) s.deliveries =
        refundTotal entry.eventId OutboundEvent.reservedAmountCents s.deliveries :=
      refundTotal_congr fun e he ho => (hrec.reserved (Or.inl he) ho).2.1.symm
    refine ⟨sale, hsale, hof, ha.nonneg, by omega, ha.amount, ?_, ?_, fun hpos => ?_⟩
    · rw [hquantity, Int.add_assoc]
      exact hsum
    · rw [hamount, Int.add_assoc]
      exact hbal.amount_divided hentry hof hsum
    · refine List.mem_filter.mpr ⟨hentry, ?_⟩
      have hone : entry.unitPriceCents * 1 ≤ entry.unitPriceCents * entry.remainingQuantity :=
        Int.mul_le_mul_of_nonneg_left hpos hof.price.le
      rw [Int.mul_one, ← ha.amount] at hone
      simp [hpos, hone]
  · intro before event now after hlog hkind
    have he : Emitted s.config before now event := hrec.emitted before _ after hlog
    cases he with
    | sale hi _ =>
        rw [hi.about.kind] at hkind
        cases hkind
    | @refund entry sale hi hsale hof hafter _ =>
        refine ⟨sale, entry, hsale, hof, ?_, ?_, hi.quantity, hi.amount, ?_, ?_⟩
        · rw [hi.original, hof.eventId]
        · rw [hi.productSku, hof.productSku]
        · rw [← hof.occurredAt]
          exact hafter
        · exact h.timely.occurred event now (by simp [hlog])

/-! ## A run -/

namespace Sample

/-- A producer with one worker and room for one queued event. -/
def simulatorConfig : SimulatorConfig where
  backendUrl := "http://backend:8000"
  storeCode := "POA-CENTRO"
  instanceLabel := "simulator"
  runTag := "demo"
  heartbeatInterval := .finite 5
  eventsPerSecond := .finite 1
  refundRate := .finite (1 / 2)
  duplicateRate := .finite (1 / 2)
  lateEventRate := .finite 0
  maxLateSeconds := 60
  maxQuantity := 3
  requestTimeoutSeconds := .finite 5
  retryInitialSeconds := .finite 0
  retryMaxSeconds := .finite 0
  retryJitterRatio := .finite 0
  maxRetryAttempts := 2
  queueSize := 1
  workerCount := 1
  statsIntervalSeconds := .finite 30
  randomSeed := 1

/-- The draws for an event: a SALE from 1/2 on, and a REFUND below. -/
def draws (business : Rat) (quantity : Int) (eventId : UUID) : Draws where
  business := business
  choice := 0
  quantity := quantity
  late := 0
  lateSeconds := 0
  eventId := eventId

/-- A success of the backend. -/
def success (statusCode : Nat) (status : String) : PostResult :=
  .response ⟨statusCode, "", some (.obj [("status", .str status)])⟩

/-- The run of a list of steps of the producer from time 0, with a clock that does not go back
and ids that differ. -/
def produce (labels : List SimulatorLabel) : Option Simulator :=
  System.runWithin (fun (s : Simulator) l => (s.keepsTime l && s.issuesAnew l) = true) producer
    (.initial simulatorConfig "host" 0) labels

theorem produce_reachable {labels : List SimulatorLabel} {s : Simulator}
    (h : produce labels = some s) :
    s.ReachableWithin simulatorConfig fun s l => s.keepsTime l && s.issuesAnew l :=
  ⟨"host", 0, System.runWithin_reaches h⟩

/-- A SALE of three pieces is delivered, a REFUND of two of them fails, and one of a single
piece is queued. -/
def refundSteps : List SimulatorLabel :=
  [.generate 5 (draws (3 / 4) 3 10), .get 0, .postEnds 0 (success 201 "accepted") (3 / 4),
    .generate 6 (draws 0 2 11), .get 0, .generate 7 (draws 0 1 12),
    .postEnds 0 (.response ⟨400, "", none⟩) 0]

end Sample

/-- The failed REFUND has given its pieces back, and the queued one has taken its piece. -/
theorem refund_capacity_conserved_after_failure :
    ∃ s, Sample.produce Sample.refundSteps = some s ∧
      s.generator.sales.map SaleLedgerEntry.remainingQuantity = [2] ∧
      ∀ entry ∈ s.generator.sales, ∃ sale ∈ s.deliveries, entry.Of sale ∧
        entry.remainingQuantity +
          refundTotal entry.eventId (fun e => e.reservedQuantity) s.pending +
          refundTotal entry.eventId (fun e => e.payload.quantity) s.deliveries =
          sale.payload.quantity := by
  have hrun : ((Sample.produce Sample.refundSteps).map fun s =>
      s.generator.sales.map SaleLedgerEntry.remainingQuantity) = some [2] := by decide +kernel
  obtain ⟨s, hs, he⟩ := Option.map_eq_some_iff.mp hrun
  have hreach : s.ReachableWithin Sample.simulatorConfig fun s l => s.keepsTime l :=
    (Sample.produce_reachable hs).mono fun _ _ hl => (Bool.and_eq_true _ _ |>.mp hl).1
  refine ⟨s, hs, he, fun entry hentry => ?_⟩
  obtain ⟨sale, hsale, hof, _, _, _, hsum, _⟩ :=
    (refund_capacity_conserved hreach).1 entry hentry
  exact ⟨sale, hsale, hof, hsum⟩

end StorePulse
