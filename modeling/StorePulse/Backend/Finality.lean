import StorePulse.Backend.Receipts
import StorePulse.Simulator.Transport

/-!
# Refusals that are final

The producer gives an event up when it is refused with 409 or 422.  Each of the
four refusals with these codes says something of the table that no later event
changes (`Refuses.final`): a row of the table has the key and other values, or
the original is no SALE, or is one of another store or product, or it is used up
so far that the refund does not fit in.  So the event is never stored, neither
for this request nor for any copy of it.
-/

namespace StorePulse

variable {cat : Catalogue} {p : EventCreate} {T T' : List PosEvent} {a : Answer} {x : Exception}
  {e : PosEvent}

/-- The refusals that `create_event` answers with 409 or 422. -/
def Exception.isFinal : Exception → Bool
  | .eventConflict _ => true
  | .invalidOriginalSale _ => true
  | .refundReferenceMismatch _ => true
  | .refundLimitExceeded _ => true
  | _ => false

/-- What was refused for a final reason is in no later table. -/
theorem Refuses.final (hT' : WellFormed cat T') (hp : T <+: T') (hr : Refuses cat T p x)
    (hx : x.isFinal = true) (he : e ∈ T') : ¬ MatchesPayload cat e p := by
  intro hi
  have hsame : ∀ {r s : PosEvent}, r ∈ T → s ∈ T' → r.eventId = s.eventId → r = s :=
    fun hrT hs hid => hT'.eq_of_eventId (hp.subset hrT) hs hid
  cases hr with
  | unknownStore | unknownProduct | originalSaleNotFound | unfit => cases hx
  | @eventConflict r hrT hid hne =>
      obtain rfl := hsame hrT he (hid.trans hi.eventId.symm)
      exact hne hi
  | invalidOriginalSale ho hrT hid hinvalid =>
      obtain ⟨s, hs, hsid, hunder⟩ := hT'.original_of_matchesPayload he hi ho
      obtain rfl := hsame hrT hs (hid.trans hsid.symm)
      exact hinvalid.elim (fun h => h hunder.sale) fun h => h hunder.root
  | refundReferenceMismatch ho hl hrT hid hmismatch =>
      obtain ⟨s, hs, hsid, hunder⟩ := hT'.original_of_matchesPayload he hi ho
      obtain ⟨store, product, hl', hvalues⟩ := hi
      obtain rfl := hsame hrT hs (hid.trans hsid.symm)
      obtain ⟨rfl, rfl⟩ := hl.unique hl'
      exact hmismatch.elim (fun h => h (hunder.store.symm.trans hvalues.storeId))
        fun h => h (hunder.product.symm.trans hvalues.productId)
  | @refundLimitExceeded o s d m ho hs hid hlt hnone =>
      -- the row has come after the refusal, and the SALE had no room for it
      have hnew : e ∉ T := fun hmem => hnone e hmem hi
      have hspent := Ledger.spent_add_le_of_new (d := d) hp hT'.sound.nonneg he hnew
        (hi.refunds.trans ho)
      have hwithin := hT'.sound.within s (hp.subset hs) d
      have hamount : refundLedger.amount d e = d.asked p := hi.amount d
      have hkey : refundLedger.key s = o := hid
      have hroom : refundLedger.amount d s = d.of s.toEventValues := rfl
      rw [hkey] at hwithin
      omega

theorem isFinal_of_statusCode (h : (raiseHttp x).statusCode ∈ [409, 422]) : x.isFinal = true := by
  cases x <;> simp [raiseHttp, Answer.statusCode, Exception.isFinal] at h ⊢

/-- An answer with 409 or 422 is a final refusal. -/
theorem Spec.final (h : Spec cat T p a T') (hcode : a.statusCode ∈ [409, 422]) :
    ∃ x, Refuses cat T p x ∧ x.isFinal = true := by
  cases h with
  | accepted | duplicate => simp [Answer.statusCode] at hcode
  | refused hr => exact ⟨_, hr, isFinal_of_statusCode hcode⟩

end StorePulse
