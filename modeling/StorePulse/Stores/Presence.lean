import StorePulse.Backend.Connectivity
import StorePulse.Harness.Cleanup

/-!
# Which stores are online

`is_store_online` and `list_stores`.  The request reads the stores in one state of
the server and its clock in a later one.

A store that is listed as online has given a sign of life within the threshold,
an accepted event or a heartbeat, and has done so since it was last seen offline
(`list_stores_presence`).  The other direction needs that no two writers of the
store overlap, since `last_seen_at` may go back otherwise.
-/

namespace StorePulse

/-! ## The predicate -/

/-- A `datetime`: an instant, and whether it has a time zone. -/
structure PyDatetime where
  instant : Instant
  aware : Bool

/-- What `is_store_online` raises. -/
inductive PresenceError where
  | valueError (message : String)
  | overflowError
deriving DecidableEq

/-- The most days a `timedelta` can have. -/
def timedeltaMaxDays : Int := 999999999

/-- `is_store_online`.  The clock stands for `datetime.now(UTC)`. -/
def isStoreOnline (clock : Instant) (lastSeenAt now : Option PyDatetime) (thresholdSeconds : Int) :
    Except PresenceError Bool :=
  if thresholdSeconds ≤ 0 then throw (.valueError "threshold_seconds must be positive")
  else
    match lastSeenAt with
    | none => return false
    | some lastSeenAt =>
        let reference := now.getD ⟨clock, true⟩
        if !lastSeenAt.aware then throw (.valueError "last_seen_at must be timezone-aware")
        else if !reference.aware then throw (.valueError "now must be timezone-aware")
        else if timedeltaMaxDays < thresholdSeconds / 86400 then throw .overflowError
        else
          return decide
            (reference.instant - lastSeenAt.instant ≤ thresholdSeconds * microseconds)

/-- The setting that `list_stores` reads, with the bounds of its `Field`. -/
structure Settings where
  offlineThresholdSeconds : Int
  bounds : 1 ≤ offlineThresholdSeconds ∧ offlineThresholdSeconds ≤ 3600

/-- The threshold in microseconds. -/
def Settings.threshold (settings : Settings) : Int :=
  settings.offlineThresholdSeconds * microseconds

/-! ## The endpoint -/

/-- `StoreResponse`. -/
structure StoreResponse where
  id : UUID
  name : String
  code : String
  timezone : String
  dailyTargetCents : Int
  responsibleName : String
  responsibleEmail : String
  lastSeenAt : Option Instant
  online : Bool

/-- The response for a store. -/
def storeResponse (settings : Settings) (now : Instant) (store : StoreRow) :
    Except PresenceError StoreResponse := do
  let online ← isStoreOnline now (store.lastSeenAt.map fun t => ⟨t, true⟩) (some ⟨now, true⟩)
    settings.offlineThresholdSeconds
  return ⟨store.id, store.name, store.code, store.timezone, store.dailyTargetCents,
    store.responsibleName, store.responsibleEmail, store.lastSeenAt, online⟩

/-- `list_stores`, from the rows of its query on. -/
def listStores (settings : Settings) (now : Instant) (stores : List StoreRow) :
    Except PresenceError (List StoreResponse) := stores.mapM (storeResponse settings now)

/-- What the query may give: the active stores, ordered by name in the collation of the
database. -/
structure SelectsActive (collates : String → String → Prop) (rows selected : List StoreRow) :
    Prop where
  perm : selected.Perm (rows.filter StoreRow.isActive)
  sorted : selected.Pairwise fun s s' => collates s.name s'.name

/-- The row of a store as the server has it. -/
def StoreRow.seenIn (w : World) (s : StoreRow) : StoreRow :=
  { s with lastSeenAt := w.db.lastSeenAt s.id }

/-! ## What is shown -/

variable {settings : Settings}

/-- With a setting in its bounds nothing is raised. -/
theorem isStoreOnline_settings (settings : Settings) (clock : Instant)
    (lastSeenAt now? : Option Instant) :
    isStoreOnline clock (lastSeenAt.map fun t => ⟨t, true⟩) (now?.map fun t => ⟨t, true⟩)
        settings.offlineThresholdSeconds =
      .ok (lastSeenAt.any fun t => decide (now?.getD clock - t ≤ settings.threshold)) := by
  obtain ⟨hlower, hupper⟩ := settings.bounds
  have hdays : ¬ timedeltaMaxDays < settings.offlineThresholdSeconds / 86400 := by
    rw [timedeltaMaxDays]
    omega
  unfold isStoreOnline
  rw [if_neg (by omega)]
  cases lastSeenAt with
  | none => rfl
  | some t =>
      have hlast : ∀ now : Instant,
          (if timedeltaMaxDays < settings.offlineThresholdSeconds / 86400 then
            .error .overflowError
          else .ok (decide (now - t ≤ settings.threshold)) : Except PresenceError Bool) =
            .ok (decide (now - t ≤ settings.threshold)) := fun _ => if_neg hdays
      cases now? with
      | none => exact hlast clock
      | some now => exact hlast now

/-- The response for a store that is shown. -/
def StoreRow.shown (settings : Settings) (now : Instant) (s : StoreRow) : StoreResponse :=
  ⟨s.id, s.name, s.code, s.timezone, s.dailyTargetCents, s.responsibleName, s.responsibleEmail,
    s.lastSeenAt, s.lastSeenAt.any fun t => decide (now - t ≤ settings.threshold)⟩

theorem listStores_eq (settings : Settings) (now : Instant) (stores : List StoreRow) :
    listStores settings now stores = .ok (stores.map (StoreRow.shown settings now)) := by
  have hone : ∀ s : StoreRow, storeResponse settings now s = .ok (s.shown settings now) := by
    intro s
    have honline := isStoreOnline_settings settings now s.lastSeenAt (some now)
    rw [storeResponse, show some (⟨now, true⟩ : PyDatetime) =
      (some now).map (fun t => ⟨t, true⟩) from rfl, honline]
    rfl
  rw [listStores]
  induction stores with
  | nil => rfl
  | cons s stores ih =>
      rw [List.mapM_cons, hone, ih]
      rfl

/-! ## Signs of life -/

namespace World

variable {cat : Catalogue} {w w' : World} {s : UUID} {t : Instant}

/-- `is_store_online` for a store, now. -/
def online (settings : Settings) (w : World) (s : UUID) : Except PresenceError Bool :=
  isStoreOnline w.db.clock ((w.db.lastSeenAt s).map fun t => ⟨t, true⟩) none
    settings.offlineThresholdSeconds

/-- The store has given a sign of life at `t`: an accepted event or a heartbeat. -/
def Sign (cat : Catalogue) (w : World) (s : UUID) (t : Instant) : Prop :=
  (∃ row ∈ w.db.events.committed, row.storeId = s ∧ row.receivedAt = t) ∨
    ∃ i c store, .arrived i (.heartbeat c) ∈ w.log ∧ cat.storeByCode c = some store ∧
      store.id = s ∧ .readClock i t ∈ w.log ∧ .committed i [] [(s, t)] ∈ w.log

theorem online_iff : w.online settings s = .ok true ↔
    ∃ t, w.db.lastSeenAt s = some t ∧ w.db.clock - t ≤ settings.threshold := by
  have hshown := isStoreOnline_settings settings w.db.clock (w.db.lastSeenAt s) none
  rw [online, show (none : Option PyDatetime) = (none : Option Instant).map (fun t => ⟨t, true⟩)
    from rfl, hshown, Except.ok.injEq, Option.any_eq_true]
  simp

/-- A value of `last_seen_at` is a sign of life that is not in the future. -/
theorem Reachable.sign_of_lastSeenAt (h : w.Reachable cat) (hs : w.db.lastSeenAt s = some t) :
    w.Sign cat s t ∧ t ≤ w.db.clock := by
  rw [Db.lastSeenAt_eq] at hs
  have hseen := List.mem_of_getLast? hs
  refine ⟨h.mem_seen.mp hseen, ?_⟩
  rw [Db.mem_seen, h.tables.lastSeen] at hseen
  obtain ⟨e, he, hv⟩ := List.mem_flatMap.mp hseen
  exact h.dated.past e he t (List.mem_append_right _ (List.mem_map_of_mem hv))

/-- Without overlapping writers the value is the last sign of life. -/
theorem Reachable.le_lastSeenAt (h : w.Reachable cat) (hno : ∀ i j u t, ¬ w.Overlap s i j u t)
    (hsign : w.Sign cat s t) : ∃ u, w.db.lastSeenAt s = some u ∧ t ≤ u := by
  have hseen : t ∈ w.db.seen s := h.mem_seen.mpr hsign
  have hmax := max?_of_pairwise_le (h.seen_pairwise hno)
  obtain ⟨u, hu⟩ : ∃ u, (w.db.seen s).getLast? = some u :=
    ⟨_, List.getLast?_eq_some_getLast (List.ne_nil_of_mem hseen)⟩
  refine ⟨u, by rw [Db.lastSeenAt_eq, hu], ?_⟩
  rw [hu] at hmax
  exact (List.max?_eq_some_iff.mp hmax).2 t hseen

theorem clock_le (hr : (server cat).Reaches w w') : w.db.clock ≤ w'.db.clock := by
  refine hr.mono (R := fun v v' => v.db.clock ≤ v'.db.clock) (fun _ => le_rfl)
    (fun h h' => le_trans h h') fun v l v' hs => ?_
  cases step_cases hs with
  | tick ht => exact ht
  | perform hr hp => exact (perform_clock hp).ge
  | arrive | lock | answer | abort => exact le_rfl

/-- In a run the value stays, or the store has a commit in it. -/
theorem Reachable.seen_or_committed (h : w.Reachable cat) (hr : (server cat).Reaches w w')
    (s : UUID) : ∃ more, w'.log = w.log ++ more ∧
      (w'.db.seen s = w.db.seen s ∨ ∃ i rows t, .committed i rows [(s, t)] ∈ more) := by
  refine hr.invariant (I := fun v => ∃ more, v.log = w.log ++ more ∧
    (v.db.seen s = w.db.seen s ∨ ∃ i rows t, .committed i rows [(s, t)] ∈ more))
    ⟨[], (List.append_nil _).symm, Or.inl rfl⟩ fun v l v' hv ih hs => ?_
  obtain ⟨more, hlog, hseen⟩ := ih
  obtain ⟨added, hadded⟩ := log_grows (System.Reaches.refl.tail hs)
  refine ⟨more ++ added, by rw [← hadded, hlog, List.append_assoc], ?_⟩
  rcases hseen with hseen | ⟨i, rows, t, hmem⟩
  · rcases (h.reaches hv).step_seen hs s with hsame | ⟨i, rows, t, -, hcommit⟩
    · exact Or.inl (hsame.trans hseen)
    · obtain rfl := List.append_cancel_left (hadded.trans hcommit)
      exact Or.inr ⟨i, rows, t, List.mem_append_right _ (List.mem_singleton_self _)⟩
  · exact Or.inr ⟨i, rows, t, List.mem_append_left _ hmem⟩

/-- A store that is offline comes back only by a commit of its own. -/
theorem Reachable.committed_since (h : w.Reachable cat) (hr : (server cat).Reaches w w')
    (hoff : w.online settings s = .ok false) {later : Instant} (hlater : w'.db.clock ≤ later)
    (hon : ∃ t, w'.db.lastSeenAt s = some t ∧ later - t ≤ settings.threshold) :
    ∃ more i rows t, w'.log = w.log ++ more ∧ .committed i rows [(s, t)] ∈ more := by
  obtain ⟨more, hlog, hsame | ⟨i, rows, t, hmem⟩⟩ := h.seen_or_committed hr s
  · obtain ⟨t, ht, hnow⟩ := hon
    rw [Db.lastSeenAt_eq, hsame, ← Db.lastSeenAt_eq] at ht
    have hearlier : w.db.clock - t ≤ later - t :=
      Int.sub_le_sub_right ((clock_le hr).trans hlater) t
    have htrue : w.online settings s = .ok true := online_iff.mpr ⟨t, ht, hearlier.trans hnow⟩
    rw [hoff] at htrue
    cases htrue
  · exact ⟨more, i, rows, t, hlog, hmem⟩

end World

/-- What `list_stores` shows when it reads the stores in the state `w` and the clock in a later
one: the active stores, in the order of the query.  A store shown as online has given a sign of
life within the threshold, and has had a commit since any state in which it was offline.  Where no
two writers of the store overlap, a store with a sign of life within the threshold is shown as
online. -/
theorem list_stores_presence (settings : Settings) {cat : Catalogue} {w w' : World}
    {collates : String → String → Prop} {rows selected : List StoreRow}
    (h : w.Reachable cat) (hr : (server cat).Reaches w w')
    (hselected : SelectsActive collates (rows.map (StoreRow.seenIn w)) selected) :
    ∃ responses, listStores settings w'.db.clock selected = .ok responses ∧
      (responses.map StoreResponse.id).Perm ((rows.filter StoreRow.isActive).map StoreRow.id) ∧
      responses.Pairwise (fun r r' => collates r.name r'.name) ∧
      ∀ r ∈ responses, r.lastSeenAt = w.db.lastSeenAt r.id ∧
        (r.online = true → (∃ t, w.Sign cat r.id t ∧ t ≤ w'.db.clock ∧
            w'.db.clock - t ≤ settings.threshold) ∧
          ∀ v, v.Reachable cat → (server cat).Reaches v w → v.online settings r.id = .ok false →
            ∃ more i rows t, w.log = v.log ++ more ∧ .committed i rows [(r.id, t)] ∈ more) ∧
        ((∀ i j u t, ¬ w.Overlap r.id i j u t) → ∀ t, w.Sign cat r.id t →
          w'.db.clock - t ≤ settings.threshold → r.online = true) := by
  have hclock := World.clock_le hr
  refine ⟨_, listStores_eq settings _ selected, ?_, ?_, ?_⟩
  · rw [List.map_map]
    refine (hselected.perm.map _).trans (List.Perm.of_eq ?_)
    rw [List.filter_map, List.map_map]
    rfl
  · exact List.pairwise_map.mpr hselected.sorted
  · intro r hmem
    obtain ⟨store, hstore, rfl⟩ := List.mem_map.mp hmem
    have hlisted := List.mem_of_mem_filter (hselected.perm.mem_iff.mp hstore)
    obtain ⟨row, -, rfl⟩ := List.mem_map.mp hlisted
    have honline : ((row.seenIn w).shown settings w'.db.clock).online = true ↔
        ∃ t, w.db.lastSeenAt row.id = some t ∧ w'.db.clock - t ≤ settings.threshold := by
      simp [StoreRow.shown, StoreRow.seenIn, Option.any_eq_true]
    refine ⟨rfl, fun hon => ⟨?_, fun v hv hvw hoff => ?_⟩, fun hno t hsign hnow => ?_⟩
    · obtain ⟨t, ht, hnow⟩ := honline.mp hon
      obtain ⟨hsign, hpast⟩ := h.sign_of_lastSeenAt ht
      exact ⟨t, hsign, hpast.trans hclock, hnow⟩
    · exact hv.committed_since hvw hoff hclock (honline.mp hon)
    · obtain ⟨u, hu, hle⟩ := h.le_lastSeenAt hno hsign
      exact honline.mpr ⟨u, hu, (Int.sub_le_sub_left hle w'.db.clock).trans hnow⟩

namespace Sample

/-- A heartbeat at five seconds. -/
def heartbeatSteps : List Label :=
  [.tick 5000000, .arrive (.heartbeat "POA-CENTRO")] ++ List.replicate 7 (.run 0)

/-- The row of its store. -/
def storeRow : StoreRow :=
  ⟨1, "Centro", "POA-CENTRO", "America/Sao_Paulo", 100000, "", "", true, none, 0, 0⟩

end Sample

/-- Thirty seconds after a heartbeat the store is still shown as online. -/
theorem list_stores_presence_after_heartbeat :
    ∃ w w' responses, Sample.run Sample.heartbeatSteps = some w ∧
      w.step Sample.catalogue (.tick 35000000) = some w' ∧
      listStores ⟨30, by decide⟩ w'.db.clock [Sample.storeRow.seenIn w] = .ok responses ∧
      (∃ r ∈ responses, r.online = true) ∧
      ∀ r ∈ responses, ∃ t, w.Sign Sample.catalogue r.id t ∧ w'.db.clock - t ≤ 30000000 := by
  have hrun : ((Sample.run Sample.heartbeatSteps).bind fun w =>
      (w.step Sample.catalogue (.tick 35000000)).map fun w' =>
        (w.db.lastSeenAt 1, w'.db.clock)) = some (some 5000000, 35000000) := by decide +kernel
  obtain ⟨w, hw, hstep⟩ := Option.bind_eq_some_iff.mp hrun
  obtain ⟨w', hw', he⟩ := Option.map_eq_some_iff.mp hstep
  obtain ⟨hseen, hclock⟩ := Prod.mk.inj he
  have hselected : SelectsActive (fun _ _ => True) ([Sample.storeRow].map (StoreRow.seenIn w))
      [Sample.storeRow.seenIn w] := ⟨.refl _, List.pairwise_singleton _ _⟩
  have hlater : (server Sample.catalogue).Reaches w w' :=
    System.Reaches.refl.tail (S := server Sample.catalogue) (l := .tick 35000000) hw'
  obtain ⟨responses, hlist, -, -, hall⟩ :=
    list_stores_presence ⟨30, by decide⟩ (Sample.run_reachable hw) hlater hselected
  have hshown := (listStores_eq ⟨30, by decide⟩ _ [Sample.storeRow.seenIn w]).symm.trans hlist
  cases hshown
  have honline : ∀ r ∈ [Sample.storeRow.seenIn w].map (StoreRow.shown ⟨30, by decide⟩ w'.db.clock),
      r.online = true := by
    intro r hr
    rw [List.map_singleton, List.mem_singleton] at hr
    rw [hr, hclock]
    simp [StoreRow.shown, StoreRow.seenIn, Sample.storeRow, hseen, Settings.threshold, microseconds]
  refine ⟨w, w', _, hw, hw', hlist, ⟨_, List.mem_singleton_self _, ?_⟩, fun r hr => ?_⟩
  · exact honline _ (List.mem_singleton_self _)
  · obtain ⟨-, hon, -⟩ := hall r hr
    obtain ⟨⟨t, hsign, -, hnow⟩, -⟩ := hon (honline r hr)
    exact ⟨t, hsign, hnow⟩

end StorePulse
