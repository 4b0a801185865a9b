import StorePulse.Foundation.Inserts
import StorePulse.Foundation.Transition
import StorePulse.Harness.Cleanup
import StorePulse.Python.Uuid

/-!
# Seeding the catalogue

`seed.py`.  One transaction inserts five stores and ten products, each unless its
code or its SKU is there.  The ids are hashes of the codes and SKUs, and are
distinct (`seedStores_keyed`, `seedProducts_keyed`).

The seed fails when one of its ids stands under another code or SKU, and else
every code and SKU is there once.  After that nothing the repository does to the
tables changes an id, a code or a SKU (`Tables.Keeps`), so a further seed does
nothing.
-/

namespace StorePulse

/-! ## The rows -/

/-- An entry of `STORES`. -/
structure SeedStore where
  code : String
  name : String
  timezone : String
  dailyTargetCents : Int
  responsibleName : String
  responsibleEmail : String

/-- An entry of `PRODUCTS`. -/
structure SeedProduct where
  sku : String
  name : String
  category : String

/-- `STORES`. -/
def seedStores : List SeedStore := [
  ⟨"MAD-MADRID", "Madrid Central", "Europe/Madrid", 180000, "Ana Ruiz",
    "madrid.manager@example.test"⟩,
  ⟨"MAD-LONDON", "London West", "Europe/London", 220000, "James Cole",
    "london.manager@example.test"⟩,
  ⟨"MAD-NYC", "New York Midtown", "America/New_York", 300000, "Taylor Reed",
    "nyc.manager@example.test"⟩,
  ⟨"MAD-TOKYO", "Tokyo Shibuya", "Asia/Tokyo", 260000, "Aiko Mori",
    "tokyo.manager@example.test"⟩,
  ⟨"MAD-WARSAW", "Warsaw Centrum", "Europe/Warsaw", 160000, "Marta Nowak",
    "warsaw.manager@example.test"⟩]

/-- `PRODUCTS`. -/
def seedProducts : List SeedProduct := [
  ⟨"COFFEE-001", "Coffee Beans 500g", "Grocery"⟩, ⟨"TEA-001", "Green Tea", "Grocery"⟩,
  ⟨"MUG-001", "Ceramic Mug", "Home"⟩, ⟨"BOTTLE-001", "Reusable Bottle", "Home"⟩,
  ⟨"NOTE-001", "Notebook", "Stationery"⟩, ⟨"PEN-001", "Gel Pen Set", "Stationery"⟩,
  ⟨"BAG-001", "Canvas Tote", "Accessories"⟩, ⟨"CABLE-001", "USB-C Cable", "Electronics"⟩,
  ⟨"POWER-001", "Power Adapter", "Electronics"⟩, ⟨"SNACK-001", "Granola Bar", "Grocery"⟩]

/-- `NAMESPACE`. -/
def seedNamespace : UUID := 0x8e0785c269004d7aa7cb19cc53521ed7

/-- `stable_id`. -/
def stableId (kind value : String) : UUID := uuid5 seedNamespace (kind ++ ":" ++ value)

/-- The row of a store, with the defaults of the table at `now`. -/
def SeedStore.row (now : Instant) (s : SeedStore) : StoreRow :=
  ⟨stableId "store" s.code, s.name, s.code, s.timezone, s.dailyTargetCents, s.responsibleName,
    s.responsibleEmail, true, none, now, now⟩

/-- The row of a product. -/
def SeedProduct.row (now : Instant) (p : SeedProduct) : ProductRow :=
  ⟨stableId "product" p.sku, p.sku, p.name, some p.category, now⟩

/-! ## The statements -/

/-- How an `INSERT` fails. -/
inductive InsertError where
  /-- A value is not in the domain of its column. -/
  | dataError
  | checkViolation
  | uniqueViolation
deriving DecidableEq

/-- The text fits `VARCHAR(n)`. -/
def fitsVarchar (n : Nat) (s : String) : Bool := s.length ≤ n && noNul s

/-- Every value of a store lies in the domain of its column. -/
def StoreRow.fitsColumns (s : StoreRow) : Bool :=
  fitsVarchar 120 s.name && fitsVarchar 40 s.code && fitsVarchar 80 s.timezone &&
  decide (-bigintMax - 1 ≤ s.dailyTargetCents ∧ s.dailyTargetCents ≤ bigintMax) &&
  fitsVarchar 120 s.responsibleName && fitsVarchar 254 s.responsibleEmail

/-- Every value of a product lies in the domain of its column. -/
def ProductRow.fitsColumns (p : ProductRow) : Bool :=
  fitsVarchar 64 p.sku && fitsVarchar 160 p.name && p.category.all (fitsVarchar 120)

namespace Tables

/-- `INSERT INTO stores ... ON CONFLICT (code) DO NOTHING`. -/
def insertStore (t : Tables) (row : StoreRow) : Except InsertError Tables :=
  if row.fitsColumns = false then .error .dataError
  -- `ck_stores_daily_target_nonnegative`
  else if row.dailyTargetCents < 0 then .error .checkViolation
  else match insertAbsent StoreRow.id StoreRow.code t.stores row with
    | none => .error .uniqueViolation
    | some stores => .ok { t with stores }

/-- `INSERT INTO products ... ON CONFLICT (sku) DO NOTHING`. -/
def insertProduct (t : Tables) (row : ProductRow) : Except InsertError Tables :=
  if row.fitsColumns = false then .error .dataError
  else match insertAbsent ProductRow.id ProductRow.sku t.products row with
    | none => .error .uniqueViolation
    | some products => .ok { t with products }

/-- The two loops. -/
def insertRows (stores : List StoreRow) (products : List ProductRow) (t : Tables) :
    Except InsertError Tables := do
  let t ← stores.foldlM insertStore t
  products.foldlM insertProduct t

/-- The transaction around them. -/
def insertTransaction (stores : List StoreRow) (products : List ProductRow) (t : Tables) :
    Except InsertError Unit × Tables :=
  match t.insertRows stores products with
  | .ok t' => (.ok (), t')
  | .error e => (.error e, t)

end Tables

/-- `seed`, in a transaction that starts at `now`. -/
def seed (now : Instant) (t : Tables) : Except InsertError Unit × Tables :=
  t.insertTransaction (seedStores.map (SeedStore.row now)) (seedProducts.map (SeedProduct.row now))

/-! ## The seeds -/

variable {now : Instant} {t t' : Tables}

/-- The values of the seeds are in the domains of their columns and pass the check. -/
theorem seedStores_fit {row : StoreRow} (h : row ∈ seedStores.map (SeedStore.row now)) :
    row.fitsColumns = true ∧ 0 ≤ row.dailyTargetCents := by
  have hall : ∀ s : SeedStore, s ∈ seedStores →
      (fitsVarchar 120 s.name && fitsVarchar 40 s.code && fitsVarchar 80 s.timezone &&
        decide (-bigintMax - 1 ≤ s.dailyTargetCents ∧ s.dailyTargetCents ≤ bigintMax) &&
        fitsVarchar 120 s.responsibleName && fitsVarchar 254 s.responsibleEmail) = true ∧
      0 ≤ s.dailyTargetCents := by decide +kernel
  obtain ⟨s, hs, rfl⟩ := List.mem_map.mp h
  exact hall s hs

theorem seedProducts_fit {row : ProductRow} (h : row ∈ seedProducts.map (SeedProduct.row now)) :
    row.fitsColumns = true := by
  have hall : ∀ p : SeedProduct, p ∈ seedProducts →
      (fitsVarchar 64 p.sku && fitsVarchar 160 p.name && fitsVarchar 120 p.category) = true := by
    decide +kernel
  obtain ⟨p, hp, rfl⟩ := List.mem_map.mp h
  exact hall p hp

/-- The ids and the codes of the seeded stores are distinct. -/
theorem seedStores_keyed (now : Instant) :
    KeyedBy StoreRow.id StoreRow.code (seedStores.map (SeedStore.row now)) := by
  have hids : (seedStores.map fun s => stableId "store" s.code).Nodup := by decide +kernel
  have hcodes : (seedStores.map SeedStore.code).Nodup := by decide +kernel
  constructor
  · rw [List.map_map]
    exact hids
  · rw [List.map_map]
    exact hcodes

/-- So are the ids and the SKUs of the seeded products. -/
theorem seedProducts_keyed (now : Instant) :
    KeyedBy ProductRow.id ProductRow.sku (seedProducts.map (SeedProduct.row now)) := by
  have hids : (seedProducts.map fun p => stableId "product" p.sku).Nodup := by decide +kernel
  have hskus : (seedProducts.map SeedProduct.sku).Nodup := by decide +kernel
  constructor
  · rw [List.map_map]
    exact hids
  · rw [List.map_map]
    exact hskus

/-! ## What the seed does -/

namespace Tables

/-- The keys of `stores` and of `products`. -/
structure Keyed (t : Tables) : Prop where
  stores : KeyedBy StoreRow.id StoreRow.code t.stores
  products : KeyedBy ProductRow.id ProductRow.sku t.products

/-- The stores the seed adds. -/
def newStores (now : Instant) (t : Tables) : List StoreRow :=
  absent StoreRow.code t.stores (seedStores.map (SeedStore.row now))

/-- The products it adds. -/
def newProducts (now : Instant) (t : Tables) : List ProductRow :=
  absent ProductRow.sku t.products (seedProducts.map (SeedProduct.row now))

/-- The code or SKU of a seed is free, and its id stands under another one.  A seed whose code or
SKU is taken is skipped, whatever its id. -/
def Blocked (t : Tables) : Prop :=
  (∃ s ∈ seedStores, s.code ∉ t.stores.map StoreRow.code ∧
    stableId "store" s.code ∈ t.stores.map StoreRow.id) ∨
  ∃ p ∈ seedProducts, p.sku ∉ t.products.map ProductRow.sku ∧
    stableId "product" p.sku ∈ t.products.map ProductRow.id

theorem foldlM_insertStore (rows : List StoreRow)
    (h : ∀ row ∈ rows, row.fitsColumns = true ∧ 0 ≤ row.dailyTargetCents) (t : Tables) :
    rows.foldlM insertStore t =
      match insertAllAbsent StoreRow.id StoreRow.code t.stores rows with
      | none => .error .uniqueViolation
      | some stores => .ok { t with stores } := by
  induction rows generalizing t with
  | nil => rfl
  | cons row rows ih =>
      obtain ⟨hfits, hcheck⟩ := h row List.mem_cons_self
      rw [List.foldlM_cons, insertAllAbsent, List.foldlM_cons, insertStore,
        if_neg (by rw [hfits]; exact Bool.noConfusion), if_neg (by omega)]
      cases insertAbsent StoreRow.id StoreRow.code t.stores row with
      | none => rfl
      | some stores => exact ih (fun r hr => h r (List.mem_cons_of_mem _ hr)) { t with stores }

theorem foldlM_insertProduct (rows : List ProductRow) (h : ∀ row ∈ rows, row.fitsColumns = true)
    (t : Tables) : rows.foldlM insertProduct t =
      match insertAllAbsent ProductRow.id ProductRow.sku t.products rows with
      | none => .error .uniqueViolation
      | some products => .ok { t with products } := by
  induction rows generalizing t with
  | nil => rfl
  | cons row rows ih =>
      rw [List.foldlM_cons, insertAllAbsent, List.foldlM_cons, insertProduct,
        if_neg (by rw [h row List.mem_cons_self]; exact Bool.noConfusion)]
      cases insertAbsent ProductRow.id ProductRow.sku t.products row with
      | none => rfl
      | some products => exact ih (fun r hr => h r (List.mem_cons_of_mem _ hr)) { t with products }

/-- The two loops fail when the primary key of an absent row is taken. -/
theorem insertTransaction_cases {stores : List StoreRow} {products : List ProductRow}
    (hstores : KeyedBy StoreRow.id StoreRow.code stores)
    (hproducts : KeyedBy ProductRow.id ProductRow.sku products)
    (hfit : ∀ row ∈ stores, row.fitsColumns = true ∧ 0 ≤ row.dailyTargetCents)
    (hfit' : ∀ row ∈ products, row.fitsColumns = true) (t : Tables) :
    ((∃ r ∈ absent StoreRow.code t.stores stores, r.id ∈ t.stores.map StoreRow.id) ∨
      (∃ r ∈ absent ProductRow.sku t.products products, r.id ∈ t.products.map ProductRow.id)) ∧
      t.insertTransaction stores products = (.error .uniqueViolation, t) ∨
    (¬ ∃ r ∈ absent StoreRow.code t.stores stores, r.id ∈ t.stores.map StoreRow.id) ∧
      (¬ ∃ r ∈ absent ProductRow.sku t.products products, r.id ∈ t.products.map ProductRow.id) ∧
      t.insertTransaction stores products = (.ok (), { t with
        stores := t.stores ++ absent StoreRow.code t.stores stores
        products := t.products ++ absent ProductRow.sku t.products products }) := by
  rw [insertTransaction, insertRows, foldlM_insertStore stores hfit, insertAllAbsent_eq hstores]
  by_cases hs : ∃ r ∈ absent StoreRow.code t.stores stores, r.id ∈ t.stores.map StoreRow.id
  · rw [if_pos hs]
    exact Or.inl ⟨Or.inl hs, rfl⟩
  · have hloop := foldlM_insertProduct products hfit'
      { t with stores := t.stores ++ absent StoreRow.code t.stores stores }
    rw [insertAllAbsent_eq hproducts] at hloop
    rw [if_neg hs]
    simp only [bind, Except.bind, hloop]
    by_cases hp : ∃ r ∈ absent ProductRow.sku t.products products,
        r.id ∈ t.products.map ProductRow.id
    · rw [if_pos hp]
      exact Or.inl ⟨Or.inr hp, rfl⟩
    · rw [if_neg hp]
      exact Or.inr ⟨hs, hp, rfl⟩

/-- The tables with what the seed adds. -/
def seeded (now : Instant) (t : Tables) : Tables :=
  { t with
    stores := t.stores ++ t.newStores now
    products := t.products ++ t.newProducts now }

/-- The seed fails and changes nothing, or adds what is absent. -/
theorem seed_cases (now : Instant) (t : Tables) :
    t.Blocked ∧ seed now t = (.error .uniqueViolation, t) ∨
    ¬ t.Blocked ∧ (¬ ∃ r ∈ t.newStores now, r.id ∈ t.stores.map StoreRow.id) ∧
      (¬ ∃ r ∈ t.newProducts now, r.id ∈ t.products.map ProductRow.id) ∧
      seed now t = (.ok (), t.seeded now) := by
  have hcases := insertTransaction_cases (seedStores_keyed now) (seedProducts_keyed now)
    (fun _ hr => seedStores_fit hr) (fun _ hr => seedProducts_fit hr) t
  have hnewStore : ∀ s ∈ seedStores, s.code ∉ t.stores.map StoreRow.code →
      s.row now ∈ t.newStores now := fun s hs hcode =>
    mem_absent.mpr ⟨List.mem_map_of_mem hs, hcode⟩
  have hnewProduct : ∀ p ∈ seedProducts, p.sku ∉ t.products.map ProductRow.sku →
      p.row now ∈ t.newProducts now := fun p hp hsku =>
    mem_absent.mpr ⟨List.mem_map_of_mem hp, hsku⟩
  rcases hcases with ⟨hblocked, hseed⟩ | ⟨hs, hp, hseed⟩
  · refine Or.inl ⟨?_, hseed⟩
    rcases hblocked with ⟨r, hr, hid⟩ | ⟨r, hr, hid⟩
    · obtain ⟨hm, hcode⟩ := mem_absent.mp hr
      obtain ⟨s, hs, rfl⟩ := List.mem_map.mp hm
      exact Or.inl ⟨s, hs, hcode, hid⟩
    · obtain ⟨hm, hsku⟩ := mem_absent.mp hr
      obtain ⟨p, hp, rfl⟩ := List.mem_map.mp hm
      exact Or.inr ⟨p, hp, hsku, hid⟩
  · refine Or.inr ⟨?_, hs, hp, hseed⟩
    rintro (⟨s, hseed, hcode, hid⟩ | ⟨p, hseed, hsku, hid⟩)
    · exact hs ⟨s.row now, hnewStore s hseed hcode, hid⟩
    · exact hp ⟨p.row now, hnewProduct p hseed hsku, hid⟩

/-! ## What else is done to the tables -/

/-- The keys of the stores and of the products. -/
def keys (t : Tables) : List Store × List Product :=
  (t.stores.map fun s => ⟨s.id, s.code⟩, t.products.map fun p => ⟨p.id, p.sku⟩)

theorem Keyed.of_keys (h : t.Keyed) :
    ((t.keys.1.map Store.id).Nodup ∧ (t.keys.1.map Store.code).Nodup) ∧
      (t.keys.2.map Product.id).Nodup ∧ (t.keys.2.map Product.sku).Nodup := by
  simp only [keys, List.map_map]
  exact ⟨⟨h.stores.ids, h.stores.keys⟩, h.products.ids, h.products.keys⟩

/-- The catalogue of the tables. -/
def catalogue (t : Tables) (h : t.Keyed) : Catalogue where
  stores := t.keys.1
  products := t.keys.2
  store_ids := h.of_keys.1.1
  store_codes := h.of_keys.1.2
  product_ids := h.of_keys.2.1
  product_skus := h.of_keys.2.2

/-- Every code and every SKU of the seed is there. -/
def Complete (t : Tables) : Prop :=
  (∀ s ∈ seedStores, s.code ∈ t.stores.map StoreRow.code) ∧
  ∀ p ∈ seedProducts, p.sku ∈ t.products.map ProductRow.sku

end Tables

/-- The row of a store after the writes of a request. -/
def StoreRow.touch (seen : List (UUID × Instant)) (now : Instant) (s : StoreRow) : StoreRow :=
  match (seen.filter fun v => v.1 == s.id).getLast? with
  | none => s
  | some v => { s with lastSeenAt := some v.2, updatedAt := now }

/-- What is done to the tables. -/
inductive TablesLabel where
  | seed (now : Instant)
  /-- The cleanup transaction of a run of the harness. -/
  | cleanup (casts : Casts) (runTag : String) (snapshot : List SnapshotItem)
  /-- The writes of a request. -/
  | commit (rows : List PosEvent) (seen : List (UUID × Instant)) (now : Instant)

/-- The tables as a transition system. -/
def tables : System Tables TablesLabel where
  step t
    | .seed now => some (seed now t).2
    | .cleanup casts runTag snapshot =>
        some (t.transact casts (cleanupStatements runTag snapshot)).2
    | .commit rows seen now => some { t with
        stores := t.stores.map (StoreRow.touch seen now)
        events := t.events ++ rows }

namespace Tables

theorem Keyed.seeded (h : t.Keyed)
    (hs : ¬ ∃ r ∈ t.newStores now, r.id ∈ t.stores.map StoreRow.id)
    (hp : ¬ ∃ r ∈ t.newProducts now, r.id ∈ t.products.map ProductRow.id) :
    (t.seeded now).Keyed :=
  ⟨h.stores.insertAll (seedStores_keyed now) hs, h.products.insertAll (seedProducts_keyed now) hp⟩

theorem complete_seeded (now : Instant) (t : Tables) : (t.seeded now).Complete :=
  ⟨fun _ hs => key_mem_insertAll (List.mem_map_of_mem hs),
    fun _ hp => key_mem_insertAll (List.mem_map_of_mem hp)⟩

/-- With every code and SKU there, the seed does nothing. -/
theorem Complete.seed (h : t.Complete) (now : Instant) : seed now t = (.ok (), t) := by
  have hstores : t.newStores now = [] := by
    rw [newStores, absent, List.filter_eq_nil_iff]
    intro row hrow
    obtain ⟨s, hs, rfl⟩ := List.mem_map.mp hrow
    simp only [decide_eq_true_eq, not_not]
    exact h.1 s hs
  have hproducts : t.newProducts now = [] := by
    rw [newProducts, absent, List.filter_eq_nil_iff]
    intro row hrow
    obtain ⟨p, hp, rfl⟩ := List.mem_map.mp hrow
    simp only [decide_eq_true_eq, not_not]
    exact h.2 p hp
  rcases seed_cases now t with ⟨⟨s, hs, hcode, _⟩ | ⟨p, hp, hsku, _⟩, _⟩ | ⟨_, _, _, hseed⟩
  · exact absurd (h.1 s hs) hcode
  · exact absurd (h.2 p hp) hsku
  · rw [hseed, seeded, hstores, hproducts, List.append_nil, List.append_nil]

/-- Tables with the same keys have the same codes and SKUs. -/
theorem Complete.of_keys (h : t.Complete) (hkeys : t'.keys = t.keys) : t'.Complete := by
  obtain ⟨hstores, hproducts⟩ := Prod.mk.inj hkeys
  have hcodes : t'.stores.map StoreRow.code = t.stores.map StoreRow.code := by
    simpa only [List.map_map, Function.comp_def] using congrArg (List.map Store.code) hstores
  have hskus : t'.products.map ProductRow.sku = t.products.map ProductRow.sku := by
    simpa only [List.map_map, Function.comp_def] using congrArg (List.map Product.sku) hproducts
  exact ⟨fun s hs => hcodes ▸ h.1 s hs, fun p hp => hskus ▸ h.2 p hp⟩

/-- The cleanup leaves the keys alone. -/
theorem keys_transact (casts : Casts) (t : Tables) (statements : List CleanupStmt) :
    (t.transact casts statements).2.keys = t.keys := by
  have hexec : ∀ (u u' : Tables) (stmt : CleanupStmt), u.exec casts stmt = .ok u' →
      u'.keys = u.keys := by
    intro u u' stmt h
    cases stmt with
    | delete pattern eventType =>
        rw [exec, deleteEvents] at h
        split at h
        · cases h
        · simp only at h
          split at h
          · cases h
          · cases h
            rfl
    | restore snapshot =>
        rw [exec, restoreStores] at h
        cases hrows : snapshotRows casts snapshot with
        | error e => rw [hrows] at h; cases h
        | ok rows =>
            rw [hrows] at h
            cases h
            have hkeeps : ∀ s : StoreRow, (⟨(SnapshotRow.restore rows s).id,
                (SnapshotRow.restore rows s).code⟩ : Store) = ⟨s.id, s.code⟩ := by
              intro s
              rw [SnapshotRow.restore]
              split <;> rfl
            simp only [keys, List.map_map, Function.comp_def, hkeeps]
  rw [transact]
  split
  · next t' hok =>
    induction statements generalizing t with
    | nil => cases hok; rfl
    | cons stmt statements ih =>
        rw [List.foldlM_cons] at hok
        cases hs : t.exec casts stmt with
        | error e => rw [hs] at hok; cases hok
        | ok u =>
            rw [hs] at hok
            exact (ih u hok).trans (hexec t u stmt hs)
  · rfl

/-- So does a request. -/
theorem keys_touch (seen : List (UUID × Instant)) (rows : List PosEvent) :
    keys { t with stores := t.stores.map (StoreRow.touch seen now), events := t.events ++ rows } =
      t.keys := by
  have hkeeps : ∀ s : StoreRow,
      (⟨(s.touch seen now).id, (s.touch seen now).code⟩ : Store) = ⟨s.id, s.code⟩ := by
    intro s
    rw [StoreRow.touch]
    split <;> rfl
  simp only [keys, List.map_map, Function.comp_def, hkeeps]

/-- From complete tables no run changes the keys. -/
theorem Complete.reaches (h : t.Complete) (hr : tables.Reaches t t') :
    t'.keys = t.keys ∧ t'.Complete := by
  refine hr.invariant (I := fun u => u.keys = t.keys ∧ u.Complete) ⟨rfl, h⟩ fun u l u' _ hu hs => ?_
  obtain ⟨hkeys, hcomplete⟩ := hu
  have hkeeps : u'.keys = u.keys := by
    cases l with
    | seed now =>
        cases hs
        rw [hcomplete.seed now]
    | cleanup casts runTag snapshot =>
        cases hs
        exact keys_transact casts u _
    | commit rows seen now =>
        cases hs
        exact keys_touch seen rows
  exact ⟨hkeeps.trans hkeys, hcomplete.of_keys hkeeps⟩

end Tables

/-- A seed of tables with their keys: it fails exactly when the code or SKU of one of its rows is
free and the id of that row stands under another one, and then changes nothing.  Else it keeps every
row, adds the seeds whose code or SKU was free, and every seeded code and SKU is there once; and
from then on no run of seeds, cleanups and requests changes an id, a code or a SKU, so every further
seed does nothing. -/
theorem seed_catalogue {now : Instant} {t t' : Tables} {result : Except InsertError Unit}
    (h : t.Keyed) (hseed : seed now t = (result, t')) :
    ((∃ e, result = .error e) ↔ t.Blocked) ∧ ((∃ e, result = .error e) → t' = t) ∧
    t'.Keyed ∧ (t.Consistent → t'.Consistent) ∧
    (result = .ok () →
      (t'.events = t.events ∧
        (∃ stores, t'.stores = t.stores ++ stores ∧ ∀ row ∈ stores,
          ∃ s ∈ seedStores, row = s.row now ∧ s.code ∉ t.stores.map StoreRow.code) ∧
        ∃ products, t'.products = t.products ++ products ∧ ∀ row ∈ products,
          ∃ p ∈ seedProducts, row = p.row now ∧ p.sku ∉ t.products.map ProductRow.sku) ∧
      ((∀ s ∈ seedStores, (t'.stores.map StoreRow.code).count s.code = 1) ∧
        ∀ p ∈ seedProducts, (t'.products.map ProductRow.sku).count p.sku = 1) ∧
      ∀ u, tables.Reaches t' u → u.keys = t'.keys ∧ ∀ later, seed later u = (.ok (), u)) := by
  rcases Tables.seed_cases now t with ⟨hblocked, hfails⟩ | ⟨hfree, hs, hp, hok⟩
  · rw [hfails] at hseed
    cases hseed
    exact ⟨⟨fun _ => hblocked, fun _ => ⟨_, rfl⟩⟩, fun _ => rfl, h, id, fun hok => by cases hok⟩
  · rw [hok] at hseed
    cases hseed
    have hkeyed := h.seeded hs hp
    have hcomplete := Tables.complete_seeded now t
    refine ⟨⟨fun ⟨_, he⟩ => (by cases he), fun hb => absurd hb hfree⟩, fun ⟨_, he⟩ => (by cases he),
      hkeyed, fun hc => ?_, fun _ => ⟨⟨rfl, ⟨_, rfl, ?_⟩, ⟨_, rfl, ?_⟩⟩, ⟨?_, ?_⟩, fun u hr => ?_⟩⟩
    · refine ⟨hc.eventIds, fun e he => ?_, fun e he => ?_, hc.originalForeignKey, hc.saleOriginal,
        hc.refundOriginal⟩
      · obtain ⟨s, hs, hid⟩ := hc.storeForeignKey e he
        exact ⟨s, List.mem_append_left _ hs, hid⟩
      · obtain ⟨p, hp, hid⟩ := hc.productForeignKey e he
        exact ⟨p, List.mem_append_left _ hp, hid⟩
    · intro row hrow
      obtain ⟨hm, hcode⟩ := mem_absent.mp hrow
      obtain ⟨s, hs, rfl⟩ := List.mem_map.mp hm
      exact ⟨s, hs, rfl, hcode⟩
    · intro row hrow
      obtain ⟨hm, hsku⟩ := mem_absent.mp hrow
      obtain ⟨p, hp, rfl⟩ := List.mem_map.mp hm
      exact ⟨p, hp, rfl, hsku⟩
    · exact fun s hs => List.count_eq_one_of_mem hkeyed.stores.keys (hcomplete.1 s hs)
    · exact fun p hp => List.count_eq_one_of_mem hkeyed.products.keys (hcomplete.2 p hp)
    · obtain ⟨hkeys, hcomplete'⟩ := hcomplete.reaches hr
      exact ⟨hkeys, hcomplete'.seed⟩

namespace Sample

/-- Tables with a store under an id of its own. -/
def tablesWith (id : UUID) (code : String) : Tables :=
  ⟨[⟨id, "New York", code, "America/New_York", 0, "", "", true, none, 1, 1⟩], [], []⟩

-- a store that was seeded and then got another code
example : (seed 5 (tablesWith (stableId "store" "MAD-NYC") "MAD-NEWARK")).1 =
    .error .uniqueViolation := by decide +kernel

end Sample

/-- A store that has a code of the seed is kept, and the other four are added. -/
theorem seed_catalogue_around_a_store :
    ∃ t', seed 5 (Sample.tablesWith 7 "MAD-NYC") = (.ok (), t') ∧
      t'.stores.map StoreRow.id = [7, stableId "store" "MAD-MADRID", stableId "store" "MAD-LONDON",
        stableId "store" "MAD-TOKYO", stableId "store" "MAD-WARSAW"] ∧
      t'.Keyed ∧ ∀ later, seed later t' = (.ok (), t') := by
  have hresult : (seed 5 (Sample.tablesWith 7 "MAD-NYC")).1 = .ok () := by decide +kernel
  have hids : (seed 5 (Sample.tablesWith 7 "MAD-NYC")).2.stores.map StoreRow.id =
      [7, stableId "store" "MAD-MADRID", stableId "store" "MAD-LONDON",
        stableId "store" "MAD-TOKYO", stableId "store" "MAD-WARSAW"] := by decide +kernel
  have hkeyed : (Sample.tablesWith 7 "MAD-NYC").Keyed :=
    ⟨⟨List.nodup_singleton _, List.nodup_singleton _⟩, ⟨List.nodup_nil, List.nodup_nil⟩⟩
  cases hseed : seed 5 (Sample.tablesWith 7 "MAD-NYC") with
  | mk result t' =>
      rw [hseed] at hresult hids
      obtain ⟨-, -, hkeyed', -, hok⟩ := seed_catalogue hkeyed hseed
      cases hresult
      obtain ⟨-, -, hruns⟩ := hok rfl
      exact ⟨t', rfl, hids, hkeyed', (hruns t' System.Reaches.refl).2⟩

end StorePulse
