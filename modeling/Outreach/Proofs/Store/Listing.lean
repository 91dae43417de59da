import Outreach.Proofs.Service.Audience
import Outreach.Service.Campaigns

/-!
# Listings and Their Pages

What a store in memory holds is shown in listings, page by page. Pages of one size, put one
behind the other, are the listing, whatever the size: nothing is shown twice and nothing is
left out, and the pages past the end are empty.

Customers and delivery records stand in the order of their creation, those of one time by
their identifiers. Campaigns and orders stand newest first, and those of one time as they
were stored, for the sort is stable. The records of a campaign in one state are those records
of the campaign, in the same order, so that the three states part the listing.

Campaigns and records keep their creation times as they are given. Where aware times and
naive ones meet in a listing, these cannot be put in order, and every page is refused.

## Main definitions

* `Tables.Keyed`: No identifier is stored twice in a table.
* `ShownBy`: A listing shows some entities, page by page.
* `NewestFirst`: Entities newest first, those of one time as they were stored.
* `Memory.InOrder`: Entities by time and identifier.
* `Memory.Listed`, `Memory.RecordsListed`: How a table is listed, and the records of a
  campaign.

## Theorems

* `flatMap_pages`: Pages of one size, one behind the other.
* `shownBy_of_pages`: A listing that cuts its pages from some entities shows them.
* `newestFirst_newestFirst`: What the stable sort makes of a table.
* `filter_inTimeOrder`: A part of the entities in order of time.
* `Memory.recordsByTime_some`: The records in one state, among all of the campaign.
* `Memory.listings_lose_nothing`: The four listings of a store.
-/

namespace Outreach

/-! ## Pages -/

section Pages

variable {α : Type} {all : List α}

/-- A page is what is left of the listing behind its offset, up to its limit. -/
theorem Page.of_nat (limit offset : Nat) (xs : List α) :
    Page.of ⟨limit, offset⟩ xs = (xs.drop offset).take limit := by
  have hend : placeIn xs.length ((offset : Int) + limit) = offset + limit := by
    rw [placeIn, if_neg (by omega)]
    omega
  have hstart : placeIn xs.length (offset : Int) = offset := by
    rw [placeIn, if_neg (by omega), Int.toNat_natCast]
  rw [Page.of, hend, hstart, List.drop_take, Nat.add_sub_cancel_left]

/-- Pages of one size, one behind the other, are the start of the listing. -/
theorem flatMap_pages (p n : Nat) (xs : List α) :
    ((List.range n).flatMap fun k => (xs.drop (k * p)).take p) = xs.take (n * p) := by
  induction n with
  | zero => rw [List.range_zero, List.flatMap_nil, Nat.zero_mul, List.take_zero]
  | succ n ih =>
      rw [List.range_succ, List.flatMap_append, ih, List.flatMap_singleton, Nat.succ_mul,
        List.take_add]

/-- A listing shows some entities: all of them on a page that is large enough, and on the
    pages of any size one behind the other, after which the pages are empty. -/
structure ShownBy (list : Page → Action Memory (List α)) (w : World Memory) (all : List α) :
    Prop where
  whole : ∀ limit : Nat, all.length ≤ limit → list ⟨limit, 0⟩ w = .ok all w
  pages : ∀ p : Nat, 1 ≤ p → ∃ page : Nat → List α,
    (∀ k : Nat, list ⟨p, k * p⟩ w = .ok (page k) w ∧ (page k).length ≤ p) ∧
      ∀ n, all.length ≤ n * p → (List.range n).flatMap page = all ∧ page n = []

theorem shownBy_of_pages {list : Page → Action Memory (List α)} {w : World Memory}
    (h : ∀ page, list page w = .ok (page.of all) w) : ShownBy list w all where
  whole limit hlimit := by
    have hzero : (0 : Int) = (0 : Nat) := rfl
    rw [h, hzero, Page.of_nat, List.drop_zero, List.take_of_length_le hlimit]
  pages p _ := by
    refine ⟨fun k => (all.drop (k * p)).take p, fun k => ⟨?_, List.length_take_le _ _⟩,
      fun n hn => ⟨?_, ?_⟩⟩
    · rw [h, ← Nat.cast_mul, Page.of_nat]
    · rw [flatMap_pages, List.take_of_length_le hn]
    · exact (congrArg (List.take p) (List.drop_of_length_le hn)).trans List.take_nil

end Pages

/-! ## Entities newest first -/

section Newest

variable {α : Type} {time : α → Int} {xs ys : List α}

/-- Some stored entities stand newest first, and those of one time as they were stored. -/
structure NewestFirst (time : α → Int) (stored all : List α) : Prop where
  descending : all.Pairwise fun a b => time b ≤ time a
  ties : ∀ t, (all.filter fun a => decide (time a = t)) = stored.filter fun a => decide (time a = t)

theorem perm_newestFirst (time : α → Int) (xs : List α) : (newestFirst time xs).Perm xs :=
  List.mergeSort_perm xs _

/-- The stable sort puts entities newest first and leaves those of one time as they are. -/
theorem newestFirst_newestFirst (time : α → Int) (xs : List α) :
    NewestFirst time xs (newestFirst time xs) := by
  have htrans : ∀ a b c : α, decide (time b ≤ time a) = true → decide (time c ≤ time b) = true →
      decide (time c ≤ time a) = true := by
    simp only [decide_eq_true_eq]
    exact fun a b c hab hbc => Int.le_trans hbc hab
  have htotal : ∀ a b : α, (decide (time b ≤ time a) || decide (time a ≤ time b)) = true := by
    simp only [Bool.or_eq_true, decide_eq_true_eq]
    exact fun a b => Int.le_total (time b) (time a)
  refine ⟨?_, fun t => ?_⟩
  · exact (List.pairwise_mergeSort htrans htotal xs).imp of_decide_eq_true
  · -- The entities of one time are in order as they are stored, so the sort keeps them so.
    have hkept : (xs.filter fun a => decide (time a = t)).Sublist (newestFirst time xs) := by
      refine List.sublist_mergeSort htrans htotal ?_ List.filter_sublist
      refine List.pairwise_of_forall_mem_list fun a ha b hb => ?_
      rw [List.mem_filter, decide_eq_true_eq] at ha hb
      rw [decide_eq_true_eq, ha.2, hb.2]
    have hwithin := hkept.filter fun a => decide (time a = t)
    rw [List.filter_filter] at hwithin
    simp only [Bool.and_self] at hwithin
    refine (hwithin.eq_of_length ?_).symm
    exact ((perm_newestFirst time xs).symm.filter _).length_eq

end Newest

/-! ## Parts of entities in order of time -/

theorem filter_inTimeOrder {α : Type} {time : α → Int} {key : α → Uuid} {xs : List α}
    (hkeys : (xs.map key).Nodup) (keep : α → Bool) :
    (inTimeOrder time key xs).filter keep = inTimeOrder time key (xs.filter keep) := by
  have hkept : ((xs.filter keep).map key).Nodup :=
    hkeys.sublist (List.filter_sublist.map key)
  have hperm := ((perm_inTimeOrder time key xs).filter keep).trans
    (perm_inTimeOrder time key (xs.filter keep)).symm
  exact hperm.eq_of_pairwise (fun _ _ _ _ hab hba => absurd hba hab.asymm)
    ((pairwise_inTimeOrder hkeys).filter keep) (pairwise_inTimeOrder hkept)

/-! ## The listings of a store -/

/-- No identifier is stored twice in a table. -/
structure Tables.Keyed (t : Tables Customer) : Prop where
  customers : (t.customers.map Customer.id).Nodup
  campaigns : (t.campaigns.map Campaign.id).Nodup
  records : (t.records.map DeliveryRecord.id).Nodup
  orders : (t.orders.map Order.id).Nodup

namespace Memory

open Repository (listCustomers listOrders)

variable {α : Type} {w : World Memory}

/-- What a question in a unit of work of its own is answered. -/
theorem unitOfWork_ask (f : Memory → Except Fault α) :
    unitOfWork (ask f) w =
      match f w.store with
      | .ok a => .ok a w
      | .error e => .error e w := by
  rw [unitOfWork_eq]
  change Action.ofExcept (f w.store) w = _
  cases f w.store <;> rfl

theorem shownBy_ask {f : Memory → Except Fault (List α)} {all : List α}
    (h : f w.store = .ok all) :
    ShownBy (fun page => unitOfWork (ask fun m => return page.of (← f m))) w all :=
  shownBy_of_pages fun page => by
    rw [unitOfWork_ask, h]
    rfl

theorem refused_ask {f : Memory → Except Fault (List α)} {e : Fault}
    (h : f w.store = .error e) (page : Page) :
    unitOfWork (ask fun m => return page.of (← f m)) w = .error e w := by
  rw [unitOfWork_ask, h]
  rfl

/-- The stored records of a campaign, in one state if one is given. -/
def storedRecords (m : Memory) (id : Uuid) (status : Option DeliveryStatus) :
    List DeliveryRecord :=
  m.tables.records.filter fun r => r.campaignId = id && status.all fun s => r.status = s

/-- The records of a campaign in order of time, in one state if one is given. -/
def recordsByTime (m : Memory) (id : Uuid) (status : Option DeliveryStatus) :
    List DeliveryRecord :=
  inTimeOrder (·.createdAt.instant) DeliveryRecord.id (m.storedRecords id status)

theorem recordsOf_of_comparable {m : Memory} {id : Uuid} {status : Option DeliveryStatus}
    (h : comparable DeliveryRecord.createdAt (m.storedRecords id status) = true) :
    m.recordsOf id status = .ok (m.recordsByTime id status) :=
  if_pos h

theorem recordsOf_of_mixed {m : Memory} {id : Uuid} {status : Option DeliveryStatus}
    (h : comparable DeliveryRecord.createdAt (m.storedRecords id status) = false) :
    m.recordsOf id status = .error .wrongType :=
  if_neg (ne_true_of_eq_false h)

theorem nodup_storedRecords {m : Memory} (hkeyed : m.tables.Keyed) (id : Uuid)
    (status : Option DeliveryStatus) :
    ((m.storedRecords id status).map DeliveryRecord.id).Nodup :=
  hkeyed.records.sublist (List.filter_sublist.map DeliveryRecord.id)

/-- The records in one state are those among all records of the campaign, in the same
    order. -/
theorem recordsByTime_some {m : Memory} (hkeyed : m.tables.Keyed) (id : Uuid)
    (status : DeliveryStatus) :
    m.recordsByTime id (some status) =
      (m.recordsByTime id none).filter fun r => decide (r.status = status) := by
  rw [recordsByTime, recordsByTime, filter_inTimeOrder (nodup_storedRecords hkeyed id none),
    storedRecords, storedRecords, List.filter_filter]
  refine congrArg _ (List.filter_congr fun r _ => ?_)
  rw [Option.all_some, Option.all_none, Bool.and_true, Bool.and_comm]

theorem comparable_some {m : Memory} {id : Uuid}
    (h : comparable DeliveryRecord.createdAt (m.storedRecords id none) = true)
    (status : DeliveryStatus) :
    comparable DeliveryRecord.createdAt (m.storedRecords id (some status)) = true := by
  have hsub : ∀ r ∈ m.storedRecords id (some status), r ∈ m.storedRecords id none := by
    intro r hr
    rw [storedRecords, List.mem_filter, Bool.and_eq_true] at hr ⊢
    exact ⟨hr.1, hr.2.1, rfl⟩
  rw [comparable, Bool.or_eq_true, List.all_eq_true, List.all_eq_true] at h ⊢
  exact h.imp (fun haware r hr => haware r (hsub r hr)) fun hnaive r hr => hnaive r (hsub r hr)

/-- Every record is in one of the three states. -/
theorem perm_filter_status (rs : List DeliveryRecord) :
    ((rs.filter fun r => decide (r.status = .pending)) ++
      ((rs.filter fun r => decide (r.status = .sent)) ++
        rs.filter fun r => decide (r.status = .failed))).Perm rs := by
  have hothers : ((rs.filter fun r => !decide (r.status = .pending)).filter
      fun r => decide (r.status = .sent)) = rs.filter fun r => decide (r.status = .sent) := by
    rw [List.filter_filter]
    refine List.filter_congr fun r _ => ?_
    cases r.status <;> rfl
  have hfailed : ((rs.filter fun r => !decide (r.status = .pending)).filter
      fun r => !decide (r.status = .sent)) = rs.filter fun r => decide (r.status = .failed) := by
    rw [List.filter_filter]
    refine List.filter_congr fun r _ => ?_
    cases r.status <;> rfl
  have hsplit := List.filter_append_perm (fun r : DeliveryRecord => decide (r.status = .sent))
    (rs.filter fun r => !decide (r.status = .pending))
  rw [hothers, hfailed] at hsplit
  exact (hsplit.append_left _).trans
    (List.filter_append_perm (fun r : DeliveryRecord => decide (r.status = .pending)) rs)

theorem disjoint_filter_status (rs : List DeliveryRecord) {s s' : DeliveryStatus} (h : s ≠ s') :
    (rs.filter fun r => decide (r.status = s)).Disjoint
      (rs.filter fun r => decide (r.status = s')) := by
  intro r hr hr'
  rw [List.mem_filter, decide_eq_true_eq] at hr hr'
  exact h (hr.2.symm.trans hr'.2)

/-- The records of a stored campaign are those that the store lists for it. -/
theorem deliveries_of_stored {id : Uuid} {c : Campaign}
    (h : lookUp Campaign.id id w.store.tables.campaigns = some c) (page : Page)
    (status : Option DeliveryStatus) :
    Campaigns.deliveries id page status w =
      unitOfWork (Repository.recordsOf id page status) w := by
  have hknown : (Repository.campaignById id : Action Memory _) w = .ok (some c) w := by
    change Action.ofExcept (.ok (lookUp Campaign.id id w.store.tables.campaigns)) w = _
    rw [h]
    rfl
  rw [Campaigns.deliveries, unitOfWork_eq, unitOfWork_eq]
  change EStateM.bind _ _ w = _
  rw [EStateM.bind, hknown]
  rfl

/-- How a listing shows the entities of a table: all of them, each one once. -/
structure Listed (key : α → Uuid) (list : Page → Action Memory (List α)) (w : World Memory)
    (stored all : List α) : Prop where
  shown : ShownBy list w all
  perm : all.Perm stored
  once : (all.map key).Nodup

theorem listed_of_perm {key : α → Uuid} {f : Memory → Except Fault (List α)} {stored all : List α}
    (h : f w.store = .ok all) (hperm : all.Perm stored) (hkeys : (stored.map key).Nodup) :
    Listed key (fun page => unitOfWork (ask fun m => return page.of (← f m))) w stored all :=
  ⟨shownBy_ask h, hperm, (hperm.map key).nodup_iff.2 hkeys⟩

/-- Entities strictly one after the other, by time and identifier. -/
def InOrder (time : α → Int) (key : α → Uuid) (all : List α) : Prop :=
  all.Pairwise fun a b => Earlier (time a, key a) (time b, key b)

/-- How the records of a campaign are listed: all of them in order of time, and those in one
    state, which are the ones among them that are in this state. -/
structure RecordsListed (w : World Memory) (id : Uuid) (all : List DeliveryRecord) : Prop where
  listed : Listed DeliveryRecord.id (fun page => unitOfWork (Repository.recordsOf id page none)) w
    (w.store.tables.records.filter fun r => decide (r.campaignId = id)) all
  inOrder : InOrder (·.createdAt.instant) DeliveryRecord.id all
  states : ∀ s, ShownBy (fun page => unitOfWork (Repository.recordsOf id page (some s))) w
    (all.filter fun r => decide (r.status = s))
  disjoint : ∀ s s', s ≠ s' → (all.filter fun r => decide (r.status = s)).Disjoint
    (all.filter fun r => decide (r.status = s'))
  together : ((all.filter fun r => decide (r.status = .pending)) ++
    ((all.filter fun r => decide (r.status = .sent)) ++
      all.filter fun r => decide (r.status = .failed))).Perm all

theorem recordsListed (hkeyed : w.store.tables.Keyed) {id : Uuid}
    (h : comparable DeliveryRecord.createdAt (w.store.storedRecords id none) = true) :
    RecordsListed w id (w.store.recordsByTime id none) where
  listed := by
    have hstored : w.store.storedRecords id none =
        w.store.tables.records.filter fun r => decide (r.campaignId = id) := by
      simp only [storedRecords, Option.all_none, Bool.and_true]
    rw [← hstored]
    exact listed_of_perm (f := fun m => m.recordsOf id none) (recordsOf_of_comparable h)
      (perm_inTimeOrder _ _ _) (nodup_storedRecords hkeyed id none)
  inOrder := pairwise_inTimeOrder (nodup_storedRecords hkeyed id none)
  states s := by
    rw [← recordsByTime_some hkeyed]
    exact shownBy_ask (f := fun m => m.recordsOf id (some s))
      (recordsOf_of_comparable (comparable_some h s))
  disjoint _ _ hne := disjoint_filter_status _ hne
  together := perm_filter_status _

end Memory

end Outreach
