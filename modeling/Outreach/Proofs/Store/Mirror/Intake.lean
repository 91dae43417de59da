import Outreach.Proofs.Store.Mirror.Basic

/-!
# Customers and Orders in Two Stores

Asked for customers, a store and its mirror find the same ones in the same order. A
customer is refused by both because of the same email, or taken by both. An order goes
to the same customer, whose spend, visits and last visit change alike.

## Theorems

* `Mirror.customerByEmail`, `Mirror.countMatching`, `Mirror.findMatching`: What the
  stores are asked.
* `Mirror.saveCustomer`, `Mirror.saveOrder`, `Mirror.applyOrder`: What changes them.
-/

namespace Outreach

/-- Every value of a customer that can be stored can be written. -/
theorem Customer.Storable.ensureWritable {c : Customer} (hc : c.Storable)
    (hvisits : fitsColumn c.visits = true) : Database.ensureWritable c = .ok () := by
  have hphone : Database.ensurePhone c.phone = .ok () := by
    have hphone := hc.phone
    cases hp : c.phone with
    | null => rfl
    | text t =>
        rw [hp] at hphone
        exact Mirror.ensureEncodable_of_whole hphone
    | _ =>
        rw [hp] at hphone
        exact hphone.elim
  simp only [Database.ensureWritable, Mirror.ensureEncodable_of_whole hc.wholeName,
    Mirror.ensureEncodable_of_whole hc.wholeEmail, hphone, hvisits, bind, Except.bind,
    Bool.not_true, Bool.false_eq_true, if_false, pure, Except.pure]

namespace Mirror

variable {m : Memory} {d : Database}

/-! ## Customers -/

/-- Every row is that of a customer. -/
theorem exists_customer (h : Mirror m d) {r : CustomerRow} (hr : r ∈ d.tables.customers) :
    ∃ c ∈ m.tables.customers, r.customer = c.row := by
  have hmem : r.customer ∈ m.tables.customers.map Customer.row := by
    rw [← h.kept.customers]
    exact List.mem_map_of_mem hr
  rcases List.mem_map.1 hmem with ⟨c, hc, hrow⟩
  exact ⟨c, hc, hrow.symm⟩

theorem mapM_loaded {rows : List CustomerRow} {cs : List Customer}
    (h : rows.map CustomerRow.customer = cs.map Customer.row) (hcs : ∀ c ∈ cs, c.Storable) :
    rows.mapM Database.loaded = .ok (cs.map Customer.kept) := by
  induction cs generalizing rows with
  | nil =>
      rw [List.map_nil, List.map_eq_nil_iff] at h
      rw [h]
      rfl
  | cons c cs ih =>
      cases rows with
      | nil => cases h
      | cons r rows =>
          rw [List.map_cons, List.map_cons, List.cons.injEq] at h
          have hrest := ih h.2 fun c hc => hcs c (List.mem_cons_of_mem _ hc)
          rw [List.mapM_cons, Customer.loaded_row (hcs c List.mem_cons_self) h.1, hrest]
          rfl

/-- Both stores find the customer with an email, or none of them does. -/
theorem customerByEmail (h : Mirror m d) {email : Text} (hemail : email.Whole) :
    d.customerByEmail email = .ok ((m.customerByEmail email).map Customer.kept) := by
  have hfound : (d.tables.customers.find? fun r => r.customer.email = normalEmail email).map
      CustomerRow.customer = (m.customerByEmail email).map Customer.row := by
    have hrows := congrArg (List.find? fun c : Customer => c.email = normalEmail email)
      h.kept.customers
    rwa [List.find?_map, List.find?_map] at hrows
  simp only [Database.customerByEmail, Database.customerRows, h.reachable, if_true, bind,
    Except.bind, ensureEncodable_of_whole (whole_normalEmail hemail)]
  cases hc : m.customerByEmail email with
  | none =>
      rw [hc, Option.map_none, Option.map_eq_none_iff] at hfound
      rw [hfound]
      rfl
  | some c =>
      rw [hc, Option.map_some, Option.map_eq_some_iff] at hfound
      rcases hfound with ⟨r, hr, hrow⟩
      have hstorable : c.Storable := h.orderly.customers c (List.mem_of_find?_eq_some hc)
      rw [hr, Option.mapM_some, Customer.loaded_row hstorable hrow]
      rfl

/-- The parameters of a clause that is made of comparisons which suit fit their
    columns. -/
theorem fits_parameters {k : Clause} {p : Predicate} (hp : p.Portable)
    (hk : k.MadeOf p.comparisons) :
    ((k.conditions.flatMap SqlCondition.parameters).any fun q => !q.2.fitsColumn) = false := by
  have hnumbered : ∀ ts before : List ClauseTerm,
      (∀ x ∈ ts.filterMap ClauseTerm.comparison?, x.value.sqlValue.fitsColumn = true) →
        ((numbered before ts).flatMap SqlCondition.parameters).any (fun q => !q.2.fitsColumn) =
          false := by
    intro ts
    induction ts with
    | nil => exact fun _ _ => rfl
    | cons t rest ih =>
        intro before hfits
        cases t with
        | always => exact ih _ hfits
        | never => exact ih _ hfits
        | compare column x v =>
            have hvalue : v.sqlValue.fitsColumn = true := hfits ⟨column, x, v⟩ List.mem_cons_self
            have hrest := ih (before ++ [.compare column x v])
              fun y hy => hfits y (List.mem_cons_of_mem _ hy)
            rw [numbered, List.flatMap_cons, List.any_append, hrest]
            simp only [SqlCondition.parameters, SqlExpr.parameters, List.nil_append, List.any_cons,
              List.any_nil, hvalue, Bool.not_true, Bool.or_false]
  refine hnumbered _ [] fun x hx => ?_
  rw [hk.comparisons] at hx
  rcases Predicate.suitable_comparisons p hp x hx with ⟨a, -, hsuits⟩
  rcases x with ⟨column, comparator, value⟩
  cases value with
  | double y => rfl
  | time t => rfl
  | int n =>
      have hbounds : -2 ^ 31 ≤ n ∧ n < 2 ^ 31 := by
        cases a with
        | totalSpends => exact hsuits
        | visits => exact hsuits
        | _ => exact hsuits.elim
      have hlimit : wordLimit = 2 ^ 63 := by decide
      simp only [Operand.sqlValue, SqlValue.fitsColumn, fitsColumn, hlimit, Bool.and_eq_true,
        decide_eq_true_eq]
      omega

/-- A query selects the rows of the customers that a predicate matches. -/
theorem select (h : Mirror m d) {p : Predicate} (hp : p.Portable) (complaint : Text)
    (now : Timestamp) : ∃ rows cs, d.select complaint p now = .ok rows ∧ m.matching p = .ok cs ∧
      cs.Sublist m.tables.customers ∧
        rows.map CustomerRow.customer = cs.map Customer.row := by
  rcases p.exists_clause hp with ⟨k, hk, hmade⟩
  let test : Customer → Bool := fun c =>
    k.conditions.all fun x => x.holds (SqlRow.column (CustomerRow.mk c now)) now
  -- The time of change of a row makes no difference.
  have htest : ∀ c ∈ m.tables.customers, ∀ r : CustomerRow, r.customer = c.row →
      p.matches c = .ok (k.conditions.all fun x => x.holds (SqlRow.column r) now) :=
    fun c hc r hr => Customer.matches_eq_all_conditions (h.orderly.customers c hc) hr hp hmade now
  refine ⟨d.tables.customers.filter fun r => k.conditions.all fun x =>
    x.holds (SqlRow.column r) now, m.tables.customers.filter (test ∘ Customer.row), ?_, ?_,
    List.filter_sublist, ?_⟩
  · simp only [Database.select, hk, bind, Except.bind, h.reachable, fits_parameters hp hmade,
      Bool.not_true, Bool.false_eq_true, if_false, pure, Except.pure]
  · exact Memory.filterM_of_ok fun c hc => htest c hc ⟨c.row, now⟩ rfl
  · have hrows : (d.tables.customers.filter fun r => k.conditions.all fun x =>
        x.holds (SqlRow.column r) now) =
          d.tables.customers.filter (test ∘ CustomerRow.customer) := by
      refine List.filter_congr fun r hr => ?_
      rcases h.exists_customer hr with ⟨c, hc, hrow⟩
      have hboth := (htest c hc r hrow).symm.trans (htest c hc ⟨r.customer, now⟩ hrow)
      exact Except.ok.inj hboth
    rw [hrows, ← List.filter_map, h.kept.customers, List.filter_map]

/-- Both stores count the same audience. -/
theorem countMatching (h : Mirror m d) {p : Predicate} (hp : p.Portable) (now : Timestamp) :
    ∃ n, m.countMatching p = .ok n ∧ d.countMatching p now = .ok n ∧
      n ≤ m.tables.customers.length := by
  rcases h.select hp "Customer count failed: " now with ⟨rows, cs, hrows, hcs, hsub, hsame⟩
  have hlength : rows.length = cs.length := by
    rw [← List.length_map CustomerRow.customer, hsame, List.length_map]
  refine ⟨cs.length, ?_, ?_, hsub.length_le⟩
  · simp only [Memory.countMatching, Memory.ensureAvailable, h.available, if_true, hcs, bind,
      Except.bind, pure, Except.pure]
  · simp only [Database.countMatching, hrows, bind, Except.bind, pure, Except.pure, hlength]

/-- Both stores find the same audience in the same order. -/
theorem findMatching (h : Mirror m d) {p : Predicate} (hp : p.Portable) (now : Timestamp) :
    ∃ cs, m.findMatching p = .ok cs ∧ d.findMatching p now = .ok (cs.map Customer.kept) ∧
      ∀ c ∈ cs, c.Storable := by
  rcases h.select hp "Customer query failed: " now with ⟨rows, cs, hrows, hcs, hsub, hsame⟩
  have hstorable : ∀ c ∈ cs, c.Storable := fun c hc => h.orderly.customers c (hsub.subset hc)
  have hsorted : ∀ c ∈ inTimeOrder (·.createdAt.instant) Customer.id cs, c.Storable :=
    fun c hc => hstorable c ((List.mergeSort_perm _ _).mem_iff.1 hc)
  refine ⟨inTimeOrder (·.createdAt.instant) Customer.id cs, ?_, ?_, hsorted⟩
  · simp only [Memory.findMatching, Memory.ensureAvailable, h.available, if_true, hcs, bind,
      Except.bind, pure, Except.pure]
  · simp only [Database.findMatching, hrows, bind, Except.bind]
    refine mapM_loaded ?_ hsorted
    -- In universal time the clocks of the rows show the instants.
    have hwall : ∀ c ∈ cs, c.createdAt.instant = c.row.createdAt.wall := fun c hc =>
      (Timestamp.wall_of_utc (hstorable c hc).createdAt).symm
    let earlier : Customer → Customer → Bool := fun a b =>
      noLater (a.createdAt.wall, a.id) (b.createdAt.wall, b.id)
    have hbyRow : (Database.rowsByTime rows).map CustomerRow.customer =
        (rows.map CustomerRow.customer).mergeSort earlier :=
      List.map_mergeSort fun _ _ _ _ => rfl
    have hbyCustomer : (inTimeOrder (·.createdAt.instant) Customer.id cs).map Customer.row =
        (cs.map Customer.row).mergeSort earlier := by
      refine List.map_mergeSort fun a ha b hb => ?_
      simp only [hwall a ha, hwall b hb]
      rfl
    rw [hbyRow, hbyCustomer, hsame]

/-- Both stores take a customer with a new identifier, or refuse the email. -/
theorem saveCustomer (h : Mirror m d) {c : Customer} (hc : c.Storable)
    (hvisits : fitsColumn c.visits = true) (hnew : c.id ∉ m.tables.customers.map Customer.id)
    (now : Timestamp) :
    (∃ f, m.saveCustomer c = .error f ∧ d.saveCustomer c now = .error f) ∨
      ∃ m' d', m.saveCustomer c = .ok m' ∧ d.saveCustomer c now = .ok d' ∧ Mirror m' d' ∧
        m'.tables.ids ⊆ c.id :: m.tables.ids := by
  -- Rows and customers are asked for the same email and identifier.
  have htaken : (d.tables.customers.any fun r => r.customer.email = c.email && r.id != c.id) =
      m.tables.customers.any fun x => x.email = c.email && x.id != c.id := by
    have hany := congrArg (List.any · fun x : Customer => x.email = c.email && x.id != c.id)
      h.kept.customers
    simp only [List.any_map] at hany
    exact hany
  simp only [Memory.saveCustomer, Database.saveCustomer, hc.ensureWritable hvisits, hc.number,
    htaken, bind, Except.bind, Bool.false_or]
  by_cases hdup : (m.tables.customers.any fun x => x.email = c.email && x.id != c.id) = true
  · rw [if_pos hdup, if_pos hdup]
    exact Or.inl ⟨_, rfl, rfl⟩
  · rw [if_neg hdup, if_neg hdup]
    have hkeys : d.tables.customers.map CustomerRow.id = m.tables.customers.map Customer.id :=
      keys_of_views (fun _ => rfl) (fun _ => rfl) h.kept.customers
    have habsent : lookUp CustomerRow.id c.id d.tables.customers = none :=
      lookUp_eq_none_iff.2 (by rwa [hkeys])
    have hrow : upsert CustomerRow.id (Database.customerRow c now) d.tables.customers =
        d.tables.customers ++ [Database.customerRow c now] :=
      upsert_of_new (by rw [hkeys]; exact hnew)
    rw [habsent]
    refine Or.inr ⟨_, _, rfl, rfl, h.withTables ?_ ?_, ?_⟩
    · refine { h.kept with customers := ?_ }
      simp only [upsert_of_new hnew, hrow, List.map_append, h.kept.customers]
      rfl
    · refine { h.orderly with customers := ?_, emails := ?_ }
      · intro x hx
        rcases mem_upsert hx with rfl | hx
        · exact hc
        · exact h.orderly.customers x hx
      · simp only [upsert_of_new hnew, List.map_append]
        refine h.orderly.emails.append (List.nodup_singleton _) (List.disjoint_singleton.2 ?_)
        intro hmem
        rcases List.mem_map.1 hmem with ⟨x, hx, hemail⟩
        -- Another customer with the email would have been noticed.
        have hother : x.id ≠ c.id := fun hid => hnew (List.mem_map.2 ⟨x, hx, hid⟩)
        exact hdup (List.any_eq_true.2 ⟨x, hx, by simp only [hemail, decide_true, Bool.true_and,
          bne_iff_ne, ne_eq, hother, not_false_eq_true]⟩)
    · intro id hid
      simp only [Memory.withTables, Tables.mem_ids, mem_keys_upsert, List.mem_cons] at hid ⊢
      tauto

/-! ## Orders -/

/-- Both stores take an order with a new identifier. -/
theorem saveOrder (h : Mirror m d) {o : Order} (ho : o.Storable)
    (hnew : o.id ∉ m.tables.orders.map Order.id) :
    let m' := m.withTables fun t => { t with orders := upsert Order.id o t.orders }
    ∃ d', d.saveOrder o = .ok d' ∧ Mirror m' d' ∧ m'.tables.ids ⊆ o.id :: m.tables.ids := by
  intro m'
  have hkeys : d.tables.orders.map Order.id = m.tables.orders.map Order.id := by
    rw [h.kept.orders, List.map_map]
    rfl
  have hinsert : Database.insertNew Order.id d.tables.orders [Database.orderRow o] =
      .ok (d.tables.orders ++ [Database.orderRow o]) := by
    have habsent : lookUp Order.id (Database.orderRow o).id d.tables.orders = none :=
      lookUp_eq_none_iff.2 (by rw [hkeys]; exact hnew)
    rw [Database.insertNew, habsent, Option.isSome_none, if_neg Bool.false_ne_true,
      Database.insertNew]
  simp only [Database.saveOrder, ensureEncodable_of_whole ho.wholeEmail, ho.number, hinsert, bind,
    Except.bind, Bool.false_eq_true, if_false, pure, Except.pure]
  refine ⟨_, rfl, h.withTables ?_ ?_, ?_⟩
  · refine { h.kept with orders := ?_ }
    simp only [upsert_of_new hnew, List.map_append, h.kept.orders]
    rfl
  · refine { h.orderly with orders := ?_ }
    intro x hx
    rcases mem_upsert hx with rfl | hx
    · exact ho
    · exact h.orderly.orders x hx
  · intro id hid
    simp only [m', Memory.withTables, Tables.mem_ids, mem_keys_upsert, List.mem_cons] at hid ⊢
    tauto

/-- What is done to each customer and to its row. -/
theorem customers_map {rows : List CustomerRow} {cs : List Customer} {f : CustomerRow → CustomerRow}
    {g : Customer → Customer} (h : rows.map CustomerRow.customer = cs.map Customer.row)
    (hfg : ∀ r, ∀ c ∈ cs, r.customer = c.row → (f r).customer = (g c).row) :
    (rows.map f).map CustomerRow.customer = (cs.map g).map Customer.row := by
  induction cs generalizing rows with
  | nil =>
      rw [List.map_nil, List.map_eq_nil_iff] at h
      rw [h]
      rfl
  | cons c cs ih =>
      cases rows with
      | nil => cases h
      | cons r rows =>
          rw [List.map_cons, List.map_cons, List.cons.injEq] at h
          have hrest := ih h.2 fun r c hc => hfg r c (List.mem_cons_of_mem _ hc)
          rw [List.map_cons, List.map_cons, List.map_cons, List.map_cons, hrest,
            hfg r c List.mem_cons_self h.1]

theorem isEmpty_filterMap {α β : Type} (f : α → Option β) (xs : List α) :
    (!(xs.filterMap f).isEmpty) = xs.any fun x => (f x).isSome := by
  induction xs with
  | nil => rfl
  | cons x rest ih =>
      rw [List.any_cons, List.filterMap_cons]
      cases f x with
      | none => exact ih
      | some y => rfl

/-- A customer after an order that came in under an email. -/
def orderedBy (email : Text) (amount : Double) (time : Timestamp) (c : Customer) : Customer :=
  if c.email = email then (c.recordOrder amount time).1 else c

section

variable {email : Text} {amount : Double} {time : Timestamp}

theorem email_orderedBy (c : Customer) : (orderedBy email amount time c).email = c.email := by
  rw [orderedBy, Customer.recordOrder]
  by_cases he : c.email = email
  · rw [if_pos he]
    cases inUtc time <;> rfl
  · rw [if_neg he]

theorem id_orderedBy (c : Customer) : (orderedBy email amount time c).id = c.id := by
  rw [orderedBy, Customer.recordOrder]
  by_cases he : c.email = email
  · rw [if_pos he]
    cases inUtc time <;> rfl
  · rw [if_neg he]

/-- Where each email is there once, the first customer that has it is the only one. -/
theorem applyTo_eq (amount : Double) {t : Timestamp} (ht : inUtc time = .ok t)
    {cs : List Customer} (hemails : (cs.map Customer.email).Nodup) :
    Memory.applyTo email amount time cs =
      (cs.map (orderedBy email amount time), .ok (cs.any fun c => c.email = email)) := by
  induction cs with
  | nil => rfl
  | cons c rest ih =>
      rcases List.nodup_cons.1 hemails with ⟨hfresh, hrest⟩
      rw [Memory.applyTo, List.map_cons, List.any_cons]
      by_cases hc : c.email = email
      · have hothers : ∀ x ∈ rest, orderedBy email amount time x = id x := by
          refine fun x hx => if_neg fun hemail => hfresh ?_
          rw [hc, ← hemail]
          exact List.mem_map_of_mem hx
        rw [if_pos hc, List.map_congr_left hothers, List.map_id, orderedBy, if_pos hc,
          Customer.recordOrder, ht, decide_eq_true hc]
        rfl
      · rw [if_neg hc, ih hrest, orderedBy, if_neg hc, decide_eq_false hc, Bool.false_or]

variable (hamount : amount.isNaN = false) (hpositive : amount.le Double.zero = false)
  (htime : inUtc time = .ok time)

include hamount hpositive htime

/-- The row of a customer is changed just if the order is the customer's, and then keeps
    the customer after the order. -/
theorem changed?_row {c : Customer} (hc : c.Storable) {r : CustomerRow} (hr : r.customer = c.row)
    (now : Timestamp) :
    (applyOrderUpdate email amount time).leavesNull now r = false ∧
      ((applyOrderUpdate email amount time).changed? now r).isSome =
        decide (r.customer.email = normalEmail email) ∧
      (((applyOrderUpdate email amount time).changed? now r).getD r).customer =
        (orderedBy (normalEmail email) amount time c).row := by
  rcases Double.add_of_positive hc.number hc.spend hamount hpositive with
    ⟨rank, hle, hadd, hstored⟩
  have hspend : r.customer.totalSpends.isNaN = false := by
    rw [hr]
    exact (Double.isNaN_storedDouble _).trans hc.number
  have hsum : r.customer.totalSpends.add amount = .number false rank hle := by
    rw [hr]
    exact hstored
  rcases SqlUpdate.changed?_applyOrder now r email time hspend (by rw [hsum]; rfl) with
    ⟨hnull, hchanged⟩
  refine ⟨hnull, ?_⟩
  have hsame : r.customer.email = c.email := by
    rw [hr]
    rfl
  rw [hchanged, orderedBy]
  by_cases he : c.email = normalEmail email
  · rw [if_pos (hsame.trans he), if_pos he, decide_eq_true (hsame.trans he), hsum, hr,
      Customer.recordOrder, htime]
    refine ⟨rfl, ?_⟩
    simp only [Option.getD_some, Customer.row, Database.customerRow, hadd,
      Double.storedDouble_of_positive]
  · have hne : ¬r.customer.email = normalEmail email := by rwa [hsame]
    rw [if_neg hne, if_neg he, decide_eq_false hne]
    exact ⟨rfl, hr⟩

/-- Both stores apply an order to the same customer. -/
theorem applyOrder (h : Mirror m d) (hemail : email.Whole) (now : Timestamp) :
    ∃ m' d' found, m.applyOrder email amount time = (m', .ok found) ∧
      d.applyOrder email amount time now = .ok (d', found) ∧ Mirror m' d' ∧
        m'.tables.ids ⊆ m.tables.ids := by
  have hrow : ∀ r ∈ d.tables.customers, ∃ c : Customer, c.Storable ∧ r.customer = c.row := by
    intro r hr
    rcases h.exists_customer hr with ⟨c, hc, hrc⟩
    exact ⟨c, h.orderly.customers c hc, hrc⟩
  have hnull : (d.tables.customers.any fun r =>
      (applyOrderUpdate email amount time).leavesNull now r) = false := by
    rw [List.any_eq_false]
    intro r hr
    rcases hrow r hr with ⟨c, hc, hrc⟩
    rw [(changed?_row hamount hpositive htime hc hrc now).1]
    exact Bool.false_ne_true
  have hfound : (!(d.tables.customers.filterMap
      ((applyOrderUpdate email amount time).changed? now)).isEmpty) =
        m.tables.customers.any fun c => c.email = normalEmail email := by
    have hany := congrArg (List.any · fun c : Customer => c.email = normalEmail email)
      h.kept.customers
    simp only [List.any_map] at hany
    refine (isEmpty_filterMap _ _).trans (Eq.trans ?_ hany)
    rw [Bool.eq_iff_iff, List.any_eq_true, List.any_eq_true]
    refine exists_congr fun r => and_congr_right fun hr => ?_
    rcases hrow r hr with ⟨c, hc, hrc⟩
    rw [(changed?_row hamount hpositive htime hc hrc now).2.1]
    rfl
  refine ⟨m.withTables fun t => { t with
      customers := t.customers.map (orderedBy (normalEmail email) amount time) },
    d.withTables fun t => { t with customers := t.customers.map fun r =>
      ((applyOrderUpdate email amount time).changed? now r).getD r },
    m.tables.customers.any fun c => c.email = normalEmail email, ?_, ?_, h.withTables ?_ ?_, ?_⟩
  · rw [Memory.applyOrder, applyTo_eq amount htime h.orderly.emails]
    rfl
  · rw [← hfound]
    simp only [Database.applyOrder, ensureEncodable_of_whole (whole_normalEmail hemail), bind,
      Except.bind]
    rw [if_neg (by rw [hnull]; exact Bool.false_ne_true)]
    rfl
  · refine { h.kept with customers := customers_map h.kept.customers fun r c hc hrc => ?_ }
    exact (changed?_row hamount hpositive htime (h.orderly.customers c hc) hrc now).2.2
  · refine { h.orderly with customers := fun x hx => ?_, emails := ?_ }
    · rcases List.mem_map.1 hx with ⟨c, hc, rfl⟩
      rw [orderedBy]
      by_cases he : c.email = normalEmail email
      · rw [if_pos he]
        exact (h.orderly.customers c hc).recordOrder hamount hpositive htime
      · rw [if_neg he]
        exact h.orderly.customers c hc
    · simp only [List.map_map, Function.comp_def, email_orderedBy]
      exact h.orderly.emails
  · simp only [Memory.withTables, Tables.ids, List.map_map, Function.comp_def, id_orderedBy]
    exact List.Subset.refl _

end

end Mirror

end Outreach
