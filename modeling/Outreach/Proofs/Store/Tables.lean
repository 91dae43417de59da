import Mathlib.Data.List.Nodup
import Outreach.Store.Tables

/-!
# Tables by Their Keys

What storing an entity does to a table, seen from its keys. Storing never
makes a key occur twice. An entity whose key is new goes to the end, and one
whose key is known takes the place of the entity that had it, so that every
count over the table changes by the difference of the two alone.

## Theorems

* `lookUp_upsert`: What is found after storing.
* `nodup_keys_upsert`: Storing keeps keys apart.
* `upsert_of_new`: A new key goes to the end.
* `upsert_of_lookUp`: Storing what is there already changes nothing.
* `upsert_upsert`: Storing an entity twice.
* `foldl_upsert_of_fresh`, `foldl_upsert_of_new`: So does a batch of new keys.
* `map_upsert_of_known`: A view that cannot tell the two entities apart is the
  same as before.
* `countP_upsert_of_known`: A count changes by the difference of the two.
* `upsert_eq_map`: Storing what is known, one entity at a time.
* `map_upsert`, `lookUp_map`: A view of a table that keeps keys.
* `keys_of_views`, `lookUp_of_views`: Two tables with one view.
-/

namespace Outreach

variable {α β : Type} {key : α → Uuid}

theorem lookUp_cons (id : Uuid) (b : α) (rest : List α) :
    lookUp key id (b :: rest) = if key b = id then some b else lookUp key id rest := by
  by_cases h : key b = id
  · simp only [lookUp, List.find?_cons, h, decide_true, if_true]
  · simp only [lookUp, List.find?_cons, h, decide_false, if_false]

theorem lookUp_upsert (id : Uuid) (a : α) (xs : List α) :
    lookUp key id (upsert key a xs) = if key a = id then some a else lookUp key id xs := by
  induction xs with
  | nil => rw [upsert, lookUp_cons]
  | cons b rest ih =>
      -- The head is replaced, or storing goes on behind it.
      by_cases hb : key b = key a
      · rw [upsert, if_pos hb, lookUp_cons, lookUp_cons, hb]
        by_cases ha : key a = id
        · rw [if_pos ha, if_pos ha]
        · rw [if_neg ha, if_neg ha, if_neg ha]
      · rw [upsert, if_neg hb, lookUp_cons, lookUp_cons, ih]
        by_cases hid : key b = id
        · rw [if_pos hid, if_pos hid, if_neg (fun ha => hb (hid.trans ha.symm))]
        · rw [if_neg hid, if_neg hid]

theorem key_of_lookUp {id : Uuid} {a : α} {xs : List α} (h : lookUp key id xs = some a) :
    key a = id := by
  have hfound := List.find?_some h
  simpa only [decide_eq_true_eq] using hfound

theorem mem_of_lookUp {id : Uuid} {a : α} {xs : List α} (h : lookUp key id xs = some a) :
    a ∈ xs :=
  List.mem_of_find?_eq_some h

theorem lookUp_eq_none_iff {id : Uuid} {xs : List α} :
    lookUp key id xs = none ↔ id ∉ xs.map key := by
  simp only [lookUp, List.find?_eq_none, decide_eq_true_eq, List.mem_map, not_exists, not_and]

theorem exists_lookUp_of_mem {id : Uuid} {xs : List α} (h : id ∈ xs.map key) :
    ∃ a, lookUp key id xs = some a := by
  cases hl : lookUp key id xs with
  | none => exact absurd h (lookUp_eq_none_iff.1 hl)
  | some a => exact ⟨a, rfl⟩

theorem mem_keys_of_lookUp {id : Uuid} {a : α} {xs : List α} (h : lookUp key id xs = some a) :
    id ∈ xs.map key :=
  List.mem_map.2 ⟨a, mem_of_lookUp h, key_of_lookUp h⟩

/-- Where keys are apart, an entity is found by its own. -/
theorem lookUp_of_mem {a : α} {xs : List α} (hkeys : (xs.map key).Nodup) (h : a ∈ xs) :
    lookUp key (key a) xs = some a := by
  rcases exists_lookUp_of_mem (List.mem_map_of_mem (f := key) h) with ⟨b, hb⟩
  have hab : b = a := List.inj_on_of_nodup_map hkeys (mem_of_lookUp hb) h (key_of_lookUp hb)
  rw [hb, hab]

theorem keys_upsert (a : α) (xs : List α) :
    (upsert key a xs).map key =
      if key a ∈ xs.map key then xs.map key else xs.map key ++ [key a] := by
  induction xs with
  | nil => rfl
  | cons b rest ih =>
      by_cases hb : key b = key a
      · rw [upsert, if_pos hb, List.map_cons, List.map_cons, hb, if_pos List.mem_cons_self]
      · rw [upsert, if_neg hb, List.map_cons, List.map_cons, ih]
        by_cases hmem : key a ∈ rest.map key
        · rw [if_pos hmem, if_pos (List.mem_cons_of_mem _ hmem)]
        · rw [if_neg hmem, if_neg (fun h => (List.mem_cons.1 h).elim (fun e => hb e.symm) hmem)]
          rfl

/-- Storing keeps keys apart, whatever is stored. -/
theorem nodup_keys_upsert {xs : List α} (a : α) (h : (xs.map key).Nodup) :
    ((upsert key a xs).map key).Nodup := by
  rw [keys_upsert]
  by_cases hmem : key a ∈ xs.map key
  · rw [if_pos hmem]
    exact h
  · rw [if_neg hmem]
    exact h.append (List.nodup_singleton _) (List.disjoint_singleton.2 hmem)

theorem upsert_of_new {a : α} {xs : List α} (h : key a ∉ xs.map key) :
    upsert key a xs = xs ++ [a] := by
  induction xs with
  | nil => rfl
  | cons b rest ih =>
      have hb : key b ≠ key a := fun e => h (List.mem_cons.2 (Or.inl e.symm))
      rw [upsert, if_neg hb, ih fun hm => h (List.mem_cons_of_mem _ hm), List.cons_append]

/-- Storing an entity that is there already changes nothing. -/
theorem upsert_of_lookUp {a : α} {xs : List α} (h : lookUp key (key a) xs = some a) :
    upsert key a xs = xs := by
  induction xs with
  | nil => cases h
  | cons b rest ih =>
      rw [lookUp_cons] at h
      by_cases hb : key b = key a
      · rw [if_pos hb, Option.some.injEq] at h
        rw [upsert, if_pos hb, h]
      · rw [if_neg hb] at h
        rw [upsert, if_neg hb, ih h]

/-- Storing an entity twice is storing it as it is at last. -/
theorem upsert_upsert {a b : α} {xs : List α} (h : key a = key b) :
    upsert key a (upsert key b xs) = upsert key a xs := by
  induction xs with
  | nil => exact if_pos h.symm
  | cons c rest ih =>
      by_cases hc : key c = key b
      · rw [upsert, if_pos hc, upsert, if_pos h.symm, upsert, if_pos (hc.trans h.symm)]
      · rw [upsert, if_neg hc, upsert, upsert, if_neg (h ▸ hc), if_neg (h ▸ hc), ih]

/-- A batch of new entities goes to the end, in order. -/
theorem foldl_upsert_of_fresh {batch : List α} :
    ∀ {xs : List α}, (batch.map key).Nodup → (∀ id ∈ batch.map key, id ∉ xs.map key) →
      batch.foldl (fun ys a => upsert key a ys) xs = xs ++ batch := by
  induction batch with
  | nil => exact fun _ _ => (List.append_nil _).symm
  | cons a rest ih =>
      intro xs hnodup hfresh
      rw [List.map_cons, List.nodup_cons] at hnodup
      rw [List.map_cons, List.forall_mem_cons] at hfresh
      -- The head goes to the end; the others are a batch for the longer table.
      rw [List.foldl_cons, upsert_of_new hfresh.1, ih hnodup.2, List.append_assoc,
        List.singleton_append]
      intro id hid hmem
      rw [List.map_append, List.map_singleton, List.mem_append, List.mem_singleton] at hmem
      rcases hmem with hmem | rfl
      · exact hfresh.2 id hid hmem
      · exact hnodup.1 hid

theorem foldl_upsert_of_new {batch xs : List α} (h : ((xs ++ batch).map key).Nodup) :
    batch.foldl (fun ys a => upsert key a ys) xs = xs ++ batch := by
  rw [List.map_append, List.nodup_append'] at h
  exact foldl_upsert_of_fresh h.2.1 fun id hid hmem => h.2.2 hmem hid

/-- An entity in the place of one that looks the same leaves a view of the
    table as it was. -/
theorem map_upsert_of_known {a b : α} {xs : List α} (view : α → β)
    (h : lookUp key (key a) xs = some b) (hview : view a = view b) :
    (upsert key a xs).map view = xs.map view := by
  induction xs with
  | nil => cases h
  | cons c rest ih =>
      rw [lookUp_cons] at h
      by_cases hc : key c = key a
      · rw [if_pos hc, Option.some.injEq] at h
        rw [upsert, if_pos hc, List.map_cons, List.map_cons, hview, h]
      · rw [if_neg hc] at h
        rw [upsert, if_neg hc, List.map_cons, List.map_cons, ih h]

/-- A count loses the entity that is replaced and gains the one that replaces
    it. -/
theorem countP_upsert_of_known {a b : α} {xs : List α} (p : α → Bool)
    (h : lookUp key (key a) xs = some b) :
    (upsert key a xs).countP p + (if p b then 1 else 0) =
      xs.countP p + if p a then 1 else 0 := by
  induction xs with
  | nil => cases h
  | cons c rest ih =>
      rw [lookUp_cons] at h
      by_cases hc : key c = key a
      · rw [if_pos hc, Option.some.injEq] at h
        rw [upsert, if_pos hc, List.countP_cons, List.countP_cons, h]
        omega
      · rw [if_neg hc] at h
        have := ih h
        rw [upsert, if_neg hc, List.countP_cons, List.countP_cons]
        omega

/-- Where keys are apart, storing an entity whose key is known replaces just the
    one with that key. -/
theorem upsert_eq_map {a : α} {xs : List α} (hkeys : (xs.map key).Nodup)
    (h : key a ∈ xs.map key) : upsert key a xs = xs.map fun b => if key b = key a then a else b := by
  induction xs with
  | nil => cases h
  | cons b rest ih =>
      rcases List.nodup_cons.1 hkeys with ⟨hfresh, hrest⟩
      by_cases hb : key b = key a
      · -- Behind the one that is replaced, no other has the key.
        have hothers : ∀ c ∈ rest, (if key c = key a then a else c) = c := by
          intro c hc
          have hmem : key c ∈ rest.map key := List.mem_map_of_mem hc
          refine if_neg fun hkey => hfresh ?_
          rw [hb, ← hkey]
          exact hmem
        rw [upsert, if_pos hb, List.map_cons, if_pos hb, List.map_congr_left hothers, List.map_id']
      · have hmem : key a ∈ rest.map key := (List.mem_cons.1 h).resolve_left fun e => hb e.symm
        rw [upsert, if_neg hb, List.map_cons, if_neg hb, ih hrest hmem]

/-- A view that keeps keys can be taken before storing as well as after it. -/
theorem map_upsert {key' : β → Uuid} {view : α → β} (hview : ∀ a, key' (view a) = key a) (a : α)
    (xs : List α) : (upsert key a xs).map view = upsert key' (view a) (xs.map view) := by
  induction xs with
  | nil => rfl
  | cons b rest ih =>
      rw [List.map_cons, upsert, upsert, hview, hview]
      by_cases hb : key b = key a
      · rw [if_pos hb, if_pos hb, List.map_cons]
      · rw [if_neg hb, if_neg hb, List.map_cons, ih]

theorem lookUp_map {key' : β → Uuid} {view : α → β} (hview : ∀ a, key' (view a) = key a) (id : Uuid)
    (xs : List α) : lookUp key' id (xs.map view) = (lookUp key id xs).map view := by
  induction xs with
  | nil => rfl
  | cons b rest ih =>
      rw [List.map_cons, lookUp_cons, lookUp_cons, hview, ih]
      by_cases hb : key b = id
      · rw [if_pos hb, if_pos hb, Option.map_some]
      · rw [if_neg hb, if_neg hb]

section Views

variable {γ : Type} {key' : β → Uuid} {common : γ → Uuid} {f : α → γ} {g : β → γ}
  (hf : ∀ a, common (f a) = key a) (hg : ∀ b, common (g b) = key' b) {xs : List α} {ys : List β}
  (h : xs.map f = ys.map g)

include hf hg h

/-- Two tables with one view have the same keys. -/
theorem keys_of_views : xs.map key = ys.map key' := by
  have hkeys := congrArg (List.map common) h
  simpa only [List.map_map, Function.comp_def, hf, hg] using hkeys

/-- In two tables with one view the same is found, or nothing in either. -/
theorem lookUp_of_views (id : Uuid) :
    (lookUp key' id ys = none ∧ lookUp key id xs = none) ∨
      ∃ b a, lookUp key' id ys = some b ∧ lookUp key id xs = some a ∧ f a = g b := by
  have hfound := congrArg (lookUp common id) h
  rw [lookUp_map hf, lookUp_map hg] at hfound
  cases hb : lookUp key' id ys with
  | none =>
      rw [hb, Option.map_none, Option.map_eq_none_iff] at hfound
      exact Or.inl ⟨rfl, hfound⟩
  | some b =>
      rw [hb, Option.map_some, Option.map_eq_some_iff] at hfound
      rcases hfound with ⟨a, ha, hview⟩
      exact Or.inr ⟨b, a, rfl, ha, hview⟩

end Views

/-- Storing takes nothing away. -/
theorem length_le_length_upsert (a : α) (xs : List α) : xs.length ≤ (upsert key a xs).length := by
  have hkeys := congrArg List.length (@keys_upsert _ key a xs)
  rw [List.length_map] at hkeys
  rw [hkeys]
  by_cases hmem : key a ∈ xs.map key
  · exact Nat.le_of_eq (by rw [if_pos hmem, List.length_map])
  · rw [if_neg hmem, List.length_append, List.length_map]
    exact Nat.le_add_right _ _

theorem mem_keys_upsert {a : α} {xs : List α} {id : Uuid} :
    id ∈ (upsert key a xs).map key ↔ id = key a ∨ id ∈ xs.map key := by
  rw [keys_upsert]
  by_cases hmem : key a ∈ xs.map key
  · rw [if_pos hmem]
    exact ⟨Or.inr, fun h => h.elim (fun h => h ▸ hmem) fun h => h⟩
  · rw [if_neg hmem, List.mem_append, List.mem_singleton]
    exact or_comm

/-- Everything in a table after storing was there before or was stored. -/
theorem mem_upsert {a c : α} {xs : List α} (h : c ∈ upsert key a xs) : c = a ∨ c ∈ xs := by
  induction xs with
  | nil => exact Or.inl (List.mem_singleton.1 h)
  | cons b rest ih =>
      by_cases hb : key b = key a
      · rw [upsert, if_pos hb] at h
        exact (List.mem_cons.1 h).imp_right (List.mem_cons_of_mem _)
      · rw [upsert, if_neg hb] at h
        rcases List.mem_cons.1 h with h | h
        · exact Or.inr (h ▸ List.mem_cons_self)
        · exact (ih h).imp_right (List.mem_cons_of_mem _)

/-- The same for a batch. -/
theorem mem_foldl_upsert {c : α} {batch : List α} :
    ∀ {xs : List α}, c ∈ batch.foldl (fun ys a => upsert key a ys) xs → c ∈ batch ∨ c ∈ xs := by
  induction batch with
  | nil => exact fun h => Or.inr h
  | cons a rest ih =>
      intro xs h
      rcases ih h with hrest | hfirst
      · exact Or.inl (List.mem_cons_of_mem a hrest)
      · refine (mem_upsert hfirst).imp_left fun heq => ?_
        rw [heq]
        exact List.mem_cons_self

end Outreach
