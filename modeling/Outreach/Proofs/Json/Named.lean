import Mathlib.Data.List.Nodup
import Outreach.Json.Basic
import Outreach.Log.Line

/-!
# Named Values

The members of an object, the fields of a context and the attributes of a record are all
lists of named values in which no name occurs twice. Setting one keeps the place of a name
that is present and puts a new name last. Whatever the values are, a list of this kind is
known by the value under each name: a value that was set is found, and the others stand.

## Main definitions

* `Named.names`: The names.

## Theorems

* `Named.value?_put`, `Named.value?_merge`: Which value stands under a name.
* `Named.nodup_put`, `Named.nodup_merge`: Names stay distinct.
* `Named.mem_iff_value?`: A value with its name, where names are distinct.
* `Named.merge_map`: Values are put over others in any form alike.
* `Named.forall_mem_merge`: What holds of all values that are put together.
-/

namespace Outreach

namespace Named

variable {α β : Type} {ms others : Named α} {name other : Text} {v : α}

/-- The names. -/
def names (ms : Named α) : List Text := ms.map Prod.fst

theorem any_iff_mem_names : (ms.any fun m => m.1 = name) = true ↔ name ∈ names ms := by
  rw [List.any_eq_true, names, List.mem_map]
  simp only [decide_eq_true_eq]

theorem value?_nil : value? ([] : Named α) name = none := rfl

theorem value?_cons {m : Text × α} :
    value? (m :: ms) name = if m.1 = name then some m.2 else value? ms name := by
  rw [value?, List.find?_cons]
  by_cases h : m.1 = name
  · simp only [h, decide_true, if_true, Option.map_some]
  · simp only [h, decide_false, if_false, value?]

theorem value?_append : value? (ms ++ others) name = (value? ms name).or (value? others name) := by
  rw [value?, List.find?_append, Option.map_or]
  rfl

theorem value?_eq_none_iff : value? ms name = none ↔ name ∉ names ms := by
  rw [value?, Option.map_eq_none_iff, List.find?_eq_none, names, List.mem_map]
  simp only [decide_eq_true_eq, not_exists, not_and]

theorem isSome_value?_iff : (value? ms name).isSome = true ↔ name ∈ names ms := by
  rw [Option.isSome_iff_ne_none, Ne, value?_eq_none_iff, not_not]

/-- A value that was set is found under its name, and every other name has the value that it
    had. -/
theorem value?_put : value? (put ms name v) other =
    if other = name then some v else value? ms other := by
  by_cases hmem : name ∈ names ms
  · -- Each entry keeps its name, so the place that is found is the same.
    rw [put, if_pos (any_iff_mem_names.2 hmem), value?, List.find?_map, Option.map_map]
    have hsame : (fun m : Text × α => decide (m.1 = other)) ∘
        (fun m => if m.1 = name then (name, v) else m) = fun m => decide (m.1 = other) := by
      funext m
      by_cases h : m.1 = name
      · rw [Function.comp_apply, if_pos h, h]
      · rw [Function.comp_apply, if_neg h]
    rw [hsame]
    by_cases h : other = name
    · rcases Option.isSome_iff_exists.1 (isSome_value?_iff.2 hmem) with ⟨old, hold⟩
      rcases Option.map_eq_some_iff.1 hold with ⟨m, hm, -⟩
      rw [h, hm, if_pos rfl, Option.map_some, Function.comp_apply,
        if_pos (of_decide_eq_true (List.find?_some hm :))]
    · rw [if_neg h, value?]
      refine Option.map_congr fun m hm => ?_
      have hname : m.1 = other := of_decide_eq_true (List.find?_some hm :)
      rw [Function.comp_apply, if_neg fun hm' => h (hname.symm.trans hm')]
  · rw [put, if_neg (mt any_iff_mem_names.1 hmem), value?_append, value?_cons]
    by_cases h : other = name
    · rw [h, if_pos rfl, if_pos rfl, value?_eq_none_iff.2 hmem]
      rfl
    · rw [if_neg h, if_neg (Ne.symm h), value?_nil, Option.or_none]

theorem names_put : names (put ms name v) =
    if name ∈ names ms then names ms else names ms ++ [name] := by
  by_cases hmem : name ∈ names ms
  · rw [put, if_pos (any_iff_mem_names.2 hmem), if_pos hmem, names, names, List.map_map]
    refine List.map_congr_left fun m _ => ?_
    by_cases h : m.1 = name
    · rw [Function.comp_apply, if_pos h, h]
    · rw [Function.comp_apply, if_neg h]
  · rw [put, if_neg (mt any_iff_mem_names.1 hmem), if_neg hmem, names, List.map_append]
    rfl

/-- Setting a value keeps the names distinct. -/
theorem nodup_put (h : (names ms).Nodup) : (names (put ms name v)).Nodup := by
  rw [names_put]
  by_cases hmem : name ∈ names ms
  · rwa [if_pos hmem]
  · rw [if_neg hmem]
    exact List.nodup_append.2 ⟨h, List.nodup_singleton name, fun a ha b hb hab =>
      hmem (List.mem_singleton.1 hb ▸ hab ▸ ha)⟩

/-- Of values that are put over others, the last one under a name counts. -/
theorem value?_merge_reverse : value? (merge ms others) name =
    (value? others.reverse name).or (value? ms name) := by
  induction others generalizing ms with
  | nil => rw [merge, List.foldl_nil, List.reverse_nil, value?_nil, Option.none_or]
  | cons m rest ih =>
      rw [merge, List.foldl_cons, ← merge, ih, List.reverse_cons, value?_append, value?_cons,
        value?_put, Option.or_assoc]
      by_cases h : m.1 = name
      · rw [if_pos h, if_pos h.symm, Option.some_or]
      · rw [if_neg h, if_neg (Ne.symm h), value?_nil, Option.none_or]

theorem nodup_merge (h : (names ms).Nodup) : (names (merge ms others)).Nodup := by
  induction others generalizing ms with
  | nil => exact h
  | cons m rest ih => exact ih (nodup_put h)

/-- Where names are distinct, what is found under a name is what stands there. -/
theorem mem_iff_value? (h : (names ms).Nodup) : (name, v) ∈ ms ↔ value? ms name = some v := by
  induction ms with
  | nil => exact iff_of_false List.not_mem_nil nofun
  | cons m rest ih =>
      rcases List.nodup_cons.1 h with ⟨hm, hrest⟩
      rw [List.mem_cons, value?_cons, ih hrest]
      by_cases hname : m.1 = name
      · rw [if_pos hname, Option.some.injEq]
        have hnone : value? rest name = none := value?_eq_none_iff.2 (hname ▸ hm)
        rw [hnone]
        constructor
        · rintro (rfl | hv)
          · rfl
          · cases hv
        · rintro rfl
          exact .inl (Prod.ext hname.symm rfl)
      · rw [if_neg hname]
        refine or_iff_right fun hv => hname ?_
        rw [← hv]

/-- Where the names of the others are distinct, their order does not matter. -/
theorem value?_reverse (h : (names ms).Nodup) : value? ms.reverse name = value? ms name := by
  have hreverse : (names ms.reverse).Nodup := by
    rw [names, List.map_reverse]
    exact List.nodup_reverse.2 h
  refine Option.ext fun v => ?_
  rw [← mem_iff_value? h, ← mem_iff_value? hreverse, List.mem_reverse]

/-- A value that is put over others hides what was there. -/
theorem value?_merge (h : (names others).Nodup) : value? (merge ms others) name =
    (value? others name).or (value? ms name) := by
  rw [value?_merge_reverse, value?_reverse h]

/-! ## Values in another form -/

theorem value?_map (f : α → β) :
    value? (ms.map fun m => (m.1, f m.2)) name = (value? ms name).map f := by
  rw [value?, value?, List.find?_map, Option.map_map, Option.map_map]
  rfl

theorem names_map (f : α → β) : names (ms.map fun m => (m.1, f m.2)) = names ms := by
  rw [names, names, List.map_map]
  rfl

/-- What is left of named values by their names. -/
theorem value?_filter (p : Text → Bool) : value? (ms.filter fun m => p m.1) name =
    if p name = true then value? ms name else none := by
  induction ms with
  | nil => rw [List.filter_nil, value?_nil, ite_self]
  | cons m rest ih =>
      rw [List.filter_cons, value?_cons]
      by_cases hname : m.1 = name
      · rw [hname, if_pos rfl]
        by_cases hp : p name = true
        · rw [if_pos hp, if_pos hp, value?_cons, if_pos hname]
        · rw [if_neg hp, if_neg hp, ih, if_neg hp]
      · rw [if_neg hname, ← ih]
        by_cases hp : p m.1 = true
        · rw [if_pos hp, value?_cons, if_neg hname]
        · rw [if_neg hp]

theorem put_map (f : α → β) : put (ms.map fun m => (m.1, f m.2)) name (f v) =
    (put ms name v).map fun m => (m.1, f m.2) := by
  have hany : ((ms.map fun m => (m.1, f m.2)).any fun m => m.1 = name) =
      ms.any fun m => m.1 = name := List.any_map
  rw [put, put, hany]
  by_cases h : (ms.any fun m => m.1 = name) = true
  · rw [if_pos h, if_pos h, List.map_map, List.map_map]
    refine List.map_congr_left fun m _ => ?_
    rw [Function.comp_apply, Function.comp_apply, apply_ite (fun m : Text × α => (m.1, f m.2))]
  · rw [if_neg h, if_neg h, List.map_append]
    rfl

theorem merge_map (f : α → β) :
    merge (ms.map fun m => (m.1, f m.2)) (others.map fun m => (m.1, f m.2)) =
      (merge ms others).map fun m => (m.1, f m.2) := by
  induction others generalizing ms with
  | nil => rfl
  | cons m rest ih =>
      rw [List.map_cons, merge, List.foldl_cons, ← merge, put_map, ih]
      rfl

/-! ## Conditions on all values -/

variable {P : Text × α → Prop}

theorem forall_mem_put (h : ∀ m ∈ ms, P m) (hv : P (name, v)) : ∀ m ∈ put ms name v, P m := by
  rw [put]
  by_cases hany : (ms.any fun m => m.1 = name) = true
  · rw [if_pos hany]
    refine List.forall_mem_map.2 fun m hm => ?_
    by_cases hname : m.1 = name
    · rwa [if_pos hname]
    · rw [if_neg hname]
      exact h m hm
  · rw [if_neg hany]
    exact List.forall_mem_append.2 ⟨h, List.forall_mem_singleton.2 hv⟩

theorem forall_mem_merge (h : ∀ m ∈ ms, P m) (hothers : ∀ m ∈ others, P m) :
    ∀ m ∈ merge ms others, P m := by
  induction others generalizing ms with
  | nil => exact h
  | cons m rest ih =>
      rw [List.forall_mem_cons] at hothers
      exact ih (forall_mem_put h hothers.1) hothers.2

end Named

/-- The members of an object are named values. -/
theorem Json.find?_putMember {ms : List (Text × Json)} {name other : Text} {v : Json} :
    find? (putMember ms name v) other = if other = name then some v else find? ms other :=
  Named.value?_put

end Outreach
