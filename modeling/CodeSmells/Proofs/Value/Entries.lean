import CodeSmells.Value.Basic
import Mathlib.Data.List.Nodup

/-!
# Tables with ordered entries

What a table holds under a key after entries were put into it or taken away, and in which order
its keys stand. Putting a value under a key that is there keeps the keys as they are
(`keys_put_of_mem`), and putting it under a new key adds the key at the end (`put_of_not_mem`).
Where keys are distinct, a table is given by its keys and by what it holds under them
(`eq_of_get?_eq`).
-/

set_option autoImplicit false
set_option relaxedAutoImplicit false

namespace CodeSmells.Entries

variable {key : String} {v : Value} {es : Entries}

/-- The keys of a table in order. -/
def keys (es : Entries) : List String :=
  es.map (·.1)

@[simp] theorem keys_nil : keys [] = [] :=
  rfl

@[simp] theorem keys_cons (e : String × Value) (es : Entries) :
    keys (e :: es) = e.1 :: keys es :=
  rfl

theorem get?_cons (key : String) (e : String × Value) (es : Entries) :
    get? key (e :: es) = if e.1 = key then some e.2 else get? key es := by
  by_cases h : e.1 = key <;> simp [get?, h]

/-- A table holds nothing under a key that is not one of its own. -/
theorem get?_eq_none_iff : es.get? key = none ↔ key ∉ es.keys := by
  simp only [get?, keys, Option.map_eq_none_iff, List.find?_eq_none, List.mem_map, beq_iff_eq,
    not_exists, not_and]

/-! ### Putting values under keys -/

/-- A new key is put at the end. -/
theorem put_of_not_mem (h : key ∉ es.keys) : put key v es = es ++ [(key, v)] := by
  induction es with
  | nil => rfl
  | cons e es ih =>
    rw [keys_cons, List.mem_cons, not_or] at h
    have hne : (e.1 == key) = false := beq_eq_false_iff_ne.mpr fun heq ↦ h.1 heq.symm
    simp only [put, hne, Bool.false_eq_true, ↓reduceIte, ih h.2, List.cons_append]

/-- A key that is there keeps its place, and so do the others. -/
theorem keys_put_of_mem (h : key ∈ es.keys) : (put key v es).keys = es.keys := by
  induction es with
  | nil => cases h
  | cons e es ih =>
    by_cases hfirst : e.1 = key
    · simp [put, hfirst]
    · have hrest : key ∈ keys es := (List.mem_cons.mp h).resolve_left fun heq ↦ hfirst heq.symm
      simp [put, hfirst, ih hrest]

theorem keys_put_nodup (h : es.keys.Nodup) (key : String) (v : Value) :
    (put key v es).keys.Nodup := by
  by_cases hkey : key ∈ es.keys
  · rwa [keys_put_of_mem hkey]
  · rw [put_of_not_mem hkey, keys, List.map_append]
    refine h.append (List.nodup_singleton key) fun k hk hsingle ↦ hkey ?_
    rwa [← show k = key from List.mem_singleton.mp hsingle]

theorem get?_put (key other : String) (v : Value) (es : Entries) :
    (put key v es).get? other = if key = other then some v else es.get? other := by
  induction es with
  | nil => exact get?_cons other (key, v) []
  | cons e es ih =>
    obtain ⟨k, w⟩ := e
    by_cases hfirst : k = key
    · subst hfirst
      simp only [put, beq_self_eq_true, ↓reduceIte, get?_cons]
      split <;> rfl
    · simp only [put, beq_eq_false_iff_ne.mpr hfirst, Bool.false_eq_true, ↓reduceIte, get?_cons, ih]
      by_cases hother : k = other
      · rw [if_pos hother, if_pos hother, if_neg fun heq ↦ hfirst (hother.trans heq.symm)]
      · rw [if_neg hother, if_neg hother]

/-- Putting all entries of a table with distinct keys into another: what the first holds under a key
wins. -/
theorem get?_foldl_put (h : es.keys.Nodup) (other : String) : ∀ base : Entries,
    (es.foldl (fun acc (k, v) ↦ put k v acc) base).get? other =
      (es.get? other).or (base.get? other) := by
  induction es with
  | nil =>
    intro base
    rfl
  | cons e es ih =>
    intro base
    obtain ⟨k, w⟩ := e
    rw [keys_cons, List.nodup_cons] at h
    rw [List.foldl_cons, ih h.2, get?_put, get?_cons]
    by_cases hk : k = other
    · subst hk
      rw [if_pos rfl, if_pos rfl, get?_eq_none_iff.mpr h.1, Option.none_or, Option.some_or]
    · rw [if_neg hk, if_neg hk]

/-- Putting entries under keys that are there keeps the keys. -/
theorem keys_foldl_put : ∀ base : Entries, (∀ k ∈ es.keys, k ∈ base.keys) →
    (es.foldl (fun acc (k, v) ↦ put k v acc) base).keys = base.keys := by
  induction es with
  | nil =>
    intro base _
    rfl
  | cons e es ih =>
    intro base hall
    have hkeys := keys_put_of_mem (v := e.2) (hall e.1 List.mem_cons_self)
    rw [List.foldl_cons, ih, hkeys]
    intro k hk
    rw [hkeys]
    exact hall k (List.mem_cons_of_mem _ hk)

/-- Entries under distinct new keys are put one after the other at the end. -/
theorem foldl_put_of_new : ∀ acc : Entries, (acc ++ es).keys.Nodup →
    es.foldl (fun acc (k, v) ↦ put k v acc) acc = acc ++ es := by
  induction es with
  | nil =>
    intro acc _
    exact (List.append_nil acc).symm
  | cons e es ih =>
    obtain ⟨k, v⟩ := e
    intro acc hnodup
    have hnew : k ∉ acc.keys := by
      rw [keys, List.map_append, List.map_cons] at hnodup
      exact fun hin ↦ (List.nodup_append.mp hnodup).2.2 k hin k List.mem_cons_self rfl
    rw [List.foldl_cons]
    show es.foldl _ (put k v acc) = acc ++ (k, v) :: es
    rw [put_of_not_mem hnew, ih _ (by simpa using hnodup), List.append_assoc,
      List.singleton_append]

theorem ofList_eq_self (h : es.keys.Nodup) : ofList es = es :=
  foldl_put_of_new [] h

/-! ### Tables with distinct keys -/

/-- Tables with the same distinct keys that hold the same under each of them are the same. -/
theorem eq_of_get?_eq : ∀ {es es' : Entries}, es.keys = es'.keys → es.keys.Nodup →
    (∀ key, es.get? key = es'.get? key) → es = es'
  | [], [], _, _, _ => rfl
  | (k, v) :: es, (k', v') :: es', hkeys, hnodup, hget => by
    rw [keys_cons, keys_cons, List.cons.injEq] at hkeys
    rw [keys_cons, List.nodup_cons] at hnodup
    obtain rfl : k = k' := hkeys.1
    have hfirst : v = v' := by
      have hk := hget k
      rw [get?_cons, get?_cons, if_pos rfl, if_pos rfl] at hk
      exact Option.some.inj hk
    have hrest : es = es' := by
      refine eq_of_get?_eq hkeys.2 hnodup.2 fun key ↦ ?_
      by_cases hk : k = key
      · subst hk
        rw [get?_eq_none_iff.mpr hnodup.1, get?_eq_none_iff.mpr (hkeys.2 ▸ hnodup.1)]
      · have hother := hget key
        rwa [get?_cons, get?_cons, if_neg hk, if_neg hk] at hother
    rw [hfirst, hrest]

/-! ### Taking entries away -/

section Kept

variable {keep : String → Bool}

/-- Entries that are kept by their keys are found as before. -/
theorem get?_filter_of_keep (hkey : keep key = true) (es : Entries) :
    get? key (es.filter fun e ↦ keep e.1) = es.get? key := by
  unfold get?
  rw [List.find?_filter]
  congr 2
  funext e
  by_cases he : e.1 = key
  · simp [he, hkey]
  · simp [he]

theorem has_filter_of_keep (hkey : keep key = true) (es : Entries) :
    has key (es.filter fun e ↦ keep e.1) = es.has key := by
  unfold has
  rw [List.any_filter]
  congr 1
  funext e
  by_cases he : e.1 = key
  · simp [he, hkey]
  · simp [he]

end Kept

end CodeSmells.Entries
