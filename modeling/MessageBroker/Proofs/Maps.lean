/-
# Ordered maps under change

What happens to the size and to the values of an ordered map when one key comes or goes.
The counters of a broker follow such sizes, and its listings are the values of such maps
in the order of their keys.
-/

import Std.Data.ExtTreeMap

open Std

namespace MessageBroker

namespace Maps

variable {α β : Type} [Ord α] [TransOrd α]

/-- The values of a map are the second parts of its entries. -/
theorem values_eq_map_toList (m : ExtTreeMap α β) : m.values = m.toList.map Prod.snd := by
  obtain ⟨⟨q⟩⟩ := m
  induction q using Quotient.ind with
  | _ t =>
    show t.inner.values = (DTreeMap.Internal.Impl.Const.toList t.inner).map Prod.snd
    rw [DTreeMap.Internal.Impl.values_eq_map_snd,
      DTreeMap.Internal.Impl.Const.toList_eq_toListModel_map]
    simp

/-- A map has as many values as entries. -/
theorem length_values (m : ExtTreeMap α β) : m.values.length = m.size := by
  rw [values_eq_map_toList, List.length_map, ExtTreeMap.length_toList]

/-- A key that was not there makes a map larger by one. -/
theorem size_insert_of_none {m : ExtTreeMap α β} {k : α} {v : β} (h : m[k]? = none) :
    (m.insert k v).size = m.size + 1 := by
  have habsent : m.contains k = false := by
    rw [ExtTreeMap.contains_eq_isSome_getElem?, h]
    rfl
  simp [ExtTreeMap.size_insert, habsent]

/-- A key that was there makes a map smaller by one when it goes. -/
theorem size_erase_of_some {m : ExtTreeMap α β} {k : α} {v : β} (h : m[k]? = some v) :
    (m.erase k).size + 1 = m.size := by
  have hpresent : m.contains k = true := by
    rw [ExtTreeMap.contains_eq_isSome_getElem?, h]
    rfl
  have hpositive : m.size ≠ 0 := by
    intro hzero
    rw [ExtTreeMap.eq_empty_iff_size_eq_zero.mpr hzero] at h
    simp at h
  rw [ExtTreeMap.size_erase, if_pos hpresent]
  omega

variable [LawfulEqOrd α]

/-- Looking up a key after another one was entered. -/
theorem getElem?_insert_ite [DecidableEq α] (m : ExtTreeMap α β) (k a : α) (v : β) :
    (m.insert k v)[a]? = if k = a then some v else m[a]? := by
  simp only [ExtTreeMap.getElem?_insert, Std.compare_eq_iff_eq]

/-- Looking up a key after another one was erased. -/
theorem getElem?_erase_ite [DecidableEq α] (m : ExtTreeMap α β) (k a : α) :
    (m.erase k)[a]? = if k = a then none else m[a]? := by
  simp only [ExtTreeMap.getElem?_erase, Std.compare_eq_iff_eq]

/-- After a new key was entered, an entry with a property is the new one or an old one. -/
theorem exists_getElem?_insert [DecidableEq α] {m : ExtTreeMap α β} {k : α} (v : β)
    (h : m[k]? = none) (p : β → Prop) (a : α) :
    (∃ w, (m.insert k v)[a]? = some w ∧ p w) ↔ (k = a ∧ p v) ∨ ∃ w, m[a]? = some w ∧ p w := by
  rw [getElem?_insert_ite]
  by_cases hk : k = a
  · subst hk
    simp [h]
  · simp [hk]

/-- After a key was erased, an entry with a property is an old one under another key. -/
theorem exists_getElem?_erase [DecidableEq α] (m : ExtTreeMap α β) (k : α) (p : β → Prop)
    (a : α) :
    (∃ w, (m.erase k)[a]? = some w ∧ p w) ↔ k ≠ a ∧ ∃ w, m[a]? = some w ∧ p w := by
  rw [getElem?_erase_ite]
  by_cases hk : k = a
  · simp [hk]
  · simp [hk]

/-- A new key that is erased again leaves a map as it was. -/
theorem erase_insert_of_none [DecidableEq α] {m : ExtTreeMap α β} {k : α} (v : β)
    (h : m[k]? = none) : (m.insert k v).erase k = m := by
  apply ExtTreeMap.ext_getElem?
  intro a
  rw [getElem?_erase_ite, getElem?_insert_ite]
  split
  next hk => rw [← hk, h]
  next => rfl

/-- A value that is overwritten and put back leaves a map as it was. -/
theorem insert_insert_of_some [DecidableEq α] {m : ExtTreeMap α β} {k : α} {v : β} (w : β)
    (h : m[k]? = some v) : (m.insert k w).insert k v = m := by
  apply ExtTreeMap.ext_getElem?
  intro a
  rw [getElem?_insert_ite, getElem?_insert_ite]
  split
  next hk => rw [← hk, h]
  next => rfl

/-- A value is in a map when it stands under some key. -/
theorem mem_values_iff {m : ExtTreeMap α β} {v : β} : v ∈ m.values ↔ ∃ k : α, m[k]? = some v := by
  simp [values_eq_map_toList, ExtTreeMap.mem_toList_iff_getElem?_eq_some]

/-- The values of a map stand in the order of their keys, when each of them knows its
key. -/
theorem pairwise_values {m : ExtTreeMap α β} {key : β → α}
    (h : ∀ (k : α) (v : β), m[k]? = some v → key v = k) :
    m.values.Pairwise fun v w => compare (key v) (key w) = .lt := by
  rw [values_eq_map_toList, List.pairwise_map]
  refine m.ordered_keys_toList.imp_of_mem fun {a b} ha hb hlt => ?_
  rw [h a.1 a.2 (ExtTreeMap.mem_toList_iff_getElem?_eq_some.mp ha),
    h b.1 b.2 (ExtTreeMap.mem_toList_iff_getElem?_eq_some.mp hb)]
  exact hlt

/-- A new entry counts among those with a property exactly if it has the property. -/
theorem size_filter_insert_of_none [DecidableEq α] {m : ExtTreeMap α β} {k : α} {v : β}
    (p : α → β → Bool) (h : m[k]? = none) :
    ((m.insert k v).filter p).size = (m.filter p).size + if p k v then 1 else 0 := by
  by_cases hp : p k v = true
  · have heq : (m.insert k v).filter p = (m.filter p).insert k v := by
      apply ExtTreeMap.ext_getElem?
      intro a
      rw [ExtTreeMap.getElem?_filter', getElem?_insert_ite, getElem?_insert_ite,
        ExtTreeMap.getElem?_filter']
      split
      next hk =>
        subst hk
        rw [Option.filter_some, if_pos hp]
      next => rfl
    rw [heq, if_pos hp, size_insert_of_none (by rw [ExtTreeMap.getElem?_filter', h]; rfl)]
  · have heq : (m.insert k v).filter p = m.filter p := by
      apply ExtTreeMap.ext_getElem?
      intro a
      rw [ExtTreeMap.getElem?_filter', getElem?_insert_ite, ExtTreeMap.getElem?_filter']
      split
      next hk =>
        subst hk
        rw [h, Option.filter_some, if_neg hp]
        rfl
      next => rfl
    rw [heq, if_neg hp, Nat.add_zero]

/-- An entry that goes no longer counts among those with a property that it had. -/
theorem size_filter_erase_of_some [DecidableEq α] {m : ExtTreeMap α β} {k : α} {v : β}
    (p : α → β → Bool) (h : m[k]? = some v) :
    ((m.erase k).filter p).size + (if p k v then 1 else 0) = (m.filter p).size := by
  have hback : (m.erase k).insert k v = m := by
    apply ExtTreeMap.ext_getElem?
    intro a
    rw [getElem?_insert_ite, getElem?_erase_ite]
    split
    next hk => rw [← hk, h]
    next => rfl
  have hsize := size_filter_insert_of_none (v := v) p
    (ExtTreeMap.getElem?_erase_self (t := m) (k := k))
  rw [hback] at hsize
  exact hsize.symm

end Maps

end MessageBroker
