import GuideLayer.Marks.KeyedMap
import Mathlib.Data.List.Find

/-!
Maps whose values know their keys. Such a map can be read as the list of its
values: a key is looked up, changed or added at the end of the list as in the
map, since the values stand in the order of their keys. And a map can be moved
to greater keys, which all operations follow.
-/

namespace GuideLayer

namespace KeyedMap

variable {β γ : Type}

/-! ### Values that know their keys -/

/-- Every value stands under the key that is read off it. -/
def KeyedBy (key : β → Nat) (m : KeyedMap β) : Prop := ∀ e ∈ m.entries, key e.2 = e.1

namespace KeyedBy

variable {key : β → Nat} {m : KeyedMap β}

theorem increasing (h : m.KeyedBy key) : m.values.Pairwise (fun v v' => key v < key v') := by
  refine List.pairwise_map.mpr (m.ordered.imp_of_mem ?_)
  intro e e' he he' hlt
  rwa [h e he, h e' he']

/-- A value is found under its key. -/
theorem get?_eq (h : m.KeyedBy key) (k : Nat) :
    m.get? k = m.values.find? (fun v => decide (key v = k)) := by
  show (m.entries.find? _).map Prod.snd = (m.entries.map Prod.snd).find? _
  rw [List.find?_map]
  congr 1
  apply List.find?_congr
  intro e he
  rw [Function.comp_apply, h e he]

theorem values_modify (h : m.KeyedBy key) (k : Nat) (f : β → β) :
    (m.modify k f).values = m.values.map (fun v => if key v = k then f v else v) := by
  show (m.entries.map _).map Prod.snd = (m.entries.map Prod.snd).map _
  rw [List.map_map, List.map_map]
  apply List.map_congr_left
  intro e he
  rw [Function.comp_apply, Function.comp_apply, h e he]
  split <;> rfl

theorem values_insert {k : Nat} (h : m.KeyedBy key) (v : β) (habove : ∀ v' ∈ m.values, key v' < k) :
    (m.insert k v).values = m.values ++ [v] := by
  apply values_insert_of_above
  intro e he
  rw [← h e he]
  exact habove e.2 (List.mem_map_of_mem he)

theorem empty : (KeyedMap.empty : KeyedMap β).KeyedBy key := nofun

theorem insert {k : Nat} {v : β} (h : m.KeyedBy key) (hv : key v = k) :
    (m.insert k v).KeyedBy key := by
  intro e he
  rcases mem_insertEntry he with rfl | he
  · exact hv
  · exact h e he

theorem modify (h : m.KeyedBy key) (k : Nat) {f : β → β} (hf : ∀ v, key (f v) = key v) :
    (m.modify k f).KeyedBy key := by
  intro e he
  obtain ⟨e', he', rfl⟩ := List.mem_map.mp he
  split
  · exact (hf e'.2).trans (h e' he')
  · exact h e' he'

theorem retain (h : m.KeyedBy key) (p : β → Bool) : (m.retain p).KeyedBy key :=
  fun e he => h e (List.mem_filter.mp he).1

end KeyedBy

/-! ### Greater keys -/

/-- The values after a change, under keys that are greater by `n`. -/
def shift (n : Nat) (f : β → γ) (m : KeyedMap β) : KeyedMap γ where
  entries := m.entries.map (fun e => (n + e.1, f e.2))
  ordered := List.pairwise_map.mpr (m.ordered.imp (fun hlt => Nat.add_lt_add_left hlt n))

@[simp] theorem shift_empty (n : Nat) (f : β → γ) : (empty : KeyedMap β).shift n f = empty := rfl

@[simp] theorem values_shift (n : Nat) (f : β → γ) (m : KeyedMap β) :
    (m.shift n f).values = m.values.map f := by
  show (m.entries.map _).map Prod.snd = (m.entries.map Prod.snd).map f
  rw [List.map_map, List.map_map]
  rfl

theorem get?_shift (n : Nat) (f : β → γ) (k : Nat) (m : KeyedMap β) :
    (m.shift n f).get? (n + k) = (m.get? k).map f := by
  have hkey : (fun e : Nat × γ => decide (e.1 = n + k)) ∘ (fun e : Nat × β => (n + e.1, f e.2)) =
      fun e => decide (e.1 = k) := by
    ext e
    exact decide_eq_decide.mpr Nat.add_left_cancel_iff
  show ((m.entries.map _).find? _).map Prod.snd = ((m.entries.find? _).map Prod.snd).map f
  rw [List.find?_map, hkey, Option.map_map, Option.map_map]
  rfl

theorem retain_shift (n : Nat) (f : β → γ) (p : γ → Bool) (m : KeyedMap β) :
    (m.shift n f).retain p = (m.retain (p ∘ f)).shift n f := by
  apply KeyedMap.ext
  show (m.entries.map _).filter _ = (m.entries.filter _).map _
  rw [List.filter_map]
  rfl

theorem insert_shift (n : Nat) (f : β → γ) (k : Nat) (v : β) (m : KeyedMap β) :
    (m.shift n f).insert (n + k) (f v) = (m.insert k v).shift n f := by
  obtain ⟨es, hes⟩ := m
  apply KeyedMap.ext
  show insertEntry (n + k) (f v) (es.map _) = (insertEntry k v es).map _
  clear hes
  induction es with
  | nil => rfl
  | cons e es ih =>
      simp only [List.map_cons, insertEntry, Nat.add_lt_add_iff_left, Nat.add_left_cancel_iff, ih]
      split
      · rfl
      · split <;> rfl

end KeyedMap

end GuideLayer
