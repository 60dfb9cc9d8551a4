/-!
Maps from numbers to values, kept as a list of entries in the order of their
keys. A key occurs once. The order comes with the map, so that every operation
gives an ordered map again.
-/

namespace GuideLayer

/-- A map with keys in increasing order. -/
@[ext]
structure KeyedMap (β : Type) where
  entries : List (Nat × β)
  ordered : entries.Pairwise (fun e e' => e.1 < e'.1)
  deriving DecidableEq, Repr

namespace KeyedMap

variable {β : Type}

def empty : KeyedMap β := ⟨[], List.Pairwise.nil⟩

/-- The values in the order of their keys. -/
def values (m : KeyedMap β) : List β := m.entries.map Prod.snd

def get? (k : Nat) (m : KeyedMap β) : Option β :=
  (m.entries.find? (fun e => decide (e.1 = k))).map Prod.snd

theorem mem_values_of_get? {k : Nat} {v : β} {m : KeyedMap β} (h : m.get? k = some v) :
    v ∈ m.values := by
  obtain ⟨e, he, rfl⟩ := Option.map_eq_some_iff.mp h
  exact List.mem_map_of_mem (List.mem_of_find?_eq_some he)

/-! ### Insertion -/

/-- Puts an entry in its place. It takes the place of an entry with the same key. -/
def insertEntry (k : Nat) (v : β) : List (Nat × β) → List (Nat × β)
  | [] => [(k, v)]
  | e :: es =>
    if k < e.1 then (k, v) :: e :: es
    else if k = e.1 then (k, v) :: es
    else e :: insertEntry k v es

theorem mem_insertEntry {k : Nat} {v : β} {es : List (Nat × β)} {e : Nat × β}
    (h : e ∈ insertEntry k v es) : e = (k, v) ∨ e ∈ es := by
  induction es with
  | nil => exact .inl (List.mem_singleton.mp h)
  | cons e' es ih =>
      rw [insertEntry] at h
      split at h
      · exact List.mem_cons.mp h
      · split at h
        · exact (List.mem_cons.mp h).imp_right (List.mem_cons_of_mem e')
        · rcases List.mem_cons.mp h with rfl | h
          · exact .inr List.mem_cons_self
          · exact (ih h).imp_right (List.mem_cons_of_mem e')

theorem above_of_lt_head {k : Nat} {e : Nat × β} {es : List (Nat × β)}
    (h : (e :: es).Pairwise (fun e e' => e.1 < e'.1)) (hlt : k < e.1) :
    ∀ e' ∈ e :: es, k < e'.1 := by
  intro e' he'
  rcases List.mem_cons.mp he' with rfl | he'
  · exact hlt
  · exact Nat.lt_trans hlt ((List.pairwise_cons.mp h).1 e' he')

theorem ordered_insertEntry (k : Nat) (v : β) {es : List (Nat × β)}
    (h : es.Pairwise (fun e e' => e.1 < e'.1)) :
    (insertEntry k v es).Pairwise (fun e e' => e.1 < e'.1) := by
  induction es with
  | nil => exact List.pairwise_singleton _ _
  | cons e es ih =>
      obtain ⟨habove, hrest⟩ := List.pairwise_cons.mp h
      rw [insertEntry]
      split
      next hlt => exact List.pairwise_cons.mpr ⟨above_of_lt_head h hlt, h⟩
      next hge =>
        split
        next heq =>
          refine List.pairwise_cons.mpr ⟨?_, hrest⟩
          intro e' he'
          rw [heq]
          exact habove e' he'
        next hne =>
          refine List.pairwise_cons.mpr ⟨?_, ih hrest⟩
          intro e' he'
          rcases mem_insertEntry he' with rfl | he'
          · show e.1 < k
            omega
          · exact habove e' he'

/-- Above all keys an entry goes to the end. -/
theorem insertEntry_of_above {k : Nat} (v : β) {es : List (Nat × β)} (h : ∀ e ∈ es, e.1 < k) :
    insertEntry k v es = es ++ [(k, v)] := by
  induction es with
  | nil => rfl
  | cons e es ih =>
      have hlt := h e List.mem_cons_self
      rw [insertEntry, if_neg (Nat.lt_asymm hlt), if_neg (Nat.ne_of_gt hlt),
        ih (fun e' he' => h e' (List.mem_cons_of_mem e he'))]
      rfl

def insert (k : Nat) (v : β) (m : KeyedMap β) : KeyedMap β :=
  ⟨insertEntry k v m.entries, ordered_insertEntry k v m.ordered⟩

theorem values_insert_of_above {k : Nat} (v : β) {m : KeyedMap β} (h : ∀ e ∈ m.entries, e.1 < k) :
    (m.insert k v).values = m.values ++ [v] := by
  show (insertEntry k v m.entries).map Prod.snd = _
  rw [insertEntry_of_above v h, List.map_append]
  rfl

@[simp] theorem get?_insert_self (k : Nat) (v : β) (m : KeyedMap β) :
    (m.insert k v).get? k = some v := by
  obtain ⟨es, hes⟩ := m
  show ((insertEntry k v es).find? _).map Prod.snd = _
  clear hes
  induction es with
  | nil => simp [insertEntry]
  | cons e es ih =>
      rw [insertEntry]
      split
      · simp
      · split
        · simp
        next hne => simpa [Ne.symm hne] using ih

/-! ### Changes of values -/

/-- Changes the value of a key, if there is one. -/
def modify (k : Nat) (f : β → β) (m : KeyedMap β) : KeyedMap β where
  entries := m.entries.map (fun e => if e.1 = k then (e.1, f e.2) else e)
  ordered := by
    refine List.pairwise_map.mpr (m.ordered.imp ?_)
    intro e e' hlt
    split <;> split <;> exact hlt

/-- Keeps the values that pass. -/
def retain (p : β → Bool) (m : KeyedMap β) : KeyedMap β :=
  ⟨m.entries.filter (fun e => p e.2), m.ordered.filter _⟩

@[simp] theorem values_retain (p : β → Bool) (m : KeyedMap β) :
    (m.retain p).values = m.values.filter p := by
  show (m.entries.filter (p ∘ Prod.snd)).map Prod.snd = _
  rw [values, List.filter_map]

@[simp] theorem retain_retain_self (p : β → Bool) (m : KeyedMap β) :
    (m.retain p).retain p = m.retain p := by
  apply KeyedMap.ext
  show (m.entries.filter _).filter _ = m.entries.filter _
  rw [List.filter_filter]
  exact List.filter_congr (fun e _ => Bool.and_self (p e.2))

/-- Only the new entry has the key. -/
theorem modify_insert_self (k : Nat) (v : β) (f : β → β) (m : KeyedMap β) :
    (m.insert k v).modify k f = m.insert k (f v) := by
  obtain ⟨es, hes⟩ := m
  apply KeyedMap.ext
  show (insertEntry k v es).map _ = insertEntry k (f v) es
  -- What stands behind an entry with this key or a greater one keeps its value.
  have hkept {k' : Nat} {es : List (Nat × β)} (hle : k ≤ k') (h : ∀ e ∈ es, k' < e.1) :
      es.map (fun e => if e.1 = k then (e.1, f e.2) else e) = es := by
    refine (List.map_congr_left (fun e he => ?_)).trans (List.map_id es)
    exact if_neg (Nat.ne_of_gt (Nat.lt_of_le_of_lt hle (h e he)))
  induction es with
  | nil => simp [insertEntry]
  | cons e es ih =>
      obtain ⟨habove, hrest⟩ := List.pairwise_cons.mp hes
      simp only [insertEntry]
      split
      next hlt =>
        rw [List.map_cons, hkept (Nat.le_refl k) (above_of_lt_head hes hlt), if_pos rfl]
      next =>
        split
        next heq => rw [List.map_cons, hkept (Nat.le_of_eq heq) habove, if_pos rfl]
        next hne => rw [List.map_cons, if_neg (Ne.symm hne), ih hrest]

end KeyedMap

end GuideLayer
