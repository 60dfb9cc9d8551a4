import GuideLayer.Json.Decoder
import Mathlib.Data.List.Pairwise

/-!
Objects read as records. An entry changes one field of the record that was there
before, and changes of different fields do not disturb each other. So it does
not matter in which order the entries come: each of them can be put off until
the turn of its field, and so can what makes up for the fields that are missing.
What is left to say of an object is what it gives of each field, if anything, and
nothing has to be known of entries under other names.
-/

namespace GuideLayer

open List

/-- The entry has that key. -/
def Draft.Named (name : String) (e : Draft × Draft) : Prop := e.1.keyText = .ok name

open Draft (Named)

/-- The entries can be told apart: keys are texts, no known name stands twice, and what stands under
other names is JSON, whatever it may be. -/
structure Legible (known : List String) (entries : List (Draft × Draft)) : Prop where
  keys : ∀ e ∈ entries, ∃ name, Named name e
  once : entries.Pairwise (fun e e' => ∀ name ∈ known, Named name e → ¬Named name e')
  others : ∀ e ∈ entries, (∀ name ∈ known, ¬Named name e) → e.2.skim = .ok ()

/-- What entries give under a name: nothing, or a value that reads as the given one. -/
def Gives {α : Type} (entries : List (Draft × Draft)) (name : String) (Reads : Draft → α → Prop) :
    Option α → Prop
  | none => ∀ e ∈ entries, ¬Named name e
  | some a => ∃ e ∈ entries, Named name e ∧ Reads e.2 a

/-- The draft reads as the value, however deep it is nested. -/
def Decoder.Reads {α : Type} (decoder : Decoder α) (d : Draft) (a : α) : Prop :=
  ∀ depth, decoder depth d = .ok a

variable {α β σ : Type} {known : List String} {e : Draft × Draft} {entries : List (Draft × Draft)}

theorem Legible.tail (h : Legible known (e :: entries)) : Legible known entries where
  keys e' he' := h.keys e' (mem_cons_of_mem e he')
  once := h.once.of_cons
  others e' he' := h.others e' (mem_cons_of_mem e he')

/-- A known name has one entry at most. -/
theorem Legible.eq_of_named (h : Legible known entries) {name : String} (hname : name ∈ known)
    {e e' : Draft × Draft} (he : e ∈ entries) (he' : e' ∈ entries) (hnamed : Named name e)
    (hnamed' : Named name e') : e = e' := by
  by_contra hne
  have hsymm : Std.Symm fun e e' : Draft × Draft =>
      ∀ name ∈ known, Named name e → ¬Named name e' :=
    ⟨fun _ _ hee name hknown hfirst hsecond => hee name hknown hsecond hfirst⟩
  exact h.once.forall he he' hne name hname hnamed hnamed'

theorem Gives.imp {name : String} {Reads Reads' : Draft → α → Prop} {x : Option α}
    (h : Gives entries name Reads x) (hreads : ∀ d a, Reads d a → Reads' d a) :
    Gives entries name Reads' x := by
  cases x with
  | none => exact h
  | some a =>
      obtain ⟨e, he, hnamed, hread⟩ := h
      exact ⟨e, he, hnamed, hreads _ _ hread⟩

/-- A value that can be read however deep it is nested is read at any depth. -/
theorem Gives.reads {name : String} {decoder : Decoder α} {x : Option α}
    (h : Gives entries name decoder.Reads x) (depth : Nat) :
    Gives entries name (fun d a => decoder depth d = .ok a) x :=
  h.imp fun _ _ hread => hread depth

theorem Gives.map {name : String} {Reads : Draft → α → Prop} {Reads' : Draft → β → Prop}
    {x : Option α} {f : α → β} (h : Gives entries name Reads x)
    (hreads : ∀ d a, Reads d a → Reads' d (f a)) : Gives entries name Reads' (x.map f) := by
  cases x with
  | none => exact h
  | some a =>
      obtain ⟨e, he, hnamed, hread⟩ := h
      exact ⟨e, he, hnamed, hreads _ _ hread⟩

/-- A field that may be left out, with the value that it has then and the one that is given for it,
if any. -/
structure Slot (σ : Type) where
  {α : Type}
  name : String
  decoder : Decoder α
  set : α → σ → σ
  standard : α
  given : Option α

namespace Slot

def field (p : Slot σ) : Field σ := Field.defaulted p.name p.decoder p.set p.standard

/-- The value that is given is the one that the entries give. -/
def Meets (depth : Nat) (entries : List (Draft × Draft)) (p : Slot σ) : Prop :=
  Gives entries p.name (fun d a => p.decoder depth d = .ok a) p.given

/-- Values of the two do not disturb each other. -/
def Apart (p q : Slot σ) : Prop := ∀ a b s, p.set a (q.set b s) = q.set b (p.set a s)

/-- What the text makes of the field. -/
def change (p : Slot σ) (s : σ) : σ := p.given.elim s (p.set · s)

/-- What makes up for the field. -/
def fallback (p : Slot σ) (s : σ) : σ := if p.given.isSome then s else p.set p.standard s

/-- The field with nothing given. -/
def settled (p : Slot σ) : Slot σ := { p with given := none }

@[simp] theorem name_settled (p : Slot σ) : p.settled.name = p.name := rfl

@[simp] theorem field_settled (p : Slot σ) : p.settled.field = p.field := rfl

/-- All changes that the text makes, in the order of the fields. -/
def amend (ps : List (Slot σ)) (s : σ) : σ := ps.foldl (fun s p => p.change s) s

/-- All values, given or not, in the order of the fields. -/
def fill (ps : List (Slot σ)) (s : σ) : σ :=
  ps.foldl (fun s p => p.set (p.given.getD p.standard) s) s

def names (ps : List (Slot σ)) : List String := ps.map Slot.name

variable {p q : Slot σ} {ps before after : List (Slot σ)} {depth : Nat}

theorem Meets.tail (h : p.Meets depth (e :: entries)) (hother : ¬Named p.name e) :
    p.Meets depth entries := by
  unfold Meets at h ⊢
  cases hgiven : p.given with
  | none =>
      rw [hgiven] at h
      exact fun e' he' => h e' (mem_cons_of_mem e he')
  | some a =>
      rw [hgiven] at h
      obtain ⟨e', he', hnamed, hread⟩ := h
      obtain rfl | he' := mem_cons.mp he'
      · exact absurd hnamed hother
      · exact ⟨e', he', hnamed, hread⟩

/-- Where nothing is left of the field, nothing is left to be given. -/
theorem Meets.given_eq_none (h : p.Meets depth entries) (hnone : ∀ e ∈ entries, ¬Named p.name e) :
    p.given = none := by
  unfold Meets at h
  cases hgiven : p.given with
  | none => rfl
  | some a =>
      rw [hgiven] at h
      obtain ⟨e, he, hnamed, -⟩ := h
      exact absurd hnamed (hnone e he)

/-- The entry of a field is the one that gives its value. -/
theorem Meets.exists_given (h : p.Meets depth entries) (hlegible : Legible known entries)
    (hname : p.name ∈ known) (he : e ∈ entries) (hnamed : Named p.name e) :
    ∃ a, p.given = some a ∧ p.decoder depth e.2 = .ok a := by
  unfold Meets at h
  cases hgiven : p.given with
  | none =>
      rw [hgiven] at h
      exact absurd hnamed (h e he)
  | some a =>
      rw [hgiven] at h
      obtain ⟨e', he', hnamed', hread⟩ := h
      rw [hlegible.eq_of_named hname he' he hnamed' hnamed] at hread
      exact ⟨a, rfl, hread⟩

theorem Apart.symm (h : p.Apart q) : q.Apart p := fun a b s => (h b a s).symm

theorem amend_eq_self (h : ∀ p ∈ ps, p.given = none) (s : σ) : amend ps s = s := by
  induction ps with
  | nil => rfl
  | cons p ps ih =>
      obtain ⟨hp, hps⟩ := forall_mem_cons.mp h
      change amend ps (p.change s) = s
      rw [change, hp]
      exact ih hps

/-- A value can be put off until the changes before it are made. -/
theorem amend_set (h : ∀ q ∈ ps, q.Apart p) (a : p.α) (s : σ) :
    amend ps (p.set a s) = p.set a (amend ps s) := by
  induction ps generalizing s with
  | nil => rfl
  | cons q ps ih =>
      obtain ⟨hq, hps⟩ := forall_mem_cons.mp h
      have hchange : q.change (p.set a s) = p.set a (q.change s) := by
        unfold change
        cases q.given with
        | none => rfl
        | some b => exact hq b a s
      change amend ps (q.change (p.set a s)) = p.set a (amend ps (q.change s))
      rw [hchange, ih hps]

/-- Where a value was set before all changes, there is no change left to make at its turn. -/
theorem amend_settled (h : ∀ q ∈ before, q.Apart p) {a : p.α} (hgiven : p.given = some a) (s : σ) :
    amend (before ++ p.settled :: after) (p.set a s) = amend (before ++ p :: after) s := by
  have hchange : p.change (amend before s) = p.set a (amend before s) := by
    rw [change, hgiven]
    rfl
  unfold amend at hchange ⊢
  rw [foldl_append, foldl_append, foldl_cons, foldl_cons, hchange]
  exact congrArg (amend after) (amend_set h a s)

/-- What makes up for the missing fields, after what the text makes of the others, is the same as
all values one after the other. -/
theorem foldl_fallback_amend (h : ps.Pairwise Apart) (s : σ) :
    ps.foldl (fun s p => p.fallback s) (amend ps s) = fill ps s := by
  induction ps generalizing s with
  | nil => rfl
  | cons p ps ih =>
      obtain ⟨hp, hps⟩ := pairwise_cons.mp h
      have hvalue : p.fallback (amend ps (p.change s)) =
          amend ps (p.set (p.given.getD p.standard) s) := by
        unfold fallback change
        cases p.given with
        | none => exact (amend_set (fun q hq => (hp q hq).symm) p.standard s).symm
        | some a => rfl
      change ps.foldl (fun s p => p.fallback s) (p.fallback (amend ps (p.change s))) =
        fill ps (p.set (p.given.getD p.standard) s)
      rw [hvalue, ih hps]

end Slot

namespace Decoder

open Slot

variable {depth : Nat} {p : Slot σ} {ps before after : List (Slot σ)}

/-! ### One entry -/

section Step

variable {fields : List (Field σ)} {key v : Draft} {name : String} {found : List String} {s : σ}

theorem entries_cons_of_known {f : Field σ} {change : σ → σ} (hkey : key.keyText = .ok name)
    (hfind : fields.find? (fun f => f.name == name) = some f) (hfresh : name ∉ found)
    (hread : f.read depth v = .ok change) :
    Decoder.entries fields depth ((key, v) :: entries) found s =
      Decoder.entries fields depth entries (name :: found) (change s) := by
  have hcontains : ¬found.contains name = true := by simpa using hfresh
  simp only [Decoder.entries, hkey, bind, Except.bind, hfind]
  rw [if_neg hcontains]
  simp only [hread]

theorem entries_cons_of_unknown (hkey : key.keyText = .ok name)
    (hfind : fields.find? (fun f => f.name == name) = none) (hskim : v.skim = .ok ()) :
    Decoder.entries fields depth ((key, v) :: entries) found s =
      Decoder.entries fields depth entries found s := by
  simp only [Decoder.entries, hkey, bind, Except.bind, hfind, hskim]

end Step

theorem find?_field (h : (names (before ++ p :: after)).Nodup) :
    ((before ++ p :: after).map Slot.field).find? (fun f => f.name == p.name) = some p.field := by
  have hbefore : ∀ f ∈ before.map Slot.field, ¬(f.name == p.name) = true := by
    intro f hf
    obtain ⟨q, hq, rfl⟩ := mem_map.mp hf
    rw [names, map_append, map_cons, nodup_append] at h
    rw [beq_iff_eq]
    exact h.2.2 _ (mem_map_of_mem hq) _ mem_cons_self
  rw [map_append, map_cons, find?_append, find?_eq_none.mpr hbefore, Option.none_or]
  exact find?_cons_of_pos (beq_self_eq_true _)

theorem find?_eq_none_of_unknown {name : String} (h : name ∉ names ps) :
    (ps.map Slot.field).find? (fun f => f.name == name) = none := by
  rw [find?_eq_none]
  intro f hf
  obtain ⟨p, hp, rfl⟩ := mem_map.mp hf
  rw [beq_iff_eq]
  exact fun heq => h (mem_map.mpr ⟨p, hp, heq⟩)

/-! ### All entries -/

theorem names_settled : names (before ++ p.settled :: after) = names (before ++ p :: after) := by
  simp [names]

theorem fields_settled :
    (before ++ p.settled :: after).map Slot.field = (before ++ p :: after).map Slot.field := by
  simp

theorem apart_settled (h : (before ++ p :: after).Pairwise Apart) :
    (before ++ p.settled :: after).Pairwise Apart := by
  rw [pairwise_append, pairwise_cons] at h ⊢
  obtain ⟨hbefore, ⟨hp, hafter⟩, hbetween⟩ := h
  refine ⟨hbefore, ⟨hp, hafter⟩, fun q hq => ?_⟩
  obtain ⟨hqp, hqafter⟩ := forall_mem_cons.mp (hbetween q hq)
  exact forall_mem_cons.mpr ⟨hqp, hqafter⟩

theorem name_ne_of_mem (hnames : (names (before ++ p :: after)).Nodup) {q : Slot σ}
    (hq : q ∈ before ++ after) : q.name ≠ p.name := by
  intro heq
  have hnodup := (perm_middle.map Slot.name).nodup_iff.mp hnames
  rw [map_cons, nodup_cons, ← heq] at hnodup
  exact hnodup.1 (mem_map_of_mem hq)

/-- After the one entry of a field only the other fields are left. -/
theorem meets_settled (hmeets : ∀ q ∈ before ++ p :: after, q.Meets depth (e :: entries))
    (hnames : (names (before ++ p :: after)).Nodup) (hnamed : Named p.name e)
    (hused : ∀ e ∈ entries, ¬Named p.name e) :
    ∀ q ∈ before ++ p.settled :: after, q.Meets depth entries := by
  intro q hq
  rw [perm_middle.mem_iff, mem_cons] at hq
  obtain rfl | hq := hq
  · exact hused
  · refine (hmeets q ?_).tail (fun hnamed' => name_ne_of_mem hnames hq ?_)
    · rw [perm_middle.mem_iff]
      exact mem_cons_of_mem p hq
    · rw [Named, hnamed, Except.ok.injEq] at hnamed'
      exact hnamed'.symm

/-- Entries are read in the order in which they come, and what comes of it are the changes in the
order of the fields. Found are the fields that are given. -/
theorem entries_eq_amend (hlegible : Legible (names ps) entries) (hnames : (names ps).Nodup)
    (hmeets : ∀ p ∈ ps, p.Meets depth entries) (hapart : ps.Pairwise Apart)
    {found : List String} (hfound : ∀ name ∈ found, ∀ e ∈ entries, ¬Named name e) (s : σ) :
    ∃ found', Decoder.entries (ps.map Slot.field) depth entries found s =
        .ok (found', amend ps s) ∧
      ∀ p ∈ ps, p.name ∈ found' ↔ p.name ∈ found ∨ p.given.isSome := by
  induction entries generalizing ps found s with
  | nil =>
      have hnone : ∀ p ∈ ps, p.given = none := fun p hp => (hmeets p hp).given_eq_none (by simp)
      refine ⟨found, by rw [amend_eq_self hnone]; rfl, fun p hp => ?_⟩
      simp [hnone p hp]
  | cons e entries ih =>
      obtain ⟨key, v⟩ := e
      obtain ⟨name, hnamed⟩ := hlegible.keys _ mem_cons_self
      have hfresh : name ∉ found := fun h => hfound name h _ mem_cons_self hnamed
      have hrest : ∀ name ∈ found, ∀ e ∈ entries, ¬Named name e :=
        fun name' h e he => hfound name' h e (mem_cons_of_mem _ he)
      by_cases hknown : name ∈ names ps
      case neg =>
        have hother : ∀ name' ∈ names ps, ¬Named name' (key, v) := by
          intro name' hname' hnamed'
          rw [Named, hnamed, Except.ok.injEq] at hnamed'
          exact hknown (hnamed' ▸ hname')
        rw [entries_cons_of_unknown hnamed (find?_eq_none_of_unknown hknown)
          (hlegible.others _ mem_cons_self hother)]
        exact ih hlegible.tail hnames
          (fun p hp => (hmeets p hp).tail (hother _ (mem_map_of_mem hp))) hapart hrest s
      -- The field of the entry has no other entry. It stays in its place, with nothing left to give.
      obtain ⟨p, hp, rfl⟩ := mem_map.mp hknown
      have hused : ∀ e ∈ entries, ¬Named p.name e :=
        fun e he => (pairwise_cons.mp hlegible.once).1 e he _ hknown hnamed
      obtain ⟨a, hgiven, hread⟩ := (hmeets p hp).exists_given hlegible hknown mem_cons_self hnamed
      have hchange : p.field.read depth v = .ok (p.set a) := by
        change (p.decoder depth v).map p.set = .ok (p.set a)
        rw [hread]
        rfl
      obtain ⟨before, after, rfl⟩ := append_of_mem hp
      have hbefore : ∀ q ∈ before, q.Apart p := fun q hq =>
        (pairwise_append.mp hapart).2.2 q hq p mem_cons_self
      rw [entries_cons_of_known hnamed (find?_field hnames) hfresh hchange, ← fields_settled,
        ← amend_settled hbefore hgiven]
      have hnames' : names (before ++ p.settled :: after) = names (before ++ p :: after) :=
        names_settled
      obtain ⟨found', hentries, hin⟩ := ih (hnames' ▸ hlegible.tail) (hnames' ▸ hnames)
        (meets_settled hmeets hnames hnamed hused) (apart_settled hapart)
        (forall_mem_cons.mpr ⟨hused, hrest⟩) (p.set a s)
      refine ⟨found', hentries, fun q hq => ?_⟩
      rw [perm_middle.mem_iff, mem_cons] at hq
      obtain rfl | hq := hq
      · have hq := hin q.settled (mem_append_right before mem_cons_self)
        simpa [hgiven] using hq
      · have hne := name_ne_of_mem hnames hq
        have hq := hin q (perm_middle.mem_iff.mpr (mem_cons_of_mem _ hq))
        simpa [hne] using hq

theorem complete_eq_foldl {found : List String} (h : ∀ p ∈ ps, p.name ∈ found ↔ p.given.isSome)
    (s : σ) :
    complete found (ps.map Slot.field) s = .ok (ps.foldl (fun s p => p.fallback s) s) := by
  induction ps generalizing s with
  | nil => rfl
  | cons p ps ih =>
      obtain ⟨hp, hps⟩ := forall_mem_cons.mp h
      rw [map_cons, complete, foldl_cons, ← ih hps]
      change (if found.contains p.name then _ else _) = _
      unfold fallback
      by_cases hgiven : p.given.isSome = true
      · rw [if_pos (contains_iff_mem.mpr (hp.mpr hgiven)), if_pos hgiven]
      · rw [if_neg (fun hin => hgiven (hp.mp (contains_iff_mem.mp hin))), if_neg hgiven]
        rfl

/-- An object is read as the values that it gives, and for all others what makes up for them,
whatever was there before. -/
theorem record_object {start : σ} (hdepth : 1 < depth) (hlegible : Legible (names ps) entries)
    (hnames : (names ps).Nodup) (hmeets : ∀ p ∈ ps, p.Meets (depth - 1) entries)
    (hapart : ps.Pairwise Apart) :
    record (ps.map Slot.field) start depth (.object entries none) = .ok (fill ps start) := by
  have hnone : ∀ name ∈ ([] : List String), ∀ e ∈ entries, ¬Named name e := by simp
  obtain ⟨found, hread, hfound⟩ := entries_eq_amend hlegible hnames hmeets hapart hnone start
  have hfound : ∀ p ∈ ps, p.name ∈ found ↔ p.given.isSome := by simpa using hfound
  have hdescend : Draft.descend depth = .ok (depth - 1) := if_neg (by omega)
  simp only [record, hdescend, bind, Except.bind, hread, Draft.check]
  rw [complete_eq_foldl hfound, foldl_fallback_amend hapart]

end Decoder

end GuideLayer
