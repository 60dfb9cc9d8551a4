import GuideLayer.Proofs.Octets
import GuideLayer.Url.Link
import Mathlib.Data.List.Basic

/-!
Entries appended to a path of the web. An entry that is no dot segment and holds
no tab and no line end becomes one segment that stands for its bytes, and the
segments before it stay. Any other entry loses bytes on the way, and no step
gives any back, so that the path it leads to cannot stand for all that was
appended.
-/

namespace GuideLayer

open List

namespace Path

open Percent

/-- What the segments of a path stand for. -/
def decoded (segments : List String) : List (List UInt8) :=
  segments.map (fun s => decode s.toList)

/-- An entry that is written as it is: it is no dot segment, and it holds no tab and no line end. -/
def Kept (entry : String) : Prop :=
  entry ≠ "." ∧ entry ≠ ".." ∧ ∀ c ∈ entry.toList, isIgnored c = false

instance (entry : String) : Decidable (Kept entry) :=
  decidable_of_iff (entry ≠ "." ∧ entry ≠ ".." ∧ entry.toList.any isIgnored = false)
    (by simp [Kept])

/-- A path without one trailing empty segment. -/
def withoutTrailing (segments : List String) : List String :=
  if segments.getLast? = some "" then segments.dropLast else segments

/-- What a segment is put after. The empty segment of a path with nothing else gives way. -/
def ground (segments : List String) : List String := if segments = [""] then [] else segments

/-- What is written as a code in an entry. -/
def reservedIn (k : SchemeClass) : Char → Bool :=
  if k.isSpecial then inSpecialSegment else inSegment

/-- How an entry is written in a path of the web. -/
def entryText (entry : String) : String := written inSpecialSegment entry.toList

theorem decoded_append (segments segments' : List String) :
    decoded (segments ++ segments') = decoded segments ++ decoded segments' :=
  map_append

@[simp] theorem length_decoded (segments : List String) :
    (decoded segments).length = segments.length :=
  length_map ..

theorem decode_entryText (entry : String) :
    decode (entryText entry).toList = octets (dropIgnored entry.toList) := by
  rw [entryText, written, String.toList_ofList]
  exact decode_encode (by decide) _

theorem dropIgnored_eq_self_iff {cs : List Char} :
    dropIgnored cs = cs ↔ ∀ c ∈ cs, isIgnored c = false := by
  simp [dropIgnored, filter_eq_self]

/-! ### One entry -/

theorem decode_of_isSingleDot {s : String} (h : isSingleDot s = true) :
    decode s.toList = octets ".".toList := by
  obtain rfl | rfl | rfl : s = "." ∨ s = "%2e" ∨ s = "%2E" := by simpa [isSingleDot] using h
  all_goals decide +kernel

theorem decode_of_isDoubleDot {s : String} (h : isDoubleDot s = true) :
    decode s.toList = octets "..".toList := by
  have hs : s ∈ ["..", "%2e%2e", "%2e%2E", "%2E%2e", "%2E%2E", "%2e.", "%2E.", ".%2e", ".%2E"] := by
    simpa [isDoubleDot] using h
  have hall : ∀ s ∈ ["..", "%2e%2e", "%2e%2E", "%2E%2e", "%2E%2E", "%2e.", "%2E.", ".%2e", ".%2E"],
      decode s.toList = octets "..".toList := by
    decide +kernel
  exact hall s hs

/-- What is kept of an entry is all of it. -/
theorem Kept.decode_entryText {entry : String} (h : Kept entry) :
    decode (entryText entry).toList = octets entry.toList := by
  rw [Path.decode_entryText, dropIgnored_eq_self_iff.mpr h.2.2]

/-- A kept entry is not taken for a dot segment once it is written, whatever it looks like. -/
theorem Kept.addSegment_entryText {entry : String} (h : Kept entry) (segments : List String) :
    addSegment .web segments (entryText entry) true = segments ++ [entryText entry] := by
  have hsingle : isSingleDot (entryText entry) = false := by
    refine Bool.eq_false_iff.mpr (fun hdot => h.1 ?_)
    have hbytes := decode_of_isSingleDot hdot
    rw [h.decode_entryText] at hbytes
    exact String.toList_inj.mp (octets_injective hbytes)
  have hdouble : isDoubleDot (entryText entry) = false := by
    refine Bool.eq_false_iff.mpr (fun hdot => h.2.1 ?_)
    have hbytes := decode_of_isDoubleDot hdot
    rw [h.decode_entryText] at hbytes
    exact String.toList_inj.mp (octets_injective hbytes)
  simp [addSegment, hsingle, hdouble]

theorem append_eq (k : SchemeClass) {entry : String} (h : ¬(entry = "." ∨ entry = ".."))
    (segments : List String) :
    append k segments entry = tidy k (add k (reservedIn k) (ground segments) entry.toList true) :=
  if_neg h

theorem append_web {entry : String} (h : ¬(entry = "." ∨ entry = "..")) (segments : List String) :
    append .web segments entry = addSegment .web (ground segments) (entryText entry) true := by
  rw [append_eq .web h]
  rfl

theorem append_of_kept {entry : String} (h : Kept entry) (segments : List String) :
    append .web segments entry = ground segments ++ [entryText entry] := by
  rw [append_web (not_or.mpr ⟨h.1, h.2.1⟩), h.addSegment_entryText]

/-! ### All entries -/

variable {entries : List String}

/-- Once an entry is there, nothing gives way to the next one. -/
theorem ground_append_of_kept {entry : String} (h : Kept entry) (hne : entry ≠ "")
    (segments : List String) :
    ground (segments ++ [entryText entry]) = segments ++ [entryText entry] := by
  refine if_neg (fun heq => hne ?_)
  have hempty : entryText entry = "" := by
    have hlast := congrArg getLast? heq
    simpa using hlast
  have hbytes := h.decode_entryText
  rw [hempty] at hbytes
  exact String.toList_inj.mp (octets_eq_nil_iff.mp (hbytes.symm.trans decode_nil))

theorem ground_foldl_append_of_kept (h : ∀ e ∈ entries, Kept e ∧ e ≠ "") (segments : List String) :
    ground (entries.foldl (append .web) segments) = ground segments ++ entries.map entryText := by
  induction entries generalizing segments with
  | nil => simp
  | cons e entries ih =>
      obtain ⟨hkept, hne⟩ := h e mem_cons_self
      rw [foldl_cons, ih (fun e' he' => h e' (mem_cons_of_mem _ he')), append_of_kept hkept,
        ground_append_of_kept hkept hne, map_cons, append_assoc, singleton_append]

/-- Kept entries become one segment each, in their order. -/
theorem foldl_append_of_kept (h : ∀ e ∈ entries, Kept e ∧ e ≠ "") (segments : List String) :
    entries.foldl (append .web) segments =
      (if entries ≠ [] then ground segments else segments) ++ entries.map entryText := by
  obtain rfl | ⟨front, e, rfl⟩ := eq_nil_or_concat' entries
  · simp
  · have hfront : ground (front.foldl (append .web) segments) =
        ground segments ++ front.map entryText :=
      ground_foldl_append_of_kept (fun e' he' => h e' (mem_append_left _ he')) segments
    rw [if_pos (by simp), foldl_append, foldl_cons, foldl_nil, append_of_kept (h e (by simp)).1,
      hfront, map_append, append_assoc]
    rfl

theorem decoded_map_entryText (h : ∀ e ∈ entries, Kept e) :
    decoded (entries.map entryText) = entries.map (fun e => octets e.toList) := by
  rw [decoded, map_map]
  exact map_congr_left fun e he => (h e he).decode_entryText

/-! ### How much is there -/

/-- How many bytes a path stands for, separators apart. -/
def weight (segments : List String) : Nat := (decoded segments).flatten.length

@[simp] theorem weight_append (segments segments' : List String) :
    weight (segments ++ segments') = weight segments + weight segments' := by
  unfold weight
  rw [decoded_append, flatten_append, length_append]

theorem weight_singleton (s : String) : weight [s] = (decode s.toList).length := by
  simp [weight, decoded]

theorem weight_empty : weight [""] = 0 := by
  rw [weight_singleton]
  exact congrArg length decode_nil

theorem weight_dropLast_le (segments : List String) : weight segments.dropLast ≤ weight segments := by
  obtain rfl | ⟨front, s, rfl⟩ := eq_nil_or_concat' segments
  · exact Nat.le_refl _
  · rw [dropLast_concat, weight_append]
    exact Nat.le_add_right _ _

theorem weight_parent_le (segments : List String) : weight (parent segments) ≤ weight segments := by
  unfold parent
  split
  · split
    · exact Nat.le_refl _
    · exact weight_dropLast_le segments
  · exact Nat.zero_le _

theorem weight_ground (segments : List String) : weight (ground segments) = weight segments := by
  unfold ground
  split
  · rename_i h
    rw [h, weight_empty]
    rfl
  · rfl

theorem weight_addSegment_le (segments : List String) (s : String) :
    weight (addSegment .web segments s true) ≤ weight segments + (decode s.toList).length := by
  unfold addSegment
  split
  · have hparent := weight_parent_le segments
    rw [if_pos rfl, weight_append, weight_empty]
    omega
  · split
    · rw [if_pos rfl, weight_append, weight_empty]
      omega
    · have hadded : weight (segments ++ [s]) = weight segments + (decode s.toList).length := by
        rw [weight_append, weight_singleton]
      rw [if_neg (by simp)]
      exact Nat.le_of_eq hadded

/-- An entry adds at most what is left of it, and a dot segment adds nothing. -/
theorem weight_append_entry_le (segments : List String) (entry : String) :
    weight (append .web segments entry) ≤ weight segments + (octets entry.toList).length ∧
      (¬Kept entry →
        weight (append .web segments entry) < weight segments + (octets entry.toList).length) := by
  by_cases hdots : entry = "." ∨ entry = ".."
  · have hsame : append .web segments entry = segments := if_pos hdots
    have hsome : 0 < (octets entry.toList).length := by
      obtain rfl | rfl := hdots <;> decide +kernel
    rw [hsame]
    exact ⟨Nat.le_add_right _ _, fun _ => Nat.lt_add_of_pos_right hsome⟩
  · have hadd := weight_addSegment_le (ground segments) (entryText entry)
    rw [weight_ground, decode_entryText, ← append_web hdots] at hadd
    obtain ⟨hdot, hdots⟩ := not_or.mp hdots
    have hsub : dropIgnored entry.toList <+ entry.toList := filter_sublist
    have hle := length_octets_le hsub
    refine ⟨by omega, fun hlost => ?_⟩
    have hlt := length_octets_lt hsub (fun heq => hlost ⟨hdot, hdots, dropIgnored_eq_self_iff.mp heq⟩)
    omega

/-- All entries together add at most their bytes, and less if one of them is not kept. -/
theorem weight_foldl_append_le (entries segments : List String) :
    weight (entries.foldl (append .web) segments) ≤
        weight segments + (entries.flatMap (fun e => octets e.toList)).length ∧
      ((∃ e ∈ entries, ¬Kept e) →
        weight (entries.foldl (append .web) segments) <
          weight segments + (entries.flatMap (fun e => octets e.toList)).length) := by
  induction entries generalizing segments with
  | nil => simp
  | cons e entries ih =>
      obtain ⟨hle, hlt⟩ := weight_append_entry_le segments e
      obtain ⟨hle', hlt'⟩ := ih (append .web segments e)
      rw [foldl_cons, flatMap_cons, length_append]
      refine ⟨by omega, ?_⟩
      rintro ⟨e', he', hlost⟩
      obtain rfl | he' := mem_cons.mp he'
      · have hfirst := hlt hlost
        omega
      · have hrest := hlt' ⟨e', he', hlost⟩
        omega

/-- Entries of which all the bytes are there were kept. -/
theorem kept_of_decoded_eq {segments trimmed : List String}
    (hweight : weight trimmed = weight segments)
    (h : decoded (entries.foldl (append .web) segments) =
      decoded trimmed ++ entries.map (fun e => octets e.toList)) : ∀ e ∈ entries, Kept e := by
  intro e he
  refine Decidable.byContradiction (fun hlost => ?_)
  have hlt := (weight_foldl_append_le entries segments).2 ⟨e, he, hlost⟩
  have hbytes := congrArg (fun bytes => bytes.flatten.length) h
  simp only [flatten_append, length_append, ← flatMap_def] at hbytes
  change weight (entries.foldl (append .web) segments) = weight trimmed + _ at hbytes
  rw [hweight] at hbytes
  exact absurd hbytes (Nat.ne_of_lt hlt)

end Path

end GuideLayer
