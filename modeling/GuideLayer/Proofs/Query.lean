import GuideLayer.Proofs.Octets
import GuideLayer.Url.Form
import GuideLayer.Url.Reader
import Mathlib.Data.List.Basic

/-!
The pairs of a query. Names and values are written without the signs between
pairs and inside them, so that a query with one more pair is read as the pairs it
had before and that one, whatever text the pair holds and whatever stood in the
query.
-/

namespace GuideLayer

open List

/-! ### Cutting at a mark -/

namespace Pieces

theorem before_append {stop : Char → Bool} {front back : List Char}
    (hfront : ∀ c ∈ front, stop c = false) (hback : ∀ c ∈ back.head?, stop c = true) :
    before stop (front ++ back) = (front, back) := by
  have hpass : ∀ c ∈ front, (!stop c) = true := fun c hc => by rw [hfront c hc]; rfl
  unfold before
  rw [takeWhile_append_of_pos hpass, dropWhile_append_of_pos hpass]
  cases back with
  | nil => simp
  | cons c back => simp [hback c rfl]

theorem cut_append_cons {isSeparator : Char → Bool} {s : Char} (hs : isSeparator s = true)
    (cs ds : List Char) :
    cut isSeparator (cs ++ s :: ds) = cut isSeparator cs ++ cut isSeparator ds := by
  induction cs with
  | nil =>
      have hempty : cut isSeparator [] = [[]] := rfl
      rw [nil_append, hempty, cut, if_pos hs, singleton_append]
  | cons c cs ih =>
      rw [cons_append, cut, cut, ih]
      split
      · rfl
      · cases hcut : cut isSeparator cs with
        | nil => exact absurd hcut (cut_ne_nil _ _)
        | cons p ps => rfl

theorem cut_of_not_mem {isSeparator : Char → Bool} {cs : List Char}
    (h : ∀ c ∈ cs, isSeparator c = false) : cut isSeparator cs = [cs] := by
  induction cs with
  | nil => rfl
  | cons c cs ih =>
      rw [cut, ih (fun d hd => h d (mem_cons_of_mem _ hd)), h c mem_cons_self]
      rfl

end Pieces

namespace Url

variable {mark : Char} {front : List Char}

theorem cutAt_of_not_mem (h : mark ∉ front) : cutAt mark front = (front, none) := by
  have hbefore : Pieces.before (· == mark) (front ++ []) = (front, []) :=
    Pieces.before_append (fun c hc => beq_eq_false_iff_ne.mpr (ne_of_mem_of_not_mem hc h)) (by simp)
  rw [append_nil] at hbefore
  unfold cutAt
  rw [hbefore]

theorem cutAt_append_cons (h : mark ∉ front) (rest : List Char) :
    cutAt mark (front ++ mark :: rest) = (front, some rest) := by
  have hbefore : Pieces.before (· == mark) (front ++ mark :: rest) = (front, mark :: rest) :=
    Pieces.before_append (fun c hc => beq_eq_false_iff_ne.mpr (ne_of_mem_of_not_mem hc h)) (by simp)
  unfold cutAt
  rw [hbefore]

end Url

namespace Form

open Percent

/-! ### Names and values -/

/-- The bytes that a name or a value stands for. -/
def decode (cs : List Char) : List UInt8 :=
  Percent.decode (cs.map (fun c => if c = '+' then ' ' else c))

theorem decode_encodeChar_append (c : Char) (rest : List Char) :
    decode (encodeChar c ++ rest) = String.utf8EncodeChar c ++ decode rest := by
  unfold decode encodeChar
  rw [map_append]
  split
  · rename_i hplain
    have hplus : c ≠ '+' := by
      rintro rfl
      exact absurd hplain (by decide)
    have hcode : c ≠ '%' := by
      rintro rfl
      exact absurd hplain (by decide)
    rw [map_singleton, if_neg hplus, singleton_append, decode_cons hcode]
  · split
    · rename_i hblank
      rw [map_singleton, if_pos rfl, singleton_append, decode_cons (by decide), hblank]
    · have hsame : (Percent.encodeChar c).map (fun d => if d = '+' then ' ' else d) =
          Percent.encodeChar c := by
        refine (map_congr_left fun d hd => if_neg ?_).trans (map_id _)
        rintro rfl
        exact absurd (mem_codeChars_of_mem_encodeChar hd) (by decide)
      rw [hsame, decode_encodeChar]

/-- What is written stands for the bytes of the text. -/
theorem decode_encode (cs : List Char) : decode (encode cs) = octets cs := by
  induction cs with
  | nil => exact decode_nil
  | cons c cs ih =>
      have hcons : encode (c :: cs) = encodeChar c ++ encode cs := rfl
      rw [hcons, decode_encodeChar_append, ih, octets_cons]

/-- No sign with a meaning in a query is written as it is. -/
theorem not_mem_encode {c : Char} (hc : c ∈ ['&', '=', '#', '?']) (cs : List Char) :
    c ∉ encode cs := by
  intro hmem
  obtain ⟨d, -, hd⟩ := mem_flatMap.mp hmem
  unfold encodeChar at hd
  split at hd
  · rename_i hplain
    obtain rfl := mem_singleton.mp hd
    have hsigns : ∀ c ∈ ['&', '=', '#', '?'], plain c = false :=
      forall_iff_forall_mem.mp (by decide)
    rw [hsigns c hc] at hplain
    cases hplain
  · have hsigns : ∀ c ∈ ['&', '=', '#', '?'], c ∉ '+' :: codeChars :=
      forall_iff_forall_mem.mp (by decide)
    refine hsigns c hc ?_
    split at hd
    · obtain rfl := mem_singleton.mp hd
      exact mem_cons_self
    · exact mem_cons_of_mem _ (mem_codeChars_of_mem_encodeChar hd)

/-! ### Pairs -/

/-- The name and the value in a piece of a query. Without a sign in it all of it is the name. -/
def readPair (piece : List Char) : List UInt8 × List UInt8 :=
  (decode (Url.cutAt '=' piece).1, decode ((Url.cutAt '=' piece).2.getD []))

/-- The pairs of a query. Pieces without any text are none. -/
def pairs (query : List Char) : List (List UInt8 × List UInt8) :=
  ((Pieces.cut (· == '&') query).filter (· ≠ [])).map readPair

/-- A pair of texts as it is read. -/
def readAs (name value : String) : List UInt8 × List UInt8 :=
  (octets name.toList, octets value.toList)

theorem readPair_pair (name value : String) : readPair (pair name value) = readAs name value := by
  have hcut : Url.cutAt '=' (pair name value) = (encode name.toList, some (encode value.toList)) :=
    Url.cutAt_append_cons (not_mem_encode (by decide) _) _
  unfold readPair readAs
  rw [hcut, decode_encode, Option.getD_some, decode_encode]

theorem not_mem_pair {c : Char} (hc : c ∈ ['&', '#']) (name value : String) :
    c ∉ pair name value := by
  have hsigns : ∀ d ∈ ['&', '#'], d ∈ ['&', '=', '#', '?'] ∧ d ≠ '=' :=
    forall_iff_forall_mem.mp (by decide)
  obtain ⟨hsign, hne⟩ := hsigns c hc
  unfold pair
  simp [not_mem_encode hsign, hne]

theorem pairs_pair (name value : String) : pairs (pair name value) = [readAs name value] := by
  have hcut : Pieces.cut (· == '&') (pair name value) = [pair name value] := by
    refine Pieces.cut_of_not_mem (fun c hc => beq_eq_false_iff_ne.mpr ?_)
    exact ne_of_mem_of_not_mem hc (not_mem_pair (by decide) name value)
  have hsome : pair name value ≠ [] := by simp [pair]
  unfold pairs
  rw [hcut, filter_cons_of_pos (by simpa using hsome), filter_nil, map_singleton, readPair_pair]

theorem pairs_append_cons (front back : List Char) :
    pairs (front ++ '&' :: back) = pairs front ++ pairs back := by
  unfold pairs
  rw [Pieces.cut_append_cons (by decide), filter_append, map_append]

/-- The pairs of a query that may be missing. -/
def pairsOf (query : Option (List Char)) : List (List UInt8 × List UInt8) :=
  (query.map pairs).getD []

/-- One more pair comes after the others and leaves them as they are. -/
theorem pairs_append (query : Option String) (name value : String) :
    pairs (append query name value).toList =
      pairsOf (query.map String.toList) ++ [readAs name value] := by
  unfold append
  split
  · rw [String.toList_ofList, pairs_pair]
    rfl
  · rw [String.toList_ofList, pairs_pair]
    rfl
  · rw [String.toList_ofList, pairs_append_cons, pairs_pair]
    rfl

theorem not_mem_append {query : Option String} (h : ∀ q ∈ query, '#' ∉ q.toList)
    (name value : String) : '#' ∉ (append query name value).toList := by
  have hpair : '#' ∉ pair name value := not_mem_pair (by decide) name value
  unfold append
  split
  · rwa [String.toList_ofList]
  · rwa [String.toList_ofList]
  · rw [String.toList_ofList, mem_append, mem_cons]
    simp [h _ rfl, hpair]

end Form

end GuideLayer
