import GuideLayer.Proofs.Delimiters
import GuideLayer.Proofs.Entries
import Mathlib.Data.List.TakeDrop
import Mathlib.Data.List.TakeWhile

/-!
URLs whose parts can be told from their text. No part holds what would end it,
and a path that stands for itself does not begin like an authority. Every URL
that is read is one of these, by whichever rules it is read, and so is every
URL to whose path entries are appended, whatever they hold.
-/

namespace GuideLayer

open List

namespace Path

/-- Empty segments are not at the front of others. -/
def Apart (segments : List String) : Prop := segments.head? = some "" → segments.length ≤ 1

theorem Apart.ground {segments : List String} (h : Apart segments) :
    (ground segments).head? ≠ some "" := by
  unfold Path.ground
  split
  · simp
  · rename_i hne
    intro hempty
    obtain ⟨rest, rfl⟩ := head?_eq_some_iff.mp hempty
    have hlength := h hempty
    obtain rfl : rest = [] := by simpa using hlength
    exact hne rfl

theorem apart_concat {front segments : List String} (hfront : front <+: segments)
    (h : segments.head? ≠ some "") (s : String) : Apart (front ++ [s]) := by
  obtain ⟨back, rfl⟩ := hfront
  cases front with
  | nil => exact fun _ => Nat.le_refl 1
  | cons t front => exact fun hempty => absurd hempty h

theorem apart_addSegment {k : SchemeClass} (hk : k ≠ .file) {done : List String}
    (h : done.head? ≠ some "") (s : String) : Apart (addSegment k done s true) := by
  unfold addSegment
  simp only [if_true, hk, false_and, if_false]
  split
  · exact apart_concat (parent_isPrefix done) h ""
  · split
    · exact apart_concat prefix_rfl h ""
    · exact apart_concat prefix_rfl h s

theorem apart_trimFront (segments : List String) : Apart (trimFront segments) := by
  unfold trimFront
  split
  · exact fun _ => Nat.le_refl 1
  · rename_i s rest hdrop
    intro hempty
    have hs := head_dropWhile_not (· == "") (l := segments) (by simp [hdrop])
    simp_all

theorem Apart.append {segments : List String} (h : Apart segments) (k : SchemeClass)
    (entry : String) : Apart (append k segments entry) := by
  by_cases hdots : entry = "." ∨ entry = ".."
  · rwa [Path.append, if_pos hdots]
  rw [append_eq k hdots]
  by_cases hk : k = .file
  · rw [tidy, if_pos hk]
    exact apart_trimFront _
  · rw [tidy, if_neg hk, add, if_neg (fun hfile => hk hfile.1)]
    exact apart_addSegment hk h.ground _

theorem Apart.dropTrailingEmpty {segments : List String} (h : Apart segments) :
    Apart (dropTrailingEmpty segments) := by
  unfold Path.dropTrailingEmpty
  split
  · rename_i hmany
    cases segments with
    | nil => exact h
    | cons s rest =>
        cases rest with
        | nil => simp at hmany
        | cons t rest =>
            intro hempty
            exact absurd (h hempty) (by simp)
  · exact h

theorem dropTrailingEmpty_isPrefix (segments : List String) :
    dropTrailingEmpty segments <+: segments := by
  unfold dropTrailingEmpty
  split
  · exact dropLast_prefix segments
  · exact prefix_rfl

theorem AllUncut.append_entry {segments : List String} (h : AllUncut segments) (k : SchemeClass)
    (entry : String) : AllUncut (Path.append k segments entry) := by
  by_cases hdots : entry = "." ∨ entry = ".."
  · rwa [Path.append, if_pos hdots]
  have hground : AllUncut (ground segments) := by
    unfold ground
    split
    · exact .nil
    · exact h
  have hcoded : delimiters.all (reservedIn k) = true := by
    cases k <;> decide
  rw [append_eq k hdots]
  exact (hground.add (fun c _ hcut => all_eq_true.mp hcoded c hcut) true).tidy

/-- Whatever the steps along a list keep, the whole of them keeps. -/
theorem foldl_append_induction {P : List String → Prop} {k : SchemeClass}
    (hstep : ∀ segments entry, P segments → P (append k segments entry)) (entries : List String)
    {segments : List String} (h : P segments) : P (entries.foldl (append k) segments) := by
  induction entries generalizing segments with
  | nil => exact h
  | cons e entries ih => exact ih (hstep segments e h)

end Path

namespace Url

open GuideLayer.Path

theorem allUncut_readPath (k : SchemeClass) (cs : List Char) : AllUncut (readPath k cs) := by
  unfold readPath rootPieces
  split
  · exact .nil
  · exact allUncut_addAll_cut _

/-- A URL in which no part holds what would end it, nor begins with what would make it another
part: a path without an authority before it does not begin with two slashes. Only outside the web
may it have no segments. -/
structure Parted (u : Url) : Prop where
  scheme : ∀ c ∈ u.scheme.toList, c ∉ ':' :: delimiters
  authority : ∀ a ∈ u.authority, Uncut a.render
  segments : ∀ list, u.path = .segments list → AllUncut list
  apart : u.authority = none → u.guarded = false → ∀ list, u.path = .segments list → Apart list
  other : ∀ text, u.path = .opaqueText text → u.schemeClass = .other
  query : ∀ q ∈ u.query, '#' ∉ q.toList

/-- Letters are put below each other, and all other characters stay. -/
theorem toLower_eq_or_le (c : Char) : c.toLower = c ∨ 97 ≤ c.toLower.toNat := by
  unfold Char.toLower
  split
  · rename_i h
    have hlow : 65 ≤ c.val.toNat := UInt32.le_iff_toNat_le.mp h.1
    have hhigh : c.val.toNat ≤ 90 := UInt32.le_iff_toNat_le.mp h.2
    right
    change 97 ≤ (c.val + 32).toNat
    rw [UInt32.toNat_add]
    change 97 ≤ (c.val.toNat + 32) % 2 ^ 32
    omega
  · exact .inl rfl

theorem toLower_eq_of_mem {c : Char} {marks : List Char} (hmarks : ∀ d ∈ marks, d.toNat < 97)
    (h : c.toLower ∈ marks) : c.toLower = c :=
  (toLower_eq_or_le c).resolve_right (Nat.not_le.mpr (hmarks _ h))

theorem not_mem_of_scheme_read? {cs rest : List Char} {scheme : String}
    (h : Scheme.read? cs = some (scheme, rest)) : ∀ c ∈ scheme.toList, c ∉ ':' :: delimiters := by
  have hmarks : ∀ d ∈ ':' :: delimiters, d.toNat < 97 := forall_iff_forall_mem.mp (by decide)
  have hschemes : ∀ d ∈ ':' :: delimiters, Scheme.isSchemeChar d = false :=
    forall_iff_forall_mem.mp (by decide)
  unfold Scheme.read? at h
  split at h
  · cases h
  split at h
  · rename_i name rest' hspan
    split at h
    · cases h
      rw [span_eq_takeWhile_dropWhile] at hspan
      intro c hc hmark
      rw [String.toList_ofList] at hc
      obtain ⟨d, hd, rfl⟩ := mem_map.mp hc
      rw [toLower_eq_of_mem hmarks hmark] at hmark
      rw [← (Prod.mk.inj hspan).1] at hd
      have hchar := mem_takeWhile_imp hd
      rw [hschemes d hmark] at hchar
      cases hchar
    · cases h
  · cases h

/-! ### Reading -/

theorem parted_fileUrl {host : Option Host} (hhost : ∀ h ∈ host, Uncut h.render)
    {segments : List String} (h : AllUncut segments) : (fileUrl host segments).Parted where
  scheme := by
    change ∀ c ∈ "file".toList, c ∉ ':' :: delimiters
    exact forall_iff_forall_mem.mp (by decide)
  authority := by
    intro a ha
    cases ha
    exact uncut_render_authority .nil hhost none
  segments := by
    intro list hlist
    cases hlist
    exact h.tidy
  apart hnone := by cases hnone
  other text htext := by cases htext
  query := by
    intro q hq
    cases hq

theorem parted_wholeFile (cs : List Char) : (fileUrl none (readWholeFilePath cs)).Parted :=
  parted_fileUrl (by simp) (allUncut_addAll_cut cs)

variable [HostNames]

theorem parted_readHostedFile {host path : List Char} {u : Url}
    (h : readHostedFile host path = .ok u) : u.Parted := by
  unfold readHostedFile at h
  simp only [bind, Except.bind, pure, Except.pure] at h
  split at h
  · cases h
  rename_i name hname
  split at h
  · cases h
    exact parted_wholeFile path
  · cases h
    refine parted_fileUrl (fun g hg => ?_) (allUncut_addAll_cut _)
    split at hg
    · cases hg
    · cases hg
      exact Host.uncut_read hname

theorem parted_readFile {cs : List Char} {u : Url} (h : readFile cs = .ok u) : u.Parted := by
  unfold readFile readFileHost at h
  dsimp only at h
  split at h
  · cases h
    exact parted_wholeFile _
  split at h
  · split at h
    · cases h
      exact parted_wholeFile _
    split at h
    · split at h
      · cases h
        exact parted_wholeFile _
      · exact parted_readHostedFile h
    · cases h
      exact parted_wholeFile _
  · cases h
    exact parted_wholeFile _

theorem parted_readHierarchy {scheme : String} {cs : List Char} {more : Bool} {u : Url}
    (hscheme : ∀ c ∈ scheme.toList, c ∉ ':' :: delimiters)
    (h : readHierarchy scheme cs more = .ok u) : u.Parted := by
  unfold readHierarchy at h
  simp only [bind, Except.bind, pure, Except.pure] at h
  split at h
  · cases h
  rename_i r hauthority
  cases h
  constructor
  · exact hscheme
  · intro a ha
    cases ha
    exact uncut_readAuthority hauthority
  · intro list hlist
    cases hlist
    exact allUncut_readPath _ _
  · intro hnone
    cases hnone
  · intro text htext
    cases htext
  · intro q hq
    cases hq

theorem parted_readOther {scheme : String} {cs : List Char} {more : Bool} {u : Url}
    (hscheme : ∀ c ∈ scheme.toList, c ∉ ':' :: delimiters)
    (hother : SchemeClass.ofScheme scheme = .other)
    (h : readOther scheme cs more = .ok u) : u.Parted := by
  unfold readOther at h
  split at h
  · exact parted_readHierarchy hscheme h
  · -- A path whose first segment is empty is guarded, unless it is the only one.
    rename_i rest _
    cases h
    refine ⟨hscheme, by simp, ?_, ?_, fun _ _ => hother, by simp⟩
    · intro list hlist
      cases hlist
      exact allUncut_addAll_cut _
    · intro _ hguarded list hlist hempty
      cases hlist
      simpa [hempty] using hguarded
  · cases h
    refine ⟨hscheme, by simp, ?_, ?_, fun _ _ => hother, by simp⟩
    · intro list hlist
      cases hlist
    · intro _ _ list hlist
      cases hlist

theorem parted_readBody {body : List Char} {more : Bool} {u : Url}
    (h : readBody body more = .ok u) : u.Parted := by
  unfold readBody at h
  split at h
  · cases h
  rename_i scheme rest hscheme
  have hscheme := not_mem_of_scheme_read? hscheme
  split at h
  · exact parted_readHierarchy hscheme h
  · exact parted_readFile h
  · rename_i hother
    exact parted_readOther hscheme hother h

theorem parted_read {text : String} {u : Url} (h : read text = .ok u) : u.Parted := by
  unfold read at h
  simp only [bind, Except.bind, pure, Except.pure] at h
  split at h
  · cases h
  rename_i url hbody
  have hparted := parted_readBody hbody
  cases h
  refine ⟨hparted.scheme, hparted.authority, hparted.segments, hparted.apart, hparted.other, ?_⟩
  intro q hq hmark
  obtain ⟨cs, -, rfl⟩ := Option.map_eq_some_iff.mp hq
  rw [written, String.toList_ofList] at hmark
  obtain hcode | ⟨hplain, -⟩ := Percent.mem_encode hmark
  · exact absurd hcode (by decide)
  · split at hplain
    · exact absurd hplain (by decide)
    · exact absurd hplain (by decide)

/-! ### Linking -/

/-- A link is the base with another path. -/
theorem link_eq_ok {base : String} {entries : List String} {u : Url}
    (h : link base entries = .ok u) :
    ∃ url list, read base = .ok url ∧ url.path = .segments list ∧
      u = { url with
        path := .segments ((entries.filter (· ≠ "")).foldl (Path.append url.schemeClass)
          (dropTrailingEmpty list)) } := by
  unfold link at h
  split at h
  · cases h
  · rename_i url hread
    split at h
    · cases h
    · rename_i list hpath
      cases h
      exact ⟨url, list, hread, hpath, rfl⟩

theorem parted_link {base : String} {entries : List String} {u : Url}
    (h : link base entries = .ok u) : u.Parted := by
  obtain ⟨url, list, hread, hpath, rfl⟩ := link_eq_ok h
  have hurl := parted_read hread
  refine ⟨hurl.scheme, hurl.authority, ?_, ?_, fun _ htext => (by cases htext), hurl.query⟩
  · intro list' hlist
    cases hlist
    refine foldl_append_induction (fun _ e hs => hs.append_entry _ e) _ ?_
    exact (hurl.segments list hpath).subset (dropTrailingEmpty_isPrefix list).subset
  · intro hnone hguarded list' hlist
    cases hlist
    refine foldl_append_induction (fun _ e hs => hs.append _ e) _ ?_
    exact (hurl.apart hnone hguarded list hpath).dropTrailingEmpty

end Url

end GuideLayer
