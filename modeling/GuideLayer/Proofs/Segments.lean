import GuideLayer.Proofs.Parted
import GuideLayer.Url.AsciiNames

/-!
The segments of a link. They are those of the base and one for each entry just
when every entry is kept and the base does not end in nothing but empty
segments. A path is never without a segment, so that the empty one of a bare base
stays until an entry takes its place, and so does the first of two empty ones.
-/

namespace GuideLayer

open List

namespace Path

/-- Only a bare path keeps its trailing segment. -/
theorem dropTrailingEmpty_eq (segments : List String) :
    dropTrailingEmpty segments = if segments = [""] then [""] else withoutTrailing segments := by
  unfold dropTrailingEmpty withoutTrailing
  by_cases hbare : segments = [""]
  · rw [hbare]
    rfl
  rw [if_neg hbare]
  by_cases hlast : segments.getLast? = some ""
  · have hmany : 1 < segments.length := by
      obtain ⟨front, rfl⟩ := getLast?_eq_some_iff.mp hlast
      cases front with
      | nil => exact absurd rfl hbare
      | cons t front => simp
    rw [if_pos ⟨hmany, hlast⟩, if_pos hlast]
  · rw [if_neg (fun h => hlast h.2), if_neg hlast]

theorem withoutTrailing_eq_bare_iff {segments : List String} :
    withoutTrailing segments = [""] ↔ segments = ["", ""] := by
  unfold withoutTrailing
  split
  · rename_i hlast
    obtain ⟨front, rfl⟩ := getLast?_eq_some_iff.mp hlast
    change (front ++ [""]).dropLast = [""] ↔ front ++ [""] = [""] ++ [""]
    rw [dropLast_concat, append_left_inj]
  · rename_i hlast
    refine iff_of_false (fun h => hlast ?_) (fun h => hlast ?_)
    · rw [h]
      rfl
    · rw [h]
      rfl

theorem decoded_ground_eq_iff {segments : List String} :
    decoded (ground segments) = decoded segments ↔ segments ≠ [""] := by
  unfold ground
  split
  · rename_i hbare
    rw [hbare]
    exact iff_of_false (by simp [decoded]) (fun h => h rfl)
  · rename_i hbare
    exact iff_of_true rfl hbare

/-- Where entries are put is where the base ends without its trailing slash, but for bases with
nothing but empty segments. -/
theorem ground_eq_withoutTrailing_iff (segments : List String) (p : Prop) [Decidable p] :
    decoded (if p then ground (dropTrailingEmpty segments) else dropTrailingEmpty segments) =
        decoded (withoutTrailing segments) ↔
      (segments = [""] → p) ∧ (segments = ["", ""] → ¬p) := by
  rw [dropTrailingEmpty_eq]
  by_cases hbare : segments = [""]
  · -- The segment of a bare base stays unless something takes its place.
    subst hbare
    by_cases hp : p
    · rw [if_pos hp]
      exact iff_of_true rfl ⟨fun _ => hp, by simp⟩
    · rw [if_neg hp]
      exact iff_of_false (by simp [decoded, withoutTrailing]) (fun h => hp (h.1 rfl))
  · rw [if_neg hbare]
    by_cases hp : p
    · rw [if_pos hp, decoded_ground_eq_iff, ne_eq, withoutTrailing_eq_bare_iff]
      exact ⟨fun h => ⟨fun _ => hp, fun htwo => absurd htwo h⟩, fun h htwo => h.2 htwo hp⟩
    · rw [if_neg hp]
      exact iff_of_true rfl ⟨fun h => absurd h hbare, fun _ => hp⟩

theorem weight_withoutTrailing (segments : List String) :
    weight (withoutTrailing segments) = weight segments := by
  unfold withoutTrailing
  split
  · rename_i hlast
    obtain ⟨front, rfl⟩ := getLast?_eq_some_iff.mp hlast
    rw [dropLast_concat, weight_append, weight_empty, Nat.add_zero]
  · rfl

theorem weight_dropTrailingEmpty (segments : List String) :
    weight (dropTrailingEmpty segments) = weight segments := by
  rw [dropTrailingEmpty_eq]
  split
  · rename_i hbare
    rw [hbare]
  · exact weight_withoutTrailing segments

end Path

namespace Url

open GuideLayer.Path Percent

/-- A URL of the web can be linked to, and its links have segments. -/
theorem exists_link_of_web [HostNames] {base : String} {url : Url} (hread : read base = .ok url)
    (hweb : url.schemeClass = .web) :
    ∃ list, url.path = .segments list ∧ ∀ entries, ∃ linked, link base entries = .ok linked ∧
      linked.path = .segments ((entries.filter (· ≠ "")).foldl (Path.append .web)
        (dropTrailingEmpty list)) := by
  cases hpath : url.path with
  | opaqueText text =>
      have hother := (parted_read hread).other text hpath
      rw [hweb] at hother
      cases hother
  | segments list =>
      refine ⟨list, rfl, fun entries => ⟨{ url with path := .segments _ }, ?_, rfl⟩⟩
      unfold link
      rw [hread]
      dsimp only
      rw [hpath, hweb]

theorem decoded_foldl_append_eq_iff {entries : List String} (hne : ∀ e ∈ entries, e ≠ "")
    (list : List String) :
    decoded (entries.foldl (Path.append .web) (dropTrailingEmpty list)) =
        decoded (withoutTrailing list) ++ entries.map (fun e => octets e.toList) ↔
      (∀ e ∈ entries, Kept e) ∧ (list = [""] → entries ≠ []) ∧
        (list = ["", ""] → ¬entries ≠ []) := by
  by_cases hkept : ∀ e ∈ entries, Kept e
  · rw [foldl_append_of_kept (fun e he => ⟨hkept e he, hne e he⟩), decoded_append,
      decoded_map_entryText hkept, append_left_inj, ground_eq_withoutTrailing_iff]
    exact (and_iff_right hkept).symm
  · refine iff_of_false (fun h => hkept ?_) (fun h => hkept h.1)
    exact kept_of_decoded_eq (by rw [weight_withoutTrailing, weight_dropTrailingEmpty]) h

/-- Different entries that are kept are different at the end of a path, too. -/
theorem entry_eq_of_append_eq {id id' : String} (h : Kept id) (h' : Kept id')
    {segments : List String}
    (heq : Path.append .web segments id = Path.append .web segments id') : id = id' := by
  rw [append_of_kept h, append_of_kept h'] at heq
  have htext : entryText id = entryText id' := by simpa using heq
  have hbytes := h.decode_entryText
  rw [htext, h'.decode_entryText] at hbytes
  exact (String.toList_inj.mp (octets_injective hbytes)).symm

/-- The segments of a link of the web stand for those of the base without a trailing empty one,
followed by the entries that are not empty, just when no entry is a dot segment or holds a tab or a
line end, the base is not bare or something is appended to it, and the base is not made of two
empty segments or nothing is appended. In whatever way the entries before them are taken, different
entries that are kept make different links. -/
theorem decoded_link_iff [HostNames] {base : String} {url : Url} (hread : read base = .ok url)
    (hscheme : url.scheme = "http" ∨ url.scheme = "https") (entries : List String) :
    ∃ list linked result, url.path = .segments list ∧ link base entries = .ok linked ∧
      linked.path = .segments result ∧
      (decoded result = decoded (withoutTrailing list) ++
          (entries.filter (· ≠ "")).map (fun e => octets e.toList) ↔
        (∀ e ∈ entries, Kept e) ∧ (list = [""] → ∃ e ∈ entries, e ≠ "") ∧
          (list = ["", ""] → ∀ e ∈ entries, e = "")) ∧
      ∀ id id', Kept id → Kept id' → id ≠ "" → id' ≠ "" → id ≠ id' →
        link base (entries ++ [id]) ≠ link base (entries ++ [id']) := by
  have hweb : url.schemeClass = .web := by
    unfold schemeClass
    obtain h | h := hscheme <;> rw [h] <;> rfl
  obtain ⟨list, hpath, hlink⟩ := exists_link_of_web hread hweb
  obtain ⟨linked, hlinked, hsegments⟩ := hlink entries
  refine ⟨list, linked, _, hpath, hlinked, hsegments, ?_, ?_⟩
  · rw [decoded_foldl_append_eq_iff (by simp)]
    have hempty : Kept "" := by decide
    refine and_congr ?_ (and_congr ?_ ?_)
    · simp only [mem_filter, decide_eq_true_eq, and_imp]
      refine forall₂_congr fun e he => ⟨fun h => ?_, fun h _ => h⟩
      by_cases hnone : e = ""
      · rwa [hnone]
      · exact h hnone
    · simp [filter_eq_nil_iff]
    · simp [filter_eq_nil_iff]
  · intro id id' hkept hkept' hne hne' hdiffer heq
    obtain ⟨one, hone, hone'⟩ := hlink (entries ++ [id])
    obtain ⟨two, htwo, htwo'⟩ := hlink (entries ++ [id'])
    rw [hone, htwo] at heq
    obtain rfl : one = two := Except.ok.inj heq
    rw [hone'] at htwo'
    have hpaths := UrlPath.segments.inj htwo'
    simp only [filter_append, foldl_append, hne, hne', ne_eq, not_false_eq_true, decide_true,
      filter_cons_of_pos, filter_nil, foldl_cons, foldl_nil] at hpaths
    exact hdiffer (entry_eq_of_append_eq hkept hkept' hpaths)

section

attribute [local instance] HostNames.bookshop

theorem decoded_link_percent :
    ∃ url, read "https://bücher.example/c/" = .ok url ∧ url.scheme = "https" ∧
      ∃ linked result, link "https://bücher.example/c/" ["en", "", "a/b", "%2e"] = .ok linked ∧
        linked.path = .segments result ∧
        decoded result = ["c", "en", "a/b", "%2e"].map (fun e => octets e.toList) ∧
        link "https://bücher.example/c/" (["en", "", "a/b", "%2e"] ++ ["a/"]) ≠
          link "https://bücher.example/c/" (["en", "", "a/b", "%2e"] ++ ["a%2F"]) := by
  have hparts : (read "https://bücher.example/c/").toOption.map (fun u => (u.scheme, u.segments?)) =
      some ("https", some ["c", ""]) := by
    decide +kernel
  cases hread : read "https://bücher.example/c/" with
  | error fault =>
      rw [hread] at hparts
      cases hparts
  | ok url =>
      rw [hread] at hparts
      obtain ⟨hscheme, hsegments⟩ := Prod.mk.inj (Option.some.inj hparts)
      obtain ⟨list, linked, result, hpath, hlink, hresult, hiff, hids⟩ :=
        decoded_link_iff hread (.inr hscheme) ["en", "", "a/b", "%2e"]
      obtain rfl : list = ["c", ""] := by
        rw [segments?, hpath] at hsegments
        exact Option.some.inj hsegments
      refine ⟨url, rfl, hscheme, linked, result, hlink, hresult, ?_, ?_⟩
      · rw [hiff.mpr (by decide)]
        decide +kernel
      · exact hids "a/" "a%2F" (by decide) (by decide) (by decide) (by decide) (by decide)

/-- An entry may take the segment before it away, so that it is not so that all entries are there. -/
theorem not_forall_decoded_link :
    ¬∀ (base : String) (url : Url) (entries : List String), read base = .ok url →
      url.scheme = "http" ∨ url.scheme = "https" →
      ∃ list linked result, url.path = .segments list ∧ link base entries = .ok linked ∧
        linked.path = .segments result ∧
        decoded result = decoded (withoutTrailing list) ++
          (entries.filter (· ≠ "")).map (fun e => octets e.toList) := by
  intro h
  have hscheme : (read "https://h.test").toOption.map scheme = some "https" := by decide +kernel
  have hlost : (link "https://h.test" ["route", ".\t."]).toOption.map segments? = some (some [""]) := by
    decide +kernel
  cases hread : read "https://h.test" with
  | error fault =>
      rw [hread] at hscheme
      cases hscheme
  | ok url =>
      rw [hread] at hscheme
      obtain ⟨list, linked, result, -, hlink, hresult, heq⟩ :=
        h _ url ["route", ".\t."] hread (.inr (Option.some.inj hscheme))
      rw [hlink] at hlost
      obtain rfl : result = [""] := by
        have hsegments := Option.some.inj hlost
        rw [segments?, hresult] at hsegments
        exact Option.some.inj hsegments
      have hlength := congrArg length heq
      simp at hlength

end

end Url

end GuideLayer
