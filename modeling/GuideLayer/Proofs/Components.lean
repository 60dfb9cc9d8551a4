import GuideLayer.Proofs.Parted
import GuideLayer.Proofs.Query

/-!
The parts of a URL as a reader of its text tells them apart, who knows nothing
but where the delimiters stand. They are the parts it was put together from, as
long as no part holds what would end it.
-/

namespace GuideLayer

open List

/-- The parts between the delimiters of a text. -/
structure Components where
  scheme : List Char
  authority : Option (List Char)
  path : List Char
  query : Option (List Char)
  fragment : Option (List Char)
  deriving DecidableEq, Repr

namespace Components

/-- Two slashes open an authority, which the next one ends. -/
def cutAuthority : List Char → Option (List Char) × List Char
  | '/' :: '/' :: rest =>
    let parts := Pieces.before (· == '/') rest
    (some parts.1, parts.2)
  | cs => (none, cs)

/-- The fragment is cut off first, then the query, the scheme and the authority. -/
def ofText (text : List Char) : Components :=
  let (front, fragment) := Url.cutAt '#' text
  let (body, query) := Url.cutAt '?' front
  let (scheme, rest) := Url.cutAt ':' body
  let (authority, path) := cutAuthority (rest.getD [])
  { scheme, authority, path, query, fragment }

end Components

namespace Path

/-- A path is empty or begins with a slash, and of the delimiters it holds no other. -/
theorem head?_render {segments : List String} : ∀ c ∈ (render segments).head?, c = '/' := by
  cases segments with
  | nil => simp [render]
  | cons s rest =>
      intro c hc
      exact (Option.some.inj hc).symm

theorem AllUncut.not_mem_render {segments : List String} (h : AllUncut segments) {c : Char}
    (hc : c ∈ ['?', '#']) : c ∉ render segments := by
  have hcut : c ∈ delimiters := mem_cons_of_mem _ hc
  intro hmem
  obtain ⟨s, hs, hin⟩ := mem_flatMap.mp hmem
  obtain rfl | hin := mem_cons.mp hin
  · exact absurd hc (by decide)
  · exact h s hs c hin hcut

/-- A path without empty segments at its front does not begin with two slashes. -/
theorem Apart.cutAuthority_render {segments : List String} (h : Apart segments)
    (huncut : AllUncut segments) :
    Components.cutAuthority (render segments) = (none, render segments) := by
  unfold Components.cutAuthority
  split
  · rename_i rest hrender
    cases segments with
    | nil => cases hrender
    | cons s segments =>
        have htail : s.toList ++ render segments = '/' :: rest := (cons.inj hrender).2
        cases hs : s.toList with
        | nil =>
            have hlength := h (congrArg some (String.toList_inj.mp hs))
            obtain rfl : segments = [] := by simpa using hlength
            rw [hs] at htail
            cases htail
        | cons c cs =>
            rw [hs, cons_append] at htail
            have hslash := huncut s mem_cons_self '/' (by
              rw [hs, (cons.inj htail).1]
              exact mem_cons_self)
            exact absurd hslash (by decide)
  · rfl

end Path

namespace Url

open GuideLayer.Path

/-- What comes before the path. -/
def front (u : Url) : List Char := u.scheme.toList ++ ':' :: u.renderAuthority

/-- What comes after the path. -/
def back (u : Url) : List Char := u.renderQuery ++ u.renderFragment

theorem toList_render (u : Url) : u.render.toList = u.front ++ u.renderPath ++ u.back := by
  unfold render front back
  rw [String.toList_ofList]
  simp

variable {u : Url} {list : List String}

theorem Parted.not_mem_front (h : u.Parted) {c : Char} (hc : c ∈ ['?', '#']) : c ∉ u.front := by
  have hcut : c ∈ delimiters := mem_cons_of_mem _ hc
  have hscheme : c ∉ u.scheme.toList := fun hmem => h.scheme c hmem (mem_cons_of_mem _ hcut)
  have hmarks : ∀ d ∈ ['?', '#'], d ≠ ':' ∧ d ≠ '/' := forall_iff_forall_mem.mp (by decide)
  have hauthority : c ∉ u.renderAuthority := by
    unfold renderAuthority
    split
    · rename_i a ha
      have hrender : c ∉ a.render := fun hmem => h.authority a ha c hmem hcut
      simp [(hmarks c hc).2, hrender]
    · simp
  simp [front, hscheme, (hmarks c hc).1, hauthority]

theorem Parted.not_mem_renderPath (h : u.Parted) (hpath : u.path = .segments list) {c : Char}
    (hc : c ∈ ['?', '#']) : c ∉ u.renderPath := by
  have hguards : ∀ d ∈ ['?', '#'], d ∉ ['/', '.'] := forall_iff_forall_mem.mp (by decide)
  have hguard : c ∉ if u.guarded then ['/', '.'] else [] := by
    split
    · exact hguards c hc
    · simp
  unfold renderPath
  rw [hpath]
  exact fun hmem => (mem_append.mp hmem).elim hguard ((h.segments list hpath).not_mem_render hc)

/-- Authority and path are told apart by their slashes. -/
theorem Parted.cutAuthority (h : u.Parted) (hpath : u.path = .segments list) :
    Components.cutAuthority (u.renderAuthority ++ u.renderPath) =
      (u.authority.map Authority.render, u.renderPath) := by
  cases ha : u.authority with
  | some a =>
      have hbefore : Pieces.before (· == '/') (a.render ++ u.renderPath) =
          (a.render, u.renderPath) := by
        refine Pieces.before_append (fun c hc => beq_eq_false_iff_ne.mpr ?_) (fun c hc => ?_)
        · rintro rfl
          exact h.authority a ha '/' hc (by decide)
        · unfold renderPath at hc
          rw [hpath] at hc
          dsimp only at hc
          split at hc
          · exact beq_iff_eq.mpr (Option.some.inj hc).symm
          · exact beq_iff_eq.mpr (head?_render c hc)
      simp [renderAuthority, ha, Components.cutAuthority, hbefore]
  | none =>
      simp only [renderAuthority, ha, renderPath, hpath, nil_append, Option.map_none]
      cases hguarded : u.guarded with
      | true => rfl
      | false => exact (h.apart ha hguarded list hpath).cutAuthority_render (h.segments list hpath)

/-- The parts of the text are the parts of the URL. -/
theorem Parted.ofText_render (h : u.Parted) (hpath : u.path = .segments list) :
    Components.ofText u.render.toList =
      { scheme := u.scheme.toList
        authority := u.authority.map Authority.render
        path := u.renderPath
        query := u.query.map String.toList
        fragment := u.fragment.map String.toList } := by
  have hfragment : cutAt '#' u.render.toList =
      (u.front ++ u.renderPath ++ u.renderQuery, u.fragment.map String.toList) := by
    have hmark : '#' ∉ u.front ++ u.renderPath ++ u.renderQuery := by
      have hquery : '#' ∉ u.renderQuery := by
        unfold renderQuery
        split
        · rename_i q hq
          simpa using h.query q hq
        · simp
      simp [h.not_mem_front, h.not_mem_renderPath hpath, hquery]
    rw [toList_render, back, ← append_assoc]
    unfold renderFragment
    split
    · rename_i f hf
      rw [cutAt_append_cons hmark, hf, Option.map_some]
    · rename_i hf
      rw [append_nil, cutAt_of_not_mem hmark, hf, Option.map_none]
  have hquery : cutAt '?' (u.front ++ u.renderPath ++ u.renderQuery) =
      (u.front ++ u.renderPath, u.query.map String.toList) := by
    have hmark : '?' ∉ u.front ++ u.renderPath := by
      simp [h.not_mem_front, h.not_mem_renderPath hpath]
    unfold renderQuery
    split
    · rename_i q hq
      rw [cutAt_append_cons hmark, hq, Option.map_some]
    · rename_i hq
      rw [append_nil, cutAt_of_not_mem hmark, hq, Option.map_none]
  have hscheme : cutAt ':' (u.front ++ u.renderPath) =
      (u.scheme.toList, some (u.renderAuthority ++ u.renderPath)) := by
    have hmark : ':' ∉ u.scheme.toList := fun hmem => h.scheme ':' hmem mem_cons_self
    rw [front, append_assoc, cons_append, cutAt_append_cons hmark]
  simp only [Components.ofText, hfragment, hquery, hscheme, Option.getD_some,
    h.cutAuthority hpath]

end Url

end GuideLayer
