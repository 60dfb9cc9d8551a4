import GuideLayer.Proofs.Octets
import GuideLayer.Url.Link
import Mathlib.Data.List.Basic
import Mathlib.Data.List.TakeWhile

/-!
What may stand between the delimiters of a URL. Every part is written with codes
for the delimiters that would end it, or was cut at them before it came to be a
part. So none of them is left in a part of a URL that was read, and none gets in
with what is appended to its path.
-/

namespace GuideLayer

open List

/-- The characters that end an authority, a segment or a path. -/
def delimiters : List Char := ['/', '?', '#']

/-- A text that no delimiter cuts. -/
def Uncut (cs : List Char) : Prop := ∀ c ∈ cs, c ∉ delimiters

namespace Uncut

variable {cs ds : List Char}

theorem nil : Uncut [] := fun _ h => nomatch h

theorem subset (h : Uncut ds) (hsub : cs ⊆ ds) : Uncut cs := fun c hc => h c (hsub hc)

theorem append (hcs : Uncut cs) (hds : Uncut ds) : Uncut (cs ++ ds) :=
  fun c hc => (mem_append.mp hc).elim (hcs c) (hds c)

theorem cons {c : Char} (hc : c ∉ delimiters) (hcs : Uncut cs) : Uncut (c :: cs) := by
  intro d hd
  obtain rfl | hd := mem_cons.mp hd
  · exact hc
  · exact hcs d hd

/-- What is written with codes holds a delimiter only if the text held it and it is not reserved. -/
theorem encode {reserved : Char → Bool} (h : ∀ c ∈ cs, c ∈ delimiters → reserved c = true) :
    Uncut (Percent.encode reserved cs) := by
  intro c hc hcut
  obtain hcode | ⟨hplain, hmem⟩ := Percent.mem_encode hc
  · have hcodes : ∀ c ∈ Percent.codeChars, c ∉ delimiters := forall_iff_forall_mem.mp (by decide)
    exact hcodes c hcode hcut
  · rw [h c hmem hcut] at hplain
    exact absurd hplain (by simp)

theorem join {separator : Char} {pieces : List (List Char)} (hseparator : separator ∉ delimiters)
    (h : ∀ p ∈ pieces, Uncut p) : Uncut (Pieces.join separator pieces) := by
  induction pieces with
  | nil => exact nil
  | cons p pieces ih =>
      have hp := h p mem_cons_self
      have hrest := ih (fun q hq => h q (mem_cons_of_mem _ hq))
      cases pieces with
      | nil => exact hp
      | cons q pieces => exact hp.append (cons hseparator hrest)

end Uncut

theorem mem_toDigits {base n : Nat} (hbase : 1 < base) {c : Char} (h : c ∈ Nat.toDigits base n) :
    ∃ d < base, c = Nat.digitChar d := by
  induction n using Nat.strongRecOn with
  | ind n ih =>
      rw [Nat.toDigits_eq_if hbase] at h
      split at h
      · rename_i hlt
        exact ⟨n, hlt, mem_singleton.mp h⟩
      · rename_i hge
        obtain h | h := mem_append.mp h
        · exact ih (n / base) (Nat.div_lt_self (by omega) hbase) h
        · exact ⟨n % base, Nat.mod_lt n (by omega), mem_singleton.mp h⟩

theorem uncut_toDigits {base : Nat} (hbase : 1 < base) (h16 : base ≤ 16) (n : Nat) :
    Uncut (Nat.toDigits base n) := by
  intro c hc
  obtain ⟨d, hd, rfl⟩ := mem_toDigits hbase hc
  have hdigits : ∀ d < 16, Nat.digitChar d ∉ delimiters := by decide
  exact hdigits d (Nat.lt_of_lt_of_le hd h16)

theorem Pieces.not_mem_of_mem_cut {isSeparator : Char → Bool} {cs p : List Char}
    (hp : p ∈ cut isSeparator cs) {c : Char} (hc : c ∈ p) : isSeparator c = false := by
  induction cs generalizing p with
  | nil =>
      obtain rfl := mem_singleton.mp hp
      cases hc
  | cons d cs ih =>
      rw [cut] at hp
      split at hp
      · obtain rfl | hp := mem_cons.mp hp
        · cases hc
        · exact ih hp hc
      · rename_i hplain
        split at hp
        · obtain rfl := mem_singleton.mp hp
          obtain rfl := mem_singleton.mp hc
          simpa using hplain
        · rename_i q qs hcut
          obtain rfl | hp := mem_cons.mp hp
          · obtain rfl | hc := mem_cons.mp hc
            · simpa using hplain
            · exact ih (hcut ▸ mem_cons_self) hc
          · exact ih (hcut ▸ mem_cons_of_mem _ hp) hc

/-! ### Hosts and authorities -/

theorem Ipv4.uncut_render (a : Ipv4) : Uncut a.render := by
  refine Uncut.join (by decide) (fun p hp => ?_)
  obtain ⟨n, -, rfl⟩ := mem_map.mp hp
  exact uncut_toDigits (by decide) (by decide) n

theorem Ipv6.uncut_renderGroups (groups : List Nat) : Uncut (renderGroups groups) := by
  refine Uncut.join (by decide) (fun p hp => ?_)
  obtain ⟨n, -, rfl⟩ := mem_map.mp hp
  exact uncut_toDigits (by decide) (by decide) n

theorem Ipv6.uncut_render (a : Ipv6) : Uncut a.render := by
  unfold render
  dsimp only
  split
  · exact uncut_renderGroups _
  · exact (uncut_renderGroups _).append
      (.cons (by decide) (.cons (by decide) (uncut_renderGroups _)))

namespace Host

theorem uncut_of_not_any {forbidden : Char → Bool} (h : delimiters.all forbidden = true)
    {cs : List Char} (hcs : ¬cs.any forbidden = true) : Uncut cs :=
  fun c hc hcut => hcs (any_eq_true.mpr ⟨c, hc, all_eq_true.mp h c hcut⟩)

/-- In names in ASCII delimiters are forbidden. -/
theorem uncut_toAscii? [HostNames] {bytes : List UInt8} {name : List Char}
    (h : HostNames.toAscii? bytes = some name) : Uncut name := by
  have hdelimiters : ∀ c ∈ delimiters, forbiddenInName c = true := all_eq_true.mp (by decide)
  intro c hc hcut
  have hplain := HostNames.not_forbidden h c hc
  rw [hdelimiters c hcut] at hplain
  cases hplain

theorem uncut_readDomain [HostNames] {cs : List Char} {host : Host}
    (h : readDomain cs = .ok host) : Uncut host.render := by
  unfold readDomain at h
  split at h
  · cases h
  · cases h
  · rename_i text _ hname
    split at h
    · split at h
      · rename_i a _
        cases h
        exact a.uncut_render
      · cases h
    · cases h
      exact uncut_toAscii? hname

theorem uncut_bracketed {cs : List Char} {host : Host} (h : bracketed cs = .ok host) :
    Uncut host.render := by
  unfold bracketed at h
  split at h
  · split at h
    · rename_i a _
      cases h
      exact .cons (by decide) (a.uncut_render.append (.cons (by decide) .nil))
    · cases h
  · cases h

theorem uncut_read [HostNames] {k : SchemeClass} {cs : List Char} {host : Host}
    (h : read k cs = .ok host) : Uncut host.render := by
  unfold read at h
  split at h
  · exact uncut_bracketed h
  · split at h
    · exact uncut_readDomain h
    · split at h
      · cases h
      · rename_i hallowed
        have hcs := uncut_of_not_any (by decide) hallowed
        cases h
        exact Uncut.encode (fun c hc hcut => absurd hcut (hcs c hc))

end Host

namespace Url

theorem uncut_readUserInfo (cs : List Char) : Uncut (readUserInfo cs) := by
  have hcoded (cs : List Char) : Uncut (Percent.encode Percent.inUserInfo cs) := by
    have hall : ∀ c ∈ delimiters, Percent.inUserInfo c = true := all_eq_true.mp (by decide)
    exact Uncut.encode (fun c _ hcut => hall c hcut)
  have hsign : Uncut ['@'] := .cons (by decide) .nil
  have hcolon : ':' ∉ delimiters := by decide
  unfold readUserInfo
  dsimp only
  split
  · exact .nil
  · split
    · exact (hcoded _).append hsign
    · exact ((hcoded _).append (.cons hcolon (hcoded _))).append hsign

theorem uncut_render_authority {userInfo : List Char} (huser : Uncut userInfo)
    {host : Option Host} (hhost : ∀ h ∈ host, Uncut h.render) (port : Option Nat) :
    Uncut (Authority.render ⟨userInfo, host, port⟩) := by
  have hname : Uncut ((host.map Host.render).getD []) := by
    cases host with
    | none => exact .nil
    | some h => exact hhost h rfl
  unfold Authority.render
  refine (huser.append hname).append ?_
  cases port with
  | none => exact .nil
  | some n => exact .cons (by decide) (uncut_toDigits (by decide) (by decide) n)

theorem uncut_readAuthority [HostNames] {scheme : String} {cs : List Char} {more : Bool}
    {r : Authority × List Char} (h : readAuthority scheme cs more = .ok r) :
    Uncut r.1.render := by
  unfold readAuthority at h
  simp only [bind, Except.bind, pure, Except.pure, throw, throwThe, MonadExceptOf.throw] at h
  split at h
  · cases h
  split at h
  · cases h
  split at h
  · cases h
  rename_i host hread
  have hhost {p : Prop} [Decidable p] :
      ∀ g ∈ (if p then none else some host), Uncut g.render := by
    intro g hg
    split at hg
    · cases hg
    · cases hg
      exact Host.uncut_read hread
  split at h
  · cases h
  split at h
  · cases h
    exact uncut_render_authority (uncut_readUserInfo _) hhost none
  · split at h
    · cases h
    · cases h
      exact uncut_render_authority (uncut_readUserInfo _) hhost _

end Url

/-! ### Segments -/

namespace Path

/-- Segments that no delimiter cuts. -/
def AllUncut (segments : List String) : Prop := ∀ s ∈ segments, Uncut s.toList

theorem AllUncut.nil : AllUncut [] := fun _ h => nomatch h

theorem AllUncut.empty : AllUncut [""] := by
  intro s hs
  obtain rfl := mem_singleton.mp hs
  exact Uncut.nil

theorem AllUncut.subset {segments segments' : List String} (h : AllUncut segments')
    (hsub : segments ⊆ segments') : AllUncut segments :=
  fun s hs => h s (hsub hs)

theorem AllUncut.append {segments segments' : List String} (h : AllUncut segments)
    (h' : AllUncut segments') : AllUncut (segments ++ segments') :=
  fun s hs => (mem_append.mp hs).elim (h s) (h' s)

theorem AllUncut.singleton {s : String} (h : Uncut s.toList) : AllUncut [s] := by
  intro t ht
  obtain rfl := mem_singleton.mp ht
  exact h

theorem uncut_written {reserved : Char → Bool} {cs : List Char}
    (h : ∀ c ∈ cs, c ∈ delimiters → reserved c = true) : Uncut (written reserved cs).toList := by
  rw [written, String.toList_ofList]
  exact Uncut.encode (fun c hc => h c (mem_filter.mp hc).1)

theorem uncut_of_isAlpha {c : Char} (h : c.isAlpha = true) : c ∉ delimiters := by
  have hall : ∀ d ∈ delimiters, d.isAlpha = false := forall_iff_forall_mem.mp (by decide)
  intro hcut
  rw [hall c hcut] at h
  cases h

/-- The way up leads along the path. -/
theorem parent_isPrefix (segments : List String) : parent segments <+: segments := by
  unfold parent
  split
  · split
    · exact prefix_rfl
    · exact dropLast_prefix segments
  · exact nil_prefix

variable {k : SchemeClass} {reserved : Char → Bool} {done : List String}

theorem AllUncut.addSegment (h : AllUncut done) {s : String} (hs : Uncut s.toList) (last : Bool) :
    AllUncut (addSegment k done s last) := by
  have hlast : AllUncut (if last then [""] else []) := by
    split
    · exact .empty
    · exact .nil
  unfold Path.addSegment
  split
  · exact (h.subset (parent_isPrefix done).subset).append hlast
  split
  · exact h.append hlast
  split
  · refine .singleton ?_
    rw [String.toList_ofList]
    exact (hs.subset (take_subset 1 _)).append (.cons (by decide) .nil)
  · exact h.append (.singleton hs)

/-- A detached drive letter is a letter and a colon, and what follows it is part of the piece. -/
theorem of_detachedDrive? {piece rest : List Char} {drive : String}
    (h : detachedDrive? piece = some (drive, rest)) :
    Uncut drive.toList ∧ ∀ c ∈ rest, c ∈ piece := by
  unfold detachedDrive? at h
  split at h
  · cases h
  rename_i c cs hpiece
  split at h
  · rename_i t rest' hcs
    split at h
    · rename_i hdrive
      cases h
      rw [String.toList_ofList]
      refine ⟨.cons (uncut_of_isAlpha hdrive.1) (.cons (by decide) .nil), fun d hd => ?_⟩
      have hd : d ∈ cs := by
        refine (dropWhile_sublist isIgnored).subset ?_
        rw [hcs]
        exact mem_cons_of_mem _ (mem_cons_of_mem _ hd)
      refine (dropWhile_sublist isIgnored).subset ?_
      rw [hpiece]
      exact mem_cons_of_mem _ hd
    · cases h
  · cases h

theorem AllUncut.add (h : AllUncut done) {piece : List Char}
    (hpiece : ∀ c ∈ piece, c ∈ delimiters → reserved c = true) (last : Bool) :
    AllUncut (add k reserved done piece last) := by
  unfold Path.add
  split
  · rename_i drive rest hdrive
    split at hdrive
    · obtain ⟨hletter, hrest⟩ := of_detachedDrive? hdrive
      exact (AllUncut.singleton hletter).append
        (.singleton (uncut_written (fun c hc => hpiece c (hrest c hc))))
    · cases hdrive
  · exact h.addSegment (uncut_written hpiece) last

theorem AllUncut.addAll {pieces : List (List Char)} (h : AllUncut done)
    (hpieces : ∀ p ∈ pieces, ∀ c ∈ p, c ∈ delimiters → Percent.inPath c = true) :
    AllUncut (addAll k done pieces) := by
  induction pieces generalizing done with
  | nil => exact h
  | cons p pieces ih =>
      have hp := hpieces p mem_cons_self
      have hrest := fun q hq => hpieces q (mem_cons_of_mem p hq)
      cases pieces with
      | nil => exact h.add hp true
      | cons q pieces => exact ih (h.add hp false) hrest

/-- The pieces that a path is cut into at its separators have no slash, and codes do the rest. -/
theorem allUncut_addAll_cut (cs : List Char) :
    AllUncut (Path.addAll k [] (Pieces.cut k.isSeparator cs)) := by
  refine AllUncut.nil.addAll (fun p hp c hc hcut => ?_)
  have hplain := Pieces.not_mem_of_mem_cut hp hc
  obtain rfl | rfl | rfl : c = '/' ∨ c = '?' ∨ c = '#' := by simpa [delimiters] using hcut
  · simp [SchemeClass.isSeparator] at hplain
  · decide
  · decide

theorem AllUncut.tidy (h : AllUncut done) : AllUncut (tidy k done) := by
  unfold Path.tidy trimFront
  split
  · split
    · exact .empty
    · rename_i s rest hdrop
      rw [← hdrop]
      exact h.subset (dropWhile_sublist _).subset
  · exact h

end Path

end GuideLayer
