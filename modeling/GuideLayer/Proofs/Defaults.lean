import GuideLayer.Proofs.Records
import GuideLayer.Proofs.Validation
import GuideLayer.Wire.Settings
import Mathlib.Algebra.Module.Submodule.Lattice
import Mathlib.Data.List.Basic

/-!
Settings given in part. A text may leave out any of the settings, at every
level. What it gives is described here without the text: for each setting a
value or none. Each level makes up for what is missing in its own way, and all
of them lead to the same: what is read is the standard settings with the given
values in their places, and the settings are refused or not as these are.
-/

namespace GuideLayer

open List Decoder

/-! ### Tags -/

namespace Utm

/-- Which of the tags are given. -/
structure Given where
  source : Option String := none
  medium : Option String := none
  campaign : Option String := none

namespace Given

/-- The given tags, and of the others what they were. -/
def onto (g : Given) (u : Utm) : Utm :=
  ⟨g.source.getD u.source, g.medium.getD u.medium, g.campaign.getD u.campaign⟩

/-- The entries of an object that gives them. -/
structure Written (g : Given) (entries : List (Draft × Draft)) : Prop where
  legible : Legible ["source", "medium", "campaign"] entries
  source : Gives entries "source" Decoder.string.Reads g.source
  medium : Gives entries "medium" Decoder.string.Reads g.medium
  campaign : Gives entries "campaign" Decoder.string.Reads g.campaign

def slots (g : Given) : List (Slot Utm) :=
  let standard : Utm := {}
  [⟨"source", Decoder.string, fun x u => { u with source := x }, standard.source, g.source⟩,
    ⟨"medium", Decoder.string, fun x u => { u with medium := x }, standard.medium, g.medium⟩,
    ⟨"campaign", Decoder.string, fun x u => { u with campaign := x }, standard.campaign,
      g.campaign⟩]

theorem fill_slots (g : Given) (u : Utm) : Slot.fill g.slots u = g.onto {} := rfl

theorem decoder_object {g : Given} {entries : List (Draft × Draft)} {depth : Nat}
    (h : g.Written entries) (hdepth : 1 < depth) :
    Utm.decoder depth (.object entries none) = .ok (g.onto {}) := by
  have hlegible : Legible (Slot.names g.slots) entries := h.legible
  have hmeets : ∀ p ∈ g.slots, p.Meets (depth - 1) entries := by
    simp only [slots, forall_mem_cons]
    exact ⟨h.source.reads (depth - 1), h.medium.reads (depth - 1), h.campaign.reads (depth - 1),
      by simp⟩
  rw [← fill_slots]
  exact record_object hdepth hlegible (by simp [Slot.names, slots]) hmeets
    (by simp [slots, Slot.Apart])

end Given

end Utm

/-! ### The gallery -/

namespace GallerySettings

/-- Which of the settings of the gallery are given. -/
structure Given where
  catalog : Option String := none
  route : Option String := none
  locale : Option String := none
  utm : Option Utm.Given := none

namespace Given

/-- The given settings, and of the others what they were. -/
def onto (g : Given) (s : GallerySettings) : GallerySettings :=
  ⟨g.catalog.getD s.catalog, g.route.getD s.route, g.locale.getD s.locale,
    (g.utm.getD {}).onto s.utm⟩

/-- The entries of an object that gives them. -/
structure Written (g : Given) (entries : List (Draft × Draft)) : Prop where
  legible : Legible ["catalog_front_url", "route_path", "locale", "utm"] entries
  catalog : Gives entries "catalog_front_url" Decoder.string.Reads g.catalog
  route : Gives entries "route_path" Decoder.string.Reads g.route
  locale : Gives entries "locale" Decoder.string.Reads g.locale
  utm : Gives entries "utm"
    (fun d u => ∃ entries, d = .object entries none ∧ u.Written entries) g.utm

def slots (g : Given) : List (Slot GallerySettings) :=
  [⟨"catalog_front_url", Decoder.string, fun x s => { s with catalog := x }, defaultCatalog,
      g.catalog⟩,
    ⟨"route_path", Decoder.string, fun x s => { s with route := x }, defaultRoute, g.route⟩,
    ⟨"locale", Decoder.string, fun x s => { s with locale := x }, defaultLocale, g.locale⟩,
    ⟨"utm", Utm.decoder, fun x s => { s with utm := x }, {}, g.utm.map (·.onto {})⟩]

/-- Standard tags are the standard tags with none of them given. -/
theorem fill_slots (g : Given) (s : GallerySettings) : Slot.fill g.slots s = g.onto {} := by
  have htags : (g.utm.map (·.onto {})).getD {} = (g.utm.getD {}).onto {} := by
    cases g.utm <;> rfl
  change (⟨_, _, _, (g.utm.map (·.onto {})).getD {}⟩ : GallerySettings) = _
  rw [htags]
  rfl

theorem decoder_object {g : Given} {entries : List (Draft × Draft)} {depth : Nat}
    (h : g.Written entries) (hdepth : 2 < depth) :
    GallerySettings.decoder depth (.object entries none) = .ok (g.onto {}) := by
  have hutm : Gives entries "utm" (fun d u => Utm.decoder (depth - 1) d = .ok u)
      (g.utm.map (·.onto {})) := by
    refine h.utm.map ?_
    rintro _ u ⟨entries, rfl, hu⟩
    exact Utm.Given.decoder_object hu (by omega)
  have hlegible : Legible (Slot.names g.slots) entries := h.legible
  have hmeets : ∀ p ∈ g.slots, p.Meets (depth - 1) entries := by
    simp only [slots, forall_mem_cons]
    exact ⟨h.catalog.reads (depth - 1), h.route.reads (depth - 1), h.locale.reads (depth - 1),
      hutm, by simp⟩
  rw [← fill_slots]
  exact record_object (by omega) hlegible (by simp [Slot.names, slots]) hmeets
    (by simp [slots, Slot.Apart])

end Given

end GallerySettings

/-! ### All settings -/

namespace Settings

/-- Which of the settings are given. -/
structure Given where
  attempts : Option Nat := none
  scaleEps : Option Float := none
  minOverlap : Option Float := none
  clusterZoom : Option Float := none
  gallery : Option GallerySettings.Given := none

namespace Given

/-- The given settings, and of the others what they were. -/
def onto (g : Given) (s : Settings Float) : Settings Float :=
  ⟨g.attempts.getD s.attempts, g.scaleEps.getD s.scaleEps, g.minOverlap.getD s.minOverlap,
    g.clusterZoom.getD s.clusterZoom, (g.gallery.getD {}).onto s.gallery⟩

/-- The entries of an object that gives them. -/
structure Written (g : Given) (entries : List (Draft × Draft)) : Prop where
  legible : Legible ["request_attempts", "scale_eps", "min_intersection_score",
    "cluster_scale_factor", "gallery"] entries
  attempts : Gives entries "request_attempts" Decoder.nat32.Reads g.attempts
  scaleEps : Gives entries "scale_eps" Decoder.float.Reads g.scaleEps
  minOverlap : Gives entries "min_intersection_score" Decoder.float.Reads g.minOverlap
  clusterZoom : Gives entries "cluster_scale_factor" Decoder.float.Reads g.clusterZoom
  gallery : Gives entries "gallery"
    (fun d s => ∃ entries, d = .object entries none ∧ s.Written entries) g.gallery

def slots (g : Given) : List (Slot (Settings Float)) :=
  [⟨"request_attempts", Decoder.nat32, fun x s => { s with attempts := x }, defaultAttempts,
      g.attempts⟩,
    ⟨"scale_eps", Decoder.float, fun x s => { s with scaleEps := x }, defaultScaleEps,
      g.scaleEps⟩,
    ⟨"min_intersection_score", Decoder.float, fun x s => { s with minOverlap := x },
      defaultMinOverlap, g.minOverlap⟩,
    ⟨"cluster_scale_factor", Decoder.float, fun x s => { s with clusterZoom := x },
      defaultClusterZoom, g.clusterZoom⟩,
    ⟨"gallery", GallerySettings.decoder, fun x s => { s with gallery := x }, {},
      g.gallery.map (·.onto {})⟩]

/-- A standard gallery is the standard gallery with none of its settings given. -/
theorem fill_slots (g : Given) (s : Settings Float) : Slot.fill g.slots s = g.onto standard := by
  have hgallery : (g.gallery.map (·.onto {})).getD {} = (g.gallery.getD {}).onto {} := by
    cases g.gallery <;> rfl
  change (⟨_, _, _, _, (g.gallery.map (·.onto {})).getD {}⟩ : Settings Float) = _
  rw [hgallery]
  rfl

theorem decoder_object {g : Given} {entries : List (Draft × Draft)} {depth : Nat}
    (h : g.Written entries) (hdepth : 3 < depth) :
    Settings.decoder depth (.object entries none) = .ok (g.onto standard) := by
  have hgallery : Gives entries "gallery"
      (fun d s => GallerySettings.decoder (depth - 1) d = .ok s)
      (g.gallery.map (·.onto {})) := by
    refine h.gallery.map ?_
    rintro _ s ⟨entries, rfl, hs⟩
    exact GallerySettings.Given.decoder_object hs (by omega)
  have hlegible : Legible (Slot.names g.slots) entries := h.legible
  have hmeets : ∀ p ∈ g.slots, p.Meets (depth - 1) entries := by
    simp only [slots, forall_mem_cons]
    exact ⟨h.attempts.reads (depth - 1), h.scaleEps.reads (depth - 1),
      h.minOverlap.reads (depth - 1), h.clusterZoom.reads (depth - 1), hgallery, by simp⟩
  rw [← fill_slots]
  exact record_object (by omega) hlegible (by simp [Slot.names, slots]) hmeets
    (by simp [slots, Slot.Apart])

end Given

/-- A text that is one object, with any of the settings at any level in any order, each at most
once, and with whatever else, is first read as the standard settings with the given ones in their
places. These are what comes of it if they can be worked with, and what is wrong with them is the
error if not. -/
theorem ofText_given [HostNames] {text : String} {entries : List (Draft × Draft)} {rest : List Char}
    (htext : Draft.ofText text = (.object entries none, rest))
    (hend : Draft.skipBlanks rest = []) {g : Given} (hgiven : g.Written entries) :
    Decoder.ofText decoder text = .ok (g.onto standard) ∧
      ofText text =
        match (g.onto standard).validate with
        | .ok () => .ok (g.onto standard)
        | .error e => .error e := by
  have hdecode : decoder 128 (.object entries none) = .ok (g.onto standard) :=
    Given.decoder_object hgiven (by decide)
  have hread : Decoder.ofText decoder text = .ok (g.onto standard) := by
    simp only [Decoder.ofText, htext, bind, Except.bind, hdecode, hend]
    rfl
  refine ⟨hread, ?_⟩
  unfold ofText
  rw [hread]
  change (g.onto standard).validate.bind (fun _ => .ok (g.onto standard)) = _
  cases (g.onto standard).validate <;> rfl

/-- A whole string is read as itself. -/
theorem text_ofString (s : String) : (Quoted.ofString s).text = .ok s := by
  have hparts (cs : List Char) : Quoted.assemble none (cs.map .char) = .ok cs := by
    induction cs with
    | nil => rfl
    | cons c cs ih => simp only [map_cons, Quoted.assemble, ih, Except.map]
  simp only [Quoted.text, Quoted.ofString, hparts, Except.map, String.ofList_toList]

/-- A string without escapes, as a key or a value. -/
def quoted (s : String) : Draft := .string (Quoted.ofString s)

@[simp] theorem named_quoted {name s : String} {d : Draft} :
    Draft.Named name (quoted s, d) ↔ s = name := by
  simp only [Draft.Named, quoted, Draft.keyText, text_ofString, Except.ok.injEq]

@[simp] theorem reads_quoted {a s : String} : Decoder.string.Reads (quoted s) a ↔ s = a := by
  simp only [Decoder.Reads, quoted, Decoder.string, text_ofString, Except.ok.injEq, forall_const]

/-- A whole number. -/
def numeral (digits : List Char) : Draft := .number (.ok ⟨false, digits, none, none⟩)

/-- A text that gives settings at all levels, with an entry that is not known before them. -/
def offer : String :=
  "\x7b\"note\": [1], \"gallery\": \x7b\"utm\": \x7b\"campaign\": \"spring\"\x7d,
    \"locale\": \"de\"\x7d, \"scale_eps\": 1, \"request_attempts\": 5\x7d "

def offeredTags : List (Draft × Draft) := [(quoted "campaign", quoted "spring")]

def offeredGallery : List (Draft × Draft) :=
  [(quoted "utm", .object offeredTags none), (quoted "locale", quoted "de")]

/-- The entries of the text. -/
def offered : List (Draft × Draft) :=
  [(quoted "note", .array [numeral ['1']] none), (quoted "gallery", .object offeredGallery none),
    (quoted "scale_eps", numeral ['1']), (quoted "request_attempts", numeral ['5'])]

/-- What the text gives. -/
def offeredSettings : Given :=
  { attempts := some 5
    scaleEps := some (Float.ofNat 1)
    gallery := some { locale := some "de", utm := some { campaign := some "spring" } } }

theorem written_offeredTags : Utm.Given.Written { campaign := some "spring" } offeredTags := by
  constructor
  · constructor <;> simp [offeredTags]
  · simp [Gives, offeredTags]
  · simp [Gives, offeredTags]
  · simp [Gives, offeredTags]

theorem written_offeredGallery :
    GallerySettings.Given.Written
      { locale := some "de", utm := some { campaign := some "spring" } } offeredGallery := by
  constructor
  · constructor <;> simp [offeredGallery]
  · simp [Gives, offeredGallery]
  · simp [Gives, offeredGallery]
  · simp [Gives, offeredGallery]
  · exact ⟨_, mem_cons_self, named_quoted.mpr rfl, _, rfl, written_offeredTags⟩

theorem written_offered : offeredSettings.Written offered := by
  have hnote : (Draft.array [numeral ['1']] none).skim = .ok () := rfl
  have hone : Decoder.float.Reads (numeral ['1']) (Float.ofNat 1) := fun _ => rfl
  have hfive : Decoder.nat32.Reads (numeral ['5']) 5 := fun _ => rfl
  constructor
  · constructor <;> simp [offered, hnote]
  · simp [Gives, offered, offeredSettings, hfive]
  · simp [Gives, offered, offeredSettings, hone]
  · simp [Gives, offered, offeredSettings]
  · simp [Gives, offered, offeredSettings]
  · exact ⟨_, .tail _ (.head _), named_quoted.mpr rfl, _, rfl, written_offeredGallery⟩

theorem written_noAttempts :
    Given.Written { attempts := some 0 } [(quoted "request_attempts", numeral ['0'])] := by
  have hzero : Decoder.nat32.Reads (numeral ['0']) 0 := fun _ => rfl
  constructor
  · constructor <;> simp
  · simp [Gives, hzero]
  all_goals simp [Gives]

section

attribute [local instance] HostNames.ascii

theorem ofText_given_offer :
    Draft.ofText offer = (.object offered none, [' ']) ∧ offeredSettings.Written offered ∧
      ofText offer = .ok
        { attempts := 5
          scaleEps := Float.ofNat 1
          minOverlap := 0.8
          clusterZoom := 2.0
          gallery := { locale := "de", utm := { campaign := "spring" } } } ∧
      ofText "\x7b\"request_attempts\": 0\x7d" = .error .noAttempts := by
  have htext : Draft.ofText offer = (.object offered none, [' ']) := by cbv
  have hvalid : (offeredSettings.onto standard).validate = .ok () := by
    rw [validate_eq_ok_iff]
    refine ⟨?_, ?_, ?_, ?_⟩ <;> decide +kernel
  have hread := (ofText_given htext rfl written_offered).2
  rw [hvalid] at hread
  have htext' : Draft.ofText "\x7b\"request_attempts\": 0\x7d" =
      (.object [(quoted "request_attempts", numeral ['0'])] none, []) := by cbv
  exact ⟨htext, written_offered, hread, (ofText_given htext' rfl written_noAttempts).2⟩

end

end Settings

end GuideLayer
