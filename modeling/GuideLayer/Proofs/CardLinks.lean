import GuideLayer.Proofs.Cards
import GuideLayer.Proofs.Components

/-!
The links on the cards. Whether there are any is up to the catalog alone, and
that was settled when it was accepted. What is put together with it afterwards,
from the settings, the service and the count, goes into the path and to the end
of the query, and no text of any of these gets out of there.
-/

namespace GuideLayer

variable {α : Type}

namespace Url

/-- A base that can be linked to was read, and it has segments. -/
theorem exists_read_of_link [HostNames] {base : String} {entries : List String}
    (h : (link base entries).toOption.isSome) :
    ∃ url list, read base = .ok url ∧ url.path = .segments list := by
  cases hlink : link base entries with
  | error e =>
      rw [hlink] at h
      cases h
  | ok linked =>
      obtain ⟨url, list, hread, hpath, -⟩ := link_eq_ok hlink
      exact ⟨url, list, hread, hpath⟩

theorem Parted.addPair {u : Url} (h : u.Parted) (name value : String) :
    (u.addPair name value).Parted where
  scheme := h.scheme
  authority := h.authority
  segments := h.segments
  apart := h.apart
  other := h.other
  query := by
    intro q hq
    obtain rfl : Form.append u.query name value = q := Option.some.inj hq
    exact Form.not_mem_append h.query name value

/-- The pairs of the query. -/
def pairs (u : Url) : List (List UInt8 × List UInt8) := Form.pairsOf (u.query.map String.toList)

theorem pairs_addPair (u : Url) (name value : String) :
    (u.addPair name value).pairs = u.pairs ++ [Form.readAs name value] :=
  Form.pairs_append u.query name value

end Url

namespace GallerySettings

/-- A URL with the marks by which visits are counted. -/
def marked (g : GallerySettings) (shown : Nat) (u : Url) : Url :=
  (u.withUtm g.utm).withTerm (toString shown)

/-- The marks as they are read. -/
def marks (g : GallerySettings) (shown : Nat) : List (List UInt8 × List UInt8) :=
  [Form.readAs "utm_source" g.utm.source, Form.readAs "utm_medium" g.utm.medium,
    Form.readAs "utm_campaign" g.utm.campaign, Form.readAs "utm_term" (toString shown)]

variable {g : GallerySettings} {shown : Nat} {base u : Url}

theorem pairs_marked (g : GallerySettings) (shown : Nat) (u : Url) :
    (g.marked shown u).pairs = u.pairs ++ g.marks shown := by
  unfold marked Url.withTerm Url.withUtm
  rw [Url.pairs_addPair, Url.pairs_addPair, Url.pairs_addPair, Url.pairs_addPair]
  simp [marks]

/-- A link is the base with the marks, and with another path. -/
theorem linkTo_eq_ok [HostNames] {guideId : String} (hread : Url.read g.catalog = .ok base)
    (h : g.linkTo shown guideId = .ok u) :
    u.Parted ∧ ∃ list, u = { g.marked shown base with path := .segments list } := by
  unfold linkTo at h
  cases hlink : Url.link g.catalog (g.entries guideId) with
  | error e =>
      rw [hlink] at h
      cases h
  | ok linked =>
      rw [hlink] at h
      cases h
      refine ⟨((((Url.parted_link hlink).addPair _ _).addPair _ _).addPair _ _).addPair _ _, ?_⟩
      obtain ⟨url, list, hread', -, rfl⟩ := Url.link_eq_ok hlink
      obtain rfl : base = url := Except.ok.inj (hread.symm.trans hread')
      exact ⟨_, rfl⟩

/-- Scheme, authority and fragment of a link are those of the base, and the marks come after the
pairs of its query. -/
theorem ofText_linkTo [HostNames] {guideId : String} {list : List String}
    (hread : Url.read g.catalog = .ok base) (hpath : base.path = .segments list)
    (h : g.linkTo shown guideId = .ok u) :
    ∃ path query,
      Components.ofText u.render.toList =
        { Components.ofText base.render.toList with path, query := some query } ∧
      Form.pairs query =
        Form.pairsOf (Components.ofText base.render.toList).query ++ g.marks shown := by
  obtain ⟨hparted, list', rfl⟩ := linkTo_eq_ok hread h
  rw [(Url.parted_read hread).ofText_render hpath, hparted.ofText_render rfl]
  exact ⟨_, _, rfl, pairs_marked g shown base⟩

/-- Before its path a link is the base, and after it the base with the marks. -/
theorem render_linkTo [HostNames] {guideId : String} (hread : Url.read g.catalog = .ok base)
    (h : g.linkTo shown guideId = .ok u) :
    u.render.toList = base.front ++ u.renderPath ++ (g.marked shown base).back ∧
      '?' ∉ base.front ++ u.renderPath := by
  obtain ⟨hparted, list, rfl⟩ := linkTo_eq_ok hread h
  refine ⟨Url.toList_render _, ?_⟩
  have hfront := (Url.parted_read hread).not_mem_front (List.mem_cons_self (a := '?'))
  have hmid := hparted.not_mem_renderPath rfl (List.mem_cons_self (a := '?'))
  exact fun hmem => (List.mem_append.mp hmem).elim hfront hmid

end GallerySettings

namespace Gallery

theorem linkTo_of_mem_build [HostNames] {g : GallerySettings} {shown : Nat}
    {downloaded : String → Bool} {spots : List (Spot α)} {card : Card α} (h : card ∈ build g shown downloaded spots) :
    g.linkTo shown card.guideId = .ok card.url := by
  obtain ⟨s, -, hcard⟩ := List.mem_filterMap.mp h
  unfold card? at hcard
  split at hcard
  · split at hcard
    · cases hcard
    · rename_i url hlink
      cases hcard
      exact hlink
  · cases hcard

/-- Without a link to the catalog there is no card at all. -/
theorem build_eq_nil [HostNames] {g : GallerySettings}
    (h : (Url.link g.catalog []).toOption.isSome = false) (shown : Nat) (downloaded : String → Bool) (spots : List (Spot α)) :
    build g shown downloaded spots = [] := by
  refine List.eq_nil_iff_forall_not_mem.mpr fun card hcard => ?_
  have hlink := linkTo_of_mem_build hcard
  rw [Url.isSome_link_iff g.catalog [] (g.entries card.guideId)] at h
  unfold GallerySettings.linkTo at hlink
  cases hentries : Url.link g.catalog (g.entries card.guideId) with
  | error e =>
      rw [hentries] at hlink
      cases hlink
  | ok u =>
      rw [hentries] at h
      cases h

variable [Scalar α]

/-- Whatever stands in the locale, the route, the marks and the id of a guide, the text of the link
on its card is taken apart into scheme, authority and fragment of the catalog, and its query is read
as the pairs of the catalog's and the marks with the texts they were given. The links on any two
cards with the same settings and count are the same text before their paths and from the question
mark after them on. -/
theorem components_of_mem_build [HostNames] {s : Settings α} (h : s.validate = .ok ()) :
    ∃ base, Url.read s.gallery.catalog = .ok base ∧
      ∀ (shown : Nat) (downloaded : String → Bool) (spots : List (Spot α)),
      ∀ card ∈ build s.gallery shown downloaded spots,
        (∃ path query,
          Components.ofText card.url.render.toList =
            { Components.ofText base.render.toList with path, query := some query } ∧
          Form.pairs query =
            Form.pairsOf (Components.ofText base.render.toList).query ++ s.gallery.marks shown) ∧
        ∀ (downloaded' : String → Bool) (spots' : List (Spot α)),
        ∀ card' ∈ build s.gallery shown downloaded' spots',
          ∃ path path' back,
            card.url.render.toList = base.front ++ path ++ '?' :: back ∧
            card'.url.render.toList = base.front ++ path' ++ '?' :: back ∧
            '?' ∉ base.front ++ path ∧ '?' ∉ base.front ++ path' := by
  have hlinks := ((Settings.validate_eq_ok_iff s).mp h).2.2.2
  obtain ⟨base, list, hread, hpath⟩ := Url.exists_read_of_link hlinks
  refine ⟨base, hread, fun shown downloaded spots card hcard => ?_⟩
  have hlink := linkTo_of_mem_build hcard
  refine ⟨GallerySettings.ofText_linkTo hread hpath hlink, ?_⟩
  intro downloaded' spots' card' hcard'
  obtain ⟨htext, hmark⟩ := GallerySettings.render_linkTo hread hlink
  obtain ⟨htext', hmark'⟩ := GallerySettings.render_linkTo hread (linkTo_of_mem_build hcard')
  exact ⟨_, _, _, htext, htext', hmark, hmark'⟩

/-- Settings in which every text tries to be more than a segment or a value. -/
def hostile : Settings Float :=
  { Settings.standard with
    gallery :=
      { catalog := "https://me:pw@bücher.example:81/c/?a=1&b=%26#top"
        locale := "//evil.test/?a=2#"
        route := "x?utm_term=0#y/../\\evil.test/.\t."
        utm := { source := "s&utm_term=9", medium := "é +%", campaign := "#" } } }

def hostileSpots : List (Spot Float) :=
  ["..", "1/2?utm_source=x&a=3#z", "https://evil.test"].map
    (fun id => { point := ⟨0, 0⟩, sights := 1, guide := { id, distance := 0, duration := 0 } })

section

attribute [local instance] HostNames.bookshop

theorem validate_hostile : hostile.validate = .ok () := by
  rw [Settings.validate_eq_ok_iff]
  refine ⟨?_, ?_, ?_, ?_⟩ <;> decide +kernel

theorem components_hostile :
    hostile.validate = .ok () ∧ (build hostile.gallery 7 (fun _ => false) hostileSpots).length = 3 ∧
      ∃ base, Url.read hostile.gallery.catalog = .ok base ∧
        ∀ card ∈ build hostile.gallery 7 (fun _ => false) hostileSpots, ∃ path query,
          Components.ofText card.url.render.toList =
            { scheme := "https".toList
              authority := some "me:pw@xn--bcher-kva.example:81".toList
              path := path
              query := some query
              fragment := some "top".toList } ∧
          Form.pairs query =
            [Form.readAs "a" "1", Form.readAs "b" "&", Form.readAs "utm_source" "s&utm_term=9",
              Form.readAs "utm_medium" "é +%", Form.readAs "utm_campaign" "#",
              Form.readAs "utm_term" "7"] := by
  obtain ⟨base, hread, hcards⟩ := components_of_mem_build validate_hostile
  have hparts : (Url.read hostile.gallery.catalog).toOption.map
      (fun u => Components.ofText u.render.toList) =
        some
          { scheme := "https".toList
            authority := some "me:pw@xn--bcher-kva.example:81".toList
            path := "/c/".toList
            query := some "a=1&b=%26".toList
            fragment := some "top".toList } := by
    decide +kernel
  rw [hread] at hparts
  replace hparts := Option.some.inj hparts
  beta_reduce at hparts
  refine ⟨validate_hostile, by decide +kernel, base, hread, fun card hcard => ?_⟩
  obtain ⟨⟨path, query, htext, hpairs⟩, -⟩ := hcards 7 (fun _ => false) hostileSpots card hcard
  rw [hparts] at htext hpairs
  refine ⟨path, query, htext, hpairs.trans ?_⟩
  decide +kernel

end

end Gallery

namespace Layer

variable {σ : Type} [Scalar α]

/-- With settings that were accepted, and whatever locale is set later, all spots that count one
guide have their cards, in their order, and with settings that were refused for the catalog none
has. -/
theorem build_setLocale [HostNames] (l : Layer σ α) (locale : String) :
    (l.settings.validate = .ok () → ∀ shown, ∃ linkOf : String → Url,
      (∀ guideId,
        (l.setLocale locale).settings.gallery.linkTo shown guideId = .ok (linkOf guideId)) ∧
      ∀ (downloaded : String → Bool) (spots : List (Spot α)),
        Gallery.build (l.setLocale locale).settings.gallery shown downloaded spots =
          (spots.filter (fun s => decide (s.sights + s.outdoor = 1))).map
            (fun s => s.card (linkOf s.guide.id) (downloaded s.guide.id))) ∧
    ((∃ e, l.settings.validate = .error (.catalog e)) →
      ∀ (shown : Nat) (downloaded : String → Bool) (spots : List (Spot α)),
        Gallery.build l.settings.gallery shown downloaded spots = [] ∧
          Gallery.build (l.setLocale locale).settings.gallery shown downloaded spots = []) := by
  constructor
  · intro hvalid shown
    have hcatalog : (Url.link (l.setLocale locale).settings.gallery.catalog []).toOption.isSome :=
      ((Settings.validate_eq_ok_iff l.settings).mp hvalid).2.2.2
    choose linkOf hlink using GallerySettings.exists_linkTo_eq_ok hcatalog shown
    exact ⟨linkOf, hlink, Gallery.build_eq_map hlink⟩
  · intro hrefused shown downloaded spots
    have hcatalog := ((Settings.exists_validate_eq_catalog_iff l.settings).mp hrefused).2.2.2
    have hcatalog' : (Url.link (l.setLocale locale).settings.gallery.catalog []).toOption.isSome =
        false := hcatalog
    exact ⟨Gallery.build_eq_nil hcatalog shown downloaded spots,
      Gallery.build_eq_nil hcatalog' shown downloaded spots⟩

/-- A layer with the catalog of a bookshop whose name is not in ASCII. -/
def selling : Layer (MarkBoard Float) Float :=
  { settings := { Settings.standard with gallery := { catalog := "https://bücher.example/" } }
    store := {} }

/-- A layer with a catalog that cannot be linked to. -/
def mailing : Layer (MarkBoard Float) Float :=
  { settings := { Settings.standard with gallery := { catalog := "mailto:guides@h.test" } }
    store := {} }

def museum : Spot Float :=
  { point := ⟨1, 1⟩, sights := 1, guide := { id := "..", bookmarks := 3, distance := 0, duration := 0 } }

def hike : Spot Float :=
  { point := ⟨2, 2⟩, outdoor := 1, guide := { id := "b?#", tag := "hiking", distance := 9, duration := 5 } }

def crowd : Spot Float :=
  { point := ⟨3, 3⟩, sights := 1, outdoor := 1, guide := { id := "c", distance := 0, duration := 0 } }

section

attribute [local instance] HostNames.bookshop

theorem validate_selling : selling.settings.validate = .ok () := by
  rw [Settings.validate_eq_ok_iff]
  refine ⟨?_, ?_, ?_, ?_⟩ <;> decide +kernel

theorem exists_validate_mailing : ∃ e, mailing.settings.validate = .error (.catalog e) := by
  rw [Settings.exists_validate_eq_catalog_iff]
  refine ⟨?_, ?_, ?_, ?_⟩ <;> decide +kernel

theorem build_setLocale_crowd :
    selling.settings.validate = .ok () ∧
      (∃ museumLink hikeLink,
        Gallery.build (selling.setLocale "/../?#").settings.gallery 2 (fun id => decide (id = ".."))
            [crowd, museum, hike] =
          [museum.card museumLink true, hike.card hikeLink false]) ∧
      (∃ e, mailing.settings.validate = .error (.catalog e)) ∧
      Gallery.build mailing.settings.gallery 2 (fun _ => false) [crowd, museum, hike] = [] := by
  obtain ⟨linkOf, -, hcards⟩ :=
    (build_setLocale selling "/../?#").1 validate_selling 2
  have hnone := (build_setLocale mailing "en").2 exists_validate_mailing 2 (fun _ => false)
    [crowd, museum, hike]
  refine ⟨validate_selling, ⟨linkOf museum.guide.id, linkOf hike.guide.id, ?_⟩,
    exists_validate_mailing, hnone.1⟩
  rw [hcards]
  rfl

end

end Layer

end GuideLayer
