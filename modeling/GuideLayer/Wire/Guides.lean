import GuideLayer.Guide.Gallery
import GuideLayer.Wire.Geometry

/-!
Guides, spots and cards in JSON.
-/

namespace GuideLayer

namespace Guide

def toJson (g : Guide Float) : Json :=
  .object
    [("id", .string g.id),
      ("name", .string g.name),
      ("image_url", .string g.imageUrl),
      ("tag", .string g.tag),
      ("bookmarks_count", .nat g.bookmarks),
      ("has_track", .bool g.hasTrack),
      ("tracks_length", .float g.distance),
      ("tour_duration", .float g.duration),
      ("ascent", .nat g.ascent)]

def fields : List (Field (Guide Float)) :=
  [Field.optional "id" Decoder.string (fun x g => { g with id := x }),
    Field.optional "name" Decoder.string (fun x g => { g with name := x }),
    Field.optional "image_url" Decoder.string (fun x g => { g with imageUrl := x }),
    Field.optional "tag" Decoder.string (fun x g => { g with tag := x }),
    Field.optional "bookmarks_count" Decoder.nat32 (fun x g => { g with bookmarks := x }),
    Field.optional "has_track" Decoder.bool (fun x g => { g with hasTrack := x }),
    Field.optional "tracks_length" Decoder.float (fun x g => { g with distance := x }),
    Field.optional "tour_duration" Decoder.float (fun x g => { g with duration := x }),
    Field.optional "ascent" Decoder.nat32 (fun x g => { g with ascent := x })]

def decoder : Decoder (Guide Float) := Decoder.record fields default

end Guide

namespace Spot

def toJson (s : Spot Float) : Json :=
  .object
    [("point", s.point.toJson),
      ("sights_count", .nat s.sights),
      ("outdoor_count", .nat s.outdoor),
      ("guide_info", s.guide.toJson)]

def fields : List (Field (Spot Float)) :=
  [Field.optional "point" Point.decoder (fun x s => { s with point := x }),
    Field.optional "sights_count" Decoder.nat32 (fun x s => { s with sights := x }),
    Field.optional "outdoor_count" Decoder.nat32 (fun x s => { s with outdoor := x }),
    Field.optional "guide_info" Guide.decoder (fun x s => { s with guide := x })]

def decoder : Decoder (Spot Float) := Decoder.record fields default

end Spot

namespace CardDetails

/-- The kind of a card and what it shows, as entries of the card's own object. -/
def entries : CardDetails Float → List (String × Json)
  | city bookmarks hasTrack =>
    [("type", .string Category.city.name),
      ("bookmarks_count", .nat bookmarks),
      ("track_is_available", .bool hasTrack)]
  | outdoor duration distance ascent tag =>
    [("type", .string Category.outdoor.name),
      ("duration", .float duration),
      ("distance", .float distance),
      ("ascent", .nat ascent),
      ("tag", .string tag)]

end CardDetails

namespace Card

def toJson (c : Card Float) : Json :=
  .object
    ([("guide_id", .string c.guideId),
      ("url", .string c.url.render),
      ("image_url", .string c.imageUrl),
      ("title", .string c.title),
      ("downloaded", .bool c.downloaded)] ++ c.details.entries)

end Card

namespace Gallery

def toJson (cards : List (Card Float)) : Json :=
  .object [("items", .array (cards.map Card.toJson))]

end Gallery

end GuideLayer
