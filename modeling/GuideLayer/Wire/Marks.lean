import GuideLayer.Marks.Mark
import GuideLayer.Wire.Geometry

/-!
Marks in JSON.
-/

namespace GuideLayer

namespace MarkKind

def toJson (k : MarkKind) : Json := .string k.name

def decoder : Decoder MarkKind := Decoder.choice (all.map (fun k => (k.name, k)))

end MarkKind

namespace Category

def toJson (c : Category) : Json := .string c.name

def decoder : Decoder Category := Decoder.choice (all.map (fun c => (c.name, c)))

end Category

namespace Mark

def toJson (m : Mark Float) : Json :=
  .object
    [("id", .nat m.id),
      ("kind", m.kind.toJson),
      ("pivot", m.pivot.toJson),
      ("index", .nat m.index),
      ("sights_count", .nat m.sights),
      ("outdoor_count", .nat m.outdoor),
      ("guide_id", .string m.guideId),
      ("guide_type", .optional (m.category.map Category.name)),
      ("downloaded", .bool m.downloaded)]

/-- All fields have to be there, but a mark without a category may leave it out. -/
def fields : List (Field (Mark Float)) :=
  [Field.required "id" Decoder.nat64 (fun x m => { m with id := x }),
    Field.required "kind" MarkKind.decoder (fun x m => { m with kind := x }),
    Field.required "pivot" Point.decoder (fun x m => { m with pivot := x }),
    Field.required "index" Decoder.nat64 (fun x m => { m with index := x }),
    Field.required "sights_count" Decoder.nat32 (fun x m => { m with sights := x }),
    Field.required "outdoor_count" Decoder.nat32 (fun x m => { m with outdoor := x }),
    Field.required "guide_id" Decoder.string (fun x m => { m with guideId := x }),
    Field.optional "guide_type" (Decoder.option Category.decoder)
      (fun x m => { m with category := x }),
    Field.required "downloaded" Decoder.bool (fun x m => { m with downloaded := x })]

def decoder : Decoder (Mark Float) :=
  Decoder.record fields { id := 0, kind := .guide, pivot := default }

end Mark

end GuideLayer
