import GuideLayer.Geometry.Viewport
import GuideLayer.Json.Decoder
import GuideLayer.Json.Value

/-!
Points and viewports in JSON.
-/

namespace GuideLayer

namespace Point

def toJson (p : Point Float) : Json := .object [("x", .float p.x), ("y", .float p.y)]

def fields : List (Field (Point Float)) :=
  [Field.required "x" Decoder.float (fun x p => { p with x := x }),
    Field.required "y" Decoder.float (fun y p => { p with y := y })]

def decoder : Decoder (Point Float) := Decoder.record fields default

end Point

namespace Viewport

def toJson (v : Viewport Float) : Json :=
  .object
    [("center", v.center.toJson),
      ("scale", .float v.scale),
      ("angle", .float v.angle),
      ("pixel_width", .float v.pixelWidth),
      ("pixel_height", .float v.pixelHeight)]

/-- A viewport is upright unless it says otherwise. -/
def fields : List (Field (Viewport Float)) :=
  [Field.required "center" Point.decoder (fun c v => { v with center := c }),
    Field.required "scale" Decoder.float (fun x v => { v with scale := x }),
    Field.defaulted "angle" Decoder.float (fun x v => { v with angle := x }) 0,
    Field.required "pixel_width" Decoder.float (fun x v => { v with pixelWidth := x }),
    Field.required "pixel_height" Decoder.float (fun x v => { v with pixelHeight := x })]

def decoder : Decoder (Viewport Float) := Decoder.record fields default

end Viewport

end GuideLayer
