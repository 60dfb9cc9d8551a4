import GuideLayer.Url.Host

/-!
Host names for a program without the tables of Unicode: names in ASCII, and
single names beyond it that are known.
-/

namespace GuideLayer

namespace HostNames

/-- Names in ASCII, which are put into lower case. All others are refused, and a label that is in
code already is taken as it is. -/
@[reducible]
def ascii : HostNames where
  toAscii? bytes :=
    let name := bytes.map (fun b => (Char.ofNat b.toNat).toLower)
    if name.any Host.forbiddenInName then none else some name
  not_forbidden := by
    intro bytes name h
    dsimp only at h
    split at h
    · cases h
    · rename_i hallowed
      cases h
      simpa using hallowed

/-- A mapping that knows one more name than another. -/
@[reducible]
def knowing (name written : String) (names : HostNames)
    (h : written.toList.any Host.forbiddenInName = false) : HostNames where
  toAscii? bytes :=
    if bytes = name.toList.flatMap String.utf8EncodeChar then some written.toList
    else names.toAscii? bytes
  not_forbidden := by
    intro bytes text htext
    split at htext
    · cases htext
      simpa using h
    · exact names.not_forbidden htext

/-- Names in ASCII and the one of a bookshop. -/
@[reducible]
def bookshop : HostNames :=
  ascii.knowing "bücher.example" "xn--bcher-kva.example" (by decide +kernel)

end HostNames

end GuideLayer
