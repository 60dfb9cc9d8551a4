/-!
The life of the layer as observers see it.
-/

namespace GuideLayer

inductive Phase where
  | disabled
  /-- Switched on, waiting for the first answer. -/
  | enabled
  | hasData
  | noData
  /-- A request failed, and the next one is on its way. -/
  | networkError
  /-- Too many requests failed. Only reconnecting helps. -/
  | fatalNetworkError
  deriving DecidableEq, Repr

namespace Phase

def name : Phase → String
  | disabled => "Disabled"
  | enabled => "Enabled"
  | hasData => "HasData"
  | noData => "NoData"
  | networkError => "NetworkError"
  | fatalNetworkError => "FatalNetworkError"

def all : List Phase := [disabled, enabled, hasData, noData, networkError, fatalNetworkError]

def isEnabled (p : Phase) : Bool := decide (p ≠ disabled)

/-- No requests are made and no answers are taken; viewports are only noted. -/
def isPaused : Phase → Bool
  | disabled | fatalNetworkError => true
  | _ => false

end Phase

end GuideLayer
