/-!
What became of requests and answers.
-/

namespace GuideLayer

structure Stats where
  issued : Nat := 0
  /-- Viewports too much like the one before. -/
  suppressed : Nat := 0
  retries : Nat := 0
  successes : Nat := 0
  failures : Nat := 0
  /-- Answers to requests that were not the latest any more. -/
  stale : Nat := 0
  deriving DecidableEq, Repr

end GuideLayer
