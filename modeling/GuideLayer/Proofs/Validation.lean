import GuideLayer.Settings
import GuideLayer.Url.AsciiNames

/-!
Settings that can be worked with. What `validate` refuses first is not needed
for any proof, only what must hold for it to refuse nothing.
-/

namespace GuideLayer

namespace Settings

section

variable {α : Type} [Scalar α] [HostNames]

theorem validate_eq_ok_iff (s : Settings α) :
    s.validate = .ok () ↔
      s.attempts ≠ 0 ∧ IsShare s.scaleEps ∧ IsShare s.minOverlap ∧
        (Url.link s.gallery.catalog []).toOption.isSome := by
  unfold validate
  by_cases hattempts : s.attempts = 0
  · simp [hattempts]
  by_cases heps : IsShare s.scaleEps
  · by_cases hoverlap : IsShare s.minOverlap
    · cases hlink : Url.link s.gallery.catalog [] <;>
        simp [hattempts, heps, hoverlap, Except.toOption]
    · simp [hattempts, heps, hoverlap]
  · simp [hattempts, heps]

/-- The catalog is to blame only where nothing else is. -/
theorem exists_validate_eq_catalog_iff (s : Settings α) :
    (∃ e, s.validate = .error (.catalog e)) ↔
      s.attempts ≠ 0 ∧ IsShare s.scaleEps ∧ IsShare s.minOverlap ∧
        (Url.link s.gallery.catalog []).toOption.isSome = false := by
  unfold validate
  by_cases hattempts : s.attempts = 0
  · simp [hattempts]
  by_cases heps : IsShare s.scaleEps
  · by_cases hoverlap : IsShare s.minOverlap
    · cases hlink : Url.link s.gallery.catalog [] <;>
        simp [hattempts, heps, hoverlap, Except.toOption]
    · simp [hattempts, heps, hoverlap]
  · simp [hattempts, heps]

end

section

attribute [local instance] HostNames.ascii

theorem validate_standard : (standard : Settings Float).validate = .ok () := by
  rw [validate_eq_ok_iff]
  refine ⟨?_, ?_, ?_, ?_⟩ <;> decide +kernel

end

end Settings

end GuideLayer
