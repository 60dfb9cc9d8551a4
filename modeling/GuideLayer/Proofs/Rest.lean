import GuideLayer.Proofs.Retry

/-!
Answering comes to rest. Whoever answers pending requests, the oldest or the
newest, well or badly, may find new ones in the queue, but only the failure of
the latest request brings one, and only as long as attempts are left. The
number of requests that answering can still bring about is worked off like the
queue itself; after a success it is zero, for then the latest request is not
in the queue any more, although failures are counted from zero again.
-/

namespace GuideLayer

variable {σ α : Type}

namespace RequestQueue

/-- A request is taken out, and the others keep their places. -/
theorem pop?_eq_some {q q' : RequestQueue α} {newest : Bool} {r : Request α}
    (h : q.pop? newest = some (r, q')) :
    ∃ before after, q.pending = before ++ r :: after ∧ q' = ⟨before ++ after, q.issued⟩ := by
  cases newest with
  | false =>
      change q.popOldest? = some (r, q') at h
      unfold popOldest? at h
      split at h
      · cases h
      · rename_i r' rest hpending
        cases h
        exact ⟨[], rest, hpending, rfl⟩
  | true =>
      change q.popNewest? = some (r, q') at h
      unfold popNewest? at h
      split at h
      · cases h
      · rename_i r' hlast
        cases h
        refine ⟨q.pending.dropLast, [], ?_, ?_⟩
        · exact (List.dropLast_append_getLast? _ hlast).symm
        · rw [List.append_nil]

theorem pop?_eq_none_iff {q : RequestQueue α} {newest : Bool} :
    q.pop? newest = none ↔ q.pending = [] := by
  cases newest with
  | false => cases h : q.pending <;> simp [pop?, popOldest?, h]
  | true =>
      rw [← List.getLast?_eq_none_iff]
      cases h : q.pending.getLast? <;> simp [pop?, popNewest?, h]

end RequestQueue

/-- The service answers a pending request, the newest or the oldest. -/
structure Delivery (α : Type) where
  newest : Bool
  result : Except FetchError (List (Spot α))

namespace Layer

/-! ### What a step adds to the queue -/

/-- Requests are sent, and they are counted wherever requests are counted. -/
structure Sends (rs : List (Request α)) (l l' : Layer σ α) : Prop where
  queue_eq : l'.queue = ⟨l.queue.pending ++ rs, l.queue.issued + rs.length⟩
  generation_eq : l'.generation = l.generation + rs.length
  issued_eq : l'.stats.issued = l.stats.issued + rs.length
  numbers : rs.map Request.generation = List.range' (l.generation + 1) rs.length
  one : rs.length ≤ 1

theorem sends_nothing {l l' : Layer σ α} (hqueue : l'.queue = l.queue)
    (hgeneration : l'.generation = l.generation) (hissued : l'.stats.issued = l.stats.issued) :
    Sends [] l l' := by
  refine ⟨?_, hgeneration, hissued, rfl, Nat.zero_le 1⟩
  rw [hqueue, List.append_nil]
  rfl

section Sends

variable [Scalar α]

/-- What a layer does before a request does not matter if it leaves queue and counters alone. -/
theorem sends_request {l x : Layer σ α} (hqueue : x.queue = l.queue)
    (hgeneration : x.generation = l.generation) (hissued : x.stats.issued = l.stats.issued) :
    ∃ rs, Sends rs l x.request := by
  cases h : x.usableCamera? with
  | none =>
      rw [request_of_unusable h]
      exact ⟨[], sends_nothing hqueue hgeneration hissued⟩
  | some c =>
      rw [request_of_usable h, hqueue, hgeneration, hissued]
      exact ⟨[⟨l.generation + 1, c.viewport.visible, c.zoom⟩], rfl, rfl, rfl, rfl, Nat.le_refl 1⟩

variable [Trig α]

theorem Transition.sends {m m' : Layer Unit α} {s : LayerStep α} (h : Transition m s m') :
    ∃ rs, Sends rs m m' := by
  cases h with
  | switchOn | reconnect | look | retry => exact sends_request rfl rfl rfl
  | drop =>
      refine ⟨[], sends_nothing rfl rfl ?_⟩
      rw [stats_drop]
  | _ => exact ⟨[], sends_nothing rfl rfl rfl⟩

end Sends

/-! ### How much answering can bring about -/

/-- How many more requests answering what is pending can bring about. -/
def allowance (l : Layer σ α) : Nat :=
  if l.phase.isPaused = false ∧ l.generation ∈ l.queue.pending.map Request.generation then
    l.settings.attempts - 1 - l.failures
  else 0

theorem allowance_le (l : Layer σ α) : l.allowance ≤ l.settings.attempts - 1 - l.failures := by
  unfold allowance
  split <;> omega

theorem allowance_of_paused {l : Layer σ α} (h : l.phase.isPaused = true) : l.allowance = 0 := by
  simp [allowance, h]

theorem allowance_of_gone {l : Layer σ α}
    (h : l.generation ∉ l.queue.pending.map Request.generation) : l.allowance = 0 := by
  simp [allowance, h]

theorem allowance_of_pending {l : Layer σ α} (hon : l.phase.isPaused = false)
    (h : l.generation ∈ l.queue.pending.map Request.generation) :
    l.allowance = l.settings.attempts - 1 - l.failures := if_pos ⟨hon, h⟩

/-- Taking requests out of the queue does not raise the allowance. -/
theorem allowance_le_of_subset {l : Layer σ α} {q : RequestQueue α}
    (hsub : q.pending ⊆ l.queue.pending) : allowance { l with queue := q } ≤ l.allowance := by
  by_cases hpending : l.generation ∈ q.pending.map Request.generation
  · have hpending' : l.generation ∈ l.queue.pending.map Request.generation :=
      List.map_subset _ hsub hpending
    simp [allowance, hpending, hpending']
  · rw [allowance_of_gone hpending]
    exact Nat.zero_le _

/-- What is known of the queue of a layer when `held` are the requests that were taken out of it
and not answered so far. -/
structure Stocked [Scalar α] (held : List (Request α)) (l : Layer σ α) : Prop where
  bounded : ∀ r ∈ l.queue.pending, r.generation ≤ l.generation
  nodup : (l.queue.pending.map Request.generation).Nodup
  awaited : l.Waits → l.usableCamera? ≠ none →
    ∃ r ∈ l.queue.pending ++ held, r.generation = l.generation

section Stocked

variable [Scalar α] {held held' : List (Request α)}

theorem Stocked.of_bare {l : Layer σ α} (h : l.bare.Stocked held) : l.Stocked held :=
  ⟨h.bounded, h.nodup, h.awaited⟩

theorem Stocked.bare {l : Layer σ α} (h : l.Stocked held) : l.bare.Stocked held :=
  ⟨h.bounded, h.nodup, h.awaited⟩

/-- After a request the queue holds what is waited for, whatever it held before. -/
theorem stocked_request {l : Layer σ α}
    (hbounded : ∀ r ∈ l.queue.pending, r.generation ≤ l.generation)
    (hnodup : (l.queue.pending.map Request.generation).Nodup) : l.request.Stocked held := by
  cases hc : l.usableCamera? with
  | none =>
      rw [request_of_unusable hc]
      exact ⟨hbounded, hnodup, fun _ hsome => absurd hc hsome⟩
  | some c =>
      rw [request_of_usable hc]
      refine ⟨?_, ?_, ?_⟩
      · intro r hr
        rcases List.mem_append.mp hr with hold | hnew
        · exact Nat.le_succ_of_le (hbounded r hold)
        · rw [List.mem_singleton.mp hnew]
      · change ((l.queue.pending ++ [_]).map Request.generation).Nodup
        rw [List.map_append, List.map_singleton, List.nodup_append]
        change _ ∧ [l.generation + 1].Nodup ∧ ∀ g ∈ _, ∀ g' ∈ [l.generation + 1], g ≠ g'
        refine ⟨hnodup, List.nodup_singleton _, ?_⟩
        intro g hg g' hg' heq
        obtain ⟨r, hr, rfl⟩ := List.mem_map.mp hg
        have hle := hbounded r hr
        rw [List.mem_singleton] at hg'
        omega
      · intro _ _
        refine ⟨⟨l.generation + 1, c.viewport.visible, c.zoom⟩, ?_, rfl⟩
        simp [RequestQueue.send]

theorem stocked_of_not_waits {l : Layer σ α}
    (hbounded : ∀ r ∈ l.queue.pending, r.generation ≤ l.generation)
    (hnodup : (l.queue.pending.map Request.generation).Nodup) (hidle : ¬l.Waits) :
    l.Stocked held :=
  ⟨hbounded, hnodup, fun hwaits => absurd hwaits hidle⟩

variable [Trig α]

/-- One step. Only a request that it answers may leave the hands of the service. -/
theorem Stocked.transition {m m' : Layer Unit α} {s : LayerStep α} (h : Transition m s m')
    (hm : m.Stocked held)
    (hheld : ∀ r ∈ held, r ∈ held' ∨ s.answered? = some r.generation) : m'.Stocked held' := by
  obtain ⟨hbounded, hnodup, hawaited⟩ := hm
  rcases h.requests_or_stays with ⟨x, rfl, hqueue, hgen⟩ | ⟨hqueue, hgen, hstays⟩
  · rw [← hqueue, ← hgen] at hbounded
    rw [← hqueue] at hnodup
    exact stocked_request hbounded hnodup
  rw [← hqueue, ← hgen] at hbounded
  rw [← hqueue] at hnodup
  refine ⟨hbounded, hnodup, ?_⟩
  intro hwaits husable
  obtain ⟨hphase, hcamera, hdropped⟩ := hstays.resolve_left (not_not_intro hwaits)
  have hwaits : m.Waits := by rwa [Waits, ← hphase]
  rw [usableCamera?, hcamera] at husable
  obtain ⟨r, hr, hlatest⟩ := hawaited hwaits husable
  rw [hqueue, hgen]
  refine ⟨r, ?_, hlatest⟩
  rw [List.mem_append] at hr ⊢
  refine hr.imp_right (fun hr => ?_)
  rcases hheld r hr with hkept | hanswered
  · exact hkept
  · -- An answer to the request that is waited for would have been accepted.
    exact absurd ⟨hwaits.isPaused_eq_false, hlatest⟩ (hdropped r.generation hanswered)

/-- What an accepted answer brings about is paid for out of the attempts that are left. The request
that it answers is not in the queue any more. -/
theorem Transition.issued_of_accepts {m m' : Layer Unit α} {a : Answer α}
    (h : Transition m (.answer a) m') (hacc : m.Accepts a.generation)
    (hgone : m.generation ∉ m.queue.pending.map Request.generation) :
    m'.queue.issued + m'.allowance ≤
      m.queue.issued + (m.settings.attempts - 1 - m.failures) := by
  cases h with
  | drop hdropped => exact absurd hacc hdropped
  | success =>
      rw [allowance_of_gone (by exact hgone)]
      exact Nat.add_le_add_left (Nat.zero_le _) _
  | exhaust =>
      rw [allowance_of_paused rfl]
      exact Nat.add_le_add_left (Nat.zero_le _) _
  | retry _ _ hleft =>
      obtain ⟨rs, hsends⟩ := sends_request (x := m.struck) (l := m) rfl rfl rfl
      have hone := hsends.one
      have hissued : m.struck.request.queue.issued = m.queue.issued + rs.length :=
        congrArg RequestQueue.issued hsends.queue_eq
      have hallowance := allowance_le m.struck.request
      rw [settings_request, failures_request] at hallowance
      change _ ≤ m.settings.attempts - 1 - (m.failures + 1) at hallowance
      omega

/-- An answer that is dropped brings about nothing, and costs nothing. -/
theorem Transition.issued_of_not_accepts {m m' : Layer Unit α} {a : Answer α}
    (h : Transition m (.answer a) m') (hacc : ¬m.Accepts a.generation) :
    m'.queue.issued + m'.allowance = m.queue.issued + m.allowance := by
  rw [h.of_drop hacc]
  rfl

end Stocked

/-! ### Answering what is pending -/

section Drain

variable [MarkStore σ α] [Scalar α]

def deliver? (l : Layer σ α) (d : Delivery α) : Option (Layer σ α) :=
  (l.answerPending? d.newest d.result).map Prod.snd

/-- Answers pending requests in turn. There is no result when the queue is empty too early. -/
def drain? (l : Layer σ α) (ds : List (Delivery α)) : Option (Layer σ α) := ds.foldlM deliver? l

theorem deliver?_eq_some {l l' : Layer σ α} {d : Delivery α} (h : l.deliver? d = some l') :
    ∃ r q, l.queue.pop? d.newest = some (r, q) ∧
      l' = handle ⟨r.generation, d.result⟩ { l with queue := q } := by
  unfold deliver? answerPending? at h
  split at h
  · cases h
  · rename_i r q hpop
    exact ⟨r, q, hpop, (Option.some.inj h).symm⟩

theorem isSome_deliver? (l : Layer σ α) (d : Delivery α) :
    (l.deliver? d).isSome ↔ l.queue.pending ≠ [] := by
  have hnone : l.queue.pop? d.newest = none ↔ l.queue.pending = [] :=
    RequestQueue.pop?_eq_none_iff
  unfold deliver? answerPending?
  cases hpop : l.queue.pop? d.newest with
  | none => simp [hnone.mp hpop]
  | some p => simpa [hpop] using hnone

end Drain

/-! ### Layers that can come about -/

variable [MarkStore σ α] [Scalar α] [Trig α]

/-- A layer that can come about, with the requests that were taken out of its queue and are not
answered so far. Besides the answers to these there may be any others, to whatever request, and
marks may be edited by anybody. -/
inductive Reachable : List (Request α) → Layer σ α → Prop
  | fresh {l : Layer σ α} : l.Fresh → Reachable [] l
  | step {held : List (Request α)} {l : Layer σ α} (s : LayerStep α) :
      Reachable held l → Reachable held (l.step s)
  | edit {held : List (Request α)} {l : Layer σ α} (store : σ) :
      Reachable held l → Reachable held { l with store := store }
  | take {held : List (Request α)} {l : Layer σ α} {newest : Bool} {r : Request α}
      {q : RequestQueue α} :
      Reachable held l → l.queue.pop? newest = some (r, q) →
      Reachable (r :: held) { l with queue := q }
  | answer {before after : List (Request α)} {l : Layer σ α} {r : Request α}
      (result : Except FetchError (List (Spot α))) :
      Reachable (before ++ r :: after) l →
      Reachable (before ++ after) (l.handle ⟨r.generation, result⟩)

theorem Reachable.stocked {held : List (Request α)} {l : Layer σ α} (h : Reachable held l) :
    l.Stocked held := by
  induction h with
  | @fresh l hl =>
      apply Stocked.of_bare
      rw [hl.bare_eq]
      refine stocked_of_not_waits nofun List.nodup_nil ?_
      rintro (hp | hp) <;> cases hp
  | @step held l s _ ih =>
      exact .of_bare (ih.bare.transition (transition_step l s) (fun r hr => .inl hr))
  | edit store _ ih => exact ⟨ih.bounded, ih.nodup, ih.awaited⟩
  | @take held l newest r q _ hpop ih =>
      obtain ⟨before, after, hpending, rfl⟩ := RequestQueue.pop?_eq_some hpop
      obtain ⟨hbounded, hnodup, hawaited⟩ := ih
      rw [hpending] at hbounded hnodup hawaited
      refine ⟨?_, ?_, ?_⟩
      · intro r' hr'
        apply hbounded
        simp only [List.mem_append, List.mem_cons] at hr' ⊢
        exact hr'.imp_right .inr
      · exact hnodup.sublist (((List.sublist_cons_self r after).append_left before).map _)
      · intro hwaits husable
        obtain ⟨r', hr', hlatest⟩ := hawaited hwaits husable
        refine ⟨r', ?_, hlatest⟩
        simp only [List.mem_append, List.mem_cons] at hr' ⊢
        tauto
  | @answer before after l r result _ ih =>
      refine .of_bare (ih.bare.transition (transition_answer ⟨r.generation, result⟩ l) ?_)
      intro r' hr'
      simp only [List.mem_append, List.mem_cons] at hr' ⊢
      rcases hr' with hr' | rfl | hr'
      · exact .inl (.inl hr')
      · exact .inr rfl
      · exact .inl (.inr hr')

theorem Reachable.deliver {held : List (Request α)} {l l' : Layer σ α} {d : Delivery α}
    (hl : Reachable held l) (h : l.deliver? d = some l') : Reachable held l' := by
  obtain ⟨r, q, hpop, rfl⟩ := deliver?_eq_some h
  have hheld : r :: held = [] ++ r :: held := rfl
  have htaken := hl.take hpop
  rw [hheld] at htaken
  exact htaken.answer d.result

/-- One answer makes the queue shorter by one, but for the request that it brings about, and that
one is paid for out of the allowance. -/
theorem Stocked.deliver {held : List (Request α)} {l l' : Layer σ α} {d : Delivery α}
    (hl : l.Stocked held) (h : l.deliver? d = some l') :
    l'.queue.issued + l'.allowance ≤ l.queue.issued + l.allowance ∧
      l'.queue.pending.length + 1 + l.queue.issued =
        l.queue.pending.length + l'.queue.issued := by
  obtain ⟨r, q, hpop, rfl⟩ := deliver?_eq_some h
  obtain ⟨before, after, hpending, rfl⟩ := RequestQueue.pop?_eq_some hpop
  have hnodup := hl.nodup
  rw [hpending, List.map_append, List.map_cons] at hnodup
  -- What is left when the request is taken out, before it is answered.
  let rest : Layer σ α := { l with queue := ⟨before ++ after, l.queue.issued⟩ }
  have htrans := transition_answer ⟨r.generation, d.result⟩ rest
  change (rest.handle _).bare.queue.issued + (rest.handle _).bare.allowance ≤ _ ∧
    (rest.handle _).bare.queue.pending.length + 1 + rest.bare.queue.issued =
      _ + (rest.handle _).bare.queue.issued
  constructor
  · by_cases hacc : rest.Accepts r.generation
    · obtain ⟨hon, hlatest⟩ := hacc
      have hlatest : r.generation = l.generation := hlatest
      have hgone : l.generation ∉ (before ++ after).map Request.generation := by
        rw [← hlatest, List.map_append]
        exact (List.nodup_middle.mp hnodup).notMem
      have hpaid : l.allowance = l.settings.attempts - 1 - l.failures := by
        refine allowance_of_pending hon ?_
        rw [hpending, ← hlatest]
        simp
      rw [hpaid]
      exact htrans.issued_of_accepts ⟨hon, hlatest⟩ hgone
    · rw [htrans.issued_of_not_accepts hacc]
      have hsub : before ++ after ⊆ l.queue.pending := by
        rw [hpending]
        exact ((List.sublist_cons_self r after).append_left before).subset
      have hless : rest.allowance ≤ l.allowance := allowance_le_of_subset hsub
      exact Nat.add_le_add_left hless _
  · obtain ⟨rs, hsends⟩ := htrans.sends
    have hlength : rest.bare.queue.pending.length + 1 = l.queue.pending.length := by
      change (before ++ after).length + 1 = _
      rw [hpending, List.length_append, List.length_append, List.length_cons]
      omega
    rw [hsends.queue_eq]
    change (rest.bare.queue.pending ++ rs).length + 1 + _ = _ + (rest.bare.queue.issued + rs.length)
    rw [List.length_append]
    omega

theorem Reachable.drain {held : List (Request α)} {l l' : Layer σ α} {ds : List (Delivery α)}
    (hl : Reachable held l) (h : l.drain? ds = some l') :
    Reachable held l' ∧ l'.queue.issued + l'.allowance ≤ l.queue.issued + l.allowance ∧
      l'.queue.pending.length + ds.length + l.queue.issued =
        l.queue.pending.length + l'.queue.issued := by
  induction ds generalizing l with
  | nil =>
      cases h
      exact ⟨hl, Nat.le_refl _, rfl⟩
  | cons d ds ih =>
      obtain ⟨mid, hmid, hrest⟩ := Option.bind_eq_some_iff.mp h
      obtain ⟨hpaid, hlength⟩ := hl.stocked.deliver hmid
      obtain ⟨hreach, hpaid', hlength'⟩ := ih (hl.deliver hmid) hrest
      refine ⟨hreach, by omega, ?_⟩
      rw [List.length_cons]
      omega

/-- However pending requests are answered, with guides or with failures, the oldest or the newest
first, at most one request less than there are attempts is sent meanwhile, so there is an end to it;
and as long as a request is pending there is something to answer. When the queue is empty, no
answer is held back and the recorded viewport is usable, the layer does not wait any more. -/
theorem drain_comes_to_rest {held : List (Request α)} {l l' : Layer σ α}
    (hl : Reachable held l) {ds : List (Delivery α)} (h : l.drain? ds = some l') :
    l'.queue.issued ≤ l.queue.issued + (l.settings.attempts - 1) ∧
      ds.length ≤ l.queue.pending.length + (l.settings.attempts - 1) ∧
      (∀ d, (l.drain? (ds ++ [d])).isSome ↔ l'.queue.pending ≠ []) ∧
      (held = [] → l'.queue.pending = [] →
        ∀ c, l'.camera = some c → ¬c.viewport.Degenerate →
          l'.phase ≠ .enabled ∧ l'.phase ≠ .networkError) := by
  obtain ⟨hreach, hpaid, hlength⟩ := hl.drain h
  have hallowance := allowance_le l
  refine ⟨by omega, by omega, ?_, ?_⟩
  · intro d
    have hstep : l.drain? (ds ++ [d]) = l'.deliver? d := by
      simp only [drain?, List.foldlM_append, List.foldlM_cons, List.foldlM_nil] at h ⊢
      simp [h]
    rw [hstep, isSome_deliver?]
  · intro hheld hempty c hcamera husable
    rw [← not_or]
    intro hwaits
    have hc : l'.usableCamera? = some c := usableCamera?_eq_some_iff.mpr ⟨hcamera, husable⟩
    obtain ⟨r, hr, -⟩ := hreach.stocked.awaited hwaits (by rw [hc]; exact Option.some_ne_none c)
    rw [hempty, hheld] at hr
    cases hr

/-- A layer that asked for a tile. -/
def asking : Layer (MarkBoard Float) Float := started.run [.setEnabled true, .updateViewport tile]

theorem reachable_asking : Reachable [] asking :=
  ((Reachable.fresh fresh_started).step (.setEnabled true)).step (.updateViewport tile)

/-- The service fails three times. -/
def threeFailures : List (Delivery Float) :=
  [⟨false, .error ⟨"503"⟩⟩, ⟨true, .error ⟨"503"⟩⟩, ⟨false, .error ⟨"503"⟩⟩]

theorem drain_comes_to_rest_threeFailures :
    ∃ l', asking.drain? threeFailures = some l' ∧ l'.queue.issued ≤ asking.queue.issued + 2 ∧
      threeFailures.length ≤ asking.queue.pending.length + 2 := by
  have hsome : (asking.drain? threeFailures).isSome = true := by decide +kernel
  have hattempts : asking.settings.attempts = 3 := by decide +kernel
  obtain ⟨l', hl'⟩ := Option.isSome_iff_exists.mp hsome
  obtain ⟨hissued, hlength, -⟩ := drain_comes_to_rest reachable_asking hl'
  rw [hattempts] at hissued hlength
  exact ⟨l', hl', hissued, hlength⟩

end Layer

end GuideLayer
