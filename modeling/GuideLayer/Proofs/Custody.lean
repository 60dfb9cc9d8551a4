import GuideLayer.Layer.Handles
import GuideLayer.Proofs.Rest

/-!
Requests between the layer that sends them and those who answer. The layer has
a handle of its own to the queue, others have copies of it, and whoever has one
may take a request out at either end at any time. Requests are counted in three
places that know nothing of each other: the layer numbers them, its statistics
count them, and so does the queue.

All that happens to the queue from the side of the layer is that a request is
put at its end, and nobody but the layer does this. So what was taken out and
what is still there make up all that was sent, in whatever order it was taken.
-/

namespace GuideLayer

variable {σ α : Type}

namespace QueueHandles

/-! ### Handles to one queue -/

/-- There is a handle, and all handles are to one queue. -/
structure Shared (q : RequestQueue α) (h : QueueHandles α) : Prop where
  queues_eq : h.queues = [q]
  behind_ne : 0 < h.behind.length
  behind_eq : ∀ i ∈ h.behind, i = 0

namespace Shared

variable {q : RequestQueue α} {h : QueueHandles α}

theorem new : Shared ⟨[], 0⟩ ({} : QueueHandles α) where
  queues_eq := rfl
  behind_ne := Nat.one_pos
  behind_eq := by simp

theorem behind_getElem? (hs : Shared q h) {handle : Nat} (hgiven : handle < h.behind.length) :
    h.behind[handle]? = some 0 := by
  rw [List.getElem?_eq_getElem hgiven, hs.behind_eq _ (List.getElem_mem hgiven)]

theorem queue_eq (hs : Shared q h) {handle : Nat} (hgiven : handle < h.behind.length) :
    h.queue handle = q := by
  simp [queue, hs.behind_getElem? hgiven, hs.queues_eq]

/-- What is done to the queue through one handle shows through all of them. -/
theorem put (hs : Shared q h) {handle : Nat} (hgiven : handle < h.behind.length)
    (q' : RequestQueue α) : Shared q' (h.put handle q') := by
  unfold QueueHandles.put
  rw [hs.behind_getElem? hgiven]
  refine ⟨?_, hs.behind_ne, hs.behind_eq⟩
  dsimp only
  rw [hs.queues_eq, List.set_cons_zero]

theorem clone (hs : Shared q h) (handle : Nat) : Shared q (h.clone handle) := by
  by_cases hgiven : handle < h.behind.length
  · unfold QueueHandles.clone
    rw [hs.behind_getElem? hgiven]
    refine ⟨hs.queues_eq, by simp, ?_⟩
    intro i hi
    rcases List.mem_append.mp hi with hold | hnew
    · exact hs.behind_eq i hold
    · exact List.mem_singleton.mp hnew
  · unfold QueueHandles.clone
    rw [List.getElem?_eq_none (Nat.le_of_not_lt hgiven)]
    exact hs

/-- Nothing is taken out through a handle that was never given out. -/
theorem lt_of_pop?_eq_some {handle : Nat} {newest : Bool} {p : Request α × RequestQueue α}
    (hpop : (h.queue handle).pop? newest = some p) : handle < h.behind.length := by
  by_contra hgiven
  have hnone : h.queue handle = ⟨[], 0⟩ := by
    simp [queue, List.getElem?_eq_none (Nat.le_of_not_lt hgiven)]
  rw [hnone, RequestQueue.pop?_eq_none_iff.mpr rfl] at hpop
  cases hpop

end Shared

end QueueHandles

/-! ### A layer with a handle, and others with handles -/

/-- A layer and the handles to its queue. The first one is its own. -/
structure SharedLayer (σ α : Type) where
  layer : Layer σ α
  handles : QueueHandles α := {}

inductive SharedStep (σ α : Type) where
  | own (s : LayerStep α)
  /-- Somebody else edits the marks. -/
  | edit (store : σ)
  /-- Somebody gets a copy of a handle. -/
  | clone (handle : Nat)
  /-- Somebody takes a request out. -/
  | pop (handle : Nat) (newest : Bool)

namespace SharedLayer

/-- The layer with the queue as it is now. -/
def current (x : SharedLayer σ α) : Layer σ α := { x.layer with queue := x.handles.queue 0 }

variable [MarkStore σ α] [Scalar α] [Trig α]

def step (x : SharedLayer σ α) : SharedStep σ α → SharedLayer σ α
  | .own s =>
    let l := x.current.step s
    ⟨l, x.handles.put 0 l.queue⟩
  | .edit store => { x with layer := { x.layer with store := store } }
  | .clone handle => { x with handles := x.handles.clone handle }
  | .pop handle newest =>
    match (x.handles.queue handle).pop? newest with
    | none => x
    | some (_, q) => { x with handles := x.handles.put handle q }

/-- Takes all steps in their order. -/
def run (x : SharedLayer σ α) (steps : List (SharedStep σ α)) : SharedLayer σ α :=
  steps.foldl step x

@[simp] theorem run_concat (x : SharedLayer σ α) (steps : List (SharedStep σ α))
    (s : SharedStep σ α) : x.run (steps ++ [s]) = (x.run steps).step s := by
  simp [run]

/-- What the layer puts into the queue in a step. -/
def sentBy (x : SharedLayer σ α) : SharedStep σ α → List (Request α)
  | .own s => (x.current.step s).queue.pending.drop x.current.queue.pending.length
  | _ => []

omit [MarkStore σ α] [Scalar α] [Trig α] in
/-- What is taken out of the queue in a step. -/
def poppedBy (x : SharedLayer σ α) : SharedStep σ α → List (Request α)
  | .pop handle newest => (((x.handles.queue handle).pop? newest).map Prod.fst).toList
  | _ => []

/-- What comes of the steps of a run, one after the other. -/
def along (f : SharedLayer σ α → SharedStep σ α → List (Request α)) (x : SharedLayer σ α) :
    List (SharedStep σ α) → List (Request α)
  | [] => []
  | s :: steps => f x s ++ along f (x.step s) steps

theorem along_concat (f : SharedLayer σ α → SharedStep σ α → List (Request α))
    (x : SharedLayer σ α) (steps : List (SharedStep σ α)) (s : SharedStep σ α) :
    along f x (steps ++ [s]) = along f x steps ++ f (x.run steps) s := by
  induction steps generalizing x with
  | nil => exact List.append_nil _
  | cons t steps ih =>
      rw [List.cons_append, along, along, ih, List.append_assoc]
      rfl

end SharedLayer

/-! ### Nothing is lost -/

namespace SharedLayer

open QueueHandles

/-- What is so after some requests were sent and some were taken out. -/
structure Custody (sent popped : List (Request α)) (q : RequestQueue α) (x : SharedLayer σ α) :
    Prop where
  shared : Shared q x.handles
  numbered : sent.map Request.generation = List.range' 1 x.layer.generation
  counted : x.layer.stats.issued = x.layer.generation
  issued : q.issued = x.layer.generation
  kept : q.pending.Sublist sent
  perm : (popped ++ q.pending).Perm sent

theorem custody_fresh {l : Layer σ α} (hl : l.Fresh) :
    Custody [] [] ⟨[], 0⟩ (⟨l, {}⟩ : SharedLayer σ α) := by
  have hgeneration : l.generation = 0 := by rw [hl]
  have hissued : l.stats.issued = 0 := by rw [hl]
  refine ⟨.new, ?_, ?_, ?_, List.Sublist.refl _, List.Perm.refl _⟩
  · change [] = List.range' 1 l.generation
    rw [hgeneration]
    rfl
  · exact hissued.trans hgeneration.symm
  · exact hgeneration.symm

namespace Custody

variable {sent popped : List (Request α)} {q : RequestQueue α} {x : SharedLayer σ α}

/-- Taking out a request, at whichever end, leaves the others in their places. -/
theorem pop (h : Custody sent popped q x) {handle : Nat} {newest : Bool} {r : Request α}
    {q' : RequestQueue α} (hpop : (x.handles.queue handle).pop? newest = some (r, q')) :
    Custody sent (popped ++ [r]) q' { x with handles := x.handles.put handle q' } := by
  have hgiven := Shared.lt_of_pop?_eq_some hpop
  rw [h.shared.queue_eq hgiven] at hpop
  obtain ⟨before, after, hpending, rfl⟩ := RequestQueue.pop?_eq_some hpop
  have hkept := h.kept
  have hperm := h.perm
  rw [hpending] at hkept hperm
  refine ⟨h.shared.put hgiven _, h.numbered, h.counted, h.issued, ?_, ?_⟩
  · exact ((List.sublist_cons_self r after).append_left before).trans hkept
  · have hmoved : (before ++ r :: after).Perm ([r] ++ (before ++ after)) := List.perm_middle
    rw [List.append_assoc]
    exact (hmoved.symm.append_left popped).trans hperm

variable [MarkStore σ α] [Scalar α] [Trig α]

/-- What the layer sends goes to the end of the queue, whatever is there now. -/
theorem own (h : Custody sent popped q x) (s : LayerStep α) :
    ∃ q', Custody (sent ++ x.sentBy (.own s)) popped q' (x.step (.own s)) := by
  -- What is known of a step is about layers without their marks; all counters are in there.
  obtain ⟨rs, hsends⟩ := (Layer.transition_step x.current s).sends
  have hcurrent : x.current.queue = q := h.shared.queue_eq h.shared.behind_ne
  have hqueue : (x.current.step s).queue =
      ⟨x.current.queue.pending ++ rs, x.current.queue.issued + rs.length⟩ := hsends.queue_eq
  have hgeneration : (x.step (.own s)).layer.generation = x.layer.generation + rs.length :=
    hsends.generation_eq
  have hissued : (x.step (.own s)).layer.stats.issued = x.layer.stats.issued + rs.length :=
    hsends.issued_eq
  have hnumbers : rs.map Request.generation = List.range' (x.layer.generation + 1) rs.length :=
    hsends.numbers
  rw [hcurrent] at hqueue
  have hsent : x.sentBy (.own s) = rs := by
    rw [sentBy, hqueue, hcurrent, List.drop_left]
  rw [hsent]
  refine ⟨(x.current.step s).queue, h.shared.put h.shared.behind_ne _, ?_, ?_, ?_, ?_, ?_⟩
  · rw [List.map_append, h.numbered, hnumbers, hgeneration, Nat.add_comm x.layer.generation 1]
    exact List.range'_append_1
  · rw [hissued, h.counted, hgeneration]
  · rw [hqueue, hgeneration, ← h.issued]
  · rw [hqueue]
    exact h.kept.append (List.Sublist.refl rs)
  · rw [hqueue, ← List.append_assoc]
    exact h.perm.append_right rs

theorem step (h : Custody sent popped q x) (s : SharedStep σ α) :
    ∃ q', Custody (sent ++ x.sentBy s) (popped ++ x.poppedBy s) q' (x.step s) := by
  cases s with
  | own s => simpa only [poppedBy, List.append_nil] using h.own s
  | edit store =>
      simp only [sentBy, poppedBy, List.append_nil]
      exact ⟨q, h.shared, h.numbered, h.counted, h.issued, h.kept, h.perm⟩
  | clone handle =>
      simp only [sentBy, poppedBy, List.append_nil]
      exact ⟨q, h.shared.clone handle, h.numbered, h.counted, h.issued, h.kept, h.perm⟩
  | pop handle newest =>
      cases hpop : (x.handles.queue handle).pop? newest with
      | none =>
          refine ⟨q, ?_⟩
          simpa [sentBy, poppedBy, SharedLayer.step, hpop] using h
      | some p =>
          refine ⟨p.2, ?_⟩
          simpa [sentBy, poppedBy, SharedLayer.step, hpop] using h.pop hpop

end Custody

variable [MarkStore σ α] [Scalar α] [Trig α]

theorem custody_run {x : SharedLayer σ α} {q : RequestQueue α} (h : Custody [] [] q x)
    (steps : List (SharedStep σ α)) :
    ∃ q', Custody (along sentBy x steps) (along poppedBy x steps) q' (x.run steps) := by
  induction steps using List.reverseRecOn with
  | nil => exact ⟨q, h⟩
  | append_singleton steps s ih =>
      obtain ⟨q', h'⟩ := ih
      rw [along_concat, along_concat, run_concat]
      exact h'.step s

/-! ### Each request once -/

/-- All accounts of the requests agree, through whatever handle one looks. -/
structure Accounted (sent popped : List (Request α)) (x : SharedLayer σ α) : Prop where
  numbered : sent.map Request.generation = List.range' 1 x.layer.stats.issued
  handle : 0 < x.handles.behind.length
  issued : ∀ handle < x.handles.behind.length,
    (x.handles.queue handle).issued = x.layer.stats.issued
  increasing : ∀ handle < x.handles.behind.length,
    (x.handles.queue handle).pending.Pairwise (fun r r' => r.generation < r'.generation)
  /-- They are the same requests, not only the same numbers. -/
  perm : ∀ handle < x.handles.behind.length,
    (popped ++ (x.handles.queue handle).pending).Perm sent
  /-- A request that was sent was either taken out, once, or is still there, once. -/
  once : ∀ handle < x.handles.behind.length, ∀ number,
    (popped.map Request.generation).count number +
        ((x.handles.queue handle).pending.map Request.generation).count number =
      if 1 ≤ number ∧ number ≤ x.layer.stats.issued then 1 else 0

omit [MarkStore σ α] [Scalar α] [Trig α] in
theorem Custody.accounted {sent popped : List (Request α)} {q : RequestQueue α}
    {x : SharedLayer σ α} (h : Custody sent popped q x) : Accounted sent popped x := by
  have hnumbered : sent.map Request.generation = List.range' 1 x.layer.stats.issued := by
    rw [h.counted]
    exact h.numbered
  refine ⟨hnumbered, h.shared.behind_ne, ?_, ?_, ?_, ?_⟩
  · intro handle hgiven
    rw [h.shared.queue_eq hgiven, h.issued, h.counted]
  · intro handle hgiven
    rw [h.shared.queue_eq hgiven]
    have hsent : (sent.map Request.generation).Pairwise (· < ·) := by
      rw [hnumbered]
      exact List.pairwise_lt_range'
    exact (List.pairwise_map.mp hsent).sublist h.kept
  · intro handle hgiven
    rw [h.shared.queue_eq hgiven]
    exact h.perm
  · intro handle hgiven number
    -- No number occurs twice among all that were sent, so it is enough to count in both parts.
    have hcount := (h.perm.map Request.generation).count_eq number
    rw [List.map_append, List.count_append, hnumbered, List.Nodup.count List.nodup_range']
      at hcount
    rw [h.shared.queue_eq hgiven, hcount]
    refine if_congr ?_ rfl rfl
    rw [List.mem_range'_1]
    omega

/-- Requests are numbered from one on without a gap, as many as are counted. Whoever takes them
out, at whichever end and through whichever handle, each is pending or was taken out, and either
only once, and those that are pending are in the order in which they were sent. -/
theorem pending_or_popped_once {l : Layer σ α} (hl : l.Fresh) (steps : List (SharedStep σ α)) :
    Accounted (along sentBy ⟨l, {}⟩ steps) (along poppedBy ⟨l, {}⟩ steps)
      (run ⟨l, {}⟩ steps) := by
  obtain ⟨q, h⟩ := custody_run (custody_fresh hl) steps
  exact h.accounted

/-- Others have handles. They take out the newest request first, it fails and is made up for, and
only then the oldest one is taken out. -/
def bothEnds : List (SharedStep (MarkBoard Float) Float) :=
  [.own (.setEnabled true), .clone 0, .own (.updateViewport Layer.tile), .own (.updateViewport Layer.wideTile),
    .pop 1 true, .own (.answer ⟨2, .error ⟨"503"⟩⟩), .clone 1, .pop 2 false]

theorem pending_or_popped_once_bothEnds :
    Layer.started.Fresh ∧
      (along poppedBy ⟨Layer.started, {}⟩ bothEnds).map Request.generation = [2, 1] ∧
      ((run ⟨Layer.started, {}⟩ bothEnds).handles.queue 1).pending.map Request.generation = [3] ∧
      Accounted (along sentBy ⟨Layer.started, {}⟩ bothEnds)
        (along poppedBy ⟨Layer.started, {}⟩ bothEnds) (run ⟨Layer.started, {}⟩ bothEnds) :=
  ⟨Layer.fresh_started, by decide +kernel, by decide +kernel,
    pending_or_popped_once Layer.fresh_started bothEnds⟩

end SharedLayer

end GuideLayer
