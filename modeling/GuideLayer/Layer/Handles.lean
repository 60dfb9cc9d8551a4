import GuideLayer.Layer.Request

/-!
Handles to request queues. Handles may share a queue, and what is done
through one of them shows through the others.
-/

namespace GuideLayer

structure QueueHandles (α : Type) where
  queues : List (RequestQueue α) := [⟨[], 0⟩]
  /-- The queue behind each handle. -/
  behind : List Nat := [0]

namespace QueueHandles

variable {α : Type}

/-- The queue behind a handle. A handle that was never given out has an empty one. -/
def queue (h : QueueHandles α) (handle : Nat) : RequestQueue α :=
  ((h.behind[handle]?).bind (fun i => h.queues[i]?)).getD ⟨[], 0⟩

/-- Puts another content into the queue behind a handle. -/
def put (handle : Nat) (q : RequestQueue α) (h : QueueHandles α) : QueueHandles α :=
  match h.behind[handle]? with
  | some i => { h with queues := h.queues.set i q }
  | none => h

/-- One more handle to the same queue. -/
def clone (handle : Nat) (h : QueueHandles α) : QueueHandles α :=
  match h.behind[handle]? with
  | some i => { h with behind := h.behind ++ [i] }
  | none => h

/-- One more handle, to a queue of its own. -/
def fresh (h : QueueHandles α) : QueueHandles α :=
  ⟨h.queues ++ [⟨[], 0⟩], h.behind ++ [h.queues.length]⟩

/-- The queues as each handle shows them. -/
def views (h : QueueHandles α) : List (RequestQueue α) :=
  (List.range h.behind.length).map h.queue

end QueueHandles

end GuideLayer
