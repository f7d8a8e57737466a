/-!
Slots of worker threads. A slot is an index with a channel of its own; a slot given back is
taken again before a new one is allocated, the one given back last before the others.
-/

namespace WorkerPool

inductive Message (τ : Type)
  /-- Run the task, then wait for the next. -/
  | run (task : τ)
  /-- Leave and give the slot back. -/
  | stop
  deriving DecidableEq, Repr

structure Channel (α : Type) where
  /-- Messages sent and not yet received, the oldest first. -/
  queue : List α := []
  /-- Whether the receiving end is still there. -/
  connected : Bool := true
  deriving DecidableEq, Repr

/-- Messages a channel holds before a sender has to wait. A worker is handed to one sender at a
time and has one message under way, so one is enough. -/
def channelDepth : Nat := 1

inductive Delivery
  | sent
  /-- There is no room yet. -/
  | full
  /-- The receiving end is gone; the sender keeps the message. -/
  | refused
  deriving DecidableEq, Repr

namespace Channel

variable {α : Type}

def send (c : Channel α) (m : α) : Delivery × Channel α :=
  if !c.connected then (.refused, c)
  else if c.queue.length < channelDepth then (.sent, { c with queue := c.queue ++ [m] })
  else (.full, c)

def receive (c : Channel α) : Option α × Channel α :=
  (c.queue.head?, { c with queue := c.queue.tail })

/-- The receiving end goes away, and what was not received with it. -/
def hangUp (_ : Channel α) : Channel α := { queue := [], connected := false }

def drain (c : Channel α) : Channel α := { c with queue := [] }

end Channel

/-- All slots ever allocated, with those free for reuse. -/
structure Slots (α : Type) where
  /-- Free slots, the one given back last first. -/
  free : List Nat := []
  /-- The channel of each slot. -/
  channels : List (Channel α) := []
  deriving DecidableEq, Repr

namespace Slots

variable {α : Type}

/-- Number of slots ever allocated. -/
def allocated (s : Slots α) : Nat := s.channels.length

/-- Number of slots waiting for reuse. -/
def cached (s : Slots α) : Nat := s.free.length

def channel (s : Slots α) (id : Nat) : Channel α := s.channels.getD id { connected := false }

def setChannel (s : Slots α) (id : Nat) (c : Channel α) : Slots α :=
  { s with channels := s.channels.set id c }

/-- The free slot given back last, or the next new one. -/
def take (s : Slots α) : Nat × Slots α :=
  match s.free with
  | id :: rest => (id, { s with free := rest })
  | [] => (s.allocated, { s with channels := s.channels ++ [{}] })

/-- Gives a slot back with its channel emptied. -/
def put (s : Slots α) (id : Nat) : Slots α :=
  let drained := s.setChannel id (s.channel id).drain
  { drained with free := id :: drained.free }

def send (s : Slots α) (id : Nat) (m : α) : Delivery × Slots α :=
  let (delivery, c) := (s.channel id).send m
  (delivery, s.setChannel id c)

def receive (s : Slots α) (id : Nat) : Option α × Slots α :=
  let (m, c) := (s.channel id).receive
  (m, s.setChannel id c)

def hangUp (s : Slots α) (id : Nat) : Slots α := s.setChannel id (s.channel id).hangUp

@[simp] theorem allocated_setChannel (s : Slots α) (id : Nat) (c : Channel α) :
    (s.setChannel id c).allocated = s.allocated := by
  simp [allocated, setChannel]

@[simp] theorem free_setChannel (s : Slots α) (id : Nat) (c : Channel α) :
    (s.setChannel id c).free = s.free := rfl

theorem channel_setChannel_self (s : Slots α) (id : Nat) (c : Channel α) (h : id < s.allocated) :
    (s.setChannel id c).channel id = c := by
  have h : id < s.channels.length := h
  simp [channel, setChannel, h]

theorem channel_setChannel_of_ne (s : Slots α) {id other : Nat} (c : Channel α) (h : other ≠ id) :
    (s.setChannel id c).channel other = s.channel other := by
  simp [channel, setChannel, List.getElem?_set_ne h.symm]

@[simp] theorem allocated_put (s : Slots α) (id : Nat) : (s.put id).allocated = s.allocated :=
  allocated_setChannel s id _

@[simp] theorem cached_put (s : Slots α) (id : Nat) : (s.put id).cached = s.cached + 1 := rfl

/-- A slot given back is the next to be taken. -/
theorem take_put (s : Slots α) (id : Nat) : (s.put id).take.1 = id := rfl

end Slots
end WorkerPool
