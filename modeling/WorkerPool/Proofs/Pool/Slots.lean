import WorkerPool.Pool.Step
import WorkerPool.Proofs.Pool.Roster

/-!
# Slots and rosters by numbers

What the operations on slots and on the roster do, told by three numbers of a slot: how often it
is in the roster, how many messages its channel holds, and whether it is unused, that is free or
without anybody at the receiving end of its channel.
-/

namespace WorkerPool

theorem count_cons_toNat (slot other : Nat) (l : List Nat) :
    (other :: l).count slot = l.count slot + (other == slot).toNat := by
  rw [List.count_cons]
  cases other == slot <;> rfl

namespace Roster

variable {r kept : Roster} {worker : Nat}

theorem count_pop? (h : r.pop? = some (worker, kept)) (slot : Nat) :
    kept.workers.count slot + (worker == slot).toNat = r.workers.count slot := by
  obtain ⟨p, last, eq⟩ := Option.map_eq_some_iff.mp h
  obtain ⟨rfl, rfl⟩ := Prod.mk.inj eq
  obtain ⟨others, parts⟩ := List.getLast?_eq_some_iff.mp last
  rw [workers, workers, parts, List.dropLast_concat, List.map_append, List.count_append,
    List.map_singleton, count_cons_toNat]
  simp

theorem count_push (r : Roster) (worker now slot : Nat) :
    (r.push worker now).workers.count slot = r.workers.count slot + (worker == slot).toNat := by
  rw [workers_push, List.count_append, count_cons_toNat]
  simp

theorem count_sweep {expiry now tick next : Nat} {dismissed : List Nat}
    (h : r.sweep expiry now tick = .pass next dismissed kept) (slot : Nat) :
    kept.workers.count slot + dismissed.count slot = r.workers.count slot := by
  obtain ⟨-, -, evicted⟩ := sweep_eq_pass_iff.mp h
  have parts := congrArg (List.count slot) (evict_append r now expiry)
  rw [evicted, List.count_append, Nat.add_comm] at parts
  exact parts

theorem length_workers (r : Roster) : r.workers.length = r.size := List.length_map _

theorem size_sweep {expiry now tick next : Nat} {dismissed : List Nat}
    (h : r.sweep expiry now tick = .pass next dismissed kept) :
    kept.size + dismissed.length = r.size := by
  obtain ⟨-, -, evicted⟩ := sweep_eq_pass_iff.mp h
  have parts := congrArg List.length (evict_append r now expiry)
  rw [evicted, List.length_append, length_workers, length_workers, Nat.add_comm] at parts
  exact parts

theorem sublist_sweep {expiry now tick next : Nat} {dismissed : List Nat}
    (h : r.sweep expiry now tick = .pass next dismissed kept) : dismissed.Sublist r.workers := by
  obtain ⟨-, -, evicted⟩ := sweep_eq_pass_iff.mp h
  rw [← evict_append r now expiry, evicted]
  exact List.sublist_append_left ..

end Roster

namespace Channel

variable {τ : Type} {c d : Channel τ} {m : τ}

/-- A message is sent only into an empty channel, as a channel holds one message at most. -/
theorem send_eq_sent (h : c.send m = (.sent, d)) : c = {} ∧ d = { queue := [m] } := by
  obtain ⟨queue, connected⟩ := c
  cases connected with
  | false => cases h
  | true =>
    cases queue with
    | nil => exact ⟨rfl, (Prod.mk.inj h).2.symm⟩
    | cons _ _ => cases h

theorem send_eq_refused (h : c.send m = (.refused, d)) : c.connected = false := by
  obtain ⟨queue, connected⟩ := c
  cases connected with
  | false => rfl
  | true => cases queue <;> cases h

end Channel

namespace Slots

variable {τ : Type} {s t : Slots τ} {id : Nat} {m : τ}

def pending (s : Slots τ) (slot : Nat) : Nat := (s.channel slot).queue.length

/-- How often a slot is free, and once more if nobody is at the receiving end of its channel. -/
def unused (s : Slots τ) (slot : Nat) : Nat :=
  s.free.count slot + (!(s.channel slot).connected).toNat

theorem channel_of_le {slot : Nat} (h : s.allocated ≤ slot) :
    s.channel slot = { connected := false } := by
  have h : s.channels.length ≤ slot := h
  simp [channel, h]

theorem lt_allocated {slot : Nat} (h : (s.channel slot).connected = true) : slot < s.allocated := by
  apply Nat.lt_of_not_le
  intro outside
  rw [channel_of_le outside] at h
  cases h

theorem channel_setChannel (c : Channel τ) (h : id < s.allocated) (slot : Nat) :
    (s.setChannel id c).channel slot = if slot = id then c else s.channel slot := by
  split
  · rename_i same
    rw [same]
    exact channel_setChannel_self s id c h
  · rename_i other
    exact channel_setChannel_of_ne s c other

theorem unused_eq (h : s.free = t.free) {slot : Nat}
    (same : (s.channel slot).connected = (t.channel slot).connected) :
    s.unused slot = t.unused slot := by
  rw [unused, unused, h, same]

theorem channel_concat (s : Slots τ) (c : Channel τ) (slot : Nat) :
    ({ s with channels := s.channels ++ [c] } : Slots τ).channel slot =
      if slot = s.allocated then c else s.channel slot := by
  unfold channel allocated
  split
  · rename_i same
    simp [same]
  · rename_i other
    rcases Nat.lt_or_gt_of_ne other with before | after
    · simp [List.getElem?_append_left before]
    · rw [List.getD_eq_getElem?_getD, List.getElem?_eq_none (by simp; omega)]
      simp [Nat.le_of_lt after]

/-- The slot that is taken was free, or its channel is new. -/
theorem unused_take (h : s.take = (id, t)) (slot : Nat) :
    t.unused slot + (id == slot).toNat = s.unused slot := by
  unfold take at h
  split at h
  · rename_i free
    obtain ⟨rfl, rfl⟩ := Prod.mk.inj h
    rw [unused, unused, free, count_cons_toNat]
    change _ + (!(s.channel slot).connected).toNat + _ = _
    dsimp only
    omega
  · rename_i free
    obtain ⟨rfl, rfl⟩ := Prod.mk.inj h
    rw [unused, unused, channel_concat, free]
    split
    · rename_i same
      rw [same, channel_of_le (Nat.le_refl _)]
      simp
    · rename_i other
      simp [Ne.symm other]

theorem queue_take (h : s.take = (id, t)) (slot : Nat) :
    (t.channel slot).queue = (s.channel slot).queue := by
  unfold take at h
  split at h
  · obtain ⟨rfl, rfl⟩ := Prod.mk.inj h
    rfl
  · obtain ⟨rfl, rfl⟩ := Prod.mk.inj h
    rw [channel_concat]
    split
    · rename_i same
      rw [same, channel_of_le (Nat.le_refl _)]
    · rfl

theorem pending_take (h : s.take = (id, t)) (slot : Nat) : t.pending slot = s.pending slot :=
  congrArg List.length (queue_take h slot)

theorem send_eq_sent (h : s.send id m = (.sent, t)) :
    s.channel id = {} ∧ t = s.setChannel id { queue := [m] } := by
  obtain ⟨sent, rfl⟩ := Prod.mk.inj h
  obtain ⟨empty, eq⟩ := Channel.send_eq_sent (Prod.ext sent rfl)
  exact ⟨empty, congrArg _ eq⟩

theorem send_of_empty (h : s.channel id = {}) (m : τ) :
    s.send id m = (.sent, s.setChannel id { queue := [m] }) := by
  rw [send, h]
  rfl

theorem send_eq_refused (h : s.send id m = (.refused, t)) : (s.channel id).connected = false := by
  obtain ⟨refused, rfl⟩ := Prod.mk.inj h
  exact Channel.send_eq_refused (Prod.ext refused rfl)

theorem receive_eq_some (h : s.receive id = (some m, t)) :
    ∃ rest, (s.channel id).queue = m :: rest ∧
      t = s.setChannel id { s.channel id with queue := rest } := by
  obtain ⟨got, rfl⟩ := Prod.mk.inj h
  obtain ⟨rest, queue⟩ := List.head?_eq_some_iff.mp got
  exact ⟨rest, queue, by simp [queue]⟩

section SetChannel

variable {c : Channel τ}

theorem unused_setChannel (h : id < s.allocated) (same : c.connected = (s.channel id).connected)
    (slot : Nat) : (s.setChannel id c).unused slot = s.unused slot := by
  rw [unused, unused, free_setChannel, channel_setChannel c h]
  split
  · rename_i eq
    rw [eq, same]
  · rfl

theorem pending_setChannel (h : id < s.allocated) (slot : Nat) :
    (s.setChannel id c).pending slot = if slot = id then c.queue.length else s.pending slot := by
  rw [pending, channel_setChannel c h]
  split <;> rfl

end SetChannel

theorem send_spec (h : s.send id m = (.sent, t)) (slot : Nat) :
    t.unused slot = s.unused slot ∧ t.pending slot = s.pending slot + (id == slot).toNat := by
  obtain ⟨empty, rfl⟩ := send_eq_sent h
  have inside : id < s.allocated := lt_allocated (by rw [empty])
  refine ⟨unused_setChannel inside (by rw [empty]) slot, ?_⟩
  rw [pending_setChannel inside]
  split
  · rename_i same
    simp [same, pending, empty]
  · rename_i other
    simp [Ne.symm other]

theorem lt_allocated_of_pending (h : (s.channel id).queue ≠ []) : id < s.allocated := by
  apply Nat.lt_of_not_le
  intro outside
  rw [channel_of_le outside] at h
  exact h rfl

theorem receive_spec (h : s.receive id = (some m, t)) (slot : Nat) :
    t.unused slot = s.unused slot ∧ t.pending slot + (id == slot).toNat = s.pending slot := by
  obtain ⟨rest, queue, rfl⟩ := receive_eq_some h
  have inside : id < s.allocated := lt_allocated_of_pending (by simp [queue])
  refine ⟨unused_setChannel inside (by rfl) slot, ?_⟩
  rw [pending_setChannel inside]
  split
  · rename_i same
    simp [same, pending, queue]
  · rename_i other
    simp [Ne.symm other]

theorem setChannel_channel (s : Slots τ) (id : Nat) : s.setChannel id (s.channel id) = s := by
  obtain ⟨free, channels⟩ := s
  unfold setChannel channel
  congr 1
  apply List.ext_getElem?
  intro slot
  rw [List.getElem?_set]
  split
  · rename_i same
    cases same
    cases h : channels[id]? with
    | none => simpa using List.getElem?_eq_none_iff.mp h
    | some c =>
      obtain ⟨inside, eq⟩ := List.getElem?_eq_some_iff.mp h
      simp [inside, eq]
  · rfl

theorem put_of_empty (empty : s.pending id = 0) : s.put id = { s with free := id :: s.free } := by
  have drained : (s.channel id).drain = s.channel id := by
    rw [Channel.drain, ← List.length_eq_zero_iff.mp empty]
  rw [put, drained, setChannel_channel]

/-- A slot that is given back with an empty channel is free once more. -/
theorem put_spec (empty : s.pending id = 0) (slot : Nat) :
    (s.put id).unused slot = s.unused slot + (id == slot).toNat ∧
      (s.put id).pending slot = s.pending slot := by
  rw [put_of_empty empty]
  refine ⟨?_, rfl⟩
  rw [unused, unused, count_cons_toNat]
  change _ + (!(s.channel slot).connected).toNat = _
  omega

/-- A slot whose receiving end goes away is unused from then on. -/
theorem hangUp_spec (empty : s.channel id = {}) (slot : Nat) :
    (s.hangUp id).unused slot = s.unused slot + (id == slot).toNat ∧
      (s.hangUp id).pending slot = s.pending slot := by
  have inside : id < s.allocated := lt_allocated (by rw [empty])
  constructor
  · rw [hangUp, unused, unused, free_setChannel, channel_setChannel _ inside]
    split
    · rename_i same
      simp [same, empty, Channel.hangUp]
    · rename_i other
      simp [Ne.symm other]
  · rw [hangUp, pending_setChannel inside]
    split
    · rename_i same
      simp [same, pending, empty, Channel.hangUp]
    · rfl

end Slots

namespace Pool

variable {slots told : Slots (Message Nat)} {workers : List Nat}

/-- What is kept whenever one worker is told to stop is kept when several are. -/
theorem stopAll_keeps {β : Type} (view : Slots (Message Nat) → β)
    (keeps : ∀ s worker, view (s.send worker .stop).2 = view s)
    (stopped : stopAll slots workers = some told) : view told = view slots := by
  induction workers generalizing slots with
  | nil =>
    cases stopped
    rfl
  | cons worker rest ih =>
    have kept := keeps slots worker
    unfold stopAll at stopped
    split at stopped
    · cases stopped
    · rename_i delivery next _ sent
      rw [sent] at kept
      exact (ih stopped).trans kept

theorem free_stopAll (stopped : stopAll slots workers = some told) : told.free = slots.free :=
  stopAll_keeps Slots.free (fun _ _ => rfl) stopped

theorem allocated_stopAll (stopped : stopAll slots workers = some told) :
    told.allocated = slots.allocated :=
  stopAll_keeps Slots.allocated (fun _ _ => Slots.allocated_setChannel ..) stopped

/-- Workers with empty channels can all be told to stop, and each is told once. -/
theorem stopAll_of_empty (distinct : workers.Nodup)
    (empty : ∀ worker ∈ workers, slots.channel worker = {}) :
    ∃ told, stopAll slots workers = some told ∧ told.free = slots.free ∧
      ∀ slot, told.channel slot =
        if slot ∈ workers then { queue := [.stop] } else slots.channel slot := by
  -- The channels still to be told stay empty only because no worker is named twice.
  induction workers generalizing slots with
  | nil => exact ⟨slots, rfl, rfl, fun slot => by simp⟩
  | cons worker rest ih =>
    obtain ⟨absent, distinct⟩ := List.nodup_cons.mp distinct
    have first := empty worker (by simp)
    have inside : worker < slots.allocated := Slots.lt_allocated (by rw [first])
    have channel := Slots.channel_setChannel { queue := [Message.stop (τ := Nat)] } inside
    obtain ⟨told, stopped, free, channels⟩ :=
      ih distinct fun other member => by
        have different : other ≠ worker := fun same => absent (same ▸ member)
        rw [channel, if_neg different]
        exact empty other (List.mem_cons_of_mem _ member)
    refine ⟨told, ?_, free, fun slot => ?_⟩
    · rw [stopAll, Slots.send_of_empty first]
      exact stopped
    · rw [channels, channel]
      by_cases later : slot ∈ rest <;> by_cases same : slot = worker <;> simp [later, same]

theorem stopAll_spec (stopped : stopAll slots workers = some told) (distinct : workers.Nodup)
    (empty : ∀ worker ∈ workers, slots.channel worker = {}) (slot : Nat) :
    told.unused slot = slots.unused slot ∧
      told.pending slot = slots.pending slot + workers.count slot := by
  obtain ⟨_, again, free, channels⟩ := stopAll_of_empty distinct empty
  cases stopped.symm.trans again
  have channel := channels slot
  by_cases member : slot ∈ workers
  · rw [if_pos member] at channel
    have before := empty slot member
    refine ⟨Slots.unused_eq free (by rw [channel, before]), ?_⟩
    rw [Slots.pending, Slots.pending, channel, before, distinct.count, if_pos member]
    rfl
  · rw [if_neg member] at channel
    refine ⟨Slots.unused_eq free (by rw [channel]), ?_⟩
    rw [Slots.pending, Slots.pending, channel, List.count_eq_zero_of_not_mem member]
    rfl

end Pool
end WorkerPool
