import WorkerPool.Proofs.Pool.Slots

/-!
# Messages in channels

How many messages of a kind are in the channels of all slots together, and how the operations on slots
change that number. Where a channel is empty, emptying it loses nothing. A task is queued as often as
it is in the channels.
-/

namespace WorkerPool

theorem countP_flatMap_set {β γ : Type} (f : β → List γ) {l : List β} {i : Nat} {b : β}
    (h : l[i]? = some b) (c : β) (kind : γ → Bool) :
    ((l.set i c).flatMap f).countP kind + (f b).countP kind =
      (l.flatMap f).countP kind + (f c).countP kind := by
  induction l generalizing i with
  | nil => simp at h
  | cons d l ih =>
    cases i with
    | zero =>
      obtain rfl : d = b := by simpa using h
      simp only [List.set_cons_zero, List.flatMap_cons, List.countP_append]
      omega
    | succ i =>
      have := ih (i := i) (by simpa using h)
      simp only [List.set_cons_succ, List.flatMap_cons, List.countP_append]
      omega

theorem countP_singleton_toNat {γ : Type} (kind : γ → Bool) (m : γ) :
    [m].countP kind = (kind m).toNat := by
  rw [List.countP_cons, List.countP_nil, Nat.zero_add]
  cases kind m <;> rfl

def Message.isRun {τ : Type} : Message τ → Bool
  | .run _ => true
  | .stop => false

def Message.isStop {τ : Type} : Message τ → Bool
  | .run _ => false
  | .stop => true

theorem Message.run_beq (call task : Nat) : (Message.run call == Message.run task) = (call == task) := by
  by_cases same : call = task
  · simp [same]
  · rw [beq_false_of_ne same]
    simpa using same

namespace Slots

variable {s t : Slots (Message Nat)} {id task : Nat} {m : Message Nat} {c : Channel (Message Nat)}

/-- Number of messages of a kind in the channels of all slots. -/
def messages (s : Slots (Message Nat)) (kind : Message Nat → Bool) : Nat :=
  (s.channels.flatMap (·.queue)).countP kind

/-- How often a task is in the channels of all slots. -/
def queued (s : Slots (Message Nat)) (task : Nat) : Nat :=
  (s.channels.flatMap (·.queue)).count (.run task)

theorem getElem?_channels (h : id < s.allocated) : s.channels[id]? = some (s.channel id) := by
  have h : id < s.channels.length := h
  simp [channel, h]

theorem messages_setChannel (h : id < s.allocated) (c : Channel (Message Nat))
    (kind : Message Nat → Bool) :
    (s.setChannel id c).messages kind + (s.channel id).queue.countP kind =
      s.messages kind + c.queue.countP kind :=
  countP_flatMap_set _ (getElem?_channels h) c kind

theorem messages_take (h : s.take = (id, t)) (kind : Message Nat → Bool) :
    t.messages kind = s.messages kind := by
  unfold take at h
  split at h
  · obtain ⟨-, rfl⟩ := Prod.mk.inj h
    rfl
  · obtain ⟨-, rfl⟩ := Prod.mk.inj h
    simp [messages]

theorem messages_send (h : s.send id m = (.sent, t)) (kind : Message Nat → Bool) :
    t.messages kind = s.messages kind + (kind m).toNat := by
  obtain ⟨empty, rfl⟩ := send_eq_sent h
  have set := messages_setChannel (lt_allocated (by rw [empty])) { queue := [m] } kind
  rw [empty, countP_singleton_toNat] at set
  exact set

theorem messages_receive (h : s.receive id = (some m, t)) (kind : Message Nat → Bool) :
    t.messages kind + (kind m).toNat = s.messages kind := by
  obtain ⟨rest, queue, rfl⟩ := receive_eq_some h
  have inside : id < s.allocated := lt_allocated_of_pending (by simp [queue])
  have set := messages_setChannel inside { s.channel id with queue := rest } kind
  rw [queue] at set
  have parts : (m :: rest).countP kind = (kind m).toNat + rest.countP kind := by
    rw [← countP_singleton_toNat, ← List.countP_append]
    rfl
  rw [parts] at set
  change _ = _ + rest.countP kind at set
  omega

theorem messages_hangUp (empty : s.channel id = {}) (kind : Message Nat → Bool) :
    (s.hangUp id).messages kind = s.messages kind := by
  have set := messages_setChannel (lt_allocated (by rw [empty])) (s.channel id).hangUp kind
  rw [empty] at set
  exact set

theorem messages_put (empty : s.pending id = 0) (kind : Message Nat → Bool) :
    (s.put id).messages kind = s.messages kind := by
  rw [put_of_empty empty]
  rfl

/-- A worker that is told to stop loses no task. -/
theorem messages_send_stop {kind : Message Nat → Bool} (others : kind .stop = false)
    (s : Slots (Message Nat)) (id : Nat) : (s.send id .stop).2.messages kind = s.messages kind := by
  have same : ((s.channel id).send .stop).2.queue.countP kind = (s.channel id).queue.countP kind := by
    unfold Channel.send
    split
    · rfl
    · split
      · simp [others]
      · rfl
  change (s.setChannel id ((s.channel id).send .stop).2).messages kind = s.messages kind
  by_cases inside : id < s.allocated
  · have set := messages_setChannel inside ((s.channel id).send .stop).2 kind
    omega
  · have outside : s.channels.length ≤ id := Nat.le_of_not_lt inside
    rw [setChannel, List.set_eq_of_length_le outside]

theorem queued_setChannel_empty (h : id < s.allocated) (task : Nat) :
    (s.setChannel id {}).queued task + (s.channel id).queue.count (.run task) = s.queued task :=
  messages_setChannel h {} _

theorem queued_pos_of_mem (member : .run task ∈ (s.channel id).queue) : 0 < s.queued task := by
  have inside : id < s.allocated := lt_allocated_of_pending (List.ne_nil_of_mem member)
  have emptied := queued_setChannel_empty inside task
  have here := List.count_pos_iff.mpr member
  omega

theorem exists_mem_of_queued_pos (h : 0 < s.queued task) :
    ∃ slot, .run task ∈ (s.channel slot).queue := by
  obtain ⟨c, there, member⟩ := List.mem_flatMap.mp (List.count_pos_iff.mp h)
  obtain ⟨slot, found⟩ := List.mem_iff_getElem?.mp there
  have channel : s.channel slot = c := by simp [Slots.channel, found]
  exact ⟨slot, channel ▸ member⟩

/-- A task that is queued once is in one channel. -/
theorem eq_of_mem_of_queued_le {other : Nat} (h : s.queued task ≤ 1)
    (here : .run task ∈ (s.channel id).queue) (there : .run task ∈ (s.channel other).queue) :
    other = id := by
  apply Classical.byContradiction
  intro different
  have inside : id < s.allocated := lt_allocated_of_pending (List.ne_nil_of_mem here)
  have emptied := queued_setChannel_empty inside task
  have here := List.count_pos_iff.mpr here
  rw [← channel_setChannel_of_ne s {} different] at there
  have there := queued_pos_of_mem there
  omega

end Slots

namespace Pool

variable {slots told : Slots (Message Nat)} {workers : List Nat} {kind : Message Nat → Bool}

theorem messages_stopAll (others : kind .stop = false) (stopped : stopAll slots workers = some told) :
    told.messages kind = slots.messages kind :=
  stopAll_keeps (·.messages kind) (Slots.messages_send_stop others) stopped

/-- Workers with empty channels that are told to stop have one message more each. -/
theorem messages_stopAll_of_empty (distinct : workers.Nodup)
    (empty : ∀ worker ∈ workers, slots.channel worker = {})
    (stopped : stopAll slots workers = some told) (kind : Message Nat → Bool) :
    told.messages kind = slots.messages kind + workers.length * (kind .stop).toNat := by
  induction workers generalizing slots with
  | nil =>
    cases stopped
    simp
  | cons worker rest ih =>
    obtain ⟨absent, distinct⟩ := List.nodup_cons.mp distinct
    have sent := Slots.send_of_empty (empty worker (.head _)) .stop
    rw [stopAll, sent] at stopped
    have first := Slots.messages_send sent kind
    have others : ∀ other ∈ rest, (slots.setChannel worker { queue := [.stop] }).channel other = {} := by
      intro other member
      have different : other ≠ worker := fun same => absent (same ▸ member)
      rw [Slots.channel_setChannel_of_ne slots _ different]
      exact empty other (.tail _ member)
    rw [ih distinct others stopped, first, List.length_cons, Nat.add_one_mul]
    omega

end Pool
end WorkerPool
