import WorkerPool.Proofs.Pool.Slots

/-!
# Slots taken and given back

Whoever has taken a slot holds it until giving it back, and only a slot that is held is given back or
has messages sent and received on it. In every such history the slots held and those free are all there
are, each once. A new one comes when none is free, so there are as many as were ever held together. The
one that is taken has an empty channel, whatever was left in it, as it was emptied when given back.
-/

namespace WorkerPool

theorem Channel.connected_send {τ : Type} (c : Channel τ) (m : τ) :
    (c.send m).2.connected = c.connected := by
  unfold send
  split
  · rfl
  · split <;> rfl

namespace Slots

variable {τ : Type} {s : Slots τ} {id : Nat} {rest : List Nat}

theorem take_of_free (h : s.free = id :: rest) : s.take = (id, { s with free := rest }) := by
  rw [take, h]

theorem take_of_none_free (h : s.free = []) :
    s.take = (s.allocated, { s with channels := s.channels ++ [{}] }) := by
  rw [take, h]

end Slots

/-- Slots with those that are held, the one taken last first. -/
structure Custody (τ : Type) where
  slots : Slots τ := {}
  held : List Nat := []
  deriving DecidableEq, Repr

namespace Custody

inductive Op (τ : Type)
  | take
  | put (id : Nat)
  | send (id : Nat) (m : τ)
  | receive (id : Nat)
  deriving DecidableEq, Repr

variable {τ : Type}

def step (c : Custody τ) : Op τ → Option (Custody τ)
  | .take => some ⟨c.slots.take.2, c.slots.take.1 :: c.held⟩
  | .put id => if id ∈ c.held then some ⟨c.slots.put id, c.held.erase id⟩ else none
  | .send id m => if id ∈ c.held then some { c with slots := (c.slots.send id m).2 } else none
  | .receive id => if id ∈ c.held then some { c with slots := (c.slots.receive id).2 } else none

def run (c : Custody τ) : List (Op τ) → Option (Custody τ)
  | [] => some c
  | op :: rest => (c.step op).bind (·.run rest)

/-- How many slots are held at first and after each of the operations. -/
def counts (c : Custody τ) : List (Op τ) → List Nat
  | [] => [c.held.length]
  | op :: rest => c.held.length :: (c.step op).elim [] (·.counts rest)

/-- Whether each of the free slots was given back after those behind it. -/
def Stacked (past : List (Op τ)) (free : List Nat) : Prop :=
  ∀ id rest, id :: rest <:+ free → ∃ before after, past = before ++ .put id :: after ∧
    ∀ other ∈ id :: rest, .put other ∉ after

structure Kept (past : List (Op τ)) (c : Custody τ) : Prop where
  parts : (c.held ++ c.slots.free).Perm (List.range c.slots.allocated)
  listening : ∀ id ∈ c.held, (c.slots.channel id).connected = true
  emptied : ∀ id ∈ c.slots.free, c.slots.channel id = {}
  stacked : Stacked past c.slots.free

variable {past ops : List (Op τ)} {op : Op τ} {c d : Custody τ} {id : Nat} {free : List Nat}

theorem Stacked.extend (h : Stacked past free) (other : ∀ id ∈ free, op ≠ .put id) :
    Stacked (past ++ [op]) free := by
  intro id rest suffix
  obtain ⟨before, after, rfl, later⟩ := h id rest suffix
  refine ⟨before, after ++ [op], by simp, ?_⟩
  intro id member given
  rcases List.mem_append.mp given with early | last
  · exact later id member early
  · exact other id (suffix.subset member) (List.mem_singleton.mp last).symm

theorem Stacked.tail (h : Stacked past (id :: free)) : Stacked past free :=
  fun first rest suffix => h first rest (suffix.trans (List.suffix_cons id free))

theorem Stacked.put (h : Stacked past free) (absent : id ∉ free) :
    Stacked (past ++ [.put id]) (id :: free) := by
  intro first rest suffix
  rcases List.suffix_cons_iff.mp suffix with all | behind
  · obtain ⟨rfl, rfl⟩ := List.cons.inj all
    exact ⟨past, [], rfl, fun _ _ => List.not_mem_nil⟩
  · apply h.extend _ first rest behind
    rintro other member same
    cases same
    exact absent member

namespace Kept

theorem nothing : Kept [] ({} : Custody τ) :=
  ⟨.nil, nofun, nofun, fun _ _ suffix => by cases List.suffix_nil.mp suffix⟩

theorem total (h : Kept past c) : c.held.length + c.slots.free.length = c.slots.allocated := by
  rw [← List.length_append, h.parts.length_eq, List.length_range]

theorem distinct (h : Kept past c) : (c.held ++ c.slots.free).Nodup :=
  h.parts.nodup_iff.mpr List.nodup_range

theorem lt_allocated (h : Kept past c) (member : id ∈ c.held) : id < c.slots.allocated :=
  Slots.lt_allocated (h.listening id member)

theorem not_mem_free (h : Kept past c) (member : id ∈ c.held) : id ∉ c.slots.free :=
  fun free => (List.nodup_append.mp h.distinct).2.2 id member id free rfl

theorem take (h : Kept past c) : Kept (past ++ [.take]) ⟨c.slots.take.2, c.slots.take.1 :: c.held⟩ := by
  obtain ⟨parts, listening, emptied, stacked⟩ := h
  -- Either there is one slot more than before, or the first of the free ones changes hands.
  cases free : c.slots.free with
  | nil =>
    rw [free, List.append_nil] at parts
    rw [Slots.take_of_none_free free]
    refine ⟨?_, ?_, ?_, ?_⟩
    · have more : ({ c.slots with channels := c.slots.channels ++ [{}] } : Slots τ).allocated =
          c.slots.allocated + 1 := List.length_append
      rw [more, List.range_succ, free, List.append_nil]
      exact (parts.cons c.slots.allocated).trans (List.perm_append_singleton _ _).symm
    · intro id member
      rw [Slots.channel_concat]
      split
      · rfl
      · rename_i old
        exact listening id ((List.mem_cons.mp member).resolve_left old)
    · intro id member
      rw [free] at member
      cases member
    · rw [free]
      intro id rest suffix
      cases List.suffix_nil.mp suffix
  | cons id rest =>
    rw [free] at parts emptied stacked
    rw [Slots.take_of_free free]
    refine ⟨List.perm_middle.symm.trans parts, ?_, ?_, ?_⟩
    · intro other member
      rcases List.mem_cons.mp member with rfl | held
      · exact congrArg (·.connected) (emptied other List.mem_cons_self)
      · exact listening other held
    · intro other member
      exact emptied other (List.mem_cons_of_mem id member)
    · exact stacked.tail.extend fun _ _ => nofun

theorem channel_take (h : Kept past c) : c.slots.take.2.channel c.slots.take.1 = {} := by
  cases free : c.slots.free with
  | nil => rw [Slots.take_of_none_free free, Slots.channel_concat, if_pos rfl]
  | cons id rest =>
    rw [Slots.take_of_free free]
    exact h.emptied id (free ▸ List.mem_cons_self)

theorem extend (h : Kept past c) (other : ∀ id ∈ c.slots.free, op ≠ .put id) : Kept (past ++ [op]) c :=
  ⟨h.parts, h.listening, h.emptied, h.stacked.extend other⟩

theorem setChannel (h : Kept past c) (member : id ∈ c.held) {channel : Channel τ}
    (same : channel.connected = (c.slots.channel id).connected) :
    Kept past { c with slots := c.slots.setChannel id channel } := by
  have channels := Slots.channel_setChannel channel (h.lt_allocated member)
  refine ⟨?_, ?_, ?_, h.stacked⟩
  · rw [Slots.allocated_setChannel]
    exact h.parts
  · intro slot held
    rw [channels]
    split
    · rw [same]
      exact h.listening id member
    · exact h.listening slot held
  · intro slot free
    have different : slot ≠ id := by
      rintro rfl
      exact h.not_mem_free member free
    rw [channels, if_neg different]
    exact h.emptied slot free

theorem giveBack (h : Kept past c) (member : id ∈ c.held) (empty : c.slots.channel id = {}) :
    Kept (past ++ [.put id]) ⟨{ c.slots with free := id :: c.slots.free }, c.held.erase id⟩ := by
  refine ⟨?_, ?_, ?_, h.stacked.put (h.not_mem_free member)⟩
  · calc c.held.erase id ++ id :: c.slots.free
      List.Perm _ (id :: c.held.erase id ++ c.slots.free) := List.perm_middle
      List.Perm _ (c.held ++ c.slots.free) := (List.perm_cons_erase member).symm.append_right _
      List.Perm _ (List.range c.slots.allocated) := h.parts
  · intro slot held
    exact h.listening slot (List.mem_of_mem_erase held)
  · intro slot free
    rcases List.mem_cons.mp free with rfl | free
    · exact empty
    · exact h.emptied slot free

theorem put (h : Kept past c) (member : id ∈ c.held) :
    Kept (past ++ [.put id]) ⟨c.slots.put id, c.held.erase id⟩ := by
  have drained : Kept past { c with slots := c.slots.setChannel id (c.slots.channel id).drain } :=
    h.setChannel member rfl
  have empty : (c.slots.setChannel id (c.slots.channel id).drain).channel id = {} := by
    rw [Slots.channel_setChannel_self _ _ _ (h.lt_allocated member), Channel.drain,
      h.listening id member]
  exact drained.giveBack member empty

theorem step (h : Kept past c) (stepped : c.step op = some d) : Kept (past ++ [op]) d := by
  cases op with
  | take =>
    cases stepped
    exact h.take
  | put id =>
    obtain ⟨member, eq⟩ := Option.ite_none_right_eq_some.mp stepped
    cases eq
    exact h.put member
  | send id m =>
    obtain ⟨member, eq⟩ := Option.ite_none_right_eq_some.mp stepped
    cases eq
    have sent : Kept past { c with slots := (c.slots.send id m).2 } :=
      h.setChannel member (Channel.connected_send _ m)
    exact sent.extend fun _ _ => nofun
  | receive id =>
    obtain ⟨member, eq⟩ := Option.ite_none_right_eq_some.mp stepped
    cases eq
    have received : Kept past { c with slots := (c.slots.receive id).2 } := h.setChannel member rfl
    exact received.extend fun _ _ => nofun

theorem run (h : Kept past c) (ran : c.run ops = some d) : Kept (past ++ ops) d := by
  induction ops generalizing past c with
  | nil =>
    cases ran
    rwa [List.append_nil]
  | cons op rest ih =>
    obtain ⟨e, stepped, ran⟩ := Option.bind_eq_some_iff.mp ran
    rw [List.append_cons]
    exact ih (h.step stepped) ran

end Kept

theorem allocated_step (stepped : c.step op = some d) :
    d.slots.allocated = c.slots.allocated ∨
      d.slots.allocated = c.slots.allocated + 1 ∧ d.slots.free = [] := by
  cases op with
  | take =>
    cases stepped
    cases free : c.slots.free with
    | nil =>
      rw [Slots.take_of_none_free free]
      exact .inr ⟨List.length_append, free⟩
    | cons id rest =>
      rw [Slots.take_of_free free]
      exact .inl rfl
  | put id | send id m | receive id =>
    obtain ⟨-, eq⟩ := Option.ite_none_right_eq_some.mp stepped
    cases eq
    exact .inl (Slots.allocated_setChannel ..)

/-- A slot is new only when all are held, so there are no more than are held then. -/
theorem Kept.allocated_eq_max (h : Kept past c) (stepped : c.step op = some d) :
    d.slots.allocated = max c.slots.allocated d.held.length := by
  have before := h.total
  have after := (h.step stepped).total
  rcases allocated_step stepped with same | ⟨more, free⟩
  · omega
  · rw [free, List.length_nil] at after
    omega

theorem counts_eq_cons (c : Custody τ) (ops : List (Op τ)) :
    ∃ later, c.counts ops = c.held.length :: later := by
  cases ops <;> exact ⟨_, rfl⟩

theorem foldl_max_counts {a b : Nat} (same : max a c.held.length = max b c.held.length) :
    (c.counts ops).foldl max a = (c.counts ops).foldl max b := by
  obtain ⟨later, counts⟩ := c.counts_eq_cons ops
  rw [counts, List.foldl_cons, List.foldl_cons, same]

theorem Kept.foldl_max_counts (h : Kept past c) (ran : c.run ops = some d) :
    (c.counts ops).foldl max c.slots.allocated = d.slots.allocated := by
  have within : c.held.length ≤ c.slots.allocated := Nat.le.intro h.total
  induction ops generalizing past c with
  | nil =>
    cases ran
    exact Nat.max_eq_left within
  | cons op rest ih =>
    obtain ⟨e, stepped, ran⟩ := Option.bind_eq_some_iff.mp ran
    have peak := h.allocated_eq_max stepped
    have within' : e.held.length ≤ e.slots.allocated := Nat.le.intro (h.step stepped).total
    calc (c.counts (op :: rest)).foldl max c.slots.allocated
      _ = (e.counts rest).foldl max (max c.slots.allocated c.held.length) := by
        rw [counts, stepped, List.foldl_cons, Option.elim_some]
      _ = (e.counts rest).foldl max e.slots.allocated :=
        Custody.foldl_max_counts (by omega)
      _ = d.slots.allocated := ih (h.step stepped) ran within'

/-- The slots held and those free are all that were ever allocated, each once, and as many as
were ever held together. The next one to be taken has an empty channel, and it is new if none is free,
and else that which was given back last of those free. -/
theorem last_in_first_out (ran : ({} : Custody τ).run ops = some c) :
    (c.held ++ c.slots.free).Perm (List.range c.slots.allocated) ∧
      (({} : Custody τ).counts ops).max? = some c.slots.allocated ∧
      c.slots.take.2.channel c.slots.take.1 = {} ∧
      (c.slots.free = [] → c.slots.take.1 = c.slots.allocated ∧
        c.slots.take.2.allocated = c.slots.allocated + 1) ∧
      ∀ id rest, c.slots.free = id :: rest →
        c.slots.take = (id, { c.slots with free := rest }) ∧
        ∃ before after, ops = before ++ .put id :: after ∧
          ∀ other ∈ c.slots.free, .put other ∉ after := by
  have kept : Kept ops c := Kept.nothing.run ran
  have peak := Kept.nothing.foldl_max_counts ran
  refine ⟨kept.parts, ?_, kept.channel_take, ?_, ?_⟩
  · obtain ⟨later, counts⟩ := ({} : Custody τ).counts_eq_cons ops
    rw [counts, List.foldl_cons] at peak
    rw [counts, List.max?_cons']
    exact congrArg some peak
  · intro none
    rw [Slots.take_of_none_free none]
    exact ⟨rfl, List.length_append⟩
  · intro id rest free
    refine ⟨Slots.take_of_free free, ?_⟩
    rw [free]
    exact kept.stacked id rest (free ▸ List.suffix_rfl)

theorem last_in_first_out_of_two :
    ∃ c, ({} : Custody Nat).run [.take, .take, .send 0 7, .put 1, .put 0] = some c ∧
      (c.held ++ c.slots.free).Perm (List.range 2) ∧ c.slots.take.1 = 0 ∧
      c.slots.take.2.channel 0 = {} := by
  have ran : ({} : Custody Nat).run [.take, .take, .send 0 7, .put 1, .put 0] = some _ := rfl
  obtain ⟨parts, -, emptied, -, -⟩ := last_in_first_out ran
  exact ⟨_, ran, parts, rfl, emptied⟩

end Custody
end WorkerPool
