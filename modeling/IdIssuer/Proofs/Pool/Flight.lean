import IdIssuer.Proofs.Buffer.Flight
import IdIssuer.Proofs.Pool.Played

/-!
# Prefetches that wait

A buffer stands in the queue as often as its flag says: once while a prefetch that it has started
waits, and not at all otherwise (`Played.isWaiting`). Whatever takes a prefetch from the queue
therefore finds the flag of its buffer up, so that the queue is as long as there are buffers with
the flag up (`Played.isCounted`). If no buffer queues its prefetches, the queue stays empty
(`Played.isPrompt`).
-/

namespace IdIssuer

namespace Pool

/-- The move ends a prefetch past the queue. -/
def Move.skipsQueue : Move → Bool
  | operate _ .finish | operate _ .drop => true
  | _ => false

/-- The number of prefetches of a buffer that are under way, as its flag has it. -/
def underWay (p : Pool) (id : BufferId) : ℕ := (p.buffer? id).elim 0 (·.loading.toNat)

/-- The queue has every buffer as often as its flag says. -/
def IsWaiting (p : Pool) : Prop := ∀ id, p.pending.count id = p.underWay id

variable {p p' : Pool} {id : BufferId} {b : Buffer} {move : Move}

theorem underWay_of_buffer? (h : p.buffer? id = some b) : p.underWay id = b.loading.toNat := by
  rw [underWay, h, Option.elim_some]

theorem underWay_of_missing (h : p.buffer? id = none) : p.underWay id = 0 := by
  rw [underWay, h, Option.elim_none]

/-- Whatever takes a buffer from the queue finds its flag up. -/
theorem IsWaiting.loading {pending : List BufferId} (waiting : p.IsWaiting)
    (hb : p.buffer? id = some b) (hp : p.pending = id :: pending) : b.loading = true := by
  have hcount := waiting id
  rw [underWay_of_buffer? hb, hp, List.count_cons_self] at hcount
  cases hl : b.loading with
  | true => rfl
  | false =>
    rw [hl, Bool.toNat_false] at hcount
    omega

theorem underWay_settle {α : Type} (hb : p.buffer? id = some b) (turn : Turn α) (id' : BufferId) :
    (p.settle id turn).underWay id' =
      if id = id' then turn.buffer.loading.toNat else p.underWay id' := by
  rw [underWay, buffer?_settle, hb]
  split_ifs <;> rfl

theorem count_pending_settle {α : Type} (p : Pool) (id : BufferId) (turn : Turn α)
    (id' : BufferId) :
    (p.settle id turn).pending.count id' =
      p.pending.count id' + if id = id' then turn.queued.toNat else 0 := by
  simp only [settle, tell, put]
  cases turn.queued with
  | false => simp
  | true => simp [List.count_append, List.count_singleton]

theorem starts_of_not_skips {op : Operation} (hm : (Move.operate id op).skipsQueue = false)
    (b : Buffer) (σ : Store) : b.Starts (b.operate σ op) := by
  refine b.starts_operate σ ?_ ?_
  · rintro rfl
    cases hm
  · rintro rfl
    cases hm

/-- An operation that is asked for puts its buffer in the queue just when it raises the flag. -/
theorem isWaiting_asked {op : Operation} (hb : p.buffer? id = some b)
    (hm : (Move.operate id op).skipsQueue = false) (hi : p.IsWaiting) :
    (p.settle id (b.operate p.store op)).IsWaiting := by
  intro id'
  have hstarts := starts_of_not_skips hm b p.store
  unfold Buffer.Starts at hstarts
  have hcount := hi id'
  rw [count_pending_settle, underWay_settle hb]
  by_cases hid : id = id'
  · subst hid
    rw [underWay_of_buffer? hb] at hcount
    rw [if_pos rfl, if_pos rfl]
    omega
  · rw [if_neg hid, if_neg hid]
    omega

/-- What takes a buffer from the head of the queue lowers its flag. -/
theorem isWaiting_resolved {op : Operation} {pending : List BufferId} (hb : p.buffer? id = some b)
    (hp : p.pending = id :: pending) (hop : op = .finish ∨ op = .drop) (hi : p.IsWaiting) :
    ({ p with pending }.settle id (b.operate p.store op)).IsWaiting := by
  intro id'
  have hb' : { p with pending }.buffer? id = some b := hb
  have hflag := b.ends_operate p.store hop
  have hcount := hi id'
  rw [hp, List.count_cons] at hcount
  rw [count_pending_settle, underWay_settle hb', hflag.1, hflag.2]
  by_cases hid : id = id'
  · subst hid
    have hle := Bool.toNat_le b.loading
    rw [underWay_of_buffer? hb] at hcount
    simp only [beq_self_eq_true, if_true, Bool.toNat_false] at hcount ⊢
    omega
  · have hunder : { p with pending }.underWay id' = p.underWay id' := rfl
    simp only [beq_iff_eq, hid, if_false, hunder] at hcount ⊢
    exact hcount

theorem Played.isWaiting (h : Played p move p') (hm : move.skipsQueue = false)
    (hi : p.IsWaiting) : p'.IsWaiting := by
  have still (hpending : p'.pending = p.pending) (hop : move.operation? p = none) :
      p'.IsWaiting := by
    intro id
    rw [hpending, hi id]
    rcases h.buffer id with
      ⟨b, op, hop', -⟩ | ⟨config, spawner, g, -, hb, -, -, -, he, -⟩ | ⟨he, -⟩
    · rw [hop] at hop'
      cases hop'
    · rw [underWay_of_missing hb, underWay_of_buffer? he]
      rfl
    · rw [underWay, underWay, he]
  cases h with
  | @operated move id op b pending hop hb hq =>
    rcases hq with ⟨rfl, rfl⟩ | ⟨hp, hop'⟩
    · exact isWaiting_asked hb hm hi
    · exact isWaiting_resolved hb hp hop' hi
  | created ha hv => exact still rfl rfl
  | refused ha => exact still rfl rfl
  | fetched tag => exact still rfl rfl
  | requested r => exact still rfl rfl
  | @idle move pending log hc hop hq =>
    intro id
    have hcount := hi id
    rcases hq with rfl | ⟨id', hp, hb⟩
    · exact hcount
    · rw [hp, List.count_cons] at hcount
      by_cases hid : id' = id
      · subst hid
        rw [underWay_of_missing hb] at hcount
        simp at hcount
      · have hunder : ({ p with pending, log } : Pool).underWay id = p.underWay id := rfl
        simp only [beq_iff_eq, hid, if_false, hunder] at hcount ⊢
        exact hcount

theorem isWaiting_new (σ : Store) : (Pool.new σ).IsWaiting := fun _ => rfl

theorem isWaiting_plays {moves : List Move}
    (hm : ∀ d ∈ p.deeds moves, d.move.skipsQueue = false) (start : p.IsWaiting) :
    (p.plays moves).IsWaiting := by
  refine deeds_induction (I := fun _ q => q.IsWaiting) start ?_
  intro past d h hi
  exact (d.pool.played d.move).isWaiting (hm d (mem_of_snoc h)) hi

theorem isWaiting_before {moves : List Move} {past : List Deed} {d : Deed}
    (hm : ∀ d ∈ p.deeds moves, d.move.skipsQueue = false) (start : p.IsWaiting)
    (h : past ++ [d] <+: p.deeds moves) : d.pool.IsWaiting := by
  refine deeds_induction_before (I := fun _ q => q.IsWaiting) start ?_ h
  intro past' d' h' hi
  exact (d'.pool.played d'.move).isWaiting (hm d' (mem_of_snoc h')) hi

theorem IsWaiting.count_le_one (waiting : p.IsWaiting) (id : BufferId) :
    p.pending.count id ≤ 1 := by
  rw [waiting id, underWay]
  cases p.buffer? id with
  | none => exact Nat.zero_le 1
  | some b => exact Bool.toNat_le b.loading

/-! ## The end of a prefetch -/

/-- How a prefetch that has waited may leave its buffer. -/
inductive Resolves (b : Buffer) : Buffer → Prop where
  | finished (σ : Store) : Resolves b (b.finishPrefetch σ).buffer
  | dropped : Resolves b b.dropPrefetch

/-- Whatever takes a prefetch from the queue leaves the buffer as it is, or ends its prefetch. -/
theorem Played.resolved (h : Played p move p') (hm : move = .finish ∨ move = .drop)
    (id : BufferId) :
    p'.buffer? id = p.buffer? id ∧ p'.pending.count id ≤ p.pending.count id ∨
      ∃ b b', p.buffer? id = some b ∧ p'.buffer? id = some b' ∧ Resolves b b' ∧
        p.pending.count id = p'.pending.count id + 1 := by
  cases h with
  | @operated move id₀ op b pending hop hb hq =>
    rcases hq with ⟨-, rfl⟩ | ⟨hp, hop'⟩
    · rcases hm with hm | hm <;> cases hm
    have hb' : { p with pending }.buffer? id₀ = some b := hb
    rw [buffer?_settle, count_pending_settle, (b.ends_operate p.store hop').2, hp, hb']
    by_cases hid : id₀ = id
    · subst hid
      have hr : Resolves b (b.operate p.store op).buffer := by
        rcases hop' with rfl | rfl
        · exact .finished p.store
        · exact .dropped
      exact .inr ⟨b, _, hb, if_pos rfl, hr, by simp⟩
    · exact .inl ⟨if_neg hid, by simp [hid]⟩
  | @idle move pending log hc hop hq =>
    refine .inl ⟨rfl, ?_⟩
    rcases hq with rfl | ⟨id', hp, -⟩
    · exact Nat.le_refl _
    · rw [hp]
      exact List.count_le_count_cons
  | created | refused | fetched | requested => rcases hm with hm | hm <;> cases hm

/-- Running or giving up the prefetches in the queue ends at most one of each buffer, and does
nothing else to it. -/
theorem buffer?_resolved {moves : List Move} (waiting : p.IsWaiting)
    (hm : ∀ move ∈ moves, move = .finish ∨ move = .drop) (hb : p.buffer? id = some b) :
    (p.plays moves).buffer? id = some b ∨
      ∃ b', (p.plays moves).buffer? id = some b' ∧ Resolves b b' := by
  let I (q : Pool) : Prop :=
    q.buffer? id = some b ∧ q.pending.count id ≤ 1 ∨
      q.pending.count id = 0 ∧ ∃ b', q.buffer? id = some b' ∧ Resolves b b'
  have hend : I (p.plays moves) := by
    refine deeds_induction (I := fun _ => I) (.inl ⟨hb, waiting.count_le_one id⟩) ?_
    intro past d h hi
    have hmove := hm d.move (mem_moves_of_mem_deeds (mem_of_snoc h))
    have hplayed : Played d.pool d.move d.after := d.pool.played d.move
    rcases hplayed.resolved hmove id with ⟨he, hle⟩ | ⟨b₁, b₂, hb₁, hb₂, hr, hcount⟩
    · exact hi.imp (fun ⟨hb, hone⟩ => ⟨he.trans hb, Nat.le_trans hle hone⟩)
        fun ⟨hnone, b', hb', hr⟩ => ⟨Nat.le_zero.1 (hnone ▸ hle), b', he.trans hb', hr⟩
    · rcases hi with ⟨hb, hone⟩ | ⟨hnone, -⟩
      · cases hb.symm.trans hb₁
        exact .inr ⟨by omega, b₂, hb₂, hr⟩
      · omega
  exact hend.imp And.left And.right

/-! ## The length of the queue -/

/-- All buffers, whatever their tags. -/
def everyBuffer (p : Pool) : List Buffer := p.buffers.values.flatten

/-- As many prefetches wait as there are buffers that have one under way. -/
def IsCounted (p : Pool) : Prop := p.pending.length = p.everyBuffer.countP (·.loading)

theorem countP_put {α : Type} (key : String) (list : List α) (entries : List (String × List α))
    (f : α → Bool) :
    ((Table.put key list entries).map (·.2)).flatten.countP f +
        ((Table.find key entries).getD []).countP f =
      (entries.map (·.2)).flatten.countP f + list.countP f := by
  induction entries with
  | nil => simp [Table.put, Table.find]
  | cons entry rest ih =>
    obtain ⟨k, old⟩ := entry
    by_cases h : k = key
    · simp only [Table.put, Table.find, h, if_true, List.map_cons, List.flatten_cons,
        List.countP_append, Option.getD_some]
      omega
    · simp only [Table.put, Table.find, h, if_false, List.map_cons, List.flatten_cons,
        List.countP_append]
      omega

/-- Whatever is counted over all buffers changes by what it does over those of one tag. -/
theorem countP_insert (buffers : Table (List Buffer)) (tag : String) (list : List Buffer)
    (f : Buffer → Bool) :
    (buffers.insert tag list).values.flatten.countP f + ((buffers.get? tag).getD []).countP f =
      buffers.values.flatten.countP f + list.countP f :=
  countP_put tag list buffers.entries f

theorem length_pending_settle {α : Type} (p : Pool) (id : BufferId) (turn : Turn α) :
    (p.settle id turn).pending.length = p.pending.length + turn.queued.toNat := by
  simp only [settle, tell, put]
  cases turn.queued <;> simp

/-- In a list, it changes by what it does at the place that is set. -/
theorem countP_set_add {α : Type} {l : List α} {i : ℕ} {a : α} (h : l[i]? = some a) (a' : α)
    (f : α → Bool) : (l.set i a').countP f + (f a).toNat = l.countP f + (f a').toNat := by
  have hcons (x : α) (rest : List α) : (x :: rest).countP f = rest.countP f + (f x).toNat := by
    cases hx : f x <;> simp [hx]
  induction l generalizing i with
  | nil => cases h
  | cons x rest ih =>
    cases i with
    | zero =>
      cases h
      simp only [List.set_cons_zero, hcons]
      omega
    | succ i =>
      have := ih (i := i) h
      simp only [List.set_cons_succ, hcons]
      omega

theorem countP_settle {α : Type} (hb : p.buffer? id = some b) (turn : Turn α) :
    (p.settle id turn).everyBuffer.countP (·.loading) + b.loading.toNat =
      p.everyBuffer.countP (·.loading) + turn.buffer.loading.toNat := by
  have htag := countP_insert p.buffers id.tag ((p.buffersOf id.tag).set id.index turn.buffer)
    (·.loading)
  have hset := countP_set_add hb turn.buffer (·.loading)
  simp only [everyBuffer, settle, tell, put]
  simp only [buffersOf] at htag hset ⊢
  omega

/-- A buffer in the queue has its flag up, so that the two numbers change alike. -/
theorem Played.isCounted (h : Played p move p') (hm : move.skipsQueue = false) (hi : p.IsWaiting)
    (hc : p.IsCounted) : p'.IsCounted := by
  unfold IsCounted at hc ⊢
  cases h with
  | @operated move id op b pending hop hb hq =>
    have hb' : { p with pending }.buffer? id = some b := hb
    have hcount := countP_settle hb' (b.operate p.store op)
    have hevery : { p with pending }.everyBuffer = p.everyBuffer := rfl
    rw [hevery] at hcount
    rw [length_pending_settle]
    rcases hq with ⟨rfl, rfl⟩ | ⟨hp, hop'⟩
    · have hstarts := starts_of_not_skips hm b p.store
      unfold Buffer.Starts at hstarts
      dsimp only at hcount ⊢
      omega
    · have hflag := b.ends_operate p.store hop'
      rw [hflag.1, hi.loading hb hp, Bool.toNat_true, Bool.toNat_false] at hcount
      rw [hp, List.length_cons] at hc
      rw [hflag.2, Bool.toNat_false]
      dsimp only at hcount ⊢
      omega
  | @created tag config spawner g log ha hv =>
    have hcount := countP_insert p.buffers tag
      (p.buffersOf tag ++ [.new tag config spawner g]) (·.loading)
    have hnew : (Buffer.new tag config spawner g).loading = false := rfl
    rw [List.countP_append, List.countP_singleton, hnew] at hcount
    simp only [everyBuffer, buffersOf] at hcount hc ⊢
    simp only [Bool.false_eq_true, if_false] at hcount
    omega
  | refused _ | fetched _ | requested _ => exact hc
  | @idle move pending log hcall hop hq =>
    rcases hq with rfl | ⟨id, hp, hb⟩
    · exact hc
    · have hcount := hi id
      rw [underWay_of_missing hb, hp, List.count_cons_self] at hcount
      omega

theorem isCounted_plays {moves : List Move} (hm : ∀ d ∈ p.deeds moves, d.move.skipsQueue = false)
    (waiting : p.IsWaiting) (start : p.IsCounted) : (p.plays moves).IsCounted := by
  have both : (p.plays moves).IsWaiting ∧ (p.plays moves).IsCounted := by
    refine deeds_induction (I := fun _ q => q.IsWaiting ∧ q.IsCounted) ⟨waiting, start⟩ ?_
    intro past d h hi
    have hd := hm d (mem_of_snoc h)
    exact ⟨(d.pool.played d.move).isWaiting hd hi.1,
      (d.pool.played d.move).isCounted hd hi.1 hi.2⟩
  exact both.2

/-! ## Pools in which no prefetch waits -/

/-- No buffer queues its prefetches, and the queue is empty. -/
structure IsPrompt (p : Pool) : Prop where
  buffers : ∀ id b, p.buffer? id = some b → b.spawner ≠ .queueing
  pending : p.pending = []

/-- The move creates a buffer that queues its prefetches. -/
def Move.createsQueueing : Move → Bool
  | create _ _ spawner => spawner = .queueing
  | _ => false

theorem Played.isPrompt (h : Played p move p') (hm : move.createsQueueing = false)
    (hi : p.IsPrompt) : p'.IsPrompt := by
  refine ⟨fun id b' hb' => ?_, ?_⟩
  · rcases h.buffer id with
      ⟨b, op, -, hb, he, -⟩ | ⟨config, spawner, g, rfl, -, -, -, -, he, -⟩ | ⟨he, -⟩
    · rw [he] at hb'
      cases hb'
      rw [(b.posts_operate p.store op).1]
      exact hi.buffers id b hb
    · rw [he] at hb'
      cases hb'
      exact of_decide_eq_false hm
    · exact hi.buffers id b' (he ▸ hb')
  · cases h with
    | @operated move id op b pending hop hb hq =>
      rcases hq with ⟨rfl, rfl⟩ | ⟨hp, -⟩
      · have hqueued : (b.operate p.store op).queued = false := by
          by_contra hne
          exact hi.buffers id b hb ((b.posts_operate p.store op).2 (by simpa using hne))
        simp only [settle, hqueued]
        exact hi.pending
      · rw [hi.pending] at hp
        cases hp
    | created _ _ | refused _ | fetched _ | requested _ => exact hi.pending
    | @idle move pending log hc hop hq =>
      rcases hq with rfl | ⟨id, hp, -⟩
      · exact hi.pending
      · rw [hi.pending] at hp
        cases hp

theorem isPrompt_plays {moves : List Move}
    (hm : ∀ d ∈ p.deeds moves, d.move.createsQueueing = false) (start : p.IsPrompt) :
    (p.plays moves).IsPrompt := by
  refine deeds_induction (I := fun _ q => q.IsPrompt) start ?_
  intro past d h hi
  exact (d.pool.played d.move).isPrompt (hm d (mem_of_snoc h)) hi

end Pool

end IdIssuer
