import IdIssuer.Proofs.Pool.Move

/-!
# What a move does to a pool

`Played` lists the ways in which a move may turn out, each with the condition for it and the pool
that it leaves. `played` says that every move turns out in one of them, so that whatever is to be
preserved by moves is checked against these.
-/

namespace IdIssuer

namespace Pool

/-- The move reserves a segment outside of all buffers, or asks something of the ledger. -/
def Move.isCall : Move → Bool
  | request _ | fetch _ | create _ _ _ => true
  | _ => false

inductive Played (p : Pool) : Move → Pool → Prop where
  | operated {move id op b pending} (h : move.operation? p = some (id, op))
    (hb : p.buffer? id = some b)
    (hq : pending = p.pending ∧ move = .operate id op ∨
      p.pending = id :: pending ∧ (op = .finish ∨ op = .drop)) :
    Played p move ({ p with pending }.settle id (b.operate p.store op))
  | created {tag config spawner g log} (ha : (p.store.fetch tag).1 = .segment g)
    (hv : g.isValid = true) :
    Played p (.create tag config spawner)
      ⟨(p.store.fetch tag).2, p.buffers.insert tag (p.buffersOf tag ++ [.new tag config spawner g]),
        p.pending, log⟩
  | refused {tag config spawner}
    (ha : ∀ g, (p.store.fetch tag).1 = .segment g → g.isValid = false) :
    Played p (.create tag config spawner) { p with store := (p.store.fetch tag).2 }
  | fetched (tag) : Played p (.fetch tag) { p with store := (p.store.fetch tag).2 }
  | requested (r) : Played p (.request r) { p with store := (p.store.answer r).2 }
  /-- The queue was empty, the buffer does not exist, or the move tells events. -/
  | idle {move pending log} (hc : move.isCall = false)
    (h : ∀ id op, move.operation? p = some (id, op) → p.buffer? id = none)
    (hq : pending = p.pending ∨ ∃ id, p.pending = id :: pending ∧ p.buffer? id = none) :
    Played p move { p with pending, log }

/-- A buffer is created if the store yields a valid segment for it, and not otherwise. -/
theorem create_cases (p : Pool) (tag : String) (config : Config) (spawner : Spawner) :
    (∃ g log, (p.store.fetch tag).1 = .segment g ∧ g.isValid = true ∧
      p.create tag config spawner =
        (.done (⟨tag, (p.buffersOf tag).length⟩, .new tag config spawner g),
          ⟨(p.store.fetch tag).2,
            p.buffers.insert tag (p.buffersOf tag ++ [.new tag config spawner g]), p.pending,
            log⟩)) ∨
    (∀ g, (p.store.fetch tag).1 = .segment g → g.isValid = false) ∧
      (∀ created, (p.create tag config spawner).1 ≠ .done created) ∧
      (p.create tag config spawner).2 = { p with store := (p.store.fetch tag).2 } := by
  unfold create Buffer.create
  generalize hf : p.store.fetch tag = fetched
  obtain ⟨answer, σ⟩ := fetched
  cases answer with
  | panicked call => exact .inr ⟨by simp, by simp, rfl⟩
  | failed error => exact .inr ⟨by simp, by simp, rfl⟩
  | segment g =>
    cases hv : g.isValid with
    | true =>
      refine .inl ⟨g, [.loaded tag g.base g.max].reverse ++ p.log, rfl, hv, ?_⟩
      simp only [hv, if_true]
      rfl
    | false =>
      refine .inr ⟨fun g' h => ?_, ?_, ?_⟩
      · cases h
        exact hv
      · simp only [hv, Bool.false_eq_true, if_false]
        simp
      · simp only [hv, Bool.false_eq_true, if_false]
        rfl

theorem played (p : Pool) (move : Move) : Played p move (p.play move) := by
  cases hop : move.operation? p with
  | some found =>
    obtain ⟨id, op⟩ := found
    cases hb : p.buffer? id with
    | some b =>
      obtain ⟨pending, hplay, hq⟩ := play_of_operation hop hb
      rw [hplay]
      exact .operated hop hb hq
    | none =>
      obtain ⟨pending, hplay, hq⟩ := play_of_missing hop hb
      rw [hplay]
      refine .idle ?_ (fun id' op' h => ?_) (hq.imp_right fun hp => ⟨id, hp, hb⟩)
      · cases move <;> first | rfl | cases hop
      · rw [hop] at h
        cases h
        exact hb
  | none =>
    cases move with
    | request r => exact .requested r
    | fetch tag => exact .fetched tag
    | create tag config spawner =>
      simp only [play]
      rcases p.create_cases tag config spawner with ⟨g, log, ha, hv, hc⟩ | ⟨ha, -, hc⟩
      · rw [hc]
        exact .created ha hv
      · rw [hc]
        exact .refused ha
    | operate id op => cases hop
    | finish | drop =>
      have hp : p.pending = [] := by simpa [Move.operation?] using hop
      simp only [play, resolve, hp]
      exact .idle rfl (by simp [Move.operation?, hp]) (.inl rfl)
    | tell events => exact .idle rfl (by simp [Move.operation?]) (.inl rfl)

/-! ## Buffers -/

variable {p p' : Pool}

theorem buffersOf_insert (store : Store) (buffers : Table (List Buffer)) (pending : List BufferId)
    (log : List Event) (tag : String) (list : List Buffer) (t : String) :
    (⟨store, buffers.insert tag list, pending, log⟩ : Pool).buffersOf t =
      if tag = t then list else (⟨store, buffers, pending, log⟩ : Pool).buffersOf t := by
  unfold buffersOf
  rw [Table.get?_insert]
  split_ifs <;> rfl

theorem buffersOf_settle {α : Type} (p : Pool) (id : BufferId) (turn : Turn α) (tag : String) :
    (p.settle id turn).buffersOf tag =
      if id.tag = tag then (p.buffersOf tag).set id.index turn.buffer else p.buffersOf tag :=
  buffersOf_put p id turn.buffer tag

/-- A move operates on a buffer, or creates it, or leaves it as it is. -/
theorem Played.buffer {move : Move} (h : Played p move p') (id : BufferId) :
    (∃ b op, move.operation? p = some (id, op) ∧ p.buffer? id = some b ∧
      p'.buffer? id = some (b.operate p.store op).buffer ∧
      p'.store = (b.operate p.store op).store) ∨
    (∃ config spawner g, move = .create id.tag config spawner ∧ p.buffer? id = none ∧
      id.index = (p.buffersOf id.tag).length ∧ (p.store.fetch id.tag).1 = .segment g ∧
      g.isValid = true ∧ p'.buffer? id = some (.new id.tag config spawner g) ∧
      p'.store = (p.store.fetch id.tag).2) ∨
    p'.buffer? id = p.buffer? id ∧
      ∀ op, move.operation? p = some (id, op) → p.buffer? id = none := by
  cases h with
  | @operated move id₀ op b pending hop hb hq =>
    rw [buffer?_settle]
    by_cases hid : id₀ = id
    · subst hid
      have hb₀ : { p with pending := pending }.buffer? id₀ = some b := hb
      rw [if_pos rfl, hb₀]
      exact .inl ⟨b, op, hop, hb, rfl, rfl⟩
    · rw [if_neg hid]
      refine .inr (.inr ⟨rfl, fun op' h => ?_⟩)
      rw [hop] at h
      cases h
      exact absurd rfl hid
  | @created tag config spawner g log ha hv =>
    obtain ⟨t, index⟩ := id
    simp only [buffer?, buffersOf_insert]
    by_cases ht : tag = t
    · subst ht
      rw [if_pos rfl]
      rcases Nat.lt_trichotomy index (p.buffersOf tag).length with hlt | heq | hgt
      · rw [List.getElem?_append_left hlt]
        exact .inr (.inr ⟨rfl, by simp [Move.operation?]⟩)
      · rw [heq, List.getElem?_concat_length]
        exact .inr (.inl ⟨config, spawner, g, rfl, by simp, rfl, ha, hv, rfl, rfl⟩)
      · have hold : (p.buffersOf tag)[index]? = none := List.getElem?_eq_none (by omega)
        have hnew : (p.buffersOf tag ++ [Buffer.new tag config spawner g])[index]? = none :=
          List.getElem?_eq_none (by rw [List.length_append, List.length_singleton]; omega)
        rw [hold, hnew]
        exact .inr (.inr ⟨rfl, by simp [Move.operation?]⟩)
    · rw [if_neg ht]
      exact .inr (.inr ⟨rfl, by simp [Move.operation?]⟩)
  | refused ha => exact .inr (.inr ⟨rfl, by simp [Move.operation?]⟩)
  | fetched tag => exact .inr (.inr ⟨rfl, by simp [Move.operation?]⟩)
  | requested r => exact .inr (.inr ⟨rfl, by simp [Move.operation?]⟩)
  | idle hc h hq => exact .inr (.inr ⟨rfl, fun op hop => h id op hop⟩)

/-- The move may create a buffer for the tag. -/
def Move.Creates (tag : String) : Move → Prop
  | create t _ _ => t = tag
  | _ => False

/-- A tag gets its first buffer by being created one, and in no other way. -/
theorem Played.buffersOf_nil {move : Move} {tag : String} (h : Played p move p')
    (hm : ¬ move.Creates tag) (hb : p.buffersOf tag = []) : p'.buffersOf tag = [] := by
  cases h with
  | @operated move id op b pending hop hb' hq =>
    rw [buffersOf_settle]
    split_ifs
    · exact congrArg (fun list : List Buffer => list.set id.index _) hb
    · exact hb
  | @created t config spawner g log ha hv =>
    have ht : t ≠ tag := hm
    rw [buffersOf_insert, if_neg ht]
    exact hb
  | refused _ | fetched _ | requested _ | idle _ _ _ => exact hb

/-- A buffer never goes away. -/
theorem Played.isSome_buffer? {move : Move} {id : BufferId} (h : Played p move p')
    (hb : (p.buffer? id).isSome) : (p'.buffer? id).isSome := by
  rcases h.buffer id with ⟨b, op, -, -, he, -⟩ | ⟨config, spawner, g, -, hnone, -⟩ | ⟨he, -⟩
  · rw [he]
    rfl
  · rw [hnone] at hb
    cases hb
  · rwa [he]

/-- A move calls the store once for some tag, or not at all, or makes a request to its ledger. -/
theorem Played.store {move : Move} (h : Played p move p') :
    (∃ t, p.store.Calls t p'.store) ∨ ∃ r, move = .request r ∧ p'.store = (p.store.answer r).2 := by
  cases h with
  | @operated move id op b pending hop hb hq =>
    exact .inl ⟨b.tag, (b.keeps_operate p.store op).store⟩
  | @created tag | @refused tag | fetched tag => exact .inl ⟨tag, .inr rfl⟩
  | requested r => exact .inr ⟨r, rfl, rfl⟩
  | idle hc h hq => exact .inl ⟨"", .inl rfl⟩

theorem Played.grants_grow {move : Move} (h : Played p move p') (tag : String) :
    p.store.grants tag <+: p'.store.grants tag := by
  rcases h.store with ⟨t, hcalls⟩ | ⟨r, -, he⟩
  · exact hcalls.grants_grow tag
  · rw [he]
    exact List.prefix_rfl

/-- A call that stands in the history only now has been answered just then. -/
theorem Played.answer {move : Move} {c : Call} (h : Played p move p')
    (hc : p'.store.history = c :: p.store.history) : (p.store.fetch c.tag).1 = c.answer := by
  rcases h.store with ⟨t, hcalls⟩ | ⟨r, -, he⟩
  · exact hcalls.answer hc
  · rw [he] at hc
    exact absurd hc (List.cons_ne_self _ _).symm

/-- The store forgets no call. -/
theorem Played.history_grows {move : Move} (h : Played p move p') :
    p.store.history <:+ p'.store.history := by
  rcases h.store with ⟨t, he | he⟩ | ⟨r, -, he⟩
  · exact he ▸ List.suffix_rfl
  · rw [he, Store.history_fetch]
    exact List.suffix_cons _ _
  · exact he ▸ List.suffix_rfl

theorem history_grows (p : Pool) (moves : List Move) :
    p.store.history <:+ (p.plays moves).store.history := by
  induction moves generalizing p with
  | nil => exact List.suffix_rfl
  | cons move rest ih => exact (p.played move).history_grows.trans (ih _)

theorem history_of_mem_deeds {moves : List Move} {d : Deed} (h : d ∈ p.deeds moves) :
    d.after.store.history <:+ (p.plays moves).store.history := by
  induction moves generalizing p with
  | nil => cases h
  | cons move rest ih =>
    rcases List.mem_cons.1 h with rfl | h
    · exact history_grows _ rest
    · exact ih h

/-! ## Tags -/

/-- Every buffer is filed under its own tag. -/
def IsFiled (p : Pool) : Prop := ∀ id b, p.buffer? id = some b → b.tag = id.tag

theorem buffer?_new (σ : Store) (id : BufferId) : (Pool.new σ).buffer? id = none := rfl

theorem isFiled_new (σ : Store) : (Pool.new σ).IsFiled := by
  intro id b h
  rw [buffer?_new] at h
  cases h

theorem Played.isFiled {move : Move} (h : Played p move p') (hp : p.IsFiled) : p'.IsFiled := by
  intro id b' hb'
  rcases h.buffer id with ⟨b, op, -, hb, he, -⟩ | ⟨config, spawner, g, -, -, -, -, -, he, -⟩ |
    ⟨he, -⟩
  · rw [he] at hb'
    cases hb'
    rw [(b.keeps_operate p.store op).tag, hp id b hb]
  · rw [he] at hb'
    cases hb'
    rfl
  · exact hp id b' (he ▸ hb')

theorem Played.script {move : Move} (h : Played p move p') : p'.store.script = p.store.script := by
  rcases h.store with ⟨t, hcalls⟩ | ⟨r, -, he⟩
  · exact hcalls.script
  · rw [he]
    rfl

theorem script_plays (p : Pool) (moves : List Move) :
    (p.plays moves).store.script = p.store.script := by
  induction moves generalizing p with
  | nil => rfl
  | cons move rest ih =>
    rw [plays_cons, ih]
    exact (p.played move).script

theorem buffersOf_nil_plays {moves : List Move} {tag : String}
    (hm : ∀ d ∈ p.deeds moves, ¬ d.move.Creates tag) (hb : p.buffersOf tag = []) :
    (p.plays moves).buffersOf tag = [] := by
  apply deeds_induction (I := fun _ q => q.buffersOf tag = []) hb
  intro past d h hi
  exact (d.pool.played d.move).buffersOf_nil (hm d (mem_of_snoc h)) hi

theorem isSome_buffer?_plays {id : BufferId} (moves : List Move) (hb : (p.buffer? id).isSome) :
    ((p.plays moves).buffer? id).isSome := by
  apply deeds_induction (I := fun _ q => (q.buffer? id).isSome = true) hb
  intro past d _ hi
  exact (d.pool.played d.move).isSome_buffer? hi

/-- A buffer stays as it is as long as nothing operates on it. -/
theorem buffer?_of_not_operated {id : BufferId} {b : Buffer} {moves : List Move}
    (h : ∀ d ∈ p.deeds moves, ∀ op, d.move.operation? d.pool ≠ some (id, op))
    (hb : p.buffer? id = some b) : (p.plays moves).buffer? id = some b := by
  refine deeds_induction (I := fun _ q => q.buffer? id = some b) hb fun past d hpre hi => ?_
  rcases (d.pool.played d.move).buffer id with
    ⟨b', op, hop, -⟩ | ⟨config, spawner, g, -, hnone, -⟩ | ⟨he, -⟩
  · exact absurd hop (h d (mem_of_snoc hpre) op)
  · cases hi.symm.trans hnone
  · exact he.trans hi

/-- No deed touches the script. -/
theorem script_deeds {moves : List Move} {d : Deed} (h : d ∈ p.deeds moves) :
    d.pool.store.script = p.store.script := by
  obtain ⟨past, hpre⟩ := exists_snoc_of_mem h
  refine deeds_induction_before (I := fun _ q => q.store.script = p.store.script) rfl ?_ hpre
  intro _ d' _ hi
  exact (d'.pool.played d'.move).script.trans hi

end Pool

end IdIssuer
