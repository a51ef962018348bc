import IdIssuer.Proofs.Buffer.Holdings
import IdIssuer.Proofs.Pool.Sound

/-!
# Who owns an id

Every id of a tag that has been reserved belongs to somebody: to whoever got it from a buffer, to a
buffer that holds it, or to whoever got a segment from the store past the buffers. No deed gives an
id to a second owner (`balance`), where a segment that is staged by hand is given back by its owner.
Since an id is reserved once, it is handed out at most once.
-/

namespace IdIssuer

namespace Pool

/-- The ids among some issues that are of a tag. -/
def idsOf (tag : String) (issues : List Issue) : List UInt64 :=
  issues.filterMap fun issue => if issue.buffer.tag = tag then some issue.id else none

/-- How often an id is left to claim from some segments. -/
def held (segments : List Segment) (n : UInt64) : ℕ := (segments.map (·.holds n)).sum

/-- How often an id is left to claim from the buffers of a tag. -/
def holds (p : Pool) (tag : String) (n : UInt64) : ℕ := ((p.buffersOf tag).map (·.holds n)).sum

variable {p p' : Pool} {move : Move} {tag : String}

theorem idsOf_append (first second : List Issue) :
    idsOf tag (first ++ second) = idsOf tag first ++ idsOf tag second := List.filterMap_append

theorem idsOf_issued (id : BufferId) (issued : Option UInt64) :
    idsOf tag (issued.map (⟨id, ·⟩)).toList = if id.tag = tag then issued.toList else [] := by
  cases issued with
  | none => simp [idsOf]
  | some n => by_cases ht : id.tag = tag <;> simp [idsOf, ht]

theorem held_append (first second : List Segment) (n : UInt64) :
    held (first ++ second) n = held first n + held second n := by
  simp [held]

theorem sum_map_set {α : Type} {l : List α} {i : ℕ} {a : α} (h : l[i]? = some a) (a' : α)
    (f : α → ℕ) : ((l.set i a').map f).sum + f a = (l.map f).sum + f a' := by
  induction l generalizing i with
  | nil => cases h
  | cons x rest ih =>
    cases i with
    | zero =>
      cases h
      simp only [List.set_cons_zero, List.map_cons, List.sum_cons]
      omega
    | succ i =>
      have := ih (i := i) h
      simp only [List.set_cons_succ, List.map_cons, List.sum_cons]
      omega

/-! ## One deed -/

theorem loans_fetch (p : Pool) (t tag : String) :
    (⟨p, .fetch t⟩ : Deed).loans tag = (Call.grant? tag ⟨t, (p.store.fetch t).1⟩).toList := by
  have h := p.store.grants_fetch t tag
  simp only [Deed.loans, Deed.yields, Deed.after, play, fetch, h, List.drop_left]

/-- A call of the store reserves what it yields. -/
theorem reserved_call (free : p.store.script.GivesNothing) (t tag : String) (n : UInt64) :
    (p.store.fetch t).2.ledger.reserved tag n =
      p.store.ledger.reserved tag n +
        held (Call.grant? tag ⟨t, (p.store.fetch t).1⟩).toList n := by
  by_cases ht : t = tag
  · subst ht
    rw [Store.reserved_fetch free]
    cases (p.store.fetch t).1 <;> simp [Call.grant?, held, Answer.holds]
  · have hrow : p.store.Calls t (p.store.fetch t).2 := .inr rfl
    rw [hrow.reserved_of_ne ht]
    cases (p.store.fetch t).1 <;> simp [Call.grant?, held, ht]

/-- A request reserves what it yields, and a registration all ids up to its boundary. -/
theorem reserved_answer (p : Pool) (r : Ledger.Request) (tag : String) (n : UInt64) :
    held ((⟨p, .request r⟩ : Deed).loans tag) n +
        ((⟨p, .request r⟩ : Deed).origin? tag).toList.countP (n ≤ ·) +
        p.store.ledger.reserved tag n =
      (p.store.answer r).2.ledger.reserved tag n := by
  cases r with
  | register t m step =>
    simp only [Deed.loans, Deed.yields, Deed.origin?, answer, Store.answer, Ledger.answer]
    rcases p.store.ledger.register_cases t m step with ⟨e, he⟩ | ⟨hrow, -, -, hok⟩
    · rw [he]
      simp [Except.map, held]
    · rw [hok]
      by_cases ht : t = tag
      · subst ht
        simp [Except.map, held, Ledger.reserved, hrow, List.countP_singleton]
      · simp [Except.map, held, Ledger.reserved, ht]
  | setStep t step =>
    simp only [Deed.loans, Deed.yields, Deed.origin?, answer, Store.answer, Ledger.answer]
    rcases p.store.ledger.setStep_cases t step with ⟨e, he⟩ | ⟨row, hrow, -, hok⟩
    · rw [he]
      simp [Except.map, held]
    · rw [hok]
      by_cases ht : t = tag
      · subst ht
        simp [Except.map, held, Ledger.reserved, hrow]
      · simp [Except.map, held, Ledger.reserved, ht]
  | boundary t =>
    simp only [Deed.loans, Deed.yields, Deed.origin?, answer, Store.answer, Ledger.answer]
    cases p.store.ledger.boundary t <;> simp [Except.map, held]
  | fetch t =>
    simp only [Deed.loans, Deed.yields, Deed.origin?, answer, Store.answer, Ledger.answer,
      Ledger.Request.tag]
    rcases p.store.ledger.fetch_cases t with ⟨e, he⟩ | ⟨row, g, hrow, hy, hok⟩
    · rw [he]
      simp [Except.map, held]
    · rw [hok]
      by_cases ht : t = tag
      · subst ht
        have := hy.holds_add n
        simp only [Except.map, if_true, held, List.map_cons, List.map_nil, List.sum_cons,
          List.sum_nil, Option.toList_none, List.countP_nil, Ledger.reserved_insert]
        simp only [Ledger.reserved, hrow]
        omega
      · simp [Except.map, held, Ledger.reserved, ht]

/-- What an operation leaves behind changes what its own buffer holds. -/
theorem holds_settle {α : Type} {id : BufferId} {b : Buffer} (hb : p.buffer? id = some b)
    (turn : Turn α) (tag : String) (n : UInt64) :
    (p.settle id turn).holds tag n + (if id.tag = tag then b.holds n else 0) =
      p.holds tag n + if id.tag = tag then turn.buffer.holds n else 0 := by
  rw [holds, holds, buffersOf_settle]
  split_ifs with ht
  · subst ht
    exact sum_map_set hb turn.buffer (·.holds n)
  · rfl

/-- A new buffer holds what the store has yielded for it. -/
theorem holds_created {t : String} {g : Segment} (ha : (p.store.fetch t).1 = .segment g)
    (config : Config) (spawner : Spawner) (log : List Event) (tag : String) (n : UInt64) :
    (⟨(p.store.fetch t).2, p.buffers.insert t (p.buffersOf t ++ [.new t config spawner g]),
        p.pending, log⟩ : Pool).holds tag n =
      p.holds tag n + held (Call.grant? tag ⟨t, (p.store.fetch t).1⟩).toList n := by
  rw [holds, buffersOf_insert, ha, holds]
  by_cases ht : t = tag
  · subst ht
    simp [Call.grant?, held, Buffer.holds, Buffer.new]
  · simp [ht, Call.grant?, held, buffersOf]

theorem balance_operated {id : BufferId} {op : Operation} {b : Buffer} (pending : List BufferId)
    (hop : move.operation? p = some (id, op)) (hb : p.buffer? id = some b) (filed : p.IsFiled)
    (free : p.store.script.GivesNothing) (room : id.tag = tag → b.HasRoom) (n : UInt64) :
    (idsOf tag (⟨p, move⟩ : Deed).issue?.toList).count n +
        ({ p with pending }.settle id (b.operate p.store op)).holds tag n +
        p.store.ledger.reserved tag n ≤
      p.holds tag n + held (puts tag [⟨p, move⟩]) n +
        (b.operate p.store op).store.ledger.reserved tag n := by
  have htag := filed id b hb
  have hsettle := holds_settle (p := { p with pending }) hb (b.operate p.store op) tag n
  have hholds : { p with pending }.holds tag n = p.holds tag n := rfl
  rw [hholds] at hsettle
  rw [issue?_of_operation hop hb, idsOf_issued]
  by_cases ht : id.tag = tag
  · subst ht
    have hop' := Buffer.holds_operate (room rfl) free op n
    have hputs : held (puts id.tag [⟨p, move⟩]) n = b.stake n op := by
      simp only [puts, List.filterMap_cons, List.filterMap_nil, put?_of_operation hop hb]
      cases op with
      | put g mark => cases hp : b.poisoned <;> simp [held, Buffer.stake, hp]
      | _ => rfl
    rw [if_pos rfl, if_pos rfl] at hsettle
    rw [hputs, if_pos rfl]
    rw [htag] at hop'
    omega
  · rw [if_neg ht, if_neg ht] at hsettle
    rw [if_neg ht, (b.keeps_operate p.store op).store.reserved_of_ne (htag ▸ ht)]
    simp only [List.count_nil]
    omega

/-- A deed that neither hands out an id nor stages a segment by hand. -/
theorem balance_quiet {n : UInt64} (hissue : (⟨p, move⟩ : Deed).issue? = none)
    (hput : (⟨p, move⟩ : Deed).put? = none)
    (h : p'.holds tag n + held ((⟨p, move⟩ : Deed).loans tag) n +
        ((⟨p, move⟩ : Deed).origin? tag).toList.countP (n ≤ ·) + p.store.ledger.reserved tag n ≤
      p.holds tag n + p'.store.ledger.reserved tag n) :
    (idsOf tag (⟨p, move⟩ : Deed).issue?.toList).count n + p'.holds tag n +
        held ((⟨p, move⟩ : Deed).loans tag) n +
        ((⟨p, move⟩ : Deed).origin? tag).toList.countP (n ≤ ·) + p.store.ledger.reserved tag n ≤
      p.holds tag n + held (puts tag [⟨p, move⟩]) n + p'.store.ledger.reserved tag n := by
  simp only [hissue, hput, puts, idsOf, Option.toList_none, List.filterMap_nil, List.filterMap_cons,
    Option.bind_none, List.count_nil]
  omega

/-- What a deed gives away was held, reserved by it, or given back. -/
theorem balance (h : Played p move p') (filed : p.IsFiled) (free : p.store.script.GivesNothing)
    (room : ∀ id b, id.tag = tag → p.buffer? id = some b → b.HasRoom) (n : UInt64) :
    (idsOf tag (⟨p, move⟩ : Deed).issue?.toList).count n + p'.holds tag n +
        held ((⟨p, move⟩ : Deed).loans tag) n +
        ((⟨p, move⟩ : Deed).origin? tag).toList.countP (n ≤ ·) + p.store.ledger.reserved tag n ≤
      p.holds tag n + held (puts tag [⟨p, move⟩]) n + p'.store.ledger.reserved tag n := by
  cases h with
  | @operated move id op b pending hop hb hq =>
    obtain ⟨hloans, horigin⟩ := readers_of_operation hop tag
    rw [hloans, horigin]
    have := balance_operated pending hop hb filed free (fun ht => room id b ht hb) n
    simp only [held, List.map_nil, List.sum_nil, Option.toList_none, List.countP_nil, settle] at *
    omega
  | @created t config spawner g log ha hv =>
    obtain ⟨hissue, hput⟩ := readers_of_call p (.create t config spawner) rfl
    refine balance_quiet hissue hput ?_
    have hcall := reserved_call free t tag n
    have hholds := holds_created ha config spawner log tag n
    rw [hholds]
    simp only [Deed.loans, Deed.origin?, held, Option.toList_none, List.map_nil, List.sum_nil,
      List.countP_nil] at hcall ⊢
    omega
  | @refused t config spawner ha =>
    obtain ⟨hissue, hput⟩ := readers_of_call p (.create t config spawner) rfl
    refine balance_quiet hissue hput ?_
    have hcall := reserved_call free t tag n
    have hholds : { p with store := (p.store.fetch t).2 }.holds tag n = p.holds tag n := rfl
    simp only [hholds, Deed.loans, Deed.origin?, held, Option.toList_none, List.map_nil,
      List.sum_nil, List.countP_nil] at hcall ⊢
    omega
  | fetched t =>
    obtain ⟨hissue, hput⟩ := readers_of_call p (.fetch t) rfl
    refine balance_quiet hissue hput ?_
    have hcall := reserved_call free t tag n
    have hholds : { p with store := (p.store.fetch t).2 }.holds tag n = p.holds tag n := rfl
    rw [loans_fetch]
    simp only [hholds, Deed.origin?, Option.toList_none, List.countP_nil]
    omega
  | requested r =>
    obtain ⟨hissue, hput⟩ := readers_of_call p (.request r) rfl
    refine balance_quiet hissue hput ?_
    have hcall := reserved_answer p r tag n
    have hholds : { p with store := (p.store.answer r).2 }.holds tag n = p.holds tag n := rfl
    simp only [hholds]
    omega
  | @idle move pending log hc h hq =>
    obtain ⟨hissue, hput, hloans, horigin⟩ := readers_of_idle hc h tag
    refine balance_quiet hissue hput ?_
    have hholds : { p with pending, log }.holds tag n = p.holds tag n := rfl
    rw [hholds, hloans, horigin]
    simp only [held, List.map_nil, List.sum_nil, Option.toList_none, List.countP_nil]
    omega

/-! ## Registrations -/

/-- The number of rows that a tag has. -/
def rows (p : Pool) (tag : String) : ℕ := (p.store.ledger.rows.get? tag).isSome.toNat

theorem rows_answer (p : Pool) (r : Ledger.Request) (tag : String) :
    ((⟨p, .request r⟩ : Deed).origin? tag).toList.length + p.rows tag =
      ((p.store.answer r).2.ledger.rows.get? tag).isSome.toNat := by
  unfold rows
  cases r with
  | register t m step =>
    simp only [Deed.origin?, Store.answer, Ledger.answer]
    rcases p.store.ledger.register_cases t m step with ⟨e, he⟩ | ⟨hrow, -, -, hok⟩
    · rw [he]
      simp
    · rw [hok]
      by_cases ht : t = tag
      · subst ht
        simp [hrow]
      · simp [ht]
  | setStep t step =>
    simp only [Deed.origin?, Store.answer, Ledger.answer]
    rcases p.store.ledger.setStep_cases t step with ⟨e, he⟩ | ⟨row, hrow, -, hok⟩
    · rw [he]
      simp
    · rw [hok]
      by_cases ht : t = tag
      · subst ht
        simp [hrow]
      · simp [ht]
  | boundary t => simp [Deed.origin?, Store.answer, Ledger.answer]
  | fetch t =>
    simp only [Deed.origin?, Store.answer, Ledger.answer]
    rcases p.store.ledger.fetch_cases t with ⟨e, he⟩ | ⟨row, g, hrow, hy, hok⟩
    · rw [he]
      simp
    · rw [hok]
      by_cases ht : t = tag
      · subst ht
        simp [hrow]
      · simp [ht]

/-- A tag gets a row by being registered, and in no other way. -/
theorem Played.rows (h : Played p move p') (tag : String) :
    ((⟨p, move⟩ : Deed).origin? tag).toList.length + p.rows tag = p'.rows tag := by
  cases h with
  | @operated move id op b pending hop hb hq =>
    rw [(readers_of_operation hop tag).2, Option.toList_none, List.length_nil, Nat.zero_add]
    exact (congrArg Bool.toNat ((b.keeps_operate p.store op).store.isSome_row tag)).symm
  | @created t | @refused t | fetched t =>
    rw [show (_ : Option UInt64).toList.length + _ = _ from Nat.zero_add _]
    exact (congrArg Bool.toNat (p.store.isSome_row_fetch t tag)).symm
  | requested r => exact rows_answer p r tag
  | idle hc h hq =>
    rw [(readers_of_idle hc h tag).2.2.2]
    exact Nat.zero_add _

/-! ## Runs -/

variable {moves : List Move}

/-- What the store yields past the buffers is fresh, as long as it comes from the ledger. -/
theorem isFresh_of_mem_loans (free : p.store.script.GivesNothing) {g : Segment}
    (h : g ∈ loans tag (p.deeds moves)) : g.IsFresh := by
  obtain ⟨⟨q, move⟩, hd, hg⟩ := List.mem_flatMap.1 h
  have hfree : q.store.script.GivesNothing := script_deeds hd ▸ free
  cases move with
  | fetch t =>
    rw [loans_fetch] at hg
    rcases Store.fetch_cases hfree t with ⟨hnone, -⟩ | ⟨row, g', -, hy, ha, -⟩
    · cases ha : (q.store.fetch t).1 with
      | segment g' => exact absurd ha (hnone g')
      | failed _ | panicked _ => simp [ha, Call.grant?] at hg
    · rw [ha] at hg
      by_cases ht : t = tag
      · simp only [Call.grant?, ht, if_true, Option.toList_some, List.mem_singleton] at hg
        rw [hg]
        exact hy.isFresh
      · simp [Call.grant?, ht] at hg
  | request r =>
    obtain ⟨-, hok⟩ := mem_loans_request hg
    rcases q.store.ledger.fetch_cases tag with ⟨e, he⟩ | ⟨row, g', -, hy, hf⟩
    · rw [he] at hok
      cases hok
    · rw [hf] at hok
      cases hok
      exact hy.isFresh
  | create _ _ _ | operate _ _ | finish | drop | tell _ => cases hg

theorem held_le_of_subperm {puts loans : List Segment} (h : puts.Subperm loans) (n : UInt64) :
    held puts n ≤ held loans n := by
  obtain ⟨list, hperm, hsub⟩ := h
  have hmono : ∀ {l l' : List Segment}, l.Sublist l' → held l n ≤ held l' n := by
    intro l l' hs
    induction hs with
    | slnil => exact Nat.le_refl _
    | cons a _ ih =>
      simp only [held, List.map_cons, List.sum_cons] at ih ⊢
      omega
    | cons_cons a _ ih =>
      simp only [held, List.map_cons, List.sum_cons] at ih ⊢
      omega
  rw [held, ← (hperm.map _).sum_eq]
  exact hmono hsub

/-- The accounts of a tag after some deeds: those who got an id from a buffer, the buffers, and
those to whom the store lent a segment share what has been reserved since the tag was
registered. -/
structure Accounts (tag : String) (past : List Deed) (q : Pool) : Prop where
  filed : q.IsFiled
  rows : (origins tag past).length = q.rows tag
  owners : ∀ n, (idsOf tag (past.filterMap Deed.issue?)).count n + q.holds tag n +
      held (loans tag past) n + (origins tag past).countP (n ≤ ·) ≤
    q.store.ledger.reserved tag n + held (puts tag past) n

theorem accounts_step {past : List Deed} {d : Deed} (free : d.pool.store.script.GivesNothing)
    (room : ∀ id b, id.tag = tag → d.pool.buffer? id = some b → b.HasRoom)
    (h : Accounts tag past d.pool) : Accounts tag (past ++ [d]) d.after := by
  have hplayed := d.pool.played d.move
  refine ⟨hplayed.isFiled h.filed, ?_, fun n => ?_⟩
  · have hrows : (d.origin? tag).toList.length + d.pool.rows tag = d.after.rows tag :=
      hplayed.rows tag
    rw [origins_append_single, List.length_append, h.rows]
    omega
  · have hbalance : (idsOf tag d.issue?.toList).count n + d.after.holds tag n +
        held (d.loans tag) n + (d.origin? tag).toList.countP (n ≤ ·) +
        d.pool.store.ledger.reserved tag n ≤
      d.pool.holds tag n + held (puts tag [d]) n + d.after.store.ledger.reserved tag n :=
      balance hplayed h.filed free room n
    have hpast := h.owners n
    rw [issues_append_single, idsOf_append, List.count_append, origins_append_single,
      List.countP_append, loans_append_single, held_append, puts_append, held_append]
    omega

section

variable {past : List Deed} {q : Pool} (h : Accounts tag past q)
  (repaid : (puts tag past).Subperm (loans tag past))

include h repaid

theorem Accounts.count_le (n : UInt64) :
    (idsOf tag (past.filterMap Deed.issue?)).count n + (origins tag past).countP (n ≤ ·) ≤
      q.store.ledger.reserved tag n := by
  have howners := h.owners n
  have hheld := held_le_of_subperm repaid n
  omega

theorem Accounts.nodup : (idsOf tag (past.filterMap Deed.issue?)).Nodup := by
  rw [List.nodup_iff_count]
  intro n
  have hcount := h.count_le repaid n
  have hone := q.store.ledger.reserved_le_one tag n
  omega

/-- An id that has been handed out lies between the boundary at registration and the present one. -/
theorem Accounts.bounds {n : UInt64} (hn : n ∈ idsOf tag (past.filterMap Deed.issue?)) :
    ∃ origin boundary, origins tag past = [origin] ∧
      q.store.ledger.boundary tag = .ok boundary ∧ origin < n ∧ n ≤ boundary := by
  have hcount := h.count_le repaid n
  have hpos := List.count_pos_iff.2 hn
  have hrows := h.rows
  unfold Ledger.reserved at hcount
  unfold Pool.rows at hrows
  cases hrow : q.store.ledger.rows.get? tag with
  | none =>
    rw [hrow] at hcount
    dsimp only at hcount
    omega
  | some row =>
    rw [hrow] at hcount hrows
    obtain ⟨origin, horigin⟩ := List.length_eq_one_iff.1 hrows
    rw [horigin, List.countP_singleton] at hcount
    refine ⟨origin, row.boundary, horigin, by simp [Ledger.boundary, hrow], ?_, ?_⟩
    · rw [← UInt64.not_le]
      intro hle
      simp only [hle, decide_true, if_true] at hcount
      split_ifs at hcount <;> omega
    · by_contra hle
      simp only [hle, if_false] at hcount
      omega

end

/-- The accounts of a run that starts with an empty ledger, and in which only what the store has
lent is staged by hand. -/
theorem accounts_plays {script : Script} (free : script.GivesNothing)
    (repaid : (puts tag ((Pool.new (.new .empty script)).deeds moves)).Subperm
      (loans tag ((Pool.new (.new .empty script)).deeds moves)))
    (few : ∀ id : BufferId, id.tag = tag →
      calls id ((Pool.new (.new .empty script)).deeds moves) < 2 ^ 62) :
    Accounts tag ((Pool.new (.new .empty script)).deeds moves)
      ((Pool.new (.new .empty script)).plays moves) := by
  have fair : ∀ id : BufferId, id.tag = tag →
      IsFair id ((Pool.new (.new .empty script)).deeds moves) := by
    intro id ht d hd g hput
    apply isFresh_of_mem_loans (p := .new (.new .empty script)) free
    exact repaid.subset (List.mem_filterMap.2 ⟨d, hd, by simp [hput, ht]⟩)
  apply deeds_induction
  · exact ⟨isFiled_new _, rfl, fun n => Nat.le_refl 0⟩
  · intro past d h hi
    refine accounts_step (script_deeds (mem_of_snoc h) ▸ free) (fun id b ht hb => ?_) hi
    exact room_before (few id ht) h (sound_before (fair id ht) (few id ht) rfl h) hb

end Pool

end IdIssuer
