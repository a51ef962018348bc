import IdIssuer.Proofs.Buffer.Counter
import IdIssuer.Proofs.Buffer.Poison

/-!
# The pace of a buffer

A buffer that has its tag to itself, and whose tag keeps its step, goes through segments that are
all as long as the step. It takes up a segment only to hand out an id of it, so that the ids handed
out so far tell which segment it serves (`Paced.number`). Every operation keeps to that, unless it
is a call that is refused an id (`Paced.operate`).
-/

namespace IdIssuer

/-- How many segments of a length it takes to hold a number of ids, with one segment for none. -/
def segmentsFor (count length : ℕ) : ℕ := max 1 ((count + length - 1) / length)

theorem segmentsFor_eq {count length j : ℕ} (hpos : 0 < length) (hlow : j = 0 ∨ j * length < count)
    (hup : count ≤ (j + 1) * length) : segmentsFor count length = j + 1 := by
  unfold segmentsFor
  rw [Nat.succ_mul] at hup
  rcases hlow with rfl | hlow
  · have hlt : (count + length - 1) / length < 2 := by
      apply Nat.div_lt_of_lt_mul
      omega
    omega
  · have hdiv : (count + length - 1) / length = j + 1 := by
      apply Nat.div_eq_of_lt_le
      · rw [Nat.succ_mul]
        omega
      · rw [Nat.succ_mul, Nat.succ_mul]
        omega
    omega

/-- One id more than fills the segments takes one segment more. -/
theorem segmentsFor_succ {count length : ℕ} (hpos : 0 < length)
    (hfull : count = segmentsFor count length * length) :
    segmentsFor (count + 1) length = segmentsFor count length + 1 := by
  apply segmentsFor_eq hpos
  · right
    omega
  · rw [Nat.succ_mul]
    omega

namespace Store

/-- If the tag has a row, its step is the given one. -/
def HasStep (σ : Store) (tag : String) (s : ℕ) : Prop :=
  ∀ row ∈ σ.ledger.rows.get? tag, row.step.toNat = s

instance (σ : Store) (tag : String) (s : ℕ) : Decidable (σ.HasStep tag s) :=
  inferInstanceAs (Decidable (∀ row ∈ σ.ledger.rows.get? tag, row.step.toNat = s))

/-- What the store yields for the tag is as long as the step. -/
theorem HasStep.span {σ : Store} {tag : String} {s : ℕ} (h : σ.HasStep tag s)
    (free : σ.script.GivesNothing) {g : Segment} (ha : (σ.fetch tag).1 = .segment g) :
    g.max.toNat = g.base.toNat + s := by
  rcases fetch_cases free tag with ⟨hnone, -⟩ | ⟨row, g', hrow, hy, hg, -⟩
  · exact absurd ha (hnone g)
  · cases ha.symm.trans hg
    rw [hy.max, hy.base, h row hrow]

end Store

namespace Buffer

/-- The segments of the buffer are as long as the step, and the current one lies a number of whole
steps above a boundary. The cursor lies in it, and above its base unless it is the first. -/
structure Paced (b : Buffer) (m₀ s : ℕ) : Prop where
  valid : b.current.isValid = true
  aligned : ∃ j, b.current.base.toNat = m₀ + j * s
  span : b.current.max.toNat = b.current.base.toNat + s
  begun : b.current.base.toNat = m₀ ∨ b.current.base.toNat < b.current.cursor.toNat
  start : b.current.base.toNat ≤ b.current.cursor.toNat
  within : b.current.cursor.toNat ≤ b.current.max.toNat
  ahead : ∀ g, b.staged = some g → g.max.toNat = g.base.toNat + s

variable {b b' : Buffer} {σ : Store} {m₀ s : ℕ} {m : UInt64}

theorem paced_new {tag : String} {config : Config} {spawner : Spawner} {g : Segment}
    (hg : g.IsFresh) (hspan : g.max.toNat = g.base.toNat + s) :
    (Buffer.new tag config spawner g).Paced g.base.toNat s := by
  have hle : g.base.toNat ≤ g.max.toNat := (Segment.isValid_iff.1 hg.1).1
  have hcursor : g.cursor.toNat = g.base.toNat := congrArg UInt64.toNat hg.2
  exact ⟨hg.1, ⟨0, by simp [Buffer.new]⟩, hspan, .inl rfl, Nat.le_of_eq hcursor.symm,
    Nat.le_trans (Nat.le_of_eq hcursor) hle, nofun⟩

theorem Paced.of_eq (h : b.Paced m₀ s) (hc : b'.current = b.current)
    (hst : b'.staged = b.staged) : b'.Paced m₀ s := by
  obtain ⟨hvalid, haligned, hspan, hbegun, hstart, hwithin, hahead⟩ := h
  rw [← hc] at hvalid haligned hspan hbegun hstart hwithin
  rw [← hst] at hahead
  exact ⟨hvalid, haligned, hspan, hbegun, hstart, hwithin, hahead⟩

theorem Paced.hasRoom (h : b.Paced m₀ s) (hl : b.Lined m) : b.HasRoom := by
  have hvalid := Segment.isValid_iff.1 h.valid
  have hwithin := h.within
  exact ⟨by omega, fun g hg => (hl.filled g hg).1⟩

theorem Paced.claim (h : b.Paced m₀ s) (hlt : b.current.cursor < b.current.max) :
    b.claim.2.Paced m₀ s := by
  have hcursor : b.claim.2.current.cursor.toNat = b.current.cursor.toNat + 1 :=
    Segment.toNat_cursor_succ (Segment.succ_lt_of_lt hlt)
  have hstart := h.start
  rw [UInt64.lt_iff_toNat_lt] at hlt
  refine ⟨h.valid, h.aligned, h.span, .inr ?_, ?_, ?_, h.ahead⟩
  · rw [hcursor]
    show b.current.base.toNat < _
    omega
  · rw [hcursor]
    show b.current.base.toNat ≤ _
    omega
  · rw [hcursor]
    show _ ≤ b.current.max.toNat
    omega

/-- The segment that follows takes over, with its first id claimed. -/
theorem Paced.install {g : Segment} (h : b.Paced m₀ s) (hg : g.IsFresh)
    (hbase : g.base = b.current.max) (hlt : g.base < g.max)
    (hspan : g.max.toNat = g.base.toNat + s) :
    Paced { b with current := g.advance.2, staged := none, ready := false } m₀ s := by
  have hcursor : g.advance.2.cursor.toNat = g.base.toNat + 1 := by
    rw [Segment.cursor_advance, hg.2]
    rw [← hg.2] at hlt ⊢
    exact Segment.toNat_cursor_succ (Segment.succ_lt_of_lt hlt)
  obtain ⟨j, hj⟩ := h.aligned
  rw [UInt64.lt_iff_toNat_lt] at hlt
  refine ⟨hg.1, ⟨j + 1, ?_⟩, hspan, .inr ?_, ?_, ?_, nofun⟩
  · show g.base.toNat = _
    rw [hbase, h.span, hj, Nat.succ_mul, Nat.add_assoc]
  · rw [hcursor]
    exact Nat.lt_succ_self _
  · rw [hcursor]
    exact Nat.le_succ _
  · rw [hcursor]
    exact hlt

section

variable (free : σ.script.GivesNothing) (hstep : σ.HasStep b.tag s)

include free hstep

theorem Paced.receive (h : b.Paced m₀ s) : (b.receive (σ.fetch b.tag).1).1.Paced m₀ s := by
  rcases b.receive_cases (σ.fetch b.tag).1 with ⟨he, -⟩ | ⟨g, ha, -, -, -, he⟩
  · rwa [he]
  · rw [he]
    refine ⟨h.valid, h.aligned, h.span, h.begun, h.start, h.within, fun g' hg' => ?_⟩
    cases hg'
    exact hstep.span free ha

theorem Paced.check (h : b.Paced m₀ s) : (b.check σ).buffer.Paced m₀ s := by
  rcases b.check_cases σ with ⟨he, -⟩ | ⟨he, -⟩ | ⟨he, -⟩
  · rwa [he]
  · rw [he]
    exact h.receive free hstep
  · rw [he]
    exact h.of_eq rfl rfl

variable (calm : σ.script.IsCalm)

include calm

/-- A call that hands out an id goes on with the current segment, or begins the next one. -/
theorem Paced.next (h : b.Paced m₀ s) (hl : b.Lined m) (hs : σ.Stands b.tag m) {n : UInt64}
    (hdone : (b.next σ).outcome = .done n) : (b.next σ).buffer.Paced m₀ s := by
  have room := h.hasRoom hl
  rcases UInt64.lt_or_le b.current.cursor b.current.max with hlt | hle
  · rw [next_of_lt hlt]
    exact (h.claim hlt).check free hstep
  cases hst : b.staged with
  | some g =>
    obtain ⟨hfresh, hbase, hlt, -⟩ := hl.filled g hst
    have hsucc : b.successor? = some g :=
      successor?_eq_some_iff.2
        ⟨by rw [hl.ready, hst]; rfl, hst, by rw [hbase]; exact UInt64.le_refl _⟩
    obtain ⟨events, hnext⟩ :=
      next_of_successor (σ := σ) hle room hl.usable hsucc (by rwa [hfresh.2])
    rw [hnext]
    exact h.install hfresh hbase hlt (h.ahead g hst)
  | none =>
    rw [next_of_bare hle room hl.usable (by rw [hl.ready, hst]; rfl)] at hdone ⊢
    rcases hs.fetch free calm with ⟨e, ha, -⟩ | ⟨g, ha, hfresh, hbase, hlt, -⟩
    · rw [ha] at hdone
      cases hdone
    · have hspan := hstep.span free ha
      rw [ha, refill_of_lt hfresh.1 (by rwa [hfresh.2])]
      exact (h.install hfresh (by rw [hbase, hl.bare hst]) hlt hspan).of_eq rfl rfl

theorem Paced.operate {op : Operation} (h : b.Paced m₀ s) (hl : b.Lined m) (hs : σ.Stands b.tag m)
    (hop : op.IsOrderly b) (served : op = .next → ∃ n, (b.next σ).outcome = .done n) :
    (b.operate σ op).buffer.Paced m₀ s := by
  cases op with
  | next =>
    obtain ⟨n, hdone⟩ := served rfl
    exact h.next free hstep calm hl hs hdone
  | check => exact h.check free hstep
  | finish => exact (h.receive free hstep).of_eq rfl rfl
  | drop => exact h.of_eq rfl rfl
  | prefetch | put | mark => cases hop

end

/-! ## Which segment is served -/

/-- The number of ids handed out so far tells which segment is served. -/
theorem Paced.number (h : b.Paced m₀ s) (hpos : 0 < s) {n : ℕ}
    (hn : b.current.position.toNat = m₀ + n) :
    b.current.base.toNat = m₀ + (segmentsFor n s - 1) * s ∧
      b.current.max.toNat = m₀ + segmentsFor n s * s := by
  obtain ⟨j, hj⟩ := h.aligned
  have hspan := h.span
  have hposition : b.current.position.toNat = b.current.cursor.toNat := by
    rw [Segment.toNat_position]
    exact Nat.min_eq_left h.within
  have hwithin := h.within
  have hcount : segmentsFor n s = j + 1 := by
    apply segmentsFor_eq hpos
    · rcases h.begun with hfirst | hbegun
      · left
        have hzero : j * s = 0 := by omega
        exact (Nat.mul_eq_zero.1 hzero).resolve_right (Nat.ne_of_gt hpos)
      · right
        omega
    · rw [Nat.succ_mul]
      omega
  rw [hcount, Nat.add_sub_cancel, Nat.succ_mul]
  omega

/-- A buffer that stands where the store stands has used up its segments. -/
theorem Paced.full (h : b.Paced m₀ s) (hl : b.Lined m) (hpos : 0 < s)
    (hend : b.current.position = m) {n : ℕ} (hn : m.toNat = m₀ + n) :
    n = segmentsFor n s * s := by
  obtain ⟨-, hmax⟩ := h.number hpos (hend ▸ hn)
  have hle := hl.max_le
  have hposition := Segment.toNat_position b.current
  rw [hend] at hposition
  omega

end Buffer

end IdIssuer
