import IdIssuer.Proofs.Pool.Isolation
import IdIssuer.Proofs.Pool.Pace
import IdIssuer.Proofs.Session.Counter

/-!
# As many reservations as it takes

A tag that is left to one client and keeps its step is reserved one segment at a time, and no
earlier than needed but for the one that is staged: the number of ids handed out tells how many
segments have been reserved, and which of them is served (`reservations_exact`). It does not matter
whether prefetches are early, late, dropped, or overtaken by a caller who does not wait for them.
-/

namespace IdIssuer

open Pool

/-- The ledger has refused the call because the id space ends before the next boundary. -/
def Call.overflows (c : Call) : Bool :=
  match c.answer with
  | .failed (.overflow ..) => true
  | _ => false

/-- Without a script, a call fails because its tag is not known or the id space ends. -/
theorem Store.failed_of_free {σ : Store} {tag : String} {e : StoreError} (free : σ.script = .free)
    (h : (σ.fetch tag).1 = .failed e) :
    e = .unknownTag tag ∨ ∃ boundary step, e = .overflow tag boundary step := by
  have hnone : σ.script (σ.calls + 1) = none := by rw [free]; rfl
  unfold fetch at h
  rw [hnone] at h
  simp only [consult, Ledger.fetch] at h
  cases hrow : σ.ledger.rows.get? tag with
  | none =>
    rw [hrow] at h
    cases h
    exact .inl rfl
  | some row =>
    rw [hrow] at h
    cases hnext : row.next? with
    | none =>
      simp only [hnext] at h
      cases h
      exact .inr ⟨_, _, rfl⟩
    | some boundary =>
      simp only [hnext] at h
      cases h

/-- Without a script, a deed overdraws a tag only if a call for it overflows. -/
theorem Pool.not_overdraws {d : Deed} {tag : String} (free : d.pool.store.script = .free)
    (fits : ∀ c ∈ d.after.store.history, c.tag = tag → c.overflows = false) :
    ¬ d.Overdraws tag := by
  rintro ⟨e, hhistory, hne⟩
  have hover := fits ⟨tag, .failed e⟩ (by rw [hhistory]; exact List.mem_cons_self) rfl
  have hanswer : (d.pool.store.fetch tag).1 = .failed e := (d.pool.played d.move).answer hhistory
  rcases Store.failed_of_free free hanswer with rfl | ⟨boundary, step, rfl⟩
  · exact hne rfl
  · cases hover

namespace Session

theorem reservations_exact (spawner : Spawner) (steps : List Step) (c : Client) (tag : String)
    (m₀ s : UInt64) (b : Buffer) (hpos : 0 < s)
    (allowed : (blank spawner .free).Along (c.Allows tag) steps)
    (registered : m₀ ∈ origins tag ((blank spawner .free).deeds steps))
    (fixed : ∀ d ∈ (blank spawner .free).deeds steps, d.pool.store.HasStep tag s.toNat)
    (fits : ∀ c ∈ ((blank spawner .free).run steps).2.pool.store.history,
      c.tag = tag → c.overflows = false)
    (hb : ((blank spawner .free).run steps).2.pool.buffer? ⟨tag, 0⟩ = some b) :
    let s' := (blank spawner .free).run steps
    let n := (idsOf tag ((blank spawner .free).issues steps)).length
    let k := max 1 ((n + s.toNat - 1) / s.toNat)
    (s'.2.pool.store.grants tag).length = k + (if b.staged.isSome = true then 1 else 0) ∧
      b.current.base.toNat = m₀.toNat + (k - 1) * s.toNat ∧
      b.current.max.toNat = m₀.toNat + k * s.toNat := by
  intro s' n k
  let start := blank spawner .free
  have free : start.pool.store.script.GivesNothing := fun _ _ _ _ => nofun
  have exclusive : ∀ d ∈ start.deeds steps, d.IsExclusive tag :=
    exclusive_of_allowed (serves_blank c tag spawner .free) allowed isCalm_free
  have hfits : ∀ d ∈ start.deeds steps, ¬ d.Overdraws tag := by
    intro d hd
    apply not_overdraws (script_deeds hd)
    intro c hc ht
    refine fits c ?_ ht
    rw [pool_run]
    exact (history_of_mem_deeds hd).subset hc
  have hend : Counted tag s'.2.pool (origins tag (start.deeds steps))
        (idsOf tag (start.issues steps)) ∧
      s'.2.pool.Metered tag s.toNat (origins tag (start.deeds steps)) := by
    rw [pool_run, issues_eq]
    exact metered_plays free isCalm_free exclusive (fun _ => not_skips_of_mem_deeds) fixed hfits
      (isFiled_new _) (isWaiting_new _) (.unregistered rfl rfl) (metered_new _ rfl)
  exact hend.2.count hend.1 (UInt64.lt_iff_toNat_lt.1 hpos) registered hb

def overtakenSteps : List Step :=
  [.create "x" "a" none, .ledger (.register "a" 7 2), .create "x" "a" (some 1.0),
    .buffer "x" .next, .buffer "x" .next, .dropQueue, .buffer "x" .check, .buffer "x" .next,
    .runQueue, .buffer "x" .next, .buffer "x" .next]

/-- Of the prefetches, the first is dropped and the second is overtaken by a caller; what it brings
is staged all the same and serves the last id. Five ids make three reservations, none staged. -/
theorem reservations_exact_overtaken :
    let s' := (blank .queueing .free).run overtakenSteps
    (s'.2.pool.store.grants "a").length = 3 ∧
      (idsOf "a" ((blank .queueing .free).issues overtakenSteps)) = [8, 9, 10, 11, 12] ∧
      ∃ b, s'.2.pool.buffer? ⟨"a", 0⟩ = some b ∧ b.current.base.toNat = 7 + 2 * 2 := by
  intro s'
  let b := (s'.2.pool.buffer? ⟨"a", 0⟩).get (by decide +kernel)
  have hb : s'.2.pool.buffer? ⟨"a", 0⟩ = some b := (Option.some_get _).symm
  have hids : idsOf "a" ((blank .queueing .free).issues overtakenSteps) = [8, 9, 10, 11, 12] := by
    decide +kernel
  have hbare : ¬ b.staged.isSome = true := by decide +kernel
  have hcount := reservations_exact .queueing overtakenSteps .buffer "a" 7 2 b (by decide)
    (by decide +kernel) (by decide +kernel) (by decide +kernel) (by decide +kernel) hb
  rw [hids, if_neg hbare] at hcount
  exact ⟨hcount.1, hids, b, hb, hcount.2.1⟩

end Session

end IdIssuer
