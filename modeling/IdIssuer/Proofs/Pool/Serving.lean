import IdIssuer.Proofs.Buffer.Serving
import IdIssuer.Proofs.Pool.Sound
import Mathlib.Data.List.Perm.Subperm

/-!
# What the buffers of a pool serve

Over a run, a buffer goes through the segments that it takes up as `Buffer.Served` says, and takes
up none more often than the store has yielded it, as long as nothing is staged by hand in it and no
call of the store panics (`serving_plays`).
-/

namespace IdIssuer

namespace Pool

variable {p : Pool} {id : BufferId} {moves : List Move} {past : List Deed} {d : Deed}

structure Serving (id : BufferId) (past : List Deed) (q : Pool) : Prop where
  filed : q.IsFiled
  absent : q.buffer? id = none →
    installs id past = [] ∧ idsBy id (past.filterMap Deed.issue?) = []
  served : ∀ b, q.buffer? id = some b →
    b.Served (installs id past) (idsBy id (past.filterMap Deed.issue?))
  supplied : ∀ b, q.buffer? id = some b → b.Supplied (installs id past) (q.store.grants id.tag)

theorem serving_step (unstaged : ∀ d ∈ p.deeds moves, ∀ g, d.put? ≠ some (id, g))
    (few : calls id (p.deeds moves) < 2 ^ 62) (calm : d.pool.store.script.IsCalm)
    (h : past ++ [d] <+: p.deeds moves) (hs : SoundAt id past d.pool)
    (hi : Serving id past d.pool) : Serving id (past ++ [d]) d.after := by
  have hplayed : Played d.pool d.move d.after := d.pool.played d.move
  have hissues : idsBy id ((past ++ [d]).filterMap Deed.issue?) =
      idsBy id (past.filterMap Deed.issue?) ++ idsBy id d.issue?.toList := by
    rw [issues_append_single, idsBy_append]
  have hinstalls := installs_append_single id past d
  rcases hplayed.buffer id with
    ⟨b, op, hop, hb, he, hstore⟩ | ⟨config, spawner, g, hmove, hb, -, ha, hv, he, hstore⟩ |
      ⟨he, hne⟩
  · rw [idsBy_of_operation hop hb] at hissues
    rw [installs_of_operation hop hb] at hinstalls
    obtain ⟨notes, hcourse⟩ := Buffer.course_operate (room_before few h hs hb) op
    obtain ⟨c, -, hsound⟩ := hs b hb
    have hput : ∀ g m, Note.put g m ∉ notes := by
      intro g m hg
      obtain ⟨rfl, hp⟩ := (hcourse.admits _ hg).put
      exact unstaged d (mem_of_snoc h) g (by simp [put?_of_operation hop hb, hp])
    have htag := hi.filed id b hb
    obtain ⟨hserved, hsupplied⟩ := Buffer.serving_changes hcourse.changes hput hsound
      (hi.served b hb) (htag ▸ hi.supplied b hb)
    have hcalm := (b.keeps_operate d.pool.store op).calm (Store.fetch_ne_panicked calm b.tag)
    rw [hcourse.installed, hcourse.claimed hcalm, ← hissues, ← hinstalls] at hserved
    rw [hcourse.installed, ← hinstalls, htag, ← hstore] at hsupplied
    refine ⟨hplayed.isFiled hi.filed, fun hnone => ?_, fun b' hb' => ?_, fun b' hb' => ?_⟩
    · rw [he] at hnone
      cases hnone
    · cases he.symm.trans hb'
      exact hserved
    · cases he.symm.trans hb'
      exact hsupplied
  · rw [idsBy_of_not_operated fun _ _ => hb, List.append_nil, (hi.absent hb).2] at hissues
    rw [installs_of_created hb he, (hi.absent hb).1, List.nil_append] at hinstalls
    refine ⟨hplayed.isFiled hi.filed, fun hnone => ?_, fun b' hb' => ?_, fun b' hb' => ?_⟩
    · rw [he] at hnone
      cases hnone
    · cases he.symm.trans hb'
      rw [hissues, hinstalls]
      exact Buffer.served_new (Buffer.isFresh_fetch ha hv)
    · cases he.symm.trans hb'
      rw [hinstalls, hstore, Store.grants_fetch_segment ha]
      intro g'
      simp [Buffer.new, List.count_append]
  · rw [idsBy_of_not_operated hne, List.append_nil] at hissues
    rw [installs_of_not_operated hne he, List.append_nil] at hinstalls
    refine ⟨hplayed.isFiled hi.filed, ?_, ?_, ?_⟩
    · rw [hissues, hinstalls, he]
      exact hi.absent
    · rw [hissues, hinstalls, he]
      exact hi.served
    · rw [hinstalls, he]
      exact fun b hb => (hi.supplied b hb).mono (hplayed.grants_grow id.tag)

section

variable (calm : p.store.script.IsCalm)
  (unstaged : ∀ d ∈ p.deeds moves, ∀ g, d.put? ≠ some (id, g))
  (few : calls id (p.deeds moves) < 2 ^ 62) (filed : p.IsFiled) (start : p.buffer? id = none)

include calm unstaged few filed start

theorem serving_plays : Serving id (p.deeds moves) (p.plays moves) := by
  have fair : IsFair id (p.deeds moves) := fun d hd g hput => absurd hput (unstaged d hd g)
  apply deeds_induction
  · exact ⟨filed, fun _ => ⟨rfl, rfl⟩, fun b hb => by simp [start] at hb,
      fun b hb => by simp [start] at hb⟩
  · intro past d h hi
    exact serving_step unstaged few (script_deeds (mem_of_snoc h) ▸ calm) h
      (sound_before fair few start h) hi

end

/-- No segment is taken up more often than it has been yielded. -/
theorem Serving.subperm {q : Pool} (h : Serving id past q) :
    (installs id past).Subperm (q.store.grants id.tag) := by
  cases hb : q.buffer? id with
  | none =>
    rw [(h.absent hb).1]
    exact List.nil_subperm
  | some b =>
    rw [List.subperm_iff_count]
    intro g
    have := h.supplied b hb g
    omega

theorem Serving.isValid {q : Pool} (h : Serving id past q) :
    ∀ g ∈ installs id past, g.isValid = true := by
  cases hb : q.buffer? id with
  | none =>
    rw [(h.absent hb).1]
    exact List.forall_mem_nil _
  | some b => exact (h.served b hb).valid

theorem Serving.extent {q : Pool} (h : Serving id past q) :
    (installs id past).dropLast.flatMap Segment.ids <+: idsBy id (past.filterMap Deed.issue?) ∧
      idsBy id (past.filterMap Deed.issue?) <+: (installs id past).flatMap Segment.ids := by
  cases hb : q.buffer? id with
  | none =>
    obtain ⟨hinstalls, hids⟩ := h.absent hb
    rw [hinstalls, hids]
    exact ⟨List.prefix_rfl, List.prefix_rfl⟩
  | some b => exact (h.served b hb).extent

end Pool

end IdIssuer
