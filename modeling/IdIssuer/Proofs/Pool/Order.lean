import IdIssuer.Proofs.Buffer.Rise
import IdIssuer.Proofs.Pool.Sound

/-!
# The order of ids

The segments that a store yields for a tag come one by one over a run, and every segment that a
buffer of the tag serves or stages is among those yielded so far. If they are in order, the ids of
the buffer rise (`rising_plays`).
-/

namespace IdIssuer

namespace Pool

/-- The segments that the store yields for a tag, oldest first. -/
def yields (tag : String) (deeds : List Deed) : List Segment := deeds.flatMap (·.yields tag)

/-- What is staged by hand in a buffer has been yielded for its tag before. -/
def StagesYielded (id : BufferId) (deeds : List Deed) : Prop :=
  ∀ past d, past ++ [d] <+: deeds → ∀ g, d.put? = some (id, g) → g ∈ yields id.tag past

/-- `StagesYielded`, read off the list of deeds place by place. -/
theorem stagesYielded_iff {id : BufferId} {deeds : List Deed} :
    StagesYielded id deeds ↔ ∀ i, ∀ h : i < deeds.length,
      ∀ staged ∈ deeds[i].put?, staged.1 = id → staged.2 ∈ yields id.tag (deeds.take i) := by
  constructor
  · rintro hs i h ⟨_, g⟩ hput rfl
    refine hs (deeds.take i) deeds[i] ?_ g hput
    rw [List.take_append_getElem]
    exact List.take_prefix _ _
  · rintro hs past d ⟨rest, rfl⟩ g hput
    simpa using hs past.length (by simp) (id, g) (by simpa using hput) rfl

instance (id : BufferId) (deeds : List Deed) : Decidable (StagesYielded id deeds) :=
  decidable_of_iff _ stagesYielded_iff.symm

variable {p p' : Pool} {id : BufferId} {move : Move} {tag : String} {moves : List Move}
  {past : List Deed} {d : Deed}

theorem yields_append_single (tag : String) (past : List Deed) (d : Deed) :
    yields tag (past ++ [d]) = yields tag past ++ d.yields tag := by
  simp [yields]

theorem yields_before {past deeds : List Deed} (h : past <+: deeds) (tag : String) :
    yields tag past <+: yields tag deeds := by
  obtain ⟨rest, rfl⟩ := h
  unfold yields
  rw [List.flatMap_append]
  exact List.prefix_append _ _

/-- Any move but a request adds its yields to those of the store. -/
theorem grants_after (hr : ∀ r, d.move ≠ .request r) (tag : String) :
    d.after.store.grants tag = d.pool.store.grants tag ++ d.yields tag := by
  have hyields : d.yields tag =
      (d.after.store.grants tag).drop (d.pool.store.grants tag).length := by
    obtain ⟨p, move⟩ := d
    cases move with
    | request r => exact absurd rfl (hr r)
    | _ => rfl
  rcases (d.pool.played d.move).store with ⟨t, hcalls⟩ | ⟨r, he, -⟩
  · obtain ⟨new, hnew⟩ := hcalls.grants_grow tag
    have hdrop : d.yields tag = new := by
      rw [hyields, Deed.after, ← hnew, List.drop_left]
    rw [hdrop]
    exact hnew.symm
  · exact absurd he (hr r)

/-- What is yielded has nothing claimed from it. -/
theorem cursor_of_mem_yields {g : Segment} (h : g ∈ d.yields tag) : g.cursor = g.base := by
  by_cases hr : ∃ r, d.move = .request r
  · obtain ⟨r, hr⟩ := hr
    obtain ⟨p, move⟩ := d
    subst hr
    obtain ⟨-, hok⟩ := mem_loans_request h
    rcases p.store.ledger.fetch_cases tag with ⟨e, he⟩ | ⟨row, g', -, hy, hf⟩
    · rw [he] at hok
      cases hok
    · rw [hf] at hok
      cases hok
      exact hy.isFresh.2
  · have hgrants := grants_after (fun r he => hr ⟨r, he⟩) tag
    rcases (d.pool.played d.move).store with ⟨t, he | he⟩ | ⟨r, he, -⟩
    · have hnil : d.yields tag = [] := by
        rwa [Deed.after, he, List.self_eq_append_right] at hgrants
      rw [hnil] at h
      cases h
    · rw [Deed.after, he, Store.grants_fetch, List.append_right_inj] at hgrants
      rw [← hgrants] at h
      cases ha : (d.pool.store.fetch t).1 with
      | segment g' =>
        have hg : g = g' := by
          simp only [ha, Call.grant?, Option.mem_toList] at h
          split_ifs at h
          cases h
          rfl
        rw [hg]
        exact Store.cursor_fetch ha
      | failed _ | panicked _ => simp [ha, Call.grant?] at h
    · exact absurd ⟨r, he⟩ hr

theorem isFresh_of_mem_yields {deeds : List Deed} (honest : IsHonest (yields tag deeds))
    {g : Segment} (h : g ∈ yields tag deeds) : g.IsFresh := by
  obtain ⟨d, -, hg⟩ := List.mem_flatMap.1 h
  exact ⟨honest.valid g h, cursor_of_mem_yields hg⟩

/-! ## Rising ids -/

/-- What is known of a buffer after some deeds: its ids rise, and none of them lies above where
readers see its cursor. -/
structure Rising (id : BufferId) (past : List Deed) (q : Pool) : Prop where
  filed : q.IsFiled
  absent : q.buffer? id = none → idsBy id (past.filterMap Deed.issue?) = []
  known : ∀ b, q.buffer? id = some b → b.Known (yields id.tag past)
  reached : ∀ b, q.buffer? id = some b → ∀ n ∈ idsBy id (past.filterMap Deed.issue?),
    n.toNat ≤ b.current.position.toNat
  sorted : (idsBy id (past.filterMap Deed.issue?)).Pairwise (· < ·)

/-- An operation that makes the cursor of the buffer rise keeps the ids rising. -/
theorem Rising.of_rises {q q' : Pool} {b b' : Buffer} {past' : List Deed}
    {issued claimed : List UInt64} (hi : Rising id past q) (hb : q.buffer? id = some b)
    (filed : q'.IsFiled) (he : q'.buffer? id = some b')
    (hrises : b.Rises b' (yields id.tag past') claimed)
    (hissues : idsBy id (past'.filterMap Deed.issue?) =
      idsBy id (past.filterMap Deed.issue?) ++ issued)
    (hissued : issued.Sublist claimed) : Rising id past' q' := by
  refine ⟨filed, fun hnone => ?_, fun b'' hb'' => ?_, fun b'' hb'' n hn => ?_, ?_⟩
  · rw [he] at hnone
    cases hnone
  · cases he.symm.trans hb''
    exact hrises.known
  · cases he.symm.trans hb''
    rw [hissues] at hn
    rcases List.mem_append.1 hn with hn | hn
    · exact Nat.le_trans (hi.reached b hb n hn) hrises.position_le
    · exact (hrises.claims n (hissued.subset hn)).2
  · rw [hissues, List.pairwise_append]
    refine ⟨hi.sorted, hrises.sorted.sublist hissued, fun n hn n' hn' => ?_⟩
    have hold := hi.reached b hb n hn
    have hnew := (hrises.claims n' (hissued.subset hn')).1
    rw [UInt64.lt_iff_toNat_lt]
    omega

theorem rising_step (honest : IsHonest (yields id.tag (p.deeds moves)))
    (staged : StagesYielded id (p.deeds moves)) (few : calls id (p.deeds moves) < 2 ^ 62)
    (h : past ++ [d] <+: p.deeds moves) (hs : SoundAt id past d.pool)
    (hi : Rising id past d.pool) : Rising id (past ++ [d]) d.after := by
  have hplayed := d.pool.played d.move
  have hpast := honest.before (yields_before h id.tag)
  rw [yields_append_single] at hpast
  have hgrow : yields id.tag past ⊆ yields id.tag (past ++ [d]) := by
    rw [yields_append_single]
    exact List.subset_append_left _ _
  have hissues : idsBy id ((past ++ [d]).filterMap Deed.issue?) =
      idsBy id (past.filterMap Deed.issue?) ++ idsBy id d.issue?.toList := by
    rw [issues_append_single, idsBy_append]
  rcases hplayed.buffer id with
    ⟨b, op, hop, hb, he, hstore⟩ | ⟨config, spawner, g, hmove, hb, -, ha, hv, he, hstore⟩ |
      ⟨he, hne⟩
  · have hids : idsBy id d.issue?.toList = (b.operate d.pool.store op).outcome.issued.toList :=
      idsBy_of_operation hop hb
    have hnew : (b.operate d.pool.store op).store.grants b.tag =
        d.pool.store.grants b.tag ++ d.yields id.tag := by
      rw [hi.filed id b hb, ← hstore]
      exact grants_after (fun r hr => by rw [hr] at hop; cases hop) id.tag
    obtain ⟨notes, hcourse⟩ := Buffer.course_operate (room_before few h hs hb) op
    have hrises := Buffer.rises_changes hcourse.changes hnew hpast (hi.known b hb) ?_
    · rw [hids] at hissues
      rw [← yields_append_single] at hrises
      exact hi.of_rises hb (hplayed.isFiled hi.filed) he hrises hissues hcourse.issued
    · intro g m hg
      obtain ⟨rfl, hp⟩ := (hcourse.admits _ hg).put
      have hmem := staged past d h g (by simp [put?_of_operation hop hb, hp])
      exact ⟨hmem, isFresh_of_mem_yields (hpast.before (List.prefix_append _ _)) hmem⟩
  · have hids : idsBy id d.issue?.toList = [] := idsBy_of_not_operated fun _ _ => hb
    rw [hids, List.append_nil, hi.absent hb] at hissues
    have he : d.after.buffer? id = some (.new id.tag config spawner g) := he
    have hnew := grants_after (d := d) (fun r hr => by rw [hr] at hmove; cases hmove) id.tag
    rw [show d.after.store = _ from hstore, Store.grants_fetch_segment ha,
      List.append_right_inj] at hnew
    refine ⟨hplayed.isFiled hi.filed, fun _ => hissues, fun b' hb' => ?_, fun b' hb' n hn => ?_, ?_⟩
    · cases he.symm.trans hb'
      rw [yields_append_single, ← hnew]
      exact ⟨⟨g, List.mem_append_right _ List.mem_cons_self, rfl⟩, by simp [Buffer.new]⟩
    · rw [hissues] at hn
      cases hn
    · rw [hissues]
      exact .nil
  · have hids : idsBy id d.issue?.toList = [] := idsBy_of_not_operated hne
    rw [hids, List.append_nil] at hissues
    have he : d.after.buffer? id = d.pool.buffer? id := he
    refine ⟨hplayed.isFiled hi.filed, ?_, ?_, ?_, ?_⟩
    · rw [hissues, he]
      exact hi.absent
    · rw [he]
      exact fun b hb => (hi.known b hb).mono hgrow
    · rw [hissues, he]
      exact hi.reached
    · rw [hissues]
      exact hi.sorted

theorem rising_plays (honest : IsHonest (yields id.tag (p.deeds moves)))
    (staged : StagesYielded id (p.deeds moves)) (few : calls id (p.deeds moves) < 2 ^ 62)
    (filed : p.IsFiled) (start : p.buffer? id = none) :
    Rising id (p.deeds moves) (p.plays moves) := by
  have fair : IsFair id (p.deeds moves) := by
    intro d hd g hput
    obtain ⟨past, hpre⟩ := exists_snoc_of_mem hd
    have hpast := (List.prefix_append past [d]).trans hpre
    exact isFresh_of_mem_yields (honest.before (yields_before hpast id.tag))
      (staged past d hpre g hput)
  apply deeds_induction
  · exact ⟨filed, fun _ => rfl, fun b hb => by simp [start] at hb,
      fun b hb => by simp [start] at hb, .nil⟩
  · intro past d h hi
    exact rising_step honest staged few h (sound_before fair few start h) hi

end Pool

end IdIssuer
