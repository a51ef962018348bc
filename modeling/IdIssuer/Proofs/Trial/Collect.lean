import IdIssuer.Trial.Report
import Mathlib.Algebra.BigOperators.Group.List.Basic
import Mathlib.Algebra.Ring.Nat
import Mathlib.Data.List.Nodup
import Std.Data.TreeSet.Lemmas

/-!
# Collecting what the workers got

If no worker has failed and no id of a tag occurs twice, the sets that are collected hold just the
ids of the workers, tag by tag, for all tags in their order (`collectWorkers_eq`). A worker that has
failed keeps anything from being collected (`collectWorkers_failed`), and nothing else does but a
repeated id (`collectWorkers_error`).
-/

namespace IdIssuer

namespace Table

/-- With distinct keys, the values are what is found under the keys. -/
theorem values_eq {α : Type} (t : Table α) (distinct : t.keys.Nodup) :
    t.values.map some = t.keys.map t.get? := by
  obtain ⟨entries⟩ := t
  simp only [keys, values, List.map_map] at distinct ⊢
  induction entries with
  | nil => rfl
  | cons entry rest ih =>
    obtain ⟨key, value⟩ := entry
    obtain ⟨hnot, hrest⟩ := List.nodup_cons.1 distinct
    rw [List.map_cons, List.map_cons, ih hrest]
    congr 1
    · exact (if_pos rfl).symm
    · apply List.map_congr_left
      intro entry hentry
      have hne : key ≠ entry.1 := by
        intro he
        exact hnot (List.mem_map.2 ⟨entry, hentry, he.symm⟩)
      exact (if_neg hne).symm

end Table

namespace Trial

/-! ## Sets of ids -/

/-- The set holds just these ids, each of which occurs once. -/
structure Collects (set : IdSet) (ids : List UInt64) : Prop where
  nodup : ids.Nodup
  size : set.size = ids.length
  mem : ∀ id, id ∈ set ↔ id ∈ ids

variable {set : IdSet} {ids more : List UInt64}

theorem collects_empty : Collects .empty [] :=
  ⟨.nil, rfl, fun _ => iff_of_false Std.TreeSet.not_mem_emptyc List.not_mem_nil⟩

theorem Collects.contains (h : Collects set ids) (id : UInt64) :
    set.contains id = true ↔ id ∈ ids :=
  Std.TreeSet.mem_iff_contains.symm.trans (h.mem id)

theorem Collects.insert (h : Collects set ids) {id : UInt64} (hnew : id ∉ ids) :
    Collects (set.insert id) (ids ++ [id]) := by
  refine ⟨?_, ?_, fun n => ?_⟩
  · exact h.nodup.append (List.nodup_singleton id) (List.disjoint_singleton.2 hnew)
  · rw [Std.TreeSet.size_insert, if_neg fun hold => hnew ((h.contains id).1 hold), h.size,
      List.length_append, List.length_singleton]
  · rw [Std.TreeSet.mem_insert, Std.LawfulEqCmp.compare_eq_iff_eq, h.mem, List.mem_append,
      List.mem_singleton, or_comm, eq_comm]

theorem collectIds_eq (h : Collects set ids) (distinct : (ids ++ more).Nodup) :
    ∃ set', collectIds more set = .ok set' ∧ Collects set' (ids ++ more) := by
  induction more generalizing set ids with
  | nil => exact ⟨set, rfl, by rwa [List.append_nil]⟩
  | cons id rest ih =>
    rw [List.append_cons] at distinct ⊢
    have hnew : id ∉ ids := by
      intro hold
      rw [List.append_assoc] at distinct
      exact (List.nodup_append.1 distinct).2.2 id hold id List.mem_cons_self rfl
    rw [collectIds, if_neg fun hold => hnew ((h.contains id).1 hold)]
    exact ih (h.insert hnew) distinct

theorem collectIds_error {e : RunError} (h : collectIds more set = .error e) :
    ∃ id, e = .repeatedId id := by
  induction more generalizing set with
  | nil => cases h
  | cons id rest ih =>
    rw [collectIds] at h
    split_ifs at h
    · cases h
      exact ⟨id, rfl⟩
    · exact ih h

/-- The least and the greatest of the ids up to some id. -/
theorem Collects.bounds {top : UInt64} (h : Collects set ids)
    (hids : ∀ id, id ∈ ids ↔ 0 < id ∧ id ≤ top) :
    set.min?.getD 0 = (if top = 0 then 0 else 1) ∧ set.max?.getD 0 = top := by
  by_cases htop : top = 0
  · subst htop
    have hempty : ids = [] := by
      apply List.eq_nil_iff_forall_not_mem.2
      intro id hid
      obtain ⟨hpos, hle⟩ := (hids id).1 hid
      exact absurd (UInt64.lt_of_lt_of_le hpos hle) (UInt64.lt_irrefl _)
    have hnone : set.isEmpty = true := by
      rw [Std.TreeSet.isEmpty_eq_size_eq_zero, h.size, hempty]
      rfl
    rw [Std.TreeSet.min?_eq_none_iff.2 hnone, Std.TreeSet.max?_eq_none_iff.2 hnone]
    exact ⟨rfl, rfl⟩
  · have hpos : 0 < top := UInt64.pos_iff_ne_zero.2 htop
    have hone : (1 : UInt64) ≤ top := by
      rw [UInt64.lt_iff_toNat_lt] at hpos
      rw [UInt64.le_iff_toNat_le]
      exact hpos
    have hmin : set.min? = some 1 := by
      refine Std.TreeSet.min?_eq_some_iff_mem_and_forall.2
        ⟨(h.mem 1).2 ((hids 1).2 ⟨by decide, hone⟩), fun id hid => ?_⟩
      have hid := ((hids id).1 ((h.mem id).1 hid)).1
      rw [UInt64.lt_iff_toNat_lt] at hid
      rw [Std.isLE_compare, UInt64.le_iff_toNat_le]
      exact hid
    have hmax : set.max? = some top := by
      refine Std.TreeSet.max?_eq_some_iff_mem_and_forall.2
        ⟨(h.mem top).2 ((hids top).2 ⟨hpos, UInt64.le_refl _⟩), fun id hid => ?_⟩
      rw [Std.isLE_compare]
      exact ((hids id).1 ((h.mem id).1 hid)).2
    rw [hmin, hmax, if_neg htop]
    exact ⟨rfl, rfl⟩

/-! ## Tags -/

/-- The ids collected so far, tag by tag. -/
def Gathers (seen : Table IdSet) (ids : String → List UInt64) : Prop :=
  ∀ tag, Collects ((seen.get? tag).getD .empty) (ids tag)

variable {seen : Table IdSet} {given : String → List UInt64} {w : Worker} {tags rest : List String}

theorem collectTags_eq (h : Gathers seen given) (distinct : rest.Nodup)
    (once : ∀ tag ∈ rest, (given tag ++ (w.idsOf tag).reverse).Nodup) :
    ∃ seen', collectTags w rest seen = .ok seen' ∧
      Gathers seen' (fun tag => given tag ++ if tag ∈ rest then (w.idsOf tag).reverse else []) ∧
      seen'.keys = seen.keys ++ rest.filter (· ∉ seen.keys) := by
  induction rest generalizing seen given with
  | nil => exact ⟨seen, rfl, by simpa using h, by simp⟩
  | cons tag rest ih =>
    obtain ⟨hnot, hrest⟩ := List.nodup_cons.1 distinct
    obtain ⟨set, hset, hcollects⟩ := collectIds_eq (h tag) (once tag List.mem_cons_self)
    have hgathers : Gathers (seen.insert tag set)
        fun t => given t ++ if t = tag then (w.idsOf t).reverse else [] := by
      intro t
      show Collects _ (given t ++ if t = tag then (w.idsOf t).reverse else [])
      rw [Table.get?_insert]
      by_cases ht : tag = t
      · subst ht
        rw [if_pos rfl, if_pos rfl]
        exact hcollects
      · rw [if_neg ht, if_neg (Ne.symm ht), List.append_nil]
        exact h t
    have honce : ∀ t ∈ rest, ((given t ++ if t = tag then (w.idsOf t).reverse else []) ++
        (w.idsOf t).reverse).Nodup := by
      intro t ht
      have hne : t ≠ tag := fun he => hnot (he ▸ ht)
      rw [if_neg hne, List.append_nil]
      exact once t (List.mem_cons_of_mem _ ht)
    obtain ⟨seen', hseen, hgathers', hkeys⟩ := ih hgathers hrest honce
    refine ⟨seen', by rw [collectTags, hset]; exact hseen, fun t => ?_, ?_⟩
    · have ht := hgathers' t
      by_cases hne : t = tag
      · subst hne
        simpa [hnot] using ht
      · simpa [hne] using ht
    · rw [hkeys, Table.keys_insert]
      by_cases hold : tag ∈ seen.keys
      · simp [hold]
      · have hfilter : rest.filter (· ∉ seen.keys ++ [tag]) = rest.filter (· ∉ seen.keys) := by
          apply List.filter_congr
          intro t ht
          have hne : t ≠ tag := fun he => hnot (he ▸ ht)
          simp [hne]
        rw [if_neg hold, hfilter, List.append_assoc]
        simp [hold]

theorem collectTags_error {e : RunError} (h : collectTags w rest seen = .error e) :
    ∃ id, e = .repeatedId id := by
  induction rest generalizing seen with
  | nil => cases h
  | cons tag rest ih =>
    rw [collectTags] at h
    split at h
    · next hids =>
      cases h
      exact collectIds_error hids
    · exact ih h

/-! ## Workers -/

/-- What the workers got of a tag, worker by worker. -/
def idsOfAll (workers : List Worker) (tag : String) : List UInt64 :=
  workers.flatMap fun w => (w.idsOf tag).reverse

theorem collectWorkers_eq {workers : List Worker} (h : Gathers seen given)
    (calm : ∀ w ∈ workers, w.error = none) (distinct : tags.Nodup)
    (keys : seen.keys = [] ∨ seen.keys = tags)
    (once : ∀ tag ∈ tags, (given tag ++ idsOfAll workers tag).Nodup) :
    ∃ seen', collectWorkers tags workers seen = .ok seen' ∧
      (∀ tag ∈ tags, Collects ((seen'.get? tag).getD .empty) (given tag ++ idsOfAll workers tag)) ∧
      (workers ≠ [] ∨ seen.keys = tags → seen'.keys = tags) := by
  induction workers generalizing seen given with
  | nil =>
    refine ⟨seen, rfl, fun tag _ => ?_, fun hkeys => hkeys.resolve_left fun hne => hne rfl⟩
    rw [idsOfAll, List.flatMap_nil, List.append_nil]
    exact h tag
  | cons w rest ih =>
    have hall (tag : String) :
        idsOfAll (w :: rest) tag = (w.idsOf tag).reverse ++ idsOfAll rest tag := List.flatMap_cons
    simp only [hall] at once ⊢
    obtain ⟨seen', hseen, hgathers, hkeys⟩ := collectTags_eq h distinct fun tag htag =>
      (List.nodup_append.1 (by rw [List.append_assoc]; exact once tag htag)).1
    have hfull : seen'.keys = tags := by
      rcases keys with hnil | hsame
      · rw [hkeys, hnil]
        simp
      · rw [hkeys, hsame, List.append_right_eq_self, List.filter_eq_nil_iff]
        simp
    have hadd (tag : String) (htag : tag ∈ tags) :
        (given tag ++ if tag ∈ tags then (w.idsOf tag).reverse else []) ++ idsOfAll rest tag =
          given tag ++ ((w.idsOf tag).reverse ++ idsOfAll rest tag) := by
      rw [if_pos htag, List.append_assoc]
    obtain ⟨seen'', hseen', hcollects, hkeys'⟩ := ih hgathers
      (fun w' hw' => calm w' (List.mem_cons_of_mem _ hw')) (.inr hfull)
      fun tag htag => by rw [hadd tag htag]; exact once tag htag
    refine ⟨seen'', ?_, fun tag htag => ?_, fun _ => hkeys' (.inr hfull)⟩
    · simp only [collectWorkers, calm w List.mem_cons_self, hseen]
      exact hseen'
    · rw [← hadd tag htag]
      exact hcollects tag htag

/-- Collecting stops at a worker that has failed, or before it at a repeated id. -/
theorem collectWorkers_error {workers : List Worker} {e : RunError}
    (h : collectWorkers tags workers seen = .error e) :
    (∃ error, e = .worker error) ∨ ∃ id, e = .repeatedId id := by
  induction workers generalizing seen with
  | nil => cases h
  | cons w rest ih =>
    rw [collectWorkers] at h
    split at h
    · cases h
      exact .inl ⟨_, rfl⟩
    · split at h
      · next htags =>
        cases h
        exact .inr (collectTags_error htags)
      · exact ih h

theorem collectWorkers_failed {workers : List Worker} (failed : ∃ w ∈ workers, w.error ≠ none) :
    ∃ e, collectWorkers tags workers seen = .error e := by
  induction workers generalizing seen with
  | nil =>
    obtain ⟨w, hw, -⟩ := failed
    cases hw
  | cons w rest ih =>
    rw [collectWorkers]
    cases herror : w.error with
    | some error => exact ⟨_, rfl⟩
    | none =>
      have hrest : ∃ w' ∈ rest, w'.error ≠ none := by
        obtain ⟨w', hw', hfailed⟩ := failed
        rcases List.mem_cons.1 hw' with rfl | hw'
        · exact absurd herror hfailed
        · exact ⟨w', hw', hfailed⟩
      cases collectTags w tags seen with
      | error e => exact ⟨e, rfl⟩
      | ok seen' => exact ih hrest

/-- The number of ids collected for all tags. -/
theorem foldl_size (sets : List IdSet) (start : ℕ) :
    sets.foldl (fun n set => n + set.size) start = start + (sets.map (·.size)).sum := by
  induction sets generalizing start with
  | nil => rfl
  | cons set rest ih => rw [List.foldl_cons, ih, List.map_cons, List.sum_cons, Nat.add_assoc]

theorem total_eq (keys : seen.keys = tags) (distinct : tags.Nodup)
    (h : ∀ tag ∈ tags, Collects ((seen.get? tag).getD .empty) (given tag)) :
    seen.values.foldl (fun n set => n + set.size) 0 =
      (tags.map fun tag => (given tag).length).sum := by
  have hvalues : seen.values = tags.map fun tag => (seen.get? tag).getD .empty := by
    have hsome := congrArg (List.map fun set? => Option.getD set? .empty)
      (seen.values_eq (keys ▸ distinct))
    rw [keys, List.map_map, List.map_map] at hsome
    exact (List.map_id _).symm.trans hsome
  rw [foldl_size, Nat.zero_add, hvalues, List.map_map]
  congr 1
  apply List.map_congr_left
  intro tag htag
  exact (h tag htag).size

end Trial

end IdIssuer
