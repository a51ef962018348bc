import IdIssuer.Proofs.Buffer.Sound

/-!
# What a buffer serves

A buffer goes through segments one after the other: it takes up a segment only when nothing is left
of the one before, and hands out all ids of each in order. `Served` says so of the segments taken up
so far and the ids handed out, and every change keeps it up, whatever the store yields
(`served_changes`). No segment is taken up or staged more often than the store has yielded it.
-/

namespace IdIssuer

open Note

namespace Segment

/-- The ids above `base` and not above `top`, in order. -/
def between (base top : UInt64) : List UInt64 :=
  (List.range' (base.toNat + 1) (top.toNat - base.toNat)).map .ofNat

/-- All ids of a segment, in order. -/
def ids (s : Segment) : List UInt64 := between s.base s.max

/-- The ids of a segment that have been claimed, in order. -/
def taken (s : Segment) : List UInt64 := between s.base s.position

theorem between_self (base : UInt64) : between base base = [] := by simp [between]

theorem between_succ {base top : UInt64} (h : base.toNat ≤ top.toNat)
    (hw : top.toNat + 1 < 2 ^ 64) : between base (top + 1) = between base top ++ [top + 1] := by
  have htop : (top + 1).toNat = top.toNat + 1 := by
    rw [UInt64.toNat_add]
    exact Nat.mod_eq_of_lt hw
  have hlen : top.toNat + 1 - base.toNat = top.toNat - base.toNat + 1 := by omega
  have hlast : UInt64.ofNat (base.toNat + 1 + (top.toNat - base.toNat)) = top + 1 := by
    apply UInt64.toNat_inj.1
    rw [htop, UInt64.toNat_ofNat']
    have hsum : base.toNat + 1 + (top.toNat - base.toNat) = top.toNat + 1 := by omega
    rw [hsum]
    exact Nat.mod_eq_of_lt hw
  rw [between, htop, hlen, List.range'_1_concat, List.map_append, List.map_singleton, hlast]
  rfl

theorem between_mono (base : UInt64) {top top' : UInt64} (h : top.toNat ≤ top'.toNat) :
    between base top <+: between base top' := by
  have hlen : top'.toNat - base.toNat =
      top.toNat - base.toNat + (top'.toNat - base.toNat - (top.toNat - base.toNat)) := by omega
  rw [between, between, hlen, ← List.range'_append_1, List.map_append]
  exact List.prefix_append _ _

variable {s : Segment}

theorem taken_of_le (h : s.max ≤ s.cursor) : s.taken = s.ids := by
  rw [taken, position_of_le h, ids]

theorem IsFresh.taken (h : s.IsFresh) : s.taken = [] := by
  rw [Segment.taken, h.position, between_self]

theorem taken_advance_of_lt (h : s.cursor < s.max) (hb : s.base.toNat ≤ s.cursor.toNat) :
    s.advance.2.taken = s.taken ++ [s.cursor + 1] := by
  rw [taken, taken, position_advance_of_lt h, base_advance, position_of_lt h,
    between_succ hb (succ_lt_of_lt h)]

theorem taken_advance_of_le (h : s.max ≤ s.cursor) (hw : s.cursor.toNat + 1 < 2 ^ 64) :
    s.advance.2.taken = s.taken := by
  rw [taken, taken, position_advance_of_le h hw, position_of_le h]
  rfl

end Segment

namespace Buffer

/-- The segments taken up so far are valid, all ids of them have been handed out in order, and those
claimed from the last of them, which is the one being served. -/
structure Served (b : Buffer) (installed : List Segment) (ids : List UInt64) : Prop where
  valid : ∀ g ∈ installed, g.isValid = true
  split : ∃ front last, installed = front ++ [last] ∧
    ids = front.flatMap Segment.ids ++ b.current.taken ∧
    b.current = { last with cursor := b.current.cursor }

/-- No segment has been taken up, or staged after that, more often than it has been yielded. -/
def Supplied (b : Buffer) (installed grants : List Segment) : Prop :=
  ∀ g, installed.count g + b.staged.toList.count g ≤ grants.count g

variable {b b' : Buffer} {σ σ' : Store} {notes : List Note} {c : ℕ} {installed : List Segment}
  {ids : List UInt64}

theorem served_new {tag : String} {config : Config} {spawner : Spawner} {g : Segment}
    (hg : g.IsFresh) : (Buffer.new tag config spawner g).Served [g] [] := by
  refine ⟨fun g' hg' => ?_, [], g, rfl, hg.taken.symm, rfl⟩
  rw [List.mem_singleton.1 hg']
  exact hg.1

theorem Served.install (h : b.Served installed ids) (hx : b.current.max ≤ b.current.cursor)
    {g : Segment} (hg : g.IsFresh) :
    Served { b with current := g, staged := none, ready := false } (installed ++ [g])
      (ids ++ []) := by
  obtain ⟨front, last, rfl, rfl, hlast⟩ := h.split
  refine ⟨?_, front ++ [last], g, rfl, ?_, rfl⟩
  · intro g' hg'
    rcases List.mem_append.1 hg' with hg' | hg'
    · exact h.valid g' hg'
    · rw [List.mem_singleton.1 hg']
      exact hg.1
  · have hids : b.current.ids = last.ids := by rw [hlast]; rfl
    simp only [hg.taken, Segment.taken_of_le hx, hids, List.flatMap_append, List.flatMap_singleton,
      List.append_nil]

/-- What has been handed out is everything up to the last segment, and part of that. -/
theorem Served.extent (h : b.Served installed ids) :
    installed.dropLast.flatMap Segment.ids <+: ids ∧ ids <+: installed.flatMap Segment.ids := by
  obtain ⟨front, last, rfl, rfl, hlast⟩ := h.split
  have hpos : b.current.position.toNat ≤ b.current.max.toNat := by
    rw [Segment.toNat_position]
    omega
  have hids : b.current.ids = last.ids := by rw [hlast]; rfl
  refine ⟨?_, ?_⟩
  · rw [List.dropLast_concat]
    exact List.prefix_append _ _
  · rw [List.flatMap_append, List.flatMap_singleton, List.prefix_append_right_inj, ← hids]
    exact Segment.between_mono _ hpos

/-- The buffer serves the segment that it has taken up last. -/
theorem Served.last (h : b.Served installed ids) :
    ∃ last, installed.getLast? = some last ∧
      b.current = { last with cursor := b.current.cursor } := by
  obtain ⟨front, last, rfl, -, hlast⟩ := h.split
  exact ⟨last, List.getLast?_concat, hlast⟩

/-- A claim goes on with the segment being served. -/
theorem Served.claim (h : b.Served installed ids) {taken : List UInt64}
    (htaken : b.current.advance.2.taken = b.current.taken ++ taken) :
    b.claim.2.Served (installed ++ []) (ids ++ taken) := by
  obtain ⟨front, last, rfl, rfl, hlast⟩ := h.split
  rw [List.append_nil]
  refine ⟨h.valid, front, last, rfl, ?_, ?_⟩
  · rw [Buffer.claim, htaken, List.append_assoc]
  · exact congrArg (fun s : Segment => { s with cursor := b.current.cursor + 1 }) hlast

theorem served_change {note : Note} (h : Change b σ note b' σ') (hs : b.Sound c)
    (hb : b.Served installed ids) :
    b'.Served (installed ++ note.install?.toList) (ids ++ note.claim?.toList) := by
  have still {b'' : Buffer} (hc : b''.current = b.current) :
      b''.Served (installed ++ []) (ids ++ []) := by
    obtain ⟨front, last, hinstalled, hids, hlast⟩ := hb.split
    rw [List.append_nil, List.append_nil]
    exact ⟨hb.valid, front, last, hinstalled, by rw [hc]; exact hids, by rw [hc]; exact hlast⟩
  have hbase : b.current.base.toNat ≤ b.current.cursor.toNat := by
    rw [hs.cursor]
    exact Nat.le_add_right _ _
  cases h with
  | claimed hlt => exact hb.claim (Segment.taken_advance_of_lt hlt hbase)
  | missed hle hw =>
    exact hb.claim ((Segment.taken_advance_of_le hle hw).trans (List.append_nil _).symm)
  | promoted hx hr hst hg => exact hb.install hx (hs.staged _ hst)
  | refilled hx hr ha hv => exact hb.install hx (isFresh_fetch ha hv)
  | due hw => exact still (b.current_receive _)
  | direct => exact still (b.current_receive _)
  | finished => exact still (b.current_receive _)
  | _ => exact still rfl

theorem Supplied.mono {grants grants' : List Segment} (h : b.Supplied installed grants)
    (hp : grants <+: grants') : b.Supplied installed grants' :=
  fun g => Nat.le_trans (h g) (hp.sublist.count_le g)

theorem Supplied.receive (h : b.Supplied installed (σ.grants b.tag)) :
    (b.receive (σ.fetch b.tag).1).1.Supplied installed ((σ.fetch b.tag).2.grants b.tag) := by
  rcases b.receive_cases (σ.fetch b.tag).1 with ⟨he, -⟩ | ⟨g, ha, hv, -, hs, he⟩
  · rw [he]
    exact h.mono (σ.grants_grow_fetch _ _)
  · rw [he, Store.grants_fetch_segment ha]
    intro g'
    have := h g'
    rw [hs] at this
    simp only [Option.toList_some, Option.toList_none, List.count_append, List.count_nil] at this ⊢
    omega

theorem supplied_change {note : Note} (h : Change b σ note b' σ')
    (hput : ∀ g m, note ≠ .put g m) (hb : b.Supplied installed (σ.grants b.tag)) :
    b'.Supplied (installed ++ note.install?.toList) (σ'.grants b.tag) := by
  have hsame : b.Supplied (installed ++ []) (σ.grants b.tag) := by rwa [List.append_nil]
  have hmono : b.Supplied (installed ++ []) ((σ.fetch b.tag).2.grants b.tag) :=
    hsame.mono (σ.grants_grow_fetch _ _)
  have hreceive : (b.receive (σ.fetch b.tag).1).1.Supplied (installed ++ [])
      ((σ.fetch b.tag).2.grants b.tag) := hsame.receive
  cases h with
  | promoted hx hr hs hg =>
    intro g'
    have := hb g'
    rw [hs] at this
    simp only [install?, Option.toList_some, Option.toList_none, List.count_append,
      List.count_nil] at this ⊢
    omega
  | cleared hr hs =>
    intro g'
    have := hb g'
    simp only [install?, Option.toList_none, List.count_append, List.count_nil]
    omega
  | refilled hx hr ha hv =>
    intro g'
    have := hb g'
    rw [Store.grants_fetch_segment ha]
    simp only [install?, Option.toList_some, Option.toList_none, List.count_append, List.count_nil]
    omega
  | refused ha => exact hmono
  | poisoned ha => exact hmono
  | due hw => exact hreceive
  | direct => exact hreceive
  | finished => exact hreceive
  | put g m hp => exact absurd rfl (hput g m)
  | _ => exact hsame

theorem serving_changes (h : Changes b σ notes b' σ') (hput : ∀ g m, .put g m ∉ notes)
    (hs : b.Sound c) (hserved : b.Served installed ids)
    (hsupplied : b.Supplied installed (σ.grants b.tag)) :
    b'.Served (installed ++ notes.filterMap install?) (ids ++ notes.filterMap claim?) ∧
      b'.Supplied (installed ++ notes.filterMap install?) (σ'.grants b.tag) := by
  induction h generalizing c installed ids with
  | nil =>
    simp only [List.filterMap_nil, List.append_nil]
    exact ⟨hserved, hsupplied⟩
  | @cons b σ note b₁ σ₁ notes b₂ σ₂ hc _ ih =>
    have hne : ∀ g m, note ≠ .put g m := fun g m he => hput g m (he ▸ List.mem_cons_self)
    have hfair : note.IsFair := by
      cases note with
      | put g m => exact absurd rfl (hne g m)
      | _ => trivial
    have htail := ih (fun g m hm => hput g m (List.mem_cons_of_mem _ hm)) (hs.change hc hfair)
      (served_change hc hs hserved) (by rw [tag_change hc]; exact supplied_change hc hne hsupplied)
    rw [tag_change hc] at htail
    rw [filterMap_cons_eq, filterMap_cons_eq, ← List.append_assoc, ← List.append_assoc]
    exact htail

end Buffer

end IdIssuer
