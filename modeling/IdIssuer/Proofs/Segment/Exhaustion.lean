import IdIssuer.Proofs.Buffer.Counter

/-!
# Claims in a row

Claims on a segment yield its ids in order and nothing from then on (`fst_advanceMany`). The cursor
goes on all the same, but the ids of a valid segment lie in the lower half of the words: it takes
more than `2 ^ 63` claims before the cursor wraps to zero and ids are handed out again, from one on.
What a single claim of a row yields is known for every segment (`getElem?_advanceMany`).
-/

namespace IdIssuer

namespace Segment

variable {s : Segment} {base max step : UInt64} {n k : ℕ}

/-! ## The row of claims -/

/-- Each claim moves the cursor by one, whether it succeeds or not. -/
theorem snd_advanceMany (n : ℕ) (s : Segment) :
    (advanceMany n s).2 = { s with cursor := s.cursor + .ofNat n } := by
  induction n generalizing s with
  | zero => simp [advanceMany]
  | succ n ih =>
    have hcursor : s.cursor + 1 + .ofNat n = s.cursor + .ofNat (n + 1) := by
      rw [UInt64.add_assoc, UInt64.add_comm 1, UInt64.ofNat_add]
      rfl
    have hrest := ih s.advance.2
    rw [cursor_advance, hcursor] at hrest
    exact hrest

@[simp] theorem max_advanceMany (n : ℕ) (s : Segment) : (advanceMany n s).2.max = s.max := by
  rw [snd_advanceMany]

theorem toNat_cursor_advanceMany (n : ℕ) (s : Segment) :
    (advanceMany n s).2.cursor.toNat = (s.cursor.toNat + n) % 2 ^ 64 := by
  rw [snd_advanceMany, UInt64.toNat_add, UInt64.toNat_ofNat', Nat.add_mod_mod]

theorem fst_advanceMany_succ (n : ℕ) (s : Segment) :
    (advanceMany (n + 1) s).1 = (advanceMany n s).1 ++ [(advanceMany n s).2.advance.1] := by
  induction n generalizing s with
  | zero => rfl
  | succ n ih => exact congrArg (s.advance.1 :: ·) (ih s.advance.2)

theorem getElem?_advanceMany (s : Segment) (h : k < n) :
    (advanceMany n s).1[k]? = some (advanceMany k s).2.advance.1 := by
  induction n generalizing k s with
  | zero => cases h
  | succ n ih =>
    cases k with
    | zero => rfl
    | succ k => exact ih s.advance.2 (Nat.lt_of_succ_lt_succ h)

/-- A claim yields the number after the cursor, which a word can hold. -/
theorem toNat_advance (s : Segment) :
    s.advance.1.map UInt64.toNat =
      if s.cursor.toNat < s.max.toNat then some (s.cursor.toNat + 1) else none := by
  split_ifs with h
  · have hlt : s.cursor < s.max := UInt64.lt_iff_toNat_lt.2 h
    rw [advance_of_lt hlt, Option.map_some, toNat_cursor_succ (succ_lt_of_lt hlt)]
  · rw [advance_of_le (UInt64.le_iff_toNat_le.2 (Nat.le_of_not_lt h)), Option.map_none]

/-! ## The row as a list -/

theorem toNat_getElem?_between (base max : UInt64) (n : ℕ) :
    (between base max)[n]?.map UInt64.toNat =
      if base.toNat + n < max.toNat then some (base.toNat + n + 1) else none := by
  rw [← List.getElem?_map, map_toNat_between, length_between]
  split_ifs with h
  · rw [List.getElem?_range' (by omega), Nat.one_mul, Nat.add_right_comm]
  · exact List.getElem?_eq_none (by rw [List.length_range']; omega)

/-- One more entry of a list, or nothing if there is none. -/
theorem take_succ_append_replicate {α : Type*} (l : List α) (n : ℕ) :
    (l.take (n + 1)).map some ++ List.replicate (n + 1 - l.length) none =
      (l.take n).map some ++ List.replicate (n - l.length) none ++ [l[n]?] := by
  rcases Nat.lt_or_ge n l.length with hlt | hge
  · have hnone : n - l.length = 0 := by omega
    have hnext : n + 1 - l.length = 0 := by omega
    rw [hnone, hnext, List.take_add_one, List.getElem?_eq_getElem hlt, List.map_append,
      List.replicate_zero, List.append_nil, List.append_nil]
    rfl
  · have hnext : n + 1 - l.length = n - l.length + 1 := by omega
    rw [hnext, List.replicate_succ', List.getElem?_eq_none hge, List.take_of_length_le hge,
      List.take_of_length_le (Nat.le_succ_of_le hge), List.append_assoc]

theorem toNat_cursor_new (max step : UInt64) (hn : n < 2 ^ 64 - base.toNat) :
    (advanceMany n (new base max step)).2.cursor.toNat = base.toNat + n := by
  rw [toNat_cursor_advanceMany, cursor_new]
  exact Nat.mod_eq_of_lt (by omega)

/-- As long as the cursor does not wrap, claims yield the ids of the segment, then nothing. -/
theorem fst_advanceMany (hn : n ≤ 2 ^ 64 - base.toNat) :
    (advanceMany n (new base max step)).1 =
      ((between base max).take n).map some ++
        List.replicate (n - (max.toNat - base.toNat)) none := by
  rw [← length_between]
  induction n with
  | zero => simp [advanceMany]
  | succ n ih =>
    have hcursor := toNat_cursor_new max step (Nat.lt_of_succ_le hn)
    have hnext : (advanceMany n (new base max step)).2.advance.1 = (between base max)[n]? := by
      apply Option.map_injective fun _ _ => UInt64.toNat_inj.1
      rw [toNat_advance, hcursor, max_advanceMany, toNat_getElem?_between]
      rfl
    rw [fst_advanceMany_succ, ih (Nat.le_of_succ_le hn), take_succ_append_replicate, hnext]

/-! ## What readers see -/

/-- A segment reads as one that has been claimed from a number of times since it was new. -/
structure ReadsAfter (base max : UInt64) (n : ℕ) (s : Segment) : Prop where
  position : s.position.toNat = min (base.toNat + n) max.toNat
  remaining : s.remaining.toNat = max.toNat - s.position.toNat
  exhausted : s.isExhausted = true ↔ max.toNat - base.toNat ≤ n

theorem readsAfter_advanceMany (hn : n < 2 ^ 64 - base.toNat) :
    ReadsAfter base max n (advanceMany n (new base max step)).2 := by
  have hcursor := toNat_cursor_new max step hn
  constructor
  · rw [toNat_position, hcursor, max_advanceMany, max_new]
  · rw [toNat_remaining, max_advanceMany, max_new]
  · rw [isExhausted_iff, UInt64.le_iff_toNat_le, hcursor, max_advanceMany, max_new]
    omega

/-! ## The first time round and after -/

theorem two_pow_lt_of_isValid (h : (new base max step).isValid = true) :
    2 ^ 63 + 1 ≤ 2 ^ 64 - base.toNat := by
  have hbounds := isValid_iff.1 h
  rw [base_new, max_new] at hbounds
  omega

theorem cursor_advanceMany_wrap (base max step : UInt64) :
    (advanceMany (2 ^ 64 - base.toNat) (new base max step)).2.cursor = 0 := by
  have hbase := base.toNat_lt
  have hsum : base.toNat + (2 ^ 64 - base.toNat) = 2 ^ 64 := by omega
  apply UInt64.toNat_inj.1
  rw [toNat_cursor_advanceMany, cursor_new, hsum, Nat.mod_self]
  rfl

/-- Claims on a new segment that is valid yield its ids in order and then nothing, as long as the
cursor does not wrap, and readers see how far they have come. More than half of all words lie before
that. The claim after that finds the cursor at zero again. Of any segment, the claim at a place `k`,
counted from zero, yields the number after the cursor, which does not overflow. -/
theorem exhaustion (base max step : UInt64) :
    ((new base max step).isValid = true →
      2 ^ 63 + 1 ≤ 2 ^ 64 - base.toNat ∧
      (∀ n ≤ 2 ^ 64 - base.toNat, (advanceMany n (new base max step)).1 =
        ((between base max).take n).map some ++
          List.replicate (n - (max.toNat - base.toNat)) none) ∧
      ∀ n < 2 ^ 64 - base.toNat, ReadsAfter base max n (advanceMany n (new base max step)).2) ∧
    (∀ s, (advanceMany (2 ^ 64 - base.toNat) (new base max step)).2 = s →
      s.cursor = 0 ∧ (0 < max → s.advance.1 = some 1)) ∧
    ∀ n, ∀ k < n, ∃ id, (advanceMany n (new base max step)).1[k]? = some id ∧
      id.map UInt64.toNat = if (base.toNat + k) % 2 ^ 64 < max.toNat
        then some ((base.toNat + k) % 2 ^ 64 + 1) else none := by
  refine ⟨fun hvalid => ⟨two_pow_lt_of_isValid hvalid, fun n => fst_advanceMany,
    fun n => readsAfter_advanceMany⟩, ?_, fun n k hk => ?_⟩
  · rintro s rfl
    have hzero := cursor_advanceMany_wrap base max step
    refine ⟨hzero, fun hmax => ?_⟩
    rw [advance_of_lt (by rwa [hzero, max_advanceMany]), hzero]
    rfl
  · refine ⟨_, getElem?_advanceMany _ hk, ?_⟩
    rw [toNat_advance, toNat_cursor_advanceMany, max_advanceMany]
    rfl

theorem exhaustion_of_two :
    (advanceMany 4 (new 5 7 2)).1 = [some 6, some 7, none, none] ∧
    ReadsAfter 5 7 4 (advanceMany 4 (new 5 7 2)).2 ∧
    (advanceMany (2 ^ 64 - 5) (new 5 7 2)).2.advance.1 = some 1 ∧
    ∃ id, (advanceMany 3 (new 18446744073709551614 2 1)).1[2]? = some id ∧
      id.map UInt64.toNat = some 1 := by
  obtain ⟨hvalid, hwrap, -⟩ := exhaustion 5 7 2
  obtain ⟨-, hlist, hreads⟩ := hvalid (by decide)
  have hrow := (exhaustion 18446744073709551614 2 1).2.2
  exact ⟨hlist 4 (by decide), hreads 4 (by decide), (hwrap _ rfl).2 (by decide),
    hrow 3 2 (by decide)⟩

end Segment

end IdIssuer
