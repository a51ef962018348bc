import IdIssuer.Proofs.Store.Grants
import Mathlib.Data.List.Induction

/-!
# A ledger tiles the id space

Whatever is asked of a new ledger, and in whatever order, the segments that it yields for a tag lie
end to end: the first starts at the boundary with which the tag was registered, each of the others
where the one before it ends, and the last ends at the boundary that the tag has reached
(`segments_tile`). Each is as long as the step that was set last. A reservation of a registered tag
is refused just when it would pass the id space, and otherwise yields the ids from the boundary up
to the sum of boundary and step. A request that is refused changes nothing.

The proof reads all this off the exchanges so far: `Reflects` says what of them the ledger keeps,
and every answer keeps it up.
-/

namespace IdIssuer

namespace Segment

/-- Segments with ids in them that lie end to end from `lo` to `hi`. -/
def Tile : UInt64 → List Segment → UInt64 → Prop
  | lo, [], hi => lo = hi
  | lo, g :: rest, hi => g.base = lo ∧ g.base < g.max ∧ Tile g.max rest hi

/-- The id lies in the segment. -/
def covers (s : Segment) (n : UInt64) : Bool := s.base < n ∧ n ≤ s.max

variable {lo hi : UInt64} {segments : List Segment}

theorem Tile.concat (h : Tile lo segments hi) {g : Segment} (hbase : g.base = hi)
    (hlt : g.base < g.max) : Tile lo (segments ++ [g]) g.max := by
  induction segments generalizing lo with
  | nil => exact ⟨hbase.trans h.symm, hlt, rfl⟩
  | cons head rest ih => exact ⟨h.1, h.2.1, ih h.2.2⟩

theorem Tile.le (h : Tile lo segments hi) : lo.toNat ≤ hi.toNat := by
  induction segments generalizing lo with
  | nil => exact Nat.le_of_eq (congrArg UInt64.toNat h)
  | cons head rest ih =>
    obtain ⟨rfl, hlt, hrest⟩ := h
    rw [UInt64.lt_iff_toNat_lt] at hlt
    exact Nat.le_trans (Nat.le_of_lt hlt) (ih hrest)

/-- An id between the two ends lies in one of the segments, and any other in none. -/
theorem Tile.countP_covers (h : Tile lo segments hi) (n : UInt64) :
    segments.countP (·.covers n) = if lo < n ∧ n ≤ hi then 1 else 0 := by
  induction segments generalizing lo with
  | nil =>
    cases h
    rw [List.countP_nil, if_neg]
    simp only [UInt64.lt_iff_toNat_lt, UInt64.le_iff_toNat_le]
    omega
  | cons head rest ih =>
    obtain ⟨rfl, hlt, hrest⟩ := h
    have hle := hrest.le
    rw [UInt64.lt_iff_toNat_lt] at hlt
    rw [List.countP_cons, ih hrest]
    simp only [covers, decide_eq_true_eq, UInt64.lt_iff_toNat_lt, UInt64.le_iff_toNat_le]
    split_ifs <;> omega

end Segment

namespace Ledger

/-- A request with the answer to it. -/
structure Exchange where
  request : Request
  answer : Except StoreError Response

/-- Answers requests in order. -/
def serve (l : Ledger) : List Request → List Exchange × Ledger
  | [] => ([], l)
  | request :: rest =>
    let (answer, l) := l.answer request
    let (exchanges, l) := l.serve rest
    (⟨request, answer⟩ :: exchanges, l)

/-! ## What is read off the exchanges -/

namespace Exchange

/-- The segment that was yielded for a tag. -/
def segment? (tag : String) : Exchange → Option Segment
  | ⟨.fetch t, .ok (.segment g)⟩ => if t = tag then some g else none
  | _ => none

/-- The boundary with which a tag was registered. -/
def origin? (tag : String) : Exchange → Option UInt64
  | ⟨.register t boundary _, .ok _⟩ => if t = tag then some boundary else none
  | _ => none

/-- The step that was set for a tag, be it with its registration or later. -/
def step? (tag : String) : Exchange → Option UInt64
  | ⟨.register t _ step, .ok _⟩ | ⟨.setStep t step, .ok _⟩ => if t = tag then some step else none
  | _ => none

/-- A segment was yielded for some tag. -/
def isGrant : Exchange → Bool
  | ⟨.fetch _, .ok _⟩ => true
  | _ => false

end Exchange

variable {l : Ledger} {tag : String} {exchanges : List Exchange}

/-- The segments that were yielded for a tag, oldest first. -/
def segments (tag : String) (exchanges : List Exchange) : List Segment :=
  exchanges.filterMap (·.segment? tag)

/-- The boundaries with which a tag was registered. -/
def origins (tag : String) (exchanges : List Exchange) : List UInt64 :=
  exchanges.filterMap (·.origin? tag)

/-- The step that was set last for a tag. -/
def lastStep? (tag : String) (exchanges : List Exchange) : Option UInt64 :=
  (exchanges.filterMap (·.step? tag)).getLast?

/-- The number of segments that were yielded, whatever their tags. -/
def grantCount (exchanges : List Exchange) : ℕ := exchanges.countP (·.isGrant)

theorem serve_concat (l : Ledger) (requests : List Request) (r : Request) :
    l.serve (requests ++ [r]) =
      ((l.serve requests).1 ++ [⟨r, ((l.serve requests).2.answer r).1⟩],
        ((l.serve requests).2.answer r).2) := by
  induction requests generalizing l with
  | nil => rfl
  | cons head rest ih => simp [serve, ih]

theorem segments_concat (tag : String) (exchanges : List Exchange) (e : Exchange) :
    segments tag (exchanges ++ [e]) = segments tag exchanges ++ (e.segment? tag).toList := by
  rw [segments, List.filterMap_append, segments]
  cases h : e.segment? tag <;> simp [h]

theorem origins_concat (tag : String) (exchanges : List Exchange) (e : Exchange) :
    origins tag (exchanges ++ [e]) = origins tag exchanges ++ (e.origin? tag).toList := by
  rw [origins, List.filterMap_append, origins]
  cases h : e.origin? tag <;> simp [h]

theorem lastStep?_concat (tag : String) (exchanges : List Exchange) (e : Exchange) :
    lastStep? tag (exchanges ++ [e]) = (e.step? tag).or (lastStep? tag exchanges) := by
  rw [lastStep?, List.filterMap_append, lastStep?]
  cases h : e.step? tag <;> simp [h]

theorem grantCount_concat (exchanges : List Exchange) (e : Exchange) :
    grantCount (exchanges ++ [e]) = grantCount exchanges + if e.isGrant then 1 else 0 := by
  rw [grantCount, List.countP_append, List.countP_singleton, grantCount]

/-! ## What the ledger keeps -/

/-- The row of a tag after some exchanges. -/
inductive Reflects (tag : String) (exchanges : List Exchange) : Option Row → Prop where
  | unregistered (ho : origins tag exchanges = []) (hs : segments tag exchanges = []) :
    Reflects tag exchanges none
  | registered {row} (origin : UInt64) (ho : origins tag exchanges = [origin])
    (ht : Segment.Tile origin (segments tag exchanges) row.boundary)
    (hstep : lastStep? tag exchanges = some row.step) (hpos : row.step ≠ 0)
    (hle : row.boundary ≤ idLimit) : Reflects tag exchanges (some row)

/-- The exchange says nothing of the tag, or only what its boundary is. -/
structure Exchange.IsSilent (e : Exchange) (tag : String) : Prop where
  segment : e.segment? tag = none
  origin : e.origin? tag = none
  step : e.step? tag = none

theorem isSilent_error (r : Request) (error : StoreError) (tag : String) :
    (⟨r, .error error⟩ : Exchange).IsSilent tag := by
  cases r <;> exact ⟨rfl, rfl, rfl⟩

theorem isSilent_of_ne {r : Request} (h : r.tag ≠ tag) (answer : Except StoreError Response) :
    (⟨r, answer⟩ : Exchange).IsSilent tag := by
  cases answer with
  | error error => exact isSilent_error r error tag
  | ok response =>
    cases r with
    | boundary t => exact ⟨rfl, rfl, rfl⟩
    | register t _ _ | setStep t _ => exact ⟨rfl, by simp_all [Exchange.origin?, Request.tag],
        by simp_all [Exchange.step?, Request.tag]⟩
    | fetch t =>
      refine ⟨?_, rfl, rfl⟩
      cases response <;> simp_all [Exchange.segment?, Request.tag]

theorem Reflects.silent {row? : Option Row} {e : Exchange} (h : Reflects tag exchanges row?)
    (he : e.IsSilent tag) : Reflects tag (exchanges ++ [e]) row? := by
  have hs : segments tag (exchanges ++ [e]) = segments tag exchanges := by
    rw [segments_concat, he.segment, Option.toList_none, List.append_nil]
  have ho : origins tag (exchanges ++ [e]) = origins tag exchanges := by
    rw [origins_concat, he.origin, Option.toList_none, List.append_nil]
  have hstep : lastStep? tag (exchanges ++ [e]) = lastStep? tag exchanges := by
    rw [lastStep?_concat, he.step, Option.none_or]
  cases h with
  | unregistered ho' hs' => exact .unregistered (ho.trans ho') (hs.trans hs')
  | registered origin ho' ht hstep' hpos hle =>
    exact .registered origin (ho.trans ho') (hs ▸ ht) (hstep.trans hstep') hpos hle

/-- What the ledger keeps of the exchanges so far. -/
structure Keeps (l : Ledger) (exchanges : List Exchange) : Prop where
  rows : ∀ tag, Reflects tag exchanges (l.rows.get? tag)
  fetches : l.fetches = .ofNat (grantCount exchanges)

theorem keeps_empty : empty.Keeps [] := ⟨fun _ => .unregistered rfl rfl, rfl⟩

/-- A request that is refused leaves the ledger as it is. -/
theorem answer_of_error {r : Request} {e : StoreError} (h : (l.answer r).1 = .error e) :
    (l.answer r).2 = l := by
  cases r with
  | register t boundary step =>
    rcases l.register_cases t boundary step with ⟨e', he⟩ | ⟨-, -, -, hok⟩
    · simp only [answer, he]
    · simp [answer, hok, Except.map] at h
  | setStep t step =>
    rcases l.setStep_cases t step with ⟨e', he⟩ | ⟨row, -, -, hok⟩
    · simp only [answer, he]
    · simp [answer, hok, Except.map] at h
  | boundary t => rfl
  | fetch t =>
    rcases l.fetch_cases t with ⟨e', he⟩ | ⟨row, g, -, -, hok⟩
    · simp only [answer, he]
    · simp [answer, hok, Except.map] at h

/-! ## One more exchange -/

/-- An answer for one tag leaves what is kept of the others as it is. -/
theorem Keeps.insert (h : l.Keeps exchanges) {r : Request} {answer : Except StoreError Response}
    {row : Row} {fetches : UInt64}
    (hfetches : fetches = .ofNat (grantCount (exchanges ++ [⟨r, answer⟩])))
    (hrow : Reflects r.tag (exchanges ++ [⟨r, answer⟩]) (some row)) :
    (⟨l.rows.insert r.tag row, fetches⟩ : Ledger).Keeps (exchanges ++ [⟨r, answer⟩]) := by
  refine ⟨fun tag => ?_, hfetches⟩
  rw [Table.get?_insert]
  split_ifs with ht
  · exact ht ▸ hrow
  · exact (h.rows tag).silent (isSilent_of_ne ht answer)

theorem isGrant_error (r : Request) (error : StoreError) :
    (⟨r, .error error⟩ : Exchange).isGrant = false := by cases r <;> rfl

/-- What is refused leaves nothing behind. -/
theorem Keeps.error (h : l.Keeps exchanges) {r : Request} {error : StoreError}
    (he : (l.answer r).1 = .error error) :
    (l.answer r).2.Keeps (exchanges ++ [⟨r, (l.answer r).1⟩]) := by
  rw [answer_of_error he, he]
  refine ⟨fun tag => (h.rows tag).silent (isSilent_error r error tag), ?_⟩
  rw [grantCount_concat, isGrant_error, h.fetches]
  rfl

theorem Keeps.register (h : l.Keeps exchanges) (tag : String) (boundary step : UInt64) :
    (l.answer (.register tag boundary step)).2.Keeps
      (exchanges ++
        [⟨.register tag boundary step, (l.answer (.register tag boundary step)).1⟩]) := by
  rcases l.register_cases tag boundary step with ⟨e, he⟩ | ⟨hnone, hstep, hle, hok⟩
  · have he' : (l.answer (.register tag boundary step)).1 = .error e := by
      simp [answer, he, Except.map]
    exact h.error he'
  have hrow := h.rows tag
  rw [hnone] at hrow
  cases hrow with
  | unregistered ho hs =>
    simp only [answer, hok]
    refine h.insert (r := .register tag boundary step) ?_
      (.registered boundary ?_ ?_ ?_ hstep hle)
    · rw [grantCount_concat, h.fetches]
      rfl
    · simp [origins_concat, ho, Exchange.origin?, Request.tag, Except.map]
    · simp [segments_concat, hs, Exchange.segment?, Request.tag, Segment.Tile]
    · simp [lastStep?_concat, Exchange.step?, Request.tag, Except.map]

theorem Keeps.setStep (h : l.Keeps exchanges) (tag : String) (step : UInt64) :
    (l.answer (.setStep tag step)).2.Keeps
      (exchanges ++ [⟨.setStep tag step, (l.answer (.setStep tag step)).1⟩]) := by
  rcases l.setStep_cases tag step with ⟨e, he⟩ | ⟨row, hsome, hstep, hok⟩
  · have he' : (l.answer (.setStep tag step)).1 = .error e := by simp [answer, he, Except.map]
    exact h.error he'
  have hrow := h.rows tag
  rw [hsome] at hrow
  cases hrow with
  | registered origin ho ht _ _ hle =>
    simp only [answer, hok]
    refine h.insert (r := .setStep tag step) ?_
      (.registered origin ?_ ?_ ?_ hstep hle)
    · rw [grantCount_concat, h.fetches]
      rfl
    · simp [origins_concat, ho, Exchange.origin?, Request.tag]
    · simp [segments_concat, ht, Exchange.segment?, Request.tag]
    · simp [lastStep?_concat, Exchange.step?, Request.tag, Except.map]

theorem Keeps.boundary (h : l.Keeps exchanges) (tag : String) :
    (l.answer (.boundary tag)).2.Keeps
      (exchanges ++ [⟨.boundary tag, (l.answer (.boundary tag)).1⟩]) := by
  refine ⟨fun t => (h.rows t).silent ⟨rfl, rfl, rfl⟩, ?_⟩
  rw [grantCount_concat]
  exact h.fetches

theorem Keeps.fetch (h : l.Keeps exchanges) (tag : String) :
    (l.answer (.fetch tag)).2.Keeps (exchanges ++ [⟨.fetch tag, (l.answer (.fetch tag)).1⟩]) := by
  rcases l.fetch_cases tag with ⟨e, he⟩ | ⟨row, g, hsome, hy, hok⟩
  · have he' : (l.answer (.fetch tag)).1 = .error e := by simp [answer, he, Except.map]
    exact h.error he'
  have hrow := h.rows tag
  rw [hsome] at hrow
  cases hrow with
  | registered origin ho ht hstep hpos hle =>
    have hmax : g.max ≤ idLimit := UInt64.le_iff_toNat_le.2 hy.max_le
    simp only [answer, hok]
    refine h.insert (r := .fetch tag) ?_ (.registered origin ?_ ?_ ?_ hpos hmax)
    · rw [grantCount_concat, h.fetches]
      exact (UInt64.ofNat_add _ 1).symm
    · simp [origins_concat, ho, Exchange.origin?, Request.tag]
    · simpa [segments_concat, Exchange.segment?, Request.tag, Except.map] using
        ht.concat hy.base (hy.lt hpos)
    · simp [lastStep?_concat, hstep, Exchange.step?, Request.tag]

theorem Keeps.answer (h : l.Keeps exchanges) (r : Request) :
    (l.answer r).2.Keeps (exchanges ++ [⟨r, (l.answer r).1⟩]) := by
  cases r with
  | register tag boundary step => exact h.register tag boundary step
  | setStep tag step => exact h.setStep tag step
  | boundary tag => exact h.boundary tag
  | fetch tag => exact h.fetch tag

theorem keeps_serve (requests : List Request) :
    (empty.serve requests).2.Keeps (empty.serve requests).1 := by
  induction requests using List.reverseRecOn with
  | nil => exact keeps_empty
  | append_singleton requests r ih =>
    rw [serve_concat]
    exact ih.answer r

/-! ## What a reservation is answered -/

/-- The answer to a reservation, told by what has been exchanged so far. -/
inductive Reserves (l : Ledger) (tag : String) (exchanges : List Exchange) :
    Except StoreError Response → Prop where
  | unknown (ho : origins tag exchanges = []) (hb : l.boundary tag = .error (.unknownTag tag)) :
    Reserves l tag exchanges (.error (.unknownTag tag))
  | overflow {origin boundary step} (ho : origins tag exchanges = [origin])
    (hb : l.boundary tag = .ok boundary) (hstep : lastStep? tag exchanges = some step)
    (hover : idLimit.toNat < boundary.toNat + step.toNat) :
    Reserves l tag exchanges (.error (.overflow tag boundary step))
  | granted {origin boundary step} (ho : origins tag exchanges = [origin])
    (hb : l.boundary tag = .ok boundary) (hstep : lastStep? tag exchanges = some step)
    (hpos : step ≠ 0) (hfits : boundary.toNat + step.toNat ≤ idLimit.toNat) :
    Reserves l tag exchanges (.ok (.segment (.new boundary (boundary + step) step)))

theorem Keeps.reserves (h : l.Keeps exchanges) (tag : String) :
    l.Reserves tag exchanges (l.answer (.fetch tag)).1 := by
  have hrow := h.rows tag
  cases hsome : l.rows.get? tag with
  | none =>
    rw [hsome] at hrow
    have hb : l.boundary tag = .error (.unknownTag tag) := by rw [Ledger.boundary, hsome]
    rw [Ledger.answer, fetch_of_unknown hsome]
    cases hrow with
    | unregistered ho _ => exact .unknown ho hb
  | some row =>
    rw [hsome] at hrow
    have hb : l.boundary tag = .ok row.boundary := by rw [Ledger.boundary, hsome]
    cases hrow with
    | registered origin ho _ hstep hpos _ =>
      rcases Nat.lt_or_ge idLimit.toNat (row.boundary.toNat + row.step.toNat) with hover | hfits
      · rw [Ledger.answer, fetch_of_overflows hsome hover]
        exact .overflow ho hb hstep hover
      · rw [Ledger.answer, fetch_of_fits hsome hfits]
        exact .granted ho hb hstep hpos hfits

/-- The sum of boundary and step, as natural numbers, decides what a registered tag is answered. -/
theorem Reserves.answer_eq {answer : Except StoreError Response} {boundary step : UInt64}
    (h : l.Reserves tag exchanges answer) (hb : l.boundary tag = .ok boundary)
    (hstep : lastStep? tag exchanges = some step) :
    answer = if boundary.toNat + step.toNat ≤ idLimit.toNat
      then .ok (.segment (.new boundary (boundary + step) step))
      else .error (.overflow tag boundary step) := by
  cases h with
  | unknown _ hb' => cases hb.symm.trans hb'
  | overflow _ hb' hstep' hover =>
    cases hb.symm.trans hb'
    cases hstep.symm.trans hstep'
    rw [if_neg (Nat.not_le.2 hover)]
  | granted _ hb' hstep' _ hfits =>
    cases hb.symm.trans hb'
    cases hstep.symm.trans hstep'
    rw [if_pos hfits]

/-- A segment is not empty, lies in the id space, and is as long as the step that was set last. -/
theorem Keeps.granted (h : l.Keeps exchanges) {g : Segment}
    (hg : (l.answer (.fetch tag)).1 = .ok (.segment g)) :
    g.base < g.max ∧ g.max ≤ idLimit ∧ g.max.toNat - g.base.toNat = g.step.toNat ∧
      lastStep? tag exchanges = some g.step := by
  have hreserves := h.reserves tag
  rw [hg] at hreserves
  cases hreserves with
  | @granted origin boundary step _ _ hstep hpos hfits =>
    have hy : Row.Yields ⟨boundary, step⟩ _ := Row.yields_of_fits hfits
    refine ⟨hy.lt hpos, UInt64.le_iff_toNat_le.2 hy.max_le, ?_, hstep⟩
    rw [hy.max]
    exact Nat.add_sub_cancel_left ..

/-- A reservation that is not refused yields the range from the boundary of the tag to the sum of
boundary and step. -/
theorem Keeps.granted_iff (h : l.Keeps exchanges) (response : Response) :
    (l.answer (.fetch tag)).1 = .ok response ↔
      ∃ boundary step, l.boundary tag = .ok boundary ∧ lastStep? tag exchanges = some step ∧
        boundary.toNat + step.toNat ≤ idLimit.toNat ∧
        response = .segment (.new boundary (boundary + step) step) := by
  have hreserves := h.reserves tag
  generalize (l.answer (.fetch tag)).1 = answer at hreserves ⊢
  constructor
  · rintro rfl
    cases hreserves with
    | granted _ hb hstep _ hfits => exact ⟨_, _, hb, hstep, hfits, rfl⟩
  · rintro ⟨boundary, step, hb, hstep, hfits, rfl⟩
    rw [hreserves.answer_eq hb hstep, if_pos hfits]

/-- A reservation is refused if the tag is not registered, or if the sum of its boundary and its
step, as natural numbers, passes the id space; and for no other reason. -/
theorem Keeps.refused_iff (h : l.Keeps exchanges) (error : StoreError) :
    (l.answer (.fetch tag)).1 = .error error ↔
      origins tag exchanges = [] ∧ error = .unknownTag tag ∨
      ∃ boundary step, l.boundary tag = .ok boundary ∧ lastStep? tag exchanges = some step ∧
        error = .overflow tag boundary step ∧ idLimit.toNat < boundary.toNat + step.toNat := by
  have hreserves := h.reserves tag
  generalize (l.answer (.fetch tag)).1 = answer at hreserves ⊢
  constructor
  · rintro rfl
    cases hreserves with
    | unknown ho _ => exact .inl ⟨ho, rfl⟩
    | overflow _ hb hstep hover => exact .inr ⟨_, _, hb, hstep, rfl, hover⟩
  · rintro (⟨ho, rfl⟩ | ⟨boundary, step, hb, hstep, rfl, hover⟩)
    · cases hreserves with
      | unknown => rfl
      | overflow ho' | granted ho' => cases ho.symm.trans ho'
    · rw [hreserves.answer_eq hb hstep, if_neg (Nat.not_le.2 hover)]

/-! ## Runs -/

theorem segments_tile (requests : List Request) (tag : String) :
    let exchanges := (empty.serve requests).1
    let l := (empty.serve requests).2
    (origins tag exchanges = [] ∧ segments tag exchanges = [] ∧
        l.boundary tag = .error (.unknownTag tag) ∨
      ∃ origin top, origins tag exchanges = [origin] ∧ l.boundary tag = .ok top ∧
        top ≤ idLimit ∧ Segment.Tile origin (segments tag exchanges) top ∧
        ∀ n, (segments tag exchanges).countP (·.covers n) = if origin < n ∧ n ≤ top then 1 else 0) ∧
    (∀ g, (l.answer (.fetch tag)).1 = .ok (.segment g) →
      g.base < g.max ∧ g.max ≤ idLimit ∧ g.max.toNat - g.base.toNat = g.step.toNat ∧
        lastStep? tag exchanges = some g.step) ∧
    (∀ response, (l.answer (.fetch tag)).1 = .ok response ↔
      ∃ boundary step, l.boundary tag = .ok boundary ∧ lastStep? tag exchanges = some step ∧
        boundary.toNat + step.toNat ≤ idLimit.toNat ∧
        response = .segment (.new boundary (boundary + step) step)) ∧
    (∀ error, (l.answer (.fetch tag)).1 = .error error ↔
      origins tag exchanges = [] ∧ error = .unknownTag tag ∨
      ∃ boundary step, l.boundary tag = .ok boundary ∧ lastStep? tag exchanges = some step ∧
        error = .overflow tag boundary step ∧ idLimit.toNat < boundary.toNat + step.toNat) ∧
    (∀ r error, (l.answer r).1 = .error error → (l.answer r).2 = l) ∧
    (grantCount exchanges < 2 ^ 64 → l.fetches.toNat = grantCount exchanges) := by
  intro exchanges l
  have hkeeps : l.Keeps exchanges := keeps_serve requests
  refine ⟨?_, fun g => hkeeps.granted, hkeeps.granted_iff, hkeeps.refused_iff,
    fun r error => answer_of_error, ?_⟩
  · have hrow := hkeeps.rows tag
    simp only [boundary]
    cases hsome : l.rows.get? tag with
    | none =>
      rw [hsome] at hrow
      cases hrow with
      | unregistered ho hs => exact .inl ⟨ho, hs, rfl⟩
    | some row =>
      rw [hsome] at hrow
      cases hrow with
      | registered origin ho ht _ _ hle =>
        exact .inr ⟨origin, row.boundary, ho, rfl, hle, ht, ht.countP_covers⟩
  · intro hfew
    rw [hkeeps.fetches]
    exact UInt64.toNat_ofNat_of_lt' hfew

/-- Two tags. The boundary of "b" is the largest id there is, and its step takes the sum of both
past the word, to where it would fit again. -/
def mixedRequests : List Request :=
  [.register "a" 5 2, .fetch "a", .setStep "a" 3, .register "b" idLimit 0xFFFFFFFFFFFFFFFF,
    .fetch "b", .fetch "a", .register "a" 0 1]

/-- The step of "a" changes between its two segments, and both what "b" asks for and the second
registration of "a" are refused. Another reservation of "a" goes on from where it is. -/
theorem segments_tile_mixed :
    let exchanges := (empty.serve mixedRequests).1
    let l := (empty.serve mixedRequests).2
    segments "a" exchanges = [.new 5 7 2, .new 7 10 3] ∧
    Segment.Tile 5 (segments "a" exchanges) 10 ∧
    (l.answer (.fetch "a")).1 = .ok (.segment (.new 10 13 3)) ∧
    (l.answer (.fetch "b")).1 = .error (.overflow "b" idLimit 0xFFFFFFFFFFFFFFFF) ∧
    l.fetches.toNat = 2 := by
  intro exchanges l
  obtain ⟨htiles, -, hgranted, -, -, hfetches⟩ := segments_tile mixedRequests "a"
  obtain ⟨-, -, -, hrefused, -, -⟩ := segments_tile mixedRequests "b"
  have horigins : origins "a" exchanges = [5] := by decide +kernel
  have hboundary : l.boundary "a" = .ok 10 := by decide +kernel
  have hgrants : grantCount exchanges = 2 := by decide +kernel
  refine ⟨by decide +kernel, ?_, ?_, ?_, ?_⟩
  · rcases htiles with ⟨hnone, -⟩ | ⟨origin, top, horigin, htop, -, htile, -⟩
    · cases horigins.symm.trans hnone
    · cases horigins.symm.trans horigin
      cases hboundary.symm.trans htop
      exact htile
  · exact (hgranted _).2 ⟨10, 3, hboundary, by decide +kernel, by decide, rfl⟩
  · exact (hrefused _).2 (.inr ⟨_, _, by decide +kernel, by decide +kernel, rfl, by decide⟩)
  · exact (hfetches (by rw [hgrants]; decide)).trans hgrants

end Ledger

end IdIssuer
