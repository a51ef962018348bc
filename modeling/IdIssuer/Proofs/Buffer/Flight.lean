import IdIssuer.Proofs.Buffer.Operation

/-!
# The flag of a prefetch under way

A buffer is `loading` from the moment it starts a prefetch until that prefetch has ended or is
given up. An operation leaves a prefetch to be run later only if none is under way, and the flag is
up from then on (`starts_operate`). No other operation than the end of a prefetch takes it down.
A buffer never changes its spawner, and unless that queues prefetches, none is ever left
(`posts_operate`).
-/

namespace IdIssuer

namespace Buffer

variable {b : Buffer} {σ : Store}

/-- The flag goes up with a prefetch that is left to be run later, and does not move otherwise. -/
def Starts {α : Type} (b : Buffer) (turn : Turn α) : Prop :=
  turn.buffer.loading.toNat = b.loading.toNat + turn.queued.toNat

theorem loading_receive (b : Buffer) (answer : Answer) :
    (b.receive answer).1.loading = b.loading := by
  rcases b.receive_cases answer with ⟨h, -⟩ | ⟨g, -, -, -, -, h⟩ <;> rw [h]

theorem starts_check (b : Buffer) (σ : Store) : b.Starts (b.check σ) := by
  unfold Starts check
  by_cases hw : b.wantsPrefetch = true
  · have hl := (flags_of_wantsPrefetch hw).2
    rw [if_pos hw, hl, startPrefetch]
    cases b.spawner <;> rfl
  · rw [if_neg hw]
    rfl

theorem starts_nextWaiting (b : Buffer) (σ : Store) : b.Starts (b.nextWaiting σ) := by
  obtain ⟨⟨_, _, _, _, hb⟩, hqueued, -, -⟩ := b.nextWaiting_frame σ
  rw [Starts, hb, hqueued]
  rfl

theorem starts_next (b : Buffer) (σ : Store) : b.Starts (b.next σ) := by
  unfold Starts next
  rw [show b.claim = (b.claim.1, b.claim.2) from rfl]
  cases b.claim.1 with
  | some id => exact starts_check b.claim.2 σ
  | none => exact starts_nextWaiting b.claim.2 σ

theorem starts_operate (b : Buffer) (σ : Store) {op : Operation} (hf : op ≠ .finish)
    (hd : op ≠ .drop) : b.Starts (b.operate σ op) := by
  cases op with
  | next => exact b.starts_next σ
  | check => exact b.starts_check σ
  | prefetch => exact congrArg Bool.toNat (b.loading_receive _)
  | finish => exact absurd rfl hf
  | drop => exact absurd rfl hd
  | put g m =>
    simp only [Starts, operate, putStaged?]
    split_ifs <;> rfl
  | mark => rfl

/-- The flag is down after the end of a prefetch. -/
theorem ends_operate (b : Buffer) (σ : Store) {op : Operation} (h : op = .finish ∨ op = .drop) :
    (b.operate σ op).buffer.loading = false ∧ (b.operate σ op).queued = false := by
  rcases h with rfl | rfl <;> exact ⟨rfl, rfl⟩

/-! ## Spawners -/

/-- The spawner stays, and a prefetch is left to be run later only if that queues it. -/
def Posts {α : Type} (b : Buffer) (turn : Turn α) : Prop :=
  turn.buffer.spawner = b.spawner ∧ (turn.queued = true → b.spawner = .queueing)

theorem spawner_receive (b : Buffer) (answer : Answer) :
    (b.receive answer).1.spawner = b.spawner := by
  rcases b.receive_cases answer with ⟨h, -⟩ | ⟨g, -, -, -, -, h⟩ <;> rw [h]

theorem posts_check (b : Buffer) (σ : Store) : b.Posts (b.check σ) := by
  obtain ⟨_, _, spawner, _, _, _, _, _⟩ := b
  unfold Posts check startPrefetch
  split_ifs
  · cases spawner with
    | inline | detached => exact ⟨spawner_receive _ _, nofun⟩
    | dropping => exact ⟨rfl, nofun⟩
    | queueing => exact ⟨rfl, fun _ => rfl⟩
  · exact ⟨rfl, nofun⟩

theorem posts_next (b : Buffer) (σ : Store) : b.Posts (b.next σ) := by
  unfold Posts next
  rw [show b.claim = (b.claim.1, b.claim.2) from rfl]
  cases b.claim.1 with
  | some id => exact posts_check b.claim.2 σ
  | none =>
    obtain ⟨⟨_, _, _, _, hb⟩, hqueued, -, -⟩ := b.claim.2.nextWaiting_frame σ
    dsimp only
    rw [hb, hqueued]
    exact ⟨rfl, nofun⟩

theorem posts_operate (b : Buffer) (σ : Store) (op : Operation) : b.Posts (b.operate σ op) := by
  cases op with
  | next => exact b.posts_next σ
  | check => exact b.posts_check σ
  | prefetch | finish => exact ⟨b.spawner_receive _, nofun⟩
  | drop | mark => exact ⟨rfl, nofun⟩
  | put g m =>
    refine ⟨?_, nofun⟩
    simp only [operate, putStaged?]
    split_ifs <;> rfl

end Buffer

end IdIssuer
