import IdIssuer.Proofs.Allocator
import IdIssuer.Proofs.Pool.Isolation

/-!
# What an allocator has to do with a tag

The share of a tag in an allocator is the buffer that it knows for the tag, and how it creates one.
Using another tag leaves the share alone (`buffer_of_ne`), and using the tag itself depends on the
share and on what the pool has to do with the tag (`buffer_alike`).
-/

namespace IdIssuer

open Pool

namespace Allocator

/-- What an allocator has to do with a tag. -/
structure Share where
  config : Config
  spawner : Spawner
  known : Option BufferId
  poisoned : Bool

def share (a : Allocator) (tag : String) : Share :=
  ⟨a.config, a.spawner, a.buffers.get? tag, a.poisoned⟩

/-- Every buffer that the allocator knows is of the tag under which it is known. -/
def IsFiled (a : Allocator) : Prop := ∀ tag id, a.buffers.get? tag = some id → id.tag = tag

variable {a a' : Allocator} {p q : Pool} {tag t : String}

theorem isFiled_new (config : Config) (spawner : Spawner) : (new config spawner).IsFiled := by
  intro tag id h
  cases (Table.get?_empty tag).symm.trans h

/-- The buffer that an allocator gets at is of the tag. -/
theorem IsFiled.buffer (h : a.IsFiled) (t : String) (p : Pool) :
    (a.buffer t p).2.1.IsFiled ∧
      ∀ id b, (a.buffer t p).1 = .done (id, b) → id.tag = t := by
  have hopened := a.opened t p
  generalize a.buffer t p = made at hopened
  cases hopened with
  | locked | invalid | refused | unwound => exact ⟨h, nofun⟩
  | @found id b _ hf =>
    refine ⟨h, fun id' b' he => ?_⟩
    cases he
    exact h t id (find?_eq_some hf).1
  | created =>
    refine ⟨fun tag id hget => ?_, fun id b he => ?_⟩
    · rw [Table.get?_insert] at hget
      split_ifs at hget with ht
      · cases hget
        exact ht
      · exact h tag id hget
    · cases he
      rfl

/-- Using another tag concerns nothing of the tag. -/
theorem buffer_of_ne (h : Pool.Alike tag p q) (ht : t ≠ tag) (a : Allocator) :
    Pool.Alike tag (a.buffer t p).2.2 q ∧ (a.buffer t p).2.1.share tag = a.share tag := by
  unfold Allocator.buffer
  split_ifs
  · exact ⟨h, rfl⟩
  cases a.find? t p with
  | some found => exact ⟨h, rfl⟩
  | none =>
    dsimp only
    have hcalm := create_ne_panicked (by rw [h.left.free]; exact isCalm_free) t a.config a.spawner
    have hp := h.create_of_ne ht a.config a.spawner
    generalize p.create t a.config a.spawner = made at hcalm hp
    obtain ⟨outcome, p'⟩ := made
    cases outcome with
    | done created => exact ⟨hp.tell _, by simp [share, ht]⟩
    | failed error => exact ⟨hp, rfl⟩
    | panicked call => exact absurd rfl (hcalm call)

theorem find?_alike (h : Pool.Alike tag p q) (filed : a.IsFiled)
    (ha : a.share tag = a'.share tag) : a.find? tag p = a'.find? tag q := by
  have hknown : a.buffers.get? tag = a'.buffers.get? tag := congrArg Share.known ha
  unfold find?
  rw [← hknown]
  cases hid : a.buffers.get? tag with
  | none => rfl
  | some id =>
    cases filed tag id hid
    rw [Option.bind_some, Option.bind_some, h.buffer?]

/-- Using the tag comes to the same. -/
theorem buffer_alike (h : Pool.Alike tag p q) (filed : a.IsFiled)
    (ha : a.share tag = a'.share tag) :
    (a.buffer tag p).1 = (a'.buffer tag q).1 ∧
      Pool.Alike tag (a.buffer tag p).2.2 (a'.buffer tag q).2.2 ∧
      (a.buffer tag p).2.1.share tag = (a'.buffer tag q).2.1.share tag := by
  have hfind := find?_alike h filed ha
  obtain ⟨config, spawner, buffers, poisoned⟩ := a
  obtain ⟨config', spawner', buffers', poisoned'⟩ := a'
  simp only [share, Share.mk.injEq] at ha
  obtain ⟨rfl, rfl, hknown, rfl⟩ := ha
  have hshare (poisoned : Bool) : share ⟨config, spawner, buffers, poisoned⟩ tag =
      share ⟨config, spawner, buffers', poisoned⟩ tag := by simp only [share, hknown]
  unfold Allocator.buffer
  rw [hfind]
  dsimp only
  split_ifs
  · exact ⟨rfl, h, hshare _⟩
  cases find? ⟨config, spawner, buffers', poisoned⟩ tag q with
  | some found => exact ⟨rfl, h, hshare _⟩
  | none =>
    dsimp only
    obtain ⟨houtcome, hp⟩ := h.create config spawner
    generalize p.create tag config spawner = made at houtcome hp
    generalize q.create tag config spawner = made' at houtcome hp
    obtain ⟨outcome, p'⟩ := made
    obtain ⟨outcome', q'⟩ := made'
    cases houtcome
    cases outcome with
    | done created =>
      refine ⟨rfl, ((hp.tell _).symm.tell _).symm, ?_⟩
      simp only [share, Table.get?_insert, if_true]
    | failed error => exact ⟨rfl, hp, hshare _⟩
    | panicked call => exact ⟨rfl, hp, hshare _⟩

theorem get_of_ne (h : Pool.Alike tag p q) (filed : a.IsFiled) (ht : t ≠ tag) :
    Pool.Alike tag (a.get t p).2.2 q := by
  have hpool := (buffer_of_ne h ht a).1
  have htag := (filed.buffer t p).2
  have hb (id b) := @buffer?_buffer p a t id b
  unfold get
  generalize a.buffer t p = opened at hpool htag hb
  obtain ⟨outcome, a₁, p₁⟩ := opened
  cases outcome with
  | done found =>
    obtain ⟨id, b⟩ := found
    exact hpool.next_of_ne (hb id b rfl) (by rwa [htag id b rfl])
  | failed _ | panicked _ => exact hpool

theorem get_alike (h : Pool.Alike tag p q) (filed : a.IsFiled) (ha : a.share tag = a'.share tag) :
    (a.get tag p).1 = (a'.get tag q).1 ∧
      Pool.Alike tag (a.get tag p).2.2 (a'.get tag q).2.2 := by
  obtain ⟨houtcome, hpool, -⟩ := buffer_alike h filed ha
  have htag := (filed.buffer tag p).2
  have hb (id b) := @buffer?_buffer p a tag id b
  unfold get
  generalize a.buffer tag p = opened at houtcome hpool htag hb
  generalize a'.buffer tag q = opened' at houtcome hpool
  obtain ⟨outcome, a₁, p₁⟩ := opened
  obtain ⟨outcome', a₁', q₁⟩ := opened'
  cases houtcome
  cases outcome with
  | done found =>
    obtain ⟨id, b⟩ := found
    cases htag id b rfl
    exact hpool.next (hb id b rfl)
  | failed _ | panicked _ => exact ⟨rfl, hpool⟩

end Allocator

end IdIssuer
