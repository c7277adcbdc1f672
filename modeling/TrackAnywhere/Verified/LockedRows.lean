import Mathlib

/-!
# Rows under shared and exclusive locks

A table of rows under keys, and the transactions that lock them.  A lock is
kept until its transaction ends; locks of different transactions on one row go
together only when both are shared.  A transaction writes a row it holds
exclusively, sees its own writes at once, and the others see them when it
commits.  A lock table in which two transactions exclude each other and yet
both hold a row, or a write without its lock, cannot be built.
-/

namespace TrackAnywhere.Verified

variable {Owner Key Value : Type*}

inductive LockMode
  | shared
  | exclusive
deriving DecidableEq

structure HeldLock (Owner Key : Type*) where
  owner : Owner
  key : Key
  mode : LockMode

/-- Two locks that may be held at the same time. -/
def HeldLock.Compatible (a b : HeldLock Owner Key) : Prop :=
  a.key = b.key → a.owner ≠ b.owner → a.mode = .shared ∧ b.mode = .shared

theorem HeldLock.Compatible.symm {a b : HeldLock Owner Key}
    (h : a.Compatible b) : b.Compatible a :=
  fun hKey hOwner => (h hKey.symm hOwner.symm).symm

theorem HeldLock.compatible_self (a : HeldLock Owner Key) : a.Compatible a :=
  fun _ hOwner => absurd rfl hOwner

structure RowWrite (Owner Key Value : Type*) where
  owner : Owner
  key : Key
  value : Value

/-- The committed rows, the locks held and the writes not yet committed. -/
structure LockedRows (Owner Key Value : Type*) where
  committed : Key → Option Value
  held : List (HeldLock Owner Key)
  writes : List (RowWrite Owner Key Value)
  compatible : ∀ a ∈ held, ∀ b ∈ held, a.Compatible b
  locked : ∀ w ∈ writes, ⟨w.owner, w.key, .exclusive⟩ ∈ held

namespace LockedRows

/-! ## Operations -/

/-- Rows nobody has locked. -/
def unlocked (committed : Key → Option Value) : LockedRows Owner Key Value where
  committed := committed
  held := []
  writes := []
  compatible := fun _ h => absurd h List.not_mem_nil
  locked := fun _ h => absurd h List.not_mem_nil

/-- The lock can be granted now. -/
def Free (rows : LockedRows Owner Key Value) (lock : HeldLock Owner Key) : Prop :=
  ∀ held ∈ rows.held, lock.Compatible held

def acquire (rows : LockedRows Owner Key Value) (lock : HeldLock Owner Key)
    (hFree : rows.Free lock) : LockedRows Owner Key Value where
  committed := rows.committed
  held := lock :: rows.held
  writes := rows.writes
  compatible := by
    intro a ha b hb
    rcases List.mem_cons.1 ha with rfl | hOldA
    · rcases List.mem_cons.1 hb with rfl | hOldB
      · exact HeldLock.compatible_self _
      · exact hFree b hOldB
    · rcases List.mem_cons.1 hb with rfl | hOldB
      · exact (hFree a hOldA).symm
      · exact rows.compatible a hOldA b hOldB
  locked := fun w hw => List.mem_cons_of_mem _ (rows.locked w hw)

def write (rows : LockedRows Owner Key Value) (w : RowWrite Owner Key Value)
    (hHeld : ⟨w.owner, w.key, .exclusive⟩ ∈ rows.held) :
    LockedRows Owner Key Value where
  committed := rows.committed
  held := rows.held
  writes := w :: rows.writes
  compatible := rows.compatible
  locked := by
    intro v hv
    rcases List.mem_cons.1 hv with rfl | hv
    · exact hHeld
    · exact rows.locked v hv

@[simp] theorem committed_acquire (rows : LockedRows Owner Key Value)
    {lock : HeldLock Owner Key} (hFree : rows.Free lock) :
    (rows.acquire lock hFree).committed = rows.committed := rfl

/-! ## Held rows -/

/-- The transaction has locked the row. -/
def Holds (rows : LockedRows Owner Key Value) (owner : Owner) (key : Key) : Prop :=
  ∃ mode, ⟨owner, key, mode⟩ ∈ rows.held

variable {rows rows' : LockedRows Owner Key Value} {owner other : Owner} {key : Key}

theorem holds_acquire {mode : LockMode} (hFree : rows.Free ⟨owner, key, mode⟩) :
    (rows.acquire ⟨owner, key, mode⟩ hFree).Holds owner key :=
  ⟨mode, List.mem_cons_self⟩

/-- A held row is not held exclusively by another transaction. -/
theorem Holds.not_exclusive (h : rows.Holds owner key) (hNe : other ≠ owner) :
    ⟨other, key, .exclusive⟩ ∉ rows.held := by
  obtain ⟨mode, hMem⟩ := h
  intro hOther
  have hModes := rows.compatible _ hOther _ hMem rfl hNe
  exact nomatch hModes.1

variable {R : Value → Value → Prop}

/-- A committed row is related to each write that is to replace it. -/
def Follows (R : Value → Value → Prop) (rows : LockedRows Owner Key Value) : Prop :=
  ∀ w ∈ rows.writes, ∀ v, rows.committed w.key = some v → R v w.value

theorem follows_unlocked (committed : Key → Option Value) :
    Follows R (unlocked committed : LockedRows Owner Key Value) :=
  fun _ h => absurd h List.not_mem_nil

/-! ## The end of a transaction -/

variable [DecidableEq Owner]

/-- The end of a transaction, without its writes. -/
def release (rows : LockedRows Owner Key Value) (owner : Owner) :
    LockedRows Owner Key Value where
  committed := rows.committed
  held := rows.held.filter fun lock => lock.owner ≠ owner
  writes := rows.writes.filter fun w => w.owner ≠ owner
  compatible := fun a ha b hb =>
    rows.compatible a (List.mem_of_mem_filter ha) b (List.mem_of_mem_filter hb)
  locked := by
    intro w hw
    obtain ⟨hMem, hOwner⟩ := List.mem_filter.1 hw
    exact List.mem_filter.2 ⟨rows.locked w hMem, hOwner⟩

@[simp] theorem committed_release (rows : LockedRows Owner Key Value)
    (owner : Owner) : (rows.release owner).committed = rows.committed := rfl

@[simp] theorem held_release (rows : LockedRows Owner Key Value) (owner : Owner) :
    (rows.release owner).held = rows.held.filter fun lock => lock.owner ≠ owner := rfl

@[simp] theorem writes_release (rows : LockedRows Owner Key Value) (owner : Owner) :
    (rows.release owner).writes = rows.writes.filter fun w => w.owner ≠ owner := rfl

variable [DecidableEq Key]

/-- The value of a row as a transaction reads it: its own last write, or what
is committed. -/
def seen (rows : LockedRows Owner Key Value) (owner : Owner) (key : Key) :
    Option Value :=
  match rows.writes.find? fun w => w.owner = owner ∧ w.key = key with
  | some w => some w.value
  | none => rows.committed key

/-- The end of a transaction, with its writes. -/
def commit (rows : LockedRows Owner Key Value) (owner : Owner) :
    LockedRows Owner Key Value :=
  { rows.release owner with committed := rows.seen owner }

/-- A transaction sees what it has just written. -/
theorem seen_write (rows : LockedRows Owner Key Value) {w : RowWrite Owner Key Value}
    (hHeld : ⟨w.owner, w.key, .exclusive⟩ ∈ rows.held) :
    (rows.write w hHeld).seen w.owner w.key = some w.value := by
  unfold seen write
  rw [List.find?_cons_of_pos (by simp)]

@[simp] theorem committed_commit (rows : LockedRows Owner Key Value)
    (owner : Owner) : (rows.commit owner).committed = rows.seen owner := rfl

/-- What a transaction has not written it sees as it is committed. -/
theorem seen_of_not_exclusive (h : ⟨owner, key, .exclusive⟩ ∉ rows.held) :
    rows.seen owner key = rows.committed key := by
  have hNone : rows.writes.find? (fun w => w.owner = owner ∧ w.key = key) = none := by
    rw [List.find?_eq_none]
    intro w hw hOwn
    obtain ⟨rfl, rfl⟩ : w.owner = owner ∧ w.key = key := by simpa using hOwn
    exact h (rows.locked w hw)
  unfold seen
  rw [hNone]

theorem seen_eq (rows : LockedRows Owner Key Value) (owner : Owner) (key : Key) :
    rows.seen owner key = rows.committed key
      ∨ ∃ w ∈ rows.writes, w.key = key ∧ rows.seen owner key = some w.value := by
  unfold seen
  cases hFind : rows.writes.find? fun w => w.owner = owner ∧ w.key = key with
  | none => exact .inl rfl
  | some w =>
      have hOwn : w.owner = owner ∧ w.key = key := by
        simpa using List.find?_some hFind
      exact .inr ⟨w, List.mem_of_find?_eq_some hFind, hOwn.2, rfl⟩

/-! ## Steps -/

/-- One step of a transaction.  `R` is what a write does to the row it sees. -/
inductive Moves (R : Value → Value → Prop) (owner : Owner) :
    LockedRows Owner Key Value → LockedRows Owner Key Value → Prop
  | acquire {rows : LockedRows Owner Key Value} {key : Key} {mode : LockMode}
      (hFree : rows.Free ⟨owner, key, mode⟩) :
      Moves R owner rows (rows.acquire ⟨owner, key, mode⟩ hFree)
  | write {rows : LockedRows Owner Key Value} {key : Key} {value : Value}
      (hHeld : ⟨owner, key, .exclusive⟩ ∈ rows.held)
      (hSeen : ∀ v, rows.seen owner key = some v → R v value) :
      Moves R owner rows (rows.write ⟨owner, key, value⟩ hHeld)
  | release {rows : LockedRows Owner Key Value} :
      Moves R owner rows (rows.release owner)
  | commit {rows : LockedRows Owner Key Value} :
      Moves R owner rows (rows.commit owner)

/-- A transaction keeps its locks while the others go on. -/
theorem Moves.holds (h : Moves R other rows rows') (hHolds : rows.Holds owner key)
    (hNe : other ≠ owner) : rows'.Holds owner key := by
  obtain ⟨mode, hMem⟩ := hHolds
  have hKept : (⟨owner, key, mode⟩ : HeldLock Owner Key)
      ∈ rows.held.filter fun lock => lock.owner ≠ other :=
    List.mem_filter.2 ⟨hMem, by simpa using hNe.symm⟩
  cases h with
  | acquire hFree => exact ⟨mode, List.mem_cons_of_mem _ hMem⟩
  | write hHeld hSeen => exact ⟨mode, hMem⟩
  | release => exact ⟨mode, hKept⟩
  | commit => exact ⟨mode, hKept⟩

/-- A held row stays as it is committed, whatever another transaction does. -/
theorem Moves.committed_of_holds (h : Moves R other rows rows')
    (hHolds : rows.Holds owner key) (hNe : other ≠ owner) :
    rows'.committed key = rows.committed key := by
  cases h with
  | acquire hFree => rfl
  | write hHeld hSeen => rfl
  | release => rfl
  | commit => exact seen_of_not_exclusive (hHolds.not_exclusive hNe)

/-! ## How rows change -/

/-- What a transaction sees of a row is related to the committed row. -/
theorem Follows.seen (h : Follows R rows) (hRefl : ∀ v, R v v) {v : Value}
    (hRow : rows.committed key = some v) :
    ∃ v', rows.seen owner key = some v' ∧ R v v' := by
  rcases seen_eq rows owner key with hSeen | ⟨w, hMem, rfl, hSeen⟩
  · exact ⟨v, hSeen.trans hRow, hRefl v⟩
  · exact ⟨w.value, hSeen, h w hMem v hRow⟩

/-- A row that is committed stays, and follows what it was. -/
theorem Moves.follows_committed (h : Moves R other rows rows')
    (hFollows : Follows R rows) (hRefl : ∀ v, R v v) {v : Value}
    (hRow : rows.committed key = some v) :
    ∃ v', rows'.committed key = some v' ∧ R v v' := by
  cases h with
  | acquire hFree => exact ⟨v, hRow, hRefl v⟩
  | write hHeld hSeen => exact ⟨v, hRow, hRefl v⟩
  | release => exact ⟨v, hRow, hRefl v⟩
  | commit => exact hFollows.seen hRefl hRow

/-- What every write does to the row it sees, it does to the committed one. -/
theorem Moves.follows (h : Moves R other rows rows') (hFollows : Follows R rows)
    (hRefl : ∀ v, R v v) (hTrans : ∀ a b c, R a b → R b c → R a c) :
    Follows R rows' := by
  cases h with
  | acquire hFree => exact hFollows
  | write hHeld hSeen =>
      intro w hw v hRow
      rcases List.mem_cons.1 hw with rfl | hw
      · obtain ⟨v', hSeen', hR⟩ := hFollows.seen hRefl hRow
        exact hTrans v v' _ hR (hSeen v' hSeen')
      · exact hFollows w hw v hRow
  | release =>
      exact fun w hw => hFollows w (List.mem_of_mem_filter hw)
  | commit =>
      intro w hw v hRow
      obtain ⟨hMem, hOwner⟩ := List.mem_filter.1 hw
      -- the writer of another row's lock keeps this row from the one who commits
      have hHolds : rows.Holds w.owner w.key := ⟨.exclusive, rows.locked w hMem⟩
      have hOther : other ≠ w.owner := by
        intro hSame
        simp [hSame] at hOwner
      have hSame := seen_of_not_exclusive (hHolds.not_exclusive hOther)
      exact hFollows w hMem v (hSame.symm.trans hRow)

end LockedRows

end TrackAnywhere.Verified
