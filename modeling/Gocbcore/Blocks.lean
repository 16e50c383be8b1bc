import Mathlib.Data.List.Basic

/-!
# Blocks of a method that writes its receiver and returns an error

`FromConnStr` is a Go method on `*AgentConfig`. Its body is a sequence of blocks, each
of which checks something about the connection string, returns an error if the check
fails, and otherwise assigns some fields of the receiver. An assignment lands in the
caller's config at once, so a block that returns an error leaves the assignments of
the blocks before it in place.

A block is modelled as `Except ε (σ → σ)`: the error it returns, or the writes it makes.
No block of `FromConnStr` reads the receiver, so its checks are computed before, and
apart from, the config it writes. `runBlocks` runs a list of blocks as the method body
runs them.

A failing run has applied the writes of every block before the failing one, and
nothing else (`runBlocks_eq_error`). A field that one block sets, and that the other
blocks leave alone or set to the same value, holds that value after the run, unless a
block before the setting one failed (`field_runBlocks`).
-/

namespace Gocbcore

/-- One block of a method body: the error it returns, with nothing written, or the
writes it makes to the receiver. -/
abbrev Block (σ ε : Type) := Except ε (σ → σ)

variable {σ ε α : Type}

/-- The blocks run in order on the receiver: the first failing block returns its error,
with the writes of the blocks before it in place. -/
def runBlocks : List (Block σ ε) → σ → σ × Option ε
  | [], state => (state, none)
  | .error err :: _, state => (state, some err)
  | .ok write :: blocks, state => runBlocks blocks (write state)

/-- The writes `writes`, applied in order. -/
def applyAll (writes : List (σ → σ)) (state : σ) : σ :=
  writes.foldl (fun current write => write current) state

/-- A run that fails with `err` has run blocks that all succeeded up to a block that
returned `err`; the receiver carries exactly the writes of those blocks. -/
theorem runBlocks_eq_error {blocks : List (Block σ ε)} {state final : σ} {err : ε}
    (run : runBlocks blocks state = (final, some err)) :
    ∃ writes rest, blocks = writes.map .ok ++ .error err :: rest ∧
      final = applyAll writes state := by
  induction blocks generalizing state with
  | nil => cases run
  | cons block blocks ih =>
      cases block with
      | error first =>
          cases run
          exact ⟨[], blocks, rfl, rfl⟩
      | ok write =>
          obtain ⟨writes, rest, shape, rfl⟩ := ih run
          exact ⟨write :: writes, rest, by rw [shape]; rfl, rfl⟩

/-! ## One field through a run -/

/-- No write the block can make touches `field`. -/
def Preserves (field : σ → α) (block : Block σ ε) : Prop :=
  ∀ write, block = .ok write → ∀ state, field (write state) = field state

/-- Every write the block can make leaves `field` as it was or sets it to `value`. -/
def WritesAtMost (field : σ → α) (value : α) (block : Block σ ε) : Prop :=
  ∀ write, block = .ok write → ∀ state, field (write state) = field state ∨
    field (write state) = value

theorem WritesAtMost.of_preserves {field : σ → α} {value : α} {block : Block σ ε}
    (preserves : Preserves field block) : WritesAtMost field value block :=
  fun write ok state => .inl (preserves write ok state)

/-- A run through blocks that never touch `field` leaves it as it was. -/
theorem field_runBlocks_of_preserves {field : σ → α} {blocks : List (Block σ ε)}
    (preserves : ∀ block ∈ blocks, Preserves field block) (state : σ) :
    field (runBlocks blocks state).1 = field state := by
  induction blocks generalizing state with
  | nil => rfl
  | cons block blocks ih =>
      have rest := fun b mem => preserves b (List.mem_cons_of_mem block mem)
      cases block with
      | error err => rfl
      | ok write =>
          exact (ih rest (write state)).trans (preserves _ (List.mem_cons_self _ _) _ rfl _)

/-- Blocks that write `field` at most with `value` keep it at `value` once it is there. -/
theorem field_runBlocks_stays {field : σ → α} {value : α} {blocks : List (Block σ ε)}
    (allowed : ∀ block ∈ blocks, WritesAtMost field value block) {state : σ}
    (holds : field state = value) : field (runBlocks blocks state).1 = value := by
  induction blocks generalizing state with
  | nil => exact holds
  | cons block blocks ih =>
      cases block with
      | error err => exact holds
      | ok write =>
          refine ih (fun b mem => allowed b (List.mem_cons_of_mem _ mem)) ?_
          rcases allowed _ (List.mem_cons_self _ _) write rfl state with kept | set
          · rwa [kept]
          · exact set

/-- If the blocks write `field` at most with `value`, and one block that succeeds sets it,
then after the run `field` holds `value`, or the run stopped at the error of a block before
that one, after blocks that all passed, with `field` untouched. -/
theorem field_runBlocks {field : σ → α} {value : α} {blocks : List (Block σ ε)}
    (allowed : ∀ block ∈ blocks, WritesAtMost field value block)
    {setter : σ → σ} (mem : .ok setter ∈ blocks) (sets : ∀ state, field (setter state) = value)
    (state : σ) :
    field (runBlocks blocks state).1 = value ∨
      ∃ (writes : List (σ → σ)) (err : ε) (rest : List (Block σ ε)),
        blocks = writes.map .ok ++ .error err :: rest ∧ .ok setter ∈ rest ∧
        (runBlocks blocks state).2 = some err ∧ field (runBlocks blocks state).1 = field state := by
  induction blocks generalizing state with
  | nil => cases mem
  | cons block blocks ih =>
      have allowedTail := fun b mem => allowed b (List.mem_cons_of_mem block mem)
      cases block with
      | error err =>
          have later : .ok setter ∈ blocks := (List.mem_cons.mp mem).resolve_left nofun
          exact .inr ⟨[], err, blocks, rfl, later, rfl, rfl⟩
      | ok write =>
          rcases List.mem_cons.mp mem with head | later
          · cases head
            exact .inl (field_runBlocks_stays allowedTail (sets state))
          rcases ih allowedTail later (write state) with
            set | ⟨writes, err, rest, shape, after, failed, kept⟩
          · exact .inl set
          rcases allowed _ (List.mem_cons_self _ _) write rfl state with unchanged | set
          · exact .inr ⟨write :: writes, err, rest, by rw [shape]; rfl, after, failed,
              kept.trans unchanged⟩
          · exact .inl (kept.trans set)

end Gocbcore
