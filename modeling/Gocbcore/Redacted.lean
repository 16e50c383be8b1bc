import Gocbcore.AgentConfig

/-!
# `redacted` over the backing arrays of Go slices

A Go slice is a window onto a backing array, and copying a struct copies the headers of
its slices, not their arrays. `redacted` starts from the copy `newConfig = *config`, so
under full log redaction it first copies each address slice into a fresh array with
`append([]string(nil), ...)`, and only then redacts the copy element by element. The
source gives the reason: the slices of the copy "are still pointing at config's
underlying arrays".

`AgentConfig.redacted` models the function with slices as lists, where this question
cannot be asked. This module models the level below: `Memory` holds the backing arrays
and the allocator's next array, a `Slice` is a window onto one array, and
`ConfigInMemory` is a config whose two address fields are slice headers.
`redactedInMemory` follows the source statement by statement.

The call changes no array that existed before it, so the caller's config reads the same
afterwards, whatever its two slices share (`redactedInMemory_keeps_config`). The config it
returns is allocated and reads as `AgentConfig.redacted` of the caller's config
(`redactedInMemory_refines`).
-/

namespace Gocbcore

/-- The backing arrays of string slices: the elements of each array, and the next array
the allocator hands out. -/
structure Memory where
  cells : Nat → Nat → String
  next : Nat

/-- A slice header: `length` elements of the array `array`, from `offset`. -/
structure Slice where
  array : Nat
  offset : Nat
  length : Nat
  deriving DecidableEq, Repr

namespace Slice

/-- The `nil` slice. -/
def nil : Slice := ⟨0, 0, 0⟩

/-- The elements the slice shows. -/
def read (memory : Memory) (slice : Slice) : List String :=
  (List.range slice.length).map fun index => memory.cells slice.array (slice.offset + index)

/-- The slice is empty, or its array is one the allocator has handed out. -/
def Allocated (memory : Memory) (slice : Slice) : Prop :=
  slice.length = 0 ∨ slice.array < memory.next

end Slice

namespace Memory

/-- `memory'` keeps every array of `memory` as it was, and hands out at least as many. -/
def Extends (memory memory' : Memory) : Prop :=
  memory.next ≤ memory'.next ∧ ∀ array < memory.next, memory'.cells array = memory.cells array

/-- `slice[index] = value`, on the slice's array `array`. -/
def store (memory : Memory) (array index : Nat) (value : String) : Memory :=
  { memory with cells := fun a i => if a = array ∧ i = index then value else memory.cells a i }

end Memory

/-- `append([]string(nil), slice...)`: `nil` when the slice is empty, and otherwise a fresh
array holding its elements. -/
def appendToNil (memory : Memory) (slice : Slice) : Slice × Memory :=
  if slice.length = 0 then (Slice.nil, memory)
  else
    let elements := slice.read memory
    (⟨memory.next, 0, slice.length⟩,
      { cells := fun array index =>
          if array = memory.next then elements.getD index "" else memory.cells array index
        next := memory.next + 1 })

/-- One iteration of `for i, addr := range slice { slice[i] = redact(addr) }`. -/
def redactAt (redact : String → String) (slice : Slice) (memory : Memory) (index : Nat) :
    Memory :=
  memory.store slice.array (slice.offset + index)
    (redact (memory.cells slice.array (slice.offset + index)))

/-- The loop `for i, addr := range slice { slice[i] = redact(addr) }`: the length is read
once, and each element is read at its own iteration. -/
def redactEach (redact : String → String) (slice : Slice) (memory : Memory) : Memory :=
  (List.range slice.length).foldl (redactAt redact slice) memory

/-- `s = append([]string(nil), s...)` and the loop that redacts the copy. -/
def copyAndRedact (redact : String → String) (memory : Memory) (slice : Slice) :
    Slice × Memory :=
  let copied := appendToNil memory slice
  (copied.1, redactEach redact copied.1 copied.2)

/-- An `AgentConfig` in memory: its address fields are slice headers. The lists
`memdAddrs` and `httpAddrs` of `fields` are not read. -/
structure ConfigInMemory where
  fields : AgentConfig
  memdAddrs : Slice
  httpAddrs : Slice

/-- The config a reader of memory sees. -/
def ConfigInMemory.view (memory : Memory) (config : ConfigInMemory) : AgentConfig :=
  { config.fields with
    memdAddrs := config.memdAddrs.read memory
    httpAddrs := config.httpAddrs.read memory }

/-- `(*AgentConfig).redacted` on a config in memory, statement by statement. -/
def redactedInMemory (isLogRedactionLevelFull : Bool)
    (redactSystemData redactMetaData : String → String) (config : ConfigInMemory)
    (memory : Memory) : ConfigInMemory × Memory :=
  let newConfig := config
  if isLogRedactionLevelFull then
    let http := copyAndRedact redactSystemData memory newConfig.httpAddrs
    let memd := copyAndRedact redactSystemData http.2 newConfig.memdAddrs
    ({ fields := { newConfig.fields with
          bucketName :=
            if newConfig.fields.bucketName ≠ "" then redactMetaData newConfig.fields.bucketName
            else newConfig.fields.bucketName }
       memdAddrs := memd.1
       httpAddrs := http.1 }, memd.2)
  else (newConfig, memory)

/-! ## Memory that only grows -/

namespace Memory

theorem Extends.refl (memory : Memory) : memory.Extends memory :=
  ⟨le_refl _, fun _ _ => rfl⟩

theorem Extends.trans {memory memory' memory'' : Memory} (first : memory.Extends memory')
    (second : memory'.Extends memory'') : memory.Extends memory'' :=
  ⟨first.1.trans second.1, fun array below =>
    (second.2 array (lt_of_lt_of_le below first.1)).trans (first.2 array below)⟩

end Memory

namespace Slice

variable {memory memory' : Memory} {slice : Slice}

theorem Allocated.mono (allocated : slice.Allocated memory) (grows : memory.Extends memory') :
    slice.Allocated memory' :=
  allocated.imp_right fun below => lt_of_lt_of_le below grows.1

/-- An allocated slice reads the same in any memory that extends its own. -/
theorem Allocated.read_of_extends (allocated : slice.Allocated memory)
    (grows : memory.Extends memory') :
    slice.read memory' = slice.read memory := by
  rcases allocated with empty | below
  · simp [read, empty]
  · simp only [read, grows.2 _ below]

end Slice

/-! ## The copy and the loop -/

section Copy

variable (redact : String → String) (memory : Memory) (slice : Slice)

/-- The first `count` iterations of the loop redact the first `count` elements of the
slice, each from its value before the loop, and write nothing else. -/
theorem foldl_redactAt_range (count : Nat) :
    (List.range count).foldl (redactAt redact slice) memory =
      { cells := fun array index =>
          if array = slice.array ∧ slice.offset ≤ index ∧ index < slice.offset + count then
            redact (memory.cells array index)
          else memory.cells array index
        next := memory.next } := by
  induction count with
  | zero =>
      cases memory
      simp only [List.range_zero, List.foldl_nil, Nat.add_zero, Memory.mk.injEq, and_true]
      funext array index
      rw [if_neg (by omega)]
  | succ count ih =>
      rw [List.range_succ, List.foldl_append, ih]
      simp only [List.foldl_cons, List.foldl_nil, redactAt, Memory.store, Memory.mk.injEq, and_true]
      funext array index
      by_cases onArray : array = slice.array
      · subst onArray
        by_cases last : index = slice.offset + count
        · simp [last]
        · simp only [true_and, last, and_false, if_false]
          congr 1
          apply propext
          omega
      · simp [onArray]

theorem read_redactEach :
    slice.read (redactEach redact slice memory) = (slice.read memory).map redact := by
  simp only [Slice.read, redactEach, foldl_redactAt_range, List.map_map]
  refine List.map_congr_left fun index mem => ?_
  have inside : index < slice.length := List.mem_range.mp mem
  simp [inside]

@[simp] theorem next_redactEach : (redactEach redact slice memory).next = memory.next := by
  simp [redactEach, foldl_redactAt_range]

/-- The loop writes no array but the slice's own. -/
theorem cells_redactEach_of_ne {array : Nat} (away : array ≠ slice.array) :
    (redactEach redact slice memory).cells array = memory.cells array := by
  simp [redactEach, foldl_redactAt_range, away]

theorem appendToNil_spec :
    memory.Extends (appendToNil memory slice).2 ∧
      (appendToNil memory slice).1.read (appendToNil memory slice).2 = slice.read memory ∧
      ((appendToNil memory slice).1.length = 0 ∨
        memory.next ≤ (appendToNil memory slice).1.array ∧
          (appendToNil memory slice).1.array < (appendToNil memory slice).2.next) := by
  by_cases empty : slice.length = 0
  · simp [appendToNil, empty, Slice.read, Slice.nil, Memory.Extends.refl]
  · simp only [appendToNil, empty, if_false]
    refine ⟨⟨Nat.le_succ _, fun array below => ?_⟩, ?_, .inr ⟨le_refl _, Nat.lt_succ_self _⟩⟩
    · simp [Nat.ne_of_lt below]
    · refine List.ext_getElem (by simp [Slice.read]) fun index inside _ => ?_
      simp only [Slice.read, List.length_map, List.length_range] at inside
      simp [Slice.read, inside]

/-- Copying a slice into a fresh array and redacting the copy changes no array that
existed before, and leaves an allocated slice that reads as the redacted elements. -/
theorem copyAndRedact_spec :
    memory.Extends (copyAndRedact redact memory slice).2 ∧
      (copyAndRedact redact memory slice).1.Allocated (copyAndRedact redact memory slice).2 ∧
      (copyAndRedact redact memory slice).1.read (copyAndRedact redact memory slice).2 =
        (slice.read memory).map redact := by
  obtain ⟨grows, reads, fresh⟩ := appendToNil_spec memory slice
  refine ⟨⟨?_, fun array below => ?_⟩, ?_, ?_⟩
  · simpa [copyAndRedact] using grows.1
  · simp only [copyAndRedact]
    rcases fresh with empty | ⟨fresh, -⟩
    · simp only [redactEach, empty, List.range_zero, List.foldl_nil]
      exact grows.2 array below
    · rw [cells_redactEach_of_ne _ _ _ (by omega), grows.2 array below]
  · simpa [copyAndRedact, Slice.Allocated] using fresh.imp_right And.right
  · simp only [copyAndRedact, read_redactEach, reads]

end Copy

/-! ## `redacted` -/

section Redacted

variable (isLogRedactionLevelFull : Bool) (redactSystemData redactMetaData : String → String)
  (config : ConfigInMemory) (memory : Memory)

/-- `redacted` changes no array that existed before the call, whatever headers point into
it. So the caller's config reads the same after the call, even when its two address
slices share an array. -/
theorem redactedInMemory_keeps_config (memdAllocated : config.memdAddrs.Allocated memory)
    (httpAllocated : config.httpAddrs.Allocated memory) :
    memory.Extends
        (redactedInMemory isLogRedactionLevelFull redactSystemData redactMetaData config memory).2 ∧
      config.view
          (redactedInMemory isLogRedactionLevelFull redactSystemData redactMetaData config memory).2 =
        config.view memory := by
  have grows : memory.Extends
      (redactedInMemory isLogRedactionLevelFull redactSystemData redactMetaData config memory).2 := by
    cases isLogRedactionLevelFull
    · exact .refl memory
    · exact (copyAndRedact_spec redactSystemData memory config.httpAddrs).1.trans
        (copyAndRedact_spec redactSystemData _ config.memdAddrs).1
  refine ⟨grows, ?_⟩
  simp only [ConfigInMemory.view, memdAllocated.read_of_extends grows,
    httpAllocated.read_of_extends grows]

/-- The config `redacted` returns has allocated address slices, and reads as
`AgentConfig.redacted` of the caller's config: what the list-level model computes is what
the code computes in memory. -/
theorem redactedInMemory_refines (memdAllocated : config.memdAddrs.Allocated memory)
    (httpAllocated : config.httpAddrs.Allocated memory) :
    let result :=
      redactedInMemory isLogRedactionLevelFull redactSystemData redactMetaData config memory
    result.1.memdAddrs.Allocated result.2 ∧ result.1.httpAddrs.Allocated result.2 ∧
      result.1.view result.2 =
        AgentConfig.redacted isLogRedactionLevelFull redactSystemData redactMetaData
          (config.view memory) := by
  intro result
  cases isLogRedactionLevelFull
  · exact ⟨memdAllocated, httpAllocated, rfl⟩
  · obtain ⟨httpGrows, httpCopied, httpReads⟩ :=
      copyAndRedact_spec redactSystemData memory config.httpAddrs
    obtain ⟨memdGrows, memdCopied, memdReads⟩ :=
      copyAndRedact_spec redactSystemData (copyAndRedact redactSystemData memory config.httpAddrs).2
        config.memdAddrs
    refine ⟨memdCopied, httpCopied.mono memdGrows, ?_⟩
    simp only [result, redactedInMemory, ConfigInMemory.view, AgentConfig.redacted, if_true,
      memdReads, httpCopied.read_of_extends memdGrows, httpReads,
      memdAllocated.read_of_extends httpGrows]

end Redacted

/-- One array holding `localhost:11210` and `localhost:8091`. -/
def sharedMemory : Memory where
  cells array index :=
    if array = 0 then ["localhost:11210", "localhost:8091"].getD index "" else ""
  next := 1

/-- A config whose memcached addresses are the whole array of `sharedMemory` and whose HTTP
addresses are a window onto its second element. -/
def sharedConfig : ConfigInMemory where
  fields := {}
  memdAddrs := ⟨0, 0, 2⟩
  httpAddrs := ⟨0, 1, 1⟩

theorem redacted_shared_array_keeps_config :
    sharedConfig.memdAddrs.Allocated sharedMemory ∧
    sharedConfig.httpAddrs.Allocated sharedMemory ∧
    sharedMemory.Extends
        (redactedInMemory true (fun _ => "<sd/>") id sharedConfig sharedMemory).2 ∧
      sharedConfig.view (redactedInMemory true (fun _ => "<sd/>") id sharedConfig sharedMemory).2 =
        sharedConfig.view sharedMemory :=
  have memdAllocated : sharedConfig.memdAddrs.Allocated sharedMemory := Or.inr (by decide)
  have httpAllocated : sharedConfig.httpAddrs.Allocated sharedMemory := Or.inr (by decide)
  ⟨memdAllocated, httpAllocated,
    redactedInMemory_keeps_config true (fun _ => "<sd/>") id sharedConfig sharedMemory
      memdAllocated httpAllocated⟩

theorem redacted_shared_array_refines :
    sharedConfig.memdAddrs.Allocated sharedMemory ∧
    sharedConfig.httpAddrs.Allocated sharedMemory ∧
    let result := redactedInMemory true (fun _ => "<sd/>") id sharedConfig sharedMemory
    result.1.memdAddrs.Allocated result.2 ∧ result.1.httpAddrs.Allocated result.2 ∧
      result.1.view result.2 =
        AgentConfig.redacted true (fun _ => "<sd/>") id (sharedConfig.view sharedMemory) :=
  have memdAllocated : sharedConfig.memdAddrs.Allocated sharedMemory := Or.inr (by decide)
  have httpAllocated : sharedConfig.httpAddrs.Allocated sharedMemory := Or.inr (by decide)
  ⟨memdAllocated, httpAllocated,
    redactedInMemory_refines true (fun _ => "<sd/>") id sharedConfig sharedMemory
      memdAllocated httpAllocated⟩

end Gocbcore
