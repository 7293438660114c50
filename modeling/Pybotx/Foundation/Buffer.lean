/-
Readable, writable and seekable buffers: a content, and a position that every call moves.

The position may lie beyond the end, where nothing is left to read, and where a write fills
the gap.
-/

import Mathlib

set_option autoImplicit false

structure Buffer (α : Type) where
  content : List α
  position : Nat

namespace Buffer

variable {α : Type}

def remaining (buffer : Buffer α) : List α :=
  buffer.content.drop buffer.position

inductive Whence where
  | start
  | fromEnd
  deriving DecidableEq

/-- At most `size` symbols, or all that are left. -/
def read (size : Option Nat) : StateM (Buffer α) (List α) := fun buffer =>
  let chunk := size.elim buffer.remaining buffer.remaining.take
  (chunk, { buffer with position := buffer.position + chunk.length })

def seek (offset : Nat) (whence : Whence) : StateM (Buffer α) Unit := fun buffer =>
  match whence with
  | .start => ((), { buffer with position := offset })
  | .fromEnd => ((), { buffer with position := buffer.content.length + offset })

def tell : StateM (Buffer α) Nat := fun buffer => (buffer.position, buffer)

def rewound (buffer : Buffer α) : Buffer α :=
  { buffer with position := 0 }

@[simp] theorem rewound_content (buffer : Buffer α) : buffer.rewound.content = buffer.content := rfl

theorem read_all_of_rewound (buffer : Buffer α) :
    read none buffer.rewound =
      (buffer.content, { buffer with position := buffer.content.length }) := by
  unfold read
  simp [rewound, remaining]

def padded (zero : α) (buffer : Buffer α) : List α :=
  buffer.content ++ List.replicate (buffer.position - buffer.content.length) zero

/-- What is written replaces as much of the content; an empty write does not fill a gap. -/
def write (zero : α) (buffer : Buffer α) (chunk : List α) : Buffer α :=
  if chunk = [] then buffer
  else
    { content := (buffer.padded zero).take buffer.position ++
        (chunk ++ (buffer.padded zero).drop (buffer.position + chunk.length))
      position := buffer.position + chunk.length }

section

variable (zero : α) (buffer : Buffer α)

theorem position_le_padded : buffer.position ≤ (buffer.padded zero).length := by
  rw [padded, List.length_append, List.length_replicate]
  omega

theorem take_padded_length :
    ((buffer.padded zero).take buffer.position).length = buffer.position := by
  rw [List.length_take]
  exact Nat.min_eq_left (buffer.position_le_padded zero)

theorem padded_of_le (inside : buffer.position ≤ buffer.content.length) :
    buffer.padded zero = buffer.content := by
  rw [padded, Nat.sub_eq_zero_of_le inside, List.replicate_zero, List.append_nil]

theorem write_nil : buffer.write zero [] = buffer :=
  if_pos rfl

theorem write_append (first second : List α) :
    (buffer.write zero first).write zero second = buffer.write zero (first ++ second) := by
  by_cases emptyFirst : first = []
  · rw [emptyFirst, List.nil_append, write_nil]
  by_cases emptySecond : second = []
  · rw [emptySecond, List.append_nil, write_nil]
  have emptyBoth : first ++ second ≠ [] := by
    intro empty
    exact emptyFirst (List.append_eq_nil_iff.mp empty).1
  have written : buffer.write zero first =
      { content := (buffer.padded zero).take buffer.position ++
          (first ++ (buffer.padded zero).drop (buffer.position + first.length))
        position := buffer.position + first.length } := by
    rw [write, if_neg emptyFirst]
  have before := buffer.take_padded_length zero
  have inside : (buffer.write zero first).position ≤ (buffer.write zero first).content.length := by
    rw [written]
    dsimp only
    rw [List.length_append, List.length_append, before]
    omega
  have head : ((buffer.padded zero).take buffer.position ++ first).length =
      buffer.position + first.length := by
    rw [List.length_append, before]
  rw [write, if_neg emptySecond, padded_of_le zero _ inside, written]
  dsimp only
  rw [write, if_neg emptyBoth, ← List.append_assoc ((buffer.padded zero).take buffer.position),
    List.take_left' head, ← List.drop_drop, List.drop_left' head, List.drop_drop,
    List.length_append, List.append_assoc, List.append_assoc, Nat.add_assoc]

/-- What is written does not depend on the pieces it is written in. -/
theorem foldl_write (chunks : List (List α)) :
    chunks.foldl (write zero) buffer = buffer.write zero chunks.flatten := by
  induction chunks generalizing buffer with
  | nil =>
      rw [List.flatten_nil, write_nil]
      rfl
  | cons chunk rest ih =>
      rw [List.foldl_cons, ih, write_append, List.flatten_cons]

/-- A buffer holds just what has been written exactly if nothing was before it and nothing
is left after it. -/
theorem write_content_eq_iff (chunk : List α) :
    (buffer.write zero chunk).content = chunk ↔
      if chunk = [] then buffer.content = []
      else buffer.position = 0 ∧ buffer.content.length ≤ chunk.length := by
  unfold write
  by_cases empty : chunk = []
  · rw [if_pos empty, if_pos empty, empty]
  · rw [if_neg empty, if_neg empty]
    dsimp only
    constructor
    · intro same
      have length := congrArg List.length same
      rw [List.length_append, List.length_append, take_padded_length, List.length_drop] at length
      have start : buffer.position = 0 := by omega
      refine ⟨start, ?_⟩
      have whole : buffer.padded zero = buffer.content :=
        buffer.padded_of_le zero (by omega)
      rw [whole, start] at length
      omega
    · intro fits
      obtain ⟨start, short⟩ := fits
      have whole : buffer.padded zero = buffer.content :=
        buffer.padded_of_le zero (by omega)
      rw [whole, start, List.take_zero, List.nil_append, Nat.zero_add,
        List.drop_eq_nil_of_le short, List.append_nil]

end

theorem rewound_write_empty (zero : α) (chunk : List α) :
    (write zero ⟨[], 0⟩ chunk).rewound = ⟨chunk, 0⟩ := by
  have held : (write zero ⟨[], 0⟩ chunk).content = chunk := by
    rw [write_content_eq_iff]
    by_cases empty : chunk = []
    · rw [if_pos empty]
    · rw [if_neg empty]
      exact ⟨rfl, Nat.zero_le _⟩
  rw [rewound, held]

theorem remaining_read (size : Nat) (buffer : Buffer α) :
    (read (some size) buffer).2.remaining = buffer.remaining.drop size := by
  change buffer.content.drop (buffer.position + (buffer.remaining.take size).length) = _
  rw [← List.drop_drop, List.length_take]
  change buffer.remaining.drop (min size buffer.remaining.length) = _
  by_cases inside : size ≤ buffer.remaining.length
  · rw [Nat.min_eq_left inside]
  · rw [Nat.min_eq_right (by omega), List.drop_length, List.drop_eq_nil_of_le (by omega)]

theorem read_shorter {size : Nat} {buffer after : Buffer α} {chunk : List α}
    (nonempty : chunk ≠ []) (found : read (some size) buffer = (chunk, after)) :
    after.remaining.length < buffer.remaining.length := by
  have same : buffer.remaining.take size = chunk := congrArg Prod.fst found
  have left := remaining_read size buffer
  rw [found] at left
  rw [left, List.length_drop]
  have taken := List.length_pos_of_ne_nil nonempty
  rw [← same, List.length_take] at taken
  omega

/-- Chunks of at most `size` symbols, until one of them is empty. -/
def readChunks (size : Nat) (buffer : Buffer α) : List (List α) × Buffer α :=
  match _found : read (some size) buffer with
  | ([], after) => ([], after)
  | (first :: rest, after) =>
      ((first :: rest) :: (readChunks size after).1, (readChunks size after).2)
termination_by buffer.remaining.length
decreasing_by exact read_shorter (List.cons_ne_nil first rest) _found

theorem readChunks_of_end {size : Nat} {buffer after : Buffer α}
    (found : read (some size) buffer = ([], after)) : readChunks size buffer = ([], after) := by
  unfold readChunks
  split
  · rename_i same
    rw [found] at same
    cases same
    rfl
  · rename_i impossible
    rw [found] at impossible
    cases impossible

theorem readChunks_of_chunk {size : Nat} {buffer after : Buffer α} {first : α} {rest : List α}
    (found : read (some size) buffer = (first :: rest, after)) :
    readChunks size buffer =
      ((first :: rest) :: (readChunks size after).1, (readChunks size after).2) := by
  conv => lhs; unfold readChunks
  split
  · rename_i impossible
    rw [found] at impossible
    cases impossible
  · rename_i same
    rw [found] at same
    cases same
    rfl

theorem readChunks_eq (size : Nat) (positive : 0 < size) (buffer : Buffer α) :
    (readChunks size buffer).1.flatten = buffer.remaining ∧
      (readChunks size buffer).2 =
        { buffer with position := buffer.position + buffer.remaining.length } := by
  induction buffer using readChunks.induct size with
  | case1 buffer after found =>
      have chunk : buffer.remaining.take size = [] := congrArg Prod.fst found
      have done : buffer.remaining = [] := by
        rcases List.take_eq_nil_iff.mp chunk with zero | done
        · omega
        · exact done
      have moved : { buffer with
          position := buffer.position + (buffer.remaining.take size).length } = after :=
        congrArg Prod.snd found
      rw [done, List.take_nil] at moved
      rw [readChunks_of_end found, done]
      exact ⟨rfl, moved.symm⟩
  | case2 buffer first rest after found ih =>
      have chunk : buffer.remaining.take size = first :: rest := congrArg Prod.fst found
      have moved : { buffer with
          position := buffer.position + (buffer.remaining.take size).length } = after :=
        congrArg Prod.snd found
      have left : after.remaining = buffer.remaining.drop size := by
        rw [← remaining_read, found]
      obtain ⟨chunks, last⟩ := ih
      rw [readChunks_of_chunk found]
      constructor
      · dsimp only
        rw [List.flatten_cons, chunks, left, ← chunk, List.take_append_drop]
      · dsimp only
        rw [last, left, ← moved]
        dsimp only
        rw [Nat.add_assoc, ← List.length_append, List.take_append_drop]

end Buffer
