import Mathlib.Data.List.Basic

/-!
# Input streams

A stream of which blocks are read into buffers.  A read that goes past the end
sets the end-of-file flag and leaves its buffer as it was, and so do the reads
after it.
-/

/-- What is left of the input, and whether a read has gone past its end. -/
structure InputStream (α : Type) where
  rest : List α
  eof : Bool := false
  deriving DecidableEq, Repr

namespace InputStream

variable {α : Type}

/-- Read `count` elements to the beginning of a buffer. -/
def read (s : InputStream α) (count : ℕ) (buffer : List α) : InputStream α × List α :=
  if s.eof then (s, buffer)
  else if count ≤ s.rest.length then
    ({ s with rest := s.rest.drop count }, s.rest.take count ++ buffer.drop count)
  else ({ rest := [], eof := true }, buffer)

@[simp] theorem read_of_eof {s : InputStream α} (atEnd : s.eof = true) (count : ℕ)
    (buffer : List α) : s.read count buffer = (s, buffer) := if_pos atEnd

@[simp] theorem read_append (values others buffer : List α) :
    ({ rest := values ++ others } : InputStream α).read values.length buffer =
      ({ rest := others }, values ++ buffer.drop values.length) := by
  simp [read]

theorem read_of_lt {s : InputStream α} {count : ℕ} (short : s.rest.length < count)
    (more : s.eof = false) (buffer : List α) :
    s.read count buffer = ({ rest := [], eof := true }, buffer) := by
  simp [read, more, short]

/-- What can still be read, and that the end has not been found yet. -/
def left (s : InputStream α) : ℕ := 2 * s.rest.length + if s.eof then 0 else 1

theorem left_read_le (s : InputStream α) (count : ℕ) (buffer : List α) :
    (s.read count buffer).1.left ≤ s.left := by
  unfold read left
  split
  · exact Nat.le_refl _
  · split
    · simp only [List.length_drop]
      omega
    · simp

/-- Nothing can be read for ever. -/
theorem left_read_lt {s : InputStream α} (more : s.eof = false) {count : ℕ} (positive : 0 < count)
    (buffer : List α) : (s.read count buffer).1.left < s.left := by
  unfold read left
  rw [if_neg (Bool.eq_false_iff.mp more)]
  split
  · simp only [List.length_drop]
    omega
  · simp [more]

end InputStream
