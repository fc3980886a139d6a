import ActiveRouting.Library.Dictionary
import ActiveRouting.Library.WaySet
import ActiveRouting.Noc.Component

/-!
# What the two levels of caches share

The coherence states, the miss-status holding registers and the hand-over of an
element to another component, of `PTSCache.h`.
-/

namespace ActiveRouting

/-- `coherence_state_type`. -/
inductive CoherenceState where
  | cs_invalid | cs_shared | cs_exclusive | cs_modified
  | cs_tr_to_i | cs_tr_to_s | cs_tr_to_m | cs_tr_to_e | cs_m_to_s
  deriving DecidableEq, Repr

/-- `target` is the address of an element in memory. -/
structure MSHREntry where
  valid : Bool := false
  line_addr : BitVec 64 := 0
  etype : EventType := .et_nop
  target : Option ℕ := none
  target_list : List NocElement := []

/-- An element that a cache hands over, to its target or to the network.  `num_flits` is given
    for a packet with data. -/
inductive CacheSend where
  | direct (delivery : Delivery)
  | noc (entry : NocEntry) (event : NocEvent) (num_flits : Option ℕ)
  deriving DecidableEq, Repr

namespace CacheSend

/-- The element as the target or the network gets it. -/
def element : CacheSend → NocElement
  | direct delivery => delivery.element
  | noc _ event _ => event.element

end CacheSend

/-- `mshr_indices` and `mshrs`. -/
structure MSHRs where
  indices : Dictionary (BitVec 64) ℕ := .empty
  entries : ℕ → MSHREntry := fun _ => {}

namespace MSHRs

variable (m : MSHRs) (num_mshrs : ℕ)

/-- The register of a line, which its assertion expects to be valid. -/
def at? (line_addr : BitVec 64) : Except NocError (Option (ℕ × MSHREntry)) :=
  match m.indices.lookup line_addr with
  | none => pure none
  | some mshr_idx =>
    if (m.entries mshr_idx).valid then pure (some (mshr_idx, m.entries mshr_idx))
    else throw .assertion

/-- `MSHREntry::add`. -/
def add (mshr_idx : ℕ) (req_lqe : NocElement) : Except NocError MSHRs :=
  if req_lqe.type = .et_read then
    pure { m with
      entries := Function.update m.entries mshr_idx
        { m.entries mshr_idx with
          target_list := (m.entries mshr_idx).target_list ++ [req_lqe] } }
  else throw .assertion

/-- The first register that is not valid takes the line. -/
def allocate (line_addr : BitVec 64) (req_lqe : NocElement) (etype : EventType) :
    Except NocError MSHRs :=
  match (List.range num_mshrs).find? fun mshr_idx => !(m.entries mshr_idx).valid with
  | none => throw .assertion
  | some mshr_idx => pure
    { indices := m.indices.insertNew line_addr mshr_idx
      entries := Function.update m.entries mshr_idx
        { m.entries mshr_idx with
          valid := true
          line_addr := line_addr
          etype := etype
          target := some req_lqe.id } }

/-- The assertions that find the register of a reply. -/
def registerOf (line_addr : BitVec 64) (rep_lqe : NocElement) : Except NocError ℕ :=
  match m.indices.lookup line_addr with
  | none => throw .assertion
  | some mshr_idx =>
    if (m.entries mshr_idx).valid ∧ (m.entries mshr_idx).line_addr = line_addr ∧
        (m.entries mshr_idx).target = some rep_lqe.id then pure mshr_idx
    else throw .assertion

/-- `release`, and the line is erased from `mshr_indices`. -/
def release (line_addr : BitVec 64) (mshr_idx : ℕ) : MSHRs where
  indices := m.indices.erase line_addr
  entries := Function.update m.entries mshr_idx {}

end MSHRs

end ActiveRouting
