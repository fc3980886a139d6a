import Mathlib.Data.BitVec

/-!
# Local queue elements

`PTSComponent.h`: the events that the components of the host exchange, and
`PTSHMCController::hmc_transaction_type`.
-/

namespace ActiveRouting

/-- `event_type`. -/
inductive EventType where
  | et_read | et_write | et_write_nd | et_evict | et_evict_nd | et_dir_evict
  | et_e_to_m | et_e_to_i | et_e_to_s | et_e_to_s_nd | et_m_to_s | et_m_to_m | et_m_to_i
  | et_s_to_s | et_s_to_s_nd | et_m_to_e
  | et_dir_rd | et_dir_rd_nd | et_e_rd | et_s_rd | et_nack | et_invalidate | et_invalidate_nd
  | et_s_rd_wr | et_rd_bypass | et_tlb_rd | et_i_to_e | et_rd_dir_info_req | et_rd_dir_info_rep
  | et_nop
  | et_art_get | et_art_add | et_art_mult | et_art_dot | et_pei_dot | et_pei_atomic
  deriving DecidableEq, Repr

/-- `tran_type`. -/
inductive TranType where
  | MEM_READ | MEM_WRITE | MEM_EVICT | ART_GET | ART_ADD | ART_MULT | ART_DOT | PEI_DOT | PEI_ATOMIC
  deriving DecidableEq, Repr

/-- `LocalQueueElement`.  `id` stands for its address in memory, to which the
    halves of a multiplication refer. -/
structure LocalQueueElement where
  id : ℕ
  type : EventType
  address : BitVec 64 := 0
  dummy : Bool := false
  dest_addr : BitVec 64 := 0
  src_addr1 : BitVec 64 := 0
  src_addr2 : BitVec 64 := 0
  lines : ℕ := 0
  rlen : ℕ := 0
  nthreads : ℤ := -1
  twin_lqe1 : Option ℕ := none
  twin_lqe2 : Option ℕ := none
  deriving DecidableEq, Repr

/-- `hmc_transaction_type`; the other types are not sent to the network. -/
def hmc_transaction_type : EventType → Option TranType
  | .et_read | .et_dir_rd | .et_dir_rd_nd | .et_e_rd | .et_s_rd | .et_tlb_rd
  | .et_rd_dir_info_req | .et_rd_dir_info_rep => some .MEM_READ
  | .et_write | .et_write_nd | .et_s_rd_wr => some .MEM_WRITE
  | .et_evict | .et_evict_nd | .et_dir_evict => some .MEM_EVICT
  | .et_art_get => some .ART_GET
  | .et_art_add => some .ART_ADD
  | .et_art_mult => some .ART_MULT
  | .et_art_dot => some .ART_DOT
  | .et_pei_dot => some .PEI_DOT
  | .et_pei_atomic => some .PEI_ATOMIC
  | _ => none

end ActiveRouting
