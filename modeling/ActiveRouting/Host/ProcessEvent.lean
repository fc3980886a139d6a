import ActiveRouting.Host.HostSystem
import ActiveRouting.Library.Run

/-!
# Processing an event

`process_event` keeps every flow in its phases.  The last response of a flow
answers all its threads, once.
-/

namespace ActiveRouting

open Outcome Transition

/-! ## The transaction buffer -/

theorem mem_insertTran {time : ℕ} {tran : Transaction} {entry : ℕ × Transaction} :
    ∀ {buffer : List (ℕ × Transaction)},
      entry ∈ insertTran time tran buffer ↔ entry = (time, tran) ∨ entry ∈ buffer
  | [] => by simp only [insertTran, List.mem_singleton, List.not_mem_nil, or_false]
  | first :: rest => by
    rw [insertTran]
    split
    · rw [List.mem_cons, mem_insertTran, List.mem_cons, or_left_comm]
    · rw [List.mem_cons]

theorem countP_insertTran {time : ℕ} {tran : Transaction} (p : ℕ × Transaction → Bool) :
    ∀ buffer : List (ℕ × Transaction),
      (insertTran time tran buffer).countP p = buffer.countP p + if p (time, tran) then 1 else 0
  | [] => by simp only [insertTran, List.countP_cons, List.countP_nil]
  | first :: rest => by
    rw [insertTran]
    split
    · rw [List.countP_cons, countP_insertTran p rest, List.countP_cons]
      omega
    · rw [List.countP_cons]

/-! ## One controller -/

namespace PTSHMCController

/-- The updates of a flow. -/
def sendsUpdate (tran : Transaction) : Bool :=
  tran.transactionType = .ACTIVE_ADD ∨ tran.transactionType = .ACTIVE_MULT ∨
    tran.transactionType = .ACTIVE_DOT

/-- Controller `num` knows its transactions by tags below `tag`, and its flows by
    their numbers. -/
structure Ok (c : HostConfig) (num tag : ℕ) (h : PTSHMCController) : Prop where
  pending : ∀ entry ∈ h.pending_active_updates, entry.1 = c.flow_id num entry.2.dest_addr
  tags : ∀ entry ∈ h.active_update_event, entry.1 < tag
  buffered : ∀ entry ∈ h.tran_buf, entry.2.transactionID < tag
  update : ∀ entry ∈ h.tran_buf, sendsUpdate entry.2 → ∀ update ∈ h.active_update_event,
    update.1 = entry.2.transactionID → entry.2.dest_address = c.flow_id num update.2.dest_addr
  naive : c.art_scheme = .art_naive → num ≠ 0 →
    h.active_gather_event = [] ∧ h.pending_active_updates = [] ∧ h.active_update_event = []

variable {c : HostConfig} {num tag : ℕ} {h h' : PTSHMCController}

theorem Ok.mono (ok : h.Ok c num tag) {tag' : ℕ} (le : tag ≤ tag') : h.Ok c num tag' :=
  ⟨ok.pending, fun entry member => Nat.lt_of_lt_of_le (ok.tags entry member) le,
    fun entry member => Nat.lt_of_lt_of_le (ok.buffered entry member) le, ok.update, ok.naive⟩

theorem gathers_congr (same : h'.active_gather_event = h.active_gather_event) (flow : BitVec 64) :
    h'.gathers flow = h.gathers flow := by rw [gathers, gathers, same]

theorem dummies_congr (same : h'.active_gather_event = h.active_gather_event) (flow : BitVec 64) :
    h'.dummies flow = h.dummies flow := by rw [dummies, dummies, same]

/-- A transaction goes to the network. -/
structure Sends (c : HostConfig) (h h' : PTSHMCController) (sent : Option Transaction) : Prop where
  gathers : h'.active_gather_event = h.active_gather_event
  answers : h'.resp_queue = h.resp_queue
  updates : ∀ flow, h'.updates flow ≤ h.updates flow
  unsent : ∀ flow, h.unsent c flow = h'.unsent c flow +
    match sent with
    | some tran => if tran.transactionType = .ACTIVE_GET ∧ c.flow_dest tran.dest_address = flow then 1
      else 0
    | none => 0

theorem Sends.refl (c : HostConfig) (h : PTSHMCController) : h.Sends c h none :=
  ⟨rfl, rfl, fun _ => le_rfl, fun _ => rfl⟩

/-- A controller keeps what it does not note of a transaction. -/
structure Notes (h h' : PTSHMCController) (tran : Transaction) : Prop where
  gathers : h'.active_gather_event = h.active_gather_event
  answers : h'.resp_queue = h.resp_queue
  buffer : h'.tran_buf = h.tran_buf
  updates : h'.active_update_event = h.active_update_event ∧
      h'.pending_active_updates = h.pending_active_updates ∨
    sendsUpdate tran ∧ ∃ lqele, (tran.transactionID, lqele) ∈ h.active_update_event ∧
      h'.active_update_event =
        (h.active_update_event.filter fun entry => entry.1 ≠ tran.transactionID) ∧
      h'.pending_active_updates = h.pending_active_updates ++ [(tran.dest_address, lqele)]

theorem sendUpdate_notes {tran : Transaction} (update : sendsUpdate tran)
    (result : h.sendUpdate tran = .ok h') : h.Notes h' tran := by
  unfold sendUpdate at result
  split at result
  · rename_i tag' lqele found
    obtain rfl := pure_eq_ok.mp result
    have tag := List.find?_some found
    obtain rfl : tag' = tran.transactionID := of_decide_eq_true tag
    exact ⟨rfl, rfl, rfl, .inr ⟨update, lqele, List.mem_of_find?_eq_some found, rfl, rfl⟩⟩
  · exact absurd result throw_ne_ok

theorem noteTran_notes {curr_time : ℕ} {tran : Transaction}
    (result : h.noteTran curr_time tran = .ok h') : h.Notes h' tran := by
  unfold noteTran at result
  split at result
  · rename_i add
    exact sendUpdate_notes (by simp only [sendsUpdate, add, true_or, decide_true]) result
  · rename_i mult
    exact sendUpdate_notes (by simp only [sendsUpdate, mult, true_or, or_true, decide_true]) result
  · rename_i dot
    exact sendUpdate_notes (by simp only [sendsUpdate, dot, or_true, decide_true]) result
  · obtain rfl := pure_eq_ok.mp result
    exact ⟨rfl, rfl, rfl, .inl ⟨rfl, rfl⟩⟩
  · obtain rfl := pure_eq_ok.mp result
    exact ⟨rfl, rfl, rfl, .inl ⟨rfl, rfl⟩⟩
  · obtain rfl := pure_eq_ok.mp result
    exact ⟨rfl, rfl, rfl, .inl ⟨rfl, rfl⟩⟩
  · obtain rfl := pure_eq_ok.mp result
    exact ⟨rfl, rfl, rfl, .inl ⟨rfl, rfl⟩⟩
  · split at result
    · exact absurd result throw_ne_ok
    · split at result
      · obtain rfl := pure_eq_ok.mp result
        exact ⟨rfl, rfl, rfl, .inl ⟨rfl, rfl⟩⟩
      · exact absurd result throw_ne_ok
  · exact absurd result throw_ne_ok

/-- The transaction at the head has left the buffer. -/
theorem Notes.ok {time : ℕ} {tran : Transaction} {rest : List (ℕ × Transaction)}
    (notes : h.Notes h' tran) (ok : h.Ok c num tag) (head : h.tran_buf = (time, tran) :: rest) :
    PTSHMCController.Ok c num tag { h' with tran_buf := rest } := by
  have inside : ∀ entry ∈ rest, entry ∈ h.tran_buf := fun entry member =>
    head ▸ List.mem_cons_of_mem _ member
  obtain ⟨gathers, -, -, updates⟩ := notes
  cases updates with
  | inl same =>
    obtain ⟨updates, pending⟩ := same
    refine ⟨pending ▸ ok.pending, updates ▸ ok.tags, fun entry member => ok.buffered entry
      (inside entry member), fun entry member => ?_, fun scheme other => ?_⟩
    · exact updates ▸ ok.update entry (inside entry member)
    · exact gathers ▸ pending ▸ updates ▸ ok.naive scheme other
  | inr sent =>
    obtain ⟨update, lqele, found, updates, pending⟩ := sent
    have flow := ok.update _ (head ▸ List.mem_cons_self) update _ found rfl
    have kept : ∀ entry ∈ h'.active_update_event, entry ∈ h.active_update_event :=
      fun entry member => List.mem_of_mem_filter (updates ▸ member)
    refine ⟨fun entry member => ?_, fun entry member => ok.tags entry (kept entry member),
      fun entry member => ok.buffered entry (inside entry member),
      fun entry member update update' member' => ok.update entry (inside entry member) update update'
        (kept update' member'), fun scheme other => ?_⟩
    · rw [pending] at member
      cases List.mem_append.mp member with
      | inl before => exact ok.pending entry before
      | inr new =>
        obtain rfl := List.mem_singleton.mp new
        exact flow
    · rw [(ok.naive scheme other).2.2] at found
      cases found

/-- The head of the buffer has left it. -/
theorem Notes.sends {time : ℕ} {tran : Transaction} {rest : List (ℕ × Transaction)}
    (notes : h.Notes h' tran) (head : h.tran_buf = (time, tran) :: rest) :
    h.Sends c { h' with tran_buf := rest } (some tran) := by
  refine ⟨notes.gathers, notes.answers, fun flow => ?_, fun flow => ?_⟩
  · refine List.Sublist.countP_le ?_
    cases notes.updates with
    | inl same => exact same.1 ▸ List.Sublist.refl _
    | inr sent =>
      obtain ⟨-, lqele, -, updates, -⟩ := sent
      exact updates ▸ List.filter_sublist
  · rw [unsent, unsent, head, List.countP_cons]
    simp only [decide_eq_true_eq]

theorem sendTran_sends {curr_time : ℕ} {accepts : Bool} {sent : Option Transaction}
    (ok : h.Ok c num tag) (result : h.sendTran curr_time accepts = .ok (h', sent)) :
    h.Sends c h' sent ∧ h'.Ok c num tag := by
  unfold sendTran at result
  split at result
  · obtain ⟨rfl, rfl⟩ := Prod.mk.inj (pure_eq_ok.mp result)
    exact ⟨.refl c h, ok⟩
  · rename_i time tran rest head
    split at result
    · obtain ⟨noted, notes, result⟩ := bind_eq_ok.mp result
      obtain ⟨rfl, rfl⟩ := Prod.mk.inj (pure_eq_ok.mp result)
      have notes := noteTran_notes notes
      exact ⟨notes.sends head, notes.ok ok head⟩
    · obtain ⟨rfl, rfl⟩ := Prod.mk.inj (pure_eq_ok.mp result)
      exact ⟨.refl c h, ok⟩

/-- A controller keeps what belongs to a flow, but for its answers. -/
structure Kept (h h' : PTSHMCController) : Prop where
  gathers : h'.active_gather_event = h.active_gather_event
  updates : h'.active_update_event = h.active_update_event
  pending : h'.pending_active_updates = h.pending_active_updates
  buffer : h'.tran_buf = h.tran_buf

theorem Kept.ok (kept : h.Kept h') (ok : h.Ok c num tag) : h'.Ok c num tag := by
  obtain ⟨gathers, updates, pending, buffer⟩ := kept
  refine ⟨pending ▸ ok.pending, updates ▸ ok.tags, buffer ▸ ok.buffered, ?_, ?_⟩
  · rw [buffer, updates]
    exact ok.update
  · rw [gathers, pending, updates]
    exact ok.naive

/-- A finished request is answered, and is no `ACT_GET`. -/
theorem finishRequest_eq {req_id : ℕ} (result : h.finishRequest req_id = .ok h') :
    h.Kept h' ∧ ∃ lqele, lqele.type ≠ .et_art_get ∧ h'.resp_queue = h.resp_queue ++ [lqele] := by
  unfold finishRequest at result
  split at result
  · exact absurd result throw_ne_ok
  · split at result
    · exact absurd result throw_ne_ok
    · split at result
      · exact absurd result throw_ne_ok
      · rename_i lqele found
        split at result
        · rename_i served
          obtain rfl := pure_eq_ok.mp result
          refine ⟨⟨rfl, rfl, rfl, rfl⟩, lqele, fun get => ?_, rfl⟩
          rw [get] at served
          revert served
          decide
        · exact absurd result throw_ne_ok

theorem respond_eq {answer : Option LocalQueueElement} (result : h.respond = .ok (h', answer)) :
    h.Kept h' ∧ ∀ lqele, lqele.type = .et_art_get →
        h.resp_queue.count lqele = answer.toList.count lqele + h'.resp_queue.count lqele := by
  unfold respond at result
  split at result
  · rename_i empty
    obtain ⟨rfl, rfl⟩ := Prod.mk.inj (pure_eq_ok.mp result)
    exact ⟨⟨rfl, rfl, rfl, rfl⟩, fun _ _ => (Nat.zero_add _).symm⟩
  · rename_i first rest head
    split at result
    · exact absurd result throw_ne_ok
    · rename_i toThread goes
      obtain ⟨rfl, rfl⟩ := Prod.mk.inj (pure_eq_ok.mp result)
      refine ⟨⟨rfl, rfl, rfl, rfl⟩, fun lqele get => ?_⟩
      rw [head, List.count_cons]
      by_cases same : first = lqele
      · subst same
        rw [get] at goes
        obtain rfl := Option.some.inj goes
        simp only [BEq.rfl, if_true, Option.toList_some, List.count_singleton]
        exact Nat.add_comm _ _
      · have different : ¬ (first == lqele) = true := fun equal => same (eq_of_beq equal)
        rw [if_neg different]
        cases toThread with
        | false => exact (Nat.zero_add _).symm
        | true =>
          rw [if_pos rfl, Option.toList_some, List.count_singleton, if_neg different]
          exact Nat.add_comm _ _

/-- The entries that are left when those of a flow have been erased. -/
theorem countP_erased (flow flow' : BitVec 64) (p : LocalQueueElement → Bool)
    (entries : List (BitVec 64 × LocalQueueElement)) :
    (entries.filter fun entry => entry.1 ≠ flow).countP (fun entry => entry.1 = flow' ∧ p entry.2) =
      if flow' = flow then 0 else entries.countP fun entry => entry.1 = flow' ∧ p entry.2 := by
  rw [List.countP_filter]
  split
  · rename_i same
    subst same
    refine List.countP_eq_zero.mpr fun entry _ => ?_
    simp only [Bool.and_eq_true, decide_eq_true_eq]
    rintro ⟨⟨key, -⟩, other⟩
    exact other key
  · rename_i different
    refine List.countP_congr fun entry _ => ?_
    simp only [Bool.and_eq_true, decide_eq_true_eq]
    refine ⟨And.left, fun both => ⟨both, ?_⟩⟩
    exact both.1 ▸ different

theorem replyGather_gathers (flow flow' : BitVec 64) (h : PTSHMCController) :
    (h.replyGather c num flow).gathers flow' = if flow' = flow then 0 else h.gathers flow' := by
  have erased := countP_erased flow flow' (fun lqele => lqele.dummy = false) h.active_gather_event
  simp only [decide_eq_true_eq] at erased
  exact erased

theorem replyGather_dummies (flow flow' : BitVec 64) (h : PTSHMCController) :
    (h.replyGather c num flow).dummies flow' = if flow' = flow then 0 else h.dummies flow' := by
  have erased := countP_erased flow flow' (fun lqele => lqele.dummy = true) h.active_gather_event
  simp only [decide_eq_true_eq] at erased
  exact erased

/-- The `ACT_GET`s of threads that a controller holds move to its response queue. -/
theorem replyGather_count (flow : BitVec 64) (h : PTSHMCController) {lqele : LocalQueueElement}
    (real : lqele.dummy = false) :
    (h.replyGather c num flow).resp_queue.count lqele +
        ((h.replyGather c num flow).active_gather_event.map Prod.snd).count lqele =
      h.resp_queue.count lqele + (h.active_gather_event.map Prod.snd).count lqele := by
  rw [replyGather, List.count_append, Nat.add_assoc, Nat.add_left_cancel_iff]
  simp only [List.count_eq_countP, List.countP_map]
  rw [List.countP_eq_countP_filter_add h.active_gather_event _ fun entry => entry.1 = flow]
  simp only [List.countP_filter, ← decide_not]
  congr 1
  refine List.countP_congr fun entry _ => ?_
  simp only [Function.comp_apply, Bool.and_eq_true, beq_iff_eq, decide_eq_true_eq]
  exact and_congr_right fun same => and_iff_left (same ▸ real)

theorem Ok.replyGather (ok : h.Ok c num tag) (flow : BitVec 64) :
    (h.replyGather c num flow).Ok c num tag := by
  refine ⟨fun entry member => ok.pending entry (List.mem_of_mem_filter member), ok.tags, ok.buffered,
    ok.update, fun scheme other => ?_⟩
  obtain ⟨gathers, pending, updates⟩ := ok.naive scheme other
  simp only [PTSHMCController.replyGather, gathers, pending, updates, List.filter_nil, and_self]

end PTSHMCController

/-! ## The system -/

namespace HostSystem

/-- The controllers are in order, and every `ACT_GET` that has been issued
    waits, is being answered, or has been. -/
structure Accounted (c : HostConfig) (s : HostSystem) : Prop where
  hmcs : ∀ num, (s.host.hmcs num).Ok c num s.host.tranGlobalID
  naive : c.art_scheme = .art_naive → ∀ flow bits num, s.host.active_forests flow = some bits →
    bits[num]? = some true → num = 0
  answers : ∀ num lqele, lqele.type = .et_art_get → lqele.dummy = false →
    (s.issued num).count lqele = (s.answered num).count lqele +
      ((s.host.hmcs num).resp_queue.count lqele +
        ((s.host.hmcs num).active_gather_event.map Prod.snd).count lqele)

/-- Besides, every flow is in one of its phases. -/
structure HostOk (c : HostConfig) (threads : BitVec 64 → ℕ) (s : HostSystem) : Prop
    extends Accounted c s where
  rounds : ∀ flow, (s.view c flow).RoundOk c.hmcs_size (threads flow)

open PTSHMCController

variable {c : HostConfig} {threads : BitVec 64 → ℕ} {s s' : HostSystem} {num : ℕ}

/-- What a new state of a controller does not change. -/
theorem comp_setHmc {β : Type} {f : PTSHMCController → β} {m : Host} {h : PTSHMCController}
    (same : f h = f (m.hmcs num)) : f ∘ (m.setHmc num h).hmcs = f ∘ m.hmcs := by
  rw [Host.setHmc, Function.comp_update, same]
  exact Function.update_eq_self _ _

theorem setHmc_ok {m : Host} {h : PTSHMCController} {tag : ℕ} (hmcs : ∀ num, (m.hmcs num).Ok c num tag)
    (ok : h.Ok c num tag) (num' : ℕ) : ((m.setHmc num h).hmcs num').Ok c num' tag := by
  by_cases same : num' = num
  · subst same
    exact (Host.setHmc_self m num' h).symm ▸ ok
  · exact (Host.setHmc_of_ne same m h).symm ▸ hmcs num'

/-- A new state of a controller that keeps what belongs to a flow. -/
theorem setHmc_kept {m : Host} {h : PTSHMCController} (kept : (m.hmcs num).Kept h)
    (flow : BitVec 64) :
    gathers flow ∘ (m.setHmc num h).hmcs = gathers flow ∘ m.hmcs ∧
      dummies flow ∘ (m.setHmc num h).hmcs = dummies flow ∘ m.hmcs ∧
      updates flow ∘ (m.setHmc num h).hmcs = updates flow ∘ m.hmcs ∧
      unsent c flow ∘ (m.setHmc num h).hmcs = unsent c flow ∘ m.hmcs := by
  refine ⟨comp_setHmc (gathers_congr kept.gathers flow), comp_setHmc (dummies_congr kept.gathers flow),
    comp_setHmc ?_, comp_setHmc ?_⟩
  · rw [updates, updates, kept.updates]
  · rw [unsent, unsent, kept.buffer]

/-! ### Processing -/

theorem sendTran_view {curr_time : ℕ} {accepts : Bool}
    (hmcs : ∀ num, (s.host.hmcs num).Ok c num s.host.tranGlobalID)
    (result : s.sendTran num curr_time accepts = .ok s') (flow : BitVec 64) :
    (s.view c flow).Same (s'.view c flow) := by
  obtain ⟨⟨h, sent⟩, sending, result⟩ := bind_eq_ok.mp result
  obtain rfl := pure_eq_ok.mp result
  obtain ⟨gathers, -, updates, unsent⟩ := (sendTran_sends (hmcs num) sending).1
  refine ⟨rfl, rfl, comp_setHmc (gathers_congr gathers flow), comp_setHmc (dummies_congr gathers flow),
    ?_, ?_, rfl⟩
  · funext num'
    simp only [view, onNetwork]
    by_cases same : num' = num
    · subst same
      rw [Host.setHmc_self, unsent flow]
      cases sent with
      | none => rfl
      | some tran =>
        by_cases get : tran.transactionType = .ACTIVE_GET
        · simp only [get, true_and, if_true, Function.update_self, List.countP_append,
            List.countP_singleton, decide_eq_true_eq]
          omega
        · simp only [get, false_and, if_false, Nat.add_zero]
    · rw [Host.setHmc_of_ne same]
      cases sent with
      | none => rfl
      | some tran =>
        simp only
        split
        · rw [Function.update_of_ne same]
        · rfl
  · intro num'
    simp only [view, Function.comp_apply]
    by_cases same : num' = num
    · subst same
      rw [Host.setHmc_self]
      exact updates flow
    · rw [Host.setHmc_of_ne same]

theorem sendTran_ok {curr_time : ℕ} {accepts : Bool} (ok : HostOk c threads s)
    (result : s.sendTran num curr_time accepts = .ok s') : HostOk c threads s' := by
  have same := sendTran_view ok.hmcs result
  obtain ⟨⟨h, sent⟩, sending, result⟩ := bind_eq_ok.mp result
  obtain ⟨sends, sendsOk⟩ := sendTran_sends (ok.hmcs num) sending
  obtain rfl := pure_eq_ok.mp result
  refine ⟨⟨setHmc_ok ok.hmcs sendsOk, ok.naive, ?_⟩, fun flow => (ok.rounds flow).same (same flow)⟩
  intro num' lqele get real
  rw [ok.answers num' lqele get real]
  by_cases same : num' = num
  · subst same
    rw [Host.setHmc_self, sends.gathers, sends.answers]
  · rw [Host.setHmc_of_ne same]

/-- The `ACT_GET`s of a flow are answered from `s` to `s'`: all threads have
    issued theirs, all controllers of its forest have received their responses,
    the last of them `num` just now, and nothing of the flow remains. -/
structure Answered (c : HostConfig) (threads : BitVec 64 → ℕ) (num : ℕ) (flow : BitVec 64)
    (s s' : HostSystem) : Prop where
  response : ∃ served rest, s.served num = (served, .ACT_GET) :: rest ∧ c.flow_dest served = flow
  issued : (s.view c flow).total c.hmcs_size = threads flow
  responses : ∀ bits, s.host.active_forests flow = some bits → ∀ other < c.hmcs_size,
    bits[other]? = some true → other = num ∨ other ∈ s.responded flow
  cleared : (s'.view c flow).Cleared c.hmcs_size
  pending : ∀ other < c.hmcs_size, (s'.host.hmcs other).pendingUpdates flow = 0

/-- The served transaction at the head is taken from the network. -/
theorem popServed_tokens (s : HostSystem) (num : ℕ) {served : BitVec 64} {cmd : PacketCommandType}
    {rest : List (BitVec 64 × PacketCommandType)} (head : s.served num = (served, cmd) :: rest)
    (flow : BitVec 64) (num' : ℕ) :
    (Function.update s.served num (s.served num).tail num').countP
        (fun entry => entry.2 = .ACT_GET ∧ c.flow_dest entry.1 = flow) =
      (s.served num').countP (fun entry => entry.2 = .ACT_GET ∧ c.flow_dest entry.1 = flow) -
        if num' = num ∧ cmd = .ACT_GET ∧ c.flow_dest served = flow then 1 else 0 := by
  by_cases same : num' = num
  · subst same
    rw [Function.update_self, head, List.tail_cons, List.countP_cons]
    simp only [true_and, decide_eq_true_eq, Nat.add_sub_cancel]
  · rw [Function.update_of_ne same, if_neg fun both => same both.1, Nat.sub_zero]

/-- A response for which others are still missing. -/
theorem takeServed_more {flow : BitVec 64} {bits : List Bool} {ports : List ℤ}
    (awaiting : (s.view c flow).Awaiting c.hmcs_size (threads flow) bits ports)
    (port : ports[num]? = some 1) (more : ports.count 1 ≠ 1) :
    s.host.add_rep_event c num flow = .ok (s.host.setBarrier flow
      ((threads flow, (ports.count 1 : ℤ) - 1), ports.set num (-1))) := by
  have barrier : s.host.gather_barrier flow = _ := awaiting.barrier
  simp only [Host.add_rep_event, barrier, port]
  rw [if_neg (by omega)]
  rfl

theorem takeServed_last {flow : BitVec 64} {bits : List Bool} {ports : List ℤ}
    (awaiting : (s.view c flow).Awaiting c.hmcs_size (threads flow) bits ports)
    (inside : num < c.hmcs_size) (arrived : 0 < (s.view c flow).tokens num)
    (last : ports.count 1 = 1) :
    s.host.add_rep_event c num flow = .ok (s.host.answerFlow c flow) := by
  have barrier : s.host.gather_barrier flow = _ := awaiting.barrier
  have port := awaiting.awaited inside arrived
  simp only [Host.add_rep_event, barrier, port]
  rw [if_pos (by omega), if_pos]
  · rfl
  · refine List.all_eq_true.mpr fun other below => ?_
    have answered := (awaiting.last inside arrived last (List.mem_range.mp below)).1
    simp only [answered, decide_true, Bool.or_true]

/-- The controllers after a flow has been answered. -/
theorem answerFlow_hmcs {m : Host} {flow : BitVec 64} (num : ℕ) :
    (m.answerFlow c flow).hmcs num =
      if Host.replies c num then (m.hmcs num).replyGather c num flow else m.hmcs num := rfl

theorem answerFlow_ok {m : Host} {flow : BitVec 64} {tag : ℕ}
    (hmcs : ∀ num, (m.hmcs num).Ok c num tag) (num : ℕ) :
    ((m.answerFlow c flow).hmcs num).Ok c num tag := by
  rw [answerFlow_hmcs]
  split
  · exact (hmcs num).replyGather flow
  · exact hmcs num

/-- Controllers that do not answer hold nothing. -/
theorem replies_or_empty {m : Host} {tag : ℕ} (ok : (m.hmcs num).Ok c num tag)
    (inside : num < c.hmcs_size) :
    Host.replies c num = true ∨ (m.hmcs num).active_gather_event = [] ∧
      (m.hmcs num).pending_active_updates = [] := by
  by_cases only : c.art_scheme = .art_naive → num = 0
  · exact .inl (decide_eq_true ⟨inside, only⟩)
  · obtain ⟨scheme, other⟩ := Classical.not_imp.mp only
    exact .inr ⟨(ok.naive scheme other).1, (ok.naive scheme other).2.1⟩

theorem answerFlow_other {m : Host} {flow flow' : BitVec 64} (different : flow' ≠ flow) :
    gathers flow' ∘ (m.answerFlow c flow).hmcs = gathers flow' ∘ m.hmcs ∧
      dummies flow' ∘ (m.answerFlow c flow).hmcs = dummies flow' ∘ m.hmcs := by
  constructor
  all_goals
    funext num
    simp only [Function.comp_apply, answerFlow_hmcs]
    split
  · rw [replyGather_gathers, if_neg different]
  · rfl
  · rw [replyGather_dummies, if_neg different]
  · rfl

theorem answerFlow_unsent (m : Host) (flow flow' : BitVec 64) (num : ℕ) :
    unsent c flow' ((m.answerFlow c flow).hmcs num) = unsent c flow' (m.hmcs num) := by
  rw [answerFlow_hmcs]
  split <;> rfl

theorem answerFlow_updates (m : Host) (flow flow' : BitVec 64) (num : ℕ) :
    updates flow' ((m.answerFlow c flow).hmcs num) = updates flow' (m.hmcs num) := by
  rw [answerFlow_hmcs]
  split <;> rfl

/-- Nothing of the flow is left at a controller. -/
theorem answerFlow_cleared {m : Host} {flow : BitVec 64} {tag : ℕ} (ok : (m.hmcs num).Ok c num tag)
    (inside : num < c.hmcs_size) :
    gathers flow ((m.answerFlow c flow).hmcs num) = 0 ∧
      dummies flow ((m.answerFlow c flow).hmcs num) = 0 ∧
      pendingUpdates flow ((m.answerFlow c flow).hmcs num) = 0 := by
  rw [answerFlow_hmcs]
  cases replies_or_empty ok inside with
  | inl replies =>
    rw [if_pos replies, replyGather_gathers, replyGather_dummies, if_pos rfl, if_pos rfl]
    refine ⟨rfl, rfl, List.countP_eq_zero.mpr fun entry member => ?_⟩
    obtain ⟨before, other⟩ := List.mem_filter.mp member
    have key := ok.pending entry before
    simp only [ne_eq, decide_eq_true_eq] at other ⊢
    exact fun same => other (same ▸ key)
  | inr empty =>
    split
    · rw [replyGather_gathers, replyGather_dummies, if_pos rfl, if_pos rfl]
      refine ⟨rfl, rfl, ?_⟩
      rw [pendingUpdates, replyGather, empty.2]
      rfl
    · rw [gathers, dummies, pendingUpdates, empty.1, empty.2]
      exact ⟨rfl, rfl, rfl⟩

/-- What becomes of the system when the response of `flow` has been taken. -/
def received (s : HostSystem) (num : ℕ) (host : Host) (flow : BitVec 64) (responded : List ℕ) :
    HostSystem :=
  { s with
    host := host
    served := Function.update s.served num (s.served num).tail
    responded := Function.update s.responded flow responded }

theorem takeServed_eq {served : BitVec 64} {rest : List (BitVec 64 × PacketCommandType)}
    (head : s.served num = (served, .ACT_GET) :: rest) {host : Host}
    (result : s.host.add_rep_event c num (c.flow_dest served) = .ok host) :
    s.takeServed c num = .ok (s.received num host (c.flow_dest served)
      (if host.gather_barrier (c.flow_dest served) = none then []
        else num :: s.responded (c.flow_dest served))) := by
  have taken : s.host.takeServed c num (s.served num) = .ok host := by
    rw [head]
    exact result
  rw [takeServed, taken]
  simp only [received, head]
  rfl

/-- A controller receives a response; the flows other than its own stay. -/
theorem received_other {served : BitVec 64} {rest : List (BitVec 64 × PacketCommandType)}
    (head : s.served num = (served, .ACT_GET) :: rest) {host : Host} {responded : List ℕ}
    {flow : BitVec 64} (different : flow ≠ c.flow_dest served)
    (barrier : host.gather_barrier flow = s.host.gather_barrier flow)
    (forest : host.active_forests flow = s.host.active_forests flow)
    (gathers' : gathers flow ∘ host.hmcs = gathers flow ∘ s.host.hmcs)
    (dummies' : dummies flow ∘ host.hmcs = dummies flow ∘ s.host.hmcs)
    (unsent' : ∀ num, unsent c flow (host.hmcs num) = unsent c flow (s.host.hmcs num))
    (updates' : ∀ num, updates flow (host.hmcs num) = updates flow (s.host.hmcs num)) :
    (s.view c flow).Same ((s.received num host (c.flow_dest served) responded).view c flow) := by
  refine ⟨barrier, forest, gathers', dummies', ?_, fun num => Nat.le_of_eq (updates' num),
    Function.update_of_ne different _ _⟩
  funext num'
  simp only [view, onNetwork, received]
  rw [unsent', popServed_tokens s num head, if_neg fun both => different both.2.2.symm, Nat.sub_zero]

theorem received_tokens {served : BitVec 64} {rest : List (BitVec 64 × PacketCommandType)}
    (head : s.served num = (served, .ACT_GET) :: rest) {host : Host} {responded : List ℕ}
    (unsent' : ∀ num, unsent c (c.flow_dest served) (host.hmcs num) =
      unsent c (c.flow_dest served) (s.host.hmcs num)) :
    ((s.received num host (c.flow_dest served) responded).view c (c.flow_dest served)).tokens =
      Function.update (s.view c (c.flow_dest served)).tokens num
        ((s.view c (c.flow_dest served)).tokens num - 1) := by
  funext num'
  have popped := popServed_tokens (c := c) s num head (c.flow_dest served) num'
  by_cases same : num' = num
  · subst same
    rw [Function.update_self]
    simp only [view, onNetwork, received]
    have arrived : 0 < (s.served num').countP
        fun entry => entry.2 = .ACT_GET ∧ c.flow_dest entry.1 = c.flow_dest served :=
      List.countP_pos_iff.mpr ⟨(served, .ACT_GET), head ▸ List.mem_cons_self, by
        simp only [and_self, decide_true]⟩
    rw [unsent', popped, if_pos ⟨rfl, rfl, rfl⟩]
    omega
  · rw [Function.update_of_ne same]
    simp only [view, onNetwork, received]
    rw [unsent', popped, if_neg fun both => same both.1, Nat.sub_zero]

theorem answerFlow_answers (m : Host) (flow : BitVec 64) (num : ℕ) {lqele : LocalQueueElement}
    (real : lqele.dummy = false) :
    ((m.answerFlow c flow).hmcs num).resp_queue.count lqele +
        (((m.answerFlow c flow).hmcs num).active_gather_event.map Prod.snd).count lqele =
      (m.hmcs num).resp_queue.count lqele +
        ((m.hmcs num).active_gather_event.map Prod.snd).count lqele := by
  rw [answerFlow_hmcs]
  split
  · exact replyGather_count flow _ real
  · rfl

/-- The last response of a flow answers it. -/
theorem received_last (ok : HostOk c threads s) (inside : num < c.hmcs_size) {served : BitVec 64}
    {rest : List (BitVec 64 × PacketCommandType)}
    (head : s.served num = (served, .ACT_GET) :: rest) {bits : List Bool} {ports : List ℤ}
    (awaiting : (s.view c (c.flow_dest served)).Awaiting c.hmcs_size (threads (c.flow_dest served))
      bits ports) (arrived : 0 < (s.view c (c.flow_dest served)).tokens num)
    (last : ports.count 1 = 1) :
    Answered c threads num (c.flow_dest served) s
      (s.received num (s.host.answerFlow c (c.flow_dest served)) (c.flow_dest served) []) where
  response := ⟨served, rest, head, rfl⟩
  issued := awaiting.total
  responses bits' forest other below bit := by
    obtain rfl := Option.some.inj (forest.symm.trans awaiting.forest)
    exact (awaiting.last inside arrived last below).2.1 bit
  cleared :=
    { barrier := Function.update_self _ _ _
      forest := Function.update_self _ _ _
      gathers := fun other below => (answerFlow_cleared (ok.hmcs other) below).1
      dummies := fun other below => (answerFlow_cleared (ok.hmcs other) below).2.1
      tokens := fun other below => by
        rw [received_tokens head (answerFlow_unsent s.host _ _)]
        by_cases same : other = num
        · subst same
          have port := awaiting.awaited inside arrived
          rw [Function.update_self, awaiting.tokens other inside, if_pos port]
        · rw [Function.update_of_ne same]
          exact (awaiting.last inside arrived last below).2.2 same
      updates := fun other below => by
        rw [← awaiting.updates other below]
        exact answerFlow_updates s.host _ _ other
      responded := Function.update_self _ _ _ }
  pending other below := (answerFlow_cleared (ok.hmcs other) below).2.2

/-- A response before the last lets the others of the flow be awaited. -/
theorem received_more (ok : HostOk c threads s) (inside : num < c.hmcs_size) {served : BitVec 64}
    {rest : List (BitVec 64 × PacketCommandType)}
    (head : s.served num = (served, .ACT_GET) :: rest) {bits : List Bool} {ports : List ℤ}
    (awaiting : (s.view c (c.flow_dest served)).Awaiting c.hmcs_size (threads (c.flow_dest served))
      bits ports) (arrived : 0 < (s.view c (c.flow_dest served)).tokens num)
    (more : ports.count 1 ≠ 1) {host : Host}
    (is : host = s.host.setBarrier (c.flow_dest served)
      ((threads (c.flow_dest served), (ports.count 1 : ℤ) - 1), ports.set num (-1))) :
    HostOk c threads (s.received num host (c.flow_dest served)
        (num :: s.responded (c.flow_dest served))) ∧
      ∀ flow, flow ≠ c.flow_dest served → (s.view c flow).Same ((s.received num host
        (c.flow_dest served) (num :: s.responded (c.flow_dest served))).view c flow) := by
  have other : ∀ flow, flow ≠ c.flow_dest served → (s.view c flow).Same ((s.received num host
      (c.flow_dest served) (num :: s.responded (c.flow_dest served))).view c flow) := by
    subst is
    exact fun flow different => received_other head different (Host.setBarrier_of_ne different _ _)
      rfl rfl rfl (fun _ => rfl) (fun _ => rfl)
  have tokens : ((s.received num host (c.flow_dest served)
      (num :: s.responded (c.flow_dest served))).view c (c.flow_dest served)).tokens =
        Function.update (s.view c (c.flow_dest served)).tokens num
          ((s.view c (c.flow_dest served)).tokens num - 1) := by
    subst is
    exact received_tokens head fun _ => rfl
  subst is
  refine ⟨⟨⟨ok.hmcs, ok.naive, ok.answers⟩, fun flow => ?_⟩, other⟩
  by_cases same : flow = c.flow_dest served
  · subst same
    refine .inr ⟨bits, ports.set num (-1), ?_⟩
    have awaits := awaiting.respond inside arrived more
    refine ⟨?_, awaits.forest, awaits.total, awaits.length, awaits.outstanding, ?_, ?_,
      awaits.updates⟩
    · rw [← awaits.barrier]
      exact Host.setBarrier_self _ _ _
    · rw [show ((s.received num _ _ _).view c _).responded = num :: s.responded _ from
        Function.update_self _ _ _]
      exact awaits.port
    · rw [tokens]
      exact awaits.tokens
  · exact (ok.rounds flow).same (other flow same)

theorem takeServed_get (positive : ∀ flow, 0 < threads flow) (ok : HostOk c threads s)
    (inside : num < c.hmcs_size) {served : BitVec 64}
    {rest : List (BitVec 64 × PacketCommandType)} (head : s.served num = (served, .ACT_GET) :: rest) :
    ∃ s', s.takeServed c num = .ok s' ∧ HostOk c threads s' ∧
      (∀ flow, flow ≠ c.flow_dest served → (s.view c flow).Same (s'.view c flow)) ∧
      ((s'.view c (c.flow_dest served)).gathers = (s.view c (c.flow_dest served)).gathers ∨
        Answered c threads num (c.flow_dest served) s s') := by
  have arrived : 0 < (s.view c (c.flow_dest served)).tokens num := by
    refine Nat.lt_of_lt_of_le ?_ (Nat.le_trans (Nat.le_add_left _ _) (Nat.le_add_left _ _))
    exact List.countP_pos_iff.mpr ⟨(served, .ACT_GET), head ▸ List.mem_cons_self, by
      simp only [and_self, decide_true]⟩
  obtain ⟨bits, ports, awaiting⟩ : ∃ bits ports,
      (s.view c (c.flow_dest served)).Awaiting c.hmcs_size (threads (c.flow_dest served)) bits
        ports := by
    cases ok.rounds (c.flow_dest served) with
    | inl collecting => exact absurd (collecting.tokens num inside) (Nat.ne_of_gt arrived)
    | inr awaiting => exact awaiting
  have port := awaiting.awaited inside arrived
  by_cases last : ports.count 1 = 1
  · refine ⟨_, takeServed_eq head (takeServed_last awaiting inside arrived last), ?_⟩
    rw [if_pos (show (s.host.answerFlow c _).gather_barrier _ = none from Function.update_self _ _ _)]
    have answered := received_last ok inside head awaiting arrived last
    have other : ∀ flow, flow ≠ c.flow_dest served → (s.view c flow).Same ((s.received num
        (s.host.answerFlow c (c.flow_dest served)) (c.flow_dest served) []).view c flow) :=
      fun flow different => received_other head different (Function.update_of_ne different _ _)
        (Function.update_of_ne different _ _) (answerFlow_other different).1
        (answerFlow_other different).2 (answerFlow_unsent s.host _ flow)
        (answerFlow_updates s.host _ flow)
    refine ⟨⟨⟨answerFlow_ok ok.hmcs, fun scheme flow bits' num' forest bit => ?_,
      fun num' lqele get real => ?_⟩, fun flow => ?_⟩, other, .inr answered⟩
    · by_cases same : flow = c.flow_dest served
      · subst same
        cases (Function.update_self _ _ _).symm.trans forest
      · exact ok.naive scheme flow bits' num' ((Function.update_of_ne same _ _).symm.trans forest) bit
    · exact (ok.answers num' lqele get real).trans
        (congrArg _ (answerFlow_answers s.host _ num' real).symm)
    · by_cases same : flow = c.flow_dest served
      · subst same
        exact .inl (answered.cleared.collecting (positive _))
      · exact (ok.rounds flow).same (other flow same)
  · refine ⟨_, takeServed_eq head (takeServed_more awaiting port last), ?_⟩
    have some : (s.host.setBarrier (c.flow_dest served) ((threads (c.flow_dest served),
        (ports.count 1 : ℤ) - 1), ports.set num (-1))).gather_barrier (c.flow_dest served) ≠ none := by
      rw [Host.setBarrier_self]
      exact fun none => nomatch none
    rw [if_neg some]
    obtain ⟨more, other⟩ := received_more ok inside head awaiting arrived last rfl
    exact ⟨more, other, .inl rfl⟩

/-- A step that keeps what belongs to the flows, but for their answers. -/
theorem kept_ok (ok : HostOk c threads s) {h : PTSHMCController} (kept : (s.host.hmcs num).Kept h)
    (host : s'.host = s.host.setHmc num h)
    (network : ∀ flow num', s'.onNetwork c flow num' = s.onNetwork c flow num')
    (responded : s'.responded = s.responded)
    (answers : ∀ num' lqele, lqele.type = .et_art_get → lqele.dummy = false →
      (s'.issued num').count lqele + ((s.answered num').count lqele +
          (s.host.hmcs num').resp_queue.count lqele) =
        (s.issued num').count lqele + ((s'.answered num').count lqele +
          (s'.host.hmcs num').resp_queue.count lqele)) :
    HostOk c threads s' ∧ ∀ flow, (s.view c flow).Same (s'.view c flow) := by
  have view : ∀ flow, (s.view c flow).Same (s'.view c flow) := by
    intro flow
    obtain ⟨gathers, dummies, updates, unsent⟩ := setHmc_kept (c := c) kept flow
    rw [← host] at gathers dummies updates unsent
    refine ⟨?_, ?_, gathers, dummies, ?_, fun num => Nat.le_of_eq (congrFun updates num),
      congrFun responded flow⟩
    · rw [HostSystem.view, host]
      rfl
    · rw [HostSystem.view, host]
      rfl
    · funext num'
      exact congrArg₂ (· + ·) (congrFun unsent num') (network flow num')
  refine ⟨⟨⟨?_, ?_, ?_⟩, fun flow => (ok.rounds flow).same (view flow)⟩, view⟩
  · rw [host]
    exact setHmc_ok ok.hmcs (kept.ok (ok.hmcs num))
  · rw [host]
    exact ok.naive
  · intro num' lqele get real
    have before := ok.answers num' lqele get real
    have balance := answers num' lqele get real
    have gathers : (s'.host.hmcs num').active_gather_event = (s.host.hmcs num').active_gather_event := by
      rw [host]
      by_cases same : num' = num
      · subst same
        rw [Host.setHmc_self, kept.gathers]
      · rw [Host.setHmc_of_ne same]
    rw [gathers]
    omega

/-- What is served is no response of a flow. -/
theorem takeServed_other (ok : HostOk c threads s)
    (other : ∀ served rest, s.served num ≠ (served, .ACT_GET) :: rest)
    (result : s.takeServed c num = .ok s') :
    HostOk c threads s' ∧ ∀ flow, (s.view c flow).Same (s'.view c flow) := by
  obtain ⟨host, taken, result⟩ := bind_eq_ok.mp result
  obtain rfl := pure_eq_ok.mp result
  unfold Host.takeServed at taken
  split at taken
  · rename_i empty
    obtain rfl := pure_eq_ok.mp taken
    simp only [empty, List.tail_nil]
    rw [← empty, Function.update_eq_self]
    exact ⟨ok, fun flow => .refl _⟩
  · rename_i served rest head
    exact absurd head (other served rest)
  · rename_i served cmd rest notGet head
    obtain ⟨h, finished, taken⟩ := bind_eq_ok.mp taken
    obtain rfl := pure_eq_ok.mp taken
    obtain ⟨kept, lqele', type, answers⟩ := finishRequest_eq finished
    refine kept_ok ok kept rfl (fun flow num' => ?_) ?_ fun num' lqele get real => ?_
    · have popped := popServed_tokens (c := c) s num head flow num'
      rw [if_neg fun both => notGet both.2.1] at popped
      exact congrArg _ popped
    · simp only [head]
      split
      · rename_i get
        exact (notGet (Prod.mk.inj (List.cons.inj get).1).2).elim
      · rfl
    · by_cases same : num' = num
      · subst same
        have different : ¬ (lqele' == lqele) = true := fun equal =>
          type (eq_of_beq equal ▸ get)
        simp only [Host.setHmc_self, answers, List.count_append, List.count_singleton,
          if_neg different, Nat.add_zero]
      · simp only [Host.setHmc_of_ne same]

theorem respond_ok (ok : HostOk c threads s) (result : s.respond num = .ok s') :
    HostOk c threads s' ∧ ∀ flow, (s.view c flow).Same (s'.view c flow) := by
  obtain ⟨⟨h, answer⟩, responded, result⟩ := bind_eq_ok.mp result
  obtain rfl := pure_eq_ok.mp result
  obtain ⟨kept, answers⟩ := respond_eq responded
  refine kept_ok ok kept rfl (fun _ _ => rfl) rfl fun num' lqele get real => ?_
  by_cases same : num' = num
  · subst same
    simp only [Host.setHmc_self, answers lqele get]
    cases answer with
    | none => simp only [Option.toList_none, List.count_nil, Nat.zero_add]
    | some lqele' =>
      simp only [Option.toList_some, Function.update_self, List.count_append]
      omega
  · simp only [Host.setHmc_of_ne same]
    cases answer with
    | none => rfl
    | some lqele' => simp only [Function.update_of_ne same]

theorem sendTran_served {curr_time : ℕ} {accepts : Bool}
    (result : s.sendTran num curr_time accepts = .ok s') : s'.served = s.served := by
  obtain ⟨⟨h, sent⟩, sending, result⟩ := bind_eq_ok.mp result
  obtain rfl := pure_eq_ok.mp result
  rfl

theorem respond_pending (result : s.respond num = .ok s') (num' : ℕ) :
    (s'.host.hmcs num').pending_active_updates = (s.host.hmcs num').pending_active_updates := by
  obtain ⟨⟨h, answer⟩, responded, result⟩ := bind_eq_ok.mp result
  obtain rfl := pure_eq_ok.mp result
  by_cases same : num' = num
  · subst same
    simp only [Host.setHmc_self, (respond_eq responded).1.pending]
  · simp only [Host.setHmc_of_ne same]

/-! ### The whole event -/

theorem Answered.of_same {flow : BitVec 64} {t t' : HostSystem}
    (answered : Answered c threads num flow t t') (served : t.served = s.served)
    (before : (s.view c flow).Same (t.view c flow))
    (after : (t'.view c flow).Same (s'.view c flow))
    (pending : ∀ num, (s'.host.hmcs num).pending_active_updates =
      (t'.host.hmcs num).pending_active_updates) : Answered c threads num flow s s' where
  response := served ▸ answered.response
  issued := by
    rw [← answered.issued, FlowView.total, FlowView.total, before.gathers]
  responses bits forest other below bit := by
    have responses := answered.responses bits (before.forest.trans forest) other below bit
    have responded : t.responded flow = s.responded flow := before.responded
    exact responded ▸ responses
  cleared :=
    { barrier := after.barrier.trans answered.cleared.barrier
      forest := after.forest.trans answered.cleared.forest
      gathers := after.gathers ▸ answered.cleared.gathers
      dummies := after.dummies ▸ answered.cleared.dummies
      tokens := after.tokens ▸ answered.cleared.tokens
      updates := fun num below =>
        Nat.eq_zero_of_le_zero (answered.cleared.updates num below ▸ after.updates num)
      responded := after.responded.trans answered.cleared.responded }
  pending other below := by
    rw [← answered.pending other below, pendingUpdates, pendingUpdates, pending]

theorem process_event_ok (positive : ∀ flow, 0 < threads flow) (ok : HostOk c threads s)
    (inside : num < c.hmcs_size) {curr_time : ℕ} {accepts : Bool}
    (result : s.process_event c num curr_time accepts = .ok s') :
    HostOk c threads s' ∧ ∀ flow, (s'.view c flow).gathers = (s.view c flow).gathers ∨
      Answered c threads num flow s s' := by
  obtain ⟨sent, sending, result⟩ := bind_eq_ok.mp result
  obtain ⟨taken, taking, responding⟩ := bind_eq_ok.mp result
  have sentOk := sendTran_ok ok sending
  have sentView := sendTran_view ok.hmcs sending
  by_cases response : ∃ served rest, sent.served num = (served, .ACT_GET) :: rest
  · obtain ⟨served, rest, head⟩ := response
    obtain ⟨taken', taking', takenOk, other, flow⟩ := takeServed_get positive sentOk inside head
    obtain rfl := Except.ok.inj (taking.symm.trans taking')
    obtain ⟨ok', view'⟩ := respond_ok takenOk responding
    refine ⟨ok', fun flow' => ?_⟩
    by_cases same : flow' = c.flow_dest served
    · subst same
      cases flow with
      | inl gathers =>
        exact .inl ((view' _).gathers.trans (gathers.trans (sentView _).gathers))
      | inr answered =>
        exact .inr (answered.of_same (sendTran_served sending) (sentView _) (view' _)
          (respond_pending responding))
    · exact .inl ((view' _).gathers.trans ((other flow' same).gathers.trans (sentView _).gathers))
  · have none : ∀ served rest, sent.served num ≠ (served, .ACT_GET) :: rest :=
      fun served rest head => response ⟨served, rest, head⟩
    obtain ⟨takenOk, other⟩ := takeServed_other sentOk none taking
    obtain ⟨ok', view'⟩ := respond_ok takenOk responding
    exact ⟨ok', fun flow =>
      .inl ((view' flow).gathers.trans ((other flow).gathers.trans (sentView flow).gathers))⟩

end HostSystem

end ActiveRouting
