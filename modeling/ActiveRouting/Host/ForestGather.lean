import ActiveRouting.Host.ProcessEvent
import ActiveRouting.Library.Run

/-!
# The gather at the host

Every flow of the host goes through its rounds: it collects the `ACT_GET`s of
its threads, awaits the responses of the controllers of its forest, answers
every thread once, and leaves nothing behind.  The last `ACT_GET` of a flow
without an update reads a forest that does not exist.
-/

namespace ActiveRouting

open Outcome Transition

namespace PTSHMCController

variable {c : HostConfig} {num tag : ℕ} {h h' : PTSHMCController} {lqele : LocalQueueElement}

/-! ## Sending an `ACT_GET` -/

theorem sendGather_eq (c : HostConfig) (num event_time tag : ℕ) (lqele : LocalQueueElement)
    (h : PTSHMCController) :
    ∃ src_addr1 extra, h.sendGather c num event_time tag lqele =
        { h with
          active_gather_event := h.active_gather_event ++ extra
          tran_buf := insertTran event_time (gatherTran c num lqele.dest_addr src_addr1 tag)
            h.tran_buf } ∧
      (extra = [] ∨ extra = [(lqele.dest_addr, dummyGet lqele)]) := by
  unfold sendGather
  split
  · rename_i key first found
    refine ⟨first.src_addr1, [], ?_, .inl rfl⟩
    rw [List.append_nil]
  · exact ⟨lqele.src_addr1, [(lqele.dest_addr, dummyGet lqele)], rfl, .inr rfl⟩

/-- A dummy is no `ACT_GET` of a thread. -/
theorem sendGather_gathers (event_time : ℕ) (flow : BitVec 64) :
    (h.sendGather c num event_time tag lqele).gathers flow = h.gathers flow := by
  obtain ⟨src_addr1, extra, is, extraIs⟩ := sendGather_eq c num event_time tag lqele h
  rw [is, gathers, List.countP_append]
  cases extraIs with
  | inl nothing => rw [nothing]; rfl
  | inr dummy =>
    rw [dummy, List.countP_singleton, if_neg (by simp only [dummyGet, reduceCtorEq, and_false,
      decide_false, not_false_eq_true])]
    rfl

theorem sendGather_dummies {event_time : ℕ} {flow : BitVec 64} (different : flow ≠ lqele.dest_addr) :
    (h.sendGather c num event_time tag lqele).dummies flow = h.dummies flow := by
  obtain ⟨src_addr1, extra, is, extraIs⟩ := sendGather_eq c num event_time tag lqele h
  rw [is, dummies, List.countP_append]
  cases extraIs with
  | inl nothing => rw [nothing]; rfl
  | inr dummy =>
    rw [dummy, List.countP_singleton, if_neg (by simp only [different.symm, false_and,
      decide_false, Bool.false_eq_true, not_false_eq_true])]
    rfl

theorem sendGather_unsent {event_time : ℕ}
    (decodes : c.flow_dest (c.flow_id num lqele.dest_addr) = lqele.dest_addr) (flow : BitVec 64) :
    (h.sendGather c num event_time tag lqele).unsent c flow =
      h.unsent c flow + if lqele.dest_addr = flow then 1 else 0 := by
  obtain ⟨src_addr1, extra, is, -⟩ := sendGather_eq c num event_time tag lqele h
  rw [is, unsent, countP_insertTran]
  simp only [gatherTran, decodes, true_and, decide_eq_true_eq]
  rfl

theorem sendGather_kept (event_time : ℕ) :
    (h.sendGather c num event_time tag lqele).active_update_event = h.active_update_event ∧
      (h.sendGather c num event_time tag lqele).pending_active_updates = h.pending_active_updates ∧
      (h.sendGather c num event_time tag lqele).resp_queue = h.resp_queue := by
  obtain ⟨src_addr1, extra, is, -⟩ := sendGather_eq c num event_time tag lqele h
  rw [is]
  exact ⟨rfl, rfl, rfl⟩

theorem sendGather_count {event_time : ℕ} {lqele' : LocalQueueElement} (real : lqele'.dummy = false) :
    ((h.sendGather c num event_time tag lqele).active_gather_event.map Prod.snd).count lqele' =
      (h.active_gather_event.map Prod.snd).count lqele' := by
  obtain ⟨src_addr1, extra, is, extraIs⟩ := sendGather_eq c num event_time tag lqele h
  rw [is, List.map_append, List.count_append]
  cases extraIs with
  | inl nothing => rw [nothing]; rfl
  | inr dummy =>
    have different : ¬ (dummyGet lqele == lqele') = true := fun equal =>
      absurd (eq_of_beq equal ▸ real) (by simp only [dummyGet, reduceCtorEq, not_false_eq_true])
    rw [dummy, List.map_singleton, List.count_singleton, if_neg different, Nat.add_zero]

theorem Ok.sendGather {tag' : ℕ} (ok : h.Ok c num tag') (below : tag < tag')
    (naive : c.art_scheme = .art_naive → num = 0) (event_time : ℕ) :
    (h.sendGather c num event_time tag lqele).Ok c num tag' := by
  obtain ⟨src_addr1, extra, is, -⟩ := sendGather_eq c num event_time tag lqele h
  rw [is]
  refine ⟨ok.pending, ok.tags, fun entry member => ?_, fun entry member update => ?_,
    fun scheme other => absurd (naive scheme) other⟩
  · cases mem_insertTran.mp member with
    | inl new => exact new ▸ below
    | inr before => exact ok.buffered entry before
  · cases mem_insertTran.mp member with
    | inl new =>
      subst new
      cases update
    | inr before => exact ok.update entry before update

/-- Where no dummy waits, and a thread under `art_naive`, the assertions hold. -/
theorem gatherAsserts_of (dummies : h.dummies lqele.dest_addr = 0)
    (naive : c.art_scheme = .art_naive → ∃ entry ∈ h.active_gather_event, entry.1 = lqele.dest_addr) :
    gatherAsserts c lqele h = true := by
  unfold gatherAsserts
  split
  · rename_i key first found
    have member := List.mem_of_find?_eq_some found
    have key := List.find?_some found
    simp only [decide_eq_true_eq] at key
    have real := List.countP_eq_zero.mp dummies _ member
    simp only [decide_eq_true_eq] at real
    rw [Bool.not_eq_true', Bool.eq_false_iff]
    exact fun dummy => real ⟨key, dummy⟩
  · rename_i missing
    refine decide_eq_true fun scheme => ?_
    obtain ⟨entry, member, key⟩ := naive scheme
    exact List.find?_eq_none.mp missing entry member (decide_eq_true key)

/-! ## Other requests -/

theorem holdGet_gathers (real : lqele.dummy = false) (h : PTSHMCController) (flow : BitVec 64) :
    (h.holdGet lqele).gathers flow = h.gathers flow + if lqele.dest_addr = flow then 1 else 0 := by
  rw [gathers, holdGet, List.countP_append, List.countP_singleton]
  simp only [real, and_true, decide_eq_true_eq]
  rfl

theorem holdGet_dummies (real : lqele.dummy = false) (h : PTSHMCController) (flow : BitVec 64) :
    (h.holdGet lqele).dummies flow = h.dummies flow := by
  rw [dummies, holdGet, List.countP_append, List.countP_singleton]
  simp only [real, Bool.false_eq_true, and_false, decide_false, if_false, Nat.add_zero]
  rfl

theorem pairTwins_kept {ready : Bool} (result : h.pairTwins lqele = .ok (h', ready)) :
    h.Kept h' ∧ h'.resp_queue = h.resp_queue := by
  unfold pairTwins at result
  simp only at result
  split at result
  · obtain ⟨rfl, -⟩ := Prod.mk.inj (pure_eq_ok.mp result)
    exact ⟨⟨rfl, rfl, rfl, rfl⟩, rfl⟩
  · split at result
    · obtain ⟨rfl, -⟩ := Prod.mk.inj (pure_eq_ok.mp result)
      exact ⟨⟨rfl, rfl, rfl, rfl⟩, rfl⟩
    · split at result
      · obtain ⟨rfl, -⟩ := Prod.mk.inj (pure_eq_ok.mp result)
        exact ⟨⟨rfl, rfl, rfl, rfl⟩, rfl⟩
      · split at result
        · split at result
          · obtain ⟨rfl, -⟩ := Prod.mk.inj (pure_eq_ok.mp result)
            exact ⟨⟨rfl, rfl, rfl, rfl⟩, rfl⟩
          · exact absurd result throw_ne_ok
        · exact absurd result throw_ne_ok

theorem pairTwins_get (get : lqele.type = .et_art_get) : h.pairTwins lqele = .ok (h, true) := by
  unfold pairTwins
  simp only [get]
  rfl

theorem addTran_unsent {tran : Transaction} (other : tran.transactionType ≠ .ACTIVE_GET)
    (event_time : ℕ) (update : Bool) (flow : BitVec 64) :
    (h.addTran event_time tran lqele update).unsent c flow = h.unsent c flow := by
  rw [unsent, addTran, countP_insertTran, if_neg, Nat.add_zero]
  · rfl
  · simp only [other, false_and, decide_false, Bool.false_eq_true, not_false_eq_true]

theorem addTran_updates (event_time : ℕ) (tran : Transaction) (update : Bool) (flow : BitVec 64) :
    (h.addTran event_time tran lqele update).updates flow =
      h.updates flow + if update = true ∧ lqele.dest_addr = flow then 1 else 0 := by
  rw [updates, addTran]
  cases update with
  | false => simp only [Bool.false_eq_true, false_and, if_false, Nat.add_zero]; rfl
  | true =>
    simp only [if_true, List.countP_append, List.countP_singleton, true_and, decide_eq_true_eq]
    rfl

theorem Ok.addTran (ok : h.Ok c num tag) {tran : Transaction} (new : tran.transactionID = tag)
    {update : Bool} (sends : sendsUpdate tran → update = true ∧
      tran.dest_address = c.flow_id num lqele.dest_addr)
    (naive : update = true → c.art_scheme = .art_naive → num = 0) (event_time : ℕ) :
    (h.addTran event_time tran lqele update).Ok c num (tag + 1) := by
  have updates : ∀ entry ∈ (h.addTran event_time tran lqele update).active_update_event,
      entry ∈ h.active_update_event ∨ entry = (tag, lqele) := by
    intro entry member
    rw [PTSHMCController.addTran] at member
    cases update with
    | false => exact .inl member
    | true =>
      simp only [if_true, new] at member
      exact (List.mem_append.mp member).imp_right List.mem_singleton.mp
  refine ⟨ok.pending, fun entry member => ?_, fun entry member => ?_,
    fun entry member sendsUpdate update' member' tags => ?_, fun scheme other => ?_⟩
  · cases updates entry member with
    | inl before => exact Nat.lt_succ_of_lt (ok.tags entry before)
    | inr is => exact is ▸ Nat.lt_succ_self tag
  · cases mem_insertTran.mp member with
    | inl is =>
      rw [is, new]
      exact Nat.lt_succ_self tag
    | inr before => exact Nat.lt_succ_of_lt (ok.buffered entry before)
  · cases mem_insertTran.mp member with
    | inl is =>
      subst is
      cases updates update' member' with
      | inl before => exact absurd (tags.trans new) (Nat.ne_of_lt (ok.tags update' before))
      | inr is =>
        subst is
        exact (sends sendsUpdate).2
    | inr before =>
      cases updates update' member' with
      | inl before' => exact ok.update entry before sendsUpdate update' before' tags
      | inr is =>
        subst is
        exact absurd tags.symm (Nat.ne_of_lt (ok.buffered entry before))
  · obtain ⟨gathers, pending, none⟩ := ok.naive scheme other
    refine ⟨gathers, pending, ?_⟩
    cases update with
    | false => exact none
    | true => exact absurd (naive rfl scheme) other

end PTSHMCController

namespace Host

variable {c : HostConfig} {num tag : ℕ} {lqele : LocalQueueElement} {type : TranType}

theorem newTran_tag : (newTran c num tag lqele type).transactionID = tag := by cases type <;> rfl

theorem newTran_get (other : type ≠ .ART_GET) :
    (newTran c num tag lqele type).transactionType ≠ .ACTIVE_GET := by
  cases type with
  | ART_GET => exact absurd rfl other
  | _ => exact fun same => nomatch same

theorem newTran_update (other : type ≠ .ART_GET)
    (update : PTSHMCController.sendsUpdate (newTran c num tag lqele type)) :
    isUpdate type = true ∧
      (newTran c num tag lqele type).dest_address = c.flow_id num lqele.dest_addr := by
  cases type with
  | ART_ADD | ART_MULT | ART_DOT => exact ⟨rfl, rfl⟩
  | ART_GET => exact absurd rfl other
  | _ => cases update

end Host

/-! ## Requests -/

namespace HostSystem

open PTSHMCController

variable {c : HostConfig} {threads : BitVec 64 → ℕ} {s s' : HostSystem} {num event_time : ℕ}
  {lqele : LocalQueueElement} {type : TranType}

/-- Whether an event belongs to a flow. -/
def ofFlow (type : EventType) : Bool :=
  type ∈ [.et_art_get, .et_art_add, .et_art_mult, .et_art_dot]

/-- What the threads promise: each has one `ACT_GET` of a flow unanswered at
    most, sends nothing of the flow meanwhile, and issues its `ACT_GET` when its
    updates have been acknowledged. -/
structure Promised (c : HostConfig) (threads : BitVec 64 → ℕ) (s : HostSystem) (num : ℕ)
    (lqele : LocalQueueElement) : Prop where
  inside : num < c.hmcs_size
  blocked : ofFlow lqele.type → s.unanswered c lqele.dest_addr < threads lqele.dest_addr
  real : lqele.type = .et_art_get →
    lqele.dummy = false ∧ lqele.nthreads = threads lqele.dest_addr
  acknowledged : lqele.type = .et_art_get →
    (s.view c lqele.dest_addr).total c.hmcs_size + 1 = threads lqele.dest_addr →
    ∀ other < c.hmcs_size, (s.host.hmcs other).updates lqele.dest_addr = 0

/-- What the controllers need: at most four of them, numbers that a flow can
    carry, under `art_naive` the first of them only, and an update of the flow
    before the last of its `ACT_GET`s. -/
structure Supported (c : HostConfig) (threads : BitVec 64 → ℕ) (s : HostSystem) (num : ℕ)
    (lqele : LocalQueueElement) : Prop where
  few : ofFlow lqele.type → c.hmcs_size ≤ 4
  decodes : ofFlow lqele.type → ∀ other < c.hmcs_size,
    c.flow_dest (c.flow_id other lqele.dest_addr) = lqele.dest_addr
  naive : ofFlow lqele.type → c.art_scheme = .art_naive → num = 0
  updated : lqele.type = .et_art_get →
    (s.view c lqele.dest_addr).total c.hmcs_size + 1 = threads lqele.dest_addr →
    (s.host.active_forests lqele.dest_addr).isSome

/-- A flow that a thread sends something of collects its `ACT_GET`s. -/
theorem Promised.collecting (ok : HostOk c threads s) (promised : Promised c threads s num lqele)
    (flow : ofFlow lqele.type) :
    (s.view c lqele.dest_addr).Collecting c.hmcs_size (threads lqele.dest_addr) := by
  refine (ok.rounds lqele.dest_addr).collecting (Nat.lt_of_le_of_lt ?_ (promised.blocked flow))
  exact Finset.sum_le_sum fun num _ => Nat.le_add_right _ _

/-- The controllers after a transaction has been added. -/
theorem addTran_hmcs (m : Host) (event_time : ℕ) (type : TranType) (num' : ℕ) :
    (m.addTran c num event_time lqele type).hmcs num' =
      if num' = num then (m.hmcs num).addTran event_time
        (Host.newTran c num m.tranGlobalID lqele type) lqele (Host.isUpdate type)
      else m.hmcs num' := by
  by_cases same : num' = num
  · subst same
    rw [if_pos rfl]
    exact Host.setHmc_self _ _ _
  · rw [if_neg same]
    exact Host.setHmc_of_ne same _ _

/-- A transaction that is no `ACT_GET`, on top of the forests `forests`. -/
def withTran (c : HostConfig) (s : HostSystem) (num event_time : ℕ) (lqele : LocalQueueElement)
    (type : TranType) (forests : BitVec 64 → Option (List Bool)) : HostSystem :=
  { s with
    host := { s.host with active_forests := forests }.addTran c num event_time lqele type }

theorem withTran_view (other : type ≠ .ART_GET) (s : HostSystem) (event_time : ℕ)
    (forests : BitVec 64 → Option (List Bool)) (flow : BitVec 64) :
    (withTran c s num event_time lqele type forests).view c flow =
      { s.view c flow with
        forest := forests flow
        updates := fun num' => (s.view c flow).updates num' +
          if num' = num ∧ Host.isUpdate type = true ∧ lqele.dest_addr = flow then 1 else 0 } := by
  simp only [view, withTran, FlowView.mk.injEq]
  refine ⟨rfl, rfl, ?_, ?_, ?_, ?_, trivial⟩
  all_goals
    funext num'
    simp only [Function.comp_apply, addTran_hmcs]
    split
  case refine_1.isTrue same | refine_2.isTrue same => exact same ▸ rfl
  case refine_3.isTrue same =>
    rw [addTran_unsent (Host.newTran_get other), same]
    rfl
  case refine_4.isTrue same =>
    rw [addTran_updates, same]
    simp only [true_and]
  case refine_4.isFalse different => rw [if_neg fun both => different both.1, Nat.add_zero]
  all_goals rfl

theorem withTran_ok (ok : HostOk c threads s) (other : type ≠ .ART_GET)
    {forests : BitVec 64 → Option (List Bool)}
    (rounds : ∀ flow, ((withTran c s num event_time lqele type forests).view c flow).RoundOk
      c.hmcs_size (threads flow))
    (naive : c.art_scheme = .art_naive → ∀ flow bits num, forests flow = some bits →
      bits[num]? = some true → num = 0)
    (first : Host.isUpdate type = true → c.art_scheme = .art_naive → num = 0) :
    HostOk c threads (withTran c s num event_time lqele type forests) where
  rounds := rounds
  hmcs num' := by
    rw [withTran, addTran_hmcs]
    split
    · rename_i same
      subst same
      exact (ok.hmcs num').addTran Host.newTran_tag (Host.newTran_update other) first event_time
    · exact (ok.hmcs num').mono (Nat.le_succ _)
  naive := naive
  answers num' lqele' get real := by
    have before := ok.answers num' lqele' get real
    simp only [withTran, addTran_hmcs]
    split
    · rename_i same
      subst same
      exact before
    · exact before

/-- A request that belongs to no flow. -/
theorem addRequest_ok (ok : HostOk c threads s) (other : type ≠ .ART_GET)
    (request : Host.isUpdate type = false) :
    HostOk c threads (withTran c s num event_time lqele type s.host.active_forests) := by
  refine withTran_ok ok other (fun flow => ?_) ok.naive fun update => ?_
  · rw [withTran_view other]
    refine (ok.rounds flow).same ⟨rfl, rfl, rfl, rfl, rfl, fun num' => ?_, rfl⟩
    simp only [request, Bool.false_eq_true, false_and, and_false, if_false, Nat.add_zero, le_refl]
  · exact absurd (request ▸ update) Bool.false_ne_true

/-- The forests after an update of `flow` has reached controller `num`. -/
def marked (s : HostSystem) (num : ℕ) (flow : BitVec 64) : BitVec 64 → Option (List Bool) :=
  Function.update s.host.active_forests flow
    (some (((s.host.active_forests flow).getD (List.replicate 4 false)).set num true))

theorem marked_self (s : HostSystem) (num : ℕ) (flow : BitVec 64) : marked s num flow flow =
    some (((s.host.active_forests flow).getD (List.replicate 4 false)).set num true) :=
  Function.update_self _ _ _

theorem marked_of_ne {flow flow' : BitVec 64} (ne : flow' ≠ flow) (s : HostSystem) (num : ℕ) :
    marked s num flow flow' = s.host.active_forests flow' := Function.update_of_ne ne _ _

theorem markForest_eq {m : Host} {flow : BitVec 64} (result : s.host.markForest num flow = .ok m) :
    m = { s.host with active_forests := marked s num flow } := by
  unfold Host.markForest at result
  simp only at result
  split at result
  · exact (pure_eq_ok.mp result).symm
  · exact absurd result throw_ne_ok

/-- An update of a flow that collects its `ACT_GET`s. -/
theorem addUpdate_ok (ok : HostOk c threads s)
    (collecting : (s.view c lqele.dest_addr).Collecting c.hmcs_size (threads lqele.dest_addr))
    (inside : num < c.hmcs_size) (few : c.hmcs_size ≤ 4)
    (first : c.art_scheme = .art_naive → num = 0) (update : Host.isUpdate type = true) :
    HostOk c threads (withTran c s num event_time lqele type (marked s num lqele.dest_addr)) := by
  have other : type ≠ .ART_GET := fun get => by
    rw [get] at update
    cases update
  refine withTran_ok ok other (fun flow' => ?_) (fun scheme flow' bits num' forest bit => ?_)
    fun _ => first
  · rw [withTran_view other]
    by_cases same : flow' = lqele.dest_addr
    · subst same
      have marks := collecting.mark inside few
      refine .inl ⟨marks.barrier, marks.empty, marks.below, fun bits forest => marks.forest bits ?_,
        marks.dummies, marks.tokens, marks.responded⟩
      exact (marked_self s num _).symm.trans forest
    · refine (ok.rounds flow').same ⟨rfl, marked_of_ne same s num, rfl, rfl, rfl, fun num' => ?_, rfl⟩
      simp only [Ne.symm same, and_false, if_false, Nat.add_zero, le_refl]
  · by_cases same : flow' = lqele.dest_addr
    · subst same
      obtain rfl := Option.some.inj ((marked_self s num _).symm.trans forest)
      by_cases here : num' = num
      · exact here ▸ first scheme
      · rw [List.getElem?_set_ne (Ne.symm here)] at bit
        cases before : s.host.active_forests lqele.dest_addr with
        | none =>
          rw [before, Option.getD_none] at bit
          have false := List.eq_of_mem_replicate (List.mem_of_getElem? bit)
          cases false
        | some bits =>
          rw [before, Option.getD_some] at bit
          exact ok.naive scheme _ bits num' before bit
    · exact ok.naive scheme flow' bits num' ((marked_of_ne same s num).symm.trans forest) bit

/-! ### The `ACT_GET`s -/

/-- An `ACT_GET` that waits at controller `num`, with the barrier of its flow. -/
def withGet (s : HostSystem) (num : ℕ) (lqele : LocalQueueElement)
    (barrier : (ℤ × ℤ) × List ℤ) : HostSystem :=
  { s with
    host := (s.host.holdGet num lqele).setBarrier lqele.dest_addr barrier
    issued := Function.update s.issued num (s.issued num ++ [lqele]) }

theorem countGather_eq {flow : BitVec 64} (is : lqele.dest_addr = flow)
    (collecting : (s.view c flow).Collecting c.hmcs_size (threads flow))
    (inside : num < c.hmcs_size) (nthreads : lqele.nthreads = threads flow) :
    ∃ ports, ports.length = c.hmcs_size ∧ s.host.countGather c num lqele =
      .ok ((((threads flow : ℤ), ((s.view c flow).total c.hmcs_size : ℤ) + 1)), ports) := by
  rw [Host.countGather, is]
  cases barrier : s.host.gather_barrier flow with
  | none =>
    refine ⟨(List.replicate c.hmcs_size 0).set num 1, ?_, ?_⟩
    · rw [List.length_set, List.length_replicate]
    · rw [collecting.empty barrier, if_pos inside, nthreads]
      rfl
  | some entry =>
    obtain ⟨⟨nthreads', count⟩, ports⟩ := entry
    obtain ⟨rfl, rfl, length⟩ := collecting.barrier _ _ _ barrier
    have below := collecting.below
    have inside : num < ports.length := length ▸ inside
    refine ⟨ports.set num (ports[num] + 1), List.length_set.trans length, ?_⟩
    simp only [nthreads, true_and]
    rw [if_pos (by omega), List.getElem?_eq_getElem inside]
    rfl

/-- What holding an `ACT_GET` does not change. -/
theorem holdGet_comp {β : Type} (f : PTSHMCController → β) {m : Host}
    (same : f ((m.hmcs num).holdGet lqele) = f (m.hmcs num)) :
    f ∘ (m.holdGet num lqele).hmcs = f ∘ m.hmcs := comp_setHmc same

theorem withGet_tokens (s : HostSystem) (num : ℕ) (barrier : (ℤ × ℤ) × List ℤ) (flow : BitVec 64) :
    ((withGet s num lqele barrier).view c flow).tokens = (s.view c flow).tokens := by
  have unsent' : unsent c flow ∘ (s.host.holdGet num lqele).hmcs = unsent c flow ∘ s.host.hmcs :=
    holdGet_comp _ rfl
  funext num'
  exact congrArg (· + s.onNetwork c flow num') (congrFun unsent' num')

theorem withGet_view (real : lqele.dummy = false) (s : HostSystem) (num : ℕ)
    (barrier : (ℤ × ℤ) × List ℤ) :
    (withGet s num lqele barrier).view c lqele.dest_addr =
      (s.view c lqele.dest_addr).addGather num (some barrier) := by
  have tokens : ((withGet s num lqele barrier).view c lqele.dest_addr).tokens = _ :=
    withGet_tokens s num barrier lqele.dest_addr
  simp only [view] at tokens
  simp only [view, FlowView.addGather, FlowView.mk.injEq]
  refine ⟨Host.setBarrier_self _ _ _, rfl, ?_, ?_, tokens, ?_⟩
  · refine (Function.comp_update _ _ _ _).trans (congrArg _ ?_)
    rw [holdGet_gathers real, if_pos rfl]
    rfl
  · exact holdGet_comp _ (holdGet_dummies real _ _)
  · exact ⟨holdGet_comp _ rfl, rfl⟩

theorem withGet_other (real : lqele.dummy = false) (s : HostSystem) (num : ℕ)
    (barrier : (ℤ × ℤ) × List ℤ) {flow : BitVec 64} (different : flow ≠ lqele.dest_addr) :
    (s.view c flow).Same ((withGet s num lqele barrier).view c flow) where
  barrier := Host.setBarrier_of_ne different _ _
  forest := rfl
  gathers := by
    refine holdGet_comp (gathers flow) ?_
    rw [holdGet_gathers real, if_neg (Ne.symm different), Nat.add_zero]
  dummies := holdGet_comp (dummies flow) (holdGet_dummies real _ _)
  tokens := withGet_tokens s num barrier flow
  updates num' := Nat.le_of_eq (congrFun (holdGet_comp (updates flow) rfl) num')
  responded := rfl

theorem withGet_accounted (ok : HostOk c threads s)
    (first : c.art_scheme = .art_naive → num = 0) (barrier : (ℤ × ℤ) × List ℤ) :
    Accounted c (withGet s num lqele barrier) where
  hmcs num' := by
    have held : ((s.host.hmcs num).holdGet lqele).Ok c num s.host.tranGlobalID :=
      ⟨(ok.hmcs num).pending, (ok.hmcs num).tags, (ok.hmcs num).buffered, (ok.hmcs num).update,
        fun scheme other => absurd (first scheme) other⟩
    exact setHmc_ok ok.hmcs held num'
  naive := ok.naive
  answers num' lqele' get real := by
    have before := ok.answers num' lqele' get real
    simp only [withGet, Host.setBarrier, Host.holdGet]
    by_cases same : num' = num
    · subst same
      simp only [Host.setHmc_self, Function.update_self, holdGet, List.map_append, List.map_singleton,
        List.count_append]
      omega
    · simp only [Host.setHmc_of_ne same, Function.update_of_ne same]
      exact before

/-- An `ACT_GET` before the last of its flow. -/
theorem withGet_ok (ok : HostOk c threads s) (promised : Promised c threads s num lqele)
    (supported : Supported c threads s num lqele) (get : lqele.type = .et_art_get)
    (more : (s.view c lqele.dest_addr).total c.hmcs_size + 1 < threads lqele.dest_addr)
    {ports : List ℤ} (length : ports.length = c.hmcs_size) :
    HostOk c threads (withGet s num lqele ((threads lqele.dest_addr,
      ((s.view c lqele.dest_addr).total c.hmcs_size : ℤ) + 1), ports)) := by
  have flow : ofFlow lqele.type := by rw [get]; rfl
  refine ⟨withGet_accounted ok (supported.naive flow) _, fun flow' => ?_⟩
  by_cases same : flow' = lqele.dest_addr
  · subst same
    rw [withGet_view (promised.real get).1]
    exact .inl ((promised.collecting ok flow).addGather promised.inside more length)
  · exact (ok.rounds flow').same (withGet_other (promised.real get).1 s num _ same)

/-! ### The last `ACT_GET` of a flow -/

theorem sendGathers_hmcs (m : Host) (bits : List Bool) (num : ℕ) :
    (m.sendGathers c event_time lqele bits).hmcs num =
      if bits[num]? = some true then
        (m.hmcs num).sendGather c num event_time (m.tranGlobalID + (bits.take num).count true) lqele
      else m.hmcs num := rfl

/-- A marked controller takes a tag of its own. -/
theorem count_take_lt {bits : List Bool} (bit : bits[num]? = some true) :
    (bits.take num).count true < bits.count true := by
  obtain ⟨below, value⟩ := List.getElem?_eq_some_iff.mp bit
  have split := List.take_append_drop num bits
  rw [List.drop_eq_getElem_cons below, value] at split
  have count := congrArg (List.count true) split
  rw [List.count_append, List.count_cons_self] at count
  omega

/-- The last `ACT_GET` of its flow has been counted, and the forest sends it. -/
def withGathers (c : HostConfig) (s : HostSystem) (event_time : ℕ) (lqele : LocalQueueElement)
    (bits : List Bool) : HostSystem :=
  { s with host := s.host.sendGathers c event_time lqele bits }

theorem withGathers_accounted (accounted : Accounted c s) {bits : List Bool}
    (naive : c.art_scheme = .art_naive → ∀ num, bits[num]? = some true → num = 0) :
    Accounted c (withGathers c s event_time lqele bits) where
  hmcs num' := by
    rw [withGathers, sendGathers_hmcs]
    split
    · rename_i bit
      exact ((accounted.hmcs num').mono (Nat.le_add_right _ _)).sendGather
        (Nat.add_lt_add_left (count_take_lt bit) _) (fun scheme => naive scheme num' bit) event_time
    · exact (accounted.hmcs num').mono (Nat.le_add_right _ _)
  naive := accounted.naive
  answers num' lqele' get real := by
    rw [withGathers, sendGathers_hmcs]
    split
    · rw [sendGather_count real, (sendGather_kept event_time).2.2]
      exact accounted.answers num' lqele' get real
    · exact accounted.answers num' lqele' get real

theorem withGathers_unsent (s : HostSystem) {bits : List Bool}
    (decodes : ∀ other, bits[other]? = some true →
      c.flow_dest (c.flow_id other lqele.dest_addr) = lqele.dest_addr) (flow : BitVec 64) (num : ℕ) :
    ((withGathers c s event_time lqele bits).view c flow).tokens num = (s.view c flow).tokens num +
      if bits[num]? = some true ∧ lqele.dest_addr = flow then 1 else 0 := by
  simp only [view, withGathers, sendGathers_hmcs, onNetwork]
  by_cases bit : bits[num]? = some true
  · simp only [bit, if_true, true_and, sendGather_unsent (decodes num bit)]
    omega
  · simp only [bit, if_false, false_and, Nat.add_zero]

theorem withGathers_gathers (s : HostSystem) (bits : List Bool) (flow : BitVec 64) :
    ((withGathers c s event_time lqele bits).view c flow).gathers = (s.view c flow).gathers := by
  funext num
  simp only [view, withGathers, Function.comp_apply, sendGathers_hmcs]
  split
  · exact sendGather_gathers event_time flow
  · rfl

theorem withGathers_updates (s : HostSystem) (bits : List Bool) (flow : BitVec 64) :
    ((withGathers c s event_time lqele bits).view c flow).updates = (s.view c flow).updates := by
  funext num
  simp only [view, withGathers, Function.comp_apply, sendGathers_hmcs]
  split
  · rw [updates, updates, (sendGather_kept event_time).1]
  · rfl

/-- The flows other than the one that is sent stay. -/
theorem withGathers_other (s : HostSystem) {bits : List Bool}
    (decodes : ∀ other, bits[other]? = some true →
      c.flow_dest (c.flow_id other lqele.dest_addr) = lqele.dest_addr)
    {flow : BitVec 64} (different : flow ≠ lqele.dest_addr) :
    (s.view c flow).Same ((withGathers c s event_time lqele bits).view c flow) where
  barrier := Function.update_of_ne different _ _
  forest := rfl
  gathers := withGathers_gathers s bits flow
  dummies := by
    funext num
    simp only [view, withGathers, Function.comp_apply, sendGathers_hmcs]
    split
    · exact sendGather_dummies different
    · rfl
  tokens := by
    funext num
    rw [withGathers_unsent s decodes, if_neg fun both => different both.2.symm, Nat.add_zero]
  updates num := Nat.le_of_eq (congrFun (withGathers_updates s bits flow) num)
  responded := rfl

/-- The last `ACT_GET` of a flow with a forest lets its responses be awaited. -/
theorem withGathers_ok (ok : HostOk c threads s) (promised : Promised c threads s num lqele)
    (supported : Supported c threads s num lqele) (get : lqele.type = .et_art_get)
    (last : (s.view c lqele.dest_addr).total c.hmcs_size + 1 = threads lqele.dest_addr)
    {bits : List Bool} (forest : s.host.active_forests lqele.dest_addr = some bits)
    (barrier : (ℤ × ℤ) × List ℤ) :
    HostOk c threads (withGathers c (withGet s num lqele barrier) event_time lqele
      (bits.take c.hmcs_size)) := by
  have flow : ofFlow lqele.type := by rw [get]; rfl
  obtain ⟨real, nthreads⟩ := promised.real get
  have few := supported.few flow
  have collecting := promised.collecting ok flow
  have taken : ∀ other : ℕ, (bits.take c.hmcs_size)[other]? = some true →
      other < c.hmcs_size ∧ bits[other]? = some true := by
    intro other bit
    rw [List.getElem?_take] at bit
    split at bit
    · exact ⟨‹_›, bit⟩
    · cases bit
  have decodes : ∀ other, (bits.take c.hmcs_size)[other]? = some true →
      c.flow_dest (c.flow_id other lqele.dest_addr) = lqele.dest_addr :=
    fun other bit => supported.decodes flow other (taken other bit).1
  refine ⟨withGathers_accounted (withGet_accounted ok (supported.naive flow) barrier)
    fun scheme other bit => ok.naive scheme _ bits other forest (taken other bit).2, fun flow' => ?_⟩
  by_cases same : flow' = lqele.dest_addr
  · subst same
    have started : FlowView.Started c.hmcs_size (threads lqele.dest_addr) num
        (s.view c lqele.dest_addr) ((withGathers c (withGet s num lqele barrier) event_time lqele
          (bits.take c.hmcs_size)).view c lqele.dest_addr) bits :=
      { barrier := by
          rw [← nthreads]
          exact Function.update_self _ _ _
        forest := rfl
        gathers := by
          rw [withGathers_gathers, withGet_view real]
          rfl
        tokens := fun other below => by
          rw [withGathers_unsent _ decodes, withGet_view real, List.getElem?_take, if_pos below]
          have none : ((s.view c lqele.dest_addr).addGather num (some barrier)).tokens other = 0 :=
            collecting.tokens other below
          simp only [none, and_true, Nat.zero_add]
        updates := by
          rw [withGathers_updates, withGet_view real]
          rfl
        responded := rfl }
    exact .inr ⟨bits, _, started.awaiting collecting promised.inside last forest few
      (promised.acknowledged get last)⟩
  · exact ((ok.rounds flow').same (withGet_other real s num barrier same)).same
      (withGathers_other _ decodes same)

/-- The last `ACT_GET` of a flow with a forest fails no assertion. -/
theorem startGather_eq (ok : HostOk c threads s) (promised : Promised c threads s num lqele)
    (supported : Supported c threads s num lqele) (get : lqele.type = .et_art_get)
    {bits : List Bool} (forest : s.host.active_forests lqele.dest_addr = some bits)
    (barrier : (ℤ × ℤ) × List ℤ) :
    (withGet s num lqele barrier).host.startGather c event_time lqele =
      .ok (withGathers c (withGet s num lqele barrier) event_time lqele
        (bits.take c.hmcs_size)).host := by
  have flow : ofFlow lqele.type := by rw [get]; rfl
  have real := (promised.real get).1
  have few := supported.few flow
  have collecting := promised.collecting ok flow
  obtain ⟨length, -⟩ := collecting.forest bits forest
  have bitsRead : (withGet s num lqele barrier).host.readForest c lqele.dest_addr =
      .ok (bits.take c.hmcs_size) := by
    have same : (withGet s num lqele barrier).host.active_forests lqele.dest_addr = some bits := forest
    simp only [Host.readForest, same, Option.getD_some]
    rw [if_pos (by omega)]
    rfl
  rw [Host.startGather, bitsRead]
  refine if_pos (List.all_eq_true.mpr fun other below => ?_)
  have below := List.mem_range.mp below
  rw [Bool.or_eq_true, decide_eq_true_eq]
  by_cases bit : (bits.take c.hmcs_size)[other]? = some true
  · refine .inr (gatherAsserts_of ?_ fun scheme => ?_)
    · have none : ((withGet s num lqele barrier).view c lqele.dest_addr).dummies other = 0 := by
        rw [withGet_view real]
        exact collecting.dummies other below
      exact none
    · rw [List.getElem?_take, if_pos below] at bit
      obtain rfl := ok.naive scheme _ bits other forest bit
      obtain rfl := supported.naive flow scheme
      refine ⟨(lqele.dest_addr, lqele), ?_, rfl⟩
      have held : ((s.host.holdGet 0 lqele).hmcs 0) = (s.host.hmcs 0).holdGet lqele :=
        Host.setHmc_self _ _ _
      show (lqele.dest_addr, lqele) ∈ ((s.host.holdGet 0 lqele).hmcs 0).active_gather_event
      rw [held]
      exact List.mem_append_right _ List.mem_cons_self
  · exact .inl bit

/-- An `ACT_GET` that is promised and supported is taken, and none leaves. -/
theorem addGather_ok (ok : HostOk c threads s) (promised : Promised c threads s num lqele)
    (supported : Supported c threads s num lqele) (get : lqele.type = .et_art_get) :
    ∃ host, s.host.addGather c num event_time lqele = .ok host ∧
      HostOk c threads { s with
        host := host, issued := Function.update s.issued num (s.issued num ++ [lqele]) } ∧
      ∀ flow num', (s.view c flow).gathers num' ≤ gathers flow (host.hmcs num') := by
  have flow : ofFlow lqele.type := by rw [get]; rfl
  obtain ⟨real, nthreads⟩ := promised.real get
  have collecting := promised.collecting ok flow
  obtain ⟨ports, length, counted⟩ := countGather_eq rfl collecting promised.inside nthreads
  have held : ∀ barrier flow num', (s.view c flow).gathers num' ≤
      ((withGet s num lqele barrier).view c flow).gathers num' := by
    intro barrier flow num'
    by_cases same : flow = lqele.dest_addr
    · subst same
      rw [withGet_view real, FlowView.addGather]
      by_cases here : num' = num
      · subst here
        simp only [Function.update_self, Nat.le_add_right]
      · simp only [Function.update_of_ne here, le_refl]
    · exact Nat.le_of_eq (congrFun (withGet_other real s num barrier same).gathers num').symm
  rw [Host.addGather, counted]
  by_cases last : (s.view c lqele.dest_addr).total c.hmcs_size + 1 = threads lqele.dest_addr
  · obtain ⟨bits, forest⟩ := Option.isSome_iff_exists.mp (supported.updated get last)
    refine ⟨_, (if_pos ?_).trans (startGather_eq ok promised supported get forest _),
      withGathers_ok ok promised supported get last forest _, fun flow num' => ?_⟩
    · rw [nthreads, ← last]
      rfl
    · show _ ≤ ((withGathers c (withGet s num lqele _) event_time lqele _).view c flow).gathers num'
      rw [withGathers_gathers]
      exact held _ flow num'
  · have below := collecting.below
    refine ⟨_, if_neg ?_, withGet_ok ok promised supported get (by omega) length, held _⟩
    rw [nthreads]
    intro equal
    have equal : ((s.view c lqele.dest_addr).total c.hmcs_size : ℤ) + 1 = threads lqele.dest_addr :=
      equal
    omega

/-! ### All requests -/

theorem add_req_event_get (ok : HostOk c threads s) (promised : Promised c threads s num lqele)
    (supported : Supported c threads s num lqele) (get : lqele.type = .et_art_get) :
    ∃ s', s.add_req_event c num event_time lqele = .ok s' ∧ HostOk c threads s' ∧
      ∀ flow num', (s.view c flow).gathers num' ≤ (s'.view c flow).gathers num' := by
  obtain ⟨host, added, hostOk, gathers⟩ := addGather_ok ok promised supported get
  refine ⟨_, ?_, hostOk, gathers⟩
  have same : s.host.setHmc num (s.host.hmcs num) = s.host := by
    rw [Host.setHmc, Function.update_eq_self]
  have result : s.host.add_req_event c num event_time lqele = .ok host := by
    rw [Host.add_req_event, pairTwins_get get, get]
    show (s.host.setHmc num (s.host.hmcs num)).addGather c num _ lqele = _
    rw [same]
    exact added
  rw [HostSystem.add_req_event, result, get]
  rfl

/-- A flow event has the transaction type of an update, or is an `ACT_GET`. -/
theorem ofFlow_of_update {type : EventType} {tran : TranType}
    (is : hmc_transaction_type type = some tran) (update : Host.isUpdate tran = true) :
    ofFlow type := by
  revert is update
  cases type <;> cases tran <;> decide

theorem get_of_transaction {type : EventType} (is : hmc_transaction_type type = some .ART_GET) :
    type = .et_art_get := by
  revert is
  cases type <;> decide

theorem add_req_event_ok (ok : HostOk c threads s) (promised : Promised c threads s num lqele)
    (supported : Supported c threads s num lqele)
    (result : s.add_req_event c num event_time lqele = .ok s') :
    HostOk c threads s' ∧
      ∀ flow num', (s.view c flow).gathers num' ≤ (s'.view c flow).gathers num' := by
  by_cases get : lqele.type = .et_art_get
  · obtain ⟨s'', result', ok', gathers⟩ := add_req_event_get ok promised supported get
    obtain rfl := Except.ok.inj (result.symm.trans result')
    exact ⟨ok', gathers⟩
  · obtain ⟨host, added, result⟩ := bind_eq_ok.mp result
    obtain rfl := pure_eq_ok.mp result
    obtain ⟨⟨h, ready⟩, paired, added⟩ := bind_eq_ok.mp added
    obtain ⟨kept, answers⟩ := pairTwins_kept paired
    have issued : (if lqele.type = .et_art_get then Function.update s.issued num
        (s.issued num ++ [lqele]) else s.issued) = s.issued := if_neg get
    rw [issued]
    have paired : HostOk c threads { s with host := s.host.setHmc num h } ∧ ∀ flow,
        (s.view c flow).Same (HostSystem.view c { s with host := s.host.setHmc num h } flow) := by
      refine kept_ok ok kept rfl (fun _ _ => rfl) rfl fun num' lqele _ _ => ?_
      by_cases same : num' = num
      · subst same
        simp only [Host.setHmc_self, answers]
      · simp only [Host.setHmc_of_ne same]
    obtain ⟨pairedOk, pairedView⟩ := paired
    cases ready with
    | false =>
      obtain rfl := pure_eq_ok.mp added
      exact ⟨pairedOk, fun flow num' => Nat.le_of_eq (congrFun (pairedView flow).gathers num').symm⟩
    | true =>
      have grows : ∀ (tran : TranType) (forests : BitVec 64 → Option (List Bool)), tran ≠ .ART_GET →
          ∀ flow num', (s.view c flow).gathers num' ≤ ((withTran c { s with
            host := s.host.setHmc num h } num (c.alignTime event_time) lqele tran forests).view c
              flow).gathers num' := by
        intro tran forests other flow num'
        rw [withTran_view other]
        exact Nat.le_of_eq (congrFun (pairedView flow).gathers num').symm
      simp only [if_true] at added
      split at added
      · exact absurd added throw_ne_ok
      · exact absurd (get_of_transaction ‹_›) get
      · rename_i tran notGet is
        have other : tran ≠ .ART_GET := fun same => notGet (same ▸ rfl)
        split at added
        · rename_i update
          obtain ⟨m, marks, added⟩ := bind_eq_ok.mp added
          obtain rfl := markForest_eq (s := { s with host := s.host.setHmc num h }) marks
          split at added
          · obtain rfl := pure_eq_ok.mp added
            have flow := ofFlow_of_update is update
            have collecting := (pairedOk.rounds lqele.dest_addr).collecting (by
              have total : (s.view c lqele.dest_addr).total c.hmcs_size < threads lqele.dest_addr :=
                (promised.collecting ok flow).below
              rw [FlowView.total, (pairedView _).gathers]
              exact total)
            exact ⟨addUpdate_ok pairedOk collecting promised.inside (supported.few flow)
              (supported.naive flow) update, grows tran _ other⟩
          · exact absurd added throw_ne_ok
        · rename_i request
          obtain rfl := pure_eq_ok.mp added
          exact ⟨addRequest_ok pairedOk other (Bool.eq_false_iff.mpr request), grows tran _ other⟩

/-! ## Runs -/

/-- The network serves each `ACT_GET` that it has accepted once. -/
theorem serve_ok (ok : HostOk c threads s) {served : BitVec 64} {cmd : PacketCommandType}
    (sent : cmd = .ACT_GET → served ∈ s.inNetwork num) :
    HostOk c threads (s.serve num served cmd) ∧
      ∀ flow, (s.view c flow).Same ((s.serve num served cmd).view c flow) := by
  have view : ∀ flow, (s.view c flow).Same ((s.serve num served cmd).view c flow) := by
    refine fun flow => ⟨rfl, rfl, rfl, rfl, ?_, fun _ => le_rfl, rfl⟩
    funext num'
    simp only [HostSystem.view, serve, onNetwork]
    by_cases same : num' = num
    · subst same
      simp only [Function.update_self, List.countP_append, List.countP_singleton]
      by_cases get : cmd = .ACT_GET
      · subst get
        have taken := (List.perm_cons_erase (sent rfl)).countP_eq fun id => c.flow_dest id = flow
        rw [List.countP_cons] at taken
        simp only [true_and, decide_eq_true_eq, if_true, Function.update_self] at taken ⊢
        omega
      · simp only [get, if_false, false_and, decide_false, Bool.false_eq_true, Nat.add_zero]
    · simp only [Function.update_of_ne same]
      split
      · rw [Function.update_of_ne same]
      · rfl
  exact ⟨⟨⟨ok.hmcs, ok.naive, ok.answers⟩, fun flow => (ok.rounds flow).same (view flow)⟩, view⟩

/-- What the threads and the network promise, where the controllers can serve it. -/
def Guard (c : HostConfig) (threads : BitVec 64 → ℕ) (s : HostSystem) : HostAction → HostSystem → Prop
  | .add_req_event num _ lqele, _ => Promised c threads s num lqele ∧ Supported c threads s num lqele
  | .serve num served cmd, _ => cmd = .ACT_GET → served ∈ s.inNetwork num
  | .process_event num _ _, _ => num < c.hmcs_size

theorem hostOk_start (positive : ∀ flow, 0 < threads flow) : HostOk c threads {} where
  hmcs _ :=
    { pending := fun _ member => nomatch member
      tags := fun _ member => nomatch member
      buffered := fun _ member => nomatch member
      update := fun _ member => nomatch member
      naive := fun _ _ => ⟨rfl, rfl, rfl⟩ }
  naive _ _ _ _ forest := nomatch forest
  answers _ _ _ _ := rfl
  rounds flow := .inl (FlowView.Cleared.collecting
    { barrier := rfl
      forest := rfl
      gathers := fun _ _ => rfl
      dummies := fun _ _ => rfl
      tokens := fun _ _ => rfl
      updates := fun _ _ => rfl
      responded := rfl } (positive flow))

/-- What a step keeps, and what it means when an `ACT_GET` leaves. -/
theorem step_ok (positive : ∀ flow, 0 < threads flow) (ok : HostOk c threads s) {action : HostAction}
    (stepped : step c s action = .ok s') (guarded : Guard c threads s action s') :
    HostOk c threads s' ∧ ∀ flow num', (s'.host.hmcs num').gathers flow <
      (s.host.hmcs num').gathers flow → ∃ num, Answered c threads num flow s s' := by
  cases action with
  | add_req_event num event_time lqele =>
    obtain ⟨ok', grows⟩ := add_req_event_ok ok guarded.1 guarded.2 stepped
    exact ⟨ok', fun flow num' fewer => absurd fewer (Nat.not_lt.mpr (grows flow num'))⟩
  | serve num served cmd =>
    obtain rfl := pure_eq_ok.mp stepped
    obtain ⟨ok', view⟩ := serve_ok ok guarded
    exact ⟨ok', fun flow num' fewer => absurd fewer
      (Nat.not_lt.mpr (Nat.le_of_eq (congrFun (view flow).gathers num').symm))⟩
  | process_event num curr_time accepts =>
    obtain ⟨ok', flows⟩ := process_event_ok positive ok guarded stepped
    refine ⟨ok', fun flow num' fewer => ?_⟩
    cases flows flow with
    | inl same => exact absurd (congrFun same num') (Nat.ne_of_lt fewer)
    | inr answered => exact ⟨num, answered⟩

/-- In every run every `ACT_GET` is answered at most once and none is lost; one
    leaves the controllers only when all threads have issued theirs and all
    controllers of the forest have their responses, and then nothing of the
    flow remains; no request and no response of a flow fails; and while all
    threads wait, a response is still to come. -/
theorem gather_answers_once (positive : ∀ flow, 0 < threads flow) {actions : List HostAction}
    (run : Run (step c) (Guard c threads) {} actions s) :
    (∀ num lqele, lqele.type = .et_art_get → lqele.dummy = false →
      (s.issued num).count lqele = (s.answered num).count lqele +
        ((s.host.hmcs num).resp_queue.count lqele +
          ((s.host.hmcs num).active_gather_event.map Prod.snd).count lqele)) ∧
    (∀ action s', step c s action = .ok s' → Guard c threads s action s' → ∀ flow num',
      (s'.host.hmcs num').gathers flow < (s.host.hmcs num').gathers flow →
        ∃ num, Answered c threads num flow s s') ∧
    (∀ num event_time lqele, Promised c threads s num lqele → Supported c threads s num lqele →
      lqele.type = .et_art_get → ∃ s', s.add_req_event c num event_time lqele = .ok s') ∧
    (∀ num served rest, num < c.hmcs_size → s.served num = (served, .ACT_GET) :: rest →
      ∃ s', s.takeServed c num = .ok s') ∧
    ∀ flow, (s.view c flow).total c.hmcs_size = threads flow →
      ∃ num < c.hmcs_size, num ∉ s.responded flow ∧ (s.view c flow).tokens num = 1 := by
  have ok : HostOk c threads s := run.invariant (hostOk_start positive)
    fun _ _ _ ok stepped guarded => (step_ok positive ok stepped guarded).1
  refine ⟨ok.answers, fun action s' stepped guarded => (step_ok positive ok stepped guarded).2,
    fun num event_time lqele promised supported get => ?_, fun num served rest inside head => ?_,
    fun flow all => ?_⟩
  · obtain ⟨s', result, -⟩ := add_req_event_get ok promised supported get
    exact ⟨s', result⟩
  · obtain ⟨s', result, -⟩ := takeServed_get positive ok inside head
    exact ⟨s', result⟩
  · cases ok.rounds flow with
    | inl collecting => exact absurd all (Nat.ne_of_lt collecting.below)
    | inr awaiting =>
      obtain ⟨bits, ports, awaiting⟩ := awaiting
      obtain ⟨num, below, awaited⟩ := List.mem_iff_getElem.mp awaiting.outstanding
      have inside : num < c.hmcs_size := awaiting.length ▸ below
      have found := List.getElem?_eq_some_iff.mpr ⟨below, awaited⟩
      have port := awaiting.port num inside
      have token := awaiting.tokens num inside
      rw [found, if_pos rfl] at token
      rw [found] at port
      generalize bits[num]? = bit at port
      cases port with
      | awaited missing => exact ⟨num, inside, missing, token⟩

instance : Decidable (Promised c threads s num lqele) :=
  decidable_of_iff (num < c.hmcs_size ∧
      (ofFlow lqele.type → s.unanswered c lqele.dest_addr < threads lqele.dest_addr) ∧
      (lqele.type = .et_art_get → lqele.dummy = false ∧ lqele.nthreads = threads lqele.dest_addr) ∧
      (lqele.type = .et_art_get →
        (s.view c lqele.dest_addr).total c.hmcs_size + 1 = threads lqele.dest_addr →
        ∀ other < c.hmcs_size, (s.host.hmcs other).updates lqele.dest_addr = 0))
    ⟨fun ⟨inside, blocked, real, acknowledged⟩ => ⟨inside, blocked, real, acknowledged⟩,
      fun ⟨inside, blocked, real, acknowledged⟩ => ⟨inside, blocked, real, acknowledged⟩⟩

instance : Decidable (Supported c threads s num lqele) :=
  decidable_of_iff ((ofFlow lqele.type → c.hmcs_size ≤ 4) ∧
      (ofFlow lqele.type → ∀ other < c.hmcs_size,
        c.flow_dest (c.flow_id other lqele.dest_addr) = lqele.dest_addr) ∧
      (ofFlow lqele.type → c.art_scheme = .art_naive → num = 0) ∧
      (lqele.type = .et_art_get →
        (s.view c lqele.dest_addr).total c.hmcs_size + 1 = threads lqele.dest_addr →
        (s.host.active_forests lqele.dest_addr).isSome))
    ⟨fun ⟨few, decodes, naive, updated⟩ => ⟨few, decodes, naive, updated⟩,
      fun ⟨few, decodes, naive, updated⟩ => ⟨few, decodes, naive, updated⟩⟩

instance (c : HostConfig) (threads : BitVec 64 → ℕ) (s : HostSystem) :
    ∀ action s', Decidable (Guard c threads s action s')
  | .add_req_event _ _ _, _ => inferInstanceAs (Decidable (_ ∧ _))
  | .serve _ _ _, _ => inferInstanceAs (Decidable (_ → _))
  | .process_event _ _ _, _ => inferInstanceAs (Decidable (_ < _))

/-- Two controllers of a dragonfly with four cubes each. -/
def twoControllers : HostConfig where
  art_scheme := .art_addr
  hmc_top := .DFLY
  hmcs_size := 2
  num_mcs := 2
  num_mcs_log2 := 1
  process_interval := 10
  cubes_per_mc := 4
  cube_interleave_base_bit := 32
  interleave_xor_base_bit := 20
  geq_interleave_base_bit := 12
  geq_interleave_xor_base_bit := 20

/-- The `ACT_GET` of the flow 5 for one thread. -/
def onlyGet : LocalQueueElement := { id := 1, type := .et_art_get, dest_addr := 5, nthreads := 1 }

/-- An update reaches controller 1 and the `ACT_GET` controller 0. -/
def updateThenGet : List HostAction :=
  [.add_req_event 1 0 { id := 0, type := .et_art_add, dest_addr := 5 }, .process_event 1 10 true,
    .add_req_event 0 20 onlyGet, .process_event 1 30 true, .serve 1 11 .ACT_GET,
    .process_event 1 40 true, .process_event 0 40 true]

theorem gather_answers_once_updateThenGet :
    ∃ s, Run (step twoControllers) (Guard twoControllers fun _ => 1) {} updateThenGet s ∧
      (s.answered 0).count onlyGet = 1 ∧
      (s.issued 0).count onlyGet = (s.answered 0).count onlyGet + 0 := by
  have executed : (execute (step twoControllers) (Guard twoControllers fun _ => 1) {}
      updateThenGet).map (fun s => ((s.answered 0).count onlyGet,
        (s.host.hmcs 0).resp_queue.count onlyGet +
          ((s.host.hmcs 0).active_gather_event.map Prod.snd).count onlyGet)) = some (1, 0) := by
    decide +kernel
  obtain ⟨s, executed, totals⟩ := Option.map_eq_some_iff.mp executed
  obtain ⟨answered, held⟩ := Prod.mk.inj totals
  have run := execute_run executed
  have counts := (gather_answers_once (fun _ => Nat.one_pos) run).1 0 onlyGet rfl rfl
  rw [held] at counts
  exact ⟨s, run, answered, counts⟩

/-- Nobody updates the flow: its only `ACT_GET` reads a forest that is not there. -/
theorem emptyFlow_fails :
    Promised twoControllers (fun _ => 1) {} 0 onlyGet ∧
      step twoControllers {} (.add_req_event 0 0 onlyGet) = .error .outOfRange := by
  refine ⟨by decide +kernel, rfl⟩

end HostSystem

end ActiveRouting
