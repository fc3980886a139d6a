import ActiveRouting.Host.HMCController
import ActiveRouting.Library.Barrier
import ActiveRouting.Library.Run

/-!
# The gather barrier of the HMC controller

`Update` counts the threads that have issued the `ACT_GET` of a flow, on two
paths.  Without a dependency the barrier is a counting barrier.  With one, an
`ACT_GET` that is not the last of its flow is dropped and taken back at once,
and its arrival is lost.
-/

namespace ActiveRouting

open Outcome Transition Barrier

namespace HMCController

/-- The counters of a barrier: a missing entry counts as zero. -/
def counters (barrier : Barrier) (flow : BitVec 64) : ℕ := (gatherCount barrier flow).toNat

/-- The entries of a barrier whose flows are gathered by `threads` threads. -/
def EntriesOk (threads : BitVec 64 → ℕ) (barrier : Barrier) : Prop :=
  ∀ flow nthreads count, barrier flow = some (nthreads, count) →
    nthreads = threads flow ∧ 0 ≤ count ∧ count < nthreads

/-- The barrier of a controller, and the transactions that will arrive at it. -/
structure BarrierOk (threads : BitVec 64 → ℕ) (h : HMCController) : Prop where
  entries : EntriesOk threads h.gatherBarrier
  queued : ∀ tran ∈ h.downBuffers, tran.transactionType = .ACTIVE_GET →
    tran.nthreads = threads tran.dest_address

/-- What one attempt to send the transaction `tran` at the head of the down
    buffer does to the barrier. -/
structure Gathers (threads : BitVec 64 → ℕ) (h : HMCController) (tran : Transaction)
    (out : Sending) : Prop where
  /-- A refused transaction stays, and counts for nothing. -/
  refused : out.taken = false → counters out.controller.gatherBarrier = counters h.gatherBarrier ∧
    out.sent = none ∧ out.controller.downBuffers = h.downBuffers
  taken : out.taken = true → out.controller.downBuffers = h.downBuffers.tail
  /-- An `ACT_GET` arrives at the barrier of its flow, and a packet is sent for
      the arrival that completes it. -/
  get : out.taken = true → tran.transactionType = .ACTIVE_GET →
    counters out.controller.gatherBarrier =
        arrive threads (counters h.gatherBarrier) tran.dest_address ∧
      (out.sent.isSome ↔ Releases threads (counters h.gatherBarrier) tran.dest_address) ∧
      ∀ packet ∈ out.sent, packet.CMD = .ACT_GET ∧ packet.DESTADRS = tran.dest_address
  /-- Other transactions do not touch the barrier. -/
  other : out.taken = true → tran.transactionType ≠ .ACTIVE_GET →
    counters out.controller.gatherBarrier = counters h.gatherBarrier ∧
      ∀ packet ∈ out.sent, packet.CMD ≠ .ACT_GET
  ok : EntriesOk threads out.controller.gatherBarrier

/-! ## The counters -/

section Counters

variable {threads : BitVec 64 → ℕ} {barrier : Barrier} (entries : EntriesOk threads barrier)
  {flow : BitVec 64}

include entries

theorem gatherCount_eq (flow : BitVec 64) :
    gatherCount barrier flow = (counters barrier flow : ℤ) := by
  rw [counters, Int.toNat_of_nonneg]
  rw [gatherCount]
  split
  · rename_i nthreads count found
    exact (entries flow _ _ found).2.1
  · exact Int.le_refl _

theorem counters_lt (positive : 0 < threads flow) : counters barrier flow < threads flow := by
  have count := gatherCount_eq entries flow
  rw [gatherCount] at count
  split at count
  · rename_i nthreads count' found
    have below := entries flow _ _ found
    omega
  · omega

theorem countGather_eq :
    countGather barrier flow (threads flow) =
      .ok (Function.update barrier flow
        (some ((threads flow : ℤ), (counters barrier flow : ℤ) + 1))) := by
  have count := gatherCount_eq entries flow
  rw [gatherCount] at count
  rw [countGather]
  split at count
  · rename_i nthreads count' found
    obtain ⟨rfl, -, below⟩ := entries flow _ _ found
    rw [← count]
    exact if_pos ⟨rfl, below⟩
  · rename_i missing
    rw [← count]
    rfl

theorem entries_update {entry : Option (ℤ × ℤ)}
    (ok : ∀ nthreads count, entry = some (nthreads, count) →
      nthreads = threads flow ∧ 0 ≤ count ∧ count < nthreads) :
    EntriesOk threads (Function.update barrier flow entry) := by
  intro flow' nthreads count found
  by_cases same : flow' = flow
  · subst same
    rw [Function.update_self] at found
    exact ok nthreads count found
  · rw [Function.update_of_ne same] at found
    exact entries flow' nthreads count found

end Counters

/-- An entry changes the counter of its flow alone. -/
theorem counters_update (barrier : Barrier) (flow : BitVec 64) (entry : Option (ℤ × ℤ)) (count : ℕ)
    (is : counters (fun _ => entry) flow = count) :
    counters (Function.update barrier flow entry) =
      Function.update (counters barrier) flow count := by
  funext flow'
  by_cases same : flow' = flow
  · subst same
    rw [Function.update_self, ← is, counters, counters, gatherCount, gatherCount,
      Function.update_self]
  · rw [Function.update_of_ne same, counters, counters, gatherCount, gatherCount,
      Function.update_of_ne same]

theorem counters_erase (barrier : Barrier) (flow : BitVec 64) :
    counters (eraseGather barrier flow) = Function.update (counters barrier) flow 0 :=
  counters_update barrier flow none 0 rfl

/-! ## One attempt -/

/-- The barrier after an `ACT_GET` has been counted. -/
def counted (threads : BitVec 64 → ℕ) (barrier : Barrier) (flow : BitVec 64) : Barrier :=
  Function.update barrier flow (some ((threads flow : ℤ), (counters barrier flow : ℤ) + 1))

theorem counters_counted (threads : BitVec 64 → ℕ) (barrier : Barrier) (flow : BitVec 64) :
    counters (counted threads barrier flow) =
      Function.update (counters barrier) flow (counters barrier flow + 1) :=
  counters_update barrier flow _ _ (by simp only [counters, gatherCount]; omega)

theorem uncountGather_counted (threads : BitVec 64 → ℕ) (barrier : Barrier) (flow : BitVec 64) :
    uncountGather (counted threads barrier flow) flow =
      Function.update barrier flow (some ((threads flow : ℤ), (counters barrier flow : ℤ))) := by
  simp only [uncountGather, counted, Function.update_self]
  rw [Function.update_idem, Int.add_sub_cancel]

/-- What is taken back leaves the counters as they were. -/
theorem counters_uncount (threads : BitVec 64 → ℕ) (barrier : Barrier) (flow : BitVec 64) :
    counters (uncountGather (counted threads barrier flow) flow) = counters barrier := by
  rw [uncountGather_counted, counters_update barrier flow _ (counters barrier flow),
    Function.update_eq_self]
  simp only [counters, gatherCount]
  omega

theorem waitsForThreads_counted {threads : BitVec 64 → ℕ} {barrier : Barrier} {packet : Packet}
    (get : packet.CMD = .ACT_GET) :
    waitsForThreads (counted threads barrier packet.DESTADRS) packet (threads packet.DESTADRS) ↔
      ¬ Releases threads (counters barrier) packet.DESTADRS := by
  simp only [waitsForThreads, get, true_and, decide_eq_true_eq, gatherCount, counted,
    Function.update_self, Releases]
  omega

/-- A transaction that is refused before it is counted, or taken back. -/
theorem gathers_refused {threads : BitVec 64 → ℕ} {h h' : HMCController} {tran : Transaction}
    (same : counters h'.gatherBarrier = counters h.gatherBarrier)
    (entries' : EntriesOk threads h'.gatherBarrier) (down : h'.downBuffers = h.downBuffers) :
    Gathers threads h tran ⟨h', false, none⟩ where
  refused _ := ⟨same, rfl, down⟩
  taken taken := nomatch taken
  get taken := nomatch taken
  other taken := nomatch taken
  ok := entries'

section Attempt

variable {threads : BitVec 64 → ℕ} {h : HMCController} (entries : EntriesOk threads h.gatherBarrier)
  {tran : Transaction} {packet : Packet} (converted : tran.convTranIntoPacket = some packet)

include entries converted

theorem handDown_gathers_other (other : packet.CMD ≠ .ACT_GET) (link : ℕ) (master : LinkMaster) :
    Gathers threads h tran (handDown h link master packet) := by
  have active := mt (Transaction.convTranIntoPacket_get converted).mpr other
  unfold handDown
  split
  · simp only [if_neg other]
    refine ⟨fun refused => (nomatch refused), fun _ => rfl, fun _ get => absurd get active,
      fun _ _ => ⟨rfl, ?_⟩, entries⟩
    intro packet' sent
    obtain rfl := Option.some.inj sent
    exact other
  · simp only [if_neg other]
    exact gathers_refused rfl entries rfl

/-- Counting fails no assertion. -/
theorem gather_eq (nthreads : tran.transactionType = .ACTIVE_GET →
      tran.nthreads = threads tran.dest_address) :
    gather h.gatherBarrier packet tran.nthreads =
      .ok (if packet.CMD = .ACT_GET then counted threads h.gatherBarrier packet.DESTADRS
        else h.gatherBarrier) := by
  rw [gather]
  split
  · rename_i get
    have active := (Transaction.convTranIntoPacket_get converted).mp get
    rw [nthreads active, Transaction.convTranIntoPacket_dest converted active]
    exact countGather_eq entries
  · rfl

variable (positive : ∀ flow, 0 < threads flow)

include positive

/-- An `ACT_GET` that others have to issue as well is dropped after it is counted. -/
theorem dropCounted_gathers (get : packet.CMD = .ACT_GET)
    (waits : ¬ Releases threads (counters h.gatherBarrier) packet.DESTADRS) :
    Gathers threads h tran (h.dropCounted (counted threads h.gatherBarrier packet.DESTADRS)) := by
  have active := (Transaction.convTranIntoPacket_get converted).mp get
  have dest := Transaction.convTranIntoPacket_dest converted active
  have below := counters_lt entries (positive packet.DESTADRS)
  rw [dest] at waits below ⊢
  refine ⟨fun refused => (by cases refused), fun _ => rfl, fun _ _ => ⟨?_, ?_, ?_⟩,
    fun _ other => absurd active other, ?_⟩
  · show counters (counted _ _ _) = _
    rw [counters_counted, arrive, if_neg waits]
  · exact ⟨fun sent => (by cases sent), fun releases => absurd releases waits⟩
  · intro packet sent
    cases sent
  · refine entries_update entries fun n count same => ?_
    obtain ⟨rfl, rfl⟩ := Prod.mk.inj (Option.some.inj same)
    rw [Releases] at waits
    omega

/-- The last `ACT_GET` of its flow clears the barrier if a link receives it, and
    is taken back if not. -/
theorem handDown_gathers_get (get : packet.CMD = .ACT_GET)
    (releases : Releases threads (counters h.gatherBarrier) packet.DESTADRS) (link : ℕ)
    (master : LinkMaster) :
    Gathers threads h tran (handDown
      { h with gatherBarrier := counted threads h.gatherBarrier packet.DESTADRS }
      link master packet) := by
  have active := (Transaction.convTranIntoPacket_get converted).mp get
  have dest := Transaction.convTranIntoPacket_dest converted active
  have below := counters_lt entries (positive packet.DESTADRS)
  unfold handDown
  split
  · simp only [if_pos get]
    have erased : counters (eraseGather (counted threads h.gatherBarrier packet.DESTADRS)
        packet.DESTADRS) = arrive threads (counters h.gatherBarrier) packet.DESTADRS := by
      rw [counters_erase, counters_counted, Function.update_idem, arrive, if_pos releases]
    rw [dest] at erased releases ⊢
    refine ⟨fun refused => (by cases refused), fun _ => rfl, fun _ _ => ⟨erased, ?_, ?_⟩,
      fun _ other => absurd active other, ?_⟩
    · exact ⟨fun _ => releases, fun _ => rfl⟩
    · intro packet' sent
      obtain rfl := Option.some.inj sent
      exact ⟨get, dest⟩
    · rw [eraseGather, counted, Function.update_idem]
      exact entries_update entries fun _ _ none => by cases none
  · simp only [if_pos get]
    refine gathers_refused (counters_uncount _ _ _) ?_ rfl
    rw [uncountGather_counted]
    refine entries_update entries fun n count same => ?_
    obtain ⟨rfl, rfl⟩ := Prod.mk.inj (Option.some.inj same)
    omega

end Attempt

/-! ## The two paths -/

/-- An `ACT_GET` at the head that depends on a waiting packet and is not the
    last of its flow: its arrival is lost. -/
def losesCount (h : HMCController) : Bool :=
  match h.bufPopDelay, h.downBuffers with
  | 0, tran :: _ => tran.transactionType = .ACTIVE_GET ∧ (h.dependentLink tran).isSome ∧
      gatherCount h.gatherBarrier tran.dest_address + 1 ≠ tran.nthreads
  | _, _ => false

section Paths

variable {threads : BitVec 64 → ℕ} {tran : Transaction}

/-- What both paths do once the transaction has become a packet. -/
theorem gathers_of_counted {h : HMCController} (entries : EntriesOk threads h.gatherBarrier)
    (positive : ∀ flow, 0 < threads flow)
    (nthreads : tran.transactionType = .ACTIVE_GET → tran.nthreads = threads tran.dest_address)
    {packet : Packet} (converted : tran.convTranIntoPacket = some packet) {drop : Barrier → Sending}
    (dropped : packet.CMD = .ACT_GET →
      ¬ Releases threads (counters h.gatherBarrier) packet.DESTADRS →
      Gathers threads h tran (drop (counted threads h.gatherBarrier packet.DESTADRS)))
    {link : ℕ} {master : LinkMaster} {out : Sending}
    (sent : (do
      let barrier ← gather h.gatherBarrier packet tran.nthreads
      if waitsForThreads barrier packet tran.nthreads then pure (drop barrier)
      else pure (handDown { h with gatherBarrier := barrier } link master packet)) =
        Except.ok (ε := ControllerError) out) : Gathers threads h tran out := by
  obtain ⟨barrier, gathered, sent⟩ := bind_eq_ok.mp sent
  rw [gather_eq entries converted nthreads] at gathered
  by_cases get : packet.CMD = .ACT_GET
  · rw [if_pos get] at gathered
    obtain rfl := Except.ok.inj gathered
    have active := (Transaction.convTranIntoPacket_get converted).mp get
    rw [nthreads active, ← Transaction.convTranIntoPacket_dest converted active] at sent
    by_cases releases : Releases threads (counters h.gatherBarrier) packet.DESTADRS
    · rw [if_neg (mt (waitsForThreads_counted get).mp (not_not_intro releases))] at sent
      obtain rfl := pure_eq_ok.mp sent
      exact handDown_gathers_get entries converted positive get releases link master
    · rw [if_pos ((waitsForThreads_counted get).mpr releases)] at sent
      obtain rfl := pure_eq_ok.mp sent
      exact dropped get releases
  · rw [if_neg get] at gathered
    obtain rfl := Except.ok.inj gathered
    have goes : ¬ waitsForThreads h.gatherBarrier packet tran.nthreads := by
      simp only [waitsForThreads, get, false_and, decide_false, Bool.false_eq_true,
        not_false_eq_true]
    rw [if_neg goes] at sent
    obtain rfl := pure_eq_ok.mp sent
    exact handDown_gathers_other entries converted get link master

/-- An assertion of the barrier does not fail there. -/
theorem counted_ne_assertion {h : HMCController} (entries : EntriesOk threads h.gatherBarrier)
    (nthreads : tran.transactionType = .ACTIVE_GET → tran.nthreads = threads tran.dest_address)
    {packet : Packet} (converted : tran.convTranIntoPacket = some packet) {drop : Barrier → Sending}
    {link : ℕ} {master : LinkMaster} {error : ControllerError} :
    (do
      let barrier ← gather h.gatherBarrier packet tran.nthreads
      if waitsForThreads barrier packet tran.nthreads then pure (drop barrier)
      else pure (handDown { h with gatherBarrier := barrier } link master packet)) ≠
        Except.error error := by
  intro failed
  rw [gather_eq entries converted nthreads] at failed
  cases bind_eq_error.mp failed with
  | inl failed => cases failed
  | inr failed =>
    obtain ⟨barrier, -, failed⟩ := failed
    split at failed <;> exact absurd failed pure_ne_error

/-- An attempt that starts from the same counters and the same buffer. -/
theorem Gathers.of_same {h h' : HMCController} {out : Sending}
    (gathers : Gathers threads h' tran out)
    (same : counters h'.gatherBarrier = counters h.gatherBarrier)
    (down : h'.downBuffers = h.downBuffers) : Gathers threads h tran out := by
  obtain ⟨refused, taken, get, other, ok⟩ := gathers
  rw [same, down] at refused
  rw [down] at taken
  rw [same] at get other
  exact ⟨refused, taken, get, other, ok⟩

/-- An arrival changes the counter of a flow that waits for more. -/
theorem Gathers.counts {h : HMCController} {out : Sending} (gathers : Gathers threads h tran out)
    (taken : out.taken = true) (active : tran.transactionType = .ACTIVE_GET)
    (waits : ¬ Releases threads (counters h.gatherBarrier) tran.dest_address) :
    counters out.controller.gatherBarrier ≠ counters h.gatherBarrier := by
  intro same
  have count := congrFun (same.symm.trans (gathers.get taken active).1) tran.dest_address
  rw [arrive_of_waits waits] at count
  omega

variable (positive : ∀ flow, 0 < threads flow)
  (nthreads : tran.transactionType = .ACTIVE_GET → tran.nthreads = threads tran.dest_address)

include positive nthreads

theorem sendOnLink_gathers {h : HMCController} (entries : EntriesOk threads h.gatherBarrier)
    {link : ℤ} {out : Sending} (sent : sendOnLink h tran link = .ok out) :
    Gathers threads h tran out := by
  unfold sendOnLink at sent
  split at sent
  · exact absurd sent throw_ne_ok
  · split at sent
    · obtain rfl := pure_eq_ok.mp sent
      exact gathers_refused rfl entries rfl
    · split at sent
      · exact absurd sent throw_ne_ok
      · rename_i packet converted
        exact gathers_of_counted entries positive nthreads converted
          (dropCounted_gathers entries converted positive) sent

omit positive in
theorem sendOnLink_ne_assertion {h : HMCController} (entries : EntriesOk threads h.gatherBarrier)
    (link : ℤ) : sendOnLink h tran link ≠ .error .assertion := by
  intro failed
  unfold sendOnLink at failed
  split at failed
  · cases throw_eq_error.mp failed
  · split at failed
    · exact absurd failed pure_ne_error
    · split at failed
      · cases throw_eq_error.mp failed
      · rename_i packet converted
        exact counted_ne_assertion entries nthreads converted failed

omit positive in
theorem sendOnDependent_ne_assertion {h : HMCController}
    (entries : EntriesOk threads h.gatherBarrier) (link : ℕ) :
    sendOnDependent h tran link ≠ .error .assertion := by
  intro failed
  unfold sendOnDependent at failed
  split at failed
  · cases throw_eq_error.mp failed
  · split at failed
    · cases throw_eq_error.mp failed
    · rename_i packet converted
      exact counted_ne_assertion entries nthreads converted failed

/-- The links are tried until one attempt takes the transaction; those before it
    leave the counters alone. -/
theorem sendOnAnyLink_gathers {scheme : LinkPriorityScheme} {out : Sending} :
    ∀ {links : ℕ} {h : HMCController}, EntriesOk threads h.gatherBarrier →
      sendOnAnyLink scheme h tran links = .ok out → Gathers threads h tran out
  | 0, h, entries, sent => by
    obtain rfl := pure_eq_ok.mp sent
    exact gathers_refused rfl entries rfl
  | links + 1, h, entries, sent => by
    obtain ⟨sending, first, sent⟩ := bind_eq_ok.mp sent
    have gathers := (sendOnLink_gathers positive nthreads (by exact entries) first).of_same (h := h)
      rfl rfl
    by_cases taken : sending.taken
    · rw [if_pos taken] at sent
      obtain rfl := pure_eq_ok.mp sent
      exact ⟨gathers.refused, gathers.taken, gathers.get, gathers.other, gathers.ok⟩
    · rw [if_neg taken] at sent
      obtain ⟨same, -, down⟩ := gathers.refused (Bool.eq_false_iff.mpr taken)
      exact (sendOnAnyLink_gathers gathers.ok sent).of_same same down

theorem sendOnAnyLink_ne_assertion {scheme : LinkPriorityScheme} :
    ∀ {links : ℕ} {h : HMCController}, EntriesOk threads h.gatherBarrier →
      sendOnAnyLink scheme h tran links ≠ .error .assertion
  | 0, h, entries => pure_ne_error
  | links + 1, h, entries => by
    intro failed
    cases bind_eq_error.mp failed with
    | inl failed => exact sendOnLink_ne_assertion nthreads (by exact entries) _ failed
    | inr failed =>
      obtain ⟨sending, first, failed⟩ := failed
      split at failed
      · exact absurd failed pure_ne_error
      · have gathers := sendOnLink_gathers positive nthreads (by exact entries) first
        exact sendOnAnyLink_ne_assertion gathers.ok failed

omit positive in
/-- A dependent `ACT_GET` that others have to issue as well leaves no trace. -/
theorem sendOnDependent_loses {h : HMCController} (entries : EntriesOk threads h.gatherBarrier)
    {link : ℕ} {out : Sending} (sent : sendOnDependent h tran link = .ok out)
    (active : tran.transactionType = .ACTIVE_GET)
    (waits : ¬ Releases threads (counters h.gatherBarrier) tran.dest_address) :
    out.taken = true ∧ counters out.controller.gatherBarrier = counters h.gatherBarrier := by
  unfold sendOnDependent at sent
  split at sent
  · exact absurd sent throw_ne_ok
  · split at sent
    · exact absurd sent throw_ne_ok
    · rename_i packet converted
      obtain ⟨barrier, gathered, sent⟩ := bind_eq_ok.mp sent
      have get := (Transaction.convTranIntoPacket_get converted).mpr active
      have dest := Transaction.convTranIntoPacket_dest converted active
      rw [gather_eq entries converted nthreads, if_pos get] at gathered
      obtain rfl := Except.ok.inj gathered
      rw [nthreads active, ← dest,
        if_pos ((waitsForThreads_counted get).mpr (dest ▸ waits))] at sent
      obtain rfl := pure_eq_ok.mp sent
      exact ⟨rfl, counters_uncount _ _ _⟩

/-- The path of a dependent transaction gathers alike, unless it loses a count. -/
theorem sendOnDependent_gathers_iff {h : HMCController}
    (entries : EntriesOk threads h.gatherBarrier) {link : ℕ} {out : Sending}
    (sent : sendOnDependent h tran link = .ok out) :
    Gathers threads h tran out ↔ ¬ (tran.transactionType = .ACTIVE_GET ∧
      ¬ Releases threads (counters h.gatherBarrier) tran.dest_address) := by
  constructor
  · rintro gathers ⟨active, waits⟩
    obtain ⟨taken, same⟩ := sendOnDependent_loses nthreads entries sent active waits
    exact gathers.counts taken active waits same
  · intro keeps
    unfold sendOnDependent at sent
    split at sent
    · exact absurd sent throw_ne_ok
    · split at sent
      · exact absurd sent throw_ne_ok
      · rename_i packet converted
        refine gathers_of_counted entries positive nthreads converted (fun get waits => ?_) sent
        have active := (Transaction.convTranIntoPacket_get converted).mp get
        exact absurd ⟨active, Transaction.convTranIntoPacket_dest converted active ▸ waits⟩ keeps

end Paths

/-! ## Runs -/

/-- An HMC controller with the `ACT_GET` transactions it has consumed and the
    `ACT_GET` packets it has sent, for each flow. -/
structure GatherSystem where
  controller : HMCController
  consumed : BitVec 64 → ℕ := fun _ => 0
  sent : BitVec 64 → ℕ := fun _ => 0

inductive GatherAction where
  | receiveDown (tran : Transaction)
  | receiveUp (packet : Packet)
  /-- The links take a step of their own. -/
  | links (masters : List LinkMaster)
  | update

/-- The flow of an `ACT_GET` at the head of the down buffer that `Update` takes out. -/
def consumedFlow (h : HMCController) (out : Sending) : Option (BitVec 64) :=
  match h.downBuffers with
  | tran :: _ =>
    if out.taken ∧ tran.transactionType = .ACTIVE_GET then some tran.dest_address else none
  | [] => none

/-- The flow of an `ACT_GET` packet that `Update` sends. -/
def sentFlow (out : Sending) : Option (BitVec 64) :=
  match out.sent with
  | some packet => if packet.CMD = .ACT_GET then some packet.DESTADRS else none
  | none => none

/-- One more at `flow`, if there is one. -/
def count (total : BitVec 64 → ℕ) : Option (BitVec 64) → BitVec 64 → ℕ
  | some flow => bump total flow
  | none => total

/-! ### One update -/

section Update

variable {threads : BitVec 64 → ℕ}

/-- `Update` gathers, unless it loses a count. -/
theorem updateDown_gathers_iff {h : HMCController} (positive : ∀ flow, 0 < threads flow)
    (ok : BarrierOk threads h) {tran : Transaction} {rest : List Transaction}
    (delay : h.bufPopDelay = 0) (head : h.downBuffers = tran :: rest) {scheme : LinkPriorityScheme}
    {out : Sending} (updated : updateDown scheme h = .ok out) :
    Gathers threads h tran out ↔ losesCount h = false := by
  have nthreads := ok.queued tran (head ▸ List.mem_cons_self)
  simp only [updateDown, delay, head] at updated
  simp only [losesCount, delay, head]
  split at updated
  · rename_i independent
    rw [independent]
    refine iff_of_true (sendOnAnyLink_gathers positive nthreads ok.entries updated) ?_
    simp only [Option.isSome_none, Bool.false_eq_true, false_and, and_false, decide_false]
  · rename_i link dependent
    rw [dependent, sendOnDependent_gathers_iff positive nthreads ok.entries updated,
      gatherCount_eq ok.entries]
    simp only [Option.isSome_some, true_and, decide_eq_false_iff_not]
    refine not_congr (and_congr_right fun active => not_congr ?_)
    rw [nthreads active, Releases]
    omega

theorem updateDown_ne_assertion {h : HMCController} (positive : ∀ flow, 0 < threads flow)
    (ok : BarrierOk threads h) (scheme : LinkPriorityScheme) :
    updateDown scheme h ≠ .error .assertion := by
  unfold updateDown
  split
  · rename_i tran rest delay head
    have nthreads := ok.queued tran (head ▸ List.mem_cons_self)
    split
    · exact sendOnAnyLink_ne_assertion positive nthreads ok.entries
    · exact sendOnDependent_ne_assertion nthreads ok.entries _
  · exact pure_ne_error

/-- A packet is sent for the last `ACT_GET` of a flow and for no other. -/
theorem Gathers.sentFlow_eq {h : HMCController} {tran : Transaction} {out : Sending}
    (gathers : Gathers threads h tran out) :
    sentFlow out = if out.taken ∧ tran.transactionType = .ACTIVE_GET ∧
        Releases threads (counters h.gatherBarrier) tran.dest_address
      then some tran.dest_address else none := by
  rw [sentFlow]
  cases taken : out.taken with
  | false =>
    rw [(gathers.refused taken).2.1, if_neg fun both => Bool.false_ne_true both.1]
  | true =>
    by_cases active : tran.transactionType = .ACTIVE_GET
    · obtain ⟨-, releases, packets⟩ := gathers.get taken active
      cases sent : out.sent with
      | none =>
        rw [sent] at releases
        exact (if_neg fun both => Bool.false_ne_true (releases.mpr both.2.2)).symm
      | some packet =>
        obtain ⟨get, dest⟩ := packets packet sent
        rw [sent] at releases
        rw [if_pos ⟨rfl, active, releases.mp rfl⟩]
        simp only [if_pos get, dest]
    · rw [if_neg fun both => active both.2.1]
      have packets := (gathers.other taken active).2
      cases sent : out.sent with
      | none => rfl
      | some packet => exact if_neg (packets packet sent)

/-- Two attempts with the same effect on the transaction gather alike. -/
theorem Gathers.unique {h : HMCController} {tran : Transaction} {out out' : Sending}
    (gathers : Gathers threads h tran out) (gathers' : Gathers threads h tran out')
    (same : out.taken = out'.taken) :
    counters out.controller.gatherBarrier = counters out'.controller.gatherBarrier ∧
      sentFlow out = sentFlow out' := by
  refine ⟨?_, by rw [gathers.sentFlow_eq, gathers'.sentFlow_eq, same]⟩
  cases taken : out.taken with
  | false => rw [(gathers.refused taken).1, (gathers'.refused (same ▸ taken)).1]
  | true =>
    by_cases active : tran.transactionType = .ACTIVE_GET
    · rw [(gathers.get taken active).1, (gathers'.get (same ▸ taken) active).1]
    · rw [(gathers.other taken active).1, (gathers'.other (same ▸ taken) active).1]

/-- Nothing happens while the head has to wait or there is none. -/
theorem updateDown_idle {h : HMCController}
    (idle : ∀ tran rest, h.bufPopDelay = 0 → h.downBuffers = tran :: rest → False)
    {scheme : LinkPriorityScheme} {out : Sending} (updated : updateDown scheme h = .ok out) :
    out = ⟨h, false, none⟩ := by
  unfold updateDown at updated
  split at updated
  · rename_i tran rest delay head
    exact (idle tran rest delay head).elim
  · exact (pure_eq_ok.mp updated).symm

theorem updateUp_eq {h h' : HMCController} (updated : updateUp h = .ok h') :
    h'.gatherBarrier = h.gatherBarrier ∧ h'.downBuffers = h.downBuffers := by
  unfold updateUp at updated
  split at updated
  · obtain rfl := pure_eq_ok.mp updated
    exact ⟨rfl, rfl⟩
  · split at updated
    · obtain rfl := pure_eq_ok.mp updated
      exact ⟨rfl, rfl⟩
    · exact absurd updated throw_ne_ok

theorem update_eq {h : HMCController} {scheme : LinkPriorityScheme} {out : Sending}
    (updated : update scheme h = .ok out) :
    ∃ down, updateDown scheme h = .ok down ∧ out.taken = down.taken ∧ out.sent = down.sent ∧
      out.controller.gatherBarrier = down.controller.gatherBarrier ∧
      out.controller.downBuffers = down.controller.downBuffers := by
  obtain ⟨down, downward, updated⟩ := bind_eq_ok.mp updated
  obtain ⟨h', upward, updated⟩ := bind_eq_ok.mp updated
  obtain rfl := pure_eq_ok.mp updated
  obtain ⟨barrier, buffer⟩ := updateUp_eq upward
  exact ⟨down, downward, rfl, rfl, barrier, buffer⟩

end Update

namespace GatherSystem

def start (masters : List LinkMaster) : GatherSystem where
  controller := { downLinkMasters := masters }

/-- A step of the controller or of what surrounds it. -/
def step (scheme : LinkPriorityScheme) (s : GatherSystem) :
    GatherAction → Except ControllerError GatherSystem
  | .receiveDown tran =>
    pure { s with controller := (s.controller.receiveDown tran).getD s.controller }
  | .receiveUp packet =>
    pure { s with controller := (s.controller.receiveUp packet).getD s.controller }
  | .links masters => pure { s with controller := { s.controller with downLinkMasters := masters } }
  | .update => do
    let out ← s.controller.update scheme
    pure
      { controller := out.controller
        consumed := count s.consumed (consumedFlow s.controller out)
        sent := count s.sent (sentFlow out) }

/-- Every `ACT_GET` of a flow is issued for the number of threads that gather it. -/
def Promised (threads : BitVec 64 → ℕ) : GatherAction → Prop
  | .receiveDown tran =>
    tran.transactionType = .ACTIVE_GET → tran.nthreads = threads tran.dest_address
  | _ => True

instance (threads : BitVec 64 → ℕ) : ∀ action, Decidable (Promised threads action)
  | .receiveDown _ => inferInstanceAs (Decidable (_ → _))
  | .receiveUp _ | .links _ | .update => inferInstanceAs (Decidable True)

/-- No update loses a count. -/
def Keeps (s : GatherSystem) : GatherAction → Prop
  | .update => losesCount s.controller = false
  | _ => True

instance (s : GatherSystem) : ∀ action, Decidable (Keeps s action)
  | .update => inferInstanceAs (Decidable (_ = _))
  | .receiveDown _ | .receiveUp _ | .links _ => inferInstanceAs (Decidable True)

/-- The barrier of the controller balances what has been consumed and sent. -/
structure GatherOk (threads : BitVec 64 → ℕ) (s : GatherSystem) : Prop where
  barrier : BarrierOk threads s.controller
  balanced : Balanced threads (counters s.controller.gatherBarrier) s.consumed s.sent

section Run

variable {threads : BitVec 64 → ℕ}

/-- The counters, the packets sent and the transactions consumed go together. -/
theorem gathers_balanced {h : HMCController} {tran : Transaction} {rest : List Transaction}
    (head : h.downBuffers = tran :: rest) {consumed sent : BitVec 64 → ℕ}
    (balanced : Balanced threads (counters h.gatherBarrier) consumed sent) {out : Sending}
    (gathers : Gathers threads h tran out) :
    Balanced threads (counters out.controller.gatherBarrier) (count consumed (consumedFlow h out))
      (count sent (sentFlow out)) := by
  simp only [consumedFlow, head, gathers.sentFlow_eq]
  cases taken : out.taken with
  | false =>
    rw [(gathers.refused taken).1, if_neg fun both => Bool.false_ne_true both.1,
      if_neg fun both => Bool.false_ne_true both.1]
    exact balanced
  | true =>
    by_cases active : tran.transactionType = .ACTIVE_GET
    · rw [(gathers.get taken active).1, if_pos ⟨rfl, active⟩]
      by_cases releases : Releases threads (counters h.gatherBarrier) tran.dest_address
      · rw [if_pos ⟨rfl, active, releases⟩]
        exact balanced.release releases
      · rw [if_neg fun both => releases both.2.2]
        exact balanced.wait releases
    · rw [(gathers.other taken active).1, if_neg fun both => active both.2,
        if_neg fun both => active both.2.1]
      exact balanced

variable (positive : ∀ flow, 0 < threads flow)

include positive

theorem gatherOk_start (masters : List LinkMaster) : GatherOk threads (start masters) where
  barrier :=
    { entries := fun _ _ _ found => nomatch found
      queued := fun _ queued => nomatch queued }
  balanced := .start positive

theorem step_gatherOk {scheme : LinkPriorityScheme} {s s' : GatherSystem} {action : GatherAction}
    (ok : GatherOk threads s) (stepped : step scheme s action = .ok s')
    (promised : Promised threads action) (keeps : Keeps s action) : GatherOk threads s' := by
  cases action with
  | receiveDown tran =>
    obtain rfl := pure_eq_ok.mp stepped
    unfold HMCController.receiveDown
    split
    · refine ⟨⟨ok.barrier.entries, fun tran' queued get => ?_⟩, ok.balanced⟩
      cases List.mem_append.mp queued with
      | inl before => exact ok.barrier.queued tran' before get
      | inr new =>
        obtain rfl := List.mem_singleton.mp new
        exact promised get
    · exact ok
  | receiveUp packet =>
    obtain rfl := pure_eq_ok.mp stepped
    unfold HMCController.receiveUp
    split
    · exact ⟨⟨ok.barrier.entries, ok.barrier.queued⟩, ok.balanced⟩
    · exact ok
  | links masters =>
    obtain rfl := pure_eq_ok.mp stepped
    exact ⟨⟨ok.barrier.entries, ok.barrier.queued⟩, ok.balanced⟩
  | update =>
    obtain ⟨out, updated, stepped⟩ := bind_eq_ok.mp stepped
    obtain rfl := pure_eq_ok.mp stepped
    obtain ⟨down, downward, taken, sent, barrier, buffer⟩ := update_eq updated
    have consumed : consumedFlow s.controller out = consumedFlow s.controller down := by
      rw [consumedFlow, consumedFlow, taken]
    have sent : sentFlow out = sentFlow down := by rw [sentFlow, sentFlow, sent]
    by_cases head : ∃ tran rest,
        s.controller.bufPopDelay = 0 ∧ s.controller.downBuffers = tran :: rest
    · obtain ⟨tran, rest, delay, head⟩ := head
      have gathers := (updateDown_gathers_iff positive ok.barrier delay head downward).mpr keeps
      refine ⟨⟨?_, fun tran' queued => ?_⟩, ?_⟩
      · exact barrier ▸ gathers.ok
      · refine ok.barrier.queued tran' ?_
        have queued : tran' ∈ down.controller.downBuffers := buffer ▸ queued
        cases taken' : down.taken with
        | false => exact (gathers.refused taken').2.2 ▸ queued
        | true => exact List.mem_of_mem_tail (gathers.taken taken' ▸ queued)
      · show Balanced threads (counters out.controller.gatherBarrier) _ _
        rw [barrier, consumed, sent]
        exact gathers_balanced head ok.balanced gathers
    · obtain rfl :=
        updateDown_idle (fun tran rest delay same => head ⟨tran, rest, delay, same⟩) downward
      have idle : consumedFlow s.controller ⟨s.controller, false, none⟩ = none := by
        unfold consumedFlow
        split
        · exact if_neg fun both => Bool.false_ne_true both.1
        · rfl
      refine ⟨⟨barrier ▸ ok.barrier.entries, buffer ▸ ok.barrier.queued⟩, ?_⟩
      show Balanced threads (counters out.controller.gatherBarrier) _ _
      rw [barrier, consumed, sent, idle]
      exact ok.balanced

end Run

/-- In a run that loses no count every `ACT_GET` is counted once, and the last of
    the threads of a flow makes the controller send one packet for it. -/
theorem gather_counts_once {threads : BitVec 64 → ℕ} (positive : ∀ flow, 0 < threads flow)
    {scheme : LinkPriorityScheme} {masters : List LinkMaster} {actions : List GatherAction}
    {last : GatherSystem}
    (run : Run (step scheme) (fun s action _ => Promised threads action ∧ Keeps s action)
      (start masters) actions last) :
    (∀ flow, last.sent flow = last.consumed flow / threads flow ∧
      counters last.controller.gatherBarrier flow = last.consumed flow % threads flow) ∧
    updateDown scheme last.controller ≠ .error .assertion ∧
    ∀ tran rest, last.controller.bufPopDelay = 0 → last.controller.downBuffers = tran :: rest →
      (∀ out, updateDown scheme last.controller = .ok out →
        (Gathers threads last.controller tran out ↔ losesCount last.controller = false)) ∧
      ∀ links link independent dependent,
        sendOnAnyLink scheme last.controller tran links = .ok independent →
        sendOnDependent last.controller tran link = .ok dependent →
        independent.taken = dependent.taken →
        (counters independent.controller.gatherBarrier =
              counters dependent.controller.gatherBarrier ∧
            sentFlow independent = sentFlow dependent ↔
          ¬ (tran.transactionType = .ACTIVE_GET ∧
            ¬ Releases threads (counters last.controller.gatherBarrier) tran.dest_address)) := by
  have ok : GatherOk threads last := run.invariant (gatherOk_start positive masters)
    fun _ _ _ ok stepped guarded => step_gatherOk positive ok stepped guarded.1 guarded.2
  refine ⟨fun flow => ⟨ok.balanced.released_eq flow, ok.balanced.counts_eq flow⟩,
    updateDown_ne_assertion positive ok.barrier scheme, fun tran rest delay head =>
      ⟨fun out => updateDown_gathers_iff positive ok.barrier delay head, ?_⟩⟩
  intro links link independent dependent free bound same
  have nthreads := ok.barrier.queued tran (head ▸ List.mem_cons_self)
  have gathers := sendOnAnyLink_gathers positive nthreads ok.barrier.entries free
  constructor
  · rintro alike ⟨active, waits⟩
    obtain ⟨taken, lost⟩ :=
      sendOnDependent_loses nthreads ok.barrier.entries bound active waits
    exact gathers.counts (same ▸ taken) active waits (alike.1.trans lost)
  · intro keeps
    exact gathers.unique
      ((sendOnDependent_gathers_iff positive nthreads ok.barrier.entries bound).mpr keeps) same

/-- A read, and the `ACT_GET` of a thread whose address lies in the same block. -/
def readThenGets : List GatherAction :=
  let read : Transaction := { transactionType := .DATA_READ, dataSize := 64 }
  let get : Transaction := { transactionType := .ACTIVE_GET, dataSize := 8, nthreads := 2 }
  [.receiveDown read, .update, .update, .receiveDown get, .update, .update,
    .receiveDown get, .update, .update]

/-- The `ACT_GET` of two threads, after each other. -/
def twoGets : List GatherAction :=
  let get : Transaction := { transactionType := .ACTIVE_GET, dataSize := 8, nthreads := 2 }
  [.receiveDown get, .update, .update, .receiveDown get, .update, .update]

/-- A controller with one link. -/
def oneLink : GatherSystem := start [{ downstream := true }]

theorem gather_counts_once_twoGets :
    ∃ last, Run (step .ROUND_ROBIN)
        (fun s action _ => Promised (fun _ => 2) action ∧ Keeps s action) oneLink twoGets last ∧
      last.consumed 0 = 2 ∧ last.sent 0 = 2 / 2 := by
  have executed : (execute (step .ROUND_ROBIN)
      (fun s action _ => Promised (fun _ => 2) action ∧ Keeps s action) oneLink twoGets).map
        (fun last => last.consumed 0) = some 2 := by decide +kernel
  obtain ⟨last, executed, consumed⟩ := Option.map_eq_some_iff.mp executed
  have run := execute_run executed
  have counts := (gather_counts_once (fun _ => Nat.two_pos) run).1 0
  rw [consumed] at counts
  exact ⟨last, run, consumed, counts.1⟩

/-- Both threads have issued their `ACT_GET`, and no packet is sent. -/
theorem dependent_gets_uncounted :
    ∃ last, Run (step .ROUND_ROBIN) (fun _ action _ => Promised (fun _ => 2) action) oneLink
        readThenGets last ∧
      last.consumed 0 = 2 ∧ last.sent 0 = 0 ∧ counters last.controller.gatherBarrier 0 = 0 := by
  have executed : (execute (step .ROUND_ROBIN) (fun _ action _ => Promised (fun _ => 2) action)
      oneLink readThenGets).map (fun last =>
        (last.consumed 0, last.sent 0, counters last.controller.gatherBarrier 0)) =
      some (2, 0, 0) := by decide +kernel
  obtain ⟨last, executed, totals⟩ := Option.map_eq_some_iff.mp executed
  obtain ⟨consumed, totals⟩ := Prod.mk.inj totals
  obtain ⟨sent, count⟩ := Prod.mk.inj totals
  exact ⟨last, execute_run executed, consumed, sent, count⟩

end GatherSystem

end HMCController

end ActiveRouting
