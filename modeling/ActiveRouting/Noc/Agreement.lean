import ActiveRouting.Noc.Crossbar
import ActiveRouting.Noc.Mesh2D

/-!
# Where the two networks deliver

The events that the components hand to the network on chip, and those that
`Crossbar` and `Mesh2D` deliver alike.
-/

namespace ActiveRouting

open Outcome

namespace NocConfig

variable (c : NocConfig)

def Connected (component : Component) : Prop := component.num < c.size component.type

/-- The events that a component hands to the network, by the call that does it:
    the sender, the top of the stack, and the type. -/
inductive Hands : NocPriority → NocEvent → Prop where
  | core {core : Component} {rest : List Component} {e : NocElement} :
      core.type = .ct_o3core → c.Connected core → e.from_stack = core :: rest →
      e.type ∈ activeRequests → e.dummy = false → Hands .noc_req ⟨e, core⟩
  | l1Request {l1 : Component} {rest : List Component} {e : NocElement} :
      l1.type = .ct_cachel1i ∨ l1.type = .ct_cachel1d → c.Connected l1 →
      e.from_stack = l1 :: rest → e.type = .et_read ∨ e.type = .et_write → Hands .noc_req ⟨e, l1⟩
  | l1Reply {l1 : Component} {rest : List Component} {e : NocElement} :
      l1.type = .ct_cachel1i ∨ l1.type = .ct_cachel1d → c.Connected l1 →
      e.from_stack = l1 :: rest → e.type ∈ [.et_evict, .et_evict_nd, .et_m_to_s, .et_m_to_m] →
      Hands .noc_rep ⟨e, l1⟩
  | l2Reply {l2 l1 : Component} {rest : List Component} {e : NocElement} :
      l2.type = .ct_cachel2 → c.Connected l2 → l1.type = .ct_cachel1i ∨ l1.type = .ct_cachel1d →
      c.Connected l1 → e.from_stack = l1 :: rest → Hands .noc_rep ⟨e, l2⟩
  -- the second-level cache gives the target as the sender
  | l2Coherence {l2 l1 : Component} {rest : List Component} {e : NocElement} :
      l2.type = .ct_cachel2 → c.Connected l2 → l1.type = .ct_cachel1i ∨ l1.type = .ct_cachel1d →
      c.Connected l1 → e.from_stack = l2 :: rest → Hands .noc_rep ⟨e, l1⟩
  | l2Request {l2 : Component} {rest : List Component} {e : NocElement} :
      l2.type = .ct_cachel2 → c.Connected l2 → e.from_stack = l2 :: rest →
      e.type = .et_read ∨ e.type = .et_write → Hands .noc_req ⟨e, l2⟩
  | l2ToDirectory {l2 top : Component} {rest : List Component} {e : NocElement} :
      l2.type = .ct_cachel2 → c.Connected l2 → top.type = .ct_cachel2 ∨ top.type = .ct_directory →
      e.from_stack = top :: rest → Hands .noc_rep ⟨e, l2⟩
  -- under `art_addr` only a multiplication goes to another controller
  | directoryUpdate {directory : Component} {rest : List Component} {e : NocElement} :
      directory.type = .ct_directory → c.Connected directory → e.from_stack = directory :: rest →
      e.type ∈ [.et_art_add, .et_art_mult, .et_art_dot] →
      (c.host.art_scheme = .art_addr → e.type = .et_art_mult) → e.dummy = false →
      Hands .noc_req ⟨e, directory⟩
  | directoryRequest {directory l2 next : Component} {rest : List Component} {e : NocElement} :
      directory.type = .ct_directory → c.Connected directory → l2.type = .ct_cachel2 →
      c.Connected l2 → e.from_stack = l2 :: next :: rest → Hands .noc_crq ⟨e, directory⟩
  | directoryReply {directory l2 : Component} {rest : List Component} {e : NocElement} :
      directory.type = .ct_directory → c.Connected directory → l2.type = .ct_cachel2 →
      c.Connected l2 → e.from_stack = l2 :: rest →
      e.type ∈ [.et_nack, .et_write_nd, .et_e_rd, .et_s_rd, .et_read, .et_write] →
      Hands .noc_rep ⟨e, directory⟩
  | controllerReply {controller core : Component} {rest : List Component} {e : NocElement} :
      controller.type = .ct_hmc_controller → c.Connected controller → core.type = .ct_o3core →
      c.Connected core → e.from_stack = core :: rest → e.type ∈ activeRequests →
      e.dummy = false → Hands .noc_rep ⟨e, controller⟩

/-- The requests that the crossbar has no place for. -/
def Carried (priority : NocPriority) (event : NocEvent) : Prop :=
  priority = .noc_req → event.element.type ∉ [.et_art_dot, .et_pei_dot, .et_pei_atomic]

instance : ∀ priority event, Decidable (Carried priority event) :=
  fun _ _ => inferInstanceAs (Decidable (_ → _))

/-- Both networks can carry an event, and its target gets the same from them. -/
structure Agree (priority : NocPriority) (event : NocEvent) (route : Route) (target : MeshTarget) :
    Prop where
  crossbar : Crossbar.route c priority event = .ok (some route)
  port : route.port < c.num_ports
  mesh : Mesh2D.target c priority event = .ok target
  place : target.place < c.num_rows * c.num_cols
  arrives : Mesh2D.arrive priority event target.component =
    .ok (Crossbar.delivery (priority, route.element, route.target))

def Carries (priority : NocPriority) (event : NocEvent) : Prop :=
  ∃ route target, c.Agree priority event route target

end NocConfig

/-! ## The top of the stack -/

section Stack

variable {c : NocConfig} {e : NocElement} {top sender : Component} {rest : List Component}

theorem NocElement.top_of_stack (stack : e.from_stack = top :: rest) : e.top = .ok top := by
  rw [NocElement.top, stack]
  rfl

theorem NocElement.pop_of_stack (stack : e.from_stack = top :: rest) :
    e.pop = .ok { e with from_stack := rest } := by
  rw [NocElement.pop, stack]
  rfl

theorem Crossbar.route_rep (stack : e.from_stack = top :: rest) :
    Crossbar.route c .noc_rep ⟨e, sender⟩ = (Crossbar.repRoute c e top sender).map some := by
  rw [Crossbar.route, NocElement.top_of_stack stack]
  rfl

theorem Crossbar.route_crq (stack : e.from_stack = top :: rest) :
    Crossbar.route c .noc_crq ⟨e, sender⟩ =
      .ok (some ⟨sender.num, top, { e with from_stack := rest }⟩) := by
  rw [Crossbar.route, NocElement.top_of_stack stack]
  show (Crossbar.crqRoute e top sender).map some = _
  rw [Crossbar.crqRoute, NocElement.pop_of_stack stack]
  rfl

theorem Crossbar.route_req (stack : e.from_stack = top :: rest) :
    Crossbar.route c .noc_req ⟨e, sender⟩ = Crossbar.reqRoute c e top sender := by
  rw [Crossbar.route, NocElement.top_of_stack stack]
  rfl

theorem Mesh2D.target_rep (stack : e.from_stack = top :: rest) :
    Mesh2D.target c .noc_rep ⟨e, sender⟩ = .ok (Mesh2D.repTarget c e top sender) := by
  rw [Mesh2D.target, NocElement.top_of_stack stack]
  rfl

theorem Mesh2D.target_crq (stack : e.from_stack = top :: rest) :
    Mesh2D.target c .noc_crq ⟨e, sender⟩ = .ok (Mesh2D.cluster .ct_cachel2 top.num) := by
  rw [Mesh2D.target, NocElement.top_of_stack stack]
  rfl

theorem Mesh2D.target_req (stack : e.from_stack = top :: rest) :
    Mesh2D.target c .noc_req ⟨e, sender⟩ = Mesh2D.reqTarget c e top sender := by
  rw [Mesh2D.target, NocElement.top_of_stack stack]
  rfl

theorem Mesh2D.arrive_directory (priority : NocPriority) (num : ℕ) (notCrq : priority ≠ .noc_crq) :
    Mesh2D.arrive priority ⟨e, sender⟩ ⟨.ct_directory, num⟩ =
      .ok (Crossbar.delivery (priority, e, ⟨.ct_directory, num⟩)) := by
  cases priority with
  | noc_crq => exact absurd rfl notCrq
  | noc_rep => rfl
  | noc_req => rfl

theorem Mesh2D.arrive_cachel2 (priority : NocPriority) (num : ℕ) (notCrq : priority ≠ .noc_crq)
    (stack : e.from_stack = top :: rest) :
    Mesh2D.arrive priority ⟨e, sender⟩ ⟨.ct_cachel2, num⟩ =
      .ok (Mesh2D.deliver ⟨.ct_cachel2, num⟩ (Mesh2D.entryL2 top sender e.type) e) := by
  have popped : Mesh2D.popCrq priority e = .ok e := if_neg notCrq
  simp only [Mesh2D.arrive, popped, ok_bind, NocElement.top_of_stack stack]
  cases isDummy : e.dummy <;> simp [Mesh2D.deliver, isDummy]

/-- The request of a directory arrives without its target on the stack. -/
theorem Mesh2D.arrive_crq {next : Component} (num : ℕ) (stack : e.from_stack = top :: next :: rest) :
    Mesh2D.arrive .noc_crq ⟨e, sender⟩ ⟨.ct_cachel2, num⟩ =
      .ok (Mesh2D.deliver ⟨.ct_cachel2, num⟩ (Mesh2D.entryL2 next sender e.type)
        { e with from_stack := next :: rest }) := by
  have popped : Mesh2D.popCrq .noc_crq e = .ok { e with from_stack := next :: rest } :=
    NocElement.pop_of_stack stack
  simp only [Mesh2D.arrive, popped, ok_bind]
  cases isDummy : e.dummy <;> simp [Mesh2D.deliver, NocElement.top, isDummy]

theorem Mesh2D.arrive_l1 {l1 : component_type} (isL1 : l1 = .ct_cachel1i ∨ l1 = .ct_cachel1d)
    (num : ℕ) (stack : e.from_stack = top :: rest) (isReply : replyToL1 l1 top sender) :
    Mesh2D.arrive .noc_rep ⟨e, sender⟩ ⟨l1, num⟩ =
      .ok (Crossbar.delivery (.noc_rep, e, ⟨l1, num⟩)) := by
  have popped : Mesh2D.popCrq .noc_rep e = .ok e := rfl
  obtain rfl | rfl := isL1
  · simp only [Mesh2D.arrive, popped, ok_bind, NocElement.top_of_stack stack, isReply]
    cases isDummy : e.dummy <;>
      simp [Mesh2D.deliver, Crossbar.delivery, Crossbar.entryOf, isDummy]
  · simp only [Mesh2D.arrive, popped, ok_bind, NocElement.top_of_stack stack, isReply]
    cases isDummy : e.dummy <;>
      simp [Mesh2D.deliver, Crossbar.delivery, Crossbar.entryOf, isDummy]

end Stack

/-! ## The events of the components -/

namespace NocConfig

section Ranges

variable {c : NocConfig} {component : Component}

theorem Connected.port (connected : c.Connected component) : component.num < c.num_ports :=
  Nat.lt_of_lt_of_le connected (c.size_le_ports component.type)

theorem cluster_lt {num : ℕ} (small : num < c.num_hthreads) : num < c.num_rows * c.num_cols :=
  Nat.lt_of_lt_of_le small c.hthreads_le_mesh

theorem Connected.cluster (connected : c.Connected component)
    (isCluster : c.size component.type = c.num_hthreads) :
    component.num < c.num_rows * c.num_cols :=
  cluster_lt (isCluster ▸ connected)

theorem directoryOf_lt (address : BitVec 64) :
    (Mesh2D.directoryOf c address).place < c.num_rows * c.num_cols :=
  c.mc_pos_lt _ (c.which_mc_lt address)

end Ranges

section Cases

variable {c : NocConfig} {e : NocElement} {rest : List Component}

/-- A reply to a directory. -/
theorem agree_toDirectory {top sender : Component} (connected : c.Connected sender)
    (stack : e.from_stack = top :: rest) (notL1i : ¬ replyToL1 .ct_cachel1i top sender)
    (notL1d : ¬ replyToL1 .ct_cachel1d top sender) (notFromL1 : ¬ fromL1 top sender)
    (isReply : toDirectory e.type sender) :
    c.Agree .noc_rep ⟨e, sender⟩ ⟨sender.num, ⟨.ct_directory, c.host.which_mc e.address⟩, e⟩
      (Mesh2D.directoryOf c e.address) where
  crossbar := by
    rw [Crossbar.route_rep stack, Crossbar.repRoute, if_neg notL1i, if_neg notL1d,
      if_neg notFromL1, if_pos isReply]
    rfl
  port := connected.port
  mesh := by
    rw [Mesh2D.target_rep stack, Mesh2D.repTarget, if_neg notL1i, if_neg notL1d,
      if_neg notFromL1, if_pos isReply]
  place := directoryOf_lt e.address
  arrives := Mesh2D.arrive_directory _ _ (by decide)

theorem size_of_l1 {l1 : component_type} (isL1 : l1 = .ct_cachel1i ∨ l1 = .ct_cachel1d) :
    c.size l1 = c.num_hthreads := by
  obtain rfl | rfl := isL1 <;> rfl

/-- A reply to a first-level cache, from the second level or in the name of the target. -/
theorem agree_toL1 {l1 : component_type} {top sender : Component}
    (isL1 : l1 = .ct_cachel1i ∨ l1 = .ct_cachel1d) (connectedTop : c.Connected top)
    (connectedSender : c.Connected sender) (stack : e.from_stack = top :: rest)
    (isReply : replyToL1 l1 top sender) :
    c.Agree .noc_rep ⟨e, sender⟩ (Crossbar.routeToL1 l1 e top sender)
      (Mesh2D.targetL1 l1 top sender) where
  crossbar := by
    rw [Crossbar.route_rep stack, Crossbar.repRoute]
    obtain rfl | rfl := isL1
    · rw [if_pos isReply]
      rfl
    · have notL1i : ¬ replyToL1 .ct_cachel1i top sender := by
        obtain ⟨isTop, isSender⟩ | ⟨isTop, isSender⟩ := isReply <;>
          simp [replyToL1, isTop, isSender]
      rw [if_neg notL1i, if_pos isReply]
      rfl
  port := by
    show (if sender.type = l1 then top.num else sender.num) < c.num_ports
    split
    · exact connectedTop.port
    · exact connectedSender.port
  mesh := by
    rw [Mesh2D.target_rep stack, Mesh2D.repTarget]
    obtain rfl | rfl := isL1
    · rw [if_pos isReply]
    · have notL1i : ¬ replyToL1 .ct_cachel1i top sender := by
        obtain ⟨isTop, isSender⟩ | ⟨isTop, isSender⟩ := isReply <;>
          simp [replyToL1, isTop, isSender]
      rw [if_neg notL1i, if_pos isReply]
  place := by
    show (if sender.type = l1 then sender.num else top.num) < _
    obtain ⟨isTop, isSender⟩ | ⟨-, isSender⟩ := isReply
    · rw [if_neg (by rw [isSender]; obtain rfl | rfl := isL1 <;> decide)]
      exact connectedTop.cluster (isTop ▸ size_of_l1 isL1)
    · rw [if_pos isSender]
      exact connectedSender.cluster (isSender ▸ size_of_l1 isL1)
  arrives := Mesh2D.arrive_l1 isL1 _ stack isReply

/-- A first-level cache sends to the second level. -/
theorem agree_fromL1 {priority : NocPriority} {l1 : Component} (notCrq : priority ≠ .noc_crq)
    (isL1 : l1.type = .ct_cachel1i ∨ l1.type = .ct_cachel1d) (connected : c.Connected l1)
    (stack : e.from_stack = l1 :: rest)
    (types : (e.type = .et_read ∨ e.type = .et_write) ↔ priority = .noc_req) :
    c.Agree priority ⟨e, l1⟩ ⟨l1.num, ⟨.ct_cachel2, c.which_l2 e.address⟩, e⟩
      (Mesh2D.cluster .ct_cachel2 (c.which_l2 e.address)) := by
  have isFromL1 : fromL1 l1 l1 := isL1.imp (fun isI => ⟨isI, isI⟩) fun isD => ⟨isD, isD⟩
  have notL1 : ∀ type, type = .ct_cachel1i ∨ type = .ct_cachel1d → ¬ replyToL1 type l1 l1 := by
    intro type _
    obtain isI | isD := isL1
    · simp [replyToL1, isI]
    · simp [replyToL1, isD]
  have entry : Mesh2D.entryL2 l1 l1 e.type = Crossbar.entryOf priority := by
    cases priority with
    | noc_rep => exact if_neg fun both => nomatch types.mp both.2
    | noc_crq => exact absurd rfl notCrq
    | noc_req => exact if_pos ⟨isFromL1, types.mpr rfl⟩
  refine ⟨?_, connected.port, ?_, cluster_lt (c.which_l2_lt e.address), ?_⟩
  · cases priority with
    | noc_rep =>
      rw [Crossbar.route_rep stack, Crossbar.repRoute, if_neg (notL1 _ (.inl rfl)),
        if_neg (notL1 _ (.inr rfl)), if_pos isFromL1]
      rfl
    | noc_crq => exact absurd rfl notCrq
    | noc_req =>
      rw [Crossbar.route_req stack, Crossbar.reqRoute, if_pos isFromL1]
      rfl
  · cases priority with
    | noc_rep =>
      rw [Mesh2D.target_rep stack, Mesh2D.repTarget, if_neg (notL1 _ (.inl rfl)),
        if_neg (notL1 _ (.inr rfl)), if_pos isFromL1]
    | noc_crq => exact absurd rfl notCrq
    | noc_req =>
      rw [Mesh2D.target_req stack, Mesh2D.reqTarget, if_pos isFromL1]
      rfl
  · show Mesh2D.arrive priority ⟨e, l1⟩ ⟨.ct_cachel2, c.which_l2 e.address⟩ = _
    rw [Mesh2D.arrive_cachel2 priority _ notCrq stack, entry]
    rfl

/-- A second-level cache asks a directory. -/
theorem agree_l2Request {l2 : Component} (isL2 : l2.type = .ct_cachel2) (connected : c.Connected l2)
    (stack : e.from_stack = l2 :: rest) :
    c.Agree .noc_req ⟨e, l2⟩ ⟨l2.num, ⟨.ct_directory, c.host.which_mc e.address⟩, e⟩
      (Mesh2D.directoryOf c e.address) where
  crossbar := by
    rw [Crossbar.route_req stack, Crossbar.reqRoute]
    simp [fromL1, isL2]
  port := connected.port
  mesh := by
    rw [Mesh2D.target_req stack, Mesh2D.reqTarget]
    simp [fromL1, isL2]
  place := directoryOf_lt e.address
  arrives := Mesh2D.arrive_directory _ _ (by decide)

/-- A directory asks a second-level cache. -/
theorem agree_directoryRequest {directory l2 next : Component}
    (isDirectory : directory.type = .ct_directory) (connected : c.Connected directory)
    (isL2 : l2.type = .ct_cachel2) (connectedL2 : c.Connected l2)
    (stack : e.from_stack = l2 :: next :: rest) :
    c.Agree .noc_crq ⟨e, directory⟩
      ⟨directory.num, l2, { e with from_stack := next :: rest }⟩
      (Mesh2D.cluster .ct_cachel2 l2.num) where
  crossbar := Crossbar.route_crq stack
  port := connected.port
  mesh := Mesh2D.target_crq stack
  place := connectedL2.cluster (by rw [isL2]; rfl)
  arrives := by
    have isTarget : (⟨.ct_cachel2, l2.num⟩ : Component) = l2 := by rw [← isL2]
    have entry : Mesh2D.entryL2 next directory e.type = .add_rep_event :=
      if_neg (by simp [fromL1, isDirectory])
    show Mesh2D.arrive .noc_crq ⟨e, directory⟩ ⟨.ct_cachel2, l2.num⟩ = _
    rw [Mesh2D.arrive_crq l2.num stack, entry, isTarget]
    rfl

/-- A directory answers a second-level cache. -/
theorem agree_directoryReply {directory l2 : Component}
    (isDirectory : directory.type = .ct_directory) (connected : c.Connected directory)
    (isL2 : l2.type = .ct_cachel2) (connectedL2 : c.Connected l2) (stack : e.from_stack = l2 :: rest)
    (types : e.type ∈ [.et_nack, .et_write_nd, .et_e_rd, .et_s_rd, .et_read, .et_write]) :
    c.Agree .noc_rep ⟨e, directory⟩ ⟨directory.num, l2, e⟩ (Mesh2D.cluster .ct_cachel2 l2.num) := by
  have isTarget : (⟨.ct_cachel2, l2.num⟩ : Component) = l2 := by rw [← isL2]
  have entry : Mesh2D.entryL2 l2 directory e.type = .add_rep_event :=
    if_neg (by simp [fromL1, isDirectory])
  have others : ¬ toDirectory e.type directory ∧ e.type ∉ activeRequests := by
    simp only [List.mem_cons, List.not_mem_nil, or_false] at types
    rcases types with type | type | type | type | type | type <;>
      simp [toDirectory, directoryReplies, isCacheL2, activeRequests, isDirectory, type]
  refine ⟨?_, connected.port, ?_, connectedL2.cluster (by rw [isL2]; rfl), ?_⟩
  · have notActive : e.type ∉ [.et_art_get, .et_art_add, .et_art_mult, .et_art_dot] := by
      intro member
      apply others.2
      simp only [activeRequests, List.mem_cons, List.not_mem_nil, or_false] at member ⊢
      tauto
    rw [Crossbar.route_rep stack, Crossbar.repRoute, if_neg (by simp [replyToL1, isL2, isDirectory]),
      if_neg (by simp [replyToL1, isL2, isDirectory]), if_neg (by simp [fromL1, isDirectory]),
      if_neg others.1, if_neg notActive]
    rfl
  · rw [Mesh2D.target_rep stack, Mesh2D.repTarget, if_neg (by simp [replyToL1, isL2, isDirectory]),
      if_neg (by simp [replyToL1, isL2, isDirectory]), if_neg (by simp [fromL1, isDirectory]),
      if_neg others.1, if_neg others.2]
  · show Mesh2D.arrive .noc_rep ⟨e, directory⟩ ⟨.ct_cachel2, l2.num⟩ = _
    rw [Mesh2D.arrive_cachel2 .noc_rep _ (by decide) stack, entry, isTarget]
    rfl

/-- A controller answers a core. -/
theorem agree_controllerReply {controller core : Component}
    (isController : controller.type = .ct_hmc_controller) (connected : c.Connected controller)
    (isCore : core.type = .ct_o3core) (connectedCore : c.Connected core)
    (stack : e.from_stack = core :: rest) (types : e.type ∈ activeRequests)
    (isEvent : e.dummy = false) :
    c.Agree .noc_rep ⟨e, controller⟩ ⟨controller.num, core, e⟩
      (Mesh2D.cluster .ct_o3core core.num) := by
  have isTarget : (⟨.ct_o3core, core.num⟩ : Component) = core := by rw [← isCore]
  have notDirectory : ¬ toDirectory e.type controller := by
    simp only [activeRequests, List.mem_cons, List.not_mem_nil, or_false] at types
    rcases types with type | type | type | type | type | type <;>
      simp [toDirectory, directoryReplies, isCacheL2, isController, type]
  refine ⟨?_, connected.port, ?_, connectedCore.cluster (by rw [isCore]; rfl), ?_⟩
  · rw [Crossbar.route_rep stack, Crossbar.repRoute, if_neg (by simp [replyToL1, isCore, isController]),
      if_neg (by simp [replyToL1, isCore, isController]), if_neg (by simp [fromL1, isController]),
      if_neg notDirectory]
    -- the crossbar reads the core from the stack or from its own table
    split
    · rw [if_pos ⟨isCore, isController⟩, isTarget]
      rfl
    · rfl
  · rw [Mesh2D.target_rep stack, Mesh2D.repTarget, if_neg (by simp [replyToL1, isCore, isController]),
      if_neg (by simp [replyToL1, isCore, isController]), if_neg (by simp [fromL1, isController]),
      if_neg notDirectory, if_pos types]
  · show Mesh2D.arrive .noc_rep ⟨e, controller⟩ ⟨.ct_o3core, core.num⟩ = _
    rw [isTarget]
    simp [Mesh2D.arrive, isCore, Crossbar.delivery, Crossbar.entryOf, isEvent]

/-- A core sends an `ACT_GET` to a controller. -/
theorem agree_coreGet {core : Component} (isCore : core.type = .ct_o3core)
    (connected : c.Connected core) (stack : e.from_stack = core :: rest) (isGet : e.type = .et_art_get)
    (isEvent : e.dummy = false) :
    c.Agree .noc_req ⟨e, core⟩ ⟨core.num, ⟨.ct_hmc_controller, c.gatherController e.th_id⟩, e⟩
      (Mesh2D.atController c .ct_hmc_controller (c.gatherController e.th_id)) where
  crossbar := by
    rw [Crossbar.route_req stack, Crossbar.reqRoute, if_neg (by simp [fromL1, isCore]), if_pos isCore,
      Crossbar.coreRoute, isGet]
    rfl
  port := connected.port
  mesh := by
    rw [Mesh2D.target_req stack, Mesh2D.reqTarget, if_neg (by simp [fromL1, isCore]), if_pos isCore,
      Mesh2D.coreTarget, isGet]
    rfl
  place := c.mc_pos_lt _ (c.gatherController_lt e.th_id)
  arrives := by
    simp [Mesh2D.atController, Mesh2D.arrive, Mesh2D.arriveHmc, NocElement.top_of_stack stack, isCore,
      Crossbar.delivery, Crossbar.entryOf, isEvent]

/-- The address whose directory a core asks for an update. -/
def updateAddress (e : NocElement) : BitVec 64 :=
  if e.type = .et_art_mult ∧ e.twin_lqe1 ≠ none then e.src_addr2 else e.src_addr1

theorem agree_coreUpdate {core : Component} (isCore : core.type = .ct_o3core)
    (connected : c.Connected core) (stack : e.from_stack = core :: rest)
    (isUpdate : e.type = .et_art_add ∨ e.type = .et_art_mult) :
    c.Agree .noc_req ⟨e, core⟩
      ⟨core.num, ⟨.ct_directory, c.host.which_mc (updateAddress e)⟩, e⟩
      (Mesh2D.directoryOf c (updateAddress e)) where
  crossbar := by
    rw [Crossbar.route_req stack, Crossbar.reqRoute, if_neg (by simp [fromL1, isCore]), if_pos isCore]
    obtain isAdd | isMult := isUpdate
    · simp [Crossbar.coreRoute, updateAddress, isAdd]
    · cases isFirst : e.twin_lqe1 <;> simp [Crossbar.coreRoute, updateAddress, isMult, isFirst]
  port := connected.port
  mesh := by
    rw [Mesh2D.target_req stack, Mesh2D.reqTarget, if_neg (by simp [fromL1, isCore]), if_pos isCore]
    obtain isAdd | isMult := isUpdate
    · simp [Mesh2D.coreTarget, updateAddress, isAdd]
    · cases isFirst : e.twin_lqe1 <;> simp [Mesh2D.coreTarget, updateAddress, isMult, isFirst]
  place := directoryOf_lt _
  arrives := Mesh2D.arrive_directory _ _ (by decide)

theorem updateController_lt (c : NocConfig) (e : NocElement) :
    Crossbar.updateController c e < c.host.num_mcs := by
  unfold Crossbar.updateController
  split
  · exact c.mcs_pos
  · exact c.thread_controller_lt _
  · exact c.which_mc_lt _

/-- A directory sends an update to the controller of its flow. -/
theorem agree_directoryUpdate {directory : Component} (isDirectory : directory.type = .ct_directory)
    (connected : c.Connected directory) (stack : e.from_stack = directory :: rest)
    (isUpdate : e.type = .et_art_add ∨ e.type = .et_art_mult)
    (onlyMult : c.host.art_scheme = .art_addr → e.type = .et_art_mult) (isEvent : e.dummy = false) :
    c.Agree .noc_req ⟨e, directory⟩
      ⟨directory.num, ⟨.ct_hmc_controller, Crossbar.updateController c e⟩,
        { e with from_stack := rest }⟩
      (Mesh2D.atController c .ct_hmc_controller (Crossbar.updateController c e)) where
  crossbar := by
    have isUpdate' : e.type = .et_art_mult ∨ e.type = .et_art_add := isUpdate.symm
    rw [Crossbar.route_req stack, Crossbar.reqRoute, NocElement.pop_of_stack stack]
    simp [fromL1, isDirectory, isUpdate']
  port := connected.port
  mesh := by
    have isMember : e.type ∈ [EventType.et_art_add, .et_art_mult, .et_art_dot] := by
      obtain isAdd | isMult := isUpdate
      · simp [isAdd]
      · simp [isMult]
    have sameController : Mesh2D.updateController c e = .ok (Crossbar.updateController c e) := by
      rw [Mesh2D.updateController, Crossbar.updateController]
      cases scheme : c.host.art_scheme with
      | art_naive => rfl
      | art_tid => rfl
      | art_addr => exact if_pos (onlyMult scheme)
    rw [Mesh2D.target_req stack, Mesh2D.reqTarget, if_neg (by simp [fromL1, isDirectory]),
      if_neg (by simp [isDirectory]), if_pos ⟨isDirectory, isMember⟩, sameController]
    rfl
  place := c.mc_pos_lt _ (updateController_lt c e)
  arrives := by
    obtain isAdd | isMult := isUpdate
    · simp [Mesh2D.atController, Mesh2D.arrive, Mesh2D.arriveHmc, NocElement.top_of_stack stack,
        NocElement.pop_of_stack stack, isDirectory, isAdd, Crossbar.delivery, Crossbar.entryOf, isEvent]
    · simp [Mesh2D.atController, Mesh2D.arrive, Mesh2D.arriveHmc, NocElement.top_of_stack stack,
        NocElement.pop_of_stack stack, isDirectory, isMult, Crossbar.delivery, Crossbar.entryOf, isEvent]

end Cases

/-! ## All events -/

variable {c : NocConfig} {priority : NocPriority} {event : NocEvent}

/-- What the components hand to the network, and the crossbar has a place for,
    both networks deliver alike. -/
theorem Hands.agree (hands : c.Hands priority event) (carried : Carried priority event) :
    c.Carries priority event := by
  cases hands with
  | @core core rest e isCore connected stack active isEvent =>
    have isCarried := carried rfl
    simp only [activeRequests, List.mem_cons, List.not_mem_nil, or_false, not_or] at active isCarried
    rcases active with get | add | mult | dot | peiDot | peiAtomic
    · exact ⟨_, _, agree_coreGet isCore connected stack get isEvent⟩
    · exact ⟨_, _, agree_coreUpdate isCore connected stack (.inl add)⟩
    · exact ⟨_, _, agree_coreUpdate isCore connected stack (.inr mult)⟩
    · exact absurd dot isCarried.1
    · exact absurd peiDot isCarried.2.1
    · exact absurd peiAtomic isCarried.2.2
  | l1Request isL1 connected stack types =>
    exact ⟨_, _, agree_fromL1 (by decide) isL1 connected stack ⟨fun _ => rfl, fun _ => types⟩⟩
  | @l1Reply l1 rest e isL1 connected stack types =>
    have notRequest : ¬ (e.type = .et_read ∨ e.type = .et_write) := by
      rintro (isRead | isWrite)
      · simp [isRead] at types
      · simp [isWrite] at types
    exact ⟨_, _, agree_fromL1 (by decide) isL1 connected stack
      ⟨fun isRequest => absurd isRequest notRequest, fun isReq => nomatch isReq⟩⟩
  | l2Reply isL2 connectedL2 isL1 connectedL1 stack =>
    exact ⟨_, _, agree_toL1 isL1 connectedL1 connectedL2 stack (.inl ⟨rfl, isL2⟩)⟩
  | l2Coherence isL2 connectedL2 isL1 connectedL1 stack =>
    exact ⟨_, _, agree_toL1 isL1 connectedL2 connectedL1 stack (.inr ⟨isL2, rfl⟩)⟩
  | l2Request isL2 connected stack types => exact ⟨_, _, agree_l2Request isL2 connected stack⟩
  | @l2ToDirectory l2 top rest e isL2 connected isTop stack =>
    have notL1 : ∀ l1, l1 = .ct_cachel1i ∨ l1 = .ct_cachel1d → ¬ replyToL1 l1 top l2 := by
      rintro l1 (rfl | rfl) <;> obtain isTop | isTop := isTop <;> simp [replyToL1, isTop, isL2]
    exact ⟨_, _, agree_toDirectory connected stack (notL1 _ (.inl rfl)) (notL1 _ (.inr rfl))
      (by simp [fromL1, isL2]) (.inr (.inl isL2))⟩
  | @directoryUpdate directory rest e isDirectory connected stack types onlyMult isEvent =>
    have isCarried := carried rfl
    simp only [List.mem_cons, List.not_mem_nil, or_false, not_or] at types isCarried
    rcases types with add | mult | dot
    · exact ⟨_, _, agree_directoryUpdate isDirectory connected stack (.inl add) onlyMult isEvent⟩
    · exact ⟨_, _, agree_directoryUpdate isDirectory connected stack (.inr mult) onlyMult isEvent⟩
    · exact absurd dot isCarried.1
  | directoryRequest isDirectory connected isL2 connectedL2 stack =>
    exact ⟨_, _, agree_directoryRequest isDirectory connected isL2 connectedL2 stack⟩
  | directoryReply isDirectory connected isL2 connectedL2 stack types =>
    exact ⟨_, _, agree_directoryReply isDirectory connected isL2 connectedL2 stack types⟩
  | controllerReply isController connected isCore connectedCore stack types isEvent =>
    exact ⟨_, _, agree_controllerReply isController connected isCore connectedCore stack types isEvent⟩

end NocConfig

end ActiveRouting
