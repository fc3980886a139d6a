import ActiveRouting.Library.Outcome
import ActiveRouting.Library.Run
import ActiveRouting.Library.Switches
import ActiveRouting.Noc.RingRouting

/-!
# Rounds of the ring

The ring is a network of switches.  Whatever else is in it, an event goes round it
the shorter way and leaves at its target.
-/

namespace ActiveRouting

open Outcome Transition

namespace Ring

variable (c : RingConfig)

/-! ## The ring as a network of switches -/

/-- What the ring and its log are to a network of switches. -/
def view (log : List RingSend) (s : Switching) : Switches RingKey ℕ NocPriority NocEvent where
  qs := s.ring.qs
  count := s.ring.num_req_in_ring
  used := s.already_sent
  sends := log ++ s.sends

def routing : Routing RingKey ℕ NocPriority NocEvent where
  label := RingKey.priority
  port key event :=
    match target c key.priority event with
    | .error _ => 0
    | .ok target =>
      match nextHop c.num_nodes key.node target.target_pos with
      | some (out, _) => out.port
      | none => target.target_port_num
  takes _ _ := true
  next key event :=
    match target c key.priority event with
    | .error _ => none
    | .ok target =>
      (nextHop c.num_nodes key.node target.target_pos).map fun hop =>
        ⟨key.priority, hop.2.1, hop.2.2.port⟩
  delay := c.sw_to_sw_t

/-- An event has a target in the ring. -/
def Good (priority : NocPriority) (event : NocEvent) : Prop :=
  ∃ target, Ring.target c priority event = .ok target ∧ target.target_pos < c.num_nodes

variable {c}

theorem arrive_ok {priority : NocPriority} {event : NocEvent} {ringTarget : RingTarget}
    (isTarget : target c priority event = .ok ringTarget) (component : Component) :
    ∃ deliveries, arrive priority event component = .ok deliveries := by
  have popped : ∃ e, popCrq priority event.element = .ok e := by
    unfold popCrq
    cases priority with
    | noc_rep => exact ⟨event.element, rfl⟩
    | noc_req => exact ⟨event.element, rfl⟩
    | noc_crq =>
      obtain ⟨top, isTop, -⟩ := bind_eq_ok.mp isTarget
      rw [if_pos rfl, NocElement.pop]
      rw [NocElement.top] at isTop
      split at isTop
      · exact absurd isTop throw_ne_ok
      · exact ⟨_, rfl⟩
  obtain ⟨e, isPopped⟩ := popped
  rw [arrive, isPopped, ok_bind]
  exact ⟨_, rfl⟩

/-- `process_qs` serves a queue. -/
theorem process_qs_serve {curr_time : ℕ} (log : List RingSend) {s : Switching} {key : RingKey}
    (good : ∀ entry ∈ s.ring.qs key, Good c key.priority entry.2) :
    ∃ s', process_qs c curr_time s key = .ok s' ∧
      view log s' = (routing c).serve curr_time (view log s) key ∧ s'.ring.token = s.ring.token := by
  unfold process_qs Routing.serve
  cases queue : s.ring.qs key with
  | nil =>
    refine ⟨s, rfl, ?_, rfl⟩
    simp only [view, queue]
  | cons entry rest =>
    obtain ⟨time, event⟩ := entry
    obtain ⟨target, isTarget, -⟩ := good (time, event) (queue ▸ List.mem_cons_self)
    simp only [view, queue]
    by_cases early : curr_time < time
    · simp only [if_pos early]
      exact ⟨s, rfl, rfl, rfl⟩
    · simp only [if_neg early, isTarget, ok_bind, routing]
      cases hop : nextHop c.num_nodes key.node target.target_pos with
      | some way =>
        obtain ⟨out, next, port⟩ := way
        dsimp only
        cases isUsed : s.already_sent out.port with
        | true =>
          simp only [if_true]
          exact ⟨s, rfl, rfl, rfl⟩
        | false =>
          simp only [Bool.false_eq_true, if_false]
          refine ⟨_, rfl, ?_, rfl⟩
          simp only [Routing.move, isTarget, hop, Option.map_some, Option.isNone_some,
            Bool.false_eq_true, if_false, if_true, Switching.hop, Ring.insert, QueueTable.insert,
            List.append_assoc]
      | none =>
        dsimp only
        cases isUsed : s.already_sent target.target_port_num with
        | true =>
          simp only [if_true]
          exact ⟨s, rfl, rfl, rfl⟩
        | false =>
          obtain ⟨deliveries, arrives⟩ := arrive_ok isTarget target.component
          simp only [Bool.false_eq_true, if_false, arrives, ok_bind]
          refine ⟨_, rfl, ?_, rfl⟩
          simp only [Routing.move, isTarget, hop, Option.map_none, Option.isNone_none, if_true,
            Switching.leave, List.append_assoc]

/-! ## Queues -/

theorem le_foldl_max {radix : ℕ} :
    ∀ {radixes : List ℕ} {least : ℕ}, radix ∈ radixes ∨ radix ≤ least →
      radix ≤ radixes.foldl max least
  | [], _, isThere => isThere.resolve_left List.not_mem_nil
  | first :: rest, least, isThere => by
    rw [List.foldl_cons]
    apply le_foldl_max
    cases isThere with
    | inl member =>
      cases member with
      | head => exact .inr (Nat.le_max_right least radix)
      | tail _ member => exact .inl member
    | inr small => exact .inr (small.trans (Nat.le_max_left least first))

theorem router_radix_le {node : ℕ} (isNode : node < c.num_nodes) :
    router_radix c node ≤ max_radix c :=
  le_foldl_max (.inl (List.mem_map_of_mem (List.mem_range.mpr isNode)))

theorem two_le_max_radix {node : ℕ} (isNode : node < c.num_nodes) : 2 ≤ max_radix c := by
  have small := router_radix_le isNode
  unfold router_radix at small
  omega

/-- A component has its number among those that are counted. -/
theorem countP_range_lt {p : ℕ → Bool} {num size : ℕ} (small : num < size) (holds : p num = true) :
    (List.range num).countP p < (List.range size).countP p := by
  have one : (List.range (num + 1)).countP p = (List.range num).countP p + 1 := by
    rw [List.range_succ, List.countP_append, List.countP_singleton, if_pos holds]
  have more : (List.range (num + 1)).countP p ≤ (List.range size).countP p :=
    (List.range_sublist.mpr small).countP_le
  omega

theorem mc_port_num_lt {num : ℕ} (isController : num < c.host.num_mcs) :
    mc_port_num c num < max_radix c := by
  have counted := countP_range_lt (p := fun other => c.mc_pos other = c.mc_pos num) isController
    (by simp)
  have radix := router_radix_le (c.mc_pos_lt num isController)
  unfold router_radix at radix
  unfold mc_port_num
  omega

theorem l2_port_num_lt {num : ℕ} (isCache : num < c.num_l2s) :
    l2_port_num c num < max_radix c := by
  have counted := countP_range_lt (p := fun other => c.l2_pos other = c.l2_pos num) isCache (by simp)
  have radix := router_radix_le (c.l2_pos_lt num isCache)
  unfold router_radix at radix
  unfold l2_port_num
  omega

/-- The queues of all nodes. -/
def keys (c : RingConfig) : Finset RingKey :=
  ((List.range c.num_nodes).flatMap (nodeKeys c 0)).toFinset

theorem mem_nodeKeys {token node : ℕ} {key : RingKey} :
    key ∈ nodeKeys c token node ↔ key.node = node ∧ key.port < max_radix c := by
  simp only [nodeKeys, List.mem_flatMap, List.mem_map, List.mem_rotate, List.mem_range]
  constructor
  · rintro ⟨_, -, port, isPort, rfl⟩
    exact ⟨rfl, isPort⟩
  · rintro ⟨rfl, isPort⟩
    exact ⟨key.priority, by cases key.priority <;> decide, key.port, isPort, rfl⟩

theorem mem_keys {key : RingKey} :
    key ∈ keys c ↔ key.node < c.num_nodes ∧ key.port < max_radix c := by
  simp only [keys, List.mem_toFinset, List.mem_flatMap, mem_nodeKeys, List.mem_range]
  constructor
  · rintro ⟨node, isNode, same, isPort⟩
    exact ⟨same ▸ isNode, isPort⟩
  · rintro ⟨isNode, isPort⟩
    exact ⟨key.node, isNode, rfl, isPort⟩

/-! ## The packets -/

/-- The position of the target of an event. -/
def targetOf (c : RingConfig) (priority : NocPriority) (event : NocEvent) : ℕ :=
  match target c priority event with
  | .ok target => target.target_pos
  | .error _ => 0

theorem Good.targetOf_lt {priority : NocPriority} {event : NocEvent} (good : Good c priority event) :
    targetOf c priority event < c.num_nodes := by
  obtain ⟨target, isTarget, inside⟩ := good
  rw [targetOf, isTarget]
  exact inside

/-- A hop of a queue is one towards the target. -/
theorem next_eq_some {key next : RingKey} {event : NocEvent}
    (isNext : (routing c).next key event = some next) :
    ∃ way router_pos port, nextHop c.num_nodes key.node (targetOf c key.priority event) =
        some (way, router_pos, port) ∧ next = ⟨key.priority, router_pos, port.port⟩ ∧
      (routing c).port key event = way.port := by
  simp only [routing] at isNext ⊢
  unfold targetOf
  cases isTarget : target c key.priority event with
  | error error =>
    rw [isTarget] at isNext
    cases isNext
  | ok target =>
    rw [isTarget] at isNext
    obtain ⟨hop, isHop, rfl⟩ := Option.map_eq_some_iff.mp isNext
    obtain ⟨way, router_pos, port⟩ := hop
    dsimp only at isHop ⊢
    exact ⟨way, router_pos, port, isHop, rfl, by rw [isHop]⟩

theorem next_eq_none {key : RingKey} {event : NocEvent} (good : Good c key.priority event)
    (isNext : (routing c).next key event = none) :
    nextHop c.num_nodes key.node (targetOf c key.priority event) = none := by
  obtain ⟨target, isTarget, -⟩ := good
  simp only [routing, isTarget] at isNext
  rw [targetOf, isTarget]
  exact Option.map_eq_none_iff.mp isNext

theorem port_lt_two (way : ring_dir) : way.port < 2 := by
  cases way <;> decide

/-- In a ring of at most `2 ^ 31` nodes every hop comes nearer to the target. -/
def carrier (c : RingConfig) (small : c.num_nodes ≤ 2 ^ 31) : Carrier (routing c) where
  keys := keys c
  good key event := Good c key.priority event
  first packet := startKey c packet.1 packet.2
  rank key event := hops c.num_nodes key.node (targetOf c key.priority event)
  hop := by
    intro key event next isKey good isNext
    obtain ⟨way, router_pos, port, hop, rfl, -⟩ := next_eq_some isNext
    have inside := (mem_keys.mp isKey).1
    obtain ⟨nextInside, isWay, nearer, -⟩ := nextHop_nearer small inside good.targetOf_lt hop
    refine ⟨mem_keys.mpr ⟨nextInside, ?_⟩, good, rfl, ?_⟩
    · exact (port_lt_two port).trans_le (two_le_max_radix nextInside)
    · have isHops := left_direction inside good.targetOf_lt
      rw [← isWay] at isHops
      have fewer : hops c.num_nodes router_pos (targetOf c key.priority event) ≤
          left c.num_nodes way router_pos (targetOf c key.priority event) := by
        cases way with
        | ring_cw => exact Nat.min_le_left _ _
        | ring_ccw => exact Nat.min_le_right _ _
      show hops c.num_nodes router_pos (targetOf c key.priority event) <
        hops c.num_nodes key.node (targetOf c key.priority event)
      omega

/-- The turns of a round. -/
def turns (c : RingConfig) (token : ℕ) : List (List RingKey) :=
  (List.range c.num_nodes).map (nodeKeys c token)

theorem mem_turns {token : ℕ} {key : RingKey} :
    key ∈ keys c ↔ ∃ queues ∈ turns c token, key ∈ queues := by
  simp only [turns, List.mem_map, List.mem_range, exists_exists_and_eq_and, mem_nodeKeys, mem_keys]
  constructor
  · rintro ⟨isNode, isPort⟩
    exact ⟨key.node, isNode, rfl, isPort⟩
  · rintro ⟨node, isNode, rfl, isPort⟩
    exact ⟨isNode, isPort⟩

section Rounds

variable {small : c.num_nodes ≤ 2 ^ 31}

/-- `process_qs`, in a state that is in order. -/
theorem process_qs_ok (curr_time : ℕ) {log : List RingSend} {s : Switching} {key : RingKey}
    (ok : (carrier c small).Ok (view log s)) (isKey : key ∈ keys c) :
    ∃ s', process_qs c curr_time s key = .ok s' ∧
      view log s' = (routing c).serve curr_time (view log s) key ∧ s'.ring.token = s.ring.token :=
  process_qs_serve log (ok.good key isKey)

/-- The round of a node is a turn. -/
theorem processNode_turn (curr_time : ℕ) {node : ℕ} (log : List RingSend) {s : Switching}
    (ok : (carrier c small).Ok (view log s)) (isNode : node < c.num_nodes) :
    ∃ s', processNode c curr_time s node = .ok s' ∧
      (view log s').fresh =
        (routing c).turn curr_time (view log s).fresh (nodeKeys c s.ring.token node) ∧
      s'.ring.token = s.ring.token := by
  have areKeys : ∀ key ∈ nodeKeys c s.ring.token node, key ∈ keys c := by
    intro key member
    obtain ⟨same, isPort⟩ := mem_nodeKeys.mp member
    exact mem_keys.mpr ⟨same ▸ isNode, isPort⟩
  obtain ⟨s', folded, isView, -, sameToken⟩ := foldlM_simulates (process_qs c curr_time)
    ((routing c).serve curr_time) (fun other t => view log other = t ∧ (carrier c small).Ok t ∧
      other.ring.token = s.ring.token)
    (nodeKeys c s.ring.token node)
    (s := { s with already_sent := fun _ => false }) ⟨rfl, ok.fresh, rfl⟩ (by
      rintro key member other t ⟨rfl, ok, sameToken⟩
      obtain ⟨s', processed, isView, kept⟩ :=
        process_qs_ok curr_time ok (areKeys key member)
      exact ⟨s', processed, isView, (ok.serve (areKeys key member) curr_time).1,
        kept.trans sameToken⟩)
  refine ⟨s', folded, ?_, sameToken⟩
  rw [isView]
  rfl

/-- `process_event` is a round. -/
theorem process_event_round (curr_time : ℕ) (log : List RingSend) {s : Ring}
    (ok : (carrier c small).Ok (view log { ring := s })) :
    ∃ s' delivered sends, process_event c s curr_time = .ok (s', delivered, sends) ∧
      (view (log ++ sends) { ring := s' }) =
        ((routing c).round curr_time (view log { ring := s }) (turns c s.token)).fresh := by
  obtain ⟨s', folded, isView, -, sameToken⟩ := foldlM_simulates (processNode c curr_time)
    (fun t node => (routing c).turn curr_time t (nodeKeys c s.token node)) (fun other t => (view log other).fresh = t ∧ (carrier c small).Ok t ∧
      other.ring.token = s.token)
    (List.range c.num_nodes) (s := { ring := s }) ⟨rfl, ok, rfl⟩ (by
      rintro node member other t ⟨rfl, ok, sameToken⟩
      have isNode := List.mem_range.mp member
      obtain ⟨s', processed, isView, kept⟩ :=
        processNode_turn curr_time log (s := other)
          ⟨ok.good, ok.counted⟩ isNode
      rw [sameToken] at isView
      refine ⟨s', processed, isView, (ok.turn ?_ curr_time).1, kept.trans sameToken⟩
      intro key isKey
      obtain ⟨same, isPort⟩ := mem_nodeKeys.mp isKey
      exact mem_keys.mpr ⟨same ▸ isNode, isPort⟩)
  refine ⟨{ s'.ring with token := (s'.ring.token + 1) % max_radix c }, s'.delivered, s'.sends,
    ?_, ?_⟩
  · rw [process_event, folded]
    rfl
  · have isRound : (routing c).round curr_time (view log { ring := s }) (turns c s.token) =
        (view log s').fresh := by
      rw [turns, Routing.round, List.foldl_map]
      exact isView.symm
    rw [isRound]
    simp only [view, Switches.fresh, List.append_nil]

end Rounds

end Ring

end ActiveRouting
