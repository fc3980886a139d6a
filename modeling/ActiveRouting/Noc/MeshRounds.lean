import ActiveRouting.Library.Outcome
import ActiveRouting.Library.Switches
import ActiveRouting.Noc.Agreement

/-!
# Rounds of the mesh

The mesh is a network of switches.  What it holds is what has been handed to it and
not been delivered, and every hop comes nearer to the target.
-/

namespace ActiveRouting

open Outcome Finset

namespace Mesh2D

variable (c : NocConfig)

/-! ## The queues -/

/-- The queues of all switches. -/
def keys : Finset MeshKey :=
  ((places c).flatMap fun place => switchKeys 0 place.1 place.2).toFinset

variable {c}

theorem mem_dirs (dir : mesh_dir) : dir ∈ dirs := by
  cases dir <;> decide

theorem mem_switchKeys {token row col : ℕ} {key : MeshKey} :
    key ∈ switchKeys token row col ↔ key.row = row ∧ key.col = col := by
  simp only [switchKeys, List.mem_flatMap, List.mem_map, List.mem_rotate]
  constructor
  · rintro ⟨_, -, _, -, rfl⟩
    exact ⟨rfl, rfl⟩
  · rintro ⟨rfl, rfl⟩
    exact ⟨key.priority, by cases key.priority <;> decide, key.dir, mem_dirs key.dir, rfl⟩

theorem mem_places {place : ℕ × ℕ} :
    place ∈ places c ↔ place.1 < c.num_rows ∧ place.2 < c.num_cols := by
  simp only [places, List.mem_flatMap, List.mem_map, List.mem_range]
  constructor
  · rintro ⟨row, isRow, col, isCol, rfl⟩
    exact ⟨isRow, isCol⟩
  · rintro ⟨isRow, isCol⟩
    exact ⟨place.1, isRow, place.2, isCol, rfl⟩

theorem mem_keys {key : MeshKey} : key ∈ keys c ↔ key.row < c.num_rows ∧ key.col < c.num_cols := by
  simp only [keys, List.mem_toFinset, List.mem_flatMap, mem_switchKeys]
  constructor
  · rintro ⟨place, isPlace, isRow, isCol⟩
    rw [isRow, isCol]
    exact mem_places.mp isPlace
  · intro inside
    exact ⟨(key.row, key.col), mem_places.mpr inside, rfl, rfl⟩

/-! ## The way to the target -/

/-- The hops from a switch to a place. -/
def distance (c : NocConfig) (key : MeshKey) (place : ℕ) : ℕ :=
  (key.row - place / c.num_cols) + (place / c.num_cols - key.row) +
    (key.col - place % c.num_cols) + (place % c.num_cols - key.col)

theorem place_inside {place : ℕ} (inside : place < c.num_rows * c.num_cols) :
    place / c.num_cols < c.num_rows ∧ place % c.num_cols < c.num_cols := by
  have pos : 0 < c.num_cols := by
    apply Nat.pos_of_ne_zero
    intro none
    simp [none] at inside
  exact ⟨Nat.div_lt_of_lt_mul (Nat.mul_comm _ _ ▸ inside), Nat.mod_lt _ pos⟩

theorem keyAt_mem (priority : NocPriority) {place : ℕ} (dir : mesh_dir)
    (inside : place < c.num_rows * c.num_cols) : keyAt c priority place dir ∈ keys c :=
  mem_keys.mpr (place_inside inside)

/-- A hop stays in the mesh and comes nearer to the target. -/
theorem nextHop_nearer {key next : MeshKey} {place : ℕ} {out : mesh_dir} (isKey : key ∈ keys c)
    (inside : place < c.num_rows * c.num_cols) (hop : nextHop c key place = some (out, next)) :
    next ∈ keys c ∧ next.priority = key.priority ∧
      distance c next place + 1 = distance c key place := by
  obtain ⟨isRow, isCol⟩ := mem_keys.mp isKey
  obtain ⟨targetRow, targetCol⟩ := place_inside inside
  unfold nextHop at hop
  dsimp only at hop
  split at hop
  · obtain ⟨-, rfl⟩ := Prod.mk.inj (Option.some.inj hop)
    refine ⟨mem_keys.mpr ⟨isRow, ?_⟩, rfl, ?_⟩
    · show key.col - 1 < _
      omega
    · simp only [distance]
      omega
  · split at hop
    · obtain ⟨-, rfl⟩ := Prod.mk.inj (Option.some.inj hop)
      refine ⟨mem_keys.mpr ⟨isRow, ?_⟩, rfl, ?_⟩
      · show key.col + 1 < _
        omega
      · simp only [distance]
        omega
    · split at hop
      · obtain ⟨-, rfl⟩ := Prod.mk.inj (Option.some.inj hop)
        refine ⟨mem_keys.mpr ⟨?_, isCol⟩, rfl, ?_⟩
        · show key.row - 1 < _
          omega
        · simp only [distance]
          omega
      · split at hop
        · obtain ⟨-, rfl⟩ := Prod.mk.inj (Option.some.inj hop)
          refine ⟨mem_keys.mpr ⟨?_, isCol⟩, rfl, ?_⟩
          · show key.row + 1 < _
            omega
          · simp only [distance]
            omega
        · cases hop

/-! ## The mesh as a network of switches -/

/-- The place of the switch at which an event leaves. -/
def placeOf (c : NocConfig) (priority : NocPriority) (event : NocEvent) : ℕ :=
  match target c priority event with
  | .ok target => target.place
  | .error _ => 0

/-- What the target of an event gets. -/
def deliveriesOf (c : NocConfig) (priority : NocPriority) (event : NocEvent) : List Delivery :=
  match target c priority event >>= fun target => arrive priority event target.component with
  | .ok deliveries => deliveries
  | .error _ => []

/-- An event has a target in the mesh that takes it. -/
def Good (c : NocConfig) (priority : NocPriority) (event : NocEvent) : Prop :=
  ∃ target deliveries, Mesh2D.target c priority event = .ok target ∧
    target.place < c.num_rows * c.num_cols ∧
    arrive priority event target.component = .ok deliveries

/-- What the mesh and its log are to a network of switches. -/
def view (log : List MeshSend) (s : Switching) : Switches MeshKey mesh_dir NocPriority NocEvent where
  qs := s.mesh.qs
  count := s.mesh.num_req_in_mesh
  used := s.already_sent
  sends := log ++ s.sends

def routing (c : NocConfig) : Routing MeshKey mesh_dir NocPriority NocEvent where
  label := MeshKey.priority
  port key event :=
    match target c key.priority event with
    | .error _ => .mesh_cluster
    | .ok target =>
      match nextHop c key target.place with
      | some (out, _) => out
      | none => slot target.component.type
  takes key event :=
    match target c key.priority event with
    | .error _ => true
    | .ok target =>
      match nextHop c key target.place with
      | some _ => true
      | none => takesSlot target.component.type
  next key event :=
    match target c key.priority event with
    | .error _ => none
    | .ok target => (nextHop c key target.place).map Prod.snd
  delay := c.sw_to_sw_t

theorem Good.placeOf_lt {priority : NocPriority} {event : NocEvent} (good : Good c priority event) :
    placeOf c priority event < c.num_rows * c.num_cols := by
  obtain ⟨target, deliveries, isTarget, inside, -⟩ := good
  rw [placeOf, isTarget]
  exact inside

/-- A hop of a queue is one towards the target. -/
theorem next_eq_some {key next : MeshKey} {event : NocEvent}
    (isNext : (routing c).next key event = some next) :
    ∃ out, nextHop c key (placeOf c key.priority event) = some (out, next) ∧
      (routing c).port key event = out := by
  simp only [routing] at isNext ⊢
  unfold placeOf
  cases isTarget : target c key.priority event with
  | error error =>
    rw [isTarget] at isNext
    cases isNext
  | ok target =>
    rw [isTarget] at isNext
    obtain ⟨hop, isHop, rfl⟩ := Option.map_eq_some_iff.mp isNext
    dsimp only at isHop ⊢
    exact ⟨hop.1, isHop, by rw [isHop]⟩

/-- Every hop comes nearer to the target. -/
def carrier (c : NocConfig) : Carrier (routing c) where
  keys := keys c
  good key event := Good c key.priority event
  first packet := startKey c packet.1 packet.2
  rank key event := distance c key (placeOf c key.priority event)
  hop := by
    intro key event next isKey good isNext
    obtain ⟨out, hop, -⟩ := next_eq_some isNext
    obtain ⟨isKey', samePriority, nearer⟩ := nextHop_nearer isKey good.placeOf_lt hop
    refine ⟨isKey', samePriority ▸ good, samePriority, ?_⟩
    show distance c next (placeOf c next.priority event) <
      distance c key (placeOf c key.priority event)
    rw [samePriority]
    omega

/-- What the targets of the packets get that have left. -/
def deliveredBy (c : NocConfig) (sends : List MeshSend) : List Delivery :=
  (Switches.departed sends).flatMap fun packet => deliveriesOf c packet.1 packet.2

theorem deliveredBy_hop (sends : List MeshSend) (key next : MeshKey) (out : mesh_dir)
    (packet : NocPriority × NocEvent) :
    deliveredBy c (sends ++ [⟨key, out, some next, packet⟩]) = deliveredBy c sends := by
  simp [deliveredBy, Switches.departed]

theorem deliveredBy_leave (sends : List MeshSend) (key : MeshKey) (out : mesh_dir)
    (packet : NocPriority × NocEvent) :
    deliveredBy c (sends ++ [⟨key, out, none, packet⟩]) =
      deliveredBy c sends ++ deliveriesOf c packet.1 packet.2 := by
  simp [deliveredBy, Switches.departed]

/-- What `process_qs` keeps besides the queues. -/
structure Along (c : NocConfig) (s s' : Switching) : Prop where
  token : s'.mesh.token = s.mesh.token
  delivered : s.delivered = deliveredBy c s.sends → s'.delivered = deliveredBy c s'.sends

theorem Along.refl (s : Switching) : Along c s s := ⟨rfl, id⟩

/-- `process_qs` serves a queue. -/
theorem process_qs_serve (curr_time : ℕ) (log : List MeshSend) {s : Switching} {key : MeshKey}
    (good : ∀ entry ∈ s.mesh.qs key, Good c key.priority entry.2) :
    ∃ s', process_qs c curr_time s key = .ok s' ∧
      view log s' = (routing c).serve curr_time (view log s) key ∧ Along c s s' := by
  unfold process_qs Routing.serve
  cases queue : s.mesh.qs key with
  | nil =>
    refine ⟨s, rfl, ?_, .refl s⟩
    simp only [view, queue]
  | cons entry rest =>
    obtain ⟨time, event⟩ := entry
    obtain ⟨target, deliveries, isTarget, -, arrives⟩ :=
      good (time, event) (queue ▸ List.mem_cons_self)
    simp only [view, queue]
    by_cases early : curr_time < time
    · simp only [if_pos early]
      exact ⟨s, rfl, rfl, .refl s⟩
    · simp only [if_neg early, isTarget, ok_bind, routing]
      cases hop : nextHop c key target.place with
      | some way =>
        obtain ⟨out, next⟩ := way
        dsimp only
        cases isUsed : s.already_sent out with
        | true =>
          simp only [if_true]
          exact ⟨s, rfl, rfl, .refl s⟩
        | false =>
          simp only [Bool.false_eq_true, if_false]
          refine ⟨_, rfl, ?_, rfl, fun before => ?_⟩
          · simp only [Routing.move, isTarget, hop, Option.map_some, Option.isNone_some,
              Bool.false_eq_true, if_false, if_true, Switching.hop, Mesh2D.insert,
              QueueTable.insert, List.append_assoc]
          · exact before.trans (deliveredBy_hop s.sends key next out _).symm
      | none =>
        dsimp only
        cases isUsed : s.already_sent (slot target.component.type) with
        | true =>
          simp only [if_true]
          exact ⟨s, rfl, rfl, .refl s⟩
        | false =>
          simp only [Bool.false_eq_true, if_false, arrives, ok_bind]
          refine ⟨_, rfl, ?_, rfl, fun before => ?_⟩
          · simp only [Routing.move, isTarget, hop, Option.map_none, Option.isNone_none, if_true,
              Switching.leave, List.append_assoc]
          · have isDelivered : deliveriesOf c key.priority event = deliveries := by
              rw [deliveriesOf, isTarget, ok_bind, arrives]
            show s.delivered ++ deliveries = deliveredBy c (s.sends ++ [_])
            rw [deliveredBy_leave, isDelivered, before]

/-! ## Turns and rounds -/

/-- The turns of a round. -/
def turns (c : NocConfig) (token : ℕ) : List (List MeshKey) :=
  (places c).map fun place => switchKeys token place.1 place.2

theorem mem_turns {token : ℕ} {key : MeshKey} :
    key ∈ keys c ↔ ∃ queues ∈ turns c token, key ∈ queues := by
  simp only [turns, List.mem_map, exists_exists_and_eq_and, mem_switchKeys, mem_keys]
  constructor
  · intro inside
    exact ⟨(key.row, key.col), mem_places.mpr inside, rfl, rfl⟩
  · rintro ⟨place, isPlace, isRow, isCol⟩
    rw [isRow, isCol]
    exact mem_places.mp isPlace

theorem switchKeys_mem {token : ℕ} {place : ℕ × ℕ} (isPlace : place ∈ places c) :
    ∀ key ∈ switchKeys token place.1 place.2, key ∈ keys c :=
  fun _ member => mem_turns.mpr ⟨_, List.mem_map_of_mem isPlace, member⟩

/-- A round of the mesh goes along with one of its network of switches. -/
structure Follows (c : NocConfig) (log : List MeshSend) (token : ℕ) (s : Switching)
    (t : Switches MeshKey mesh_dir NocPriority NocEvent) : Prop where
  view : view log s = t
  ok : (carrier c).Ok t
  token : s.mesh.token = token
  delivered : s.delivered = deliveredBy c s.sends

/-- The round of a switch is a turn. -/
theorem processSwitch_turn (curr_time : ℕ) {log : List MeshSend} {token : ℕ} {place : ℕ × ℕ}
    {s : Switching} {t : Switches MeshKey mesh_dir NocPriority NocEvent}
    (follows : Follows c log token { s with already_sent := fun _ => false } t)
    (isPlace : place ∈ places c) :
    ∃ s', processSwitch c curr_time s place = .ok s' ∧
      Follows c log token { s' with already_sent := fun _ => false }
        ((routing c).turn curr_time t (switchKeys token place.1 place.2)) := by
  obtain ⟨s', folded, follows'⟩ := foldlM_simulates (process_qs c curr_time)
    ((routing c).serve curr_time) (Follows c log token) (switchKeys token place.1 place.2)
    (s := { s with already_sent := fun _ => false }) (t := t.fresh)
    ⟨by rw [← follows.view]; rfl, follows.ok.fresh, follows.token, follows.delivered⟩ (by
      intro key member s t follows
      have isKey := switchKeys_mem isPlace key member
      have good : ∀ entry ∈ s.mesh.qs key, Good c key.priority entry.2 := by
        rw [show s.mesh.qs = t.qs from congrArg Switches.qs follows.view]
        exact follows.ok.good key isKey
      obtain ⟨s', processed, isView, along⟩ := process_qs_serve curr_time log good
      rw [follows.view] at isView
      exact ⟨s', processed, isView, (follows.ok.serve isKey curr_time).1,
        along.token.trans follows.token, along.delivered follows.delivered⟩)
  refine ⟨s', ?_, ?_, follows'.ok.fresh, follows'.token, follows'.delivered⟩
  · have sameToken : s.mesh.token = token := follows.token
    rw [processSwitch, sameToken]
    exact folded
  · rw [Routing.turn, ← follows'.view]
    rfl

/-- The rounds of all switches are a round. -/
theorem process_round_ok (curr_time : ℕ) (log : List MeshSend) {s : Mesh2D}
    (ok : (carrier c).Ok (view log { mesh := s })) :
    ∃ s', process_round c s curr_time = .ok s' ∧
      Follows c log s.token { s' with already_sent := fun _ => false }
        ((routing c).round curr_time (view log { mesh := s }) (turns c s.token)) := by
  obtain ⟨s', folded, follows⟩ := foldlM_simulates (processSwitch c curr_time)
    (fun t place => (routing c).turn curr_time t (switchKeys s.token place.1 place.2))
    (fun other t => Follows c log s.token { other with already_sent := fun _ => false } t)
    (places c) (s := { mesh := s }) (t := view log { mesh := s }) ⟨rfl, ok, rfl, rfl⟩
    (fun place isPlace other t follows => processSwitch_turn curr_time follows isPlace)
  refine ⟨s', folded, ?_⟩
  rw [turns, Routing.round, List.foldl_map]
  exact follows

/-! ## The state of the mesh -/

/-- The mesh and a log as a network of switches. -/
def network (s : Mesh2D) (log : List MeshSend) : Switches MeshKey mesh_dir NocPriority NocEvent where
  qs := s.qs
  count := s.num_req_in_mesh
  sends := log

theorem view_network (log : List MeshSend) (s : Mesh2D) : view log { mesh := s } = s.network log := by
  simp only [view, network, List.append_nil]

/-- A round of the mesh, with what it sends and delivers. -/
theorem process_round_network (curr_time : ℕ) (log : List MeshSend) {s : Mesh2D}
    (ok : (carrier c).Ok (s.network log)) :
    ∃ s', process_round c s curr_time = .ok s' ∧
      s'.finish.network (log ++ s'.sends) =
        (routing c).round curr_time (s.network log) (turns c s.token) ∧
      s'.delivered = deliveredBy c s'.sends := by
  have inOrder : (carrier c).Ok (view log { mesh := s }) := by
    rw [view_network]
    exact ok
  obtain ⟨s', processed, follows⟩ := process_round_ok curr_time log inOrder
  rw [view_network] at follows
  exact ⟨s', processed, follows.view, follows.delivered⟩

theorem startKey_priority (priority : NocPriority) (event : NocEvent) :
    (startKey c priority event).priority = priority := by
  cases priority with
  | noc_rep =>
    simp only [startKey]
    split <;> rfl
  | noc_crq => rfl
  | noc_req => rfl

theorem network_start : (carrier c).Ok (network {} []) :=
  ⟨fun _ _ _ h => (nomatch h), (QueueTable.load_empty _ _).symm⟩

theorem ok_addEvent {s : Mesh2D} {log : List MeshSend} {priority : NocPriority} {event : NocEvent}
    (ok : (carrier c).Ok (s.network log)) (event_time : ℕ)
    (isKey : startKey c priority event ∈ keys c) (good : Good c priority event) :
    (carrier c).Ok ((s.addEvent c priority event_time event).network log) := by
  refine ok.enter isKey ?_ _
  show Good c (startKey c priority event).priority event
  rw [startKey_priority]
  exact good

end Mesh2D

end ActiveRouting
