import ActiveRouting.Noc.Delivery

/-!
# Arbitration in the mesh

Runs of the mesh with any events: they go along the row and then along the column, none
is lost, and the mesh is woken as long as one is in it.  A slot of a switch is used once
in a round, unless an event for a core or a controller goes through it first.
-/

namespace ActiveRouting

open Outcome Transition

namespace Mesh2D

/-- A round: its time, the mesh before it, and what the switches have sent. -/
structure Round where
  time : ℕ
  before : Mesh2D
  sends : List MeshSend

/-- The mesh, its times in the global event queue, the events that have been handed to it,
    and its rounds. -/
structure Traffic where
  mesh : Mesh2D := {}
  times : Finset ℕ := ∅
  handed : List (NocPriority × NocEvent) := []
  rounds : List Round := []

def Traffic.sends (s : Traffic) : List MeshSend := s.rounds.flatMap Round.sends

inductive Action where
  | hand (priority : NocPriority) (event_time : ℕ) (event : NocEvent)
  | process (time : ℕ)

variable (c : NocConfig)

def step (s : Traffic) : Action → Except NocError Traffic
  | .hand priority event_time event =>
    pure { s with
      mesh := s.mesh.addEvent c priority event_time event
      times := Insert.insert (c.alignTime event_time) s.times
      handed := s.handed ++ [(priority, event)] }
  | .process time => do
    let round ← process_round c s.mesh time
    pure { s with
      mesh := round.finish
      times := QueueTable.nextTimes round.finish.again c.process_interval s.times time
      rounds := s.rounds ++ [⟨time, s.mesh, round.sends⟩] }

/-- An event comes from a switch of the mesh, and has a target there that takes it. -/
def Promised (priority : NocPriority) (event : NocEvent) : Prop :=
  startKey c priority event ∈ keys c ∧ Good c priority event

def Guard (s : Traffic) (action : Action) (_ : Traffic) : Prop :=
  match action with
  | .hand priority _ event => Promised c priority event
  | .process time => time ∈ s.times ∧ ∀ other ∈ s.times, time ≤ other

abbrev Reaches (first : Traffic) (actions : List Action) (last : Traffic) : Prop :=
  Run (step c) (Guard c) first actions last

/-! ## Along the row and then along the column -/

def gap (from_pos to_pos : ℕ) : ℕ := (from_pos - to_pos) + (to_pos - from_pos)

/-- The position after some hops towards another one. -/
def toward (from_pos to_pos hops : ℕ) : ℕ :=
  if to_pos < from_pos then from_pos - hops else from_pos + hops

def rowWay (key : MeshKey) (place : ℕ) : mesh_dir :=
  if place % c.num_cols < key.col then .mesh_west else .mesh_east

def colWay (key : MeshKey) (place : ℕ) : mesh_dir :=
  if place / c.num_cols < key.row then .mesh_north else .mesh_south

/-- The slots that an event uses from a queue to the switch of its target. -/
def xyWay (key : MeshKey) (place : ℕ) : List mesh_dir :=
  List.replicate (gap key.col (place % c.num_cols)) (rowWay c key place) ++
    List.replicate (gap key.row (place / c.num_cols)) (colWay c key place)

/-- An event has come from its first queue by some hops along the row and then by some
    along the column. -/
structure OnItsWay (first : MeshKey) (place : ℕ) (key : MeshKey) (outs : List mesh_dir)
    (x y : ℕ) : Prop where
  priority : key.priority = first.priority
  outs : outs = List.replicate x (rowWay c first place) ++ List.replicate y (colWay c first place)
  x_le : x ≤ gap first.col (place % c.num_cols)
  y_le : y ≤ gap first.row (place / c.num_cols)
  rowFirst : y = 0 ∨ x = gap first.col (place % c.num_cols)
  col : key.col = toward first.col (place % c.num_cols) x
  row : key.row = toward first.row (place / c.num_cols) y

def XThenY (first : MeshKey) (place : ℕ) (key : MeshKey) (outs : List mesh_dir) : Prop :=
  ∃ x y, OnItsWay c first place key outs x y

variable {c} {first key next : MeshKey} {place x y : ℕ} {outs : List mesh_dir} {out : mesh_dir}

theorem OnItsWay.start (c : NocConfig) (first : MeshKey) (place : ℕ) :
    OnItsWay c first place first [] 0 0 where
  priority := rfl
  outs := rfl
  x_le := Nat.zero_le _
  y_le := Nat.zero_le _
  rowFirst := .inl rfl
  col := by unfold toward; split <;> omega
  row := by unfold toward; split <;> omega

theorem OnItsWay.hop (onWay : OnItsWay c first place key outs x y)
    (hop : nextHop c key place = some (out, next)) :
    XThenY c first place next (outs ++ [out]) := by
  obtain ⟨priority, rfl, x_le, y_le, rowFirst, col, row⟩ := onWay
  unfold gap at x_le y_le rowFirst
  unfold toward at col row
  unfold nextHop at hop
  dsimp only at hop
  have atEnd : ∀ {slots : List mesh_dir} {slot}, slots ++ List.replicate 0 slot = slots :=
    List.append_nil _
  have inRow := Nat.zero_le (place / c.num_cols)
  split at hop
  · -- westwards
    obtain ⟨rfl, rfl⟩ := Prod.mk.inj (Option.some.inj hop)
    have isWest : place % c.num_cols < first.col := by split at col <;> omega
    rw [if_pos isWest] at col
    have none : y = 0 := by omega
    subst none
    refine ⟨x + 1, 0, priority, ?_, by unfold gap; omega, Nat.zero_le _, .inl rfl, ?_, row⟩
    · rw [rowWay, if_pos isWest, atEnd, atEnd, List.replicate_succ']
    · show key.col - 1 = _
      unfold toward
      rw [if_pos isWest]
      omega
  · split at hop
    · -- eastwards
      obtain ⟨rfl, rfl⟩ := Prod.mk.inj (Option.some.inj hop)
      have notWest : ¬ place % c.num_cols < first.col := by split at col <;> omega
      rw [if_neg notWest] at col
      have none : y = 0 := by omega
      subst none
      refine ⟨x + 1, 0, priority, ?_, by unfold gap; omega, Nat.zero_le _, .inl rfl, ?_, row⟩
      · rw [rowWay, if_neg notWest, atEnd, atEnd, List.replicate_succ']
      · show key.col + 1 = _
        unfold toward
        rw [if_neg notWest]
        omega
    · -- the column of the target
      have all : x = first.col - place % c.num_cols + (place % c.num_cols - first.col) := by
        split at col <;> omega
      split at hop
      · -- northwards
        obtain ⟨rfl, rfl⟩ := Prod.mk.inj (Option.some.inj hop)
        have isNorth : place / c.num_cols < first.row := by split at row <;> omega
        rw [if_pos isNorth] at row
        refine ⟨x, y + 1, priority, ?_, x_le, by unfold gap; omega, .inr all, col, ?_⟩
        · rw [colWay, if_pos isNorth, List.replicate_succ', List.append_assoc]
        · show key.row - 1 = _
          unfold toward
          rw [if_pos isNorth]
          omega
      · split at hop
        · -- southwards
          obtain ⟨rfl, rfl⟩ := Prod.mk.inj (Option.some.inj hop)
          have notNorth : ¬ place / c.num_cols < first.row := by split at row <;> omega
          rw [if_neg notNorth] at row
          refine ⟨x, y + 1, priority, ?_, x_le, by unfold gap; omega, .inr all, col, ?_⟩
          · rw [colWay, if_neg notNorth, List.replicate_succ', List.append_assoc]
          · show key.row + 1 = _
            unfold toward
            rw [if_neg notNorth]
            omega
        · cases hop

/-- Where an event hops no further, it has come the whole way. -/
theorem OnItsWay.arrived (onWay : OnItsWay c first place key outs x y)
    (stops : nextHop c key place = none) :
    key.row = place / c.num_cols ∧ key.col = place % c.num_cols ∧ outs = xyWay c first place := by
  obtain ⟨-, rfl, x_le, y_le, -, col, row⟩ := onWay
  unfold gap at x_le y_le
  unfold toward at col row
  unfold nextHop at stops
  dsimp only at stops
  have inRow := Nat.zero_le (place / c.num_cols)
  split at stops
  · cases stops
  · split at stops
    · cases stops
    · split at stops
      · cases stops
      · split at stops
        · cases stops
        · have allX : x = gap first.col (place % c.num_cols) := by
            unfold gap
            split at col <;> omega
          have allY : y = gap first.row (place / c.num_cols) := by
            unfold gap
            split at row <;> omega
          exact ⟨by omega, by omega, by rw [xyWay, allX, allY]⟩

/-! ## Ports of a round -/

theorem dirs_nodup : dirs.Nodup := by decide

theorem switchKeys_nodup (token row col : ℕ) : (switchKeys token row col).Nodup := by
  have injective : ∀ priority, Function.Injective fun dir => MeshKey.mk priority row col dir :=
    fun _ _ _ same => (MeshKey.mk.inj same).2.2.2
  refine List.nodup_flatMap.mpr ⟨?_, ?_⟩
  · intro priority _
    exact (List.nodup_rotate.mpr dirs_nodup).map (injective priority)
  · refine List.Pairwise.imp ?_ (by decide : [NocPriority.noc_rep, .noc_crq, .noc_req].Nodup)
    intro first second different
    refine List.disjoint_left.mpr fun key isFirst isSecond => different ?_
    obtain ⟨_, -, rfl⟩ := List.mem_map.mp isFirst
    obtain ⟨_, -, same⟩ := List.mem_map.mp isSecond
    exact (MeshKey.mk.inj same).1.symm

theorem places_nodup (c : NocConfig) : (places c).Nodup := by
  refine List.nodup_flatMap.mpr ⟨?_, ?_⟩
  · intro row _
    exact List.nodup_range.map fun _ _ same => (Prod.mk.inj same).2
  · refine List.nodup_range.imp ?_
    intro first second different
    refine List.disjoint_left.mpr fun place isFirst isSecond => different ?_
    obtain ⟨_, -, rfl⟩ := List.mem_map.mp isFirst
    obtain ⟨_, -, same⟩ := List.mem_map.mp isSecond
    exact (Prod.mk.inj same).1.symm

/-- The switch of a queue. -/
def site (key : MeshKey) : ℕ × ℕ := (key.row, key.col)

theorem site_of_nextHop (isKey : key ∈ keys c) (inside : place < c.num_rows * c.num_cols)
    (hop : nextHop c key place = some (out, next)) : site next ≠ site key := by
  intro same
  obtain ⟨-, -, nearer⟩ := nextHop_nearer isKey inside hop
  obtain ⟨sameRow, sameCol⟩ := Prod.mk.inj same
  rw [distance, distance, sameRow, sameCol] at nearer
  omega

/-- The turns of a round are clear: of the heads of queues that ask a switch for one slot,
    the first takes it. -/
def Round.Clear (c : NocConfig) (round : Round) : Prop :=
  Carrier.RoundClear (routing c) round.time (round.before.network []) (turns c round.before.token)

/-- Each switch sends at most one event through each of its slots. -/
def Round.Exclusive (round : Round) : Prop := Carrier.Exclusive site round.sends

/-- The slots of a round. -/
theorem process_round_exclusive {s : Mesh2D} {round : Switching} {time : ℕ}
    (ok : (carrier c).Ok (s.network [])) (processed : process_round c s time = .ok round) :
    Round.Exclusive ⟨time, s, round.sends⟩ ↔ Round.Clear c ⟨time, s, round.sends⟩ := by
  obtain ⟨_, processed', isNetwork, -⟩ := process_round_network time [] ok
  obtain rfl := Except.ok.inj (processed.symm.trans processed')
  have atSite : ∀ place, ∀ key ∈ switchKeys s.token place.1 place.2, site key = place := by
    intro place key isKey
    obtain ⟨isRow, isCol⟩ := mem_switchKeys.mp isKey
    rw [site, isRow, isCol]
  have away : ∀ {key packet next}, key ∈ (carrier c).keys → (carrier c).good key packet →
      (routing c).next key packet = some next → site next ≠ site key := by
    intro key packet next isKey good isNext
    obtain ⟨_, hop, -⟩ := next_eq_some isNext
    exact site_of_nextHop isKey good.placeOf_lt hop
  obtain ⟨sends, isSends, exclusive, -⟩ :=
    ok.round_ports (fun place => switchKeys s.token place.1 place.2)
      (fun place => switchKeys_nodup s.token place.1 place.2) atSite away time
      (fun place (isPlace : place ∈ places c) => switchKeys_mem isPlace) (places_nodup c)
  have same : round.sends = sends := (congrArg Switches.sends isNetwork).trans isSends
  rw [Round.Exclusive, same]
  exact exclusive

/-! ## Runs -/

/-- What holds of the mesh after every run. -/
structure Inv (c : NocConfig) (s : Traffic) : Prop where
  ok : (carrier c).Ok (s.mesh.network s.sends)
  told : (carrier c).Told (s.mesh.network s.sends)
  balance : ∀ w, (carrier c).total w (s.mesh.network s.sends) = (s.handed.map w).sum
  woken : 0 < s.mesh.num_req_in_mesh → s.times.Nonempty
  exclusive : ∀ round ∈ s.rounds, round.Exclusive ↔ round.Clear c

variable {s : Traffic}

theorem Inv.start (c : NocConfig) : Inv c {} where
  ok := network_start
  told := by
    refine ⟨fun _ h => (nomatch h), ?_, fun _ h => (nomatch h)⟩
    rintro key packet ⟨-, -, due, member⟩
    cases member
  balance w := congrArg (· + 0) (QueueTable.load_empty _ _)
  woken busy := absurd busy (Nat.lt_irrefl 0)
  exclusive _ h := (nomatch h)

theorem Inv.hand {priority : NocPriority} {event : NocEvent} (inv : Inv c s) (event_time : ℕ)
    (promised : Promised c priority event) :
    Inv c { s with
      mesh := s.mesh.addEvent c priority event_time event
      times := Insert.insert (c.alignTime event_time) s.times
      handed := s.handed ++ [(priority, event)] } := by
  obtain ⟨isKey, good⟩ := promised
  have isLabel : (routing c).label (startKey c priority event) = priority :=
    startKey_priority priority event
  refine ⟨ok_addEvent inv.ok event_time isKey good, ?_, ?_, fun _ => Finset.insert_nonempty _ _,
    inv.exclusive⟩
  · refine inv.told.enter ?_
    show startKey c ((routing c).label (startKey c priority event)) event = _
    rw [isLabel]
  · intro w
    have entered := (carrier c).total_enter (s.mesh.network s.sends) event isKey
      (c.alignTime event_time) w
    rw [isLabel, inv.balance w] at entered
    rw [List.map_append, List.sum_append, List.map_singleton, List.sum_singleton]
    exact entered

theorem sends_append (s : Traffic) (round : Round) :
    (s.rounds ++ [round]).flatMap Round.sends = s.sends ++ round.sends := by
  simp [Traffic.sends]

/-- The round at the first time. -/
theorem Inv.process {time : ℕ} (inv : Inv c s) (isTime : time ∈ s.times) :
    ∃ s', step c s (.process time) = .ok s' ∧ Inv c s' ∧ s'.handed = s.handed ∧
      (carrier c).wakeRank c.process_interval s'.times (s'.mesh.network s'.sends) <
        (carrier c).wakeRank c.process_interval s.times (s.mesh.network s.sends) := by
  obtain ⟨round, processed, isNetwork, -⟩ := process_round_network time s.sends inv.ok
  have areKeys : ∀ queues ∈ turns c s.mesh.token, ∀ key ∈ queues, key ∈ keys c :=
    fun queues member key isKey => mem_turns.mpr ⟨queues, member, isKey⟩
  obtain ⟨ok, told, keeps, -⟩ := inv.ok.round areKeys time
  have falls := inv.ok.round_rank round.finish.again (fun key => mem_turns)
    c.process_interval_pos isTime fun busy => by
      rw [← isNetwork]
      exact of_decide_eq_true busy
  rw [← isNetwork] at ok told keeps falls
  have logged := sends_append s ⟨time, s.mesh, round.sends⟩
  refine ⟨{ s with
      mesh := round.finish
      times := QueueTable.nextTimes round.finish.again c.process_interval s.times time
      rounds := s.rounds ++ [⟨time, s.mesh, round.sends⟩] }, ?_, ⟨?_, ?_, ?_, ?_, ?_⟩, rfl, ?_⟩
  · rw [step, processed]
    rfl
  · exact ⟨ok.good, ok.counted⟩
  · rw [Traffic.sends, logged]
    exact told inv.told
  · intro w
    rw [Traffic.sends, logged]
    exact (keeps w).trans (inv.balance w)
  · intro busy
    have again : round.finish.again = true := decide_eq_true busy
    rw [again]
    exact Finset.insert_nonempty _ _
  · intro other member
    cases List.mem_append.mp member with
    | inl wasThere => exact inv.exclusive other wasThere
    | inr isNew =>
      rw [List.mem_singleton.mp isNew]
      exact process_round_exclusive ⟨inv.ok.good, inv.ok.counted⟩ processed
  · rw [Traffic.sends, logged]
    exact falls

theorem Inv.run {actions : List Action} (run : Reaches c {} actions s) : Inv c s := by
  refine run.invariant (.start c) ?_
  intro s action s' inv stepped guarded
  cases action with
  | hand priority event_time event =>
    obtain rfl := pure_eq_ok.mp stepped
    exact inv.hand event_time guarded
  | process time =>
    obtain ⟨s'', stepped', inv', -, -⟩ := inv.process guarded.1
    exact Except.ok.inj (stepped.symm.trans stepped') ▸ inv'

/-- The mesh goes on as long as it has times. -/
theorem Inv.rests_or_moves {handed : List (NocPriority × NocEvent)} (inv : Inv c s)
    (sameHanded : s.handed = handed) :
    s.times = ∅ ∨ ∃ action s', step c s action = .ok s' ∧ Guard c s action s' ∧
      (Inv c s' ∧ s'.handed = handed) ∧
        (carrier c).wakeRank c.process_interval s'.times (s'.mesh.network s'.sends) <
          (carrier c).wakeRank c.process_interval s.times (s.mesh.network s.sends) := by
  cases s.times.eq_empty_or_nonempty with
  | inl isEmpty => exact .inl isEmpty
  | inr nonempty =>
    have isTime := s.times.min'_mem nonempty
    obtain ⟨s', stepped, inv', same, falls⟩ := inv.process isTime
    exact .inr ⟨_, s', stepped, ⟨isTime, s.times.min'_le⟩, ⟨inv', same.trans sameHanded⟩, falls⟩

/-- The rounds that follow empty the mesh. -/
theorem Inv.drains (inv : Inv c s) :
    ∃ actions s', Reaches c s actions s' ∧ s'.handed = s.handed ∧
      (Switches.departed s'.sends).Perm s.handed := by
  let rank := fun other : Traffic =>
    (carrier c).wakeRank c.process_interval other.times (other.mesh.network other.sends)
  have drained : ∃ actions s', Reaches c s actions s' ∧
      (Inv c s' ∧ s'.handed = s.handed) ∧ s'.times = ∅ :=
    Run.exists_rest rank (fun _ holds => holds.1.rests_or_moves holds.2) ⟨inv, rfl⟩
  obtain ⟨actions, s', run, ⟨inv', sameHanded⟩, rests⟩ := drained
  refine ⟨actions, s', run, sameHanded, Carrier.count_of_sums fun w => ?_⟩
  have empty : s'.mesh.num_req_in_mesh = 0 := by
    by_contra busy
    exact Finset.not_nonempty_empty (rests ▸ inv'.woken (Nat.pos_of_ne_zero busy))
  rw [← sameHanded, ← inv'.balance w]
  exact (inv'.ok.total_rest empty w).symm

/-! ## Arbitration -/

/-- The queue in which a packet starts. -/
def firstKey (c : NocConfig) (packet : NocPriority × NocEvent) : MeshKey :=
  startKey c packet.1 packet.2

/-- An event is in a queue of the mesh. -/
def Queued (c : NocConfig) (s : Mesh2D) (key : MeshKey) (packet : NocPriority × NocEvent) : Prop :=
  key ∈ keys c ∧ packet.1 = key.priority ∧ ∃ due, (due, packet.2) ∈ s.qs key

/-- How often an event is in the queues of the mesh. -/
def waiting (c : NocConfig) (s : Mesh2D) (packet : NocPriority × NocEvent) : ℕ :=
  ∑ key ∈ keys c, ((s.qs key).map fun entry => (key.priority, entry.2)).count packet

/-- Every event goes along the row and then along the column to the switch of its target,
    none is lost or duplicated, the mesh counts its events and is woken while it holds one,
    and a round uses no slot of a switch twice. -/
structure Arbitrates (c : NocConfig) (s : Traffic) : Prop where
  traced : Traced s.sends (firstKey c) (Queued c s.mesh)
  xThenY : ∀ packet key outs target, Trail s.sends packet (firstKey c packet) key outs →
    Mesh2D.target c packet.1 packet.2 = .ok target →
    XThenY c (firstKey c packet) target.place key outs
  leaves : ∀ send ∈ s.sends, send.next = none →
    ∃ target, Mesh2D.target c send.packet.1 send.packet.2 = .ok target ∧
      send.key.row = target.place / c.num_cols ∧ send.key.col = target.place % c.num_cols ∧
      send.out = slot target.component.type ∧
      ∀ outs, Trail s.sends send.packet (firstKey c send.packet) send.key outs →
        outs = xyWay c (firstKey c send.packet) target.place ∧
        outs.length = gap (firstKey c send.packet).col (target.place % c.num_cols) +
          gap (firstKey c send.packet).row (target.place / c.num_cols)
  counted : s.mesh.num_req_in_mesh = ∑ key ∈ keys c, (s.mesh.qs key).length
  again : s.mesh.again = true ↔ ∃ key ∈ keys c, s.mesh.qs key ≠ []
  woken : s.mesh.again = true → s.times.Nonempty
  kept : ∀ packet, s.handed.count packet =
    waiting c s.mesh packet + (Switches.departed s.sends).count packet
  arrives : ∃ actions s', Reaches c s actions s' ∧ s'.handed = s.handed ∧
    (Switches.departed s'.sends).Perm s.handed
  exclusive : ∀ round ∈ s.rounds, round.Exclusive

theorem length_xyWay (c : NocConfig) (key : MeshKey) (place : ℕ) :
    (xyWay c key place).length =
      gap key.col (place % c.num_cols) + gap key.row (place / c.num_cols) := by
  simp [xyWay]

theorem next_eq_none {key : MeshKey} {event : NocEvent} {target : MeshTarget}
    (isTarget : Mesh2D.target c key.priority event = .ok target)
    (isNext : (routing c).next key event = none) :
    nextHop c key target.place = none ∧ (routing c).port key event = slot target.component.type := by
  simp only [routing, isTarget, Option.map_eq_none_iff] at isNext ⊢
  rw [isNext]
  exact ⟨rfl, rfl⟩

/-- An event on a trail is on its way. -/
theorem Inv.onItsWay (inv : Inv c s) {packet : NocPriority × NocEvent} {key : MeshKey}
    {outs : List mesh_dir} {target : MeshTarget}
    (trail : Trail s.sends packet (firstKey c packet) key outs)
    (isTarget : Mesh2D.target c packet.1 packet.2 = .ok target) :
    XThenY c (firstKey c packet) target.place key outs := by
  refine trail.induct ⟨0, 0, .start c _ _⟩ ?_
  rintro send member isPacket next isNext outs ⟨x, y, onWay⟩
  have routed := inv.told.routed send member
  have isHop : (routing c).next send.key packet.2 = some next := by
    rw [← isNext, routed.next, isPacket]
  have isPriority : packet.1 = send.key.priority := by
    rw [← isPacket]
    exact routed.label
  obtain ⟨out, hop, isOut⟩ := next_eq_some isHop
  rw [← isPriority, placeOf, isTarget] at hop
  rw [routed.out, isPacket, isOut]
  exact onWay.hop hop

theorem length_load (c : NocConfig) (qs : MeshKey → List (ℕ × NocEvent)) :
    QueueTable.load (keys c) (fun _ _ => 1) qs = ∑ key ∈ keys c, (qs key).length :=
  Finset.sum_congr rfl fun key _ => by simp [QueueTable.weigh]

theorem Inv.arbitrates (inv : Inv c s) (exclusive : ∀ round ∈ s.rounds, round.Exclusive) :
    Arbitrates c s := by
  have counted : s.mesh.num_req_in_mesh = ∑ key ∈ keys c, (s.mesh.qs key).length :=
    inv.ok.counted.trans (length_load c s.mesh.qs)
  refine ⟨inv.told.traced, fun _ _ _ _ => inv.onItsWay, ?_, counted, ?_, ?_, ?_, inv.drains,
    exclusive⟩
  · intro send member stops
    have routed := inv.told.routed send member
    have good : Good c send.key.priority send.packet.2 := routed.good
    have label : send.packet.1 = send.key.priority := routed.label
    obtain ⟨target, -, isTarget, -, -⟩ := good
    obtain ⟨noHop, isSlot⟩ := next_eq_none isTarget (routed.next.symm.trans stops)
    rw [← label] at isTarget
    have arrived : ∀ outs, Trail s.sends send.packet (firstKey c send.packet) send.key outs →
        send.key.row = target.place / c.num_cols ∧ send.key.col = target.place % c.num_cols ∧
          outs = xyWay c (firstKey c send.packet) target.place := by
      intro outs trail
      obtain ⟨x, y, onWay⟩ := inv.onItsWay trail isTarget
      exact onWay.arrived noHop
    obtain ⟨outs, trail⟩ := inv.told.traced.sent send member
    obtain ⟨isRow, isCol, -⟩ := arrived outs trail
    refine ⟨target, isTarget, isRow, isCol, routed.out.trans isSlot, fun outs trail => ?_⟩
    obtain ⟨-, -, isWay⟩ := arrived outs trail
    exact ⟨isWay, isWay ▸ length_xyWay c _ _⟩
  · rw [again, decide_eq_true_eq, counted, Finset.sum_pos_iff]
    simp only [List.length_pos_iff]
  · exact fun busy => inv.woken (of_decide_eq_true busy)
  · intro packet
    have balance := inv.balance fun other => if other = packet then 1 else 0
    rw [Carrier.total_indicator, Carrier.sum_indicator] at balance
    exact balance.symm

/-- The mesh arbitrates exactly where the turns of its rounds are clear. -/
theorem arbitrates_iff {actions : List Action} (run : Reaches c {} actions s) :
    Arbitrates c s ↔ ∀ round ∈ s.rounds, round.Clear c := by
  have inv := Inv.run run
  constructor
  · intro arbitrates round member
    exact (inv.exclusive round member).mp (arbitrates.exclusive round member)
  · intro clear
    exact inv.arbitrates fun round member => (inv.exclusive round member).mpr (clear round member)

/-! ## Two events for one cluster -/

open NoC (fourCores coreZero)

/-- The reply of a controller to a core. -/
def gatherReply : NocEvent :=
  ⟨{ id := 1, type := .et_art_get, from_stack := [coreZero] }, ⟨.ct_hmc_controller, 0⟩⟩

/-- The request of a directory to the cache of the same cluster. -/
def invalidation : NocEvent :=
  ⟨{ id := 2, type := .et_invalidate, from_stack := [⟨.ct_cachel2, 0⟩, ⟨.ct_directory, 0⟩] },
    ⟨.ct_directory, 0⟩⟩

theorem promised_gatherReply : Promised fourCores .noc_rep gatherReply :=
  ⟨mem_keys.mpr (by decide), _, _, rfl, by decide, rfl⟩

theorem promised_invalidation : Promised fourCores .noc_crq invalidation :=
  ⟨mem_keys.mpr (by decide), _, _, rfl, by decide, rfl⟩

/-- The request of a directory to the cache of the cluster to the east. -/
def eastInvalidation : NocEvent :=
  ⟨{ id := 2, type := .et_invalidate, from_stack := [⟨.ct_cachel2, 1⟩, ⟨.ct_directory, 0⟩] },
    ⟨.ct_directory, 0⟩⟩

theorem promised_eastInvalidation : Promised fourCores .noc_crq eastInvalidation :=
  ⟨mem_keys.mpr (by decide), _, _, rfl, by decide, rfl⟩

/-- The mesh with the events of a list, at time 0. -/
def handedAll (events : List (NocPriority × NocEvent)) : Traffic :=
  events.foldl (fun s event => {
    mesh := s.mesh.addEvent fourCores event.1 0 event.2
    times := Insert.insert 0 s.times
    handed := s.handed ++ [event] }) {}

/-- A round at time 0. -/
theorem process_zero {s : Traffic} {actions : List Action} (run : Reaches fourCores {} actions s)
    (isTime : 0 ∈ s.times) :
    ∃ round s', process_round fourCores s.mesh 0 = .ok round ∧
      Reaches fourCores {} (actions ++ [.process 0]) s' ∧ s'.handed = s.handed ∧
      s'.rounds = s.rounds ++ [⟨0, s.mesh, round.sends⟩] := by
  obtain ⟨round, processed, -⟩ := process_round_network 0 s.sends (Inv.run run).ok
  have stepped : step fourCores s (.process 0) = .ok { s with
      mesh := round.finish
      times := QueueTable.nextTimes round.finish.again 10 s.times 0
      rounds := s.rounds ++ [⟨0, s.mesh, round.sends⟩] } := by
    rw [step, processed]
    rfl
  exact ⟨round, _, processed, run.next stepped ⟨isTime, fun _ _ => Nat.zero_le _⟩, rfl, rfl⟩

theorem reaches_gatherReply : Reaches fourCores {} [.hand .noc_rep 0 gatherReply]
    (handedAll [(.noc_rep, gatherReply)]) :=
  .next (.start _) rfl promised_gatherReply

/-- The reply and the request leave the switch in one round by different slots. -/
theorem arbitrates_iff_gatherReply :
    ∃ actions s round, Reaches fourCores {} actions s ∧
      s.handed = [(.noc_rep, gatherReply), (.noc_crq, eastInvalidation)] ∧ s.rounds = [round] ∧
      round.sends.map Send.out = [.mesh_cluster, .mesh_east] ∧ Arbitrates fourCores s := by
  have run : Reaches fourCores {} [.hand .noc_rep 0 gatherReply, .hand .noc_crq 0 eastInvalidation]
      (handedAll [(.noc_rep, gatherReply), (.noc_crq, eastInvalidation)]) :=
    reaches_gatherReply.next rfl promised_eastInvalidation
  obtain ⟨round, s', processed, run', isHanded, isRound⟩ := process_zero run (by decide)
  have evaluated : (process_round fourCores
      (handedAll [(.noc_rep, gatherReply), (.noc_crq, eastInvalidation)]).mesh 0).toOption.map
        (fun round => round.sends.map Send.out) = some [.mesh_cluster, .mesh_east] := by
    decide +kernel
  rw [processed] at evaluated
  have outs : round.sends.map Send.out = [.mesh_cluster, .mesh_east] := Option.some.inj evaluated
  refine ⟨_, s', _, run', isHanded, isRound, outs, (arbitrates_iff run').mpr fun other member => ?_⟩
  refine ((Inv.run run').exclusive other member).mp fun place => ?_
  obtain rfl := List.mem_singleton.mp (isRound ▸ member)
  have distinct : (round.sends.map Send.out).Nodup := outs ▸ by decide
  exact distinct.sublist (List.filter_sublist.map Send.out)

/-- The reply leaves by the slot of the cluster and does not take it, so that the request
    leaves by it too. -/
theorem two_through_cluster :
    ∃ actions s, Reaches fourCores {} actions s ∧
      s.handed = [(.noc_rep, gatherReply), (.noc_crq, invalidation)] ∧
      (∀ handed ∈ s.handed, fourCores.Hands handed.1 handed.2) ∧ ¬ Arbitrates fourCores s := by
  have run : Reaches fourCores {} [.hand .noc_rep 0 gatherReply, .hand .noc_crq 0 invalidation]
      (handedAll [(.noc_rep, gatherReply), (.noc_crq, invalidation)]) :=
    reaches_gatherReply.next rfl promised_invalidation
  obtain ⟨round, s', processed, run', isHanded, isRound⟩ := process_zero run (by decide)
  have evaluated : (process_round fourCores
      (handedAll [(.noc_rep, gatherReply), (.noc_crq, invalidation)]).mesh 0).toOption.map
        (fun round => (round.sends.filter fun send => site send.key = (0, 0)).map Send.out) =
      some [.mesh_cluster, .mesh_cluster] := by decide +kernel
  rw [processed] at evaluated
  refine ⟨_, s', run', isHanded, ?_, fun arbitrates => ?_⟩
  · intro handed member
    rw [isHanded] at member
    have controller : fourCores.Connected ⟨.ct_hmc_controller, 0⟩ := (by decide : 0 < 4)
    have directory : fourCores.Connected ⟨.ct_directory, 0⟩ := (by decide : 0 < 4)
    have cache : fourCores.Connected ⟨.ct_cachel2, 0⟩ := (by decide : 0 < 4)
    have core : fourCores.Connected coreZero := (by decide : 0 < 4)
    cases member with
    | head => exact .controllerReply rfl controller rfl core rfl (by decide) rfl
    | tail _ member =>
      obtain rfl := List.mem_singleton.mp member
      exact .directoryRequest rfl directory rfl cache rfl
  · have exclusive := arbitrates.exclusive
    rw [isRound] at exclusive
    have twice := exclusive _ (List.mem_append_right _ (List.mem_singleton_self _)) (0, 0)
    have slots : ((round.sends.filter fun send => site send.key = (0, 0)).map Send.out) =
        [.mesh_cluster, .mesh_cluster] := Option.some.inj evaluated
    exact absurd (slots ▸ twice) (by decide)

end Mesh2D

end ActiveRouting
