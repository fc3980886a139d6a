import ActiveRouting.Library.QueueTable
import ActiveRouting.Library.Trail
import Mathlib.Algebra.GroupWithZero.Nat
import Mathlib.Data.List.Count
import Mathlib.Data.Prod.Lex

/-!
# Networks of switches

A switch serves its queues in turn: the head of a queue asks for a port, and goes
through it to its next queue or out of the network when the port is free.
-/

variable {κ δ α π : Type}

/-! ## Ports -/

section Ports

variable [DecidableEq δ]

/-- The requests that are granted.  A request says whether it takes the port from those
    that come after it. -/
def grants (used : δ → Bool) : List (δ × Bool) → List δ
  | [] => []
  | (port, takes) :: rest =>
    if used port then grants used rest
    else port :: grants (if takes then Function.update used port true else used) rest

/-- How many of the requests for one port are granted. -/
def granted : Bool → List Bool → ℕ
  | _, [] => 0
  | true, _ :: _ => 0
  | false, takes :: rest => 1 + granted takes rest

theorem granted_true (requests : List Bool) : granted true requests = 0 := by
  cases requests <;> rfl

theorem granted_le_one_iff (requests : List Bool) :
    granted false requests ≤ 1 ↔ requests.length ≤ 1 ∨ requests.head? = some true := by
  match requests with
  | [] => simp [granted]
  | [takes] => simp [granted]
  | true :: next :: rest => simp [granted]
  | false :: next :: rest => simp [granted]

/-- The requests for other ports make no difference. -/
theorem count_grants (port : δ) :
    ∀ (requests : List (δ × Bool)) (used : δ → Bool),
      (grants used requests).count port =
        granted (used port) ((requests.filter fun request => request.1 = port).map Prod.snd)
  | [], used => by cases isUsed : used port <;> simp [grants, granted]
  | (other, takes) :: rest, used => by
    have inductionHypothesis := count_grants port rest
    by_cases same : other = port
    · subst same
      rw [grants, List.filter_cons_of_pos (by simp), List.map_cons]
      cases isUsed : used other with
      | true => rw [if_pos rfl, inductionHypothesis, isUsed, granted_true, granted_true]
      | false =>
        rw [if_neg Bool.false_ne_true, List.count_cons_self, inductionHypothesis, granted,
          Nat.add_comm]
        cases takes with
        | true => rw [if_pos rfl, Function.update_self]
        | false => rw [if_neg Bool.false_ne_true, isUsed]
    · rw [grants, List.filter_cons_of_neg (by simp [same])]
      split
      · exact inductionHypothesis used
      · rw [List.count_cons_of_ne same, inductionHypothesis]
        split
        · rw [Function.update_of_ne (Ne.symm same)]
        · rfl

/-- No port is granted twice: of several requests for a port the first takes it. -/
theorem grants_nodup_iff (requests : List (δ × Bool)) :
    (grants (fun _ => false) requests).Nodup ↔
      ∀ port, (requests.filter fun request => request.1 = port).length ≤ 1 ∨
        ((requests.filter fun request => request.1 = port).map Prod.snd).head? = some true := by
  rw [List.nodup_iff_count_le_one]
  refine forall_congr' fun port => ?_
  rw [count_grants, granted_le_one_iff, List.length_map]

end Ports

/-! ## Switches -/

/-- How a network routes: the port that the head of a queue asks for, whether it takes the
    port, and the next queue.  Every queue has a label, which the packets keep. -/
structure Routing (κ δ α π : Type) where
  label : κ → α
  port : κ → π → δ
  takes : κ → π → Bool
  next : κ → π → Option κ
  delay : ℕ

/-- The queues, the number of packets as the network counts them, the ports that have
    been used in a turn, and the log. -/
structure Switches (κ δ α π : Type) where
  qs : κ → List (ℕ × π)
  count : ℕ
  used : δ → Bool := fun _ => false
  sends : List (Send κ δ (α × π)) := []

namespace Switches

/-- The packets that have left. -/
def departed (sends : List (Send κ δ (α × π))) : List (α × π) :=
  (sends.filter fun send => send.next.isNone).map Send.packet

theorem departed_append (first second : List (Send κ δ (α × π))) :
    departed (first ++ second) = departed first ++ departed second := by
  simp [departed]

/-- A switch at the beginning of its turn. -/
def fresh (s : Switches κ δ α π) : Switches κ δ α π := { s with used := fun _ => false }

/-- A packet enters a queue. -/
def enter [DecidableEq κ] (s : Switches κ δ α π) (key : κ) (time : ℕ) (packet : π) :
    Switches κ δ α π :=
  { s with qs := QueueTable.insert s.qs key time packet, count := s.count + 1 }

end Switches

namespace Routing

variable [DecidableEq κ] [DecidableEq δ] (R : Routing κ δ α π) (time : ℕ)

/-- The head of a queue is sent. -/
def move (s : Switches κ δ α π) (key : κ) (rest : List (ℕ × π)) (packet : π) :
    Switches κ δ α π where
  qs :=
    match R.next key packet with
    | some next => QueueTable.insert (Function.update s.qs key rest) next (time + R.delay) packet
    | none => Function.update s.qs key rest
  count := if (R.next key packet).isNone then s.count - 1 else s.count
  used := if R.takes key packet then Function.update s.used (R.port key packet) true else s.used
  sends := s.sends ++ [⟨key, R.port key packet, R.next key packet, (R.label key, packet)⟩]

/-- The head of a queue is sent if its time has come and its port is free. -/
def serve (s : Switches κ δ α π) (key : κ) : Switches κ δ α π :=
  match s.qs key with
  | [] => s
  | (due, packet) :: rest =>
    if time < due then s
    else if s.used (R.port key packet) then s
    else R.move time s key rest packet

/-- The turn of a switch, which has the queues in their order. -/
def turn (s : Switches κ δ α π) (queues : List κ) : Switches κ δ α π :=
  (queues.foldl (R.serve time) s.fresh).fresh

/-- All switches take their turns. -/
def round (s : Switches κ δ α π) (turns : List (List κ)) : Switches κ δ α π :=
  turns.foldl (R.turn time) s

/-! ## One port for one packet -/

/-- What the head of a queue asks for. -/
def request (qs : κ → List (ℕ × π)) (key : κ) : List (δ × Bool) :=
  match qs key with
  | [] => []
  | (due, packet) :: _ =>
    if time < due then [] else [(R.port key packet, R.takes key packet)]

/-- The requests of a turn. -/
def requests (qs : κ → List (ℕ × π)) (queues : List κ) : List (δ × Bool) :=
  queues.flatMap (R.request time qs)

/-- At every port of a switch, the first of several requests takes the port. -/
def Clear (qs : κ → List (ℕ × π)) (queues : List κ) : Prop :=
  ∀ port, ((R.requests time qs queues).filter fun request => request.1 = port).length ≤ 1 ∨
    (((R.requests time qs queues).filter fun request => request.1 = port).map Prod.snd).head? =
      some true

/-- No queue of a switch sends to another one. -/
def Apart (qs : κ → List (ℕ × π)) (queues : List κ) : Prop :=
  ∀ key ∈ queues, ∀ entry ∈ qs key, ∀ next, R.next key entry.2 = some next → next ∉ queues

variable {R time}

theorem serve_qs_of_ne {s : Switches κ δ α π} {key other : κ} (notSame : other ≠ key)
    (notNext : ∀ entry ∈ s.qs key, R.next key entry.2 ≠ some other) :
    (R.serve time s key).qs other = s.qs other := by
  unfold serve
  split
  · rfl
  · rename_i due packet rest queue
    split
    · rfl
    · split
      · rfl
      · unfold move
        cases isNext : R.next key packet with
        | none => exact Function.update_of_ne notSame _ _
        | some next =>
          have notOther : other ≠ next := by
            rintro rfl
            exact notNext (due, packet) (queue ▸ List.mem_cons_self) isNext
          simp only [QueueTable.insert]
          rw [Function.update_of_ne notOther, Function.update_of_ne notSame]

omit [DecidableEq κ] [DecidableEq δ] in
theorem request_congr {qs qs' : κ → List (ℕ × π)} {key : κ} (same : qs' key = qs key) :
    R.request time qs' key = R.request time qs key := by
  rw [request, request, same]

/-- The ports of a turn are those granted to the heads of the queues. -/
theorem foldl_serve_ports (time : ℕ) :
    ∀ {queues : List κ} {s : Switches κ δ α π}, queues.Nodup → R.Apart s.qs queues →
      ∃ sends, (queues.foldl (R.serve time) s).sends = s.sends ++ sends ∧
        sends.map Send.out = grants s.used (R.requests time s.qs queues) ∧
        ∀ send ∈ sends, send.key ∈ queues
  | [], s, _, _ => ⟨[], (List.append_nil _).symm, rfl, fun _ h => (nomatch h)⟩
  | key :: rest, s, nodup, apart => by
    obtain ⟨notMember, nodupRest⟩ := List.nodup_cons.mp nodup
    have others : ∀ other ∈ rest, (R.serve time s key).qs other = s.qs other := by
      intro other member
      refine serve_qs_of_ne (fun same => notMember (same ▸ member)) ?_
      exact fun entry isEntry isNext => apart key List.mem_cons_self entry isEntry other isNext
        (List.mem_cons_of_mem key member)
    have sameRequests : R.requests time (R.serve time s key).qs rest = R.requests time s.qs rest :=
      List.flatMap_congr fun other member => request_congr (others other member)
    have apartRest : R.Apart (R.serve time s key).qs rest := by
      intro other member entry isEntry next isNext nextMember
      rw [others other member] at isEntry
      exact apart other (List.mem_cons_of_mem key member) entry isEntry next isNext
        (List.mem_cons_of_mem key nextMember)
    obtain ⟨sends, folded, ports, areKeys⟩ :=
      foldl_serve_ports time nodupRest apartRest (s := R.serve time s key)
    have later : ∀ send ∈ sends, send.key ∈ key :: rest := fun send member =>
      List.mem_cons_of_mem key (areKeys send member)
    rw [sameRequests] at ports
    rw [List.foldl_cons, folded, requests, List.flatMap_cons, request]
    unfold serve at ports folded ⊢
    cases queue : s.qs key with
    | nil =>
      simp only [queue] at ports ⊢
      exact ⟨sends, rfl, ports, later⟩
    | cons entry tail =>
      simp only [queue] at ports ⊢
      by_cases early : time < entry.1
      · simp only [if_pos early] at ports ⊢
        exact ⟨sends, rfl, ports, later⟩
      · simp only [if_neg early] at ports ⊢
        cases isUsed : s.used (R.port key entry.2) with
        | true =>
          simp only [isUsed, if_true] at ports ⊢
          exact ⟨sends, rfl, by rw [ports]; simp [grants, isUsed, requests], later⟩
        | false =>
          simp only [isUsed, Bool.false_eq_true, if_false, move] at ports ⊢
          refine ⟨_ :: sends, List.append_assoc _ _ _,
            by rw [List.map_cons, ports]; simp [grants, isUsed, requests], ?_⟩
          intro send member
          cases member with
          | head => exact List.mem_cons_self
          | tail _ member => exact later send member

/-- A switch sends at most one packet through each port exactly where its turn is clear. -/
theorem turn_ports_nodup_iff (time : ℕ) {queues : List κ} {s : Switches κ δ α π} (nodup : queues.Nodup)
    (apart : R.Apart s.qs queues) :
    ∃ sends, (R.turn time s queues).sends = s.sends ++ sends ∧
      ((sends.map Send.out).Nodup ↔ R.Clear time s.qs queues) ∧
      ∀ send ∈ sends, send.key ∈ queues := by
  obtain ⟨sends, folded, ports, areKeys⟩ := foldl_serve_ports time nodup apart (s := s.fresh)
  refine ⟨sends, folded, ?_, areKeys⟩
  rw [ports]
  exact grants_nodup_iff _

end Routing

/-! ## Packets -/

/-- The queues of a network and the packets that it carries: where a packet starts, and
    that every hop stays in the network and comes nearer to the end. -/
structure Carrier (R : Routing κ δ α π) where
  keys : Finset κ
  good : κ → π → Prop
  first : α × π → κ
  rank : κ → π → ℕ
  hop : ∀ {key packet next}, key ∈ keys → good key packet → R.next key packet = some next →
    next ∈ keys ∧ good next packet ∧ R.label next = R.label key ∧ rank next packet < rank key packet

namespace Carrier

open QueueTable

variable [DecidableEq κ] [DecidableEq δ] {R : Routing κ δ α π} (C : Carrier R)

/-- A packet is in a queue. -/
def Queued (qs : κ → List (ℕ × π)) (key : κ) (packet : α × π) : Prop :=
  key ∈ C.keys ∧ packet.1 = R.label key ∧ ∃ due, (due, packet.2) ∈ qs key

/-- A packet has been sent as the network routes. -/
structure Routed (send : Send κ δ (α × π)) : Prop where
  isKey : send.key ∈ C.keys
  good : C.good send.key send.packet.2
  label : send.packet.1 = R.label send.key
  out : send.out = R.port send.key send.packet.2
  next : send.next = R.next send.key send.packet.2

/-- The packets in the queues are good ones, and the count is right. -/
structure Ok (s : Switches κ δ α π) : Prop where
  good : ∀ key ∈ C.keys, ∀ entry ∈ s.qs key, C.good key entry.2
  counted : s.count = load C.keys (fun _ _ => 1) s.qs

/-- The log tells how the packets have come to their queues. -/
structure Told (s : Switches κ δ α π) : Prop where
  routed : ∀ send ∈ s.sends, C.Routed send
  traced : Traced s.sends C.first (C.Queued s.qs)

/-- The hops that the packets have still to make, and their departures. -/
def travel (s : Switches κ δ α π) : ℕ := load C.keys (fun key packet => C.rank key packet + 1) s.qs

/-- The weight of the packets in the queues and of those that have left. -/
def total (w : α × π → ℕ) (s : Switches κ δ α π) : ℕ :=
  load C.keys (fun key packet => w (R.label key, packet)) s.qs +
    ((Switches.departed s.sends).map w).sum

/-- No packet is lost or duplicated. -/
def Keeps (s s' : Switches κ δ α π) : Prop := ∀ w, C.total w s' = C.total w s

variable {C} {s s' : Switches κ δ α π} {key : κ} {time due : ℕ} {packet : π} {rest : List (ℕ × π)}

omit [DecidableEq κ] [DecidableEq δ] in
theorem Keeps.refl (s : Switches κ δ α π) : C.Keeps s s := fun _ => rfl

omit [DecidableEq κ] [DecidableEq δ] in
theorem Keeps.trans {s'' : Switches κ δ α π} (first : C.Keeps s s') (second : C.Keeps s' s'') :
    C.Keeps s s'' := fun w => (second w).trans (first w)

omit [DecidableEq κ] [DecidableEq δ] in
theorem Ok.fresh (ok : C.Ok s) : C.Ok s.fresh := ⟨ok.good, ok.counted⟩

omit [DecidableEq κ] [DecidableEq δ] in
theorem Told.fresh (told : C.Told s) : C.Told s.fresh := ⟨told.routed, told.traced⟩

/-- The weights after a packet has been sent. -/
theorem load_move (time : ℕ) (isKey : key ∈ C.keys) (good : C.good key packet)
    (queue : s.qs key = (due, packet) :: rest) (w : κ → π → ℕ) :
    load C.keys w (R.move time s key rest packet).qs + w key packet =
      load C.keys w s.qs + ((R.next key packet).map fun next => w next packet).getD 0 := by
  have taken := load_rest isKey queue w
  unfold Routing.move
  cases isNext : R.next key packet with
  | none => exact taken
  | some next =>
    have given : load C.keys w (QueueTable.insert (Function.update s.qs key rest) next
        (time + R.delay) packet) = load C.keys w (Function.update s.qs key rest) + w next packet :=
      load_insert _ (C.hop isKey good isNext).1 _ packet w
    show load C.keys w (QueueTable.insert _ _ _ _) + _ = _ + w next packet
    omega

theorem keeps_move (isKey : key ∈ C.keys) (good : C.good key packet)
    (queue : s.qs key = (due, packet) :: rest) : C.Keeps s (R.move time s key rest packet) := by
  intro w
  have moved := load_move time isKey good queue fun key packet => w (R.label key, packet)
  unfold total
  show _ + ((Switches.departed (s.sends ++ _)).map w).sum = _
  rw [Switches.departed_append, List.map_append, List.sum_append]
  cases isNext : R.next key packet with
  | none =>
    rw [isNext] at moved
    simp only [Switches.departed, Option.isNone_none, List.filter_cons_of_pos, List.filter_nil,
      List.map_cons, List.map_nil, List.sum_cons, List.sum_nil]
    simp only [Option.map_none, Option.getD_none] at moved
    omega
  | some next =>
    rw [isNext] at moved
    simp only [Option.map_some, Option.getD_some, (C.hop isKey good isNext).2.2.1] at moved
    simp only [Switches.departed, Option.isNone_some, Bool.false_eq_true, not_false_eq_true,
      List.filter_cons_of_neg, List.filter_nil, List.map_nil, List.sum_nil]
    omega

theorem travel_move (isKey : key ∈ C.keys) (good : C.good key packet)
    (queue : s.qs key = (due, packet) :: rest) :
    C.travel (R.move time s key rest packet) < C.travel s := by
  have moved := load_move time isKey good queue fun key packet => C.rank key packet + 1
  unfold travel
  cases isNext : R.next key packet with
  | none =>
    simp only [isNext, Option.map_none, Option.getD_none] at moved
    omega
  | some next =>
    simp only [isNext, Option.map_some, Option.getD_some] at moved
    have nearer := (C.hop isKey good isNext).2.2.2
    omega

/-- What is in a queue after a packet has been sent. -/
theorem mem_move {other : κ} {entry : ℕ × π} (queue : s.qs key = (due, packet) :: rest)
    (member : entry ∈ (R.move time s key rest packet).qs other) :
    entry ∈ s.qs other ∨ R.next key packet = some other ∧ entry.2 = packet := by
  unfold Routing.move at member
  cases isNext : R.next key packet with
  | none =>
    rw [isNext] at member
    exact .inl (mem_of_mem_rest queue member)
  | some next =>
    rw [isNext] at member
    cases mem_of_mem_insert member with
    | inl isMoved => exact .inr ⟨by rw [isMoved.1], by rw [isMoved.2]⟩
    | inr wasThere => exact .inl (mem_of_mem_rest queue wasThere)

theorem Ok.move (ok : C.Ok s) (isKey : key ∈ C.keys) (queue : s.qs key = (due, packet) :: rest) :
    C.Ok (R.move time s key rest packet) := by
  have good : C.good key packet := ok.good key isKey (due, packet) (queue ▸ List.mem_cons_self)
  refine ⟨?_, ?_⟩
  · intro other isOther entry member
    cases mem_move queue member with
    | inl wasThere => exact ok.good other isOther entry wasThere
    | inr isMoved => exact isMoved.2 ▸ (C.hop isKey good isMoved.1).2.1
  · have moved := load_move time isKey good queue fun _ _ => 1
    have counted := ok.counted
    show (if (R.next key packet).isNone then s.count - 1 else s.count) = _
    cases isNext : R.next key packet with
    | none =>
      simp only [isNext, Option.map_none, Option.getD_none] at moved
      rw [if_pos (by rfl)]
      omega
    | some next =>
      simp only [isNext, Option.map_some, Option.getD_some] at moved
      rw [if_neg (by simp)]
      omega

theorem Told.move (told : C.Told s) (ok : C.Ok s) (isKey : key ∈ C.keys)
    (queue : s.qs key = (due, packet) :: rest) : C.Told (R.move time s key rest packet) := by
  have good : C.good key packet := ok.good key isKey (due, packet) (queue ▸ List.mem_cons_self)
  refine ⟨?_, ?_⟩
  · intro send member
    cases List.mem_append.mp member with
    | inl wasSent => exact told.routed send wasSent
    | inr isNew =>
      obtain rfl := List.mem_singleton.mp isNew
      exact ⟨isKey, good, rfl, rfl, rfl⟩
  · have wasQueued : C.Queued s.qs key (R.label key, packet) :=
      ⟨isKey, rfl, due, queue ▸ List.mem_cons_self⟩
    refine told.traced.send ⟨key, R.port key packet, R.next key packet, _⟩ wasQueued ?_
    rintro other otherPacket ⟨isOther, label, otherDue, member⟩
    cases mem_move queue member with
    | inl wasThere => exact .inl ⟨isOther, label, otherDue, wasThere⟩
    | inr isMoved =>
      refine .inr ⟨isMoved.1, Prod.ext ?_ isMoved.2⟩
      rw [label]
      exact (C.hop isKey good isMoved.1).2.2.1

/-- The head of a queue moves, or nothing changes and the queue waits. -/
theorem Ok.serve (ok : C.Ok s) (isKey : key ∈ C.keys) (time : ℕ) :
    C.Ok (R.serve time s key) ∧ (C.Told s → C.Told (R.serve time s key)) ∧
      C.Keeps s (R.serve time s key) ∧
      (C.travel (R.serve time s key) < C.travel s ∨
        R.serve time s key = s ∧
          ((∀ port, s.used port = false) → Waits time s.qs key)) := by
  unfold Routing.serve
  cases queue : s.qs key with
  | nil =>
    refine ⟨ok, id, .refl s, .inr ⟨rfl, fun _ entry isHead => ?_⟩⟩
    rw [queue] at isHead
    cases isHead
  | cons entry rest =>
    obtain ⟨due, packet⟩ := entry
    have good : C.good key packet := ok.good key isKey (due, packet) (queue ▸ List.mem_cons_self)
    dsimp only
    split
    · rename_i early
      refine ⟨ok, id, .refl s, .inr ⟨rfl, fun _ entry isHead => ?_⟩⟩
      rw [queue] at isHead
      exact Option.some.inj isHead ▸ early
    · split
      · rename_i isUsed
        refine ⟨ok, id, .refl s, .inr ⟨rfl, fun free => ?_⟩⟩
        rw [free] at isUsed
        cases isUsed
      · exact ⟨ok.move isKey queue, fun told => told.move ok isKey queue,
          keeps_move isKey good queue, .inl (travel_move isKey good queue)⟩

/-! ## New packets -/

omit [DecidableEq δ] in
theorem Ok.enter (ok : C.Ok s) (isKey : key ∈ C.keys) (good : C.good key packet) (time : ℕ) :
    C.Ok (s.enter key time packet) := by
  refine ⟨?_, ?_⟩
  · intro other isOther entry member
    cases mem_of_mem_insert member with
    | inl isNew =>
      rw [isNew.1, isNew.2]
      exact good
    | inr wasThere => exact ok.good other isOther entry wasThere
  · have added := load_insert s.qs isKey time packet fun _ _ => 1
    have counted := ok.counted
    show s.count + 1 = load C.keys _ (QueueTable.insert s.qs key time packet)
    omega

omit [DecidableEq δ] in
theorem Told.enter {time : ℕ} (told : C.Told s) (isFirst : C.first (R.label key, packet) = key) :
    C.Told (s.enter key time packet) := by
  refine ⟨told.routed, told.traced.enter ?_⟩
  · rintro other otherPacket ⟨isOther, label, otherDue, member⟩
    cases mem_of_mem_insert member with
    | inl isNew =>
      obtain ⟨rfl, isPacket⟩ := isNew
      have same : otherPacket = (R.label other, packet) := Prod.ext label (Prod.mk.inj isPacket).2
      exact .inr (by rw [same, isFirst])
    | inr wasThere => exact .inl ⟨isOther, label, otherDue, wasThere⟩

omit [DecidableEq δ] in
theorem total_enter (C : Carrier R) (s : Switches κ δ α π) (packet : π) (isKey : key ∈ C.keys)
    (time : ℕ) (w : α × π → ℕ) :
    C.total w (s.enter key time packet) = C.total w s + w (R.label key, packet) := by
  have added := load_insert s.qs isKey time packet fun key packet => w (R.label key, packet)
  unfold total
  show load C.keys _ (QueueTable.insert s.qs key time packet) + ((Switches.departed s.sends).map w).sum = _
  omega

omit [DecidableEq κ] [DecidableEq δ] in
/-- A network that counts no packet has only packets that have left. -/
theorem Ok.total_rest (ok : C.Ok s) (rests : s.count = 0) (w : α × π → ℕ) :
    C.total w s = ((Switches.departed s.sends).map w).sum := by
  have empty : load C.keys (fun _ _ => 1) s.qs = 0 := ok.counted ▸ rests
  rw [total, load_eq_zero empty, Nat.zero_add]

theorem sum_indicator {β : Type} [DecidableEq β] [BEq β] [LawfulBEq β] (items : List β) (item : β) :
    (items.map fun other => if other = item then 1 else 0).sum = items.count item := by
  induction items with
  | nil => rfl
  | cons other rest inductionHypothesis =>
    rw [List.map_cons, List.sum_cons, inductionHypothesis, List.count_cons, Nat.add_comm]
    simp only [beq_iff_eq]

omit [DecidableEq κ] [DecidableEq δ] in
/-- What is kept of every weight is kept of the number of each packet. -/
theorem count_of_sums [DecidableEq (α × π)] {first second : List (α × π)}
    (same : ∀ w : α × π → ℕ, (first.map w).sum = (second.map w).sum) : first.Perm second := by
  refine List.perm_iff_count.mpr fun packet => ?_
  rw [← sum_indicator, ← sum_indicator]
  exact same _

/-- How often a packet is in the queues. -/
def waiting [BEq (α × π)] (C : Carrier R) (qs : κ → List (ℕ × π)) (packet : α × π) : ℕ :=
  ∑ key ∈ C.keys, ((qs key).map fun entry => (R.label key, entry.2)).count packet

omit [DecidableEq κ] [DecidableEq δ] in
theorem total_indicator [DecidableEq (α × π)] [BEq (α × π)] [LawfulBEq (α × π)] (C : Carrier R)
    (s : Switches κ δ α π) (packet : α × π) :
    C.total (fun other => if other = packet then 1 else 0) s =
      C.waiting s.qs packet + (Switches.departed s.sends).count packet := by
  rw [total, sum_indicator]
  refine congrArg (· + _) (Finset.sum_congr rfl fun key _ => ?_)
  rw [← sum_indicator, weigh, List.map_map]
  rfl

/-! ## Turns and rounds -/

section Rounds

variable {queues : List κ} {turns : List (List κ)}

theorem Ok.foldl_serve (time : ℕ) :
    ∀ {queues : List κ} {s : Switches κ δ α π}, C.Ok s → (∀ key ∈ queues, key ∈ C.keys) →
      C.Ok (queues.foldl (R.serve time) s) ∧
        (C.Told s → C.Told (queues.foldl (R.serve time) s)) ∧
        C.Keeps s (queues.foldl (R.serve time) s) ∧
        (C.travel (queues.foldl (R.serve time) s) < C.travel s ∨
          queues.foldl (R.serve time) s = s ∧
            ((∀ port, s.used port = false) → ∀ key ∈ queues, Waits time s.qs key))
  | [], s, ok, _ => ⟨ok, id, .refl s, .inr ⟨rfl, fun _ _ h => (nomatch h)⟩⟩
  | key :: rest, s, ok, areKeys => by
    obtain ⟨served, told, keeps, moved⟩ := ok.serve (areKeys key List.mem_cons_self) time
    obtain ⟨ok', told', keeps', movedRest⟩ := served.foldl_serve time fun other member =>
      areKeys other (List.mem_cons_of_mem key member)
    refine ⟨ok', told' ∘ told, keeps.trans keeps', ?_⟩
    rw [List.foldl_cons]
    cases moved with
    | inl nearer =>
      cases movedRest with
      | inl nearerRest => exact .inl (nearerRest.trans nearer)
      | inr stays => exact .inl (stays.1.symm ▸ nearer)
    | inr stays =>
      rw [stays.1] at movedRest ⊢
      refine movedRest.imp id fun others => ⟨others.1, fun free other member => ?_⟩
      cases member with
      | head => exact stays.2 free
      | tail _ member => exact others.2 free other member

/-- A turn moves a packet of the switch, or all of them wait. -/
theorem Ok.turn (ok : C.Ok s) (areKeys : ∀ key ∈ queues, key ∈ C.keys) (time : ℕ) :
    C.Ok (R.turn time s queues) ∧ (C.Told s → C.Told (R.turn time s queues)) ∧
      C.Keeps s (R.turn time s queues) ∧
      (C.travel (R.turn time s queues) < C.travel s ∨
        R.turn time s queues = s.fresh ∧ ∀ key ∈ queues, Waits time s.qs key) := by
  obtain ⟨ok', told, keeps, moved⟩ := ok.fresh.foldl_serve time areKeys
  refine ⟨ok'.fresh, fun before => (told before.fresh).fresh, keeps, moved.imp id fun stays => ⟨?_, stays.2 fun _ => rfl⟩⟩
  rw [Routing.turn, stays.1]
  rfl

/-- A round moves a packet, or all of them wait. -/
theorem Ok.round :
    ∀ {turns : List (List κ)} {s : Switches κ δ α π}, C.Ok s →
      (∀ queues ∈ turns, ∀ key ∈ queues, key ∈ C.keys) → ∀ time,
      C.Ok (R.round time s turns) ∧ (C.Told s → C.Told (R.round time s turns)) ∧
        C.Keeps s (R.round time s turns) ∧
        (C.travel (R.round time s turns) < C.travel s ∨
          (R.round time s turns).fresh = s.fresh ∧
            ∀ queues ∈ turns, ∀ key ∈ queues, Waits time s.qs key)
  | [], s, ok, _, _ => ⟨ok, id, .refl s, .inr ⟨rfl, fun _ h => (nomatch h)⟩⟩
  | queues :: rest, s, ok, areKeys, time => by
    obtain ⟨ok', told, keeps, moved⟩ := ok.turn (areKeys queues List.mem_cons_self) time
    obtain ⟨ok'', told', keeps', movedRest⟩ := ok'.round
      (fun others member => areKeys others (List.mem_cons_of_mem queues member)) time
    refine ⟨ok'', told' ∘ told, keeps.trans keeps', ?_⟩
    rw [Routing.round, List.foldl_cons]
    cases moved with
    | inl nearer =>
      cases movedRest with
      | inl nearerRest => exact .inl (nearerRest.trans nearer)
      | inr stays =>
        have sameTravel : C.travel (R.round time (R.turn time s queues) rest).fresh =
            C.travel (R.turn time s queues).fresh := congrArg C.travel stays.1
        exact .inl (sameTravel.trans_lt nearer)
    | inr stays =>
      rw [stays.1] at movedRest
      show C.travel (R.round time (R.turn time s queues) rest) < _ ∨
        (R.round time (R.turn time s queues) rest).fresh = _ ∧ _
      rw [stays.1]
      refine movedRest.imp id fun others => ⟨others.1, fun other member => ?_⟩
      cases member with
      | head => exact stays.2
      | tail _ member => exact others.2 other member

/-- The rank of a network that is woken at some times. -/
def wakeRank (C : Carrier R) (interval : ℕ) (times : Finset ℕ) (s : Switches κ δ α π) : ℕ ×ₗ ℕ :=
  toLex (C.travel s, remaining C.keys s.qs interval times)

/-- A round lowers the rank. -/
theorem Ok.round_rank {interval : ℕ} {times : Finset ℕ} (ok : C.Ok s) (again : Bool)
    (areTurns : ∀ key, key ∈ C.keys ↔ ∃ queues ∈ turns, key ∈ queues) (positive : 0 < interval)
    (isTime : time ∈ times) (busy : again = true → 0 < (R.round time s turns).count) :
    C.wakeRank interval (nextTimes again interval times time) (R.round time s turns) <
      C.wakeRank interval times s := by
  obtain ⟨ok', -, -, moved⟩ := ok.round
    (fun queues member key isKey => (areTurns key).mpr ⟨queues, member, isKey⟩) time
  rw [Prod.Lex.lt_iff]
  cases moved with
  | inl nearer => exact .inl nearer
  | inr stays =>
    have sameQueues : (R.round time s turns).qs = s.qs :=
      show (R.round time s turns).fresh.qs = s.fresh.qs from congrArg Switches.qs stays.1
    refine .inr ⟨?_, ?_⟩
    · show C.travel (R.round time s turns).fresh = C.travel s.fresh
      exact congrArg C.travel stays.1
    show remaining C.keys (R.round time s turns).qs _ _ < _
    rw [sameQueues]
    refine remaining_lt positive isTime (fun isBusy => ?_) fun key isKey => ?_
    · rw [← sameQueues, ← ok'.counted]
      exact busy isBusy
    · obtain ⟨queues, member, isQueue⟩ := (areTurns key).mp isKey
      exact stays.2 queues member key isQueue

end Rounds

/-! ## Sites -/

/-- Every switch has a clear turn in a round. -/
def RoundClear (R : Routing κ δ α π) (time : ℕ) : Switches κ δ α π → List (List κ) → Prop
  | _, [] => True
  | s, queues :: rest => R.Clear time s.qs queues ∧ RoundClear R time (R.turn time s queues) rest

section Sites

variable {σ : Type} [DecidableEq σ] {site : κ → σ}

/-- A switch sends at most one packet through each of its ports. -/
def Exclusive (site : κ → σ) (sends : List (Send κ δ (α × π))) : Prop :=
  ∀ place, ((sends.filter fun send => site send.key = place).map Send.out).Nodup

omit [DecidableEq κ] [DecidableEq δ] in
theorem filter_at {place : σ} {sends : List (Send κ δ (α × π))}
    (allAt : ∀ send ∈ sends, site send.key = place) (other : σ) :
    (sends.filter fun send => site send.key = other) = if place = other then sends else [] := by
  split
  · rename_i same
    exact List.filter_eq_self.mpr fun send member => by simp [allAt send member, same]
  · rename_i different
    exact List.filter_eq_nil_iff.mpr fun send member => by simp [allAt send member, different]

/-- In a round in which each switch has one turn, the ports are exclusive exactly where
    the turns are clear. -/
theorem Ok.round_ports (queuesOf : σ → List κ) (queuesNodup : ∀ place, (queuesOf place).Nodup)
    (atSite : ∀ place, ∀ key ∈ queuesOf place, site key = place)
    (away : ∀ {key packet next}, key ∈ C.keys → C.good key packet → R.next key packet = some next →
      site next ≠ site key) (time : ℕ) :
    ∀ {places : List σ} {s : Switches κ δ α π}, C.Ok s →
      (∀ place ∈ places, ∀ key ∈ queuesOf place, key ∈ C.keys) → places.Nodup →
      ∃ sends, (R.round time s (places.map queuesOf)).sends = s.sends ++ sends ∧
        (Exclusive site sends ↔ RoundClear R time s (places.map queuesOf)) ∧
        ∀ send ∈ sends, site send.key ∈ places
  | [], s, _, _, _ => ⟨[], (List.append_nil _).symm,
      ⟨fun _ => trivial, fun _ _ => List.nodup_nil⟩, fun _ h => (nomatch h)⟩
  | place :: rest, s, ok, areKeys, nodup => by
    obtain ⟨notMember, nodupRest⟩ := List.nodup_cons.mp nodup
    have isKey := areKeys place List.mem_cons_self
    have apart : R.Apart s.qs (queuesOf place) := by
      intro key member entry isEntry next isNext nextMember
      refine away (isKey key member) (ok.good key (isKey key member) entry isEntry) isNext ?_
      rw [atSite place next nextMember, atSite place key member]
    obtain ⟨first, turned, clear, firstKeys⟩ :=
      Routing.turn_ports_nodup_iff time (queuesNodup place) apart
    obtain ⟨second, rounds, exclusive, secondSites⟩ :=
      (ok.turn isKey time).1.round_ports queuesOf queuesNodup atSite away time
        (fun other member => areKeys other (List.mem_cons_of_mem place member)) nodupRest
    have firstAt : ∀ send ∈ first, site send.key = place := fun send member =>
      atSite place send.key (firstKeys send member)
    have notSecond : (second.filter fun send => site send.key = place) = [] :=
      List.filter_eq_nil_iff.mpr fun send member atPlace =>
        notMember (of_decide_eq_true atPlace ▸ secondSites send member)
    refine ⟨first ++ second, ?_, ?_, ?_⟩
    · rw [Routing.round, List.map_cons, List.foldl_cons]
      refine rounds.trans ?_
      rw [turned, List.append_assoc]
    · rw [List.map_cons, RoundClear, ← clear, ← exclusive]
      constructor
      · intro all
        refine ⟨?_, fun other => ?_⟩
        · have here := all place
          rwa [List.filter_append, filter_at firstAt, if_pos rfl, notSecond,
            List.append_nil] at here
        · have there := all other
          rw [List.filter_append, filter_at firstAt] at there
          split at there
          · rename_i same
            rw [← same, notSecond]
            exact List.nodup_nil
          · exact there
      · rintro ⟨here, there⟩ other
        rw [List.filter_append, filter_at firstAt]
        split
        · rename_i same
          rw [← same, notSecond, List.append_nil]
          exact here
        · exact there other
    · intro send member
      cases List.mem_append.mp member with
      | inl isFirst => exact firstAt send isFirst ▸ List.mem_cons_self
      | inr isSecond => exact List.mem_cons_of_mem place (secondSites send isSecond)

end Sites

end Carrier
