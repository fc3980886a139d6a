import ActiveRouting.Library.Dictionary
import ActiveRouting.Library.Multimap
import ActiveRouting.Library.Run

/-!
# Translation lookaside buffers

`TLBL1`: fully associative, with a map from the pages to their access times and
an index from the access times to the pages.
-/

namespace ActiveRouting

open Transition

/-- `ct_tlbl1i` or `ct_tlbl1d`. -/
inductive TLBType where
  | instruction | data
  deriving DecidableEq, Repr

structure TLBConfig where
  type : TLBType
  num_entries : ℕ := 64
  l1_to_lsu_t : ℕ := 0
  page_sz_log2 : ℕ := 13
  miss_penalty : ℕ := 100
  process_interval : ℕ := 10
  speedup : ℕ := 1
  num_entries_pos : 0 < num_entries
  speedup_pos : 0 < speedup

/-- A `LocalQueueElement`, of which the TLB reads the address and the sender. -/
structure TLBRequest where
  id : ℕ
  address : ℕ
  sender : ℕ
  deriving DecidableEq, Repr

/-- What happened to a request: when it was served, when it goes back to its sender as a
    request or a reply, and the page that was evicted for it. -/
structure TLBAccess where
  time : ℕ
  request : TLBRequest
  answerTime : ℕ
  asRequest : Bool
  evicted : Option ℕ
  deriving DecidableEq, Repr

/-- `entries` maps pages to times; an iterator in `LRU` is the page it points to. -/
structure TLBL1 where
  req_event : List (ℕ × TLBRequest) := []
  req_q : List TLBRequest := []
  entries : Dictionary ℕ ℕ := .empty
  LRU : Dictionary ℕ ℕ := .empty
  num_access : ℕ := 0
  num_miss : ℕ := 0

/-- The TLB with the times at which the event queue wakes it, the requests it has been given
    and the accesses it has made, the latest first. -/
structure TLBSystem where
  tlb : TLBL1 := {}
  curr_time : ℕ := 0
  wakeUps : Finset ℕ := ∅
  requested : List TLBRequest := []
  accesses : List TLBAccess := []

inductive TLBError where
  /-- The event queue does not call the TLB. -/
  | disabled
  deriving DecidableEq, Repr

inductive TLBAction where
  | add_req_event (event_time : ℕ) (local_event : TLBRequest)
  | process_event

variable (c : TLBConfig)

namespace TLBConfig

def page (request : TLBRequest) : ℕ := request.address / 2 ^ c.page_sz_log2

end TLBConfig

namespace TLBL1

variable (t : TLBL1)

/-- `LRU.begin()` and its page leave when the index is full. -/
def evict : TLBL1 × Option ℕ :=
  if c.num_entries ≤ t.LRU.size then
    match t.LRU.first with
    | none => (t, none)
    | some oldest =>
      match t.LRU.lookup oldest with
      | none => (t, none)
      | some page => ({ t with entries := t.entries.erase page, LRU := t.LRU.erase oldest }, page)
  else (t, none)

/-- The page is entered into both maps. -/
def enter (curr_time page : ℕ) : TLBL1 :=
  { t with entries := t.entries.insert page curr_time, LRU := t.LRU.insertNew curr_time page }

def answer (curr_time penalty : ℕ) (request : TLBRequest) (evicted : Option ℕ) : TLBAccess where
  time := curr_time
  request := request
  answerTime := curr_time + c.l1_to_lsu_t + penalty
  asRequest := c.type = .instruction
  evicted := evicted

/-- One iteration of the loop of `process_event`. -/
def serve (curr_time : ℕ) (request : TLBRequest) : TLBL1 × TLBAccess :=
  match t.entries.lookup (c.page request) with
  | none =>
    let (t', evicted) := t.evict c
    ({ t'.enter curr_time (c.page request) with
      num_access := t.num_access + 1
      num_miss := t.num_miss + 1 }, answer c curr_time c.miss_penalty request evicted)
  | some accessed =>
    ({ ({ t with LRU := t.LRU.erase accessed }).enter curr_time (c.page request) with
      num_access := t.num_access + 1 }, answer c curr_time 0 request none)

/-- The events of the current time go to the queue. -/
def arrive (curr_time : ℕ) : TLBL1 :=
  { t with
    req_q := t.req_q ++ (Multimap.first curr_time t.req_event).map (·.2)
    req_event := Multimap.erase curr_time t.req_event }

/-- The requests that have not been served. -/
def waiting : List TLBRequest := t.req_q ++ t.req_event.map (·.2)

end TLBL1

namespace TLBSystem

variable (s : TLBSystem)

def add_req_event (event_time : ℕ) (local_event : TLBRequest) : TLBSystem :=
  { s with
    tlb := { s.tlb with req_event := Multimap.insert event_time local_event s.tlb.req_event }
    wakeUps := insert event_time s.wakeUps
    requested := local_event :: s.requested }

def serve (s : TLBSystem) (request : TLBRequest) : TLBSystem :=
  { s with
    tlb := (s.tlb.serve c s.curr_time request).1
    accesses := (s.tlb.serve c s.curr_time request).2 :: s.accesses }

/-- The requests that a call serves. -/
def served (curr_time : ℕ) : List TLBRequest := (s.tlb.arrive curr_time).req_q.take c.speedup

/-- The state in which the loop of a call begins: these requests have left the queue. -/
def startLoop (curr_time : ℕ) : TLBSystem :=
  { s with
    curr_time
    tlb := { s.tlb.arrive curr_time with
      req_q := (s.tlb.arrive curr_time).req_q.drop c.speedup } }

/-- The TLB is woken again if requests are left, and the event queue drops the event at which
    it has run. -/
def reschedule (s : TLBSystem) : TLBSystem :=
  { s with wakeUps := (if s.tlb.req_q = [] then s.wakeUps
      else insert (s.curr_time + c.process_interval) s.wakeUps).erase s.curr_time }

def processAt (s : TLBSystem) (curr_time : ℕ) : TLBSystem :=
  ((s.served c curr_time).foldl (serve c) (s.startLoop c curr_time)).reschedule c

/-- `process_event`, called by the event queue for its first event. -/
def process_event : Except TLBError TLBSystem :=
  if nonempty : s.wakeUps.Nonempty then .ok (s.processAt c (s.wakeUps.min' nonempty))
  else .error .disabled

def step (s : TLBSystem) : TLBAction → Except TLBError TLBSystem
  | .add_req_event event_time local_event => .ok (s.add_req_event event_time local_event)
  | .process_event => s.process_event c

/-! ## What is promised -/

/-- The pages that have been accessed and not been evicted since, with the times of their last
    accesses. -/
def resident : List TLBAccess → ℕ → Option ℕ
  | [], _ => none
  | access :: accesses, page =>
    if c.page access.request = page then some access.time
    else if access.evicted = some page then none
    else resident accesses page

/-- A page is evicted on a miss in a full buffer, and its last access is the oldest one. -/
def EvictsOldest : List TLBAccess → Prop
  | [] => True
  | access :: accesses =>
    (∀ page, access.evicted = some page →
      resident c accesses (c.page access.request) = none ∧
        ∃ time, resident c accesses page = some time ∧
          ∀ other otherTime, resident c accesses other = some otherTime → time ≤ otherTime) ∧
      EvictsOldest accesses

/-- What is promised of the maps, the evictions and the answers. -/
structure Kept (s : TLBSystem) : Prop where
  bijection : s.tlb.entries.Inverse s.tlb.LRU
  bounded : s.tlb.entries.size ≤ c.num_entries
  residents : ∀ page, s.tlb.entries.lookup page = resident c s.accesses page
  oldest : EvictsOldest c s.accesses
  once : s.requested.Perm (s.accesses.map (·.request) ++ s.tlb.waiting)
  awaited : s.tlb.waiting ≠ [] → s.wakeUps.Nonempty

/-- The TLB is called for the current time or later. -/
def InTime (s : TLBSystem) : TLBAction → TLBSystem → Prop
  | .add_req_event event_time _, _ => s.curr_time ≤ event_time
  | .process_event, _ => True

/-- All accesses of a time are to one page, or there is only one entry. -/
def OnePage (s : TLBSystem) : TLBAction → TLBSystem → Prop
  | .add_req_event _ _, _ => True
  | .process_event, _ => c.num_entries = 1 ∨ ∀ nonempty : s.wakeUps.Nonempty, ∃ page,
    (∀ request ∈ s.served c (s.wakeUps.min' nonempty), c.page request = page) ∧
      ∀ accessed, s.tlb.LRU.lookup (s.wakeUps.min' nonempty) = some accessed → accessed = page

end TLBSystem

/-! ## What an access does -/

namespace TLBL1

variable {c : TLBConfig} {t : TLBL1} {curr_time page : ℕ} {request : TLBRequest}

/-- There is room, or the first entry of the index leaves with its page. -/
theorem evict_cases : t.LRU.size < c.num_entries ∧ t.evict c = (t, none) ∨
    ∃ oldest page, c.num_entries ≤ t.LRU.size ∧ t.LRU.first = some oldest ∧
      t.LRU.lookup oldest = some page ∧ t.evict c =
        ({ t with entries := t.entries.erase page, LRU := t.LRU.erase oldest }, some page) := by
  by_cases isFull : c.num_entries ≤ t.LRU.size
  · obtain ⟨oldest, isFirst⟩ := Dictionary.exists_first (c.num_entries_pos.trans_le isFull)
    obtain ⟨page, found⟩ := Dictionary.exists_lookup_first isFirst
    exact .inr ⟨oldest, page, isFull, isFirst, found, by simp [evict, isFull, isFirst, found]⟩
  · exact .inl ⟨Nat.not_le.mp isFull, if_neg isFull⟩

theorem evict_req_q : (t.evict c).1.req_q = t.req_q ∧ (t.evict c).1.req_event = t.req_event := by
  obtain ⟨-, same⟩ | ⟨_, _, -, -, -, evicted⟩ := t.evict_cases (c := c)
  · rw [same]
    exact ⟨rfl, rfl⟩
  · rw [evicted]
    exact ⟨rfl, rfl⟩

theorem serve_miss (curr_time : ℕ)
    (missed : t.entries.lookup (c.page request) = none) :
    (t.serve c curr_time request).1.entries =
        (t.evict c).1.entries.insert (c.page request) curr_time ∧
      (t.serve c curr_time request).1.LRU =
        (t.evict c).1.LRU.insertNew curr_time (c.page request) ∧
      (t.serve c curr_time request).2.evicted = (t.evict c).2 := by
  simp [serve, missed, enter, answer]

theorem serve_hit (curr_time : ℕ) {accessed : ℕ}
    (hit : t.entries.lookup (c.page request) = some accessed) :
    (t.serve c curr_time request).1.entries = t.entries.insert (c.page request) curr_time ∧
      (t.serve c curr_time request).1.LRU =
        (t.LRU.erase accessed).insertNew curr_time (c.page request) ∧
      (t.serve c curr_time request).2.evicted = none := by
  simp [serve, hit, enter, answer]

/-- The queues are not touched, and the answer is for the request. -/
theorem serve_frame (c : TLBConfig) (t : TLBL1) (curr_time : ℕ) (request : TLBRequest) :
    (t.serve c curr_time request).1.req_q = t.req_q ∧
    (t.serve c curr_time request).1.req_event = t.req_event ∧
    (t.serve c curr_time request).2.request = request ∧
    (t.serve c curr_time request).2.time = curr_time := by
  unfold serve
  split
  · exact ⟨evict_req_q.1, evict_req_q.2, rfl, rfl⟩
  · exact ⟨rfl, rfl, rfl, rfl⟩

/-! ## The index -/

/-- What the index points to was accessed at its time, and not later than now. -/
def Pointed (t : TLBL1) (curr_time : ℕ) : Prop :=
  ∀ time page, t.LRU.lookup time = some page →
    t.entries.lookup page = some time ∧ time ≤ curr_time

/-- The page of the index at the current time, if there is one, is the given one. -/
def FreeFor (t : TLBL1) (curr_time page : ℕ) : Prop :=
  ∀ accessed, t.LRU.lookup curr_time = some accessed → accessed = page

/-- What stays in the maps when a page is evicted or taken out for a hit. -/
theorem Pointed.erase (pointed : Pointed t curr_time) {time : ℕ}
    (isTime : t.entries.lookup page = some time) :
    Pointed { t with entries := t.entries.erase page, LRU := t.LRU.erase time } curr_time := by
  intro other otherPage found
  by_cases sameTime : other = time
  · simp [sameTime] at found
  · rw [Dictionary.lookup_erase_of_ne _ _ sameTime] at found
    obtain ⟨isAccessed, inTime⟩ := pointed other otherPage found
    have isOther : otherPage ≠ page := by
      rintro rfl
      exact sameTime (Option.some.inj (isAccessed.symm.trans isTime))
    exact ⟨(Dictionary.lookup_erase_of_ne _ _ isOther).trans isAccessed, inTime⟩

theorem Pointed.enter (pointed : Pointed t curr_time) (absent : t.entries.lookup page = none) :
    Pointed (t.enter curr_time page) curr_time := by
  intro time other found
  cases Dictionary.lookup_insertNew found with
  | inl wasThere =>
    obtain ⟨isAccessed, inTime⟩ := pointed time other wasThere
    have isOther : other ≠ page := by
      rintro rfl
      rw [absent] at isAccessed
      cases isAccessed
    exact ⟨(Dictionary.lookup_insert_of_ne _ _ _ isOther).trans isAccessed, inTime⟩
  | inr isNew =>
    obtain ⟨rfl, rfl⟩ := isNew
    exact ⟨Dictionary.lookup_insert_self _ _ _, Nat.le_refl _⟩

/-- An access takes out the page itself or an old one, and enters the page. -/
theorem serve_enter (c : TLBConfig) (request : TLBRequest) (pointed : Pointed t curr_time) :
    ∃ t' : TLBL1, t'.entries.lookup (c.page request) = none ∧ Pointed t' curr_time ∧
      (t.serve c curr_time request).1.entries = (t'.enter curr_time (c.page request)).entries ∧
      (t.serve c curr_time request).1.LRU = (t'.enter curr_time (c.page request)).LRU := by
  cases found : t.entries.lookup (c.page request) with
  | none =>
    obtain ⟨isEntries, isLRU, -⟩ := serve_miss curr_time found
    refine ⟨(t.evict c).1, ?_, ?_, isEntries, isLRU⟩
    · obtain ⟨-, same⟩ | ⟨_, page, -, -, -, evicted⟩ := t.evict_cases (c := c)
      · rwa [same]
      · rw [evicted]
        by_cases same : c.page request = page
        · simp [same]
        · exact (Dictionary.lookup_erase_of_ne _ _ same).trans found
    · obtain ⟨-, same⟩ | ⟨oldest, page, -, -, isOldest, evicted⟩ := t.evict_cases (c := c)
      · rwa [same]
      · rw [evicted]
        exact pointed.erase (pointed oldest page isOldest).1
  | some accessed =>
    obtain ⟨isEntries, isLRU, -⟩ := serve_hit curr_time found
    refine ⟨{ t with
      entries := t.entries.erase (c.page request)
      LRU := t.LRU.erase accessed }, ?_, pointed.erase found, ?_, isLRU⟩
    · exact Dictionary.lookup_erase_self _ _
    · exact isEntries.trans Dictionary.insert_erase.symm

theorem Pointed.serve (pointed : Pointed t curr_time) :
    Pointed (t.serve c curr_time request).1 curr_time := by
  obtain ⟨t', absent, pointed', isEntries, isLRU⟩ :=
    serve_enter c request pointed
  intro time page found
  rw [isLRU] at found
  rw [isEntries]
  exact pointed'.enter absent time page found

/-- The maps are each other's inverse and hold no page too many. -/
structure Indexed (c : TLBConfig) (t : TLBL1) (curr_time : ℕ) : Prop where
  inverse : t.entries.Inverse t.LRU
  bounded : t.entries.size ≤ c.num_entries
  inTime : ∀ page time, t.entries.lookup page = some time → time ≤ curr_time

theorem Indexed.pointed (indexed : Indexed c t curr_time) : Pointed t curr_time := by
  intro time page found
  have isTime := (indexed.inverse page time).mpr found
  exact ⟨isTime, indexed.inTime page time isTime⟩

/-- With one entry there is one key. -/
theorem Indexed.time_unique (indexed : Indexed c t curr_time) (single : c.num_entries = 1)
    {time other page otherPage : ℕ} (found : t.LRU.lookup time = some page)
    (found' : t.LRU.lookup other = some otherPage) : time = other := by
  have atMost : t.LRU.size ≤ 1 := indexed.inverse.size_eq ▸ single ▸ indexed.bounded
  exact Dictionary.key_unique atMost (by simp [found]) (by simp [found'])

/-- Where the page and the current time are free in both maps and there is room, the page is
    entered at the current time. -/
theorem Indexed.enter (indexed : Indexed c t curr_time) (absent : t.entries.lookup page = none)
    (free : t.LRU.lookup curr_time = none) (room : t.entries.size < c.num_entries) :
    Indexed c (t.enter curr_time page) curr_time ∧
      (t.enter curr_time page).LRU.lookup curr_time = some page := by
  have isLRU : (t.enter curr_time page).LRU = t.LRU.insert curr_time page :=
    Dictionary.insertNew_of_none free
  refine ⟨⟨?_, ?_, ?_⟩, ?_⟩
  · rw [isLRU]
    exact indexed.inverse.insert absent free
  · show (t.entries.insert page curr_time).size ≤ _
    rw [Dictionary.size_insert_of_none absent]
    exact room
  · intro other time found
    by_cases same : other = page
    · subst same
      obtain rfl : curr_time = time := by simpa [TLBL1.enter] using found
      exact Nat.le_refl _
    · apply indexed.inTime other time
      rwa [TLBL1.enter, Dictionary.lookup_insert_of_ne _ _ _ same] at found
  · rw [isLRU, Dictionary.lookup_insert_self]

theorem Indexed.erase (indexed : Indexed c t curr_time) {time : ℕ}
    (isTime : t.entries.lookup page = some time) :
    Indexed c { t with entries := t.entries.erase page, LRU := t.LRU.erase time } curr_time ∧
      (t.entries.erase page).size < c.num_entries := by
  have smaller := Dictionary.size_erase_of_some isTime
  have bounded := indexed.bounded
  refine ⟨⟨indexed.inverse.erase isTime, ?_, ?_⟩, by omega⟩
  · show (t.entries.erase page).size ≤ _
    omega
  · intro other otherTime found
    by_cases same : other = page
    · simp [same] at found
    · apply indexed.inTime other otherTime
      rwa [Dictionary.lookup_erase_of_ne _ _ same] at found

/-- No other page has the current time when its entry is taken out, where all accesses of the
    time are to one page or there is only one entry. -/
theorem Indexed.free (indexed : Indexed c t curr_time)
    (onePage : c.num_entries = 1 ∨ FreeFor t curr_time page) {time other : ℕ}
    (isTime : t.LRU.lookup time = some other)
    (isPage : ∀ accessed, t.entries.lookup page = some accessed → accessed = time) :
    (t.LRU.erase time).lookup curr_time = none := by
  by_cases same : curr_time = time
  · rw [same, Dictionary.lookup_erase_self]
  · rw [Dictionary.lookup_erase_of_ne _ _ same]
    cases found : t.LRU.lookup curr_time with
    | none => rfl
    | some accessed =>
      refine absurd ?_ same
      rcases onePage with single | freeFor
      · exact indexed.time_unique single found isTime
      · obtain rfl := freeFor accessed found
        exact isPage _ ((indexed.inverse accessed curr_time).mpr found)

/-- What an access evicts. -/
def OldestEvicted (t : TLBL1) (page : ℕ) (evicted : Option ℕ) (entries : Dictionary ℕ ℕ)
    (curr_time : ℕ) : Prop :=
  (∀ other, entries.lookup other = if page = other then some curr_time
    else if evicted = some other then none else t.entries.lookup other) ∧
  ∀ other, evicted = some other → t.entries.lookup page = none ∧
    ∃ time, t.entries.lookup other = some time ∧
      ∀ another anotherTime, t.entries.lookup another = some anotherTime → time ≤ anotherTime

theorem Indexed.serve (indexed : Indexed c t curr_time)
    (onePage : c.num_entries = 1 ∨ FreeFor t curr_time (c.page request)) :
    Indexed c (t.serve c curr_time request).1 curr_time ∧
      (t.serve c curr_time request).1.LRU.lookup curr_time = some (c.page request) ∧
      OldestEvicted t (c.page request) (t.serve c curr_time request).2.evicted
        (t.serve c curr_time request).1.entries curr_time := by
  have congr : ∀ {t' u : TLBL1}, u.entries = t'.entries → u.LRU = t'.LRU →
      Indexed c t' curr_time ∧ t'.LRU.lookup curr_time = some (c.page request) →
        Indexed c u curr_time ∧ u.LRU.lookup curr_time = some (c.page request) := by
    intro t' u isEntries isLRU entered
    obtain ⟨⟨inverse, bounded, inTime⟩, isNow⟩ := entered
    exact ⟨⟨isEntries ▸ isLRU ▸ inverse, isEntries ▸ bounded, isEntries ▸ inTime⟩, isLRU ▸ isNow⟩
  cases found : t.entries.lookup (c.page request) with
  | none =>
    obtain ⟨isEntries, isLRU, isEvicted⟩ := serve_miss curr_time found
    obtain ⟨room, same⟩ | ⟨oldest, page, -, isFirst, isOldest, evicted⟩ := t.evict_cases (c := c)
    · rw [same] at isEntries isLRU isEvicted
      have free : t.LRU.lookup curr_time = none := by
        cases isNow : t.LRU.lookup curr_time with
        | none => rfl
        | some accessed =>
          rcases onePage with single | freeFor
          · have nonempty : t.LRU.size ≠ 0 := by
              intro isEmpty
              have member : curr_time ∈ t.LRU.keys := by simp [isNow]
              rw [Finset.card_eq_zero.mp isEmpty] at member
              cases member
            omega
          · obtain rfl := freeFor accessed isNow
            rw [(indexed.inverse _ _).mpr isNow] at found
            cases found
      obtain ⟨entered, isNow⟩ :=
        congr isEntries isLRU (indexed.enter found free (indexed.inverse.size_eq ▸ room))
      refine ⟨entered, isNow, ?_, ?_⟩
      · intro other
        rw [isEntries, isEvicted]
        by_cases isOther : c.page request = other
        · simp [isOther]
        · simp [isOther, Dictionary.lookup_insert_of_ne _ _ _ (Ne.symm isOther)]
      · rw [isEvicted]
        exact nofun
    · rw [evicted] at isEntries isLRU isEvicted
      have isTime := (indexed.inverse page oldest).mpr isOldest
      have isOther : c.page request ≠ page := by
        rintro isSame
        rw [isSame, isTime] at found
        cases found
      obtain ⟨smaller, room⟩ := indexed.erase isTime
      have free := indexed.free onePage isOldest fun accessed isAccessed => by
        rw [found] at isAccessed
        cases isAccessed
      obtain ⟨entered, isNow⟩ := congr isEntries isLRU (smaller.enter
        ((Dictionary.lookup_erase_of_ne _ _ isOther).trans found) free room)
      refine ⟨entered, isNow, ?_, ?_⟩
      · intro other
        rw [isEntries, isEvicted]
        by_cases isPage : c.page request = other
        · simp [isPage]
        · by_cases isEvicted' : page = other
          · simp [isOther, ← isEvicted', Dictionary.lookup_insert_of_ne _ _ _ isOther.symm]
          · simp [isPage, isEvicted', Dictionary.lookup_insert_of_ne _ _ _ (Ne.symm isPage),
              Dictionary.lookup_erase_of_ne _ _ (Ne.symm isEvicted')]
      · intro other isEvicted'
        obtain rfl : page = other := Option.some.inj (isEvicted.symm.trans isEvicted')
        refine ⟨found, oldest, isTime, ?_⟩
        intro another time isAnother
        apply Dictionary.first_le isFirst
        simp [(indexed.inverse another time).mp isAnother]
  | some accessed =>
    obtain ⟨isEntries, isLRU, isEvicted⟩ := serve_hit curr_time found
    obtain ⟨smaller, room⟩ := indexed.erase found
    have free := indexed.free onePage ((indexed.inverse _ _).mp found) fun other isOther =>
      Option.some.inj (isOther.symm.trans found)
    obtain ⟨entered, isNow⟩ := congr (isEntries.trans Dictionary.insert_erase.symm) isLRU
      (smaller.enter (Dictionary.lookup_erase_self _ _) free room)
    refine ⟨entered, isNow, ?_, ?_⟩
    · intro other
      rw [isEntries, isEvicted]
      by_cases isOther : c.page request = other
      · simp [isOther]
      · simp [isOther, Dictionary.lookup_insert_of_ne _ _ _ (Ne.symm isOther)]
    · rw [isEvicted]
      exact nofun

end TLBL1

/-! ## Calls of the event queue -/

namespace TLBSystem

open TLBL1

variable {c : TLBConfig} {s s' : TLBSystem}

/-- The parts of the state that the accesses do not touch, and the accesses that are made. -/
structure Served (s s' : TLBSystem) (served : List TLBRequest) : Prop where
  req_q : s'.tlb.req_q = s.tlb.req_q
  req_event : s'.tlb.req_event = s.tlb.req_event
  curr_time : s'.curr_time = s.curr_time
  wakeUps : s'.wakeUps = s.wakeUps
  requested : s'.requested = s.requested
  accesses : s'.accesses.map (·.request) = served.reverse ++ s.accesses.map (·.request)

theorem served_foldl (served : List TLBRequest) (s : TLBSystem) :
    Served s (served.foldl (serve c) s) served := by
  induction served generalizing s with
  | nil => exact ⟨rfl, rfl, rfl, rfl, rfl, rfl⟩
  | cons request served inductionHypothesis =>
    obtain ⟨isQueue, isEvent, isRequest, -⟩ :=
      s.tlb.serve_frame c s.curr_time request
    obtain ⟨req_q, req_event, curr_time, wakeUps, requested, accesses⟩ :=
      inductionHypothesis (s.serve c request)
    refine ⟨req_q.trans isQueue, req_event.trans isEvent, curr_time, wakeUps, requested, ?_⟩
    rw [List.foldl_cons, accesses, List.reverse_cons, List.append_assoc, serve, List.map_cons,
      isRequest]
    rfl

/-- The queues and the wake-ups. -/
structure Awake (s : TLBSystem) : Prop where
  sorted : Multimap.Sorted s.tlb.req_event
  pending : ∀ entry ∈ s.tlb.req_event, entry.1 ∈ s.wakeUps
  later : ∀ time ∈ s.wakeUps, s.curr_time ≤ time
  queued : s.tlb.req_q ≠ [] → s.wakeUps.Nonempty
  once : s.requested.Perm (s.accesses.map (·.request) ++ s.tlb.waiting)

theorem Awake.start : Awake {} where
  sorted := .nil
  pending _ member := nomatch member
  later _ member := nomatch member
  queued some := absurd rfl some
  once := .nil

theorem Awake.nonempty (awake : Awake s) (waits : s.tlb.waiting ≠ []) : s.wakeUps.Nonempty := by
  by_cases queued : s.tlb.req_q = []
  · cases pending : s.tlb.req_event with
    | nil => simp [waiting, queued, pending] at waits
    | cons entry others => exact ⟨entry.1, awake.pending entry (by simp [pending])⟩
  · exact awake.queued queued

theorem Awake.add_req_event (awake : Awake s) {event_time : ℕ} {local_event : TLBRequest}
    (inTime : s.curr_time ≤ event_time) : Awake (s.add_req_event event_time local_event) where
  sorted := awake.sorted.insert event_time local_event
  pending entry member := by
    cases Multimap.mem_insert.mp member with
    | inl isNew => exact isNew ▸ Finset.mem_insert_self _ _
    | inr wasThere => exact Finset.mem_insert_of_mem (awake.pending entry wasThere)
  later time member := by
    cases Finset.mem_insert.mp member with
    | inl isNew => exact isNew ▸ inTime
    | inr wasThere => exact awake.later time wasThere
  queued _ := ⟨event_time, Finset.mem_insert_self _ _⟩
  once := by
    have inserted := (Multimap.insert_perm event_time local_event s.tlb.req_event).map (·.2)
    refine (awake.once.cons local_event).trans ?_
    simp only [waiting, ← List.append_assoc]
    exact List.perm_middle.symm.trans (inserted.symm.append_left _)

/-- Those who have arrived at a time, and those who come later, are all that waited. -/
theorem waiting_arrive {curr_time : ℕ} (awake : Awake s)
    (least : ∀ time ∈ s.wakeUps, curr_time ≤ time) :
    (s.tlb.arrive curr_time).waiting.Perm s.tlb.waiting := by
  have parts := awake.sorted.first_perm curr_time fun entry member =>
    least entry.1 (awake.pending entry member)
  simp only [waiting, arrive, List.append_assoc, ← List.map_append]
  exact (parts.map (·.2)).append_left _

theorem Awake.processAt (awake : Awake s) {curr_time : ℕ} (interval_pos : 0 < c.process_interval)
    (least : ∀ time ∈ s.wakeUps, curr_time ≤ time) :
    Awake (s.processAt c curr_time) := by
  have frame := served_foldl (c := c) (s.served c curr_time) (s.startLoop c curr_time)
  rw [TLBSystem.processAt]
  generalize (s.served c curr_time).foldl (serve c) (s.startLoop c curr_time) = served at frame ⊢
  have isQueue : served.tlb.req_q = (s.tlb.arrive curr_time).req_q.drop c.speedup := frame.req_q
  have isEvent : served.tlb.req_event = Multimap.erase curr_time s.tlb.req_event := frame.req_event
  have isTime : served.curr_time = curr_time := frame.curr_time
  have isWakeUps : served.wakeUps = s.wakeUps := frame.wakeUps
  constructor
  · show Multimap.Sorted served.tlb.req_event
    rw [isEvent]
    exact awake.sorted.filter _
  · intro entry member
    have isEntry : entry ∈ Multimap.erase curr_time s.tlb.req_event := isEvent ▸ member
    obtain ⟨wasThere, isLater⟩ := Multimap.mem_erase.mp isEntry
    refine Finset.mem_erase.mpr ⟨isTime ▸ isLater, ?_⟩
    have isPending := isWakeUps ▸ awake.pending entry wasThere
    split
    · exact isPending
    · exact Finset.mem_insert_of_mem isPending
  · intro time member
    show served.curr_time ≤ time
    rw [isTime]
    have wasThere := Finset.mem_of_mem_erase member
    split at wasThere
    · exact least time (isWakeUps ▸ wasThere)
    · cases Finset.mem_insert.mp wasThere with
      | inl isNew => omega
      | inr wasThere => exact least time (isWakeUps ▸ wasThere)
  · intro queued
    have isWoken : (served.reschedule c).wakeUps =
        (insert (served.curr_time + c.process_interval) served.wakeUps).erase served.curr_time := by
      have more : ¬ served.tlb.req_q = [] := queued
      rw [reschedule, if_neg more]
    rw [isWoken]
    exact ⟨_, Finset.mem_erase.mpr ⟨by omega, Finset.mem_insert_self _ _⟩⟩
  · show served.requested.Perm (served.accesses.map (·.request) ++ served.tlb.waiting)
    have isRequested : served.requested = s.requested := frame.requested
    have isServed : served.accesses.map (·.request) =
        (s.served c curr_time).reverse ++ s.accesses.map (·.request) := frame.accesses
    have split : (s.served c curr_time ++ served.tlb.waiting).Perm s.tlb.waiting := by
      rw [waiting, isQueue, isEvent, ← List.append_assoc, TLBSystem.served, List.take_append_drop]
      exact waiting_arrive awake least
    have moved : (s.accesses.map (·.request) ++
        (s.served c curr_time ++ served.tlb.waiting)).Perm
          ((s.served c curr_time).reverse ++ s.accesses.map (·.request) ++ served.tlb.waiting) := by
      rw [← List.append_assoc]
      exact (List.perm_append_comm.trans
        ((s.served c curr_time).reverse_perm.symm.append_right _)).append_right _
    rw [isRequested, isServed]
    exact awake.once.trans ((split.symm.append_left _).trans moved)

theorem Awake.step (awake : Awake s) {action : TLBAction} (interval_pos : 0 < c.process_interval)
    (stepped : s.step c action = .ok s') (inTime : InTime s action s') : Awake s' := by
  cases action with
  | add_req_event event_time local_event =>
    cases stepped
    exact awake.add_req_event inTime
  | process_event =>
    simp only [TLBSystem.step, TLBSystem.process_event] at stepped
    split at stepped
    · cases stepped
      exact awake.processAt interval_pos fun time member =>
        Finset.min'_le _ _ member
    · cases stepped

/-! ## The maps over calls -/

/-- The maps, and what the accesses say about them. -/
structure Recorded (c : TLBConfig) (s : TLBSystem) : Prop where
  indexed : Indexed c s.tlb s.curr_time
  residents : ∀ page, s.tlb.entries.lookup page = resident c s.accesses page
  oldest : EvictsOldest c s.accesses

theorem Recorded.start : Recorded c {} where
  indexed := ⟨.empty, Nat.zero_le _, fun _ _ found => nomatch found⟩
  residents _ := rfl
  oldest := trivial

theorem Recorded.serve (recorded : Recorded c s) {request : TLBRequest}
    (onePage : c.num_entries = 1 ∨ FreeFor s.tlb s.curr_time (c.page request)) :
    Recorded c (s.serve c request) ∧
      (s.serve c request).tlb.LRU.lookup s.curr_time = some (c.page request) := by
  obtain ⟨-, -, isRequest, isTime⟩ :=
    s.tlb.serve_frame c s.curr_time request
  obtain ⟨indexed, isNow, entries, evicted⟩ := recorded.indexed.serve onePage
  refine ⟨⟨indexed, ?_, ?_, recorded.oldest⟩, isNow⟩
  · intro page
    show (s.tlb.serve c s.curr_time request).1.entries.lookup page = _
    rw [entries page, TLBSystem.serve, resident, isRequest, isTime, recorded.residents]
  · intro page isEvicted
    obtain ⟨missed, time, isOldest, least⟩ := evicted page isEvicted
    rw [isRequest, ← recorded.residents]
    refine ⟨missed, time, recorded.residents page ▸ isOldest, ?_⟩
    intro other otherTime isOther
    exact least other otherTime (recorded.residents other ▸ isOther)

/-- Accesses to one page, or to a buffer with one entry. -/
theorem Recorded.foldl (served : List TLBRequest) {s : TLBSystem} (recorded : Recorded c s)
    (onePage : c.num_entries = 1 ∨ ∃ page, (∀ request ∈ served, c.page request = page) ∧
      FreeFor s.tlb s.curr_time page) : Recorded c (served.foldl (TLBSystem.serve c) s) := by
  induction served generalizing s with
  | nil => exact recorded
  | cons request served inductionHypothesis =>
    rw [List.foldl_cons]
    rcases onePage with single | ⟨page, areOne, free⟩
    · exact inductionHypothesis (recorded.serve (.inl single)).1 (.inl single)
    · obtain ⟨isPage, others⟩ := List.forall_mem_cons.mp areOne
      obtain ⟨recorded', isNow⟩ := recorded.serve (.inr (isPage ▸ free))
      refine inductionHypothesis recorded' (.inr ⟨page, others, ?_⟩)
      intro accessed isAccessed
      exact (Option.some.inj (isNow.symm.trans isAccessed)).symm.trans isPage

/-- Time passes and requests arrive. -/
theorem Recorded.startLoop (recorded : Recorded c s) {curr_time : ℕ}
    (later : s.curr_time ≤ curr_time) : Recorded c (s.startLoop c curr_time) where
  indexed := ⟨recorded.indexed.inverse, recorded.indexed.bounded, fun page time found =>
    (recorded.indexed.inTime page time found).trans later⟩
  residents := recorded.residents
  oldest := recorded.oldest

theorem Recorded.step (recorded : Recorded c s) (awake : Awake s) {action : TLBAction}
    (stepped : s.step c action = .ok s') (onePage : OnePage c s action s') : Recorded c s' := by
  cases action with
  | add_req_event event_time local_event =>
    cases stepped
    exact ⟨⟨recorded.indexed.inverse, recorded.indexed.bounded, recorded.indexed.inTime⟩,
      recorded.residents, recorded.oldest⟩
  | process_event =>
    simp only [TLBSystem.step, TLBSystem.process_event] at stepped
    split at stepped
    · rename_i nonempty
      cases stepped
      have started := recorded.startLoop (c := c) (awake.later _ (Finset.min'_mem _ nonempty))
      have served := started.foldl (s.served c (s.wakeUps.min' nonempty))
        (onePage.imp_right fun onePage => onePage nonempty)
      exact ⟨⟨served.indexed.inverse, served.indexed.bounded, served.indexed.inTime⟩,
        served.residents, served.oldest⟩
    · cases stepped

/-! ## Two pages at one time -/

/-- Where there is more than one entry, what was accessed at a time stays in the buffer at that
    time. -/
theorem serve_stays (more : 1 < c.num_entries) (pointed : Pointed s.tlb s.curr_time)
    {request : TLBRequest} {page : ℕ}
    (isNow : c.page request = page ∨ s.tlb.entries.lookup page = some s.curr_time) :
    (s.serve c request).tlb.entries.lookup page = some s.curr_time := by
  show (s.tlb.serve c s.curr_time request).1.entries.lookup page = _
  by_cases same : page = c.page request
  · obtain ⟨t', -, -, isEntries, -⟩ := serve_enter c request pointed
    rw [isEntries, same]
    exact Dictionary.lookup_insert_self _ _ _
  · have wasNow := isNow.resolve_left (Ne.symm same)
    cases found : s.tlb.entries.lookup (c.page request) with
    | none =>
      rw [(serve_miss _ found).1, Dictionary.lookup_insert_of_ne _ _ _ same]
      obtain ⟨-, unchanged⟩ | ⟨oldest, evicted, isFull, isFirst, isOldest, evicts⟩ :=
        s.tlb.evict_cases (c := c)
      · rwa [unchanged]
      · -- of two entries the oldest one is older than now
        have isOlder : oldest < s.curr_time := Dictionary.first_lt isFirst
          (more.trans_le isFull) fun time some => by
            obtain ⟨other, isOther⟩ := Option.isSome_iff_exists.mp some
            exact (pointed time other isOther).2
        have isOther : page ≠ evicted := by
          rintro rfl
          have isTime := (pointed oldest page isOldest).1
          have same := Option.some.inj (isTime.symm.trans wasNow)
          omega
        rw [evicts]
        exact (Dictionary.lookup_erase_of_ne _ _ isOther).trans wasNow
    | some accessed =>
      rw [(serve_hit _ found).1, Dictionary.lookup_insert_of_ne _ _ _ same]
      exact wasNow

theorem foldl_stays (more : 1 < c.num_entries) (served : List TLBRequest) {s : TLBSystem}
    (pointed : Pointed s.tlb s.curr_time) {page : ℕ}
    (isNow : (∃ request ∈ served, c.page request = page) ∨
      s.tlb.entries.lookup page = some s.curr_time) :
    (served.foldl (serve c) s).tlb.entries.lookup page = some s.curr_time := by
  induction served generalizing s with
  | nil => exact isNow.resolve_left fun ⟨_, member, _⟩ => nomatch member
  | cons request served inductionHypothesis =>
    rw [List.foldl_cons]
    have pointed' : Pointed (s.serve c request).tlb (s.serve c request).curr_time := pointed.serve
    apply inductionHypothesis pointed'
    rcases isNow with ⟨other, member, isPage⟩ | wasNow
    · cases member with
      | head => exact .inr (serve_stays more pointed (.inl isPage))
      | tail _ member => exact .inl ⟨other, member, isPage⟩
    · exact .inr (serve_stays more pointed (.inr wasNow))

/-- After accesses to two pages at one time the maps are not each other's inverse. -/
theorem onePage_of_kept (recorded : Recorded c s) (awake : Awake s)
    (stepped : s.step c .process_event = .ok s') (kept : Kept c s') :
    OnePage c s .process_event s' := by
  by_cases single : c.num_entries = 1
  · exact .inl single
  have more : 1 < c.num_entries := by
    have positive := c.num_entries_pos
    omega
  refine .inr fun nonempty => ?_
  have isNext : s.processAt c (s.wakeUps.min' nonempty) = s' := by
    simpa [TLBSystem.step, TLBSystem.process_event, nonempty] using stepped
  have pointed := (recorded.startLoop (c := c)
    (awake.later _ (Finset.min'_mem _ nonempty))).indexed.pointed
  generalize s.wakeUps.min' nonempty = curr_time at isNext pointed ⊢
  subst isNext
  -- all pages of this time are one page
  have onlyPage : ∀ page other,
      (∃ request ∈ s.served c curr_time, c.page request = page) ∨
        s.tlb.entries.lookup page = some curr_time →
      (∃ request ∈ s.served c curr_time, c.page request = other) ∨
        s.tlb.entries.lookup other = some curr_time → page = other := by
    intro page other isPage isOther
    have time := foldl_stays more (s.served c curr_time) pointed isPage
    have otherTime := foldl_stays more (s.served c curr_time) pointed isOther
    have isTime := (served_foldl (c := c) (s.served c curr_time) (s.startLoop c curr_time)).curr_time
    exact Option.some.inj (((kept.bijection page _).mp time).symm.trans
      ((kept.bijection other _).mp otherTime))
  have indexedNow : ∀ accessed, s.tlb.LRU.lookup curr_time = some accessed →
      s.tlb.entries.lookup accessed = some curr_time := fun accessed found =>
    (recorded.indexed.inverse accessed curr_time).mpr found
  cases isServed : s.served c curr_time with
  | nil =>
    cases isNow : s.tlb.LRU.lookup curr_time with
    | none => exact ⟨0, nofun, nofun⟩
    | some accessed => exact ⟨accessed, nofun, fun _ same => (Option.some.inj same).symm⟩
  | cons first others =>
    have isFirst : ∃ request ∈ s.served c curr_time, c.page request = c.page first :=
      ⟨first, isServed ▸ List.mem_cons_self, rfl⟩
    refine ⟨c.page first, ?_, ?_⟩
    · intro request member
      exact onlyPage _ _ (.inl ⟨request, isServed ▸ member, rfl⟩) (.inl isFirst)
    · intro accessed found
      exact onlyPage _ _ (.inr (indexedNow accessed found)) (.inl isFirst)

/-! ## All requests are answered -/

/-- A call serves a request, or there is one wake-up fewer. -/
theorem rank_processAt (awake : Awake s) {curr_time : ℕ} (isFirst : curr_time ∈ s.wakeUps)
    (least : ∀ time ∈ s.wakeUps, curr_time ≤ time) :
    (s.processAt c curr_time).tlb.waiting.length + (s.processAt c curr_time).wakeUps.card <
      s.tlb.waiting.length + s.wakeUps.card := by
  have frame := served_foldl (c := c) (s.served c curr_time) (s.startLoop c curr_time)
  have arrived := (waiting_arrive awake least).length_eq
  rw [TLBSystem.processAt]
  generalize (s.served c curr_time).foldl (serve c) (s.startLoop c curr_time) = served at frame ⊢
  have isQueue : served.tlb.req_q = (s.tlb.arrive curr_time).req_q.drop c.speedup := frame.req_q
  have isEvent : served.tlb.req_event = (s.tlb.arrive curr_time).req_event := frame.req_event
  have isTime : served.curr_time = curr_time := frame.curr_time
  have isWakeUps : served.wakeUps = s.wakeUps := frame.wakeUps
  have isWaiting : (served.reschedule c).tlb.waiting.length =
      (s.tlb.arrive curr_time).req_q.length - c.speedup +
        (s.tlb.arrive curr_time).req_event.length := by
    show served.tlb.waiting.length = _
    simp [waiting, isQueue, isEvent]
  simp only [waiting, List.length_append, List.length_map] at arrived isWaiting ⊢
  have fewer := Finset.card_erase_add_one isFirst
  have positive := c.speedup_pos
  by_cases isEmpty : served.tlb.req_q = []
  · have isWoken : (served.reschedule c).wakeUps = s.wakeUps.erase curr_time := by
      rw [reschedule, if_pos isEmpty, isWakeUps, isTime]
    rw [isWoken]
    omega
  · have isWoken : (served.reschedule c).wakeUps =
        (insert (curr_time + c.process_interval) s.wakeUps).erase curr_time := by
      rw [reschedule, if_neg isEmpty, isWakeUps, isTime]
    have inserted := Finset.card_insert_le (curr_time + c.process_interval) s.wakeUps
    have erased := Finset.card_erase_add_one
      (Finset.mem_insert_of_mem (b := curr_time + c.process_interval) isFirst)
    have some : 0 < (s.tlb.arrive curr_time).req_q.length := by
      apply List.length_pos_of_ne_nil
      intro isNil
      rw [isQueue, isNil, List.drop_nil] at isEmpty
      exact isEmpty rfl
    rw [isWoken]
    omega

/-- As the event queue goes on to call the TLB, all its requests are answered. -/
theorem Awake.drains (awake : Awake s) (interval_pos : 0 < c.process_interval) :
    ∃ actions final, Run (TLBSystem.step c) (fun _ action _ => action = .process_event) s
      actions final ∧ final.requested = s.requested ∧
        final.requested.Perm (final.accesses.map (·.request)) := by
  have steps : ∀ state : TLBSystem, Awake state ∧ state.requested = s.requested →
      state.tlb.waiting = [] ∨ ∃ action state', state.step c action = .ok state' ∧
        action = .process_event ∧ (Awake state' ∧ state'.requested = s.requested) ∧
          state'.tlb.waiting.length + state'.wakeUps.card <
            state.tlb.waiting.length + state.wakeUps.card := by
    intro state holds
    obtain ⟨awake, same⟩ := holds
    by_cases waits : state.tlb.waiting = []
    · exact .inl waits
    · have nonempty := awake.nonempty waits
      have least : ∀ time ∈ state.wakeUps, state.wakeUps.min' nonempty ≤ time :=
        fun time member => Finset.min'_le _ _ member
      have frame := served_foldl (c := c) (state.served c (state.wakeUps.min' nonempty))
        (state.startLoop c (state.wakeUps.min' nonempty))
      exact .inr ⟨.process_event, _, dif_pos nonempty, rfl,
        ⟨awake.processAt interval_pos least, frame.requested.trans same⟩,
        rank_processAt awake (Finset.min'_mem _ nonempty) least⟩
  obtain ⟨actions, final, run, ⟨awake', same⟩, atRest⟩ := Run.exists_rest _ steps ⟨awake, rfl⟩
  refine ⟨actions, final, run, same, ?_⟩
  have once := awake'.once
  rwa [atRest, List.append_nil] at once

structure Sound (c : TLBConfig) (s : TLBSystem) : Prop where
  awake : Awake s
  recorded : Recorded c s

theorem Sound.kept (sound : Sound c s) : Kept c s where
  bijection := sound.recorded.indexed.inverse
  bounded := sound.recorded.indexed.bounded
  residents := sound.recorded.residents
  oldest := sound.recorded.oldest
  once := sound.awake.once
  awaited := sound.awake.nonempty

theorem Sound.step (sound : Sound c s) {action : TLBAction} (interval_pos : 0 < c.process_interval)
    (stepped : s.step c action = .ok s') (inTime : InTime s action s')
    (onePage : OnePage c s action s') : Sound c s' where
  awake := sound.awake.step interval_pos stepped inTime
  recorded := sound.recorded.step sound.awake stepped onePage

/-- As long as the accesses of a time are to one page, or there is one entry only, the maps are
    each other's inverse and within bounds, the oldest page is evicted and no other one dropped,
    and all requests are answered once; a call after which this holds has met the condition. -/
theorem tlb_replacement (c : TLBConfig) (interval_pos : 0 < c.process_interval)
    (actions : List TLBAction) (last : TLBSystem)
    (run : Run (step c) (fun s action s' => InTime s action s' ∧ OnePage c s action s') {}
      actions last) :
    Kept c last ∧
      (∃ calls final, Run (step c) (fun _ action _ => action = .process_event) last calls final ∧
        final.requested = last.requested ∧
          final.requested.Perm (final.accesses.map (·.request))) ∧
      ∀ next, last.step c .process_event = .ok next →
        (Kept c next ↔ OnePage c last .process_event next) := by
  have sound : Sound c last := run.invariant ⟨.start, .start⟩ fun _ _ _ sound stepped guarded =>
    sound.step interval_pos stepped guarded.1 guarded.2
  refine ⟨sound.kept, sound.awake.drains interval_pos, ?_⟩
  intro next stepped
  constructor
  · exact onePage_of_kept sound.recorded sound.awake stepped
  · exact fun onePage => (sound.step interval_pos stepped trivial onePage).kept

end TLBSystem

/-- A data TLB with two accesses in a cycle. -/
def twoAccesses : TLBConfig where
  type := .data
  speedup := 2
  num_entries_pos := by decide
  speedup_pos := by decide

/-- A data TLB with two entries. -/
def twoEntries : TLBConfig where
  type := .data
  num_entries := 2
  num_entries_pos := Nat.two_pos
  speedup_pos := Nat.one_pos

namespace TLBSystem

instance (s s' : TLBSystem) : ∀ action, Decidable (InTime s action s')
  | .add_req_event event_time _ => inferInstanceAs (Decidable (s.curr_time ≤ event_time))
  | .process_event => .isTrue trivial

/-- The page that the accesses of a call are to, if they are to one. -/
def firstPage (c : TLBConfig) (s : TLBSystem) (curr_time : ℕ) : ℕ :=
  (((s.served c curr_time).head?.map c.page).or (s.tlb.LRU.lookup curr_time)).getD 0

theorem exists_page_iff {c : TLBConfig} {s : TLBSystem} {curr_time : ℕ} :
    (∃ page, (∀ request ∈ s.served c curr_time, c.page request = page) ∧
        ∀ accessed, s.tlb.LRU.lookup curr_time = some accessed → accessed = page) ↔
      ((s.served c curr_time).all fun request => c.page request = s.firstPage c curr_time) ∧
        (s.tlb.LRU.lookup curr_time).all fun accessed => accessed = s.firstPage c curr_time := by
  simp only [List.all_eq_true, Option.all_eq_true, decide_eq_true_eq]
  constructor
  · rintro ⟨page, isPage, free⟩
    rw [firstPage]
    cases isServed : s.served c curr_time with
    | nil =>
      refine ⟨fun _ member => (nomatch member), fun accessed found => ?_⟩
      rw [found]
      rfl
    | cons request rest =>
      rw [isServed] at isPage
      have isFirst : ((((request :: rest).head?.map c.page).or
          (s.tlb.LRU.lookup curr_time)).getD 0) = page := isPage request List.mem_cons_self
      rw [isFirst]
      exact ⟨isPage, free⟩
  · exact fun onePage => ⟨_, onePage⟩

instance (c : TLBConfig) (s s' : TLBSystem) : ∀ action, Decidable (OnePage c s action s')
  | .add_req_event _ _ => .isTrue trivial
  | .process_event => decidable_of_iff (c.num_entries = 1 ∨ ∀ nonempty : s.wakeUps.Nonempty,
      ((s.served c (s.wakeUps.min' nonempty)).all fun request =>
          c.page request = s.firstPage c (s.wakeUps.min' nonempty)) ∧
        (s.tlb.LRU.lookup (s.wakeUps.min' nonempty)).all fun accessed =>
          accessed = s.firstPage c (s.wakeUps.min' nonempty))
      (or_congr_right (forall_congr' fun _ => exists_page_iff.symm))

/-- Pages 1 and 2 are accessed, page 1 again, and then page 3. -/
def threePages : List TLBAction :=
  [.add_req_event 10 ⟨0, 8192, 0⟩, .add_req_event 20 ⟨1, 16384, 0⟩,
    .add_req_event 30 ⟨2, 8192, 0⟩, .add_req_event 40 ⟨3, 24576, 0⟩] ++
  List.replicate 4 .process_event

/-- The third access is a hit, so that the fourth evicts the page of the second. -/
theorem tlb_replacement_threePages : ∃ last,
    Run (step twoEntries)
      (fun s action s' => InTime s action s' ∧ OnePage twoEntries s action s') {} threePages last ∧
    Kept twoEntries last ∧
      last.accesses.map (fun access => (access.request.id, access.answerTime, access.evicted)) =
        [(3, 140, some 2), (2, 30, none), (1, 120, none), (0, 110, none)] := by
  have executed : (execute (step twoEntries)
      (fun s action s' => InTime s action s' ∧ OnePage twoEntries s action s') {} threePages).map
        (fun last => last.accesses.map fun access =>
          (access.request.id, access.answerTime, access.evicted)) =
            some [(3, 140, some 2), (2, 30, none), (1, 120, none), (0, 110, none)] := by
    decide +kernel
  obtain ⟨last, run, outcome⟩ := execute_reaches executed
  exact ⟨last, run, (tlb_replacement twoEntries (by decide) _ _ run).1, outcome⟩

/-- Two pages are accessed at time 5: both get this time, and the index leads to one of them. -/
theorem tlb_replacement_two_pages : ∃ last, Run (step twoAccesses) InTime {}
    [.add_req_event 5 ⟨0, 0, 0⟩, .add_req_event 5 ⟨1, 8192, 0⟩, .process_event] last ∧
      last.tlb.entries.lookup 1 = some 5 ∧ last.tlb.LRU.lookup 5 = some 0 ∧
        ¬ Kept twoAccesses last := by
  have first : step twoAccesses {} (.add_req_event 5 ⟨0, 0, 0⟩) = .ok _ := rfl
  have second : step twoAccesses (add_req_event {} 5 ⟨0, 0, 0⟩)
    (.add_req_event 5 ⟨1, 8192, 0⟩) = .ok _ := rfl
  have served : step twoAccesses (add_req_event (add_req_event {} 5 ⟨0, 0, 0⟩) 5 ⟨1, 8192, 0⟩)
    .process_event = .ok _ := rfl
  have run : Run (step twoAccesses) InTime {}
      [.add_req_event 5 ⟨0, 0, 0⟩, .add_req_event 5 ⟨1, 8192, 0⟩, .process_event] _ :=
    (((Run.start _).next first (Nat.zero_le _)).next second (Nat.zero_le _)).next served trivial
  refine ⟨_, run, rfl, rfl, fun kept => ?_⟩
  have isInverse := (kept.bijection 1 5).mp rfl
  cases isInverse

end TLBSystem

end ActiveRouting
