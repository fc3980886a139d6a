import ActiveRouting.Cache.Directory
import ActiveRouting.Library.Outcome
import ActiveRouting.Library.Run

/-!
# The directory cache

The sets of the directory cache hold lines that have an entry, and every entry
that is in transit, that a request waits for or that is on its way from memory
stays in its set: the entries that leave are those that nobody waits for.
-/

namespace ActiveRouting.Directory

open Outcome Transition

variable {c : DirectoryConfig} {d d' : Directory} {line : ℕ} {e : DirEntry}
  {rep_lqe req_lqe pending : NocElement}

structure Sound (c : DirectoryConfig) (d : Directory) : Prop where
  bounded : ∀ set, (d.dir_cache set).length ≤ c.num_ways
  nodup : ∀ set, (d.dir_cache set).Nodup
  mapped : ∀ set, ∀ line ∈ d.dir_cache set, c.setOf line = set
  keyed : ∀ set, ∀ line ∈ d.dir_cache set, (d.dir line).isSome
  kept : ∀ line e, d.dir line = some e → e.busy → line ∈ d.dir_cache (c.setOf line)

/-- An entry that is written is in its set if it is busy. -/
def Cached (c : DirectoryConfig) (d : Directory) (line : ℕ) (e : DirEntry) : Prop :=
  e.busy → line ∈ d.dir_cache (c.setOf line)

theorem Sound.congr (sound : d.Sound c) (sameDir : d'.dir = d.dir)
    (sameCache : d'.dir_cache = d.dir_cache) : d'.Sound c where
  bounded := sameCache ▸ sound.bounded
  nodup := sameCache ▸ sound.nodup
  mapped := sameCache ▸ sound.mapped
  keyed := sameDir ▸ sameCache ▸ sound.keyed
  kept := sameDir ▸ sameCache ▸ sound.kept

theorem Sound.setEntry (sound : d.Sound c) (cached : d.Cached c line e) :
    (d.setEntry line e).Sound c where
  bounded := sound.bounded
  nodup := sound.nodup
  mapped := sound.mapped
  keyed set other isCached := by
    by_cases same : other = line
    · simp [Directory.setEntry, same]
    · simpa [Directory.setEntry, same] using sound.keyed set other isCached
  kept other e' isEntry busy := by
    by_cases same : other = line
    · subst same
      obtain rfl : e = e' := by simpa [Directory.setEntry] using isEntry
      exact cached busy
    · exact sound.kept other e' (by simpa [Directory.setEntry, same] using isEntry) busy

/-- The sets after one of them has changed. -/
theorem mem_update {lines : List ℕ} {set other : ℕ} {line : ℕ} :
    line ∈ Function.update d.dir_cache set lines other ↔
      other = set ∧ line ∈ lines ∨ other ≠ set ∧ line ∈ d.dir_cache other := by
  by_cases same : other = set
  · subst same
    simp
  · simp [same]

theorem Sound.eraseLine (hasCache : c.has_directory_cache = true) (sound : d.Sound c) :
    (d.eraseLine c line).Sound c := by
  have erased : d.eraseLine c line =
      { dir := Function.update d.dir line none
        dir_cache := Function.update d.dir_cache (c.setOf line)
          ((d.dir_cache (c.setOf line)).erase line)
        next_id := d.next_id } := if_pos hasCache
  have member : ∀ set other, other ∈ (d.eraseLine c line).dir_cache set ↔
      other ≠ line ∧ other ∈ d.dir_cache set := by
    intro set other
    rw [erased, mem_update, (sound.nodup _).mem_erase_iff]
    by_cases same : set = c.setOf line
    · simp [same]
    · simp only [same, false_and, ne_eq, not_false_eq_true, true_and, false_or,
        iff_and_self]
      intro isCached isLine
      exact same (isLine ▸ (sound.mapped set other isCached).symm)
  have sublist : ∀ set, ((d.eraseLine c line).dir_cache set).Sublist (d.dir_cache set) := by
    intro set
    rw [erased]
    by_cases same : set = c.setOf line
    · subst same
      simpa using List.erase_sublist
    · simp [same]
  have others : ∀ other, other ≠ line → (d.eraseLine c line).dir other = d.dir other := by
    intro other isOther
    rw [erased]
    simp [isOther]
  exact {
    bounded set := (sublist set).length_le.trans (sound.bounded set)
    nodup set := (sound.nodup set).sublist (sublist set)
    mapped set other isCached := sound.mapped set other ((member set other).mp isCached).2
    keyed := by
      intro set other isCached
      obtain ⟨isOther, isCached⟩ := (member set other).mp isCached
      rw [others other isOther]
      exact sound.keyed set other isCached
    kept := by
      intro other e isEntry busy
      have isOther : other ≠ line := by
        intro isLine
        rw [isLine, erased] at isEntry
        simp at isEntry
      rw [others other isOther] at isEntry
      exact (member _ other).mpr ⟨isOther, sound.kept other e isEntry busy⟩ }

/-- A set is replaced by another one with the same lines. -/
theorem Sound.permute (sound : d.Sound c) {set : ℕ} {lines : List ℕ}
    (perm : lines.Perm (d.dir_cache set)) :
    { d with dir_cache := Function.update d.dir_cache set lines }.Sound c := by
  have perms : ∀ other, (Function.update d.dir_cache set lines other).Perm
      (d.dir_cache other) := by
    intro other
    by_cases same : other = set
    · subst same
      simpa using perm
    · simp [same]
  exact {
    bounded other := (perms other).length_eq.trans_le (sound.bounded other)
    nodup other := (perms other).nodup_iff.mpr (sound.nodup other)
    mapped other line isCached := sound.mapped other line ((perms other).mem_iff.mp isCached)
    keyed other line isCached := sound.keyed other line ((perms other).mem_iff.mp isCached)
    kept line e isEntry busy := (perms _).mem_iff.mpr (sound.kept line e isEntry busy) }

theorem Sound.toFront (sound : d.Sound c) (isCached : line ∈ d.dir_cache (c.setOf line)) :
    (d.toFront c line).Sound c :=
  sound.permute (List.perm_cons_erase isCached).symm

theorem mem_toFront : line ∈ (d.toFront c line).dir_cache (c.setOf line) := by
  simp [Directory.toFront]

/-- The search for a line that may leave reads entries that are there, and finds none that is
    busy. -/
theorem findVictim_eq : ∀ {lines : List ℕ}, (∀ line ∈ lines, (d.dir line).isSome) →
    (d.findVictim lines).2 = d ∧ ∀ victim, (d.findVictim lines).1 = some victim →
      victim ∈ lines ∧ ∃ e, d.dir victim = some e ∧ e.busy = false
  | [], _ => ⟨rfl, fun _ isNone => (nomatch isNone)⟩
  | line :: lines, keyed => by
    obtain ⟨e, isEntry⟩ := Option.isSome_iff_exists.mp (keyed line List.mem_cons_self)
    have read : d.entryOf line = (e, d) := by simp [entryOf, isEntry]
    obtain ⟨same, found⟩ :=
      findVictim_eq fun other member => keyed other (List.mem_cons_of_mem line member)
    cases busy : e.busy with
    | true =>
      simp only [findVictim, read, busy, if_true]
      refine ⟨same, ?_⟩
      intro victim isVictim
      obtain ⟨member, isFree⟩ := found victim isVictim
      exact ⟨List.mem_cons_of_mem line member, isFree⟩
    | false =>
      simp only [findVictim, read, busy, Bool.false_eq_true, if_false]
      refine ⟨trivial, ?_⟩
      intro victim isVictim
      obtain rfl : line = victim := Option.some.inj isVictim
      exact ⟨List.mem_cons_self, e, isEntry, busy⟩

/-- A line that has entered its set, of which the entry is written next. -/
structure Entered (c : DirectoryConfig) (line : ℕ) (d d' : Directory) : Prop where
  dir : d'.dir = d.dir
  sound : ∀ e, (d'.setEntry line e).Sound c
  member : line ∈ d'.dir_cache (c.setOf line)

/-- A set whose lines are some of the old ones and a new one. -/
theorem Sound.entered (sound : d.Sound c) (isNew : line ∉ d.dir_cache (c.setOf line))
    {lines : List ℕ} (sublist : lines.Sublist (d.dir_cache (c.setOf line)))
    (shorter : lines.length < c.num_ways)
    (kept : ∀ other e, other ∈ d.dir_cache (c.setOf line) → d.dir other = some e →
      e.busy → other ∈ lines) :
    Entered c line d { d with
      dir_cache := Function.update d.dir_cache (c.setOf line) (line :: lines) } where
  dir := rfl
  member := by simp
  sound e := {
    bounded := by
      intro set
      by_cases same : set = c.setOf line
      · subst same
        simpa [Directory.setEntry] using Nat.succ_le_of_lt shorter
      · simpa [Directory.setEntry, same] using sound.bounded set
    nodup := by
      intro set
      by_cases same : set = c.setOf line
      · subst same
        simp only [Directory.setEntry, Function.update_self, List.nodup_cons]
        exact ⟨fun member => isNew (sublist.subset member), (sound.nodup _).sublist sublist⟩
      · simpa [Directory.setEntry, same] using sound.nodup set
    mapped := by
      intro set other isCached
      simp only [Directory.setEntry, mem_update, List.mem_cons] at isCached
      rcases isCached with ⟨isSet, isLine | member⟩ | ⟨-, member⟩
      · rw [isLine, isSet]
      · exact isSet ▸ sound.mapped _ other (sublist.subset member)
      · exact sound.mapped set other member
    keyed := by
      intro set other isCached
      by_cases isLine : other = line
      · simp [Directory.setEntry, isLine]
      · simp only [Directory.setEntry, mem_update, List.mem_cons, isLine, false_or] at isCached
        have isKey : (d.dir other).isSome := by
          rcases isCached with ⟨-, member⟩ | ⟨-, member⟩
          · exact sound.keyed _ other (sublist.subset member)
          · exact sound.keyed set other member
        simpa [Directory.setEntry, isLine] using isKey
    kept := by
      intro other e' isEntry busy
      simp only [Directory.setEntry, mem_update, List.mem_cons]
      by_cases isLine : other = line
      · exact .inl ⟨congrArg c.setOf isLine, .inl isLine⟩
      · have isEntry' : d.dir other = some e' := by
          simpa [Directory.setEntry, isLine] using isEntry
        have isCached := sound.kept other e' isEntry' busy
        by_cases same : c.setOf other = c.setOf line
        · exact .inl ⟨same, .inr (kept other e' (same ▸ isCached) isEntry' busy)⟩
        · exact .inr ⟨same, isCached⟩ }

/-- The line enters its set, or nothing changes. -/
theorem Sound.enter (sound : d.Sound c) (isNew : line ∉ d.dir_cache (c.setOf line)) :
    (∃ replaced, d.enter c line = (false, replaced, d)) ∨
      ∃ replaced d', d.enter c line = (true, replaced, d') ∧ Entered c line d d' := by
  by_cases isFull : (d.dir_cache (c.setOf line)).length = c.num_ways
  · obtain ⟨same, found⟩ := findVictim_eq (sound.keyed (c.setOf line))
    cases searched : d.findVictim (d.dir_cache (c.setOf line)) with
    | mk victim? d' =>
      obtain rfl : d' = d := by simpa [searched] using same
      cases victim? with
      | none => exact .inl ⟨false, by simp [Directory.enter, isFull, searched]⟩
      | some victim =>
        obtain ⟨member, e, isEntry, isFree⟩ := found victim (by rw [searched])
        have sublist : ((d'.dir_cache (c.setOf line)).erase victim).Sublist
            (d'.dir_cache (c.setOf line)) := List.erase_sublist
        refine .inr ⟨true, _, by simp [Directory.enter, isFull, searched],
          sound.entered isNew sublist ?_ ?_⟩
        · rw [List.length_erase_of_mem member, ← isFull]
          exact Nat.sub_one_lt (List.length_pos_of_mem member).ne'
        · intro other e' isCached isEntry' busy
          refine (List.mem_erase_of_ne ?_).mpr isCached
          intro isVictim
          subst isVictim
          obtain rfl : e = e' := Option.some.inj (isEntry.symm.trans isEntry')
          exact Bool.false_ne_true (isFree.symm.trans busy)
  · refine .inr ⟨false, _, by simp [Directory.enter, isFull],
      sound.entered isNew (List.Sublist.refl _) ?_ fun other e isCached _ _ => isCached⟩
    exact (sound.bounded _).lt_of_ne isFull

theorem Entered.tellMC (entered : Entered c line d d') (type : EventType) (address : BitVec 64)
    (th_id : ℕ) : Entered c line d (d'.tellMC c type address th_id).1 where
  dir := entered.dir
  sound e := (entered.sound e).congr rfl rfl
  member := entered.member

/-- The HMC controller is told of the line that had to leave. -/
theorem Entered.tellWhen (entered : Entered c line d d') (replaced : Bool)
    (address : BitVec 64) : Entered c line d (if replaced then
      ((d'.tellMC c .et_dir_evict address 0).1, [(d'.tellMC c .et_dir_evict address 0).2])
    else (d', [])).1 := by
  cases replaced with
  | true => exact entered.tellMC .et_dir_evict address 0
  | false => exact entered

/-- A handler keeps the directory cache sound. -/
def Keeps (c : DirectoryConfig) (handled : Except NocError (Directory × List DirSend)) : Prop :=
  Yields (fun result => result.1.Sound c) (fun _ => False) handled

theorem Keeps.andSend {handled : Except NocError (Directory × List DirSend)}
    {sends : List DirSend → List DirSend} : Keeps c handled → Keeps c (match handled with
      | .error error => throw error
      | .ok (d, sent) => pure (d, sends sent)) := by
  intro kept
  cases handled with
  | error error => exact not_false
  | ok result => exact kept

theorem Keeps.send {α : Type} {built : Except NocError α} {result : α → Directory × List DirSend}
    (kept : ∀ send, (result send).1.Sound c) : Keeps c (built.map result) := by
  cases built with
  | error error => exact not_false
  | ok send => exact kept send

theorem Sound.leave (hasCache : c.has_directory_cache = true) (sound : d.Sound c)
    (member : line ∈ d.dir_cache (c.setOf line)) (e : DirEntry) (rep_lqe : NocElement) :
    Keeps c (d.leave c line e rep_lqe) := by
  have written : ∀ e', (d.setEntry line e').Sound c := fun e' => sound.setEntry fun _ => member
  have erased : (d.eraseLine c line).Sound c := sound.eraseLine hasCache
  unfold Directory.leave
  simp only
  repeat' split
  all_goals first
    | exact not_false
    | exact sound
    | exact erased
    | exact written _

theorem Sound.evicted (hasCache : c.has_directory_cache = true) (sound : d.Sound c)
    (rep_lqe : NocElement) : Keeps c (d.evicted c rep_lqe) := by
  unfold Directory.evicted
  simp only [hasCache, if_true]
  generalize c.lineOf rep_lqe.address = line
  cases d.dir line with
  | none => exact sound
  | some e =>
    by_cases isCached : line ∈ d.dir_cache (c.setOf line)
    · have front : (d.toFront c line).Sound c := sound.toFront isCached
      simp only [isCached, if_true]
      split
      · exact front.setEntry fun _ => mem_toFront
      · split
        · exact front
        · exact front.leave hasCache mem_toFront e rep_lqe
    · simp only [isCached, if_false]
      cases sound.enter isCached with
      | inl full =>
        obtain ⟨replaced, isFull⟩ := full
        simp only [isFull]
        exact sound
      | inr room =>
        obtain ⟨replaced, d', isEntered, entered⟩ := room
        simp only [isEntered]
        refine Keeps.andSend ?_
        have asked := (entered.tellWhen replaced rep_lqe.address).tellMC .et_rd_dir_info_rep
          rep_lqe.address 0
        exact (asked.sound _).leave hasCache asked.member _ rep_lqe

/-- The lines that move between caches are in the directory cache. -/
theorem Sound.member (sound : d.Sound c) (isEntry : d.dir line = some e)
    (inTransit : e.inTransit = true) : line ∈ d.dir_cache (c.setOf line) :=
  sound.kept line e isEntry (by simp [DirEntry.busy, inTransit])

theorem Sound.upgraded (hasCache : c.has_directory_cache = true) (sound : d.Sound c)
    (rep_lqe : NocElement) : Keeps c (d.upgraded c rep_lqe) := by
  unfold Directory.upgraded
  simp only
  generalize c.lineOf rep_lqe.address = line
  cases isEntry : d.dir line with
  | none => exact sound
  | some e =>
    by_cases isType : e.type = .cs_tr_to_m
    · have member := sound.member isEntry (by simp [DirEntry.inTransit, isType])
      simp only [isType, ne_eq, not_true_eq_false, if_false]
      split
      · exact sound.eraseLine hasCache
      · exact sound.setEntry fun _ => member
    · simp only [isType, ne_eq, not_false_eq_true, if_true]
      exact not_false

theorem Sound.invalidated (hasCache : c.has_directory_cache = true) (sound : d.Sound c)
    (member : line ∈ d.dir_cache (c.setOf line)) (e : DirEntry) (pending : NocElement) :
    Keeps c (d.invalidated c line e pending) := by
  have written : ∀ e', (d.setEntry line e').Sound c := fun e' => sound.setEntry fun _ => member
  have erased : (d.eraseLine c line).Sound c := sound.eraseLine hasCache
  unfold Directory.invalidated
  simp only
  repeat' split
  all_goals first
    | exact not_false
    | exact erased
    | exact written _

theorem Sound.invalidate (hasCache : c.has_directory_cache = true) (sound : d.Sound c)
    (rep_lqe : NocElement) : Keeps c (d.invalidate c rep_lqe) := by
  unfold Directory.invalidate
  simp only
  generalize c.lineOf rep_lqe.address = line
  cases isEntry : d.dir line with
  | none => exact sound
  | some e =>
    by_cases isType : e.type = .cs_tr_to_m ∨ e.type = .cs_tr_to_i
    · have member := sound.member isEntry (by grind [DirEntry.inTransit])
      have isNot : ¬ (e.type ≠ .cs_tr_to_m ∧ e.type ≠ .cs_tr_to_i) := by grind
      simp only [isNot, if_false]
      repeat' split
      all_goals first
        | exact not_false
        | exact sound.setEntry fun _ => member
        | exact sound.invalidated hasCache member _ _
    · have isOther : e.type ≠ .cs_tr_to_m ∧ e.type ≠ .cs_tr_to_i := by grind
      simp only [isOther, if_true, and_self, ne_eq, not_false_eq_true]
      exact not_false

theorem Sound.notShared (hasCache : c.has_directory_cache = true) (sound : d.Sound c)
    (rep_lqe : NocElement) : Keeps c (d.notShared c rep_lqe) := by
  have erased : (d.eraseLine c (c.lineOf rep_lqe.address)).Sound c := sound.eraseLine hasCache
  unfold Directory.notShared
  simp only
  revert erased
  generalize c.lineOf rep_lqe.address = line
  intro erased
  cases isEntry : d.dir line with
  | none => exact not_false
  | some e =>
    simp only
    cases e.pending with
    | none => exact not_false
    | some pending =>
      simp only
      split
      · exact not_false
      · next isType =>
        have member := sound.member isEntry (by grind [DirEntry.inTransit])
        repeat' split
        · exact not_false
        · exact erased
        · exact sound.setEntry fun _ => member

theorem Sound.shared (sound : d.Sound c) (rep_lqe : NocElement) :
    Keeps c (d.shared c rep_lqe) := by
  unfold Directory.shared
  simp only
  generalize c.lineOf rep_lqe.address = line
  cases isEntry : d.dir line with
  | none => exact not_false
  | some e =>
    simp only
    cases e.pending with
    | none => exact not_false
    | some pending =>
      simp only
      split
      · exact not_false
      · next isType =>
        have member := sound.member isEntry (by grind [DirEntry.inTransit])
        repeat' split
        all_goals first
          | exact not_false
          | exact sound.setEntry fun _ => member
          | exact (sound.setEntry fun _ => member).congr rfl rfl

theorem Sound.fromMC (sound : d.Sound c) (rep_lqe : NocElement) :
    Keeps c (d.fromMC c rep_lqe) := by
  unfold Directory.fromMC
  simp only
  generalize c.lineOf rep_lqe.address = line
  cases rep_lqe.pop with
  | error error => exact not_false
  | ok popped =>
    cases isEntry : d.dir line with
    | none => exact Keeps.send fun _ => sound
    | some e =>
      simp only
      repeat' split
      · next isType =>
        have member := sound.member isEntry (by grind [DirEntry.inTransit])
        exact Keeps.send fun _ => sound.setEntry fun _ => member
      · next isType =>
        have member := sound.member isEntry (by grind [DirEntry.inTransit])
        exact Keeps.send fun _ => sound.setEntry fun _ => member
      · exact Keeps.send fun _ => sound

theorem Sound.reply (hasCache : c.has_directory_cache = true) (sound : d.Sound c)
    (rep_lqe : NocElement) : Keeps c (d.reply c rep_lqe) := by
  unfold Directory.reply
  split
  · exact sound.evicted hasCache rep_lqe
  · exact sound.evicted hasCache rep_lqe
  · exact sound.upgraded hasCache rep_lqe
  · exact sound.upgraded hasCache rep_lqe
  · exact sound.invalidate hasCache rep_lqe
  · exact sound.invalidate hasCache rep_lqe
  · exact sound.notShared hasCache rep_lqe
  · exact sound.notShared hasCache rep_lqe
  · exact sound.notShared hasCache rep_lqe
  · exact sound.shared rep_lqe
  · exact sound.shared rep_lqe
  · exact sound.shared rep_lqe
  · exact sound.fromMC rep_lqe

theorem Sound.newEntry (hasCache : c.has_directory_cache = true) (sound : d.Sound c)
    (isNew : d.dir line = none) (req_lqe : NocElement) : Keeps c (d.newEntry c line req_lqe) := by
  have isNotCached : line ∉ d.dir_cache (c.setOf line) := by
    intro isCached
    simpa [isNew] using sound.keyed _ line isCached
  unfold Directory.newEntry
  simp only [hasCache, if_true]
  cases sound.enter isNotCached with
  | inl full =>
    obtain ⟨replaced, isFull⟩ := full
    simp only [isFull]
    exact Keeps.send fun _ => sound
  | inr room =>
    obtain ⟨replaced, d', isEntered, entered⟩ := room
    simp only [isEntered]
    cases req_lqe.top with
    | error error => cases replaced <;> exact not_false
    | ok top =>
      cases replaced with
      | true => exact (entered.tellMC .et_dir_evict req_lqe.address 0).sound _
      | false => exact entered.sound _

/-- The requests that are served write the entry of a line that is in the directory cache. -/
theorem Sound.serve (sound : d.Sound c) (member : line ∈ d.dir_cache (c.setOf line))
    (e : DirEntry) (address : BitVec 64) (is_active_req : Bool) (req_lqe : NocElement) :
    Keeps c (d.serve c line e address is_active_req req_lqe) := by
  have written : ∀ e' n, ({ d with next_id := n }.setEntry line e').Sound c :=
    fun e' n => (sound.setEntry fun _ => member).congr rfl rfl
  have reads : Keeps c (d.read c line e address req_lqe) := by
    unfold Directory.read
    simp only
    repeat' split
    all_goals first
      | exact not_false
      | exact Keeps.send fun _ => sound
      | exact written _ _
  have writes : Keeps c (d.write c line e address req_lqe) := by
    unfold Directory.write
    repeat' split
    all_goals first
      | exact not_false
      | exact Keeps.send fun _ => sound
      | exact Keeps.send fun _ => written _ _
      | exact written _ _
  have computes : Keeps c (d.active c line e address req_lqe) := by
    unfold Directory.active
    repeat' split
    all_goals first
      | exact not_false
      | exact written _ _
  unfold Directory.serve
  repeat' split
  · exact sound
  · exact Keeps.send fun _ => sound
  · exact reads
  · exact writes
  · exact computes
  · exact not_false

theorem Sound.hit (sound : d.Sound c) (isCached : line ∈ d.dir_cache (c.setOf line))
    (e : DirEntry) (address : BitVec 64) (req_lqe : NocElement) :
    Keeps c (d.hit c line e address req_lqe) := by
  have front : (d.toFront c line).Sound c := sound.toFront isCached
  have written : ∀ e', ((d.toFront c line).setEntry line e').Sound c :=
    fun e' => front.setEntry fun _ => mem_toFront
  unfold Directory.hit
  simp only
  repeat' split
  · exact not_false
  · exact (written _).serve mem_toFront _ _ _ _
  · exact front
  · exact Keeps.send fun _ => front
  · exact front.serve mem_toFront _ _ _ _

theorem Sound.miss (hasCache : c.has_directory_cache = true) (sound : d.Sound c)
    (isNotCached : line ∉ d.dir_cache (c.setOf line)) (e : DirEntry) (req_lqe : NocElement) :
    Keeps c (d.miss c line e req_lqe) := by
  unfold Directory.miss
  simp only
  split
  · exact sound.eraseLine hasCache
  · split
    · exact not_false
    · cases sound.enter isNotCached with
      | inl full =>
        obtain ⟨replaced, isFull⟩ := full
        simp only [isFull]
        exact Keeps.send fun _ => sound
      | inr room =>
        obtain ⟨replaced, d', isEntered, entered⟩ := room
        simp only [isEntered]
        cases replaced with
        | true =>
          exact ((entered.tellMC .et_evict req_lqe.address 0).tellMC .et_rd_dir_info_req
            req_lqe.address 0).sound _
        | false => exact (entered.tellMC .et_rd_dir_info_req req_lqe.address 0).sound _

theorem Sound.request (hasCache : c.has_directory_cache = true) (sound : d.Sound c)
    (req_lqe : NocElement) : Keeps c (d.request c req_lqe) := by
  unfold Directory.request
  simp only [hasCache, if_true]
  split
  · next isNew =>
    split
    · exact sound
    · exact sound.newEntry hasCache isNew req_lqe
  · next e isEntry =>
    split
    · next isCached => exact sound.hit isCached e _ req_lqe
    · next isNotCached => exact sound.miss hasCache isNotCached e req_lqe

theorem Sound.step (hasCache : c.has_directory_cache = true) (sound : d.Sound c) {event : Event}
    (stepped : d.step c event = .ok d') : d'.Sound c := by
  cases event with
  | reply rep_lqe =>
    obtain ⟨result, rfl, kept⟩ := (sound.reply hasCache rep_lqe).of_map_eq_ok stepped
    exact kept
  | request req_lqe =>
    obtain ⟨result, rfl, kept⟩ := (sound.request hasCache req_lqe).of_map_eq_ok stepped
    exact kept

theorem sound_start : Directory.Sound c {} where
  bounded _ := Nat.zero_le _
  nodup _ := List.nodup_nil
  mapped _ _ isCached := (nomatch isCached)
  keyed _ _ isCached := (nomatch isCached)
  kept _ _ isEntry := (nomatch isEntry)

/-- After every run, whatever the order of the events. -/
theorem directory_cache (hasCache : c.has_directory_cache = true) {events : List Event}
    (run : Run (step c) (fun _ _ _ => True) {} events d) :
    (∀ set, (d.dir_cache set).length ≤ c.num_ways ∧ (d.dir_cache set).Nodup ∧
      ∀ line ∈ d.dir_cache set, c.setOf line = set ∧ (d.dir line).isSome) ∧
    (∀ line e, d.dir line = some e →
      e.inTransit ∨ e.pending.isSome ∨ e.not_in_dc → line ∈ d.dir_cache (c.setOf line)) ∧
    (∀ set victim, (d.findVictim (d.dir_cache set)).1 = some victim →
      ∃ e, d.dir victim = some e ∧ ¬ (e.inTransit ∨ e.pending.isSome ∨ e.not_in_dc)) := by
  have sound : d.Sound c := run.invariant sound_start
    fun _ _ _ sound stepped _ => sound.step hasCache stepped
  refine ⟨?_, ?_, ?_⟩
  · intro set
    exact ⟨sound.bounded set, sound.nodup set, fun line isCached =>
      ⟨sound.mapped set line isCached, sound.keyed set line isCached⟩⟩
  · intro line e isEntry busy
    exact sound.kept line e isEntry (by simpa [DirEntry.busy] using busy)
  · intro set victim isVictim
    obtain ⟨-, e, isEntry, isFree⟩ := (findVictim_eq (sound.keyed set)).2 victim isVictim
    exact ⟨e, isEntry, by simpa [DirEntry.busy] using isFree⟩

def smallDirectory : DirectoryConfig where
  set_lsb := 6
  num_sets := 2
  num_ways := 1
  num_flits_per_packet := 5
  has_directory_cache := true
  use_limitless := false
  limitless_broadcast_threshold := 4
  art_scheme := .art_naive
  which_mc _ := 0
  l2s := [⟨.ct_cachel2, 0⟩]
  self := ⟨.ct_directory, 0⟩
  cachel2 := ⟨.ct_cachel2, 0⟩
  sets_pos := Nat.two_pos

def l2Read (type : EventType) (address : BitVec 64) (from_stack : List Component) : NocElement where
  id := 7
  type := type
  address := address
  from_stack := from_stack

/-- Two reads of lines of one set, the second of which takes the place of the first. -/
def readTwice : List Event :=
  [.request (l2Read .et_read 0 [⟨.ct_cachel2, 0⟩]),
    .reply (l2Read .et_e_rd 0 [⟨.ct_directory, 0⟩, ⟨.ct_cachel2, 0⟩]),
    .request (l2Read .et_read 128 [⟨.ct_cachel2, 0⟩])]

theorem directory_cache_after_reads : ∃ d,
    Run (step smallDirectory) (fun _ _ _ => True) {} readTwice d ∧
      d.dir_cache 0 = [2] ∧ (d.dir 0).isSome ∧
        ∀ set, (d.dir_cache set).length ≤ smallDirectory.num_ways := by
  have runs : (execute (step smallDirectory) (fun _ _ _ => True) {} readTwice).any fun d =>
      d.dir_cache 0 = [2] ∧ (d.dir 0).isSome := by
    decide +kernel
  obtain ⟨d, executed, isLast⟩ := (Option.any_eq_true _ _).mp runs
  have run := execute_run executed
  obtain ⟨isSet, isKey⟩ := of_decide_eq_true isLast
  exact ⟨d, run, isSet, isKey, fun set => ((directory_cache rfl run).1 set).1⟩

end ActiveRouting.Directory
