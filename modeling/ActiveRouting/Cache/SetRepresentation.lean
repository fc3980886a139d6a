import ActiveRouting.Cache.CacheL1
import ActiveRouting.Cache.CacheL2
import ActiveRouting.Library.Outcome
import ActiveRouting.Library.Run

/-!
# The sets of the caches

Whatever is asked of a cache, the pointers of each of its sets stay those that
the set was built with, the valid lines of a set have tags of their own, and a
line that is filled takes the entry at the front.
-/

namespace ActiveRouting

open Outcome Transition

/-! ## The second level -/

namespace L2Entry

variable {c : CacheL2Config} {e : L2Entry} {set next_id : ℕ} {popped rep_lqe req_lqe : NocElement}
  {top : Component}

/-- The tag of a valid line. -/
def key (e : L2Entry) : Option ℕ := if e.type = .cs_invalid then none else some e.tag

@[simp] theorem share_tag (l1 : Component) : (e.share l1).tag = e.tag := by
  unfold share
  split <;> rfl

@[simp] theorem share_type (l1 : Component) : (e.share l1).type = e.type := by
  unfold share
  split <;> rfl

theorem foldl_share (tops : List Component) :
    (tops.foldl share e).tag = e.tag ∧ (tops.foldl share e).type = e.type := by
  induction tops generalizing e with
  | nil => exact ⟨rfl, rfl⟩
  | cons top tops inductionHypothesis =>
    rw [List.foldl_cons]
    exact ⟨inductionHypothesis.1.trans (share_tag top), inductionHypothesis.2.trans (share_type top)⟩

theorem holds_iff {tag : ℕ} : e.holds tag = true ↔ e.key = some tag := by
  simp only [holds, key, decide_eq_true_eq]
  split <;> simp_all

/-- An event for a line leaves its tag as it is. -/
def KeepsTag (e : L2Entry) (edit : L2Edit) : Prop := edit.entry.tag = e.tag

theorem upgraded_keepsTag :
    Yields e.KeepsTag (fun _ => False) (e.upgraded c set next_id popped) := by
  unfold upgraded
  split
  · exact not_false
  · simp only
    split
    · exact not_false
    · exact rfl

theorem refused_keepsTag :
    Yields e.KeepsTag (fun _ => False) (e.refused c set next_id popped) := by
  unfold refused
  repeat' split
  · exact rfl
  · exact not_false
  · exact rfl
  · exact share_tag _

theorem fromOwner_keepsTag :
    Yields e.KeepsTag (fun _ => False) (e.fromOwner c set next_id popped) := by
  have keeps : Yields e.KeepsTag (fun _ => False) (e.refused c set next_id popped) :=
    refused_keepsTag
  unfold fromOwner
  repeat' split
  case h_1 _ _ edit told isRefused _ =>
    rw [isRefused] at keeps
    exact keeps
  all_goals first | exact not_false | exact share_tag _

theorem evictedByL1_keepsTag :
    Yields e.KeepsTag (fun _ => False) (e.evictedByL1 c next_id rep_lqe) := by
  unfold evictedByL1
  repeat' split
  all_goals first | exact not_false | exact share_tag _ | exact rfl

theorem askOwner_keepsTag {type : EventType} {waiting : L2Entry} (isTag : waiting.tag = e.tag) :
    Yields e.KeepsTag (fun _ => False) (e.askOwner c set next_id rep_lqe type waiting) := by
  unfold askOwner
  split
  · exact isTag
  · exact not_false

theorem dir_rd_keepsTag : Yields e.KeepsTag (fun _ => False) (e.dir_rd c set next_id rep_lqe) := by
  unfold dir_rd
  repeat' split
  all_goals first | exact not_false | exact askOwner_keepsTag rfl | exact rfl

theorem toShared_keepsTag : Yields e.KeepsTag (fun _ => False) (e.toShared c next_id rep_lqe) := by
  unfold toShared
  repeat' split
  all_goals first | exact not_false | exact rfl

theorem invalidate_keepsTag :
    Yields e.KeepsTag (fun _ => False) (e.invalidate c set next_id rep_lqe) := by
  unfold invalidate
  simp only
  repeat' split
  all_goals first | exact not_false | exact askOwner_keepsTag rfl | exact rfl

theorem readBy_keepsTag :
    Yields (fun done => e.KeepsTag done.1) (fun _ => False) (e.readBy c next_id req_lqe top) := by
  unfold readBy
  simp only
  repeat' split
  all_goals first | exact not_false | exact share_tag _ | exact rfl

theorem writeBy_keepsTag :
    Yields (fun done => e.KeepsTag done.1) (fun _ => False)
      (e.writeBy c set next_id req_lqe top) := by
  unfold writeBy
  simp only
  repeat' split
  all_goals first | exact not_false | exact share_tag _ | exact rfl

theorem upgradeBy_keepsTag {mayWait : Bool} :
    e.KeepsTag (e.upgradeBy c set next_id req_lqe top mayWait) := by
  unfold upgradeBy
  repeat' split
  all_goals exact rfl

/-- A request that is answered, refused or sent to the owner uses the line. -/
theorem readBy_moved :
    Yields (fun done => done.1.moved = true) (fun _ => False) (e.readBy c next_id req_lqe top) := by
  unfold readBy
  simp only
  repeat' split
  all_goals first | exact not_false | exact rfl

theorem writeBy_moved :
    Yields (fun done => done.1.moved = true) (fun _ => False)
      (e.writeBy c set next_id req_lqe top) := by
  unfold writeBy
  simp only
  repeat' split
  all_goals first | exact not_false | exact rfl

end L2Entry

namespace CacheL2

variable {c : CacheL2Config} {x : CacheL2} {set : ℕ}

/-- Each set represents its part of the cache. -/
def Represented (c : CacheL2Config) (x : CacheL2) : Prop :=
  ∀ set, WaySet.Represents c.num_ways L2Entry.key (x.tags set)

/-- What an event may do to the sets: they stay represented, and no entry is replaced but the one
    at the front. -/
def Allowed (c : CacheL2Config) (x x' : CacheL2) : Prop :=
  (x.Represented c → x'.Represented c) ∧
    ∀ set, WaySet.ReplacesFront L2Entry.tag (x.tags set) (x'.tags set)

theorem Allowed.of_tags {x' : CacheL2} (same : x'.tags = x.tags) : x.Allowed c x' :=
  ⟨fun represented set => same ▸ represented set,
    fun _ => same ▸ WaySet.replacesFront_of_kept fun _ => rfl⟩

theorem Allowed.mono_tags {x' x'' : CacheL2} (allowed : x.Allowed c x') (same : x''.tags = x'.tags) :
    x.Allowed c x'' :=
  ⟨fun represented set => same ▸ allowed.1 represented set, fun set => same ▸ allowed.2 set⟩

/-- An edit of a valid line that keeps its tag. -/
theorem edited_allowed {p : L2Entry → Bool} {idx way : ℕ} {edit : L2Edit}
    (found : (x.tags set).search p = some (idx, way))
    (valid : ((x.tags set).entry way).type ≠ .cs_invalid)
    (keeps : ((x.tags set).entry way).KeepsTag edit) : x.Allowed c (x.edited set idx way edit) := by
  obtain ⟨isWay, -⟩ := WaySet.search_eq_some found
  have isEntry : ((if edit.moved then ((x.tags set).write way edit.entry).moveToBack idx way
      else (x.tags set).write way edit.entry).entry) =
        ((x.tags set).write way edit.entry).entry := by split <;> rfl
  constructor
  · intro represented other
    by_cases same : other = set
    · subst same
      have written : WaySet.Represents c.num_ways L2Entry.key
          ((x.tags other).write way edit.entry) := by
        apply (represented other).write
        unfold L2Entry.key
        split
        · exact .inr rfl
        · exact .inl (congrArg some keeps)
      simp only [edited, Function.update_self]
      split
      · exact written.moveToBack isWay
      · exact written
    · simp only [edited, Function.update_of_ne same]
      exact represented other
  · intro other
    apply WaySet.replacesFront_of_kept
    intro way'
    by_cases same : other = set
    · subst same
      simp only [edited, Function.update_self, isEntry]
      by_cases isWay' : way' = way
      · rw [isWay', WaySet.write_self, keeps]
      · rw [WaySet.write_of_ne _ _ isWay']
    · simp only [edited, Function.update_of_ne same]

theorem valid_of_line {address : BitVec 64} {idx way : ℕ}
    (found : x.line c address = some (idx, way)) :
    ((x.tags (c.setOf address)).entry way).type ≠ .cs_invalid ∧
      ((x.tags (c.setOf address)).entry way).tag = c.tagOf address := by
  have holds := (WaySet.search_eq_some found).2
  simpa [L2Entry.holds] using holds

theorem valid_of_answering {address : BitVec 64} {idx way : ℕ}
    (found : x.answering c address = some (idx, way)) :
    ((x.tags (c.setOf address)).entry way).type ≠ .cs_invalid := by
  have answers := (WaySet.search_eq_some found).2
  simp only [L2Entry.answers, decide_eq_true_eq] at answers
  exact answers.1

/-- The result of an event is one that is allowed. -/
def Safe (c : CacheL2Config) (x : CacheL2) (done : Except NocError (CacheL2 × List CacheSend)) :
    Prop :=
  Yields (fun result => x.Allowed c result.1) (fun _ => False) done

variable {rep_lqe req_lqe : NocElement}

theorem visit_safe {hit : L2Entry → Except NocError L2Edit}
    {missed : Except NocError (List CacheSend)}
    (keeps : ∀ e, Yields e.KeepsTag (fun _ => False) (hit e)) :
    x.Safe c (x.visit c rep_lqe hit missed) := by
  unfold visit
  simp only
  split
  · split
    · exact not_false
    · exact Allowed.of_tags rfl
  · rename_i idx way found
    have kept := keeps ((x.tags (c.setOf rep_lqe.address)).entry way)
    split
    · exact not_false
    · rename_i edit isEdit
      rw [isEdit] at kept
      exact edited_allowed found (valid_of_line found).1 kept

theorem upgrade_safe {popped : NocElement} : x.Safe c (x.upgrade c popped) := by
  have refused : x.Safe c (x.refuseUpgrade c popped) := by
    unfold refuseUpgrade
    split
    · exact Allowed.of_tags rfl
    · exact not_false
    · exact not_false
  unfold upgrade
  simp only
  split
  · exact refused
  · rename_i idx way found
    split
    · exact refused
    · have kept : Yields (((x.tags (c.setOf popped.address)).entry way).KeepsTag)
          (fun _ => False) (((x.tags (c.setOf popped.address)).entry way).upgraded c
            (c.setOf popped.address) x.next_id popped) := L2Entry.upgraded_keepsTag
      split
      · exact not_false
      · rename_i edit isEdit
        rw [isEdit] at kept
        exact edited_allowed found (valid_of_line found).1 kept

theorem write_nd_safe : x.Safe c (x.write_nd c rep_lqe) := by
  unfold write_nd
  simp only
  split
  · exact not_false
  · rename_i popped _
    have upgraded : x.Safe c (x.upgrade c popped) := upgrade_safe
    split
    · rename_i x' sent mshr_idx isUpgraded _
      rw [isUpgraded] at upgraded
      split
      · exact not_false
      · exact Allowed.mono_tags upgraded rfl
    · exact not_false
    · exact not_false

theorem finish_safe {p : L2Entry → Bool} {idx way : ℕ}
    {done : Except NocError (L2Edit × Bool × NocElement)}
    (found : (x.tags set).search p = some (idx, way))
    (valid : ((x.tags set).entry way).type ≠ .cs_invalid)
    (kept : Yields (fun result => ((x.tags set).entry way).KeepsTag result.1) (fun _ => False) done) :
    x.Safe c (x.finish c set idx way done) := by
  unfold finish
  split
  · exact not_false
  · exact edited_allowed found valid kept

/-- A request that uses the line it has found. -/
theorem finish_moves {p : L2Entry → Bool} {idx way : ℕ}
    {done : Except NocError (L2Edit × Bool × NocElement)}
    (found : (x.tags set).search p = some (idx, way))
    (moved : Yields (fun result => result.1.moved = true) (fun _ => False) done) :
    Yields (fun result => WaySet.MovesToBack idx way (x.tags set) (result.1.tags set))
      (fun _ => False) (x.finish c set idx way done) := by
  unfold finish
  split
  · exact not_false
  · rename_i edit _ _
    have isMoved : edit.moved = true := moved
    show WaySet.MovesToBack idx way (x.tags set) ((x.edited set idx way edit).tags set)
    simp only [edited, isMoved, if_true, Function.update_self]
    exact WaySet.moveToBack_ways (s := (x.tags set).write way edit.entry)
      (WaySet.search_eq_some found).1

/-- The sets are left as they are. -/
def Aside (x : CacheL2) (done : Except NocError (CacheL2 × List CacheSend)) : Prop :=
  Yields (fun result => result.1.tags = x.tags) (fun _ => False) done

theorem Aside.safe {done : Except NocError (CacheL2 × List CacheSend)} (aside : x.Aside done) :
    x.Safe c done :=
  aside.mono fun _ => Allowed.of_tags

theorem miss_aside {etype : EventType} : x.Aside (x.miss c etype req_lqe) := by
  unfold miss refuse
  simp only
  repeat' split
  all_goals first | exact not_false | exact rfl

theorem missed_aside {etype : EventType} : x.Aside (x.missed c etype req_lqe) := by
  unfold missed
  split
  · exact rfl
  · exact miss_aside

theorem Aside.sentBefore {x' : CacheL2} {sent : List CacheSend}
    {done : Except NocError (CacheL2 × List CacheSend)} (allowed : x.Allowed c x')
    (aside : x'.Aside done) : x.Safe c (sentBefore sent done) := by
  cases done with
  | error error => exact not_false
  | ok result => exact allowed.mono_tags aside

theorem nack_aside : x.Aside (x.nack c rep_lqe) := by
  unfold nack
  simp only
  repeat' split
  all_goals first | exact not_false | exact rfl

theorem read_safe : x.Safe c (x.read c req_lqe) := by
  unfold read
  simp only
  split
  · exact missed_aside.safe
  · rename_i idx way found
    split
    · exact not_false
    · exact Allowed.of_tags rfl
    · exact finish_safe found (valid_of_answering found) L2Entry.readBy_keepsTag

theorem write_safe : x.Safe c (x.write c req_lqe) := by
  unfold write
  simp only
  split
  · exact missed_aside.safe
  · exact not_false
  · rename_i idx way top found _
    have valid := valid_of_answering found
    split
    · exact missed_aside.sentBefore (edited_allowed found valid L2Entry.upgradeBy_keepsTag)
    · exact finish_safe found valid L2Entry.writeBy_keepsTag

/-- A fill passes by where the entry at the front is in transit. -/
theorem replace_bypass {e : L2Entry} {next_id : ℕ} {popped : NocElement} {f : L2Fill}
    (replaced : L2Fill.replace c set next_id e popped = .ok f) : f.bypass = e.inTransit := by
  have bypass : Yields (fun f => f.bypass = e.inTransit) (fun _ => False)
      (L2Fill.replace c set next_id e popped) := by
    unfold L2Fill.replace
    simp only
    split
    · rename_i inTransit
      repeat' split
      all_goals first | exact not_false | exact inTransit.symm
    · rename_i settled
      rw [Bool.not_eq_true] at settled
      repeat' split
      all_goals first | exact not_false | exact settled.symm
  rw [replaced] at bypass
  exact bypass

/-- The entry that a fill writes holds the line. -/
theorem key_filled (f : L2Fill) (etype : EventType) (tag : ℕ) (merged : List NocElement)
    (tops : List Component) :
    (tops.foldl L2Entry.share (f.filled etype tag merged)).key = some tag := by
  obtain ⟨isTag, isType⟩ := L2Entry.foldl_share (e := f.filled etype tag merged) tops
  have isValid : L2Fill.newType etype ≠ .cs_invalid := by
    unfold L2Fill.newType
    split <;> exact fun h => nomatch h
  have filled : (f.filled etype tag merged).tag = tag ∧
      (f.filled etype tag merged).type = L2Fill.newType etype := by
    unfold L2Fill.filled
    split
    · exact ⟨L2Entry.share_tag _, L2Entry.share_type _⟩
    · exact ⟨rfl, rfl⟩
  rw [L2Entry.key, isType, isTag, filled.1, filled.2, if_neg isValid]

/-- What a fill does to the sets: nothing, or the entry that it takes holds the line and becomes
    the one used last. -/
def FillsPlace (c : CacheL2Config) (x : CacheL2) (address : BitVec 64) (x' : CacheL2) : Prop :=
  let set := c.setOf address
  let inTransit := ((x.tags set).entry (x.tags set).front).inTransit
  x'.tags = x.tags ∧ (x.line c address = none → inTransit = true) ∨
    (x.line c address = none → inTransit = false) ∧
      ∃ e : L2Entry, e.key = some (c.tagOf address) ∧
        x'.tags = Function.update x.tags set
          ((x.tags set).take (L2Entry.holds · (c.tagOf address)) e)

theorem fill_tags : Yields (fun result => x.FillsPlace c rep_lqe.address result.1)
    (fun _ => False) (x.fill c rep_lqe) := by
  have sameAddress : ∀ popped, rep_lqe.pop = .ok popped → popped.address = rep_lqe.address := by
    intro popped isPopped
    unfold NocElement.pop at isPopped
    split at isPopped
    · cases isPopped
    · cases isPopped
      rfl
  unfold fill
  simp only
  split
  · exact not_false
  · rename_i popped isPopped
    split
    · rename_i f mshr_idx isFill _
      have bypass : x.line c rep_lqe.address = none → f.bypass =
          ((x.tags (c.setOf rep_lqe.address)).entry
            (x.tags (c.setOf rep_lqe.address)).front).inTransit := by
        intro missed
        simp only [missed, Option.isSome_none, Bool.false_eq_true, if_false,
          Option.getD_none] at isFill
        exact replace_bypass isFill
      split
      · exact not_false
      · split
        · rename_i passes
          exact .inl ⟨rfl, fun missed => (bypass missed).symm.trans passes⟩
        · rename_i takes
          rw [sameAddress popped isPopped]
          exact .inr ⟨fun missed => (bypass missed).symm.trans (Bool.eq_false_iff.mpr takes),
            _, key_filled _ _ _ _ _, rfl⟩
    · exact not_false
    · exact not_false

theorem fill_safe : x.Safe c (x.fill c rep_lqe) := by
  refine Yields.mono fill_tags fun result filled => ?_
  obtain ⟨same, -⟩ | ⟨-, e, isKey, same⟩ := filled
  · exact Allowed.of_tags same
  · have isTag : e.tag = c.tagOf rep_lqe.address := by
      unfold L2Entry.key at isKey
      split at isKey
      · cases isKey
      · exact Option.some.inj isKey
    constructor
    · intro represented other
      rw [same]
      by_cases isSet : other = c.setOf rep_lqe.address
      · rw [isSet, Function.update_self]
        exact (represented _).take isKey fun _ => L2Entry.holds_iff
      · rw [Function.update_of_ne isSet]
        exact represented other
    · intro other
      rw [same]
      by_cases isSet : other = c.setOf rep_lqe.address
      · rw [isSet, Function.update_self]
        apply WaySet.take_replacesFront
        intro e' holds
        simp only [L2Entry.holds, decide_eq_true_eq] at holds
        exact holds.2.trans isTag.symm
      · rw [Function.update_of_ne isSet]
        exact WaySet.replacesFront_of_kept fun _ => rfl

theorem reply_safe : x.Safe c (x.reply c rep_lqe) := by
  unfold reply
  simp only
  split
  case h_1 => exact write_nd_safe
  case h_2 | h_3 | h_4 => exact fill_safe
  case h_5 | h_6 =>
    split
    · exact not_false
    · exact visit_safe fun e => L2Entry.fromOwner_keepsTag
  case h_7 | h_8 => exact visit_safe fun e => L2Entry.evictedByL1_keepsTag
  case h_9 => exact visit_safe fun e => L2Entry.dir_rd_keepsTag
  case h_10 => exact nack_aside.safe
  case h_11 | h_12 => exact visit_safe fun e => L2Entry.toShared_keepsTag
  case h_13 | h_14 => exact visit_safe fun e => L2Entry.invalidate_keepsTag
  case h_15 => exact Allowed.of_tags rfl
  case h_16 => exact not_false

/-- A request that reads a line for a first-level cache, or writes one that the directory need
    not be asked for. -/
def Uses (e : L2Entry) (req_lqe : NocElement) : Prop :=
  req_lqe.type = .et_read ∧ 1 < req_lqe.from_stack.length ∨
    req_lqe.type = .et_write ∧ e.type ≠ .cs_exclusive ∧ e.type ≠ .cs_shared

theorem request_moves {idx way : ℕ} (found : x.answering c req_lqe.address = some (idx, way))
    (uses : Uses ((x.tags (c.setOf req_lqe.address)).entry way) req_lqe) :
    Yields (fun result => WaySet.MovesToBack idx way (x.tags (c.setOf req_lqe.address))
      (result.1.tags (c.setOf req_lqe.address))) (fun _ => False) (x.request c req_lqe) := by
  obtain ⟨isRead, forL1⟩ | ⟨isWrite, notExclusive, notShared⟩ := uses
  · rw [request, isRead]
    simp only [read, found]
    split
    · exact not_false
    · rename_i single
      rw [single] at forL1
      exact absurd forL1 (Nat.lt_irrefl 1)
    · exact finish_moves found L2Entry.readBy_moved
  · rw [request, isWrite]
    simp only [write, found]
    split
    · rename_i none
      cases none
    · exact not_false
    · rename_i isPlace _
      cases isPlace
      rw [if_neg (not_or.mpr ⟨notExclusive, notShared⟩)]
      exact finish_moves found L2Entry.writeBy_moved

theorem request_safe : x.Safe c (x.request c req_lqe) := by
  unfold request
  split
  · exact read_safe
  · exact write_safe
  · exact not_false

theorem step_allowed {event : Event} {x' : CacheL2} (stepped : x.step c event = .ok x') :
    x.Allowed c x' := by
  cases event with
  | reply rep_lqe =>
    obtain ⟨result, rfl, allowed⟩ := Yields.of_map_eq_ok reply_safe stepped
    exact allowed
  | request req_lqe =>
    obtain ⟨result, rfl, allowed⟩ := Yields.of_map_eq_ok request_safe stepped
    exact allowed

theorem start_represented : c.start.Represented c :=
  fun _ => WaySet.represents_build c.ways_pos rfl

theorem run_represented {events : List Event}
    (run : Run (step c) (fun _ _ _ => True) c.start events x) : x.Represented c :=
  run.invariant start_represented fun _ _ _ represented stepped _ =>
    (step_allowed stepped).1 represented

theorem check_ok (entry : ℕ → L2Entry) : ∀ (ways tag_set : List ℕ),
    ways.Pairwise (fun way other => ∀ tag, (entry way).key = some tag →
      (entry other).key ≠ some tag) →
    (∀ way ∈ ways, ∀ tag ∈ tag_set, (entry way).key ≠ some tag) →
      ∃ tag_set', ways.foldlM (fun tag_set way =>
        if (entry way).type = .cs_invalid then pure tag_set
        else if (entry way).tag ∈ tag_set then (throw .assertion : Except NocError (List ℕ))
        else pure ((entry way).tag :: tag_set)) tag_set = .ok tag_set'
  | [], tag_set, _, _ => ⟨tag_set, rfl⟩
  | way :: ways, tag_set, apart, fresh => by
    obtain ⟨first, rest⟩ := List.pairwise_cons.mp apart
    obtain ⟨firstFresh, restFresh⟩ := List.forall_mem_cons.mp fresh
    rw [List.foldlM_cons]
    by_cases isInvalid : (entry way).type = .cs_invalid
    · rw [if_pos isInvalid]
      exact check_ok entry ways tag_set rest restFresh
    · have isKey : (entry way).key = some (entry way).tag := if_neg isInvalid
      have isNew : (entry way).tag ∉ tag_set := fun isOld => firstFresh _ isOld isKey
      rw [if_neg isInvalid, if_neg isNew]
      apply check_ok entry ways _ rest
      intro other isOther tag isTag
      cases isTag with
      | head => exact first other isOther _ isKey
      | tail _ isOld => exact restFresh other isOther tag isOld

/-- The check of a set finds nothing. -/
theorem test_tags_ok (represented : x.Represented c) (set : ℕ) :
    ∃ tag_set, x.test_tags set = .ok tag_set := by
  have nodup : (x.tags set).ways.Nodup :=
    (represented set).perm.nodup_iff.mpr List.nodup_range
  refine check_ok _ _ _ ?_ fun _ _ _ old => nomatch old
  refine nodup.imp_of_mem fun {way other} isWay isOther differ tag isTag isSame => ?_
  exact differ ((represented set).distinct way isWay other isOther tag isTag isSame)

/-- In a state of a run the sets are represented, and an event replaces no entry but the one at
    the front: the fill of a line that is not there takes it, or leaves the sets as they are
    since that entry is in transit.  A line that is used goes to the back. -/
structure Disciplined (c : CacheL2Config) (x : CacheL2) : Prop where
  represented : x.Represented c
  checked : ∀ set, ∃ tag_set, x.test_tags set = .ok tag_set
  replaces : ∀ event x', x.step c event = .ok x' →
    ∀ set, WaySet.ReplacesFront L2Entry.tag (x.tags set) (x'.tags set)
  fills : ∀ rep_lqe x', x.step c (.reply rep_lqe) = .ok x' →
    rep_lqe.type ∈ [.et_e_rd, .et_s_rd, .et_write] → x.line c rep_lqe.address = none →
      let set := c.setOf rep_lqe.address
      if ((x.tags set).entry (x.tags set).front).inTransit then x'.tags = x.tags
      else WaySet.FillsFront L2Entry.key (c.tagOf rep_lqe.address) (x.tags set) (x'.tags set)
  hits : ∀ req_lqe x', x.step c (.request req_lqe) = .ok x' →
    ∀ idx way, x.answering c req_lqe.address = some (idx, way) →
      let set := c.setOf req_lqe.address
      Uses ((x.tags set).entry way) req_lqe →
        WaySet.MovesToBack idx way (x.tags set) (x'.tags set)

theorem run_disciplined {events : List Event}
    (run : Run (step c) (fun _ _ _ => True) c.start events x) : x.Disciplined c where
  represented := run_represented run
  checked := test_tags_ok (run_represented run)
  replaces _ _ stepped := (step_allowed stepped).2
  fills rep_lqe x' stepped isFill missed := by
    have isReply : x.reply c rep_lqe = x.fill c rep_lqe := by
      unfold reply
      simp only [List.mem_cons, List.not_mem_nil, or_false] at isFill
      obtain isType | isType | isType := isFill <;> rw [isType]
    have filled : Yields (fun result => x.FillsPlace c rep_lqe.address result.1)
      (fun _ => False) (x.reply c rep_lqe) := isReply ▸ fill_tags
    obtain ⟨result, rfl, filled⟩ := filled.of_map_eq_ok stepped
    obtain ⟨same, inTransit⟩ | ⟨settled, e, isKey, same⟩ := filled
    · simp only [inTransit missed, if_true]
      exact same
    · simp only [settled missed, Bool.false_eq_true, if_false, same, Function.update_self]
      exact WaySet.take_fillsFront isKey missed
  hits req_lqe x' stepped idx way found := by
    intro set uses
    obtain ⟨result, rfl, moves⟩ := (request_moves found uses).of_map_eq_ok stepped
    exact moves

end CacheL2

/-! ## The first level -/

namespace CacheL1

variable {c : CacheL1Config} {x : CacheL1} {set : ℕ}

/-- The tag of a valid line. -/
def key (e : ℕ × CoherenceState) : Option ℕ := if e.2 = .cs_invalid then none else some e.1

theorem holds_iff {tag : ℕ} {e : ℕ × CoherenceState} :
    CacheL1Config.holds tag e = true ↔ key e = some tag := by
  simp only [CacheL1Config.holds, key, decide_eq_true_eq]
  split <;> simp_all

/-- Each set represents its part of the cache. -/
def Represented (c : CacheL1Config) (x : CacheL1) : Prop :=
  ∀ set, WaySet.Represents c.num_ways key (x.tags set)

/-- The entries keep their tags. -/
def Touched (c : CacheL1Config) (x x' : CacheL1) : Prop :=
  (x.Represented c → x'.Represented c) ∧
    ∀ set way, ((x'.tags set).entry way).1 = ((x.tags set).entry way).1

theorem Touched.of_tags {x' : CacheL1} (same : x'.tags = x.tags) : x.Touched c x' :=
  ⟨fun represented set => same ▸ represented set, fun set way => by rw [same]⟩

theorem Touched.trans {x' x'' : CacheL1} (touched : x.Touched c x') (touched' : x'.Touched c x'') :
    x.Touched c x'' :=
  ⟨fun represented => touched'.1 (touched.1 represented),
    fun set way => (touched'.2 set way).trans (touched.2 set way)⟩

/-- An entry gets a state; it was valid, or the state is the invalid one. -/
theorem write_touched {way : ℕ} {state : CoherenceState}
    (valid : state = .cs_invalid ∨ ((x.tags set).entry way).2 ≠ .cs_invalid) :
    x.Touched c (x.write set way (((x.tags set).entry way).1, state)) := by
  constructor
  · intro represented other
    by_cases same : other = set
    · subst same
      simp only [write, Function.update_self]
      apply (represented other).write
      obtain isInvalid | wasValid := valid
      · exact .inr (if_pos isInvalid)
      · by_cases isInvalid : state = .cs_invalid
        · exact .inr (if_pos isInvalid)
        · exact .inl ((if_neg isInvalid).trans (if_neg wasValid).symm)
    · simp only [write, Function.update_of_ne same]
      exact represented other
  · intro other way'
    by_cases same : other = set
    · subst same
      simp only [write, Function.update_self]
      by_cases isWay : way' = way
      · rw [isWay, WaySet.write_self]
      · rw [WaySet.write_of_ne _ _ isWay]
    · simp only [write, Function.update_of_ne same]

theorem moveToBack_touched {idx way : ℕ} (isWay : (x.tags set).ways[idx]? = some way) :
    x.Touched c (x.moveToBack set idx way) := by
  constructor
  · intro represented other
    by_cases same : other = set
    · subst same
      simp only [moveToBack, Function.update_self]
      exact (represented other).moveToBack isWay
    · simp only [moveToBack, Function.update_of_ne same]
      exact represented other
  · intro other way'
    by_cases same : other = set
    · subst same
      simp only [moveToBack, Function.update_self, WaySet.moveToBack_entry]
    · simp only [moveToBack, Function.update_of_ne same]

/-- What a fill does to the sets: the entry that holds the line or else the one at the front
    holds it and becomes the one used last. -/
def Fills (c : CacheL1Config) (x : CacheL1) (address : BitVec 64) (x' : CacheL1) : Prop :=
  let set := c.setOf address
  let tag := c.tagOf address
  ∃ state ≠ .cs_invalid, x'.tags = Function.update x.tags set
    ((x.tags set).take (CacheL1Config.holds tag) (tag, state))

end CacheL1

namespace L1Reply

variable {c : CacheL1Config} {r : L1Reply}

theorem setState_touched {state : CoherenceState}
    (valid : state = .cs_invalid ∨ r.found? ≠ some .cs_invalid) :
    r.cache.Touched c (r.setState state).cache := by
  unfold setState
  split
  · exact .of_tags rfl
  · rename_i set way found
    apply CacheL1.write_touched
    refine valid.imp_right fun notInvalid isInvalid => notInvalid ?_
    rw [found?, found, Option.map_some]
    exact congrArg some isInvalid

/-- The kinds of replies that fill no line. -/
def Plain (r : L1Reply) : Prop := r.rep_lqe.type ≠ .et_read ∧ r.rep_lqe.type ≠ .et_write

/-- What a part of a pass may do where the reply fills no line. -/
def Harmless (c : CacheL1Config) (r r' : L1Reply) : Prop :=
  r.cache.Touched c r'.cache ∧ (r.Plain → r'.Plain)

@[simp] theorem setState_rep_lqe (state : CoherenceState) :
    (r.setState state).rep_lqe = r.rep_lqe := by
  unfold setState
  split <;> rfl

theorem Harmless.trans {r' r'' : L1Reply} (harmless : r.Harmless c r')
    (harmless' : r'.Harmless c r'') : r.Harmless c r'' :=
  ⟨harmless.1.trans harmless'.1, fun plain => harmless'.2 (harmless.2 plain)⟩

theorem setState_harmless {state : CoherenceState}
    (valid : state = .cs_invalid ∨ r.found? ≠ some .cs_invalid) :
    r.Harmless c (r.setState state) :=
  ⟨setState_touched valid, fun plain => by rwa [Plain, setState_rep_lqe]⟩

theorem pop_type {lqe popped : NocElement} (isPopped : lqe.pop = .ok popped) :
    popped.type = lqe.type := by
  unfold NocElement.pop at isPopped
  split at isPopped
  · cases isPopped
  · cases isPopped
    rfl

theorem backToL2_harmless : Yields (r.Harmless c) (fun _ => False) (r.backToL2 c) := by
  unfold backToL2
  split
  · exact not_false
  · rename_i popped isPopped
    refine ⟨.of_tags rfl, fun plain => ?_⟩
    unfold Plain at plain
    rwa [← pop_type isPopped] at plain

/-- The answer to the cores leaves the sets and the element as they are. -/
theorem answer_frame {retype : NocElement → NocElement} :
    Yields (fun r' => r'.cache.tags = r.cache.tags ∧ r'.rep_lqe = r.rep_lqe) (fun _ => False)
      (r.answer c retype) := by
  unfold answer
  repeat' split
  all_goals first | exact not_false | exact ⟨rfl, rfl⟩

theorem bypass_harmless : Yields (r.Harmless c) (fun _ => False) (r.bypass c) := by
  unfold bypass
  split
  · exact ⟨.of_tags rfl, id⟩
  · split
    · exact not_false
    · rename_i popped isPopped
      refine Yields.mono answer_frame fun r' same => ⟨.of_tags same.1, fun plain => ?_⟩
      unfold Plain at plain ⊢
      rw [same.2]
      rwa [← pop_type isPopped] at plain

theorem evict_harmless : Yields (r.Harmless c) (fun _ => False) (r.evict c) := by
  unfold evict
  split
  · exact ⟨.of_tags rfl, id⟩
  · have given : r.Harmless c (r.setState .cs_invalid) := setState_harmless (.inl rfl)
    split
    · exact Yields.mono backToL2_harmless fun _ => given.trans
    · exact given

theorem modifiedTo_harmless : Yields (r.Harmless c) (fun _ => False) (r.modifiedTo c) := by
  unfold modifiedTo
  split
  · rename_i found
    have given (state : CoherenceState) : r.Harmless c (r.setState state) :=
      setState_harmless (.inr (by rw [found]; exact fun same => nomatch same))
    split
    · exact given _
    · exact Yields.mono backToL2_harmless fun _ => (given _).trans
  · split
    · exact ⟨.of_tags rfl, id⟩
    · exact backToL2_harmless
  · split
    · exact ⟨.of_tags rfl, id⟩
    · exact backToL2_harmless
  · exact not_false

theorem dir_rd_harmless : Yields (r.Harmless c) (fun _ => False) (r.dir_rd c) := by
  unfold dir_rd
  split
  · exact ⟨.of_tags rfl, id⟩
  · rename_i state found
    split
    · exact ⟨.of_tags rfl, id⟩
    · split
      · exact not_false
      · rename_i isModified
        rw [not_not] at isModified
        have given : r.cache.Touched c (r.setState .cs_exclusive).cache :=
          setState_touched (.inr (by rw [found, isModified]; exact fun same => nomatch same))
        exact ⟨given, fun _ => ⟨fun same => (nomatch same), fun same => (nomatch same)⟩⟩

/-- A pass for a reply that fills no line. -/
theorem step_plain (plain : r.Plain) (index : ℕ) :
    Yields (r.Harmless c) (fun _ => False) (r.step c index) := by
  unfold step
  simp only
  split
  case h_1 | h_2 => exact bypass_harmless
  case h_3 => exact evict_harmless
  case h_4 | h_5 => exact modifiedTo_harmless
  case h_6 => exact dir_rd_harmless
  case h_7 isType => exact absurd isType plain.1
  case h_8 isType => exact absurd isType plain.2
  case h_9 => exact not_false

/-- The passes after the first one do nothing for a reply that fills a line. -/
theorem step_fill_later (fills : ¬ r.Plain) {index : ℕ} (later : index ≠ 0) :
    Yields (fun r' => r'.cache = r.cache ∧ ¬ r'.Plain) (fun _ => False) (r.step c index) := by
  unfold step
  simp only
  split
  case h_7 | h_8 =>
    rw [if_pos later]
    exact ⟨rfl, fills⟩
  all_goals exact absurd (by simp_all [Plain]) fills

@[simp] theorem replace_tags (set way : ℕ) : (r.replace c set way).cache.tags = r.cache.tags := by
  unfold replace
  simp only
  split <;> rfl

@[simp] theorem replace_rep_lqe (set way : ℕ) : (r.replace c set way).rep_lqe = r.rep_lqe := by
  unfold replace
  simp only
  split <;> rfl

/-- The place that a fill takes holds the line and becomes the one used last. -/
theorem fill_place {set tag : ℕ} :
    Yields (fun r' => (∃ state ≠ .cs_invalid, r'.cache.tags = Function.update r.cache.tags set
        ((r.cache.tags set).take (CacheL1Config.holds tag) (tag, state))) ∧
        r'.rep_lqe.type = r.rep_lqe.type) (fun _ => False)
      (r.fill c set tag ((r.cache.tags set).search (CacheL1Config.holds tag))) := by
  unfold fill
  split
  · exact not_false
  · rename_i popped isPopped
    have isType := pop_type isPopped
    cases found : (r.cache.tags set).search (CacheL1Config.holds tag) with
    | none =>
      refine Yields.mono answer_frame fun r' same => ⟨⟨if popped.type = .et_read then .cs_exclusive
        else .cs_modified, ?_, ?_⟩, ?_⟩
      · split <;> exact fun same => nomatch same
      · rw [same.1]
        simp [CacheL1.write, CacheL1.moveToBack, WaySet.take, WaySet.place, found]
      · rw [same.2]
        simpa using isType
    | some place =>
      refine Yields.mono answer_frame fun r' same => ⟨⟨if popped.type = .et_read ∧
        ((r.cache.tags set).entry place.2).2 ≠ .cs_modified then .cs_exclusive else .cs_modified,
          ?_, ?_⟩, ?_⟩
      · split <;> exact fun same => nomatch same
      · rw [same.1]
        simp [CacheL1.write, CacheL1.moveToBack, WaySet.take, WaySet.place, found]
      · rw [same.2]
        exact isType

/-- The first pass fills the line that is there, or the entry at the front. -/
theorem step_fill (fills : ¬ r.Plain) :
    Yields (fun r' => r.cache.Fills c (c.replyAddress r.rep_lqe.address 0) r'.cache ∧ ¬ r'.Plain)
      (fun _ => False) (r.step c 0) := by
  unfold step
  simp only
  split
  case h_7 | h_8 =>
    rw [if_neg (not_not.mpr rfl)]
    refine Yields.mono fill_place fun r' filled => ⟨filled.1, ?_⟩
    unfold Plain at fills ⊢
    rwa [filled.2]
  all_goals exact absurd (by simp_all [Plain]) fills

end L1Reply

namespace CacheL1

variable {c : CacheL1Config} {x x' : CacheL1} {rep_lqe req_lqe : NocElement}

/-- What a reply does to the sets. -/
theorem reply_tags : Yields (fun r' => (rep_lqe.type ≠ .et_read ∧ rep_lqe.type ≠ .et_write ∧
      x.Touched c r'.cache) ∨ x.Fills c (c.replyAddress rep_lqe.address 0) r'.cache)
    (fun _ => False) (x.reply c rep_lqe) := by
  obtain ⟨later, isNumber⟩ : ∃ later, 2 ^ (c.l2_set_lsb - c.set_lsb) = later + 1 :=
    ⟨_, (Nat.sub_add_cancel Nat.one_le_two_pow).symm⟩
  by_cases plain : L1Reply.Plain { cache := x, rep_lqe }
  · have touched : Yields (fun r' => x.Touched c r'.cache ∧ r'.Plain) (fun _ => False)
        (x.reply c rep_lqe) := by
      refine Yields.foldlM _ (fun index _ r running => ?_) ⟨.of_tags rfl, plain⟩
      exact Yields.mono (L1Reply.step_plain running.2 index) fun r' harmless =>
        ⟨running.1.trans harmless.1, harmless.2 running.2⟩
    exact Yields.mono touched fun r' done => .inl ⟨plain.1, plain.2, done.1⟩
  · have filled : Yields (fun r' => x.Fills c (c.replyAddress rep_lqe.address 0) r'.cache ∧
        ¬ r'.Plain) (fun _ => False) (x.reply c rep_lqe) := by
      rw [reply, isNumber, List.range_succ_eq_map, List.foldlM_cons]
      refine Yields.bind (L1Reply.step_fill plain) fun r filled => ?_
      refine Yields.foldlM _ (fun index isIndex r running => ?_) filled
      obtain ⟨earlier, -, rfl⟩ := List.mem_map.mp isIndex
      exact Yields.mono (L1Reply.step_fill_later running.2 (Nat.succ_ne_zero earlier))
        fun r' same => ⟨same.1 ▸ running.1, same.2⟩
    exact Yields.mono filled fun r' done => .inr done.1

/-- What an event may do to the sets: they stay represented, and no entry is replaced but the one
    at the front. -/
def Allowed (c : CacheL1Config) (x x' : CacheL1) : Prop :=
  (x.Represented c → x'.Represented c) ∧
    ∀ set, WaySet.ReplacesFront Prod.fst (x.tags set) (x'.tags set)

theorem Touched.allowed (touched : x.Touched c x') : x.Allowed c x' :=
  ⟨touched.1, fun set => WaySet.replacesFront_of_kept (touched.2 set)⟩

theorem Fills.allowed {address : BitVec 64} (fills : x.Fills c address x') : x.Allowed c x' := by
  obtain ⟨state, isValid, same⟩ := fills
  have isKey : key (c.tagOf address, state) = some (c.tagOf address) := if_neg isValid
  constructor
  · intro represented other
    rw [same]
    by_cases isSet : other = c.setOf address
    · rw [isSet, Function.update_self]
      exact (represented _).take isKey fun _ => holds_iff
    · rw [Function.update_of_ne isSet]
      exact represented other
  · intro other
    rw [same]
    by_cases isSet : other = c.setOf address
    · rw [isSet, Function.update_self]
      apply WaySet.take_replacesFront
      intro e' holds
      simp only [CacheL1Config.holds, decide_eq_true_eq] at holds
      exact holds.2
    · rw [Function.update_of_ne isSet]
      exact WaySet.replacesFront_of_kept fun _ => rfl

/-- A look-up of a line. -/
theorem access_touched {etype : EventType} {set tag : ℕ} :
    x.Touched c (x.access c etype set tag).1 := by
  unfold access
  split
  · exact .of_tags rfl
  · split
    · exact .of_tags rfl
    · rename_i idx way found
      obtain ⟨isWay, -⟩ := WaySet.search_eq_some found
      simp only
      split
      · exact moveToBack_touched isWay
      · split
        · exact write_touched (.inl rfl)
        · exact .of_tags rfl

end CacheL1

namespace L1Request

variable {c : CacheL1Config} {r : L1Request} {req_lqe : NocElement}

/-- The sets are left as they are. -/
def Aside (r : L1Request) (done : Except NocError L1Request) : Prop :=
  Yields (fun r' => r'.cache.tags = r.cache.tags) (fun _ => False) done

theorem answer_aside : r.Aside (r.answer c req_lqe) := by
  unfold answer
  split
  · exact not_false
  · exact rfl

theorem miss_aside {etype : EventType} : r.Aside (r.miss c etype req_lqe) := by
  unfold miss
  simp only
  repeat' split
  all_goals first | exact not_false | exact answer_aside | exact rfl

theorem fetchNext_tags {prev_addr next_addr : BitVec 64} {th_id : ℕ} :
    (r.fetchNext c prev_addr next_addr th_id).1.cache.tags = r.cache.tags := by
  unfold fetchNext
  repeat' split
  all_goals rfl

theorem fetchPrev_tags {prev_addr next_addr : BitVec 64} {th_id : ℕ} :
    (r.fetchPrev c prev_addr next_addr th_id).cache.tags = r.cache.tags := by
  unfold fetchPrev
  repeat' split
  all_goals rfl

theorem neighbours_tags : (r.neighbours c req_lqe).cache.tags = r.cache.tags := by
  unfold neighbours
  simp only
  split
  · exact fetchNext_tags
  · exact fetchPrev_tags.trans fetchNext_tags

end L1Request

namespace CacheL1

variable {c : CacheL1Config} {x x' : CacheL1} {rep_lqe req_lqe : NocElement}

theorem request_touched :
    Yields (fun r => x.Touched c r.cache) (fun _ => False) (x.request c req_lqe) := by
  unfold request
  simp only
  split
  · have looked : x.Touched c (x.access c req_lqe.type (c.setOf req_lqe.address)
        (c.tagOf req_lqe.address)).1 := access_touched
    generalize x.access c req_lqe.type (c.setOf req_lqe.address) (c.tagOf req_lqe.address) = found
      at looked
    have done : L1Request.Aside { cache := found.1 }
        (if found.2 then L1Request.answer c { cache := found.1 } req_lqe
          else L1Request.miss c { cache := found.1 } req_lqe.type req_lqe) := by
      split
      · exact L1Request.answer_aside
      · exact L1Request.miss_aside
    split
    · exact not_false
    · rename_i r isDone
      rw [isDone] at done
      have same : x.Touched c r.cache := looked.trans (.of_tags done)
      show x.Touched c (if _ then _ else _ : L1Request).cache
      split
      · exact same.trans (.of_tags L1Request.neighbours_tags)
      · exact same
  · exact not_false

theorem step_allowed {event : Event} (stepped : x.step c event = .ok x') : x.Allowed c x' := by
  cases event with
  | reply rep_lqe =>
    obtain ⟨r, rfl, done⟩ := reply_tags.of_map_eq_ok stepped
    obtain ⟨-, -, touched⟩ | fills := done
    · exact touched.allowed
    · exact fills.allowed
  | request req_lqe =>
    obtain ⟨r, rfl, touched⟩ := request_touched.of_map_eq_ok stepped
    exact Touched.allowed touched

theorem start_represented : c.start.Represented c :=
  fun _ => WaySet.represents_build c.ways_pos rfl

/-- A read of a valid line or a write of a modified one. -/
def Hits (etype : EventType) (state : CoherenceState) : Prop :=
  state = .cs_modified ∨ etype = .et_read ∧ (state = .cs_shared ∨ state = .cs_exclusive)

theorem request_moves {idx way : ℕ} (looksUp : c.always_hit = false)
    (found : (x.tags (c.setOf req_lqe.address)).search
      (CacheL1Config.holds (c.tagOf req_lqe.address)) = some (idx, way))
    (hits : Hits req_lqe.type ((x.tags (c.setOf req_lqe.address)).entry way).2) :
    Yields (fun r => WaySet.MovesToBack idx way (x.tags (c.setOf req_lqe.address))
      (r.cache.tags (c.setOf req_lqe.address))) (fun _ => False) (x.request c req_lqe) := by
  have moved : x.access c req_lqe.type (c.setOf req_lqe.address) (c.tagOf req_lqe.address) =
      (x.moveToBack (c.setOf req_lqe.address) idx way, true) := by
    rw [access, looksUp, if_neg Bool.false_ne_true, found]
    exact if_pos hits
  have moves : WaySet.MovesToBack idx way (x.tags (c.setOf req_lqe.address))
      ((x.moveToBack (c.setOf req_lqe.address) idx way).tags (c.setOf req_lqe.address)) := by
    simp only [moveToBack, Function.update_self]
    exact WaySet.moveToBack_ways (WaySet.search_eq_some found).1
  unfold request
  simp only [moved, if_true]
  split
  · have answered : L1Request.Aside
        { cache := x.moveToBack (c.setOf req_lqe.address) idx way }
        (L1Request.answer c { cache := x.moveToBack (c.setOf req_lqe.address) idx way } req_lqe) :=
      L1Request.answer_aside
    split
    · exact not_false
    · rename_i r isDone
      rw [isDone] at answered
      have same : r.cache.tags = (x.moveToBack (c.setOf req_lqe.address) idx way).tags := answered
      show WaySet.MovesToBack idx way _ ((if _ then _ else _ : L1Request).cache.tags _)
      split
      · rwa [L1Request.neighbours_tags, same]
      · rwa [same]
  · exact not_false

/-- In a state of a run the sets are represented, and an event replaces no entry but the one at
    the front: the fill of a line that is not there takes it.  A line that is hit goes to the
    back. -/
structure Disciplined (c : CacheL1Config) (x : CacheL1) : Prop where
  represented : x.Represented c
  replaces : ∀ event x', x.step c event = .ok x' →
    ∀ set, WaySet.ReplacesFront Prod.fst (x.tags set) (x'.tags set)
  fills : ∀ rep_lqe x', x.step c (.reply rep_lqe) = .ok x' →
    rep_lqe.type = .et_read ∨ rep_lqe.type = .et_write →
      let address := c.replyAddress rep_lqe.address 0
      let set := c.setOf address
      (x.tags set).search (CacheL1Config.holds (c.tagOf address)) = none →
        WaySet.FillsFront key (c.tagOf address) (x.tags set) (x'.tags set)
  hits : ∀ req_lqe x', x.step c (.request req_lqe) = .ok x' → c.always_hit = false →
    let set := c.setOf req_lqe.address
    ∀ idx way, (x.tags set).search (CacheL1Config.holds (c.tagOf req_lqe.address)) =
        some (idx, way) → Hits req_lqe.type ((x.tags set).entry way).2 →
      WaySet.MovesToBack idx way (x.tags set) (x'.tags set)

theorem run_disciplined {events : List Event}
    (run : Run (step c) (fun _ _ _ => True) c.start events x) : x.Disciplined c where
  represented := run.invariant start_represented fun _ _ _ represented stepped _ =>
    (step_allowed stepped).1 represented
  replaces _ _ stepped := (step_allowed stepped).2
  fills rep_lqe x' stepped isFill := by
    intro address set missed
    obtain ⟨r, rfl, done⟩ := reply_tags.of_map_eq_ok stepped
    obtain ⟨notRead, notWrite, -⟩ | ⟨state, isValid, same⟩ := done
    · exact absurd isFill (not_or.mpr ⟨notRead, notWrite⟩)
    · rw [same, Function.update_self]
      exact WaySet.take_fillsFront (if_neg isValid) missed
  hits req_lqe x' stepped looksUp := by
    intro set idx way found hits
    obtain ⟨r, rfl, moves⟩ := (request_moves looksUp found hits).of_map_eq_ok stepped
    exact moves

end CacheL1

/-- After every run of a cache of either level the pointers of a set are those that it was built
    with, its valid lines have tags of their own, and what is replaced is at the front of the order
    of the last uses. -/
theorem cache_sets {c1 : CacheL1Config} {events1 : List CacheL1.Event} {x1 : CacheL1}
    (run1 : Run (CacheL1.step c1) (fun _ _ _ => True) c1.start events1 x1)
    {c2 : CacheL2Config} {events2 : List CacheL2.Event} {x2 : CacheL2}
    (run2 : Run (CacheL2.step c2) (fun _ _ _ => True) c2.start events2 x2) :
    x1.Disciplined c1 ∧ x2.Disciplined c2 :=
  ⟨CacheL1.run_disciplined run1, CacheL2.run_disciplined run2⟩

def smallL1 : CacheL1Config where
  num_sets := 2
  num_ways := 2
  set_lsb := 6
  l2_set_lsb := 6
  num_mshrs := 4
  num_pre_entries := 4
  always_hit := false
  use_prefetch := true
  is_nuca := false
  which_l2 _ := 0
  self := ⟨.ct_cachel1d, 0⟩
  cachel2 := ⟨.ct_cachel2, 0⟩
  sets_pos := Nat.two_pos
  ways_pos := Nat.two_pos
  lsb_le := by decide
  pre_entries_pos := Nat.le_add_left 1 3

def smallL2 : CacheL2Config where
  num_sets := 2
  num_ways := 2
  set_lsb := 6
  num_mshrs := 4
  num_flits_per_packet := 5
  always_hit := false
  is_nuca := false
  is_asymmetric := false
  which_mc _ := 0
  self := ⟨.ct_cachel2, 0⟩
  directory := some ⟨.ct_directory, 0⟩
  sets_pos := Nat.two_pos
  ways_pos := Nat.two_pos

/-- A read of the line at 128, from a core to the first level and back. -/
def coreRead (type : EventType) (from_stack : List Component) : NocElement where
  id := 7
  type := type
  address := 128
  from_stack := from_stack

def readL1 : List CacheL1.Event :=
  [.request (coreRead .et_read [⟨.ct_o3core, 0⟩]),
    .reply (coreRead .et_read [⟨.ct_cachel1d, 0⟩, ⟨.ct_o3core, 0⟩])]

def readL2 : List CacheL2.Event :=
  [.request (coreRead .et_read [⟨.ct_cachel1d, 0⟩, ⟨.ct_o3core, 0⟩]),
    .reply (coreRead .et_e_rd [⟨.ct_cachel2, 0⟩, ⟨.ct_cachel1d, 0⟩, ⟨.ct_o3core, 0⟩])]

theorem cache_sets_after_read : ∃ x1 x2,
    Run (CacheL1.step smallL1) (fun _ _ _ => True) smallL1.start readL1 x1 ∧
      Run (CacheL2.step smallL2) (fun _ _ _ => True) smallL2.start readL2 x2 ∧
        CacheL1.Disciplined smallL1 x1 ∧ CacheL2.Disciplined smallL2 x2 := by
  have runs1 : (execute (CacheL1.step smallL1) (fun _ _ _ => True) smallL1.start readL1).isSome := by
    decide +kernel
  have runs2 : (execute (CacheL2.step smallL2) (fun _ _ _ => True) smallL2.start readL2).isSome := by
    decide +kernel
  obtain ⟨x1, executed1⟩ := Option.isSome_iff_exists.mp runs1
  obtain ⟨x2, executed2⟩ := Option.isSome_iff_exists.mp runs2
  have run1 := execute_run executed1
  have run2 := execute_run executed2
  exact ⟨x1, x2, run1, run2, cache_sets run1 run2⟩

end ActiveRouting
