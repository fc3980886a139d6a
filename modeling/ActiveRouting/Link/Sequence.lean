import Mathlib.Data.List.Basic
import ActiveRouting.Library.Outcome
import ActiveRouting.Link.LinkSlave

/-!
# Sequence numbers

Sender and receiver count with `counter < 7 ? counter++ : 0`.  The counter of
either end therefore stops at 7, and from the eighth packet on every packet is
numbered 0.  Both ends agree, so an uninterrupted stream is accepted, but the
numbers detect a loss only among the first seven packets.
-/

namespace ActiveRouting

open Outcome

/-- The sequence number of the packet with index `i` since the counter was
    last reset. -/
def seqNumber (i : ℕ) : ℕ := if i < 7 then i else 0

/-! ## The sender -/

namespace LinkMaster

/-- The packets that a master sends in the course of a run: each passes
    `updateField`; between two of them the master may do anything but touch
    its sequence counter. -/
inductive Sends : LinkMaster → List Packet → LinkMaster → Prop where
  | start (m : LinkMaster) : Sends m [] m
  | other {m m' m'' : LinkMaster} {sent : List Packet} : Sends m sent m' →
      m''.masterSEQ = m'.masterSEQ → Sends m sent m''
  | send {m m' m'' : LinkMaster} {sent : List Packet} {nextWriteP : ℕ} {packet packet' : Packet} :
      Sends m sent m' → m'.updateField true nextWriteP packet = .ok m'' →
      m''.linkRxTx = m'.linkRxTx ++ [packet'] → Sends m (sent ++ [packet']) m''

theorem updateField_spec {m m' : LinkMaster} {nextWriteP : ℕ} {packet : Packet}
    (h : m.updateField true nextWriteP packet = .ok m') :
    m'.masterSEQ = (if m.masterSEQ < 7 then m.masterSEQ + 1 else m.masterSEQ) ∧
      ∃ packet', m'.linkRxTx = m.linkRxTx ++ [packet'] ∧
        packet'.SEQ = (if m.masterSEQ < 7 then m.masterSEQ else 0) ∧
        packet'.CRC = packet'.getCRC := by
  simp only [updateField] at h
  split at h
  · exact absurd h throw_ne_ok
  · obtain rfl := pure_eq_ok.mp h
    exact ⟨by simp [countPacket], (m.fillTail true nextWriteP packet).withDelay 1,
      by simp [countPacket], rfl, rfl⟩

theorem Sends.trans {m m' m'' : LinkMaster} {sent sent' : List Packet} (h : Sends m sent m')
    (h' : Sends m' sent' m'') : Sends m (sent ++ sent') m'' := by
  induction h' with
  | start => simpa using h
  | other _ hsame ih => exact ih.other hsame
  | send _ hupdate hpush ih => simpa using ih.send hupdate hpush

theorem updateField_sends {m m' : LinkMaster} {nextWriteP : ℕ} {packet : Packet}
    (h : m.updateField true nextWriteP packet = .ok m') : ∃ sent, Sends m sent m' := by
  obtain ⟨-, packet', hpush, -⟩ := updateField_spec h
  exact ⟨[packet'], (Sends.start m).send h hpush⟩

theorem startCountdown_masterSEQ (crcCheck : Bool) (m : LinkMaster) (packet : Packet) :
    (m.startCountdown crcCheck packet).masterSEQ = m.masterSEQ := by
  rw [startCountdown]
  split <;> rfl

theorem crcCountdown_sends {m m' : LinkMaster} {writeP : ℕ} {packet : Packet}
    (h : m.crcCountdown true writeP packet = .ok m') : ∃ sent, Sends m sent m' := by
  have hstart := (Sends.start m).other (startCountdown_masterSEQ true m packet)
  rw [crcCountdown] at h
  split at h
  · obtain rfl := pure_eq_ok.mp h
    exact ⟨[], hstart.other rfl⟩
  · obtain ⟨m₂, hupdate, h⟩ := bind_eq_ok.mp h
    obtain rfl := pure_eq_ok.mp h
    obtain ⟨sent, hsent⟩ := updateField_sends hupdate
    exact ⟨sent, (hstart.trans hsent).other rfl⟩

theorem sendHead_sends {m m' : LinkMaster} {tokenCount : ℕ} {buffer : List Packet}
    (h : m.sendHead true tokenCount buffer = .ok m') : ∃ sent, Sends m sent m' := by
  have hidle : ∀ {m'}, (pure m : Except LinkError LinkMaster) = .ok m' →
      ∃ sent, Sends m sent m' := fun h => ⟨[], pure_eq_ok.mp h ▸ Sends.start m⟩
  cases buffer with
  | nil => exact hidle h
  | cons head rest =>
    simp only [sendHead, if_true] at h
    split at h
    · split at h
      · split at h
        · split at h
          · exact crcCountdown_sends h
          · exact hidle h
        · split at h
          · exact crcCountdown_sends h
          · exact hidle h
      · exact hidle h
    · exact hidle h

theorem leaveLinkRetry_masterSEQ {m m' : LinkMaster} (h : m.leaveLinkRetry = .ok m') :
    m'.masterSEQ = m.masterSEQ := by
  rw [leaveLinkRetry] at h
  split at h
  · split at h
    · exact absurd h throw_ne_ok
    · exact pure_eq_ok.mp h ▸ rfl
  · exact pure_eq_ok.mp h ▸ rfl

theorem finishLinkRetry_masterSEQ {m m' : LinkMaster} (h : m.finishLinkRetry = .ok m') :
    m'.masterSEQ = m.masterSEQ := by
  rw [finishLinkRetry] at h
  split at h
  · obtain ⟨m'', hleave, hm'⟩ := bind_eq_ok.mp h
    obtain rfl := pure_eq_ok.mp hm'
    exact (leaveLinkRetry_masterSEQ hleave : m''.masterSEQ = m.masterSEQ)
  · exact pure_eq_ok.mp h ▸ rfl

theorem startRetry_masterSEQ (m : LinkMaster) (packet : Packet) :
    (m.startRetry packet).masterSEQ = m.masterSEQ := by
  simp only [startRetry]
  split <;> rfl

theorem countRetryTime_masterSEQ (m : LinkMaster) : m.countRetryTime.masterSEQ = m.masterSEQ := by
  rw [countRetryTime]
  split <;> rfl

theorem retryTimeOut_masterSEQ {m m' : LinkMaster} (h : m.retryTimeOut = .ok m') :
    m'.masterSEQ = m.masterSEQ := by
  simp only [retryTimeOut] at h
  split at h
  · split at h
    · exact pure_eq_ok.mp h ▸ countRetryTime_masterSEQ m
    · split at h
      · exact absurd h throw_ne_ok
      · exact pure_eq_ok.mp h ▸ (startRetry_masterSEQ _ _).trans (countRetryTime_masterSEQ m)
  · exact pure_eq_ok.mp h ▸ countRetryTime_masterSEQ m

/-- What a master sends in one cycle is numbered by `updateField`. -/
theorem update_sends {m m' : LinkMaster} (h : m.update true = .ok m') :
    ∃ sent, Sends m sent m' := by
  obtain ⟨m₁, h₁, h⟩ := bind_eq_ok.mp h
  obtain ⟨m₂, h₂, h⟩ := bind_eq_ok.mp h
  obtain ⟨m₃, h₃, h⟩ := bind_eq_ok.mp h
  obtain ⟨m₄, h₄, h⟩ := bind_eq_ok.mp h
  obtain rfl := pure_eq_ok.mp h
  obtain ⟨sent₁, hsent₁⟩ := sendHead_sends h₁
  obtain ⟨sent₂, hsent₂⟩ := sendHead_sends h₂
  exact ⟨sent₁ ++ sent₂, (hsent₁.trans hsent₂).other
    ((retryTimeOut_masterSEQ h₄).trans (finishLinkRetry_masterSEQ h₃))⟩

/-- What a run has sent from a counter that was reset. -/
theorem Sends.numbered {m m' : LinkMaster} {sent : List Packet} (h : Sends m sent m')
    (hreset : m.masterSEQ = 0) :
    m'.masterSEQ = min 7 sent.length ∧
      (∀ i (hi : i < sent.length), sent[i].SEQ = seqNumber i) ∧
      ∀ p ∈ sent, p.CRC = p.getCRC := by
  induction h with
  | start => simp [hreset]
  | other _ hsame ih => exact hsame ▸ ih
  | send _ hupdate hpush ih =>
    obtain ⟨hcount, hseq, hcrc⟩ := ih
    obtain ⟨hcount', q, hq, hq_seq, hq_crc⟩ := updateField_spec hupdate
    rw [hpush] at hq
    obtain rfl := List.singleton_inj.mp (List.append_cancel_left hq)
    refine ⟨?_, ?_, ?_⟩
    · rw [hcount', hcount, List.length_append, List.length_singleton]
      split <;> omega
    · intro i hi
      rw [List.getElem_append]
      split
      · exact hseq i _
      · rename_i hlast
        rw [List.length_append, List.length_singleton] at hi
        rw [List.getElem_singleton, hq_seq, hcount, seqNumber]
        split <;> split <;> omega
    · intro p hp
      rcases List.mem_append.mp hp with hp | hp
      · exact hcrc p hp
      · rw [List.mem_singleton.mp hp]
        exact hq_crc

end LinkMaster

/-! ## The receiver -/

namespace LinkSlave

/-- The number that the slave expects next. -/
def expectedSEQ (s : LinkSlave) : ℕ := if s.slaveSEQ < 7 then s.slaveSEQ else 0

/-- The packets that a slave accepts in the course of a run. -/
inductive Accepts : LinkSlave → List Packet → LinkSlave → Prop where
  | start (s : LinkSlave) : Accepts s [] s
  | other {s s' s'' : LinkSlave} {passed : List Packet} : Accepts s passed s' →
      s''.slaveSEQ = s'.slaveSEQ → Accepts s passed s''
  | accept {s s' s'' : LinkSlave} {passed : List Packet} {packet : Packet} : Accepts s passed s' →
      s'.checkNoError true packet = (true, s'') → Accepts s (passed ++ [packet]) s''

theorem Accepts.trans {s s' s'' : LinkSlave} {passed passed' : List Packet}
    (h : Accepts s passed s') (h' : Accepts s' passed' s'') :
    Accepts s (passed ++ passed') s'' := by
  induction h' with
  | start => simpa using h
  | other _ hsame ih => exact ih.other hsame
  | accept _ hcheck ih => simpa using ih.accept hcheck

theorem startCountdown_slaveSEQ (crcCheck : Bool) (s : LinkSlave) (packet : Packet) :
    (s.startCountdown crcCheck packet).slaveSEQ = s.slaveSEQ := by
  rw [startCountdown]
  split <;> rfl

theorem receive_slaveSEQ {s s' : LinkSlave} {packet : Packet} (h : s.receive packet = .ok s') :
    s'.slaveSEQ = s.slaveSEQ := by
  rw [receive] at h
  split at h
  · exact absurd h throw_ne_ok
  · split at h <;> split at h
    all_goals first
      | exact absurd h throw_ne_ok
      | exact pure_eq_ok.mp h ▸ rfl

theorem acceptPacket_slaveSEQ {m m' : LinkMaster} {s s' : LinkSlave} {packet : Packet}
    (h : acceptPacket m s packet = .ok (m', s')) : s'.slaveSEQ = s.slaveSEQ := by
  obtain ⟨m'', -, h⟩ := bind_eq_ok.mp h
  split at h
  · obtain ⟨s'', hs'', h⟩ := bind_eq_ok.mp h
    obtain ⟨-, rfl⟩ := Prod.mk.inj (pure_eq_ok.mp h)
    exact receive_slaveSEQ hs''
  · obtain ⟨-, rfl⟩ := Prod.mk.inj (pure_eq_ok.mp h)
    rfl

theorem handleIrtry_slaveSEQ {m m' : LinkMaster} {s s' : LinkSlave} {packet : Packet}
    (h : handleIrtry m s packet = .ok (m', s')) : s'.slaveSEQ = 0 ∨ s'.slaveSEQ = s.slaveSEQ := by
  simp only [handleIrtry] at h
  split at h
  · split at h
    · obtain ⟨m'', -, h⟩ := bind_eq_ok.mp h
      exact .inr (congrArg (·.2.slaveSEQ) (pure_eq_ok.mp h)).symm
    · exact .inr (congrArg (·.2.slaveSEQ) (pure_eq_ok.mp h)).symm
  · split at h
    · split at h
      · exact .inl (congrArg (·.2.slaveSEQ) (pure_eq_ok.mp h)).symm
      · exact .inr (congrArg (·.2.slaveSEQ) (pure_eq_ok.mp h)).symm
    · exact .inr (congrArg (·.2.slaveSEQ) (pure_eq_ok.mp h)).symm

/-- What a slave's counter has done: it was reset, or it counted the packets
    that were accepted. -/
def CountsAccepted (s s' : LinkSlave) : Prop :=
  s'.slaveSEQ = 0 ∨ ∃ passed, Accepts s passed s'

theorem CountsAccepted.of_eq {s s' s'' : LinkSlave} (h : CountsAccepted s' s'')
    (hsame : s'.slaveSEQ = s.slaveSEQ) : CountsAccepted s s'' :=
  h.imp id fun ⟨passed, h⟩ => ⟨passed, ((Accepts.start s).other hsame).trans h⟩

theorem errorCheck_accepts {m : LinkMaster} {s : LinkSlave} {packet : Packet} {out : RxOutcome}
    (h : errorCheck true m s packet = .ok out) :
    match out with
    | .stay _ _ _ => False
    | .leave _ s' _ => CountsAccepted s s'
    | .abort _ s' => s'.currentState = .START_RETRY := by
  rw [errorCheck] at h
  split at h
  · rename_i s₁ hcheck
    obtain ⟨⟨m', s'⟩, haccept, h⟩ := bind_eq_ok.mp h
    obtain rfl := pure_eq_ok.mp h
    exact .inr ⟨_, ((Accepts.start s).accept hcheck).other (acceptPacket_slaveSEQ haccept)⟩
  · obtain ⟨⟨m', s'⟩, habort, h⟩ := bind_eq_ok.mp h
    obtain rfl := pure_eq_ok.mp h
    exact errorAbort_currentState habort

/-- An iteration of the loop leaves the packet in place and counts nothing, or
    counts the packet if it is accepted, or ends in an error abort. -/
theorem rxPacket_accepts {m : LinkMaster} {s : LinkSlave} {packet : Packet} {out : RxOutcome}
    (h : rxPacket true m s packet = .ok out) :
    match out with
    | .stay _ s' _ => s'.slaveSEQ = s.slaveSEQ
    | .leave _ s' _ => CountsAccepted s s'
    | .abort _ s' => s'.currentState = .START_RETRY := by
  have hidle : CountsAccepted s s := .inr ⟨[], .start s⟩
  have hstart := startCountdown_slaveSEQ true s packet
  simp only [rxPacket, checkPacket] at h
  split at h
  · exact pure_eq_ok.mp h ▸ rfl
  · split at h
    · obtain ⟨⟨m', s'⟩, hirtry, h⟩ := bind_eq_ok.mp h
      obtain rfl := pure_eq_ok.mp h
      exact (handleIrtry_slaveSEQ hirtry).imp id fun h => ⟨[], (Accepts.start s).other h⟩
    · split at h
      · exact pure_eq_ok.mp h ▸ hidle
      · split at h
        · exact pure_eq_ok.mp h ▸ hidle
        · split at h
          · exact pure_eq_ok.mp h ▸ rfl
          · split at h
            · exact pure_eq_ok.mp h ▸ hstart
            · have hcheck := errorCheck_accepts h
              cases out with
              | stay m' s' packet' => exact hcheck.elim
              | leave m' s' received => exact hcheck.of_eq hstart
              | abort m' s' => exact hcheck

/-- What a slave takes from `linkRxTx` in one cycle is counted by
    `checkNoError`, or the cycle ends in an error abort. -/
theorem rxLoop_accepts {m' : LinkMaster} {s' : LinkSlave} {received : Option Packet} :
    ∀ {rest passed : List Packet} {m : LinkMaster} {s : LinkSlave},
      rxLoop true m s passed rest = .ok (m', s', received) →
      s'.currentState = .NORMAL → CountsAccepted s s'
  | [], passed, m, s, h, _ =>
    .inr ⟨[], (Accepts.start s).other (congrArg (·.2.1.slaveSEQ) (pure_eq_ok.mp h)).symm⟩
  | packet :: rest, passed, m, s, h, hnormal => by
    obtain ⟨out, hpacket, h⟩ := bind_eq_ok.mp h
    have hcounts := rxPacket_accepts hpacket
    cases out with
    | stay m₁ s₁ packet =>
      exact (rxLoop_accepts h hnormal).of_eq hcounts
    | leave m₁ s₁ received =>
      obtain rfl : { s₁ with linkRxTx := passed ++ rest } = s' :=
        congrArg (·.2.1) (pure_eq_ok.mp h)
      exact hcounts.imp id fun ⟨passed, haccepts⟩ => ⟨passed, haccepts.other rfl⟩
    | abort m₁ s₁ =>
      obtain rfl : { s₁ with linkRxTx := [] } = s' := congrArg (·.2.1) (pure_eq_ok.mp h)
      exact absurd (hcounts.symm.trans hnormal) (by decide)

theorem checkNoError_fst (s : LinkSlave) (packet : Packet) :
    (s.checkNoError true packet).1 = true ↔
      packet.CRC = packet.getCRC ∧ packet.SEQ = s.expectedSEQ := by
  simp only [checkNoError, expectedSEQ, if_true]
  by_cases h : packet.CRC = packet.getCRC <;> simp [h]

theorem checkNoError_snd (s : LinkSlave) (packet : Packet) :
    (s.checkNoError true packet).2.slaveSEQ =
      if s.slaveSEQ < 7 then s.slaveSEQ + 1 else s.slaveSEQ := by
  simp only [checkNoError, if_true]
  split <;> rfl

theorem Accepts.counted {s s' : LinkSlave} {passed : List Packet} (h : Accepts s passed s')
    (hreset : s.slaveSEQ = 0) : s'.slaveSEQ = min 7 passed.length := by
  induction h with
  | start => simp [hreset]
  | other _ hsame ih => exact hsame ▸ ih
  | @accept s' s'' passed packet _ hcheck ih =>
    have hcount := checkNoError_snd s' packet
    rw [hcheck] at hcount
    rw [hcount, ih, List.length_append, List.length_singleton]
    split <;> omega

theorem Accepts.expected {s s' : LinkSlave} {passed : List Packet} (h : Accepts s passed s')
    (hreset : s.slaveSEQ = 0) : s'.expectedSEQ = seqNumber passed.length := by
  rw [expectedSEQ, h.counted hreset, seqNumber]
  split <;> split <;> omega

end LinkSlave

/-! ## Both ends -/

open LinkMaster LinkSlave

/-- What sequence numbers are for, on a stream of sent packets. -/
structure DetectsLoss (sent : List Packet) : Prop where
  /-- The packet with index `i` carries `i mod 8`. -/
  numbered : ∀ i (hi : i < sent.length), sent[i].SEQ = i % 8
  /-- The slave expects the same sequence. -/
  expected : ∀ {s s' : LinkSlave} {n : ℕ} (hn : n < sent.length), s.slaveSEQ = 0 →
    Accepts s (sent.take n) s' → s'.expectedSEQ = sent[n].SEQ
  /-- An uninterrupted stream is accepted. -/
  uninterrupted : ∀ {s : LinkSlave}, s.slaveSEQ = 0 → ∃ s', Accepts s sent s'
  /-- After a loss of 1 to 7 packets the next packet is rejected. -/
  rejects : ∀ {s s' : LinkSlave} {n lost : ℕ} (hn : n + lost < sent.length), s.slaveSEQ = 0 →
    Accepts s (sent.take n) s' → 1 ≤ lost → lost ≤ 7 →
    (s'.checkNoError true sent[n + lost]).1 = false

/-- Both ends count alike, however long the stream. -/
theorem expectedSEQ_agrees {m m' : LinkMaster} {sent : List Packet} (h : Sends m sent m')
    (hm : m.masterSEQ = 0) {s s' : LinkSlave} {n : ℕ} (hn : n < sent.length)
    (hs : s.slaveSEQ = 0) (hacc : Accepts s (sent.take n) s') : s'.expectedSEQ = sent[n].SEQ := by
  have hlen : (sent.take n).length = n := by
    rw [List.length_take]
    omega
  rw [hacc.expected hs, hlen, (h.numbered hm).2.1 n hn]

/-- An uninterrupted stream of any length is accepted. -/
theorem accepts_uninterrupted {m m' : LinkMaster} {sent : List Packet} (h : Sends m sent m')
    (hm : m.masterSEQ = 0) {s : LinkSlave} (hs : s.slaveSEQ = 0) :
    ∀ n ≤ sent.length, ∃ s', Accepts s (sent.take n) s'
  | 0, _ => ⟨s, by simpa using Accepts.start s⟩
  | n + 1, hn => by
    obtain ⟨s', hacc⟩ := accepts_uninterrupted h hm hs n (by omega)
    have hcheck : (s'.checkNoError true sent[n]).1 = true := by
      rw [checkNoError_fst]
      exact ⟨(h.numbered hm).2.2 _ (List.getElem_mem _),
        (expectedSEQ_agrees h hm hn hs hacc).symm⟩
    have htake : sent.take (n + 1) = sent.take n ++ [sent[n]] := by simp
    exact ⟨(s'.checkNoError true sent[n]).2, htake ▸ hacc.accept (Prod.ext hcheck rfl)⟩

/-- The sequence numbers of a run detect losses exactly as long as at most
    seven packets have been sent since the counters were reset. -/
theorem detectsLoss_iff {m m' : LinkMaster} {sent : List Packet} (h : Sends m sent m')
    (hm : m.masterSEQ = 0) : DetectsLoss sent ↔ sent.length ≤ 7 := by
  constructor
  · intro hdetects
    by_contra hlong
    have hseven := hdetects.numbered 7 (by omega)
    rw [(h.numbered hm).2.1 7 (by omega)] at hseven
    simp [seqNumber] at hseven
  · intro hshort
    have hseq := (h.numbered hm).2.1
    refine ⟨?_, fun hn hs hacc => expectedSEQ_agrees h hm hn hs hacc, ?_, ?_⟩
    · intro i hi
      rw [hseq i hi, seqNumber, if_pos (by omega)]
      omega
    · intro s hs
      simpa using accepts_uninterrupted h hm hs sent.length (Nat.le_refl _)
    · intro s s' n lost hn hs hacc hlost _
      have hexpected := expectedSEQ_agrees h hm (by omega) hs hacc
      rw [Bool.eq_false_iff, ne_eq, checkNoError_fst, hexpected, hseq _ hn, hseq n (by omega)]
      simp only [seqNumber]
      rintro ⟨-, heq⟩
      split at heq <;> split at heq <;> omega

/-! ## Nine packets -/

/-- A read of one block. -/
def readRequest : Packet := { packetType := .REQUEST, CMD := .RD16 }

/-- The read as a fresh master sends it for the `i`-th time. -/
def sentRead (i : ℕ) : Packet :=
  Packet.setCRC { readRequest with SEQ := seqNumber i, FRP := i + 1 }

theorem sentRead_withDelay (i : ℕ) : (sentRead i).withDelay 1 = sentRead i := rfl

theorem sentRead_CRC (i : ℕ) : (sentRead i).CRC = (sentRead i).getCRC :=
  (Packet.getCRC_setCRC _).symm

theorem sentRead_LNG (i : ℕ) : (sentRead i).LNG = 1 := rfl

theorem sentRead_FRP (i : ℕ) : (sentRead i).FRP = i + 1 := rfl

theorem saveRetry_retBufWriteP (m : LinkMaster) (packet : Packet) :
    (m.saveRetry true packet).retBufWriteP = packet.FRP := rfl

/-- A packet of one flit takes one slot of the retry buffer. -/
theorem saveRetry_single (m : LinkMaster) {packet : Packet} (hlng : packet.LNG = 1) {n : ℕ}
    (hwrite : m.retBufWriteP = n) (hfree : ∀ i, n ≤ i → m.retryBuffers i = none) :
    ∀ i, n + 1 ≤ i → (m.saveRetry true packet).retryBuffers i = none := by
  intro i hi
  have hslots : (m.saveRetry true packet).retryBuffers =
      Function.update m.retryBuffers m.retBufWriteP (some packet) := by
    simp [saveRetry, hlng, clearTail]
  rw [hslots, Function.update_of_ne (by omega)]
  exact hfree i (by omega)

/-- A fresh master can send reads until its retry buffer is full. -/
theorem sends_reads : ∀ n < maxRetryBuf, ∃ m : LinkMaster,
    Sends { downstream := true } ((List.range n).map sentRead) m ∧ m.masterSEQ = min 7 n ∧
      m.lastestRRP = 0 ∧ m.retBufWriteP = n ∧ ∀ i, n ≤ i → m.retryBuffers i = none
  | 0, _ => ⟨_, .start _, rfl, rfl, rfl, fun _ _ => rfl⟩
  | n + 1, hn => by
    obtain ⟨m, hsends, hcount, hrrp, hwrite, hfree⟩ := sends_reads n (by omega)
    have hslot : m.retryBuffers m.retBufWriteP = none := hfree _ (by omega)
    have hseq : (if m.masterSEQ < 7 then m.masterSEQ else 0) = seqNumber n := by
      rw [hcount, seqNumber]
      split <;> split <;> omega
    obtain ⟨m', hsent, hpush, hcount', hrrp', hwrite', hfree'⟩ :
        ∃ m', m.updateField true (m.retBufWriteP + 1) readRequest = .ok m' ∧
          m'.linkRxTx = m.linkRxTx ++ [sentRead n] ∧
          m'.masterSEQ = (if m.masterSEQ < 7 then m.masterSEQ + 1 else m.masterSEQ) ∧
          m'.lastestRRP = 0 ∧ m'.retBufWriteP = n + 1 ∧
          ∀ i, n + 1 ≤ i → m'.retryBuffers i = none := by
      rw [hwrite] at hslot
      rw [updateField, hwrite, if_neg (by simp [hslot])]
      have hpacket : m.fillTail true (n + 1) readRequest = sentRead n := by
        rw [fillTail, if_pos rfl, numberPacket, hseq, hrrp, if_pos hn]
        exact congrArg Packet.setCRC rfl
      rw [hpacket]
      refine ⟨((m.countPacket (sentRead n)).saveRetry true (sentRead n)).pushLink (sentRead n), rfl,
        ?_, ?_, ?_, ?_, fun i hi => ?_⟩
      · rw [pushLink_linkRxTx, saveRetry_linkRxTx, sentRead_withDelay, countPacket_linkRxTx]
      · rw [pushLink_masterSEQ, saveRetry_masterSEQ]
        rfl
      · rw [pushLink_lastestRRP, saveRetry_lastestRRP, countPacket_lastestRRP, hrrp]
      · rw [pushLink_retBufWriteP, saveRetry_retBufWriteP, sentRead_FRP]
      · rw [pushLink_retryBuffers]
        refine saveRetry_single _ (sentRead_LNG n) ?_ ?_ i hi
        · rw [countPacket_retBufWriteP, hwrite]
        · rw [countPacket_retryBuffers]
          exact hfree
    refine ⟨m', ?_, ?_, hrrp', hwrite', hfree'⟩
    · rw [List.range_succ, List.map_append]
      exact hsends.send hsent hpush
    · rw [hcount', hcount]
      split <;> omega

/-- A slave accepts the reads that a fresh master sends. -/
theorem accepts_reads (n : ℕ) (hn : n < maxRetryBuf) :
    ∃ s, Accepts { downstream := false } ((List.range n).map sentRead) s := by
  obtain ⟨m, hsends, -⟩ := sends_reads n hn
  obtain ⟨s, hacc⟩ := accepts_uninterrupted hsends rfl (s := { downstream := false }) rfl _
    (Nat.le_refl _)
  exact ⟨s, by rwa [List.take_length] at hacc⟩

/-- Of nine reads sent in a row the eighth carries 0 instead of 7, and when it
    is lost the slave takes the ninth in its place. -/
theorem ninth_read_undetected :
    ∃ m : LinkMaster, Sends { downstream := true } ((List.range 9).map sentRead) m ∧
      (sentRead 7).SEQ = 0 ∧
      (∃ s, Accepts { downstream := false } ((List.range 7).map sentRead) s ∧
        (s.checkNoError true (sentRead 8)).1 = true) ∧
      ¬ DetectsLoss ((List.range 9).map sentRead) := by
  obtain ⟨m, hsends, -⟩ := sends_reads 9 (by decide)
  obtain ⟨s, hacc⟩ := accepts_reads 7 (by decide)
  refine ⟨m, hsends, rfl, ⟨s, hacc, ?_⟩, fun hdetects => ?_⟩
  · rw [checkNoError_fst, hacc.expected rfl]
    exact ⟨sentRead_CRC 8, rfl⟩
  · exact absurd (hdetects.numbered 7 (by decide)) (by decide)

/-- Seven reads in a row are within the range of the counter. -/
theorem detectsLoss_seven_reads : DetectsLoss ((List.range 7).map sentRead) := by
  obtain ⟨m, hsends, -⟩ := sends_reads 7 (by decide)
  exact (detectsLoss_iff hsends rfl).mpr (by decide)

end ActiveRouting
