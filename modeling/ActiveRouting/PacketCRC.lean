import ActiveRouting.Library.ReflectedCRC
import ActiveRouting.Packet

/-!
# The CRC of a packet

`CalcCRC` divides its bytes by the polynomial, and `GetCRC` the words of a packet, whose fields lie
side by side.
-/

namespace ActiveRouting

namespace Packet

open ReflectedCRC

/-! ## `CalcCRC` -/

/-- The bits of a byte string in the order of the division. -/
def byteBits (mem : List (BitVec 8)) : List Bool := mem.flatMap fun byte => bits 8 byte.toNat

theorem makeCRCtable_eq (id : BitVec 32) (i : BitVec 8) :
    makeCRCtable id i = (shift id)^[8] (i.setWidth 32) := rfl

/-- The table takes a byte where the division takes eight bits. -/
theorem calcCRC_eq_divide (mem : List (BitVec 8)) (crc id : BitVec 32) :
    calcCRC mem crc (makeCRCtable id) = ~~~ divide id (~~~ crc) (byteBits mem) := by
  unfold calcCRC
  congr 1
  generalize ~~~ crc = register
  induction mem generalizing register with
  | nil => rfl
  | cons byte mem inductionHypothesis =>
    have eight : divide id register (bits 8 byte.toNat) = _ :=
      divide_bits byte (by decide : 8 ≤ 32) register
    rw [byteBits, List.flatMap_cons, divide_append, eight, List.foldl_cons, inductionHypothesis,
      makeCRCtable_eq]
    rfl

theorem calcCRC_append (first second : List (BitVec 8)) (crc : BitVec 32)
    (table : BitVec 8 → BitVec 32) :
    calcCRC (first ++ second) crc table = calcCRC second (calcCRC first crc table) table := by
  simp [calcCRC]

/-- A byte string may be handed over in chunks. -/
theorem calcCRC_flatten (chunks : List (List (BitVec 8))) (crc : BitVec 32)
    (table : BitVec 8 → BitVec 32) :
    calcCRC chunks.flatten crc table =
      chunks.foldl (fun crc chunk => calcCRC chunk crc table) crc := by
  induction chunks generalizing crc with
  | nil => simp [calcCRC]
  | cons chunk chunks inductionHypothesis =>
    rw [List.flatten_cons, calcCRC_append, inductionHypothesis, List.foldl_cons]

/-! ## The words of `GetCRC` -/

/-- The bits of words in the order of the division. -/
def wordBits (words : List (BitVec 64)) : List Bool := words.flatMap fun word => bits 64 word.toNat

theorem byteBits_buf (word : BitVec 64) : byteBits (buf word) = bits 64 word.toNat := by
  have step : ∀ n, byteBits ((List.range n).map fun i => (word >>> (8 * i)).setWidth 8) =
      bits (8 * n) word.toNat := by
    intro n
    induction n with
    | zero => rfl
    | succ n inductionHypothesis =>
      have byte : bits 8 ((word >>> (8 * n)).setWidth 8).toNat =
          bits 8 (word.toNat >>> (8 * n)) := by
        apply bits_eq_iff.mpr
        simp
      rw [byteBits] at inductionHypothesis ⊢
      rw [List.range_succ, List.map_append, List.flatMap_append, inductionHypothesis, Nat.mul_succ,
        bits_add, ← byte]
      simp
  exact step 8

theorem byteBits_words (words : List (BitVec 64)) :
    byteBits (words.map buf).flatten = wordBits words := by
  rw [← List.flatMap_def, byteBits, List.flatMap_assoc, wordBits]
  apply congrArg (words.flatMap ·)
  funext word
  exact byteBits_buf word

theorem getCRCOf_eq_divide (memory : BitVec 64 × BitVec 64) (p : Packet) :
    p.getCRCOf memory =
      ~~~ divide crcPolynomial (~~~ 0#32) (wordBits (packetData memory p)) := by
  have words : (packetData memory p).foldl
      (fun crc word => calcCRC (buf word) crc (makeCRCtable crcPolynomial)) 0 =
        calcCRC ((packetData memory p).map buf).flatten 0 (makeCRCtable crcPolynomial) := by
    rw [calcCRC_flatten, List.foldl_map]
  rw [getCRCOf, words, calcCRC_eq_divide, byteBits_words]
  rfl

/-! ## Fields in a word -/

/-- The bits of fields, given by width and value. -/
def fieldBits (fields : List (ℕ × ℕ)) : List Bool :=
  fields.flatMap fun field => bits field.1 field.2

/-- The bits that the fields occupy. -/
def totalWidth (fields : List (ℕ × ℕ)) : ℕ := (fields.map Prod.fst).sum

/-- The fields push out what was in the word and lie side by side, the last one lowest. -/
theorem bits_packFields (word : BitVec 64) {fields : List (ℕ × ℕ)} (fits : totalWidth fields ≤ 64) :
    bits (totalWidth fields) (packFields word fields).toNat = fieldBits fields.reverse := by
  induction fields using List.reverseRecOn with
  | nil => rfl
  | append_singleton fields field inductionHypothesis =>
    have width : totalWidth (fields ++ [field]) = field.1 + totalWidth fields := by
      simp [totalWidth, Nat.add_comm]
    have packed : packFields word (fields ++ [field]) =
        (packFields word fields <<< field.1) ||| BitVec.ofNat 64 (field.2 % 2 ^ field.1) := by
      simp [packFields]
    generalize packFields word fields = earlier at packed inductionHypothesis
    have lowest : bits field.1 (packFields word (fields ++ [field])).toNat =
        bits field.1 field.2 := by
      apply List.map_congr_left
      intro i member
      have bound := List.mem_range.mp member
      have inWord : i < 64 := by omega
      rw [packed, BitVec.testBit_toNat, BitVec.getLsbD_or, BitVec.getLsbD_shiftLeft,
        BitVec.getLsbD_ofNat, Nat.testBit_mod_two_pow]
      simp [bound, inWord]
    have others : bits (totalWidth fields)
        ((packFields word (fields ++ [field])).toNat >>> field.1) =
          bits (totalWidth fields) earlier.toNat := by
      apply List.map_congr_left
      intro i member
      have bound := List.mem_range.mp member
      have inWord : field.1 + i < 64 := by omega
      have above : ¬ field.1 + i < field.1 := by omega
      rw [packed, Nat.testBit_shiftRight, BitVec.testBit_toNat, BitVec.testBit_toNat,
        BitVec.getLsbD_or, BitVec.getLsbD_shiftLeft, BitVec.getLsbD_ofNat, Nat.testBit_mod_two_pow]
      simp [inWord, above]
    rw [width, bits_add, lowest, others, inductionHypothesis (by omega)]
    simp [fieldBits]

theorem totalWidth_crcHeader (p : Packet) : totalWidth p.crcHeader = 64 := by
  unfold crcHeader
  split <;> rfl

theorem totalWidth_crcTail (p : Packet) : totalWidth p.crcTail = 64 := by
  unfold crcTail
  split <;> rfl

/-- The fields of a packet in the order of the division. -/
def crcFields (p : Packet) : List (ℕ × ℕ) :=
  p.crcHeader.reverse ++ p.payload.map (fun word => (64, word.toNat)) ++ p.crcTail.reverse

theorem wordBits_packetData (memory : BitVec 64 × BitVec 64) (p : Packet) :
    wordBits (packetData memory p) = fieldBits p.crcFields := by
  have header := bits_packFields memory.1 (totalWidth_crcHeader p).le
  have tail := bits_packFields memory.2 (totalWidth_crcTail p).le
  rw [totalWidth_crcHeader] at header
  rw [totalWidth_crcTail] at tail
  simp only [wordBits, packetData, List.flatMap_append, List.flatMap_singleton, header, tail,
    fieldBits, crcFields, List.flatMap_map]

/-! ## What is covered -/

/-- The fields of a packet that `GetCRC` reads, apart from the length. -/
inductive CoveredField where
  | CUB | ADRS | TAG | CMD | SLID | AF | URTC | DRTC | Pb | ERRSTAT | DINV | SEQ | FRP | RRP
  | DATA (i : ℕ)
  deriving DecidableEq

namespace CoveredField

/-- The bits of the field that are covered. -/
def width : CoveredField → ℕ
  | CUB => 3 | ADRS => 34 | TAG => 11 | CMD => 7 | SLID => 3 | AF => 1 | URTC => 3 | DRTC => 3
  | Pb => 1 | ERRSTAT => 7 | DINV => 1 | SEQ => 3 | FRP => 9 | RRP => 9 | DATA _ => 64

def value (p : Packet) : CoveredField → ℕ
  | CUB => p.CUB | ADRS => p.ADRS.toNat | TAG => p.TAG | CMD => p.CMD.value | SLID => p.SLID
  | AF => p.AF | URTC => p.URTC | DRTC => p.DRTC | Pb => p.Pb | ERRSTAT => p.ERRSTAT
  | DINV => p.DINV | SEQ => p.SEQ | FRP => p.FRP | RRP => p.RRP | DATA i => (p.DATA.getD i 0).toNat

/-- The covered bits of the field. -/
def low (p : Packet) (field : CoveredField) : ℕ := field.value p % 2 ^ field.width

/-- Requests have an address, and the other packets the state of the response. -/
def isCovered (p : Packet) : CoveredField → Bool
  | ADRS | Pb => p.packetType = .REQUEST
  | AF | ERRSTAT | DINV => p.packetType ≠ .REQUEST
  | DATA i => i < (p.LNG - 1) * 2
  | _ => true

end CoveredField

/-- `DATA` is as long as the packet says, as the constructors allocate it. -/
def Allocated (p : Packet) : Prop := (p.LNG - 1) * 2 ≤ p.DATA.length

instance (p : Packet) : Decidable p.Allocated := Nat.decLe _ _

/-- What stands in a place of the words: reserved bits, the length, the returned tokens of both
    directions, or a field. -/
inductive Place where
  | reserved (width : ℕ)
  | length
  | tokens
  | field (name : CoveredField)
  deriving DecidableEq

namespace Place

def width : Place → ℕ
  | reserved width => width
  | length => 5
  | tokens => 3
  | .field name => name.width

def value (p : Packet) : Place → ℕ
  | reserved _ => 0
  | length => p.LNG
  | tokens => p.URTC + p.DRTC
  | .field name => name.value p

/-- Where a field stands. -/
def of : CoveredField → Place
  | .URTC | .DRTC => tokens
  | other => field other

def header (type : PacketType) : List Place :=
  if type = .REQUEST then
    [field .CUB, reserved 3, field .ADRS, reserved 1, field .TAG, length, field .CMD]
  else
    [field .CUB, reserved 19, field .SLID, reserved 5, field .AF, reserved 10, field .TAG, length,
      field .CMD]

def tail (type : PacketType) : List Place :=
  if type = .REQUEST then
    [reserved 32, tokens, field .SLID, reserved 4, field .Pb, field .SEQ, field .FRP, field .RRP]
  else
    [reserved 32, tokens, field .ERRSTAT, field .DINV, field .SEQ, field .FRP, field .RRP]

/-- The places of a packet in the order of the division. -/
def all (p : Packet) : List Place :=
  (header p.packetType).reverse ++
    (List.range ((p.LNG - 1) * 2)).map (fun i => field (.DATA i)) ++ (tail p.packetType).reverse

/-- The bits that stand in a place. -/
def bits (p : Packet) (place : Place) : List Bool := ReflectedCRC.bits place.width (place.value p)

theorem fieldBits_crcFields {p : Packet} (allocated : p.Allocated) :
    fieldBits p.crcFields = (all p).flatMap (bits p) := by
  have header : fieldBits p.crcHeader.reverse = (Place.header p.packetType).reverse.flatMap (bits p) := by
    unfold crcHeader Place.header
    split <;> rfl
  have tail : fieldBits p.crcTail.reverse = (Place.tail p.packetType).reverse.flatMap (bits p) := by
    unfold crcTail Place.tail
    split <;> rfl
  have payload : p.payload = (List.range ((p.LNG - 1) * 2)).map fun i => p.DATA.getD i 0 := by
    apply List.ext_getElem
    · simpa [Packet.payload, Allocated] using allocated
    · intro i bound bound'
      have inData : i < p.DATA.length := by
        simp [Packet.payload] at bound
        omega
      simp [Packet.payload, inData]
  have data : fieldBits (p.payload.map fun word => (64, word.toNat)) =
      ((List.range ((p.LNG - 1) * 2)).map fun i => field (.DATA i)).flatMap (bits p) := by
    rw [payload, fieldBits, List.map_map, List.flatMap_map, List.flatMap_map]
    rfl
  simp only [fieldBits] at header tail data
  simp only [fieldBits, crcFields, all, List.flatMap_append, header, tail, data]

theorem nodup_all (p : Packet) : (all p).Nodup := by
  have fixed : ((header p.packetType).reverse ++ (tail p.packetType).reverse).Nodup := by
    cases p.packetType <;> decide
  have noData : ∀ i, field (.DATA i) ∉ (header p.packetType).reverse ++
      (tail p.packetType).reverse := by
    intro i
    cases p.packetType <;> simp [header, tail]
  have data : ((List.range ((p.LNG - 1) * 2)).map fun i => field (.DATA i)).Nodup :=
    List.nodup_range.map fun i j same => by simpa using same
  simp only [List.nodup_append, List.mem_append, not_or] at fixed noData
  simp only [all, List.nodup_append, List.mem_append]
  refine ⟨⟨fixed.1, data, ?_⟩, fixed.2.1, ?_⟩
  · rintro place inHeader other isData rfl
    obtain ⟨i, _, rfl⟩ := List.mem_map.mp isData
    exact (noData i).1 inHeader
  · rintro place inFront other inTail rfl
    cases inFront with
    | inl inHeader => exact fixed.2.2 _ inHeader _ inTail rfl
    | inr isData =>
      obtain ⟨i, _, rfl⟩ := List.mem_map.mp isData
      exact (noData i).2 inTail

theorem of_mem_all (p : Packet) (name : CoveredField) : of name ∈ all p ↔ name.isCovered p = true := by
  cases type : p.packetType <;> cases name <;>
    simp [of, all, header, tail, CoveredField.isCovered, type]

end Place

/-! ## What `GetCRC` depends on -/

variable {p q : Packet}

theorem getCRCOf_eq_places (memory : BitVec 64 × BitVec 64) (allocated : p.Allocated) :
    p.getCRCOf memory =
      ~~~ divide crcPolynomial (~~~ 0#32) ((Place.all p).flatMap (Place.bits p)) := by
  rw [getCRCOf_eq_divide, wordBits_packetData, Place.fieldBits_crcFields allocated]

theorem getCRC_eq_of_places (memory memory' : BitVec 64 × BitVec 64) (allocated : p.Allocated)
    (allocated' : q.Allocated) (samePlaces : Place.all p = Place.all q)
    (same : ∀ place ∈ Place.all p, Place.bits p place = Place.bits q place) :
    p.getCRCOf memory = q.getCRCOf memory' := by
  rw [getCRCOf_eq_places memory allocated, getCRCOf_eq_places memory' allocated', ← samePlaces]
  congr 2
  exact List.flatMap_congr same

/-- A change within 32 bits of one place. -/
theorem getCRC_ne_of_place (memory memory' : BitVec 64 × BitVec 64) (allocated : p.Allocated)
    (allocated' : q.Allocated) (samePlaces : Place.all p = Place.all q) {place : Place}
    (isPlace : place ∈ Place.all p)
    (differs : DiffersWithin 32 (Place.bits p place) (Place.bits q place))
    (same : ∀ other ∈ Place.all p, other ≠ place → Place.bits p other = Place.bits q other) :
    p.getCRCOf memory ≠ q.getCRCOf memory' := by
  rw [getCRCOf_eq_places memory allocated, getCRCOf_eq_places memory' allocated', ← samePlaces]
  obtain ⟨before, after, split⟩ := List.append_of_mem isPlace
  have once : (before ++ place :: after).Nodup := split ▸ Place.nodup_all p
  rw [List.nodup_append, List.nodup_cons] at once
  rw [split] at same
  have front : before.flatMap (Place.bits p) = before.flatMap (Place.bits q) := by
    apply List.flatMap_congr
    intro other member
    exact same other (by simp [member]) (once.2.2 other member place List.mem_cons_self)
  have back : after.flatMap (Place.bits p) = after.flatMap (Place.bits q) := by
    apply List.flatMap_congr
    intro other member
    apply same other (by simp [member])
    rintro rfl
    exact once.2.1.1 member
  have messages := differs.inside (before.flatMap (Place.bits q)) (after.flatMap (Place.bits q))
  intro equal
  apply divide_ne (by decide : crcPolynomial.msb = true) (~~~ 0#32) messages
  simpa [split, front, back] using congrArg (fun crc => ~~~ crc) equal

theorem all_eq (sameType : q.packetType = p.packetType) (sameLength : q.LNG = p.LNG) :
    Place.all p = Place.all q := by
  rw [Place.all, Place.all, sameType, sameLength]

/-- A field that stands in a place of its own is covered. -/
theorem Place.covered_of_mem {name : CoveredField} (member : Place.field name ∈ Place.all p) :
    name.isCovered p = true ∧ Place.of name = .field name := by
  cases type : p.packetType <;> cases name <;>
    simp_all [of, all, header, tail, CoveredField.isCovered]

/-- A place whose fields keep their covered bits keeps its bits. -/
theorem bits_eq_of_low (sameLength : q.LNG = p.LNG) {place : Place}
    (member : place ∈ Place.all p)
    (same : ∀ name : CoveredField, Place.of name = place → name.isCovered p = true →
      name.low q = name.low p) : Place.bits p place = Place.bits q place := by
  cases place with
  | reserved width => rfl
  | length => simp [Place.bits, Place.value, sameLength]
  | tokens =>
    have up := same .URTC rfl rfl
    have down := same .DRTC rfl rfl
    apply bits_eq_iff.mpr
    simp only [CoveredField.low, CoveredField.value, CoveredField.width] at up down
    simp only [Place.value, Place.width]
    omega
  | field name =>
    obtain ⟨covered, own⟩ := Place.covered_of_mem member
    exact bits_eq_iff.mpr (same name own covered).symm

/-- One covered bit of a field is changed. -/
theorem differs_of_flip {name : CoveredField} {i : ℕ} (bound : i < name.width)
    (flipped : name.low q = name.low p ^^^ 2 ^ i)
    (others : ∀ other : CoveredField, other ≠ name → Place.of other = Place.of name →
      other.low q = other.low p) :
    DiffersWithin 32 (Place.bits p (Place.of name)) (Place.bits q (Place.of name)) := by
  have changed : name.low q ≠ name.low p := by
    rw [flipped]
    intro same
    have zero : name.low p ^^^ (name.low p ^^^ 2 ^ i) = name.low p ^^^ name.low p := by rw [same]
    rw [← Nat.xor_assoc, Nat.xor_self, Nat.zero_xor] at zero
    exact absurd zero (Nat.two_pow_pos i).ne'
  -- the tokens are the sum of two fields, of which only one has changed
  have tokens : Place.of name = .tokens → DiffersWithin 32 (Place.bits p .tokens)
      (Place.bits q .tokens) := by
    intro isTokens
    apply DiffersWithin.of_ne (by simp [Place.bits, length_bits])
      (by simp [Place.bits, length_bits, Place.width])
    intro same
    have sums := bits_eq_iff.mp same
    simp only [Place.value, Place.width] at sums
    cases name <;> simp only [Place.of, reduceCtorEq] at isTokens
    · have down := others .DRTC (by decide) rfl
      simp only [CoveredField.low, CoveredField.value, CoveredField.width] at changed down
      omega
    · have up := others .URTC (by decide) rfl
      simp only [CoveredField.low, CoveredField.value, CoveredField.width] at changed up
      omega
  cases name with
  | URTC => exact tokens rfl
  | DRTC => exact tokens rfl
  | _ => exact DiffersWithin.of_flip (by decide) bound flipped

/-! ## The CRC as a whole -/

/-- `CalcCRC` with the table of `MakeCRCtable` divides bit by bit and may be given its bytes in
    chunks.  `GetCRC` covers the fields that it packs: for packets of one kind and length, it
    depends on nothing else, and finds every change of a single bit of theirs. -/
theorem crc_divides_and_covers :
    (∀ mem crc id, calcCRC mem crc (makeCRCtable id) = ~~~ divide id (~~~ crc) (byteBits mem)) ∧
    (∀ (chunks : List (List (BitVec 8))) crc id, calcCRC chunks.flatten crc (makeCRCtable id) =
      chunks.foldl (fun crc chunk => calcCRC chunk crc (makeCRCtable id)) crc) ∧
    ∀ p q : Packet, p.Allocated → q.Allocated → q.packetType = p.packetType → q.LNG = p.LNG →
      ((∀ name : CoveredField, name.isCovered p = true → name.low q = name.low p) →
        ∀ memory memory', p.getCRCOf memory = q.getCRCOf memory') ∧
      ∀ (name : CoveredField) (i : ℕ), name.isCovered p = true → i < name.width →
        name.low q = name.low p ^^^ 2 ^ i →
        (∀ other : CoveredField, other ≠ name → other.isCovered p = true →
          other.low q = other.low p) →
        ∀ memory memory', p.getCRCOf memory ≠ q.getCRCOf memory' := by
  refine ⟨calcCRC_eq_divide, fun chunks crc id => calcCRC_flatten chunks crc _, ?_⟩
  intro p q allocated allocated' sameType sameLength
  have samePlaces := all_eq sameType sameLength
  constructor
  · intro same memory memory'
    apply getCRC_eq_of_places memory memory' allocated allocated' samePlaces
    intro place member
    exact bits_eq_of_low sameLength member fun name _ covered => same name covered
  · intro name i covered bound flipped others memory memory'
    have isPlace := (Place.of_mem_all p name).mpr covered
    have sharing : ∀ other : CoveredField, other ≠ name → Place.of other = Place.of name →
        other.low q = other.low p := by
      intro other different shares
      exact others other different ((Place.of_mem_all p other).mp (shares ▸ isPlace))
    apply getCRC_ne_of_place memory memory' allocated allocated' samePlaces isPlace
      (differs_of_flip bound flipped sharing)
    intro place member elsewhere
    apply bits_eq_of_low sameLength member
    rintro other rfl isCovered
    exact others other (fun same => elsewhere (same ▸ rfl)) isCovered

/-- A write of two blocks. -/
def twoBlocks : Packet :=
  { packetType := .REQUEST, CMD := .WR32, LNG := 3, DATA := [0, 0, 0x13A463EC, 0] }

/-- A bit of the tag is changed. -/
theorem crc_divides_and_covers_tag :
    twoBlocks.getCRC ≠ { twoBlocks with TAG := 4 }.getCRC := by
  refine (crc_divides_and_covers.2.2 twoBlocks { twoBlocks with TAG := 4 } (by decide) (by decide)
    rfl rfl).2 .TAG 2 rfl (by decide) (by decide) ?_ (0, 0) (0, 0)
  intro other different _
  cases other with
  | TAG => exact absurd rfl different
  | _ => rfl

/-- A bit of the length is changed, and the CRC is the same: the payload that it no longer covers
    makes up for it. -/
theorem length_undetected :
    let shorter : Packet := { twoBlocks with LNG := 2 }
    shorter.Allocated ∧ shorter.LNG = twoBlocks.LNG ^^^ 1 ∧ shorter.getCRC = twoBlocks.getCRC := by
  decide +kernel

end Packet

end ActiveRouting
