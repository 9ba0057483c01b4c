import RyuLdn.DnsWrap
import RyuLdn.LabelSequence
import Mathlib.Data.Nat.Bitwise

/-! The grammar of a DNS response, and what the parser makes of it. A section of a packet
is a list of records, each the value of its bytes, so a packet of the grammar can be built
and every packet that is accepted is one. -/
namespace RyuLdn.DnsWrap

open BigEndian LabelSequence

/-- `image` stands in `packet` from `p` on, up to `q`. -/
def Spans (packet image : List UInt8) (p q : Nat) : Prop :=
  image <+: packet.drop p ∧ q = p + image.length

theorem Spans.nil (packet : List UInt8) (p : Nat) : Spans packet [] p p :=
  ⟨List.nil_prefix, rfl⟩

theorem Spans.append {packet first second : List UInt8} {p q r : Nat}
    (front : Spans packet first p q) (back : Spans packet second q r) :
    Spans packet (first ++ second) p r := by
  obtain ⟨⟨rest, starts⟩, rfl⟩ := front
  obtain ⟨⟨more, follows⟩, rfl⟩ := back
  rw [← List.drop_drop, ← starts, List.drop_left] at follows
  refine ⟨⟨more, ?_⟩, ?_⟩
  · rw [← starts, ← follows, List.append_assoc]
  · rw [List.length_append, Nat.add_assoc]

theorem Spans.split {packet first second : List UInt8} {p r : Nat}
    (whole : Spans packet (first ++ second) p r) :
    ∃ q, Spans packet first p q ∧ Spans packet second q r := by
  obtain ⟨⟨rest, starts⟩, rfl⟩ := whole
  rw [List.append_assoc] at starts
  refine ⟨p + first.length, ⟨⟨_, starts⟩, rfl⟩, ⟨⟨rest, ?_⟩, ?_⟩⟩
  · rw [← List.drop_drop, ← starts, List.drop_left]
  · rw [List.length_append, Nat.add_assoc]

theorem Spans.le {packet image : List UInt8} {p q : Nat} (spans : Spans packet image p q)
    (nonempty : image ≠ []) : q ≤ packet.length ∧ p < q := by
  obtain ⟨front, rfl⟩ := spans
  have inside := front.length_le
  have positive := List.length_pos_iff.mpr nonempty
  rw [List.length_drop] at inside
  omega

theorem spans_take (packet : List UInt8) (p width : Nat) (inside : p + width ≤ packet.length) :
    ((packet.drop p).take width).length = width ∧
      Spans packet ((packet.drop p).take width) p (p + width) := by
  have length : ((packet.drop p).take width).length = width := by
    rw [List.length_take, List.length_drop]
    omega
  exact ⟨length, List.take_prefix _ _, by rw [length]⟩

theorem Spans.field {packet image : List UInt8} {p q width : Nat} (spans : Spans packet image p q)
    (wide : image.length = width) (positive : 0 < width) :
    read packet p width = some (value image) := by
  have ⟨inside, _⟩ := spans.le (List.length_pos_iff.mp (wide ▸ positive))
  obtain ⟨⟨rest, starts⟩, rfl⟩ := spans
  rw [wide] at inside
  rw [read_of_le inside, ← starts, ← wide, List.take_left]

theorem drop_eq_cons {packet : List UInt8} {p : Nat} {b : UInt8}
    (here : packet[p]? = some b) : packet.drop p = b :: packet.drop (p + 1) := by
  obtain ⟨inside, same⟩ := List.getElem?_eq_some_iff.mp here
  rw [List.drop_eq_getElem_cons inside, same]

theorem skipDnsName_spec (response : List UInt8) (p : Nat) :
    ∃ result, skipDnsName response p = some result ∧
      ∀ q, result = some q → ∃ name : Name, Spans response name.image p q := by
  induction p using skipDnsName.induct response with
  | case1 p inside none =>
      rw [List.getElem?_eq_getElem inside] at none
      contradiction
  | case2 p inside labelLen here pointer =>
      rw [skipDnsName, if_pos inside, here]
      dsimp only
      rw [if_pos pointer]
      refine ⟨_, rfl, ?_⟩
      intro q found
      split at found
      · contradiction
      · rename_i room
        cases found
        have second : p + 1 < response.length := by omega
        refine ⟨⟨[], some (labelLen, response[p + 1]), proper_nil, by simpa using pointer⟩, ?_, rfl⟩
        refine ⟨response.drop (p + 2), ?_⟩
        rw [drop_eq_cons here, List.drop_eq_getElem_cons second]
        rfl
  | case3 p inside here notPointer =>
      rw [skipDnsName, if_pos inside, here]
      dsimp only
      rw [if_neg notPointer, if_pos rfl]
      refine ⟨_, rfl, ?_⟩
      intro q found
      cases found
      refine ⟨⟨[], none, proper_nil, marked_none⟩, ⟨response.drop (p + 1), ?_⟩, rfl⟩
      rw [drop_eq_cons here]
      rfl
  | case4 p inside labelLen here notPointer notZero outside =>
      rw [skipDnsName, if_pos inside, here]
      dsimp only
      rw [if_neg notPointer, if_neg notZero, if_pos outside]
      exact ⟨none, rfl, by simp⟩
  | case5 p inside labelLen here notPointer notZero room ih =>
      rw [skipDnsName, if_pos inside, here]
      dsimp only
      rw [if_neg notPointer, if_neg notZero, if_neg room]
      obtain ⟨result, skipped, found⟩ := ih
      refine ⟨result, skipped, ?_⟩
      intro q reached
      obtain ⟨name, spans⟩ := found q reached
      obtain ⟨size, label⟩ := spans_take response (p + 1) labelLen.toNat (by omega)
      have proper : Proper ((response.drop (p + 1)).take labelLen.toNat) := by
        have small := (isPointer_iff labelLen).not.mp notPointer
        rw [← UInt8.toNat_inj, UInt8.toNat_zero] at notZero
        omega
      have byte : Spans response [labelLen] p (p + 1) :=
        ⟨⟨response.drop (p + 1), (drop_eq_cons here).symm⟩, rfl⟩
      refine ⟨⟨(response.drop (p + 1)).take labelLen.toNat :: name.labels, name.pointer, ?_,
        name.marked⟩, ?_⟩
      · intro l member
        rcases List.mem_cons.mp member with rfl | member
        · exact proper
        · exact name.proper l member
      · have whole := byte.append (label.append spans)
        unfold Name.image at whole ⊢
        rw [sequence_cons, size, UInt8.ofNat_toNat]
        exact whole
  | case6 p outside =>
      rw [skipDnsName, if_neg outside]
      exact ⟨none, rfl, by simp⟩

theorem skipDnsName_ending {response : List UInt8} {pointer : Option (UInt8 × UInt8)}
    (marked : ∀ p ∈ pointer, IsPointer p.1) {p q : Nat}
    (spans : Spans response (ending pointer) p q) : skipDnsName response p = some (some q) := by
  obtain ⟨⟨rest, starts⟩, rfl⟩ := spans
  have length := congrArg List.length starts
  rw [List.length_append, List.length_drop] at length
  cases pointer with
  | none =>
      have inside : p < response.length := by
        simp only [ending, List.length_singleton] at length
        omega
      have here : response[p]? = some 0 := by
        rw [← Nat.add_zero p, ← List.getElem?_drop, ← starts]
        rfl
      rw [skipDnsName, if_pos inside, here]
      dsimp only
      rw [if_neg not_isPointer_zero, if_pos rfl]
      rfl
  | some mark =>
      have room : p + 2 ≤ response.length := by
        simp only [ending, List.length_cons, List.length_nil] at length
        omega
      have inside : p < response.length := by omega
      have here : response[p]? = some mark.1 := by
        rw [← Nat.add_zero p, ← List.getElem?_drop, ← starts]
        rfl
      rw [skipDnsName, if_pos inside, here]
      dsimp only
      rw [if_pos (marked mark rfl), if_neg (Nat.not_lt.mpr room)]
      rfl

theorem skipDnsName_label {response label rest : List UInt8} (proper : Proper label) {p q r : Nat}
    (byte : Spans response (UInt8.ofNat label.length :: label) p q)
    (behind : Spans response rest q r) (nonempty : rest ≠ []) :
    skipDnsName response p = skipDnsName response q := by
  obtain ⟨size, notZero, notPointer⟩ := proper.lengthByte
  have ⟨bound, after⟩ := behind.le nonempty
  obtain ⟨⟨more, starts⟩, next⟩ := byte
  have here : response[p]? = some (UInt8.ofNat label.length) := by
    rw [← Nat.add_zero p, ← List.getElem?_drop, ← starts]
    rfl
  have ⟨inside, _⟩ := List.getElem?_eq_some_iff.mp here
  rw [List.length_cons] at next
  rw [skipDnsName, if_pos inside, here]
  dsimp only
  rw [if_neg notPointer, if_neg notZero, size, if_neg (by omega)]
  congr 1
  omega

theorem skipDnsName_name {response : List UInt8} (name : Name) {p q : Nat}
    (spans : Spans response name.image p q) : skipDnsName response p = some (some q) := by
  obtain ⟨labels, pointer, proper, marked⟩ := name
  unfold Name.image at spans
  dsimp only at spans
  induction labels generalizing p with
  | nil =>
      rw [sequence_nil] at spans
      exact skipDnsName_ending marked spans
  | cons label labels ih =>
      rw [sequence_cons, ← List.cons_append] at spans
      obtain ⟨r, first, behind⟩ := spans.split
      have nonempty : LabelSequence.sequence labels pointer ≠ [] := by
        obtain ⟨b, more, starts, _⟩ := ending_eq_cons marked
        unfold LabelSequence.sequence
        rw [starts]
        simp
      rw [skipDnsName_label (proper label (by simp)) first behind nonempty]
      exact ih (fun l member => proper l (by simp [member])) behind

structure Question where
  name : Name
  qtype : UInt16
  qclass : UInt16

def Question.image (question : Question) : List UInt8 :=
  question.name.image ++ bytes 2 question.qtype.toNat ++ bytes 2 question.qclass.toNat

structure Record where
  name : Name
  rtype : UInt16
  rclass : UInt16
  ttl : UInt32
  rdata : List UInt8
  short : rdata.length < 2 ^ 16

namespace Record

def image (record : Record) : List UInt8 :=
  record.name.image ++ (bytes 2 record.rtype.toNat ++ (bytes 2 record.rclass.toNat ++
    (bytes 4 record.ttl.toNat ++ (bytes 2 record.rdata.length ++ record.rdata))))

def address (record : Record) : Option UInt32 :=
  if record.rtype = 1 ∧ record.rclass = 1 ∧ record.rdata.length = 4 then
    some (UInt32.ofNat (value record.rdata))
  else none

end Record

def addresses (records : List Record) : List UInt32 := records.filterMap Record.address

theorem exists_field (packet : List UInt8) (p width : Nat) (inside : p + width ≤ packet.length) :
    ∃ v < 256 ^ width, Spans packet (bytes width v) p (p + width) ∧
      read packet p width = some v := by
  obtain ⟨length, spans⟩ := spans_take packet p width inside
  have bound := value_lt ((packet.drop p).take width)
  have image := bytes_value ((packet.drop p).take width)
  rw [length] at bound image
  refine ⟨value ((packet.drop p).take width), bound, ?_, read_of_le inside⟩
  rwa [image]

theorem field16 (packet : List UInt8) (p : Nat) (inside : p + 2 ≤ packet.length) :
    ∃ v : UInt16, Spans packet (bytes 2 v.toNat) p (p + 2) ∧ read packet p 2 = some v.toNat := by
  obtain ⟨v, bound, spans, here⟩ := exists_field packet p 2 inside
  have same : (UInt16.ofNat v).toNat = v := Nat.mod_eq_of_lt bound
  refine ⟨UInt16.ofNat v, ?_, ?_⟩
  · rwa [same]
  · rwa [same]

theorem field32 (packet : List UInt8) (p : Nat) (inside : p + 4 ≤ packet.length) :
    ∃ v : UInt32, Spans packet (bytes 4 v.toNat) p (p + 4) ∧ read packet p 4 = some v.toNat := by
  obtain ⟨v, bound, spans, here⟩ := exists_field packet p 4 inside
  have same : (UInt32.ofNat v).toNat = v := Nat.mod_eq_of_lt bound
  refine ⟨UInt32.ofNat v, ?_, ?_⟩
  · rwa [same]
  · rwa [same]

theorem Spans.read16 {packet : List UInt8} {v p q : Nat} (small : v < 2 ^ 16)
    (spans : Spans packet (bytes 2 v) p q) : read packet p 2 = some v := by
  rw [spans.field (bytes_length 2 v) Nat.two_pos, value_bytes_of_lt small]

theorem Spans.read32 {packet : List UInt8} {v p q : Nat} (small : v < 2 ^ 32)
    (spans : Spans packet (bytes 4 v) p q) : read packet p 4 = some v := by
  rw [spans.field (bytes_length 4 v) (by decide), value_bytes_of_lt small]

theorem skipQuestions_spec (response : List UInt8) (qdcount p : Nat) :
    ∃ result, skipQuestions response qdcount p = some result ∧
      ∀ q, result = some q → ∃ questions : List Question, questions.length = qdcount ∧
        Spans response (questions.flatMap Question.image) p q := by
  induction qdcount generalizing p with
  | zero =>
      refine ⟨some p, rfl, ?_⟩
      intro q same
      cases same
      exact ⟨[], rfl, Spans.nil response p⟩
  | succ qdcount ih =>
      obtain ⟨result, skipped, found⟩ := skipDnsName_spec response p
      rw [skipQuestions, skipped]
      cases result with
      | none => exact ⟨none, rfl, by simp⟩
      | some r =>
          obtain ⟨name, nameSpans⟩ := found r rfl
          dsimp only
          split
          · exact ⟨none, rfl, by simp⟩
          · rename_i room
            obtain ⟨qtype, typeSpans, -⟩ := field16 response r (by omega)
            obtain ⟨qclass, classSpans, -⟩ := field16 response (r + 2) (by omega)
            obtain ⟨result, rest, more⟩ := ih (r + 4)
            refine ⟨result, rest, ?_⟩
            intro q same
            obtain ⟨questions, count, spans⟩ := more q same
            refine ⟨⟨name, qtype, qclass⟩ :: questions, by rw [List.length_cons, count], ?_⟩
            rw [List.flatMap_cons]
            exact ((nameSpans.append typeSpans).append classSpans).append spans

theorem skipQuestions_questions {response : List UInt8} (questions : List Question) {p q : Nat}
    (spans : Spans response (questions.flatMap Question.image) p q) :
    skipQuestions response questions.length p = some (some q) := by
  induction questions generalizing p with
  | nil =>
      obtain ⟨_, rfl⟩ := spans
      rfl
  | cons question questions ih =>
      rw [List.flatMap_cons] at spans
      obtain ⟨next, front, rest⟩ := spans.split
      obtain ⟨middle, front, classSpans⟩ := front.split
      obtain ⟨behind, nameSpans, typeSpans⟩ := front.split
      have typeEnd := typeSpans.2
      have classEnd := classSpans.2
      have ⟨inside, _⟩ := classSpans.le (by simp [bytes])
      rw [bytes_length] at typeEnd classEnd
      have at_ : next = behind + 4 := by omega
      rw [List.length_cons, skipQuestions, skipDnsName_name question.name nameSpans]
      dsimp only
      rw [if_neg (by omega), ← at_]
      exact ih rest

structure ReadsRecord (response : List UInt8) (answer : AnswerHead) (record : Record) : Prop where
  rtype : answer.rtype = record.rtype.toNat
  rclass : answer.rclass = record.rclass.toNat
  rttl : answer.rttl = record.ttl.toNat
  rdlength : answer.rdlength = record.rdata.length
  data : Spans response record.rdata answer.data (answer.data + answer.rdlength)

theorem readAnswer_spec (response : List UInt8) (p : Nat) :
    ∃ result, readAnswer response p = some result ∧
      ∀ answer, result = some answer → ∃ record : Record,
        Spans response record.image p (answer.data + answer.rdlength) ∧
          ReadsRecord response answer record := by
  obtain ⟨result, skipped, found⟩ := skipDnsName_spec response p
  rw [readAnswer, skipped]
  cases result with
  | none => exact ⟨none, rfl, by simp⟩
  | some r =>
      obtain ⟨name, nameSpans⟩ := found r rfl
      dsimp only
      split
      · exact ⟨none, rfl, by simp⟩
      · rename_i room
        obtain ⟨rtype, typeSpans, typeRead⟩ := field16 response r (by omega)
        obtain ⟨rclass, classSpans, classRead⟩ := field16 response (r + 2) (by omega)
        obtain ⟨ttl, ttlSpans, ttlRead⟩ := field32 response (r + 4) (by omega)
        obtain ⟨rdlength, lengthSpans, lengthRead⟩ := field16 response (r + 8) (by omega)
        rw [typeRead, classRead, ttlRead, lengthRead]
        dsimp only
        split
        · exact ⟨none, rfl, by simp⟩
        · rename_i fits
          refine ⟨_, rfl, ?_⟩
          intro answer same
          cases same
          obtain ⟨size, dataSpans⟩ := spans_take response (r + 10) rdlength.toNat (by omega)
          refine ⟨⟨name, rtype, rclass, ttl, (response.drop (r + 10)).take rdlength.toNat,
            by rw [size]; exact rdlength.toNat_lt⟩, ?_, ⟨rfl, rfl, rfl, size.symm, dataSpans⟩⟩
          unfold Record.image
          dsimp only
          rw [size]
          exact nameSpans.append (typeSpans.append (classSpans.append (ttlSpans.append
            (lengthSpans.append dataSpans))))

theorem readAnswer_record {response : List UInt8} (record : Record) {p q : Nat}
    (spans : Spans response record.image p q) :
    ∃ answer, readAnswer response p = some (some answer) ∧ ReadsRecord response answer record ∧
      answer.data + answer.rdlength = q := by
  obtain ⟨a, nameSpans, spans⟩ := spans.split
  obtain ⟨b, typeSpans, spans⟩ := spans.split
  obtain ⟨c, classSpans, spans⟩ := spans.split
  obtain ⟨d, ttlSpans, spans⟩ := spans.split
  obtain ⟨e, lengthSpans, dataSpans⟩ := spans.split
  have ends := And.intro typeSpans.2 (And.intro classSpans.2 (And.intro ttlSpans.2
    (And.intro lengthSpans.2 dataSpans.2)))
  simp only [bytes_length] at ends
  have inside : e + record.rdata.length ≤ response.length := by
    obtain ⟨⟨more, starts⟩, -⟩ := (lengthSpans.append dataSpans)
    have length := congrArg List.length starts
    simp only [List.length_append, bytes_length, List.length_drop] at length
    have short := (lengthSpans.le (by simp [bytes])).1
    omega
  obtain ⟨hb, hc, hd, he, hq⟩ := ends
  subst hb hc hd he
  have typeRead := typeSpans.read16 record.rtype.toNat_lt
  have classRead := classSpans.read16 record.rclass.toNat_lt
  have ttlRead := ttlSpans.read32 record.ttl.toNat_lt
  have lengthRead := lengthSpans.read16 record.short
  refine ⟨⟨record.rtype.toNat, record.rclass.toNat, record.ttl.toNat, record.rdata.length,
    a + 10⟩, ?_, ⟨rfl, rfl, rfl, rfl, ?_⟩, ?_⟩
  · rw [readAnswer, skipDnsName_name record.name nameSpans]
    dsimp only
    rw [if_neg (by omega), typeRead, classRead, ttlRead, lengthRead]
    dsimp only
    rw [if_neg (by omega)]
  · rwa [hq] at dataSpans
  · exact hq.symm

/-- The records that are examined: one after the other, until `ancount` are or `room`
addresses have been found. -/
inductive Examined : (ancount room : Nat) → List Record → Prop
  | counted {room : Nat} : Examined 0 room []
  | full {ancount : Nat} : Examined ancount 0 []
  | address {ancount room : Nat} {record : Record} {records : List Record} {ip : UInt32}
      (found : record.address = some ip) (rest : Examined ancount room records) :
      Examined (ancount + 1) (room + 1) (record :: records)
  | other {ancount room : Nat} {record : Record} {records : List Record}
      (none : record.address = none) (rest : Examined ancount (room + 1) records) :
      Examined (ancount + 1) (room + 1) (record :: records)

theorem Examined.take {ancount room : Nat} {records : List Record}
    (examined : Examined ancount room records) :
    records.length ≤ ancount ∧ (addresses records).length ≤ room ∧
      ∀ more, (records ++ more).length = ancount →
        (addresses (records ++ more)).take room = addresses records := by
  induction examined with
  | counted =>
      refine ⟨le_refl _, Nat.zero_le _, ?_⟩
      intro more none
      rw [List.nil_append] at none
      simp [List.eq_nil_of_length_eq_zero none, addresses]
  | full => exact ⟨Nat.zero_le _, le_refl _, fun more _ => by simp [addresses]⟩
  | @address ancount room record records ip found rest ih =>
      obtain ⟨few, short, whole⟩ := ih
      have front : ∀ rest, addresses (record :: rest) = ip :: addresses rest := fun rest =>
        List.filterMap_cons_some found
      refine ⟨Nat.succ_le_succ few, ?_, ?_⟩
      · rw [front]
        exact Nat.succ_le_succ short
      · intro more all
        rw [List.cons_append, front, front, List.take_succ_cons,
          whole more (Nat.succ.inj all)]
  | @other ancount room record records none rest ih =>
      obtain ⟨few, short, whole⟩ := ih
      have front : ∀ rest, addresses (record :: rest) = addresses rest := fun rest =>
        List.filterMap_cons_none none
      refine ⟨Nat.succ_le_succ few, ?_, ?_⟩
      · rw [front]
        exact short
      · intro more all
        rw [List.cons_append, front, front, whole more (Nat.succ.inj all)]

theorem ReadsRecord.wanted_iff {response : List UInt8} {answer : AnswerHead} {record : Record}
    (reads : ReadsRecord response answer record) :
    (answer.rtype = 1 ∧ answer.rclass = 1 ∧ answer.rdlength = 4) ↔
      (record.rtype = 1 ∧ record.rclass = 1 ∧ record.rdata.length = 4) := by
  rw [reads.rtype, reads.rclass, reads.rdlength, ← UInt16.toNat_inj, ← UInt16.toNat_inj]
  rfl

theorem parseAnswers_turn {response : List UInt8} {maxIps : Int} {ancount p : Nat}
    {outIps : List UInt32} (room : outIps.length < maxIps) {answer : AnswerHead}
    (here : readAnswer response p = some (some answer)) {record : Record}
    (reads : ReadsRecord response answer record) :
    parseAnswers response maxIps (ancount + 1) p outIps =
      parseAnswers response maxIps ancount (answer.data + answer.rdlength)
        (outIps ++ record.address.toList) := by
  rw [parseAnswers, if_pos room, here]
  dsimp only
  by_cases wanted : answer.rtype = 1 ∧ answer.rclass = 1 ∧ answer.rdlength = 4
  · have value_ := reads.data.field (reads.rdlength.symm.trans wanted.2.2) (by decide)
    rw [if_pos wanted, if_pos room, value_, Record.address, if_pos (reads.wanted_iff.mp wanted)]
    rfl
  · rw [if_neg wanted, Record.address, if_neg (fun w => wanted (reads.wanted_iff.mpr w)),
      Option.toList_none, List.append_nil]

theorem addresses_cons (record : Record) (records : List Record) :
    addresses (record :: records) = record.address.toList ++ addresses records := by
  unfold addresses
  cases found : record.address with
  | none => rw [List.filterMap_cons_none found]; rfl
  | some ip => rw [List.filterMap_cons_some found]; rfl

/-- What the answer loop may return with `outIps` written, when `ancount` records are to come
from `p` on and there is room for `room` addresses. -/
structure Gathered (response : List UInt8) (ancount room p : Nat) (outIps : List UInt32)
    (parsed : Parsed) : Prop where
  short : parsed.outIps.length ≤ outIps.length + room
  ok : ∀ ipCount, parsed.result = .ok ipCount → ipCount = parsed.outIps.length ∧
    ∃ records q, Examined ancount room records ∧
      Spans response (records.flatMap Record.image) p q ∧
      parsed.outIps = outIps ++ addresses records

namespace Gathered

variable {response : List UInt8} {ancount room p : Nat} {outIps : List UInt32}

theorem stop (examined : Examined ancount room []) :
    Gathered response ancount room p outIps ⟨.ok outIps.length, outIps⟩ where
  short := Nat.le_add_right _ _
  ok := by
    intro ipCount same
    cases same
    exact ⟨rfl, [], p, examined, Spans.nil response p, (List.append_nil _).symm⟩

theorem malformed : Gathered response ancount room p outIps ⟨.error .malformed, outIps⟩ where
  short := Nat.le_add_right _ _
  ok := by
    intro ipCount same
    cases same

theorem turn {record : Record} {after r : Nat} {parsed : Parsed}
    (spans : Spans response record.image p r)
    (enough : (outIps ++ record.address.toList).length + after = outIps.length + room)
    (examines : ∀ {records}, Examined ancount after records →
      Examined (ancount + 1) room (record :: records))
    (behind : Gathered response ancount after r (outIps ++ record.address.toList) parsed) :
    Gathered response (ancount + 1) room p outIps parsed where
  short := behind.short.trans enough.le
  ok := by
    intro ipCount same
    obtain ⟨count, records, q, examined, rest, written⟩ := behind.ok ipCount same
    refine ⟨count, record :: records, q, examines examined, ?_, ?_⟩
    · rw [List.flatMap_cons]
      exact spans.append rest
    · rw [written, addresses_cons, List.append_assoc]

end Gathered

theorem parseAnswers_spec (response : List UInt8) {maxIps : Int} (ancount p : Nat)
    {outIps : List UInt32} {room : Nat} (bound : (outIps.length + room : Nat) = maxIps) :
    ∃ parsed, parseAnswers response maxIps ancount p outIps = some parsed ∧
      Gathered response ancount room p outIps parsed := by
  induction ancount generalizing p outIps room with
  | zero => exact ⟨_, rfl, .stop .counted⟩
  | succ ancount ih =>
      cases room with
      | zero =>
          refine ⟨⟨.ok outIps.length, outIps⟩, ?_, .stop .full⟩
          rw [parseAnswers, if_neg (by omega)]
      | succ room =>
          have more : outIps.length < maxIps := by omega
          obtain ⟨result, here, found⟩ := readAnswer_spec response p
          cases result with
          | none =>
              refine ⟨⟨.error .malformed, outIps⟩, ?_, .malformed⟩
              rw [parseAnswers, if_pos more, here]
          | some answer =>
              obtain ⟨record, spans, reads⟩ := found answer rfl
              rw [parseAnswers_turn more here reads]
              cases address : record.address with
              | none =>
                  have enough : (outIps ++ record.address.toList).length + (room + 1) =
                      outIps.length + (room + 1) := by
                    rw [address, Option.toList_none, List.append_nil]
                  obtain ⟨parsed, rest, behind⟩ :=
                    ih (answer.data + answer.rdlength) ((congrArg Nat.cast enough).trans bound)
                  rw [← address]
                  exact ⟨parsed, rest, behind.turn spans enough (.other address)⟩
              | some ip =>
                  have enough : (outIps ++ record.address.toList).length + room =
                      outIps.length + (room + 1) := by
                    rw [address, List.length_append, Option.toList_some, List.length_singleton]
                    omega
                  obtain ⟨parsed, rest, behind⟩ :=
                    ih (answer.data + answer.rdlength) ((congrArg Nat.cast enough).trans bound)
                  rw [← address]
                  exact ⟨parsed, rest, behind.turn spans enough (.address address)⟩

theorem parseAnswers_records {response : List UInt8} {maxIps : Int} {ancount room : Nat}
    {records : List Record} (examined : Examined ancount room records) {p q : Nat}
    (spans : Spans response (records.flatMap Record.image) p q) {outIps : List UInt32}
    (bound : (outIps.length + room : Nat) = maxIps) :
    parseAnswers response maxIps ancount p outIps =
      some ⟨.ok (outIps ++ addresses records).length, outIps ++ addresses records⟩ := by
  induction examined generalizing p outIps with
  | counted =>
      rw [parseAnswers]
      simp [addresses]
  | @full ancount =>
      have stop : ¬ (outIps.length : Int) < maxIps := by omega
      cases ancount with
      | zero =>
          rw [parseAnswers]
          simp [addresses]
      | succ ancount =>
          rw [parseAnswers, if_neg stop]
          simp [addresses]
  | @address ancount room record records ip found rest ih =>
      rw [List.flatMap_cons] at spans
      obtain ⟨r, first, behind⟩ := spans.split
      obtain ⟨answer, here, reads, ends⟩ := readAnswer_record record first
      have still : ((outIps ++ [ip]).length + room : Nat) = maxIps := by
        rw [List.length_append, List.length_singleton]
        omega
      have written : outIps ++ addresses (record :: records) =
          outIps ++ [ip] ++ addresses records := by
        rw [addresses_cons, found, List.append_assoc]
        rfl
      rw [parseAnswers_turn (by omega) here reads, ends, found, written]
      exact ih behind still
  | @other ancount room record records none rest ih =>
      rw [List.flatMap_cons] at spans
      obtain ⟨r, first, behind⟩ := spans.split
      obtain ⟨answer, here, reads, ends⟩ := readAnswer_record record first
      have written : addresses (record :: records) = addresses records := by
        rw [addresses_cons, none]
        rfl
      rw [parseAnswers_turn (by omega) here reads, ends, none, Option.toList_none, List.append_nil,
        written]
      exact ih behind bound

structure Header where
  id : UInt16
  flags : UInt16
  qdcount : UInt16
  ancount : UInt16
  nscount : UInt16
  arcount : UInt16

namespace Header

def image (header : Header) : List UInt8 :=
  bytes 2 header.id.toNat ++ (bytes 2 header.flags.toNat ++ (bytes 2 header.qdcount.toNat ++
    (bytes 2 header.ancount.toNat ++ (bytes 2 header.nscount.toNat ++
      bytes 2 header.arcount.toNat))))

def IsAnswer (header : Header) : Prop :=
  header.flags.toNat.testBit 15 = true ∧ header.flags.toNat.testBit 9 = false ∧
    header.flags.toNat % 16 = 0

@[simp] theorem length_image (header : Header) : header.image.length = 12 := by
  simp [image]

end Header

theorem and_two_pow_eq_zero (n i : Nat) : n &&& 2 ^ i = 0 ↔ n.testBit i = false := by
  rw [Nat.and_two_pow]
  cases n.testBit i with
  | false => simp
  | true => simp

theorem checkFlags_eq_ok (header : Header) :
    checkFlags header.flags.toNat = .ok () ↔ header.IsAnswer := by
  unfold checkFlags Header.IsAnswer
  generalize header.flags.toNat = flags
  have qr : flags &&& 0x8000 = 0 ↔ flags.testBit 15 = false := and_two_pow_eq_zero flags 15
  have tc : flags &&& 0x0200 = 0 ↔ flags.testBit 9 = false := and_two_pow_eq_zero flags 9
  have rcode : flags &&& 0x000F = flags % 16 := Nat.and_two_pow_sub_one_eq_mod flags 4
  dsimp only
  rw [← tc, rcode]
  by_cases query : flags &&& 0x8000 = 0
  · rw [if_pos query, qr.mp query]
    simp
  · have answer : flags.testBit 15 = true := Bool.eq_true_of_not_eq_false (mt qr.mpr query)
    rw [if_neg query, answer]
    by_cases whole : flags &&& 0x0200 = 0
    · rw [if_neg (not_not.mpr whole)]
      by_cases noError : flags % 16 = 0
      · simp [noError, whole]
      · rw [if_pos noError]
        simp only [noError, and_false, iff_false]
        split_ifs <;> simp
    · rw [if_pos whole]
      simp [whole]

theorem header_spec (response : List UInt8) (long : 12 ≤ response.length) :
    ∃ header : Header, Spans response header.image 0 12 := by
  obtain ⟨id, idSpans, -⟩ := field16 response 0 (by omega)
  obtain ⟨flags, flagsSpans, -⟩ := field16 response 2 (by omega)
  obtain ⟨qdcount, qdSpans, -⟩ := field16 response 4 (by omega)
  obtain ⟨ancount, anSpans, -⟩ := field16 response 6 (by omega)
  obtain ⟨nscount, nsSpans, -⟩ := field16 response 8 (by omega)
  obtain ⟨arcount, arSpans, -⟩ := field16 response 10 (by omega)
  exact ⟨⟨id, flags, qdcount, ancount, nscount, arcount⟩, idSpans.append (flagsSpans.append
    (qdSpans.append (anSpans.append (nsSpans.append arSpans))))⟩

theorem header_reads {response : List UInt8} {header : Header}
    (spans : Spans response header.image 0 12) :
    read response 2 2 = some header.flags.toNat ∧ read response 6 2 = some header.ancount.toNat ∧
      read response 4 2 = some header.qdcount.toNat := by
  obtain ⟨a, idSpans, spans⟩ := spans.split
  obtain ⟨b, flagsSpans, spans⟩ := spans.split
  obtain ⟨c, qdSpans, spans⟩ := spans.split
  obtain ⟨d, anSpans, -⟩ := spans.split
  have ends := And.intro idSpans.2 (And.intro flagsSpans.2 qdSpans.2)
  simp only [bytes_length] at ends
  obtain ⟨ha, hb, hc⟩ := ends
  subst ha hb hc
  exact ⟨flagsSpans.read16 header.flags.toNat_lt, anSpans.read16 header.ancount.toNat_lt,
    qdSpans.read16 header.qdcount.toNat_lt⟩

/-- The response is an answer whose records, up to the last one examined, hold these
addresses. -/
def Answered (response : List UInt8) (maxIps : Int) (ips : List UInt32) : Prop :=
  ∃ (header : Header) (questions : List Question) (records : List Record) (rest : List UInt8),
    response = header.image ++ questions.flatMap Question.image ++ records.flatMap Record.image ++
      rest ∧
    header.IsAnswer ∧ questions.length = header.qdcount.toNat ∧
    Examined header.ancount.toNat maxIps.toNat records ∧ ips = addresses records ∧ ips ≠ []

theorem nothing_written {maxIps : Int} (positive : 0 < maxIps) :
    ((([] : List UInt32).length + maxIps.toNat : Nat) : Int) = maxIps := by
  rw [List.length_nil, Nat.zero_add]
  exact Int.toNat_of_nonneg positive.le

theorem parseDnsResponse_of_header {response : List UInt8} {maxIps : Int} (positive : 0 < maxIps)
    {header : Header} (spans : Spans response header.image 0 12) (long : 12 ≤ response.length) :
    ∃ parsed, parseDnsResponse response maxIps = some parsed ∧ parsed.outIps.length ≤ maxIps ∧
      ∀ ipCount, parsed.result = .ok ipCount →
        ipCount = parsed.outIps.length ∧ Answered response maxIps parsed.outIps := by
  obtain ⟨flags, ancount, qdcount⟩ := header_reads spans
  rw [parseDnsResponse, if_neg (by omega), flags, ancount, qdcount]
  dsimp only
  cases checked : checkFlags header.flags.toNat with
  | error e => exact ⟨_, rfl, positive.le, fun ipCount same => by cases same⟩
  | ok _ =>
      have isAnswer := (checkFlags_eq_ok header).mp checked
      dsimp only
      split
      · exact ⟨_, rfl, positive.le, fun ipCount same => by cases same⟩
      · obtain ⟨result, skipped, found⟩ := skipQuestions_spec response header.qdcount.toNat 12
        rw [skipped]
        cases result with
        | none => exact ⟨_, rfl, positive.le, fun ipCount same => by cases same⟩
        | some p =>
            obtain ⟨questions, count, questionSpans⟩ := found p rfl
            obtain ⟨⟨result, outIps⟩, answers, ⟨short, ok⟩⟩ :=
              parseAnswers_spec response header.ancount.toNat p (nothing_written positive)
            have few : (outIps.length : Int) ≤ maxIps := by
              simp only [List.length_nil, Nat.zero_add] at short
              omega
            dsimp only
            rw [answers]
            cases result with
            | error e => exact ⟨_, rfl, few, fun ipCount same => by cases same⟩
            | ok n =>
                obtain ⟨size, records, q, examined, recordSpans, written⟩ := ok n rfl
                dsimp only at size written ⊢
                refine ⟨_, rfl, few, ?_⟩
                intro ipCount same
                dsimp only at same ⊢
                split at same
                · rename_i some
                  cases same
                  refine ⟨size, header, questions, records, response.drop q, ?_, isAnswer, count,
                    examined, written, ?_⟩
                  · obtain ⟨⟨rest, whole⟩, rfl⟩ :=
                      (spans.append questionSpans).append recordSpans
                    rw [List.drop_zero] at whole
                    rw [Nat.zero_add, ← whole, List.drop_left]
                  · rw [← List.length_pos_iff, ← size]
                    exact some
                · cases same

theorem answered_room {response : List UInt8} {maxIps : Int} {ips : List UInt32}
    (answered : Answered response maxIps ips) : 0 < maxIps ∧ ips ≠ [] := by
  obtain ⟨header, questions, records, rest, -, -, -, examined, rfl, found⟩ := answered
  refine ⟨?_, found⟩
  by_contra none
  have zero : maxIps.toNat = 0 := by omega
  have short := examined.take.2.1
  rw [zero] at short
  exact found (List.eq_nil_of_length_eq_zero (Nat.le_zero.mp short))

theorem parseDnsResponse_spec (response : List UInt8) (maxIps : Int) :
    ∃ parsed, parseDnsResponse response maxIps = some parsed ∧
      parsed.outIps.length ≤ maxIps.toNat ∧ ∀ ipCount, parsed.result = .ok ipCount →
        ipCount = parsed.outIps.length ∧ Answered response maxIps parsed.outIps := by
  by_cases short : response.length < 12 ∨ maxIps ≤ 0
  · exact ⟨⟨.error .malformed, []⟩, if_pos short, Nat.zero_le _, fun ipCount same => by cases same⟩
  · obtain ⟨header, spans⟩ := header_spec response (by omega)
    have positive : 0 < maxIps := by omega
    obtain ⟨parsed, same, few, ok⟩ := parseDnsResponse_of_header positive spans (by omega)
    exact ⟨parsed, same, by omega, ok⟩

theorem parseDnsResponse_of_answered {response : List UInt8} {maxIps : Int} {ips : List UInt32}
    (answered : Answered response maxIps ips) :
    parseDnsResponse response maxIps = some ⟨.ok ips.length, ips⟩ := by
  have positive := (answered_room answered).1
  obtain ⟨header, questions, records, rest, whole, isAnswer, count, examined, rfl, found⟩ :=
    answered
  have some : records ≠ [] := by
    rintro rfl
    exact found rfl
  have spans : Spans response (header.image ++ (questions.flatMap Question.image ++
      records.flatMap Record.image)) 0 (response.length - rest.length) := by
    refine ⟨⟨rest, ?_⟩, ?_⟩
    · rw [List.drop_zero, whole]
      simp
    · rw [whole]
      simp only [List.length_append]
      omega
  obtain ⟨p, headerSpans, spans⟩ := spans.split
  obtain ⟨q, questionSpans, recordSpans⟩ := spans.split
  have twelve : p = 12 := headerSpans.2.trans (by simp)
  subst twelve
  obtain ⟨flags, ancount, qdcount⟩ := header_reads headerSpans
  have long : 12 ≤ response.length := by
    rw [whole]
    simp only [List.length_append, Header.length_image]
    omega
  have answers : header.ancount.toNat ≠ 0 := by
    have few := examined.take.1
    have nonempty := List.length_pos_iff.mpr some
    omega
  have skipped := skipQuestions_questions questions questionSpans
  have parsed := parseAnswers_records examined recordSpans (nothing_written positive)
  rw [count] at skipped
  rw [parseDnsResponse, if_neg (by omega), flags, ancount, qdcount]
  dsimp only
  rw [(checkFlags_eq_ok header).mpr isAnswer]
  dsimp only
  rw [if_neg answers, skipped]
  dsimp only
  rw [parsed, List.nil_append]
  dsimp only
  rw [if_pos (List.length_pos_iff.mpr found)]

theorem examined_prefix (answers : List Record) (room : Nat) :
    ∃ records more, answers = records ++ more ∧ Examined answers.length room records := by
  induction answers generalizing room with
  | nil => exact ⟨[], [], rfl, .counted⟩
  | cons record answers ih =>
      cases room with
      | zero => exact ⟨[], record :: answers, rfl, .full⟩
      | succ room =>
          cases found : record.address with
          | none =>
              obtain ⟨records, more, split, examined⟩ := ih (room + 1)
              exact ⟨record :: records, more, congrArg (record :: ·) split, .other found examined⟩
          | some ip =>
              obtain ⟨records, more, split, examined⟩ := ih room
              exact ⟨record :: records, more, congrArg (record :: ·) split, .address found examined⟩

theorem answered_of_answers {header : Header} {questions : List Question} {answers : List Record}
    {response rest : List UInt8} {maxIps : Int}
    (whole : response = header.image ++ questions.flatMap Question.image ++
      answers.flatMap Record.image ++ rest)
    (isAnswer : header.IsAnswer) (count : questions.length = header.qdcount.toNat)
    (all : answers.length = header.ancount.toNat)
    (found : (addresses answers).take maxIps.toNat ≠ []) :
    Answered response maxIps ((addresses answers).take maxIps.toNat) := by
  obtain ⟨records, more, split, examined⟩ := examined_prefix answers maxIps.toNat
  have first : (addresses answers).take maxIps.toNat = addresses records := by
    rw [split] at examined ⊢
    exact examined.take.2.2 more rfl
  rw [all] at examined
  refine ⟨header, questions, records, more.flatMap Record.image ++ rest, ?_, isAnswer, count,
    examined, first, found⟩
  rw [whole, split, List.flatMap_append]
  simp

/-- Parsing a response is safe and exact. -/
theorem parseDnsResponse_exact (response : List UInt8) (maxIps : Int) :
    (∀ p, (skipDnsName response p).isSome) ∧
      ∃ parsed, parseDnsResponse response maxIps = some parsed ∧
        parsed.outIps.length ≤ maxIps.toNat ∧
        (∀ ips, Answered response maxIps ips → parsed = ⟨.ok ips.length, ips⟩) ∧
        ((∀ ips, ¬ Answered response maxIps ips) → ∃ e, parsed.result = .error e) ∧
        ∀ (header : Header) (questions : List Question) (answers : List Record) (rest : List UInt8),
          response = header.image ++ questions.flatMap Question.image ++
            answers.flatMap Record.image ++ rest →
          header.IsAnswer → questions.length = header.qdcount.toNat →
          answers.length = header.ancount.toNat →
          (addresses answers).take maxIps.toNat ≠ [] →
          parsed.outIps = (addresses answers).take maxIps.toNat := by
  obtain ⟨parsed, same, few, ok⟩ := parseDnsResponse_spec response maxIps
  have complete : ∀ ips, Answered response maxIps ips → parsed = ⟨.ok ips.length, ips⟩ := by
    intro ips answered
    rw [parseDnsResponse_of_answered answered] at same
    exact (Option.some.inj same).symm
  refine ⟨?_, parsed, same, few, complete, ?_, ?_⟩
  · intro p
    obtain ⟨result, skipped, -⟩ := skipDnsName_spec response p
    rw [skipped]
    rfl
  · intro none
    cases result : parsed.result with
    | error e => exact ⟨e, rfl⟩
    | ok ipCount => exact absurd (ok ipCount result).2 (none _)
  · intro header questions answers rest whole isAnswer count all found
    rw [complete _ (answered_of_answers whole isAnswer count all found)]

end RyuLdn.DnsWrap
