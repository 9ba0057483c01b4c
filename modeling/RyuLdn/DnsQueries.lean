import Mathlib.Data.List.TakeWhile
import RyuLdn.DnsResponses

/-! What the encoder writes for a host name, and how the skipper reads it. -/
namespace RyuLdn.DnsWrap

open BigEndian LabelSequence

/-- What stands between the dots; a dot at the end starts no further label. -/
def hostLabels (hostname : List UInt8) : List (List UInt8) :=
  let pieces := hostname.splitOn 46
  if pieces.getLast? = some [] then pieces.dropLast else pieces

abbrev IsHostLabel (label : List UInt8) : Prop := 1 ≤ label.length ∧ label.length ≤ 63

theorem IsHostLabel.proper {label : List UInt8} (isHostLabel : IsHostLabel label) :
    Proper label :=
  ⟨isHostLabel.1, by have := isHostLabel.2; omega⟩

theorem hostLabels_nil : hostLabels [] = [] := rfl

theorem hostLabels_last {label : List UInt8} (noDot : 46 ∉ label) (nonempty : label ≠ []) :
    hostLabels label = [label] := by
  unfold hostLabels
  rw [List.splitOn_eq_singleton noDot]
  dsimp only
  rw [List.getLast?_singleton, if_neg (fun same => nonempty (Option.some.inj same))]

theorem hostLabels_dot {label : List UInt8} (noDot : 46 ∉ label) (rest : List UInt8) :
    hostLabels (label ++ 46 :: rest) = label :: hostLabels rest := by
  have some : rest.splitOn 46 ≠ [] := List.splitOn_ne_nil 46 rest
  unfold hostLabels
  rw [List.splitOn_append_cons_self_of_not_mem noDot]
  dsimp only
  rw [List.getLast?_cons_of_ne_nil some, List.dropLast_cons_of_ne_nil some]
  split <;> rfl

theorem cut_at_dot (src : List UInt8) :
    (46 ∉ src ∧ src.takeWhile (· ≠ 46) = src) ∨
      ∃ label rest, src = label ++ 46 :: rest ∧ 46 ∉ label ∧ src.takeWhile (· ≠ 46) = label := by
  have passes : ∀ label : List UInt8, 46 ∉ label → ∀ b ∈ label, decide (b ≠ 46) = true := by
    intro label noDot b member
    exact decide_eq_true (fun same => noDot (same ▸ member))
  by_cases dot : 46 ∈ src
  · obtain ⟨label, rest, rfl, noDot⟩ := List.eq_append_cons_of_mem dot
    refine Or.inr ⟨label, rest, rfl, noDot, ?_⟩
    rw [List.takeWhile_append_of_pos (passes label noDot), List.takeWhile_cons_of_neg (by simp),
      List.append_nil]
  · exact Or.inl ⟨dot, List.takeWhile_eq_self_iff.mpr (passes src dot)⟩

theorem hostLabels_front {src : List UInt8} (nonempty : src ≠ []) :
    hostLabels src =
      src.takeWhile (· ≠ 46) ::
        hostLabels (src.drop ((src.takeWhile (· ≠ 46)).length + 1)) := by
  rcases cut_at_dot src with ⟨noDot, cut⟩ | ⟨label, rest, rfl, noDot, cut⟩
  · rw [cut, List.drop_eq_nil_of_le (Nat.le_succ _), hostLabels_nil]
    exact hostLabels_last noDot nonempty
  · have behind : (label ++ 46 :: rest).drop (label.length + 1) = rest := by
      rw [← List.drop_drop, List.drop_left, List.drop_succ_cons, List.drop_zero]
    rw [cut, behind]
    exact hostLabels_dot noDot rest

theorem encodeLabels_front {bufSize : Nat} {src : List UInt8} (nonempty : src ≠ [])
    (buf : List UInt8) :
    encodeLabels bufSize src buf =
      let label := src.takeWhile (· ≠ 46)
      if ¬ IsHostLabel label then none
      else if buf.length + 1 + label.length + 1 > bufSize then none
      else encodeLabels bufSize (src.drop (label.length + 1)) (buf ++ labelImage label) := by
  have longest := (List.takeWhile_prefix (p := (· ≠ (46 : UInt8))) (l := src)).length_le
  rw [encodeLabels, if_neg nonempty]
  dsimp only
  by_cases isHostLabel : IsHostLabel (src.takeWhile (· ≠ 46))
  · have ⟨positive, small⟩ := isHostLabel
    rw [if_neg (by omega), if_neg (not_not.mpr isHostLabel)]
    split
    · rfl
    · split
      · rfl
      · rw [List.drop_eq_nil_of_le (by omega), encodeLabels, if_pos rfl]
        rfl
  · have refused : (src.takeWhile (· ≠ 46)).length = 0 ∨ (src.takeWhile (· ≠ 46)).length > 63 := by
      unfold IsHostLabel at isHostLabel
      omega
    rw [if_pos refused, if_pos isHostLabel]

theorem encodeLabels_eq_some_iff {bufSize : Nat} (src buf : List UInt8)
    (room : buf.length + 1 ≤ bufSize) (out : List UInt8) :
    encodeLabels bufSize src buf = some out ↔
      (∀ label ∈ hostLabels src, IsHostLabel label) ∧ out.length + 1 ≤ bufSize ∧
        out = buf ++ (hostLabels src).flatMap labelImage := by
  induction h : src.length using Nat.strong_induction_on generalizing src buf with
  | h n ih =>
  by_cases nonempty : src = []
  · subst nonempty
    rw [encodeLabels, if_pos rfl, hostLabels_nil]
    constructor
    · rintro same
      cases same
      exact ⟨by simp, room, by simp⟩
    · rintro ⟨-, -, rfl⟩
      simp
  · rw [encodeLabels_front nonempty, hostLabels_front nonempty, List.forall_mem_cons]
    dsimp only
    generalize src.takeWhile (· ≠ 46) = label
    have shorter : (src.drop (label.length + 1)).length < n := by
      have positive := List.length_pos_iff.mpr nonempty
      rw [List.length_drop]
      omega
    have image : (labelImage label).length = label.length + 1 := rfl
    by_cases isHostLabel : IsHostLabel label
    · rw [if_neg (not_not.mpr isHostLabel), and_iff_right isHostLabel, List.flatMap_cons,
        ← List.append_assoc]
      by_cases small : buf.length + 1 + label.length + 1 > bufSize
      · rw [if_pos small]
        constructor
        · intro same
          cases same
        · rintro ⟨-, fits, rfl⟩
          simp only [List.length_append, image] at fits
          omega
      · rw [if_neg small, ih _ shorter _ _ (by simp only [List.length_append, image]; omega) rfl]
    · rw [if_pos isHostLabel]
      constructor
      · intro same
        cases same
      · rintro ⟨⟨first, -⟩, -⟩
        exact absurd first isHostLabel

def encoding (hostname : List UInt8) : List UInt8 :=
  LabelSequence.sequence (hostLabels hostname) none

theorem encodeDnsName_eq_some_iff (hostname : List UInt8) (bufSize : Nat) (out : List UInt8) :
    encodeDnsName hostname bufSize = some out ↔
      (∀ label ∈ hostLabels hostname, IsHostLabel label) ∧
        (encoding hostname).length ≤ bufSize ∧ out = encoding hostname := by
  have size : (encoding hostname).length =
      ((hostLabels hostname).flatMap labelImage).length + 1 := by
    rw [encoding, LabelSequence.sequence, List.length_append]
    rfl
  unfold encodeDnsName
  by_cases empty : bufSize = 0
  · rw [if_pos empty, size, empty]
    simp
  · rw [if_neg empty]
    have loop := encodeLabels_eq_some_iff hostname [] (Nat.succ_le_of_lt (Nat.pos_of_ne_zero empty))
    cases result : encodeLabels bufSize hostname [] with
    | none =>
        dsimp only
        constructor
        · intro same
          cases same
        · rintro ⟨labels, fits, -⟩
          have written := (loop _).mpr ⟨labels, size ▸ fits, rfl⟩
          rw [result] at written
          cases written
    | some buf =>
        obtain ⟨labels, fits, rfl⟩ := (loop buf).mp result
        rw [List.nil_append] at fits ⊢
        dsimp only
        rw [if_neg (Nat.not_lt.mpr fits), size, Option.some.injEq]
        constructor
        · rintro rfl
          exact ⟨labels, fits, rfl⟩
        · rintro ⟨-, -, rfl⟩
          rfl

def queryName (hostname : List UInt8) (labels : ∀ label ∈ hostLabels hostname, IsHostLabel label) :
    Name where
  labels := hostLabels hostname
  pointer := none
  proper := fun label member => (labels label member).proper
  marked := marked_none

theorem queryName_image (hostname : List UInt8)
    (labels : ∀ label ∈ hostLabels hostname, IsHostLabel label) :
    (queryName hostname labels).image = encoding hostname := rfl

theorem encoding_lengthByte {hostname : List UInt8}
    (labels : ∀ label ∈ hostLabels hostname, IsHostLabel label) {front behind : List (List UInt8)}
    (split : hostLabels hostname = front ++ behind) :
    ∃ b, (encoding hostname)[(front.flatMap labelImage).length]? = some b ∧ ¬ IsPointer b := by
  have here : encoding hostname =
      front.flatMap labelImage ++ LabelSequence.sequence behind none := by
    simp only [encoding, split, LabelSequence.sequence, List.flatMap_append, List.append_assoc]
  rw [here, List.getElem?_append_right le_rfl, Nat.sub_self]
  cases behind with
  | nil => exact ⟨0, rfl, not_isPointer_zero⟩
  | cons label behind =>
      have isHostLabel := labels label (by rw [split]; simp)
      rw [sequence_cons]
      exact ⟨_, rfl, isHostLabel.proper.lengthByte.2.2⟩

theorem spans_middle (front image behind : List UInt8) :
    Spans (front ++ image ++ behind) image front.length (front.length + image.length) := by
  refine ⟨⟨behind, ?_⟩, rfl⟩
  rw [List.append_assoc, List.drop_left]

def queryHeader (queryId : UInt16) : Header := ⟨queryId, 0x0100, 1, 0, 0, 0⟩

theorem buildDnsQuery_eq_some_iff (hostname : List UInt8) (queryId : UInt16) (packetSize : Nat)
    (packet : List UInt8) :
    buildDnsQuery hostname queryId packetSize = some packet ↔
      hostname ≠ [] ∧ ∃ name, encodeDnsName hostname 256 = some name ∧
        12 + name.length + 4 ≤ packetSize ∧
        packet = bytes 2 queryId.toNat ++ [1, 0, 0, 1, 0, 0, 0, 0, 0, 0] ++ name ++ [0, 1, 0, 1] := by
  unfold buildDnsQuery
  by_cases empty : hostname = []
  · rw [if_pos empty]
    simp [empty]
  · rw [if_neg empty]
    cases encoded : encodeDnsName hostname 256 with
    | none => simp
    | some name =>
        dsimp only
        by_cases room : 12 + name.length + 4 > packetSize
        · rw [if_pos room]
          constructor
          · intro built
            cases built
          · rintro ⟨-, written, same, fits, -⟩
            cases same
            omega
        · rw [if_neg room]
          simp only [Option.some.injEq, ne_eq, empty, not_false_eq_true, true_and,
            exists_eq_left', Nat.not_lt.mp room, List.append_assoc, List.cons_append,
            List.nil_append]
          exact eq_comm

theorem buildDnsQuery_image {hostname packet : List UInt8} {queryId : UInt16} {packetSize : Nat}
    (built : buildDnsQuery hostname queryId packetSize = some packet) :
    ∃ labels, packet = (queryHeader queryId).image ++
      Question.image ⟨queryName hostname labels, 1, 1⟩ := by
  obtain ⟨-, name, encoded, -, rfl⟩ :=
    (buildDnsQuery_eq_some_iff hostname queryId packetSize packet).mp built
  obtain ⟨labels, -, rfl⟩ := (encodeDnsName_eq_some_iff hostname 256 name).mp encoded
  have flags : bytes 2 (0x0100 : UInt16).toNat = [0x01, 0x00] := by decide
  have one : bytes 2 (1 : UInt16).toNat = [0x00, 0x01] := by decide
  have zero : bytes 2 (0 : UInt16).toNat = [0x00, 0x00] := by decide
  refine ⟨labels, ?_⟩
  rw [Header.image, queryHeader, Question.image, queryName_image]
  dsimp only
  rw [flags, one, zero]
  simp only [List.append_assoc, List.cons_append, List.nil_append]

theorem skipQuestions_query {hostname packet : List UInt8} {queryId : UInt16} {packetSize : Nat}
    (built : buildDnsQuery hostname queryId packetSize = some packet) :
    read packet 4 2 = some 1 ∧ skipQuestions packet 1 12 = some (some packet.length) := by
  obtain ⟨labels, rfl⟩ := buildDnsQuery_image built
  have header := spans_middle [] (queryHeader queryId).image
    (Question.image ⟨queryName hostname labels, 1, 1⟩)
  have question := spans_middle (queryHeader queryId).image
    (Question.image ⟨queryName hostname labels, 1, 1⟩) []
  rw [List.append_nil, ← List.length_append, Header.length_image] at question
  rw [List.nil_append, List.length_nil, Nat.zero_add, Header.length_image] at header
  refine ⟨(header_reads header).2.2, ?_⟩
  exact skipQuestions_questions [⟨queryName hostname labels, 1, 1⟩]
    (by rwa [List.flatMap_cons, List.flatMap_nil, List.append_nil])

/-- Encoding a host name and reading it agree. -/
theorem encodeDnsName_inverts (hostname : List UInt8) (bufSize : Nat) :
    ((encodeDnsName hostname bufSize).isSome ↔
      (∀ label ∈ hostLabels hostname, 1 ≤ label.length ∧ label.length ≤ 63) ∧
        ((hostLabels hostname).map fun label => 1 + label.length).sum + 1 ≤ bufSize) ∧
    (∀ out, encodeDnsName hostname bufSize = some out →
      (∃ name : Name, name.image = out) ∧
      (∀ (name : Name) rest behind, name.image ++ rest = out ++ behind →
        name.labels = hostLabels hostname ∧ name.pointer = none ∧ rest = behind) ∧
      (∀ front behind, hostLabels hostname = front ++ behind →
        ∃ b, out[(front.flatMap labelImage).length]? = some b ∧ ¬ IsPointer b) ∧
      ∀ front behind, skipDnsName (front ++ out ++ behind) front.length =
        some (some (front.length + out.length))) ∧
    ∀ queryId packetSize packet,
      (buildDnsQuery hostname queryId packetSize = some packet ↔
        hostname ≠ [] ∧ ∃ name, encodeDnsName hostname 256 = some name ∧
          12 + name.length + 4 ≤ packetSize ∧
          packet =
            bytes 2 queryId.toNat ++ [1, 0, 0, 1, 0, 0, 0, 0, 0, 0] ++ name ++ [0, 1, 0, 1]) ∧
      (buildDnsQuery hostname queryId packetSize = some packet →
        read packet 4 2 = some 1 ∧ skipQuestions packet 1 12 = some (some packet.length)) := by
  have size : (encoding hostname).length =
      ((hostLabels hostname).map fun label => 1 + label.length).sum + 1 := by
    rw [encoding, LabelSequence.sequence, List.length_append, List.length_flatMap]
    congr 3
    funext label
    rw [labelImage, List.length_cons, Nat.add_comm]
  refine ⟨?_, ?_, ?_⟩
  · rw [← size, Option.isSome_iff_exists]
    constructor
    · rintro ⟨out, encoded⟩
      obtain ⟨labels, fits, -⟩ := (encodeDnsName_eq_some_iff hostname bufSize out).mp encoded
      exact ⟨labels, fits⟩
    · rintro ⟨labels, fits⟩
      exact ⟨_, (encodeDnsName_eq_some_iff hostname bufSize _).mpr ⟨labels, fits, rfl⟩⟩
  · intro out encoded
    obtain ⟨labels, -, rfl⟩ := (encodeDnsName_eq_some_iff hostname bufSize out).mp encoded
    rw [← queryName_image hostname labels]
    refine ⟨⟨_, rfl⟩, ?_, ?_, ?_⟩
    · intro name rest behind same
      obtain ⟨rfl, more⟩ := Name.image_append_inj same
      exact ⟨rfl, rfl, more⟩
    · intro front behind split
      exact encoding_lengthByte labels split
    · intro front behind
      exact skipDnsName_name _ (spans_middle front _ behind)
  · intro queryId packetSize packet
    exact ⟨buildDnsQuery_eq_some_iff hostname queryId packetSize packet, skipQuestions_query⟩

end RyuLdn.DnsWrap
