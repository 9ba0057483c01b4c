import Mathlib.Data.List.Basic

/-! Names on the wire: labels, each behind its length byte, and an ending. The ending is
a zero byte, or two bytes of which the first has its two top bits set and so cannot be
taken for a length. A name is read off the front of any bytes in one way only. -/
namespace RyuLdn.LabelSequence

abbrev IsPointer (b : UInt8) : Prop := b &&& 0xC0 = 0xC0

theorem isPointer_iff (b : UInt8) : IsPointer b ↔ 192 ≤ b.toNat := by
  have masks : ∀ n < 256, n &&& 192 = 192 ↔ 192 ≤ n := by decide +kernel
  rw [IsPointer, ← UInt8.toNat_inj, UInt8.toNat_and]
  exact masks b.toNat b.toNat_lt

abbrev Proper (label : List UInt8) : Prop := 0 < label.length ∧ label.length < 192

structure Name where
  labels : List (List UInt8)
  pointer : Option (UInt8 × UInt8)
  proper : ∀ label ∈ labels, Proper label
  marked : ∀ p ∈ pointer, IsPointer p.1

theorem proper_nil : ∀ label ∈ ([] : List (List UInt8)), Proper label := List.forall_mem_nil _

theorem marked_none : ∀ p ∈ (none : Option (UInt8 × UInt8)), IsPointer p.1 := by simp

def labelImage (label : List UInt8) : List UInt8 := UInt8.ofNat label.length :: label

def ending : Option (UInt8 × UInt8) → List UInt8
  | none => [0]
  | some (first, second) => [first, second]

def sequence (labels : List (List UInt8)) (pointer : Option (UInt8 × UInt8)) : List UInt8 :=
  labels.flatMap labelImage ++ ending pointer

def Name.image (name : Name) : List UInt8 := sequence name.labels name.pointer

theorem Proper.lengthByte {label : List UInt8} (proper : Proper label) :
    (UInt8.ofNat label.length).toNat = label.length ∧ UInt8.ofNat label.length ≠ 0 ∧
      ¬ IsPointer (UInt8.ofNat label.length) := by
  have ⟨nonempty, small⟩ := proper
  have size : (UInt8.ofNat label.length).toNat = label.length := by
    rw [UInt8.toNat_ofNat']
    omega
  refine ⟨size, ?_, ?_⟩
  · intro zero
    rw [zero] at size
    simp only [UInt8.toNat_zero] at size
    omega
  · rw [isPointer_iff, size]
    omega

theorem sequence_cons (label : List UInt8) (labels : List (List UInt8))
    (pointer : Option (UInt8 × UInt8)) :
    sequence (label :: labels) pointer =
      UInt8.ofNat label.length :: (label ++ sequence labels pointer) := by
  simp [sequence, labelImage]

theorem sequence_nil (pointer : Option (UInt8 × UInt8)) : sequence [] pointer = ending pointer :=
  List.nil_append _

theorem ending_eq_cons {pointer : Option (UInt8 × UInt8)} (marked : ∀ p ∈ pointer, IsPointer p.1) :
    ∃ first behind, ending pointer = first :: behind ∧ (first = 0 ∨ IsPointer first) := by
  cases pointer with
  | none => exact ⟨0, [], rfl, Or.inl rfl⟩
  | some p => exact ⟨p.1, [p.2], rfl, Or.inr (marked p rfl)⟩

theorem not_isPointer_zero : ¬ IsPointer 0 := by decide

theorem ending_append_inj {pointer other : Option (UInt8 × UInt8)}
    (marked : ∀ p ∈ pointer, IsPointer p.1) (marked' : ∀ p ∈ other, IsPointer p.1)
    {rest more : List UInt8} (same : ending pointer ++ rest = ending other ++ more) :
    pointer = other ∧ rest = more := by
  cases pointer with
  | none =>
      cases other with
      | none => exact ⟨rfl, by simpa [ending] using same⟩
      | some q =>
          have zero : 0 = q.1 := (List.cons.inj same).1
          exact absurd (marked' q rfl) (zero ▸ not_isPointer_zero)
  | some p =>
      cases other with
      | none =>
          have zero : p.1 = 0 := (List.cons.inj same).1
          exact absurd (marked p rfl) (zero ▸ not_isPointer_zero)
      | some q =>
          obtain ⟨first, behind⟩ := List.cons.inj same
          obtain ⟨second, rest⟩ := List.cons.inj behind
          exact ⟨congrArg some (Prod.ext first second), rest⟩

theorem ending_ne_label {pointer : Option (UInt8 × UInt8)}
    (marked : ∀ p ∈ pointer, IsPointer p.1) {label : List UInt8} (proper : Proper label)
    (rest more : List UInt8) : ending pointer ++ rest ≠ UInt8.ofNat label.length :: more := by
  intro same
  obtain ⟨first, behind, starts, kind⟩ := ending_eq_cons marked
  have ⟨_, notZero, notPointer⟩ := proper.lengthByte
  rw [starts] at same
  have byte : first = UInt8.ofNat label.length := (List.cons.inj same).1
  rw [byte] at kind
  exact kind.elim notZero notPointer

theorem sequence_append_inj {labels others : List (List UInt8)}
    {pointer other : Option (UInt8 × UInt8)} (proper : ∀ label ∈ labels, Proper label)
    (proper' : ∀ label ∈ others, Proper label) (marked : ∀ p ∈ pointer, IsPointer p.1)
    (marked' : ∀ p ∈ other, IsPointer p.1) {rest more : List UInt8}
    (same : sequence labels pointer ++ rest = sequence others other ++ more) :
    labels = others ∧ pointer = other ∧ rest = more := by
  induction labels generalizing others with
  | nil =>
      cases others with
      | nil =>
          rw [sequence_nil, sequence_nil] at same
          exact ⟨rfl, ending_append_inj marked marked' same⟩
      | cons label others =>
          rw [sequence_nil, sequence_cons] at same
          exact absurd same (ending_ne_label marked (proper' label (by simp)) _ _)
  | cons label labels ih =>
      cases others with
      | nil =>
          rw [sequence_nil, sequence_cons] at same
          exact absurd same.symm (ending_ne_label marked' (proper label (by simp)) _ _)
      | cons label' others =>
          rw [sequence_cons, sequence_cons, List.cons_append, List.cons_append] at same
          obtain ⟨byte, behind⟩ := List.cons.inj same
          have size := (proper label (by simp)).lengthByte.1
          have size' := (proper' label' (by simp)).lengthByte.1
          have length : label.length = label'.length := by
            rw [← size, ← size', byte]
          rw [List.append_assoc, List.append_assoc] at behind
          obtain ⟨first, later⟩ := List.append_inj behind length
          obtain ⟨labelsSame, rest⟩ := ih (fun l member => proper l (by simp [member]))
            (fun l member => proper' l (by simp [member])) later
          exact ⟨by rw [first, labelsSame], rest⟩

theorem Name.image_append_inj {first second : Name} {rest more : List UInt8}
    (same : first.image ++ rest = second.image ++ more) : first = second ∧ rest = more := by
  obtain ⟨labels, pointer, behind⟩ := sequence_append_inj first.proper second.proper first.marked
    second.marked same
  cases first
  cases second
  cases labels
  cases pointer
  exact ⟨rfl, behind⟩

end RyuLdn.LabelSequence
