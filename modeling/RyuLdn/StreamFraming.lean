import Mathlib.Data.List.Basic

/-! Self-delimiting frames on a stream, over an arbitrary alphabet.
A framing inspects the head of whatever has arrived so far. Its laws say that a
complete frame is recognised from its own symbols alone, that later symbols do
not change the verdict, and that every proper prefix of a frame is incomplete.
From these the reassembly relation `Tracks` is kept by every append of the next
symbols and every removal of a recognised frame, however the stream is cut. -/
namespace RyuLdn.StreamFraming

inductive Head where
  | incomplete
  | invalid
  | frame (size : Nat)
  deriving DecidableEq, Repr

structure Framing (α : Type*) where
  head : List α → Head
  head_nil : head [] = .incomplete
  frame_pos {xs : List α} {n : Nat} : head xs = .frame n → 0 < n
  frame_le {xs : List α} {n : Nat} : head xs = .frame n → n ≤ xs.length
  frame_append {xs : List α} {n : Nat} (ys : List α) :
    head xs = .frame n → head (xs ++ ys) = .frame n
  frame_take {xs : List α} {n : Nat} : head xs = .frame n → head (xs.take n) = .frame n
  short_prefix {xs ys : List α} {n : Nat} :
    head (xs ++ ys) = .frame n → xs.length < n → head xs = .incomplete

variable {α : Type*} (F : Framing α)

def IsFrame (xs : List α) : Prop := F.head xs = .frame xs.length

theorem isFrame_take {xs : List α} {n : Nat} (h : F.head xs = .frame n) :
    IsFrame F (xs.take n) := by
  have short : (xs.take n).length = n := by
    rw [List.length_take]
    exact Nat.min_eq_left (F.frame_le h)
  rw [IsFrame, short]
  exact F.frame_take h

theorem head_of_stream {first : List α} {rest : List (List α)} {buffer later : List α}
    (frame : IsFrame F first) (stream : buffer ++ later = first ++ rest.flatten) :
    (first.length ≤ buffer.length ∧ F.head buffer = .frame first.length ∧
        buffer.take first.length = first) ∨
      (buffer.length < first.length ∧ F.head buffer = .incomplete) := by
  rcases Nat.lt_or_ge buffer.length first.length with short | long
  · right
    refine ⟨short, ?_⟩
    obtain ⟨tail, rfl⟩ : buffer <+: first :=
      List.prefix_of_prefix_length_le ⟨later, stream⟩ ⟨rest.flatten, rfl⟩ (by omega)
    exact F.short_prefix frame short
  · left
    obtain ⟨tail, rfl⟩ : first <+: buffer :=
      List.prefix_of_prefix_length_le ⟨rest.flatten, rfl⟩ ⟨later, stream⟩ long
    exact ⟨long, F.frame_append tail frame, by simp⟩

/-- What has been received of `frames` is the delivered frames followed by the
buffer: nothing lost, nothing duplicated, nothing reordered. -/
structure Tracks (frames : List (List α)) (received buffer : List α)
    (delivered : List (List α)) : Prop where
  delivered_frames : delivered <+: frames
  received_eq : received = delivered.flatten ++ buffer
  received_stream : received <+: frames.flatten

theorem tracks_nil (frames : List (List α)) : Tracks frames [] [] [] :=
  ⟨List.nil_prefix, rfl, List.nil_prefix⟩

theorem Tracks.append {frames delivered : List (List α)} {received buffer chunk : List α}
    (h : Tracks frames received buffer delivered)
    (next : received ++ chunk <+: frames.flatten) :
    Tracks frames (received ++ chunk) (buffer ++ chunk) delivered := by
  refine ⟨h.delivered_frames, ?_, next⟩
  rw [h.received_eq, List.append_assoc]

theorem Tracks.pending {frames delivered : List (List α)} {received buffer : List α}
    (h : Tracks frames received buffer delivered) :
    ∃ rest later, frames = delivered ++ rest ∧ buffer ++ later = rest.flatten := by
  obtain ⟨rest, rfl⟩ := h.delivered_frames
  obtain ⟨later, stream⟩ := h.received_stream
  refine ⟨rest, later, rfl, ?_⟩
  rw [h.received_eq, List.flatten_append, List.append_assoc] at stream
  exact List.append_cancel_left stream

section Delivery

variable {F} {frames delivered : List (List α)} {received buffer : List α}

theorem Tracks.head_cases (valid : ∀ f ∈ frames, IsFrame F f)
    (h : Tracks frames received buffer delivered) :
    (frames = delivered ∧ buffer = []) ∨
      (∃ f rest, frames = delivered ++ f :: rest ∧ f.length ≤ buffer.length ∧
        F.head buffer = .frame f.length ∧ buffer.take f.length = f) ∨
      (∃ f rest, frames = delivered ++ f :: rest ∧ buffer.length < f.length ∧
        F.head buffer = .incomplete) := by
  obtain ⟨rest, later, rfl, stream⟩ := h.pending
  cases rest with
  | nil =>
      left
      simp only [List.flatten_nil, List.append_eq_nil_iff] at stream
      simp [stream.1]
  | cons f rest =>
      right
      have frame : IsFrame F f := valid f (by simp)
      rcases head_of_stream F frame stream with ⟨long, head, take⟩ | ⟨short, head⟩
      · exact .inl ⟨f, rest, rfl, long, head, take⟩
      · exact .inr ⟨f, rest, rfl, short, head⟩

theorem Tracks.take (valid : ∀ f ∈ frames, IsFrame F f)
    (h : Tracks frames received buffer delivered) {n : Nat} (head : F.head buffer = .frame n) :
    Tracks frames received (buffer.drop n) (delivered ++ [buffer.take n]) := by
  rcases h.head_cases valid with ⟨_, empty⟩ | ⟨f, rest, rfl, long, full, front⟩ | ⟨_, _, _, _, none⟩
  · rw [empty, F.head_nil] at head
    cases head
  · obtain rfl : f.length = n := by
      rw [full] at head
      injection head
    refine ⟨?_, ?_, h.received_stream⟩
    · rw [front]
      exact ⟨rest, by simp⟩
    · rw [h.received_eq]
      simp
  · rw [none] at head
    cases head

theorem Tracks.head_ne_invalid (valid : ∀ f ∈ frames, IsFrame F f)
    (h : Tracks frames received buffer delivered) : F.head buffer ≠ .invalid := by
  rcases h.head_cases valid with ⟨_, rfl⟩ | ⟨f, _, _, _, full, _⟩ | ⟨_, _, _, _, none⟩
  · simp [F.head_nil]
  · simp [full]
  · simp [none]

theorem Tracks.complete (valid : ∀ f ∈ frames, IsFrame F f)
    (h : Tracks frames received buffer delivered) (all : received = frames.flatten)
    (head : F.head buffer = .incomplete) : delivered = frames ∧ buffer = [] := by
  rcases h.head_cases valid with ⟨rfl, empty⟩ | ⟨f, _, _, _, full, _⟩ | ⟨f, rest, rfl, short, _⟩
  · exact ⟨rfl, empty⟩
  · rw [full] at head
    cases head
  · have same := h.received_eq.symm.trans all
    rw [List.flatten_append, List.flatten_cons] at same
    have tail := congrArg List.length (List.append_cancel_left same)
    rw [List.length_append] at tail
    omega

/-- How many of the first `n` symbols of a stream belong to a frame that is not
complete yet: what a reader that took every complete frame still holds. -/
def unfinished : List (List α) → Nat → Nat
  | [], n => n
  | f :: rest, n => if n < f.length then n else unfinished rest (n - f.length)

theorem unfinished_append (delivered rest : List (List α)) (n : Nat) :
    unfinished (delivered ++ rest) (delivered.flatten.length + n) = unfinished rest n := by
  induction delivered with
  | nil => simp
  | cons f delivered ih =>
      rw [List.cons_append, unfinished, List.flatten_cons, List.length_append,
        if_neg (by omega), ← ih]
      congr 1
      omega

theorem Tracks.unfinished_eq (valid : ∀ f ∈ frames, IsFrame F f)
    (h : Tracks frames received buffer delivered) (head : F.head buffer = .incomplete) :
    unfinished frames received.length = buffer.length := by
  rcases h.head_cases valid with ⟨rfl, rfl⟩ | ⟨f, _, _, _, full, _⟩ | ⟨f, rest, rfl, short, _⟩
  · have whole := unfinished_append frames [] 0
    simpa [h.received_eq, unfinished] using whole
  · rw [full] at head
    cases head
  · rw [h.received_eq, List.length_append, unfinished_append, unfinished, if_pos short]

end Delivery

end RyuLdn.StreamFraming
