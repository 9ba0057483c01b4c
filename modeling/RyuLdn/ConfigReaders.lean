import RyuLdn.ConfigRoundTrip

/-! The two readers of `config.cpp` on one text. They cut it into lines in their own
ways: the console's at LF, CR and CR LF, dropping what exceeds its buffer; the PC's at LF
and wherever the buffer of `fgets` is full. -/
namespace RyuLdn.CText

variable {σ : Type*} {size : Nat} {handle : σ → List UInt8 → σ}

structure Trims (handle : σ → List UInt8 → σ) : Prop where
  trimmed : ∀ (s : σ) (body : List UInt8) {blanks : List UInt8},
    (∀ b ∈ blanks, isBlankOrLineEnd b = true) → handle s (body ++ blanks) = handle s body
  empty : ∀ s, handle s [] = s

theorem Trims.blank (trims : Trims handle) (s : σ) {blanks : List UInt8}
    (blank : ∀ b ∈ blanks, isBlankOrLineEnd b = true) : handle s blanks = s :=
  (trims.trimmed s [] blank).trans (trims.empty s)

def scannedLines (size : Nat) (text : List UInt8) : List (List UInt8) :=
  scanLines size (fun lines line => lines ++ [line]) [] [] text

theorem scanLines_eq_foldl (handle : σ → List UInt8 → σ) (s : σ) (text : List UInt8) :
    scanLines size handle [] s text = (scannedLines size text).foldl handle s := by
  have general : ∀ (line : List UInt8) (lines : List (List UInt8)) (text : List UInt8),
      scanLines size handle line (lines.foldl handle s) text =
        (scanLines size (fun lines line => lines ++ [line]) line lines text).foldl handle s := by
    intro line lines text
    induction line, lines, text using
      scanLines.induct size (fun (lines : List (List UInt8)) line => lines ++ [line]) with
    | case1 line lines => simp [scanLines]
    | case2 line lines b ends ih => simp [scanLines, ends]
    | case3 line lines b inside ih => simp [scanLines, inside]
    | case4 line lines b c rest ends crlf ih =>
        rw [List.foldl_append] at ih
        rw [scanLines, scanLines, if_pos ends, if_pos ends, if_pos crlf, if_pos crlf]
        exact ih
    | case5 line lines b c rest ends other ih =>
        rw [List.foldl_append] at ih
        rw [scanLines, scanLines, if_pos ends, if_pos ends, if_neg other, if_neg other]
        exact ih
    | case6 line lines b c rest inside ih =>
        rw [scanLines, scanLines, if_neg inside, if_neg inside]
        exact ih
  exact general [] [] text

def EndsLine (after : List UInt8) : Prop := after = [] ∨ ∃ rest, after = 10 :: rest

theorem blank_snoc {line : List UInt8} {b : UInt8}
    (blank : ∀ c ∈ line, isBlankOrLineEnd c = true) (last : isBlankOrLineEnd b = true) :
    ∀ c ∈ line ++ [b], isBlankOrLineEnd c = true := by
  intro c member
  rcases List.mem_append.mp member with old | new
  · exact blank c old
  · rw [List.mem_singleton.mp new]
    exact last

section Blanks

variable (trims : Trims handle) {after : List UInt8} (ends : EndsLine after)
include trims ends

theorem fgetsLines_blank (s : σ) {tail : List UInt8}
    (blank : ∀ b ∈ tail, isBlankOrLineEnd b = true) (noLf : 10 ∉ tail) :
    ∀ {line : List UInt8}, (∀ b ∈ line, isBlankOrLineEnd b = true) →
      fgetsLines size handle line s (tail ++ after) = fgetsLines size handle [] s after.tail := by
  induction tail with
  | nil =>
      intro line held
      rcases ends with rfl | ⟨rest, rfl⟩
      · have none := trims.blank s held
        simp [fgetsLines, none]
      · rw [List.nil_append, fgetsLines, if_pos (Or.inl rfl),
          trims.blank s (blank_snoc held (by decide)), List.tail_cons]
  | cons b tail ih =>
      intro line held
      have here := blank b (by simp)
      have later := @ih (fun c member => blank c (by simp [member]))
        (fun member => noLf (by simp [member]))
      rw [List.cons_append, fgetsLines]
      split
      · rw [trims.blank s (blank_snoc held here)]
        exact later (by simp)
      · exact later (blank_snoc held here)

theorem fgetsLines_tail (s : σ) (body : List UInt8) {tail : List UInt8}
    (blank : ∀ b ∈ tail, isBlankOrLineEnd b = true) (noLf : 10 ∉ tail) :
    ∀ {held : List UInt8}, (∀ b ∈ held, isBlankOrLineEnd b = true) →
      fgetsLines size handle (body ++ held) s (tail ++ after) =
        fgetsLines size handle [] (handle s body) after.tail := by
  induction tail with
  | nil =>
      intro held blanks
      have trimmed := trims.trimmed s body blanks
      rcases ends with rfl | ⟨rest, rfl⟩
      · by_cases empty : body ++ held = []
        · have none : handle s body = s := by
            rw [(List.append_eq_nil_iff.mp empty).1, trims.empty]
          simp [fgetsLines, empty, none]
        · simp [fgetsLines, empty, trimmed]
      · rw [List.nil_append, fgetsLines, if_pos (Or.inl rfl), List.append_assoc,
          trims.trimmed s body (blank_snoc blanks (by decide)), List.tail_cons]
  | cons b tail ih =>
      intro held blanks
      have here := blank b (by simp)
      have later : ∀ c ∈ tail, isBlankOrLineEnd c = true := fun c member => blank c (by simp [member])
      have lfFree : 10 ∉ tail := fun member => noLf (by simp [member])
      rw [List.cons_append, fgetsLines, List.append_assoc]
      split
      · rw [trims.trimmed s body (blank_snoc blanks here)]
        exact fgetsLines_blank trims ends (handle s body) later lfFree (by simp)
      · exact ih later lfFree (blank_snoc blanks here)

theorem scanLines_tail {tail : List UInt8} (blank : ∀ b ∈ tail, isBlankOrLineEnd b = true)
    (noLf : 10 ∉ tail) : ∀ (s : σ) (body : List UInt8) {held : List UInt8},
      (∀ b ∈ held, isBlankOrLineEnd b = true) →
        scanLines size handle (body ++ held) s (tail ++ after) =
          scanLines size handle [] (handle s body) after.tail := by
  induction tail with
  | nil =>
      intro s body held blanks
      have trimmed := trims.trimmed s body blanks
      rcases ends with rfl | ⟨rest, rfl⟩
      · simp [scanLines, trimmed, trims.empty]
      · rw [List.nil_append, scanLines_lf, trimmed, List.tail_cons]
  | cons b tail ih =>
      intro s body held blanks
      have here := blank b (by simp)
      have later : ∀ c ∈ tail, isBlankOrLineEnd c = true := fun c member => blank c (by simp [member])
      have lfFree : 10 ∉ tail := fun member => noLf (by simp [member])
      by_cases ending : isLineEnd b = true
      · have handled := trims.trimmed s body blanks
        have next : scanLines size handle [] (handle s body) (tail ++ after) =
            scanLines size handle [] (handle s body) after.tail := by
          have step := @ih later lfFree (handle s body) [] [] (by simp)
          rwa [trims.empty] at step
        cases text : tail ++ after with
        | nil =>
            obtain ⟨rfl, rfl⟩ := List.append_eq_nil_iff.mp text
            rw [List.append_nil, scanLines, if_pos ending, handled]
            exact next
        | cons c more =>
            rw [List.cons_append, text, scanLines, if_pos ending, handled]
            split
            · rename_i crlf
              cases tail with
              | nil =>
                  rw [List.nil_append] at text
                  rw [text, List.tail_cons]
              | cons d tail =>
                  rw [List.cons_append, List.cons.injEq] at text
                  exact absurd (by simp [text.1, crlf.2]) lfFree
            · rw [← text]
              exact next
      · have inside : isLineEnd b = false := by simpa using ending
        rw [List.cons_append, scanLines_byte inside]
        unfold pushByte
        split
        · rw [List.append_assoc]
          exact ih later lfFree s body (blank_snoc blanks here)
        · exact ih later lfFree s body blanks

end Blanks

theorem fgetsLines_body {body : List UInt8} (noLf : 10 ∉ body) (s : σ) (rest : List UInt8) :
    ∀ {line : List UInt8}, (line ++ body).length + 1 < size →
      fgetsLines size handle line s (body ++ rest) =
        fgetsLines size handle (line ++ body) s rest := by
  induction body with
  | nil => simp
  | cons b body ih =>
      intro line fits
      have whole : line ++ b :: body = line ++ [b] ++ body := by simp
      have inside : b ≠ 10 := fun lf => noLf (by simp [lf])
      have room : line.length + 2 ≠ size := by
        simp only [List.length_append, List.length_cons] at fits
        omega
      rw [List.cons_append, fgetsLines, if_neg (not_or.mpr ⟨inside, room⟩), whole]
      rw [whole] at fits
      exact ih (fun member => noLf (by simp [member])) fits

theorem scanLines_body {body : List UInt8} (clean : ∀ b ∈ body, isLineEnd b = false) (s : σ)
    (rest : List UInt8) : ∀ {line : List UInt8}, (line ++ body).length < size →
      scanLines size handle line s (body ++ rest) =
        scanLines size handle (line ++ body) s rest := by
  induction body with
  | nil => simp
  | cons b body ih =>
      intro line fits
      have whole : line ++ b :: body = line ++ [b] ++ body := by simp
      have room : line.length < size - 1 := by
        simp only [List.length_append, List.length_cons] at fits
        omega
      have pushed : pushByte size line b = line ++ [b] := if_pos room
      rw [List.cons_append, scanLines_byte (clean b (by simp)), pushed, whole]
      rw [whole] at fits
      exact ih (fun c member => clean c (by simp [member])) fits

def lineBody (size : Nat) (line : List UInt8) : List UInt8 :=
  (line.takeWhile fun b => !isLineEnd b).take (size - 1)

def RegularLine (size : Nat) (line : List UInt8) : Prop :=
  ∀ b ∈ line.drop (lineBody size line).length, isBlankOrLineEnd b = true

instance (line : List UInt8) : Decidable (RegularLine size line) :=
  inferInstanceAs (Decidable (∀ b ∈ _, _))

theorem lineBody_append (size : Nat) (line : List UInt8) :
    lineBody size line ++ line.drop (lineBody size line).length = line :=
  List.prefix_iff_eq_append.mp ((List.take_prefix _ _).trans (List.takeWhile_prefix _))

theorem lineBody_clean {line : List UInt8} {b : UInt8} (member : b ∈ lineBody size line) :
    isLineEnd b = false := by
  have inside := List.mem_takeWhile_imp (List.mem_of_mem_take member)
  simpa using inside

theorem length_lineBody (positive : 0 < size) (line : List UInt8) :
    (lineBody size line).length < size := by
  unfold lineBody
  rw [List.length_take]
  omega

section Regular

variable (trims : Trims handle) {after : List UInt8} (ends : EndsLine after) (room : 1 < size)
include trims ends room

theorem fgetsLines_line_tail (s : σ) {body tail : List UInt8} (bodyFree : 10 ∉ body)
    (short : body.length < size) (blank : ∀ b ∈ tail, isBlankOrLineEnd b = true)
    (tailFree : 10 ∉ tail) : fgetsLines size handle [] s (body ++ (tail ++ after)) =
      fgetsLines size handle [] (handle s body) after.tail := by
  by_cases full : body.length + 1 = size
  · -- the last byte of the body fills the buffer
    rcases List.eq_nil_or_concat body with rfl | ⟨front, b, rfl⟩
    · simp at full
      omega
    · rw [List.concat_eq_append] at bodyFree short full ⊢
      have length : front.length + 2 = size := by simpa using full
      have frontFree : 10 ∉ front := fun member => bodyFree (List.mem_append_left _ member)
      rw [List.append_assoc, fgetsLines_body frontFree s _ (by simp only [List.nil_append]; omega),
        List.nil_append, List.singleton_append, fgetsLines, if_pos (Or.inr length)]
      exact fgetsLines_blank trims ends _ blank tailFree (by simp)
  · have held := @fgetsLines_tail _ size _ trims _ ends s body _ blank tailFree [] (by simp)
    rw [fgetsLines_body bodyFree s _ (by simp only [List.nil_append]; omega), List.nil_append]
    rwa [List.append_nil] at held

omit room in
theorem scanLines_line_tail (s : σ) {body tail : List UInt8}
    (clean : ∀ b ∈ body, isLineEnd b = false) (short : body.length < size)
    (blank : ∀ b ∈ tail, isBlankOrLineEnd b = true) (tailFree : 10 ∉ tail) :
    scanLines size handle [] s (body ++ (tail ++ after)) =
      scanLines size handle [] (handle s body) after.tail := by
  have held := @scanLines_tail _ size _ trims _ ends _ blank tailFree s body [] (by simp)
  rw [scanLines_body clean s _ (by simpa using short), List.nil_append]
  rwa [List.append_nil] at held

theorem readers_line {line : List UInt8} (noLf : 10 ∉ line) (regular : RegularLine size line)
    (s : σ) :
    scanLines size handle [] s (line ++ after) =
        scanLines size handle [] (handle s (lineBody size line)) after.tail ∧
      fgetsLines size handle [] s (line ++ after) =
        fgetsLines size handle [] (handle s (lineBody size line)) after.tail := by
  have whole := lineBody_append size line
  have short := length_lineBody (Nat.lt_of_succ_lt room) line
  have clean : ∀ b ∈ lineBody size line, isLineEnd b = false := fun b => lineBody_clean
  have bodyFree : 10 ∉ lineBody size line := fun lf => absurd (clean 10 lf) (by decide)
  have tailFree : 10 ∉ line.drop (lineBody size line).length :=
    fun member => noLf (List.mem_of_mem_drop member)
  have text : line ++ after = lineBody size line ++
      (line.drop (lineBody size line).length ++ after) := by
    rw [← List.append_assoc, whole]
  rw [text]
  exact ⟨scanLines_line_tail trims ends s clean short regular tailFree,
    fgetsLines_line_tail trims ends room s bodyFree short regular tailFree⟩

end Regular

def RegularText (size : Nat) (text : List UInt8) : Prop :=
  ∀ line ∈ text.splitOn 10, RegularLine size line

instance (text : List UInt8) : Decidable (RegularText size text) :=
  inferInstanceAs (Decidable (∀ line ∈ _, _))

theorem readers_agree (trims : Trims handle) (room : 1 < size) {text : List UInt8}
    (regular : RegularText size text) (s : σ) :
    scanLines size handle [] s text = fgetsLines size handle [] s text := by
  induction length : text.length using Nat.strong_induction_on generalizing text s with
  | h n ih =>
      by_cases lf : 10 ∈ text
      · obtain ⟨line, rest, rfl, noLf⟩ := List.eq_append_cons_of_mem lf
        unfold RegularText at regular
        rw [List.splitOn_append_cons_self_of_not_mem noLf, List.forall_mem_cons] at regular
        have ⟨scanned, read⟩ :=
          readers_line trims (Or.inr ⟨rest, rfl⟩) room noLf regular.1 s
        have shorter : rest.length < n := by
          rw [← length]
          simp only [List.length_append, List.length_cons]
          omega
        rw [scanned, read, List.tail_cons]
        exact ih rest.length shorter regular.2 _ rfl
      · unfold RegularText at regular
        rw [List.splitOn_eq_singleton lf] at regular
        have ⟨scanned, read⟩ :=
          readers_line trims (Or.inl rfl) room lf (regular text (by simp)) s
        rw [List.append_nil] at scanned read
        rw [scanned, read]
        simp [scanLines, fgetsLines, trims.empty]

theorem fgetsLines_joinLines_full (trims : Trims handle) (room : 1 < size)
    {lines : List (List UInt8)}
    (fit : ∀ line ∈ lines, line.length < size ∧ ∀ b ∈ line, isLineEnd b = false) (s : σ) :
    fgetsLines size handle [] s (joinLines lines) = lines.foldl handle s := by
  induction lines generalizing s with
  | nil => simp [joinLines, fgetsLines]
  | cons line lines ih =>
      obtain ⟨short, clean⟩ := fit line (by simp)
      have noLf : 10 ∉ line := fun lf => absurd (clean 10 lf) (by decide)
      have text : joinLines (line :: lines) = line ++ ([] ++ 10 :: joinLines lines) := by
        simp [joinLines]
      rw [text, fgetsLines_line_tail trims (Or.inr ⟨_, rfl⟩) room s noLf short (by simp) (by simp),
        List.tail_cons, List.foldl_cons]
      exact ih (fun other member => fit other (by simp [member])) (handle s line)

theorem scannedLines_fit (positive : 0 < size) (text : List UInt8) :
    ∀ line ∈ scannedLines size text, line.length < size ∧ ∀ b ∈ line, isLineEnd b = false := by
  let Fit : List (List UInt8) → Prop := fun lines =>
    ∀ line ∈ lines, line.length < size ∧ ∀ b ∈ line, isLineEnd b = false
  have keep : ∀ (lines : List (List UInt8)) (line : List UInt8), line.length < size →
      (∀ b ∈ line, isLineEnd b = false) → Fit lines → Fit (lines ++ [line]) := by
    intro lines line short clean held other member
    rcases List.mem_append.mp member with old | new
    · exact held other old
    · rw [List.mem_singleton.mp new]
      exact ⟨short, clean⟩
  have none : Fit [] := by simp [Fit]
  have room : ([] : List UInt8).length < size := positive
  exact scanLines_keeps keep room (by simp) none text

end RyuLdn.CText

namespace RyuLdn.ConfigFile

open CText

theorem trims_processLine : Trims processLine where
  trimmed := by
    intro parser body blanks blank
    have same : trimEnd (cString (body ++ blanks)) = trimEnd (cString body) := by
      unfold cString
      rw [List.takeWhile_append]
      split
      · rename_i whole
        have noNul : blanks.takeWhile (· ≠ 0) = blanks := by
          rw [List.takeWhile_eq_self_iff]
          intro b member
          have isBlank := blank b member
          by_contra nul
          have zero : b = 0 := by simpa using nul
          rw [zero] at isBlank
          exact absurd isBlank (by decide)
        have all := List.IsPrefix.eq_of_length (List.takeWhile_prefix _) whole
        rw [noNul, all]
        exact rdropWhile_append_of_forall blank
      · rfl
    unfold processLine
    rw [same]
  empty := processLine_nil

def normalText (content : List UInt8) : List UInt8 := joinLines (scannedLines 512 content)

/-- The console reads every text as the PC reads its lines, and the text itself wherever
its lines are regular. -/
theorem parseConfigContent_eq_file (content : List UInt8) (start : Config) :
    parseConfigContent content start = parseConfigFile (normalText content) start ∧
      (RegularText 512 content →
        parseConfigContent content start = parseConfigFile content start) := by
  constructor
  · have fit := scannedLines_fit (show 0 < 512 by decide) content
    unfold parseConfigFile normalText
    rw [parseConfigContent_eq, scanLines_eq_foldl,
      fgetsLines_joinLines_full trims_processLine (by decide) fit]
  · intro regular
    unfold parseConfigFile
    rw [parseConfigContent_eq, readers_agree trims_processLine (by decide) regular]

/-- CR LF, LF, a missing final line end, and a line with more blanks than the buffer holds. -/
theorem parseConfigContent_eq_file_mixed :
    parseConfigContent (ascii "[server]\r\nport = 7\nhost = a" ++ List.replicate 600 32)
        getDefaultConfig =
      parseConfigFile (ascii "[server]\r\nport = 7\nhost = a" ++ List.replicate 600 32)
        getDefaultConfig :=
  (parseConfigContent_eq_file _ _).2 (by decide +kernel)

/-- A CR of its own ends a line for the console only. -/
theorem lone_cr_splits :
    (parseConfigContent (ascii "[server]\nport = 1\rport = 2\n") getDefaultConfig).server.port = 2 ∧
      ¬ ∀ content start, 0 ∉ content →
        parseConfigContent content start = parseConfigFile content start := by
  have console : (parseConfigContent (ascii "[server]\nport = 1\rport = 2\n")
      getDefaultConfig).server.port = 2 := by decide +kernel
  have pc : (parseConfigFile (ascii "[server]\nport = 1\rport = 2\n")
      getDefaultConfig).server.port = 1 := by decide +kernel
  refine ⟨console, fun same => ?_⟩
  rw [same _ _ (by decide +kernel), pc] at console
  exact absurd console (by decide)

end RyuLdn.ConfigFile
