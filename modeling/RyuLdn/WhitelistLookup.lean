import Mathlib.Algebra.BigOperators.Group.List.Basic
import Mathlib.Data.Finset.Card
import RyuLdn.GameWhitelist

/-! Which program IDs a game list admits: the chunks do not matter, the length of the lines
and their number do. -/
namespace RyuLdn.GameWhitelist

open CText

/-- The pieces between line ends; between CR and LF there is an empty one. -/
def lines (text : List UInt8) : List (List UInt8) := text.splitOnP isLineEnd

def nonzeroIds (lines : List (List UInt8)) : List UInt64 :=
  (lines.map parseHexId).filter (· ≠ 0)

def lineIds (text : List UInt8) : List UInt64 := nonzeroIds (lines text)

def cutLine (line : List UInt8) : List UInt8 := line.take (lineBufSize - 1)

def cutIds (text : List UInt8) : List UInt64 := nonzeroIds ((lines text).map cutLine)

theorem mem_lineIds {text : List UInt8} {programId : UInt64} :
    programId ∈ lineIds text ↔
      programId ≠ 0 ∧ ∃ line ∈ lines text, programId = parseHexId line := by
  unfold lineIds nonzeroIds
  rw [List.mem_filter, List.mem_map, decide_eq_true_iff]
  constructor
  · rintro ⟨⟨line, member, rfl⟩, nonzero⟩
    exact ⟨nonzero, line, member, rfl⟩
  · rintro ⟨nonzero, line, member, rfl⟩
    exact ⟨⟨line, member, rfl⟩, nonzero⟩

theorem nonzeroIds_cons (line : List UInt8) (lines : List (List UInt8)) :
    nonzeroIds (line :: lines) = nonzeroIds [line] ++ nonzeroIds lines := by
  unfold nonzeroIds
  rw [← List.filter_append, ← List.map_append, List.singleton_append]

theorem storeId_eq (ids : List UInt64) (line : List UInt8) :
    storeId ids line = ids ++ nonzeroIds [line] := by
  unfold storeId nonzeroIds
  rw [List.map_singleton, List.filter_singleton]
  by_cases zero : parseHexId line = 0
  · simp [zero]
  · simp [zero]

theorem nonzeroIds_length_le (lines : List (List UInt8)) :
    (nonzeroIds lines).length ≤ lines.length := by
  unfold nonzeroIds
  exact (List.length_filter_le _ _).trans (List.length_map _).le

theorem scanChunk_full {capacity : Nat} {s : Scan} (full : ¬ s.ids.length < capacity)
    (chunk : List UInt8) : scanChunk capacity chunk s = s := by
  cases chunk with
  | nil => rfl
  | cons c chunk => rw [scanChunk, if_neg full]

theorem scanChunk_append (capacity : Nat) (first second : List UInt8) (s : Scan) :
    scanChunk capacity (first ++ second) s =
      scanChunk capacity second (scanChunk capacity first s) := by
  induction first generalizing s with
  | nil => rfl
  | cons c first ih =>
      rw [List.cons_append, scanChunk, scanChunk]
      split
      · exact ih (scanByte s c)
      · rename_i full
        rw [scanChunk_full full]

theorem readChunks_eq {capacity : Nat} {text : List UInt8} {readable : Nat → Bool}
    (reads : ∀ offset < text.length, readable offset = true) (offset : Nat) (s : Scan) :
    readChunks capacity text readable offset s = scanChunk capacity (text.drop offset) s := by
  induction offset, s using readChunks.induct capacity text readable with
  | case1 offset s more failed =>
      rw [reads offset more.1] at failed
      cases failed
  | case2 offset s more read toRead ih =>
      rw [readChunks, if_pos more, if_neg read]
      dsimp only
      rw [ih, ← scanChunk_append, ← List.drop_drop, List.take_append_drop]
  | case3 offset s stop =>
      rw [readChunks, if_neg stop]
      by_cases inside : offset < text.length
      · rw [scanChunk_full (fun room => stop ⟨inside, room⟩)]
      · rw [List.drop_eq_nil_of_le (Nat.not_lt.mp inside), scanChunk]

theorem lines_clean {front : List UInt8} (clean : ∀ b ∈ front, isLineEnd b = false) :
    lines front = [front] :=
  List.splitOnP_eq_singleton clean

theorem lines_append_cons {front : List UInt8} (clean : ∀ b ∈ front, isLineEnd b = false)
    {c : UInt8} (ends : isLineEnd c = true) (rest : List UInt8) :
    lines (front ++ c :: rest) = front :: lines rest :=
  List.splitOnP_append_cons_of_forall_mem clean c ends rest

theorem nonzeroIds_of_empty {line : List UInt8} (empty : ¬ 0 < line.length) :
    nonzeroIds [line] = [] := by
  rw [List.eq_nil_of_length_eq_zero (Nat.eq_zero_of_not_pos empty)]
  rfl

theorem scanByte_lineEnd {c : UInt8} (ends : isLineEnd c = true) (line : List UInt8)
    (ids : List UInt64) : scanByte ⟨line, ids⟩ c = ⟨[], ids ++ nonzeroIds [line]⟩ := by
  rw [scanByte, if_pos ends]
  dsimp only
  split
  · rw [storeId_eq]
  · rename_i empty
    rw [nonzeroIds_of_empty empty, List.append_nil,
      List.eq_nil_of_length_eq_zero (Nat.eq_zero_of_not_pos empty)]

theorem lastLine_eq {capacity : Nat} (line : List UInt8) {ids : List UInt64}
    (room : ids.length ≤ capacity) :
    lastLine capacity ⟨line, ids⟩ = (ids ++ nonzeroIds [line]).take capacity := by
  have one := nonzeroIds_length_le [line]
  rw [List.length_singleton] at one
  unfold lastLine
  dsimp only
  by_cases some : 0 < line.length
  · by_cases more : ids.length < capacity
    · rw [if_pos ⟨some, more⟩, storeId_eq, List.take_of_length_le]
      rw [List.length_append]
      omega
    · rw [if_neg (fun both => more both.2), List.take_append_of_le_length (Nat.not_lt.mp more),
        List.take_of_length_le room]
  · rw [if_neg (fun both => some both.1), nonzeroIds_of_empty some, List.append_nil,
      List.take_of_length_le room]

theorem cutIds_cons {front : List UInt8} (clean : ∀ b ∈ front, isLineEnd b = false)
    {c : UInt8} (ends : isLineEnd c = true) (rest : List UInt8) :
    cutIds (front ++ c :: rest) = nonzeroIds [cutLine front] ++ cutIds rest := by
  rw [cutIds, lines_append_cons clean ends, List.map_cons, nonzeroIds_cons]
  rfl

theorem pushByte_cutLine (front : List UInt8) (c : UInt8) :
    pushByte lineBufSize (cutLine front) c = cutLine (front ++ [c]) := by
  unfold pushByte cutLine
  rw [List.length_take, List.take_append]
  by_cases room : front.length < lineBufSize - 1
  · rw [if_pos (by omega), List.take_of_length_le (l := [c]) (by rw [List.length_singleton]; omega)]
  · rw [if_neg (by omega), Nat.sub_eq_zero_of_le (Nat.not_lt.mp room), List.take_zero,
      List.append_nil]

theorem lastLine_scanChunk (capacity : Nat) (rest : List UInt8) {front : List UInt8}
    (clean : ∀ b ∈ front, isLineEnd b = false) {ids : List UInt64} (room : ids.length ≤ capacity) :
    lastLine capacity (scanChunk capacity rest ⟨cutLine front, ids⟩) =
      (ids ++ cutIds (front ++ rest)).take capacity := by
  induction rest generalizing front ids with
  | nil =>
      rw [scanChunk, lastLine_eq _ room, List.append_nil, cutIds, lines_clean clean,
        List.map_singleton]
  | cons c rest ih =>
      rw [scanChunk]
      by_cases more : ids.length < capacity
      · rw [if_pos more]
        cases ends : isLineEnd c with
        | true =>
            have one := nonzeroIds_length_le [cutLine front]
            rw [List.length_singleton] at one
            rw [scanByte_lineEnd ends, cutIds_cons clean ends, ← List.append_assoc]
            have fresh : ∀ b ∈ ([] : List UInt8), isLineEnd b = false := by simp
            exact ih fresh (by rw [List.length_append]; omega)
        | false =>
            have next : scanByte ⟨cutLine front, ids⟩ c = ⟨cutLine (front ++ [c]), ids⟩ := by
              rw [scanByte, ends, ← pushByte_cutLine]
              rfl
            have longer : ∀ b ∈ front ++ [c], isLineEnd b = false := by
              simpa [or_imp, forall_and, ends] using clean
            rw [next, ih longer room, List.append_assoc]
            rfl
      · rw [if_neg more]
        have full : ids.length = capacity := by omega
        rw [lastLine, if_neg (by simp [full]), List.take_append_of_le_length full.ge,
          List.take_of_length_le full.le]

def storedIds (text : List UInt8) : List UInt64 := (cutIds text).take (whitelistCapacity text)

/-- The list is opened, its size is known, and every read succeeds. -/
structure ReadsSucceed (answers : SystemAnswers) (list : GameList) : Prop where
  opened : answers.file = some list
  sizeKnown : answers.sizeKnown = true
  readable : ∀ offset < list.text.length, answers.readable offset = true

theorem loadWhitelist_eq {answers : SystemAnswers} {list : GameList}
    (reads : ReadsSucceed answers list) :
    loadWhitelist initial answers =
      ⟨if answers.allocates = true then sortWhitelist (storedIds list.text) else [], true⟩ := by
  unfold loadWhitelist initial
  dsimp only
  rw [if_neg (by decide), reads.opened, reads.sizeKnown]
  dsimp only
  by_cases empty : list.text.length = 0
  · have nothing : storedIds list.text = [] := by
      rw [List.eq_nil_of_length_eq_zero empty]
      rfl
    rw [if_pos (Or.inr empty), nothing]
    split <;> rfl
  · rw [if_neg (by simp [empty])]
    cases answers.allocates with
    | false => rfl
    | true =>
        have fresh : ∀ b ∈ ([] : List UInt8), isLineEnd b = false := by simp
        have none : ([] : List UInt64).length ≤ whitelistCapacity list.text := Nat.zero_le _
        have scanned := lastLine_scanChunk _ list.text fresh none
        rw [if_neg (by decide), if_pos rfl, readChunks_eq reads.readable, List.drop_zero]
        exact congrArg (fun ids => (⟨sortWhitelist ids, true⟩ : Whitelist)) scanned

theorem mem_sortWhitelist {ids : List UInt64} {programId : UInt64} :
    programId ∈ sortWhitelist ids ↔ programId ∈ ids := by
  unfold sortWhitelist
  split
  · exact SortedSearch.mem_sortUnique
  · rfl

theorem sortWhitelist_sorted (ids : List UInt64) : (sortWhitelist ids).Pairwise (· ≤ ·) := by
  unfold sortWhitelist
  split
  · exact SortedSearch.sortUnique_sorted ids
  · rename_i few
    match ids with
    | [] => exact List.Pairwise.nil
    | [id] => exact List.pairwise_singleton _ id
    | _ :: _ :: _ => simp at few

theorem isGameInWhitelist_stored {ids : List UInt64} (some : ids ≠ []) (programId : UInt64) :
    isGameInWhitelist ⟨sortWhitelist ids, true⟩ programId = true ↔ programId ∈ ids := by
  obtain ⟨id, member⟩ := List.exists_mem_of_ne_nil ids some
  have nonempty := List.length_pos_of_mem (mem_sortWhitelist.mpr member)
  unfold isGameInWhitelist
  dsimp only
  rw [if_neg (by decide), if_neg nonempty.ne',
    SortedSearch.binarySearch_iff (sortWhitelist_sorted ids), mem_sortWhitelist]

theorem isGameInWhitelist_empty (programId : UInt64) :
    isGameInWhitelist ⟨[], true⟩ programId = true ↔
      0x0100000000000000 ≤ programId ∧ programId ≠ 0x010028600ebda000 := by
  unfold isGameInWhitelist
  dsimp only
  rw [if_neg (by decide), if_pos List.length_nil, Bool.and_eq_true, decide_eq_true_iff,
    decide_eq_true_iff]

theorem sum_lines (text : List UInt8) :
    ((lines text).map fun line => line.length + 1).sum = text.length + 1 := by
  unfold lines
  induction text with
  | nil => rfl
  | cons c text ih =>
      rw [List.splitOnP_cons_eq_if_modifyHead]
      split
      · rw [List.map_cons, List.sum_cons, ih, List.length_cons, List.length_nil]
        omega
      · cases pieces : text.splitOnP isLineEnd with
        | nil => exact absurd pieces (List.splitOnP_ne_nil isLineEnd text)
        | cons line others =>
            rw [pieces, List.map_cons, List.sum_cons] at ih
            rw [List.modifyHead_cons, List.map_cons, List.sum_cons, List.length_cons,
              List.length_cons]
            omega

theorem length_lines_le (text : List UInt8) : (lines text).length ≤ text.length + 1 := by
  have pieces := List.length_le_sum_of_one_le ((lines text).map fun line => line.length + 1)
    (by simp)
  rwa [List.length_map, sum_lines] at pieces

theorem not_all_applications (list : GameList) :
    ¬ ∀ programId : UInt64, 0x0100000000000000 ≤ programId ∧ programId ≠ 0x010028600ebda000 ↔
      programId ∈ lineIds list.text := by
  intro all
  have few : (lineIds list.text).length ≤ 2 ^ 63 := by
    have ids := nonzeroIds_length_le (lines list.text)
    have pieces := length_lines_le list.text
    have small := list.small
    unfold lineIds
    omega
  have many : (Finset.range (2 ^ 63 + 1)).card ≤ (lineIds list.text).toFinset.card := by
    have value : ∀ n < 2 ^ 63 + 1, (UInt64.ofNat (2 ^ 62 + n)).toNat = 2 ^ 62 + n := by
      intro n bound
      rw [UInt64.toNat_ofNat']
      omega
    refine Finset.card_le_card_of_injOn (fun n => UInt64.ofNat (2 ^ 62 + n)) ?_ ?_
    · intro n bound
      have same := value n (Finset.mem_range.mp bound)
      refine List.mem_toFinset.mpr ((all _).mp ⟨?_, ?_⟩)
      · have bottom : (0x0100000000000000 : UInt64).toNat = 2 ^ 56 := by decide
        rw [UInt64.le_iff_toNat_le, same, bottom]
        omega
      · intro album
        have low : (0x010028600ebda000 : UInt64).toNat < 2 ^ 62 := by decide
        rw [← album, same] at low
        omega
    · intro n bound m bound' equal
      have same := congrArg UInt64.toNat equal
      dsimp only at same
      rw [value n (Finset.mem_range.mp bound), value m (Finset.mem_range.mp bound')] at same
      omega
  have length := List.toFinset_card_le (lineIds list.text)
  rw [Finset.card_range] at many
  omega

theorem nonzeroIds_room (lines : List (List UInt8))
    (long : ∀ line ∈ lines, parseHexId line ≠ 0 → bytesPerEntry ≤ line.length + 1) :
    bytesPerEntry * (nonzeroIds lines).length ≤ (lines.map fun line => line.length + 1).sum := by
  induction lines with
  | nil => exact Nat.zero_le _
  | cons line lines ih =>
      have rest := ih fun other member => long other (List.mem_cons_of_mem line member)
      have head := long line List.mem_cons_self
      rw [nonzeroIds_cons, List.length_append, List.map_cons, List.sum_cons, Nat.mul_add]
      by_cases zero : parseHexId line = 0
      · have none : nonzeroIds [line] = [] := by simp [nonzeroIds, zero]
        rw [none, List.length_nil]
        omega
      · have one := nonzeroIds_length_le [line]
        have entry := Nat.mul_le_mul_left bytesPerEntry one
        have wide := head zero
        rw [List.length_singleton] at entry
        omega

theorem storedIds_of_fitting {text : List UInt8}
    (short : ∀ line ∈ lines text, line.length < lineBufSize)
    (long : ∀ line ∈ lines text, parseHexId line ≠ 0 → bytesPerEntry ≤ line.length + 1) :
    storedIds text = lineIds text := by
  have whole : (lines text).map cutLine = lines text := by
    refine (List.map_congr_left ?_).trans (List.map_id _)
    intro line member
    exact List.take_of_length_le (Nat.le_sub_one_of_lt (short line member))
  have room := nonzeroIds_room (lines text) long
  rw [sum_lines] at room
  unfold storedIds cutIds lineIds
  rw [whole, List.take_of_length_le]
  unfold whitelistCapacity bytesPerEntry at *
  omega

/-- Membership is exact when the array is allocated and what it has room for, of lines that
the buffer cuts, are the IDs of the list. -/
theorem whitelist_exact_iff {answers : SystemAnswers} {list : GameList}
    (reads : ReadsSucceed answers list) (someId : ∃ line ∈ lines list.text, parseHexId line ≠ 0) :
    (∀ programId, isGameInWhitelist (loadWhitelist initial answers) programId = true ↔
      programId ≠ 0 ∧ ∃ line ∈ lines list.text, programId = parseHexId line) ↔
    answers.allocates = true ∧
      ∀ programId, programId ∈ storedIds list.text ↔ programId ∈ lineIds list.text := by
  obtain ⟨line, member, nonzero⟩ := someId
  have listed := mem_lineIds.mpr ⟨nonzero, line, member, rfl⟩
  simp only [← mem_lineIds]
  rw [loadWhitelist_eq reads]
  constructor
  · intro admits
    have allocates : answers.allocates = true := by
      by_contra fails
      rw [if_neg fails] at admits
      simp only [isGameInWhitelist_empty] at admits
      exact not_all_applications list admits
    rw [if_pos allocates] at admits
    have some : storedIds list.text ≠ [] := by
      intro none
      rw [none] at admits
      exact not_all_applications list fun programId =>
        (isGameInWhitelist_empty programId).symm.trans (admits programId)
    refine ⟨allocates, ?_⟩
    intro programId
    rw [← isGameInWhitelist_stored some]
    exact admits programId
  · rintro ⟨allocates, same⟩ programId
    rw [if_pos allocates, ← same]
    exact isGameInWhitelist_stored (List.ne_nil_of_mem ((same _).mpr listed)) programId

def shortGameList : GameList where
  text := ascii "0x0100152000022000\r\n0x010028600EBDA000\n"
  small := by decide

theorem lines_shortGameList : lines shortGameList.text =
    [ascii "0x0100152000022000", [], ascii "0x010028600EBDA000", []] := by
  decide

theorem shortGameList_exact :
    (∃ line ∈ lines shortGameList.text, parseHexId line ≠ 0) ∧
      ∀ programId, isGameInWhitelist
          (loadWhitelist initial ⟨some shortGameList, true, true, fun _ => true⟩) programId = true ↔
        programId ≠ 0 ∧ ∃ line ∈ lines shortGameList.text, programId = parseHexId line := by
  have someId : ∃ line ∈ lines shortGameList.text, parseHexId line ≠ 0 := by
    rw [lines_shortGameList]
    decide
  have short : ∀ line ∈ lines shortGameList.text, line.length < lineBufSize := by
    rw [lines_shortGameList]
    decide
  have long : ∀ line ∈ lines shortGameList.text, parseHexId line ≠ 0 →
      bytesPerEntry ≤ line.length + 1 := by
    rw [lines_shortGameList]
    decide
  refine ⟨someId, (whitelist_exact_iff ⟨rfl, rfl, fun _ _ => rfl⟩ someId).mpr ⟨rfl, ?_⟩⟩
  intro programId
  rw [storedIds_of_fitting short long]

def plainLine : List UInt8 := ascii "0100152000022000"

def otherLine : List UInt8 := ascii "0100000000010000"

def plainGames (n : Nat) : List (List UInt8) := List.replicate n plainLine ++ [otherLine]

theorem lines_joinLines {games : List (List UInt8)}
    (clean : ∀ line ∈ games, ∀ b ∈ line, isLineEnd b = false) :
    lines (joinLines games) = games ++ [[]] := by
  induction games with
  | nil => rfl
  | cons line games ih =>
      have text : joinLines (line :: games) = line ++ 10 :: joinLines games := by simp [joinLines]
      rw [text, lines_append_cons (clean line List.mem_cons_self) rfl,
        ih fun other member => clean other (List.mem_cons_of_mem line member)]
      rfl

theorem clean_of_all {line : List UInt8} (all : (line.all fun b => !isLineEnd b) = true) :
    ∀ b ∈ line, isLineEnd b = false := by
  simpa using all

theorem lines_plainGames (n : Nat) :
    lines (joinLines (plainGames n)) = plainGames n ++ [[]] := by
  refine lines_joinLines fun line member => ?_
  rcases List.mem_append.mp member with plain | other
  · rw [List.eq_of_mem_replicate plain]
    exact clean_of_all (by decide)
  · rw [List.mem_singleton.mp other]
    exact clean_of_all (by decide)

theorem length_plainGames (n : Nat) : (joinLines (plainGames n)).length = 17 * (n + 1) := by
  have whole := sum_lines (joinLines (plainGames n))
  have plain : plainLine.length = 16 := by decide
  have other : otherLine.length = 16 := by decide
  have pieces : ((plainGames n ++ [[]]).map fun line : List UInt8 => line.length + 1).sum =
      n * 17 + 18 := by
    simp only [plainGames, List.map_append, List.map_replicate, List.sum_append,
      List.sum_replicate_nat, plain, List.map_cons, List.map_nil, List.sum_cons, List.sum_nil,
      other, List.length_nil]
    omega
  rw [lines_plainGames, pieces] at whole
  omega

theorem whitelistCapacity_plainGames (n : Nat) :
    whitelistCapacity (joinLines (plainGames n)) = 17 * (n + 1) / 18 + 100 := by
  rw [whitelistCapacity, length_plainGames, bytesPerEntry]

theorem cutIds_plainGames (n : Nat) : cutIds (joinLines (plainGames n)) =
    List.replicate n (parseHexId plainLine) ++ [parseHexId otherLine] := by
  have plain : cutLine plainLine = plainLine := by decide
  have other : nonzeroIds [cutLine otherLine, cutLine []] = [parseHexId otherLine] := by decide
  have nonzero : parseHexId plainLine ≠ 0 := by decide
  have kept : nonzeroIds (List.replicate n plainLine) =
      List.replicate n (parseHexId plainLine) := by
    rw [nonzeroIds, List.map_replicate, List.filter_replicate, if_pos (decide_eq_true nonzero)]
  have split : (plainGames n ++ [[]]).map cutLine =
      List.replicate n plainLine ++ [cutLine otherLine, cutLine []] := by
    simp only [plainGames, List.map_append, List.map_replicate, plain, List.map_cons, List.map_nil,
      List.append_assoc, List.singleton_append]
  rw [cutIds, lines_plainGames, split, ← kept, ← other]
  simp only [nonzeroIds, List.map_append, List.filter_append]

theorem otherLine_not_stored {n : Nat} (positive : 0 < n) {list : GameList}
    (text : list.text = joinLines (plainGames n)) (full : whitelistCapacity list.text = n) :
    parseHexId otherLine ∈ lineIds list.text ∧ storedIds list.text ≠ [] ∧
      parseHexId otherLine ∉ storedIds list.text := by
  have nonzero : parseHexId otherLine ≠ 0 := by decide
  have different : parseHexId otherLine ≠ parseHexId plainLine := by decide
  have listed : otherLine ∈ lines list.text := by
    rw [text, lines_plainGames]
    exact List.mem_append_left _ (List.mem_append_right _ List.mem_cons_self)
  have stored : storedIds list.text = List.replicate n (parseHexId plainLine) := by
    rw [storedIds, full, text, cutIds_plainGames]
    exact List.take_left' List.length_replicate
  refine ⟨mem_lineIds.mpr ⟨nonzero, otherLine, listed, rfl⟩, ?_, ?_⟩
  · rw [stored]
    exact List.ne_nil_of_length_pos (by rwa [List.length_replicate])
  · rw [stored]
    exact fun member => different (List.eq_of_mem_replicate member)

def plainGameList : GameList where
  text := joinLines (plainGames 1800)
  small := by
    rw [length_plainGames]
    omega

/-- In a file of 1801 lines of 17 bytes, one ID is lost. -/
theorem otherLine_lost :
    ¬ ∀ programId, isGameInWhitelist
        (loadWhitelist initial ⟨some plainGameList, true, true, fun _ => true⟩) programId = true ↔
      programId ≠ 0 ∧ ∃ line ∈ lines plainGameList.text, programId = parseHexId line := by
  intro admits
  have full : whitelistCapacity plainGameList.text = 1800 := whitelistCapacity_plainGames 1800
  obtain ⟨listed, some, lost⟩ := otherLine_not_stored (by decide) rfl full
  have found := (admits (parseHexId otherLine)).mpr (mem_lineIds.mp listed)
  rw [loadWhitelist_eq ⟨rfl, rfl, fun _ _ => rfl⟩, if_pos rfl,
    isGameInWhitelist_stored some] at found
  exact lost found

end RyuLdn.GameWhitelist
