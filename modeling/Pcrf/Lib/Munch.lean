import Mathlib.Data.List.TakeWhile

/-!
Scanners that are given by rules: at each place the rule that matches the longest text there is
taken, the first one of those that match as much.
-/

namespace Lib

/-- A rule of a scanner: how much it matches at the front of a text, 0 when it does not match, and
what is done about it. -/
structure ScanRule (α : Type) where
  len : List Char → Nat
  action : α

variable {α : Type}

/-- The rule that is taken at the front of the text. -/
def munch (text : List Char) : List (ScanRule α) → Option (ScanRule α)
  | [] => none
  | rule :: rules =>
    match munch text rules with
    | some later => if later.len text ≤ rule.len text then some rule else some later
    | none => if 0 < rule.len text then some rule else none

/-- The rule matches, no other one matches more, and those before it match less. -/
structure Wins (text : List Char) (before : List (ScanRule α)) (rule : ScanRule α)
    (after : List (ScanRule α)) : Prop where
  matches_ : 0 < rule.len text
  before : ∀ other ∈ before, other.len text < rule.len text
  after : ∀ other ∈ after, other.len text ≤ rule.len text

theorem munch_eq_none_iff {text : List Char} {rules : List (ScanRule α)} :
    munch text rules = none ↔ ∀ rule ∈ rules, rule.len text = 0 := by
  induction rules with
  | nil => simp [munch]
  | cons rule rules ih =>
    rw [munch, List.forall_mem_cons, ← ih]
    cases munch text rules with
    | none => simp
    | some later => by_cases h : later.len text ≤ rule.len text <;> simp [h]

/-- What is taken wins. -/
theorem wins_of_munch {text : List Char} {rules : List (ScanRule α)} {rule : ScanRule α}
    (h : munch text rules = some rule) :
    ∃ before after, rules = before ++ rule :: after ∧ Wins text before rule after := by
  induction rules generalizing rule with
  | nil => cases h
  | cons first rules ih =>
    rw [munch] at h
    cases found : munch text rules with
    | none =>
      simp only [found] at h
      split at h
      next positive =>
        cases h
        refine ⟨[], rules, rfl, positive, fun other mem => absurd mem List.not_mem_nil, ?_⟩
        intro other mem
        rw [munch_eq_none_iff.mp found other mem]
        exact Nat.zero_le _
      next => cases h
    | some later =>
      obtain ⟨before, after, split_, wins⟩ := ih found
      simp only [found] at h
      split at h
      next less =>
        -- the first rule matches as much as any later one
        cases h
        refine ⟨[], rules, rfl, Nat.lt_of_lt_of_le wins.matches_ less,
          fun other mem => absurd mem List.not_mem_nil, ?_⟩
        intro other mem
        rw [split_] at mem
        rcases List.mem_append.mp mem with mem | mem
        · exact Nat.le_trans (Nat.le_of_lt (wins.before other mem)) less
        · rcases List.mem_cons.mp mem with rfl | mem
          · exact less
          · exact Nat.le_trans (wins.after other mem) less
      next more =>
        cases h
        refine ⟨first :: before, after, by rw [split_]; rfl, wins.matches_, ?_, wins.after⟩
        intro other mem
        rcases List.mem_cons.mp mem with rfl | mem
        · exact Nat.not_le.mp more
        · exact wins.before other mem

theorem mem_of_munch {text : List Char} {rules : List (ScanRule α)} {rule : ScanRule α}
    (h : munch text rules = some rule) : rule ∈ rules := by
  obtain ⟨before, after, rfl, -⟩ := wins_of_munch h
  simp

theorem munch_pos {text : List Char} {rules : List (ScanRule α)} {rule : ScanRule α}
    (h : munch text rules = some rule) : 0 < rule.len text := by
  obtain ⟨_, _, -, wins⟩ := wins_of_munch h
  exact wins.matches_

/-- No rule matches more than the one that is taken. -/
theorem le_of_munch {text : List Char} {rules : List (ScanRule α)} {rule other : ScanRule α}
    (h : munch text rules = some rule) (mem : other ∈ rules) :
    other.len text ≤ rule.len text := by
  obtain ⟨before, after, rfl, wins⟩ := wins_of_munch h
  rcases List.mem_append.mp mem with mem | mem
  · exact Nat.le_of_lt (wins.before other mem)
  · rcases List.mem_cons.mp mem with rfl | mem
    · exact Nat.le_refl _
    · exact wins.after other mem

/-- What matches more than the other rules in front, and as much as those behind, is taken. -/
theorem munch_of_front {text : List Char} {front back : List (ScanRule α)} {rule : ScanRule α}
    (mem : rule ∈ front) (positive : 0 < rule.len text)
    (less : ∀ other ∈ front, other = rule ∨ other.len text < rule.len text)
    (le : ∀ other ∈ back, other.len text ≤ rule.len text) :
    munch text (front ++ back) = some rule := by
  cases taken : munch text (front ++ back) with
  | none =>
    have zero := munch_eq_none_iff.mp taken rule (List.mem_append_left _ mem)
    omega
  | some winner =>
    obtain ⟨before, after, split_, wins⟩ := wins_of_munch taken
    have most : rule.len text ≤ winner.len text := le_of_munch taken (List.mem_append_left _ mem)
    rcases List.append_eq_append_iff.mp split_ with ⟨more, rfl, rfl⟩ | ⟨more, rfl, same⟩
    · -- the winner stands behind all rules in front
      have beaten := wins.before rule (List.mem_append_left _ mem)
      have bound := le winner (by simp)
      omega
    · cases more with
      | nil =>
        have beaten := wins.before rule (by simpa using mem)
        have bound := le winner (by simp at same; simp [← same])
        omega
      | cons first more =>
        obtain ⟨rfl, -⟩ := List.cons.inj same
        rcases less winner (by simp) with rfl | fewer
        · rfl
        · omega

/-! ### Runs of characters -/

/-- How many characters at the front have the property. -/
def runLength (p : Char → Bool) (text : List Char) : Nat := (text.takeWhile p).length

theorem takeWhile_append_cons {p : Char → Bool} {run rest : List Char} {c : Char}
    (all : ∀ c ∈ run, p c = true) (stops : p c = false) :
    (run ++ c :: rest).takeWhile p = run := by
  rw [List.takeWhile_append_of_pos all, List.takeWhile_cons_of_neg (by simp [stops]),
    List.append_nil]

/-- A run that does not go on behind it is as long as it is. -/
theorem runLength_append {p : Char → Bool} {run rest : List Char} (all : ∀ c ∈ run, p c = true)
    (stops : ∀ c ∈ rest.head?, p c = false) : runLength p (run ++ rest) = run.length := by
  have stopped : rest.takeWhile p = [] := by
    cases rest with
    | nil => rfl
    | cons c rest =>
      have at_ : p c = false := stops c rfl
      simp [at_]
  rw [runLength, List.takeWhile_append_of_pos all, stopped, List.append_nil]

/-- A run ends at the latest where a character is that does not belong to it. -/
theorem runLength_le {p : Char → Bool} (run : List Char) {c : Char} (h : p c = false)
    (rest : List Char) : runLength p (run ++ c :: rest) ≤ run.length := by
  induction run with
  | nil => exact Nat.le_of_eq (by simp [runLength, h])
  | cons d run ih =>
    rw [List.cons_append, runLength, List.takeWhile_cons]
    split
    next => exact Nat.succ_le_succ ih
    next => exact Nat.zero_le _

theorem runLength_cons_of_false {p : Char → Bool} {c : Char} (h : p c = false) (rest : List Char) :
    runLength p (c :: rest) = 0 := by
  simp [runLength, h]

/-- What stands behind it. -/
theorem drop_runLength (p : Char → Bool) (text : List Char) :
    text.drop (runLength p text) = text.dropWhile p := by
  have behind : (text.takeWhile p ++ text.dropWhile p).drop (runLength p text) = _ :=
    List.drop_left
  rwa [List.takeWhile_append_dropWhile] at behind

/-- A run with the character behind it. -/
theorem exists_takeWhile_append {p : Char → Bool} {text : List Char} {c : Char}
    (h : text[(text.takeWhile p).length]? = some c) :
    ∃ rest, text = text.takeWhile p ++ c :: rest := by
  have behind : (text.dropWhile p).head? = some c := by
    rw [← drop_runLength, List.head?_drop]
    exact h
  obtain ⟨rest, cons_⟩ := List.head?_eq_some_iff.mp behind
  refine ⟨rest, ?_⟩
  rw [← cons_, List.takeWhile_append_dropWhile]

theorem exists_of_runLength {p : Char → Bool} {text : List Char} (h : 0 < runLength p text) :
    ∃ run rest, text = run ++ rest ∧ run ≠ [] ∧ (∀ c ∈ run, p c = true) ∧
      ∀ c ∈ rest.head?, p c = false := by
  refine ⟨text.takeWhile p, text.dropWhile p, List.takeWhile_append_dropWhile.symm,
    List.length_pos_iff.mp h, fun c => List.mem_takeWhile_imp, fun c mem => ?_⟩
  have stops := List.head?_dropWhile_not p text
  rw [Option.mem_def.mp mem] at stops
  exact stops

/-- A run that is no longer than its beginning ends there. -/
theorem stops_of_runLength_le {p : Char → Bool} {run rest : List Char}
    (all : ∀ c ∈ run, p c = true) (le : runLength p (run ++ rest) ≤ run.length) :
    ∀ c ∈ rest.head?, p c = false := by
  intro c mem
  refine Bool.eq_false_iff.mpr fun more => ?_
  cases rest with
  | nil => cases mem
  | cons d rest =>
    obtain rfl := Option.some.inj mem
    rw [runLength, List.takeWhile_append_of_pos all, List.takeWhile_cons_of_pos more] at le
    simp only [List.length_append, List.length_cons] at le
    omega

/-! ### Words -/

/-- What is compared of a word when the case of its letters does not matter. -/
def folded (word : List Char) : List Char := word.map Char.toLower

/-- The word at the front, whatever the case of its letters. -/
def wordLength (word : List Char) (text : List Char) : Nat :=
  if folded (text.take word.length) = folded word then word.length else 0

theorem wordLength_word {word known : List Char} (same : folded word = folded known)
    (text : List Char) : wordLength known (word ++ text) = word.length := by
  have length : word.length = known.length := by
    simpa [folded] using congrArg List.length same
  have front : (word ++ text).take known.length = word := length ▸ List.take_left
  rw [wordLength, front, if_pos same, length]

theorem folded_take_of_pos {word text : List Char} (h : 0 < wordLength word text) :
    folded (text.take word.length) = folded word := by
  by_contra other
  rw [wordLength, if_neg other] at h
  exact Nat.lt_irrefl 0 h

theorem exists_of_wordLength {known text : List Char} (h : 0 < wordLength known text) :
    ∃ word rest, text = word ++ rest ∧ folded word = folded known := by
  refine ⟨text.take known.length, text.drop known.length, ?_, folded_take_of_pos h⟩
  exact (List.take_append_drop _ _).symm

/-- Of two words at the front of a text, the shorter one is at the front of the other. -/
theorem wordLength_words {first second text : List Char} (h : 0 < wordLength first text)
    (h' : 0 < wordLength second text) (le : first.length ≤ second.length) :
    folded (second.take first.length) = folded first := by
  have first_ := folded_take_of_pos h
  have second_ := folded_take_of_pos h'
  simp only [folded] at first_ second_ ⊢
  rw [List.map_take, ← second_, ← List.map_take, List.take_take, Nat.min_eq_left le]
  exact first_

end Lib
