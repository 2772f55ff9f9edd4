import Pcrf.ConfMunch

/-!
What a text has to look like for the scanner to read given tokens from it: where there may be
blanks and comments, and how a word or a number has to end.
-/

namespace Pcrf

open Lib

variable {included : String → LexResult}

/-! ### Layout -/

/-- The scanner reads the tokens from the text without an error. -/
inductive Reads (included : String → LexResult) :
    StartCondition → List Char → List ConfToken → StartCondition → Prop where
  | done (condition) : Reads included condition [] [] condition
  | blank {condition final c text tokens} (blank : isBlank c = true)
      (rest : Reads included condition text tokens final) :
      Reads included condition (c :: text) tokens final
  | comment {condition final text tokens} (body : List Char) (line : '\n' ∉ body)
      (rest : Reads included condition text tokens final) :
      Reads included condition ('#' :: body ++ '\n' :: text) tokens final
  | single {condition final c text tokens} (single : isSingle c = true)
      (rest : Reads included condition text tokens final) :
      Reads included condition (c :: text) (.single c :: tokens) final
  | qstring {final text tokens} (inside : List Char) (plain : ∀ c ∈ inside, c ≠ '"' ∧ c ≠ '\n')
      (rest : Reads included .initial text tokens final) :
      Reads included .initial ('"' :: inside ++ '"' :: text)
        (.qstring (QString.copied inside) :: tokens) final
  | integer {final text tokens} (digits : List Char) (some : digits ≠ [])
      (all : ∀ c ∈ digits, c.isDigit = true)
      -- neither a letter nor a fraction follows
      (ends : ∀ c ∈ text.head?, isAlnum c = false) (whole : doubleLength (digits ++ text) = 0)
      (rest : Reads included .initial text tokens final) :
      Reads included .initial (digits ++ text) (.integer (readInteger digits) :: tokens) final
  | double {final text tokens} (integral fraction : List Char) (some : integral ≠ [])
      (some' : fraction ≠ []) (all : ∀ c ∈ integral, c.isDigit = true)
      (all' : ∀ c ∈ fraction, c.isDigit = true) (ends : ∀ c ∈ text.head?, c.isDigit = false)
      (rest : Reads included .initial text tokens final) :
      Reads included .initial (integral ++ '.' :: fraction ++ text)
        (.double (readDouble (integral ++ '.' :: fraction)) :: tokens) final
  | keyword {final text tokens} (keyword : ConfKeyword) (word : List Char)
      (same : word.map Char.toLower = keyword.text.toList.map Char.toLower)
      -- the letters and digits at the front do not make a longer word
      (ends : runLength isAlnum (word ++ text) ≤ word.length)
      (rest : Reads included .initial text tokens final) :
      Reads included .initial (word ++ text) (.keyword keyword :: tokens) final
  | beginInclude {final text tokens} (ends : ∀ c ∈ text.head?, isAlnum c = false)
      (rest : Reads included .inInclude text tokens final) :
      Reads included .initial ("include".toList ++ text) tokens final
  | includeName {condition final text tokens more} (inside : List Char)
      (plain : ∀ c ∈ inside, c ≠ '"' ∧ c ≠ '\n')
      (files : included (QString.copied inside).text = ⟨tokens, some condition⟩)
      (rest : Reads included condition text more final) :
      Reads included .inInclude ('"' :: inside ++ '"' :: text) (tokens ++ more) final

/-! ### Runs of the scanner -/

theorem length_drop_lt {text : List Char} {condition : StartCondition}
    {rule : ScanRule LexAction} (taken : munch text (confRules condition) = some rule) :
    (text.drop (rule.len text)).length < text.length := by
  have positive := munch_pos taken
  have nonempty : text ≠ [] := by
    rintro rfl
    rw [munch_nil] at taken
    cases taken
  have := List.length_pos_iff.mpr nonempty
  rw [List.length_drop]
  omega

/-- More fuel makes no difference. -/
theorem scanText_of_le {fuel fuel' : Nat} {condition : StartCondition} {text : List Char}
    (enough : text.length ≤ fuel) (enough' : text.length ≤ fuel') :
    scanText included fuel condition text = scanText included fuel' condition text := by
  induction fuel generalizing fuel' condition text with
  | zero =>
    obtain rfl := List.length_eq_zero_iff.mp (Nat.le_zero.mp enough)
    cases fuel' with
    | zero => rfl
    | succ fuel' => simp only [scanText, munch_nil]
  | succ fuel ih =>
    cases fuel' with
    | zero =>
      obtain rfl := List.length_eq_zero_iff.mp (Nat.le_zero.mp enough')
      simp only [scanText, munch_nil]
    | succ fuel' =>
      simp only [scanText]
      cases taken : munch text (confRules condition) with
      | none => rfl
      | some rule =>
        have less := length_drop_lt taken
        have same (condition : StartCondition) :
            scanText included fuel condition (text.drop (rule.len text)) =
              scanText included fuel' condition (text.drop (rule.len text)) :=
          ih (by omega) (by omega)
        simp only [same]

/-- The scanner with the fuel that it needs. -/
def scan (included : String → LexResult) (condition : StartCondition) (text : List Char) :
    LexResult :=
  scanText included text.length condition text

/-- What is done with the text that a rule matches, and how the scanner goes on behind it. -/
def LexAction.perform (included : String → LexResult) (condition : StartCondition)
    (matched rest : List Char) : LexAction → LexResult
  | .eat => scan included condition rest
  | .beginInclude => scan included .inInclude rest
  | .token f => (scan included condition rest).push [f matched]
  | .includeName =>
    match included (unquoted matched).text with
    | ⟨tokens, some condition⟩ => (scan included condition rest).push tokens
    | ⟨tokens, none⟩ => ⟨tokens, none⟩
  | .error => .error

theorem scan_of_munch {condition : StartCondition} {text : List Char}
    {rule : ScanRule LexAction} (taken : munch text (confRules condition) = some rule) :
    scan included condition text =
      rule.action.perform included condition (text.take (rule.len text))
        (text.drop (rule.len text)) := by
  have less := length_drop_lt taken
  obtain ⟨fuel, length⟩ : ∃ fuel, text.length = fuel + 1 := ⟨text.length - 1, by omega⟩
  have same (condition : StartCondition) :
      scanText included fuel condition (text.drop (rule.len text)) =
        scan included condition (text.drop (rule.len text)) :=
    scanText_of_le (by omega) (Nat.le_refl _)
  rw [scan, length, scanText, taken]
  simp only [same]
  cases rule.action <;> rfl

/-! ### From the layout to the tokens -/

section Scanning

variable {condition final : StartCondition} {text : List Char} {tokens : List ConfToken}

theorem scan_split {shown : List Char} {rule : ScanRule LexAction}
    (taken : munch (shown ++ text) (confRules condition) = some rule)
    (length : rule.len (shown ++ text) = shown.length) :
    scan included condition (shown ++ text) =
      rule.action.perform included condition shown text := by
  rw [scan_of_munch taken, length, List.take_left, List.drop_left]

theorem not_isAlnum_of_isBlank {c : Char} (blank : isBlank c = true) : isAlnum c = false := by
  refine Bool.eq_false_iff.mpr fun alnum => ?_
  rcases Bool.or_eq_true_iff.mp alnum with alpha | digit
  · have letter := bounds_of_isAlpha alpha
    simp only [isBlank, Bool.or_eq_true, Bool.and_eq_true, decide_eq_true_eq] at blank
    rcases blank with rfl | control
    · exact absurd letter (by decide)
    · omega
  · rw [not_isBlank_of_isDigit digit] at blank
    cases blank

/-- A blank that is no newline is eaten with all that follow it. -/
theorem scan_blanks {c : Char} (blank : isBlank c = true) (line : c ≠ '\n') :
    scan included condition (c :: text) =
      scan included condition (text.dropWhile fun c => isBlank c && c ≠ '\n') := by
  have other {d : Char} (h : isBlank d = false) : c ≠ d := by
    rintro rfl
    rw [h] at blank
    cases blank
  have single : isSingle c = false := by
    simp only [isSingle, decide_eq_false_iff_not, List.mem_cons, List.not_mem_nil, or_false]
    rintro (h | h | h | h | h | h) <;> exact other (by decide) h
  have length : ConfRule.blanks.len (c :: text) =
      runLength (fun c => isBlank c && c ≠ '\n') text + 1 := by
    simp [ConfRule.blanks, runLength, blank, line]
  have taken : munch (c :: text) (confRules condition) = some ConfRule.blanks := by
    refine munch_symbol ?_ (by omega) (not_isAlnum_of_isBlank blank) (other (by decide))
      (.inr line) (.inl rfl) (.inr (other (by decide))) (.inr single)
    cases condition <;> simp [readingRules]
  rw [scan_of_munch taken, length, List.drop_succ_cons, drop_runLength]
  rfl

theorem scan_blank {c : Char} (blank : isBlank c = true) :
    scan included condition (c :: text) = scan included condition text := by
  by_cases line : c = '\n'
  · subst line
    have length : ConfRule.newline.len ('\n' :: text) = 1 := rfl
    have taken : munch ('\n' :: text) (confRules condition) = some ConfRule.newline := by
      refine munch_symbol ?_ (by omega) (by decide) (by decide) (.inl rfl) (.inr ?_)
        (.inr (by decide)) (.inr (by decide))
      · cases condition <;> simp [readingRules]
      · exact runLength_cons_of_false (by decide) text
    rw [scan_of_munch taken, length]
    rfl
  · rw [scan_blanks blank line]
    cases text with
    | nil => rfl
    | cons d text =>
      by_cases more : isBlank d = true ∧ d ≠ '\n'
      · have goesOn : (isBlank d && decide (d ≠ '\n')) = true := by simpa using more
        rw [List.dropWhile_cons, if_pos goesOn, scan_blanks more.1 more.2]
      · have stops : ¬ (isBlank d && decide (d ≠ '\n')) = true := by simpa using more
        rw [List.dropWhile_cons, if_neg stops]

theorem commentLength_eq {body : List Char} (line : '\n' ∉ body) :
    commentLength ('#' :: body ++ '\n' :: text) = body.length + 1 := by
  have all : ∀ c ∈ body, decide (c ≠ '\n') = true := by
    intro c mem
    simpa using fun same : c = '\n' => line (same ▸ mem)
  have inside : (body ++ '\n' :: text).takeWhile (· ≠ '\n') = body :=
    takeWhile_append_cons all (by decide)
  simp only [List.cons_append, commentLength, inside]
  simp

theorem qstringLength_eq {inside : List Char} (plain : ∀ c ∈ inside, c ≠ '"' ∧ c ≠ '\n') :
    qstringLength ('"' :: inside ++ '"' :: text) = ('"' :: inside ++ ['"']).length := by
  have all : ∀ c ∈ inside, (decide (c ≠ '"') && decide (c ≠ '\n')) = true := by
    intro c mem
    simpa using plain c mem
  have front : (inside ++ '"' :: text).takeWhile (fun c => c ≠ '"' && c ≠ '\n') = inside :=
    takeWhile_append_cons all (by decide)
  simp only [List.cons_append, qstringLength, front]
  simp

theorem unquoted_eq (inside : List Char) :
    unquoted ('"' :: inside ++ ['"']) = QString.copied inside := by
  simp [unquoted]

theorem scan_comment {body : List Char} (line : '\n' ∉ body) :
    scan included condition ('#' :: body ++ '\n' :: text) = scan included condition text := by
  have length : ConfRule.comment.len (('#' :: body) ++ '\n' :: text) = ('#' :: body).length :=
    commentLength_eq line
  have taken : munch ('#' :: body ++ '\n' :: text) (confRules condition) =
      some ConfRule.comment := by
    refine munch_symbol ?_ ?_ (by decide) (by decide) (.inr (by decide)) (.inr ?_) (.inl rfl)
      (.inr (by decide))
    · cases condition <;> simp [readingRules]
    · exact length ▸ Nat.succ_pos _
    · exact blanks_idle (by decide)
  rw [scan_split taken length]
  exact scan_blank (by decide)

theorem scan_single {c : Char} (single : isSingle c = true) :
    scan included condition (c :: text) = (scan included condition text).push [.single c] := by
  have length : ConfRule.single.len ([c] ++ text) = [c].length := by
    simp [ConfRule.single, oneLength, single]
  have plain : isAlnum c = false ∧ c ≠ '"' ∧ c ≠ '\n' ∧ isBlank c = false ∧ c ≠ '#' := by
    simp only [isSingle, decide_eq_true_eq, List.mem_cons, List.not_mem_nil, or_false] at single
    rcases single with rfl | rfl | rfl | rfl | rfl | rfl <;> decide
  obtain ⟨alnum, quote, line, blank, hash⟩ := plain
  have taken : munch ([c] ++ text) (confRules condition) = some ConfRule.single := by
    refine munch_symbol ?_ ?_ alnum quote (.inr line) (.inr (blanks_idle blank)) (.inr hash)
      (.inl rfl)
    · cases condition <;> simp [readingRules]
    · exact length ▸ Nat.one_pos
  exact scan_split taken length

/-- Which rule reads a string depends on whether `include` stands before it. -/
theorem scan_quoted (rule : ScanRule LexAction) (len_eq : rule.len = qstringLength)
    {inside : List Char} (plain : ∀ c ∈ inside, c ≠ '"' ∧ c ≠ '\n')
    (taken : ∀ rest, 0 < qstringLength ('"' :: rest) →
      munch ('"' :: rest) (confRules condition) = some rule) :
    scan included condition ('"' :: inside ++ '"' :: text) =
      rule.action.perform included condition ('"' :: inside ++ ['"']) text := by
  have length : qstringLength ('"' :: inside ++ '"' :: text) = _ := qstringLength_eq plain
  have taken_ := taken (inside ++ '"' :: text)
    (Nat.lt_of_lt_of_eq (Nat.succ_pos _) length.symm)
  have split_ : '"' :: inside ++ '"' :: text = '"' :: inside ++ ['"'] ++ text := by simp
  rw [← List.cons_append, split_] at taken_
  rw [split_] at length ⊢
  rw [← len_eq] at length
  exact scan_split taken_ length

theorem scan_qstring {inside : List Char} (plain : ∀ c ∈ inside, c ≠ '"' ∧ c ≠ '\n') :
    scan included .initial ('"' :: inside ++ '"' :: text) =
      (scan included .initial text).push [.qstring (QString.copied inside)] := by
  rw [scan_quoted ConfRule.qstring rfl plain fun _ positive => (munch_quote positive).1,
    ← unquoted_eq]
  rfl

theorem scan_integer {digits : List Char} (some_ : digits ≠ [])
    (all : ∀ c ∈ digits, c.isDigit = true) (ends : ∀ c ∈ text.head?, isAlnum c = false)
    (whole : doubleLength (digits ++ text) = 0) :
    scan included .initial (digits ++ text) =
      (scan included .initial text).push [.integer (readInteger digits)] := by
  obtain ⟨taken, length⟩ := munch_integer some_ all ends whole
  exact scan_split taken length

theorem scan_double {integral fraction : List Char} (some_ : integral ≠ [])
    (some' : fraction ≠ []) (all : ∀ c ∈ integral, c.isDigit = true)
    (all' : ∀ c ∈ fraction, c.isDigit = true) (ends : ∀ c ∈ text.head?, c.isDigit = false) :
    scan included .initial (integral ++ '.' :: fraction ++ text) =
      (scan included .initial text).push
        [.double (readDouble (integral ++ '.' :: fraction))] := by
  obtain ⟨taken, length⟩ := munch_double some_ some' all all' ends
  exact scan_split taken length

theorem scan_keyword {keyword : ConfKeyword} {word : List Char}
    (same : folded word = folded keyword.text.toList)
    (ends : runLength isAlnum (word ++ text) ≤ word.length) :
    scan included .initial (word ++ text) =
      (scan included .initial text).push [.keyword keyword] := by
  obtain ⟨taken, length⟩ := munch_keyword same ends
  exact scan_split taken length

theorem scan_beginInclude (ends : ∀ c ∈ text.head?, isAlnum c = false) :
    scan included .initial ("include".toList ++ text) = scan included .inInclude text := by
  obtain ⟨taken, length⟩ := munch_include ends
  exact scan_split taken length

theorem scan_includeName {inside : List Char} (plain : ∀ c ∈ inside, c ≠ '"' ∧ c ≠ '\n') :
    scan included .inInclude ('"' :: inside ++ '"' :: text) =
      match included (QString.copied inside).text with
      | ⟨tokens, some condition⟩ => (scan included condition text).push tokens
      | ⟨tokens, none⟩ => ⟨tokens, none⟩ := by
  rw [scan_quoted ConfRule.includeName rfl plain fun _ positive => (munch_quote positive).2,
    ← unquoted_eq]
  rfl

/-- A text that is laid out so is read so. -/
theorem scan_of_reads (reads : Reads included condition text tokens final) :
    scan included condition text = ⟨tokens, some final⟩ := by
  induction reads with
  | done condition => rfl
  | blank blank _ ih => rw [scan_blank blank, ih]
  | comment body line _ ih => rw [scan_comment line, ih]
  | single single _ ih =>
    rw [scan_single single, ih]
    rfl
  | qstring inside plain _ ih =>
    rw [scan_qstring plain, ih]
    rfl
  | integer digits some_ all ends whole _ ih =>
    rw [scan_integer some_ all ends whole, ih]
    rfl
  | double integral fraction some_ some' all all' ends _ ih =>
    rw [scan_double some_ some' all all' ends, ih]
    rfl
  | keyword keyword word same ends _ ih =>
    rw [scan_keyword same ends, ih]
    rfl
  | beginInclude ends _ ih => rw [scan_beginInclude ends, ih]
  | includeName inside plain files _ ih =>
    rw [scan_includeName plain, files]
    exact congrArg (LexResult.push _) ih

end Scanning

/-! ### From the tokens to the layout -/

section Layout

variable {condition final : StartCondition} {text : List Char} {tokens : List ConfToken}

theorem eq_of_push {pushed : List ConfToken} {result : LexResult}
    (h : result.push pushed = ⟨tokens, some final⟩) :
    ∃ later, result = ⟨later, some final⟩ ∧ tokens = pushed ++ later := by
  obtain ⟨later, condition⟩ := result
  obtain ⟨rfl, rfl⟩ := LexResult.mk.inj h
  exact ⟨later, rfl, rfl⟩

/-- A comment that is matched. -/
theorem exists_of_commentLength (h : 0 < commentLength text) :
    ∃ body rest, text = '#' :: body ++ '\n' :: rest ∧ '\n' ∉ body := by
  unfold commentLength at h
  split at h
  next text =>
    by_cases found : text[(text.takeWhile (· ≠ '\n')).length]? = some '\n'
    · obtain ⟨rest, split_⟩ := exists_takeWhile_append found
      refine ⟨text.takeWhile (· ≠ '\n'), rest, congrArg ('#' :: ·) split_, fun mem => ?_⟩
      exact absurd (List.mem_takeWhile_imp mem) (by decide)
    · simp only [if_neg found] at h
      exact absurd h (Nat.lt_irrefl 0)
  next => exact absurd h (Nat.lt_irrefl 0)

/-- A string that is matched. -/
theorem exists_of_qstringLength (h : 0 < qstringLength text) :
    ∃ inside rest, text = '"' :: inside ++ '"' :: rest ∧ ∀ c ∈ inside, c ≠ '"' ∧ c ≠ '\n' := by
  unfold qstringLength at h
  split at h
  next text =>
    by_cases found : text[(text.takeWhile fun c => c ≠ '"' && c ≠ '\n').length]? = some '"'
    · obtain ⟨rest, split_⟩ := exists_takeWhile_append found
      refine ⟨_, rest, congrArg ('"' :: ·) split_, fun c mem => ?_⟩
      simpa using List.mem_takeWhile_imp mem
    · simp only [if_neg found] at h
      exact absurd h (Nat.lt_irrefl 0)
  next => exact absurd h (Nat.lt_irrefl 0)

/-- A number with a fraction that is matched. -/
theorem exists_of_doubleLength (h : 0 < doubleLength text) :
    ∃ integral fraction rest, text = integral ++ '.' :: fraction ++ rest ∧ integral ≠ [] ∧
      fraction ≠ [] ∧ (∀ c ∈ integral, c.isDigit = true) ∧ (∀ c ∈ fraction, c.isDigit = true) ∧
      ∀ c ∈ rest.head?, c.isDigit = false := by
  simp only [doubleLength, drop_runLength] at h
  split at h
  next rest behind =>
    by_cases both : 0 < runLength Char.isDigit text ∧ 0 < runLength Char.isDigit rest
    · refine ⟨text.takeWhile Char.isDigit, rest.takeWhile Char.isDigit,
        rest.dropWhile Char.isDigit, ?_, List.length_pos_iff.mp both.1,
        List.length_pos_iff.mp both.2, fun c => List.mem_takeWhile_imp,
        fun c => List.mem_takeWhile_imp, ?_⟩
      · rw [List.append_assoc, List.cons_append, List.takeWhile_append_dropWhile, ← behind,
          List.takeWhile_append_dropWhile]
      · intro c mem
        have stops := List.head?_dropWhile_not Char.isDigit rest
        rw [Option.mem_def.mp mem] at stops
        exact stops
    · rw [if_neg both] at h
      exact absurd h (Nat.lt_irrefl 0)
  next => exact absurd h (Nat.lt_irrefl 0)

/-- The fraction makes a number longer. -/
theorem runLength_lt_doubleLength (h : 0 < doubleLength text) :
    runLength Char.isDigit text < doubleLength text := by
  obtain ⟨integral, fraction, rest, rfl, some_, some', all, all', ends⟩ :=
    exists_of_doubleLength h
  rw [doubleLength_eq some_ some' all all' ends, List.append_assoc,
    runLength_append all (by simp)]
  simp

theorem mem_readingRules_of_scan {rule : ScanRule LexAction}
    (taken : munch text (confRules condition) = some rule)
    (scanned : scan included condition text = ⟨tokens, some final⟩) :
    rule ∈ readingRules condition := by
  have mem := mem_of_munch taken
  rw [confRules_eq] at mem
  rcases List.mem_append.mp mem with mem | mem
  · exact mem
  · rw [scan_of_munch taken] at scanned
    simp only [List.mem_cons, List.not_mem_nil, or_false] at mem
    rcases mem with rfl | rfl <;> cases scanned

theorem exists_of_oneLength {p : Char → Bool} (h : 0 < oneLength p text) :
    ∃ c rest, text = c :: rest ∧ p c = true := by
  cases text with
  | nil => cases h
  | cons c rest =>
    refine ⟨c, rest, rfl, ?_⟩
    by_contra other
    rw [oneLength, if_neg other] at h
    cases h

/-- No known rule matches less than the letters and digits at the front. -/
theorem runLength_le_of_munch {rule : ScanRule LexAction}
    (taken : munch text (confRules condition) = some rule) :
    runLength isAlnum text ≤ rule.len text := by
  have mem : ConfRule.unrecognizedWord ∈ confRules condition := by simp [confRules_eq]
  exact le_of_munch taken mem

section GoingOn

variable (goOn : ∀ {condition rest tokens}, rest.length < text.length →
  scan included condition rest = ⟨tokens, some final⟩ → Reads included condition rest tokens final)
include goOn

/-- The rules that are active in both start conditions. -/
theorem reads_everywhere (scanned : scan included condition text = ⟨tokens, some final⟩) :
    (0 < ConfRule.newline.len text → Reads included condition text tokens final) ∧
      (0 < ConfRule.blanks.len text → Reads included condition text tokens final) ∧
      (0 < ConfRule.comment.len text → Reads included condition text tokens final) ∧
      (0 < ConfRule.single.len text → Reads included condition text tokens final) := by
  have blank {c : Char} {rest : List Char} (split_ : text = c :: rest)
      (blank : isBlank c = true) : Reads included condition text tokens final := by
    subst split_
    rw [scan_blank blank] at scanned
    exact .blank blank (goOn (Nat.lt_succ_self _) scanned)
  refine ⟨fun positive => ?_, fun positive => ?_, fun positive => ?_, fun positive => ?_⟩
  · obtain ⟨c, rest, split_, line⟩ := exists_of_oneLength positive
    obtain rfl := of_decide_eq_true line
    exact blank split_ (by decide)
  · obtain ⟨run, rest, split_, some_, all, -⟩ := exists_of_runLength positive
    obtain ⟨c, run, rfl⟩ := List.exists_cons_of_ne_nil some_
    have both := all c List.mem_cons_self
    rw [Bool.and_eq_true] at both
    exact blank split_ both.1
  · obtain ⟨body, rest, rfl, line⟩ := exists_of_commentLength positive
    rw [scan_comment line] at scanned
    exact .comment body line (goOn (by simp; omega) scanned)
  · obtain ⟨c, rest, rfl, single⟩ := exists_of_oneLength positive
    rw [scan_single single] at scanned
    obtain ⟨later, behind, rfl⟩ := eq_of_push scanned
    exact .single single (goOn (Nat.lt_succ_self _) behind)

theorem reads_initial {rule : ScanRule LexAction} (mem : rule ∈ readingRules .initial)
    (taken : munch text (confRules .initial) = some rule)
    (scanned : scan included .initial text = ⟨tokens, some final⟩) :
    Reads included .initial text tokens final := by
  obtain ⟨newline, blanks, comment, single⟩ := reads_everywhere goOn scanned
  revert taken
  refine forall_initial (p := fun rule => munch text (confRules .initial) = some rule →
    Reads included .initial text tokens final) |>.mpr ⟨fun taken => newline (munch_pos taken),
      fun taken => blanks (munch_pos taken), fun taken => comment (munch_pos taken),
      fun taken => ?include_, fun taken => ?qstring, fun taken => ?integer, fun taken => ?double,
      fun taken => single (munch_pos taken), fun keyword taken => ?keyword⟩ rule mem
  case include_ =>
    have front := take_of_include (munch_pos taken)
    obtain ⟨rest, rfl⟩ : ∃ rest, text = "include".toList ++ rest :=
      ⟨text.drop 7, by rw [← front, List.take_append_drop]⟩
    have ends : ∀ c ∈ rest.head?, isAlnum c = false := by
      have letters : ∀ c ∈ "include".toList, isAlnum c = true := List.all_eq_true.mp (by decide)
      refine stops_of_runLength_le letters ?_
      refine Nat.le_trans (runLength_le_of_munch taken) ?_
      simp only [ConfRule.include_]
      split <;> simp
    rw [scan_beginInclude ends] at scanned
    have less : rest.length < ("include".toList ++ rest).length := by
      rw [List.length_append]
      exact Nat.lt_add_of_pos_left (by decide)
    exact .beginInclude ends (goOn less scanned)
  case qstring =>
    obtain ⟨inside, rest, rfl, plain⟩ := exists_of_qstringLength (munch_pos taken)
    rw [scan_qstring plain] at scanned
    obtain ⟨later, behind, rfl⟩ := eq_of_push scanned
    exact .qstring inside plain (goOn (by simp; omega) behind)
  case integer =>
    obtain ⟨digits, rest, rfl, some_, all, stops⟩ := exists_of_runLength (munch_pos taken)
    have length : ConfRule.integer.len (digits ++ rest) = digits.length :=
      runLength_append all stops
    have ends : ∀ c ∈ rest.head?, isAlnum c = false :=
      stops_of_runLength_le (fun c mem => isAlnum_of_isDigit (all c mem))
        (length ▸ runLength_le_of_munch taken)
    have whole : doubleLength (digits ++ rest) = 0 := by
      refine Nat.eq_zero_of_not_pos fun positive => ?_
      have active : ConfRule.double ∈ confRules .initial := by simp [confRules]
      have le : doubleLength (digits ++ rest) ≤ ConfRule.integer.len (digits ++ rest) :=
        le_of_munch taken active
      exact absurd (runLength_lt_doubleLength positive) (Nat.not_lt.mpr le)
    rw [scan_integer some_ all ends whole] at scanned
    obtain ⟨later, behind, rfl⟩ := eq_of_push scanned
    have shown := List.length_pos_iff.mpr some_
    exact .integer digits some_ all ends whole (goOn (by simp; omega) behind)
  case double =>
    obtain ⟨integral, fraction, rest, rfl, some_, some', all, all', ends⟩ :=
      exists_of_doubleLength (munch_pos taken)
    rw [scan_double some_ some' all all' ends] at scanned
    obtain ⟨later, behind, rfl⟩ := eq_of_push scanned
    exact .double integral fraction some_ some' all all' ends (goOn (by simp; omega) behind)
  case keyword =>
    obtain ⟨word, rest, rfl, same⟩ := exists_of_wordLength (munch_pos taken)
    have length : (ConfRule.keyword keyword).len (word ++ rest) = word.length :=
      wordLength_word same rest
    have ends := length ▸ runLength_le_of_munch taken
    have shown : 0 < word.length := length ▸ munch_pos taken
    rw [scan_keyword same ends] at scanned
    obtain ⟨later, behind, rfl⟩ := eq_of_push scanned
    exact .keyword keyword word same ends (goOn (by simp; omega) behind)

theorem reads_inInclude {rule : ScanRule LexAction} (mem : rule ∈ readingRules .inInclude)
    (taken : munch text (confRules .inInclude) = some rule)
    (scanned : scan included .inInclude text = ⟨tokens, some final⟩) :
    Reads included .inInclude text tokens final := by
  obtain ⟨newline, blanks, comment, single⟩ := reads_everywhere goOn scanned
  revert taken
  refine forall_inInclude (p := fun rule => munch text (confRules .inInclude) = some rule →
    Reads included .inInclude text tokens final) |>.mpr ⟨fun taken => newline (munch_pos taken),
      fun taken => blanks (munch_pos taken), fun taken => comment (munch_pos taken),
      fun taken => ?_, fun taken => single (munch_pos taken)⟩ rule mem
  obtain ⟨inside, rest, rfl, plain⟩ := exists_of_qstringLength (munch_pos taken)
  rw [scan_includeName plain] at scanned
  cases files : included (QString.copied inside).text with
  | mk more condition =>
    cases condition with
    | none =>
      rw [files] at scanned
      cases scanned
    | some condition =>
      rw [files] at scanned
      obtain ⟨later, behind, rfl⟩ := eq_of_push scanned
      exact .includeName inside plain files (goOn (by simp; omega) behind)

end GoingOn

/-- What is read so is laid out so. -/
theorem reads_of_scan (scanned : scan included condition text = ⟨tokens, some final⟩) :
    Reads included condition text tokens final := by
  induction length : text.length using Nat.strong_induction_on
    generalizing condition text tokens with
  | _ n ih =>
    subst length
    have goOn {condition : StartCondition} {rest : List Char} {tokens : List ConfToken}
        (less : rest.length < text.length)
        (scanned : scan included condition rest = ⟨tokens, some final⟩) :
        Reads included condition rest tokens final := ih _ less scanned rfl
    cases taken : munch text (confRules condition) with
    | none =>
      obtain rfl := eq_nil_of_munch taken
      cases scanned
      exact .done _
    | some rule =>
      have mem := mem_readingRules_of_scan taken scanned
      cases condition with
      | initial => exact reads_initial goOn mem taken scanned
      | inInclude => exact reads_inInclude goOn mem taken scanned

theorem reads_iff :
    Reads included condition text tokens final ↔
      scan included condition text = ⟨tokens, some final⟩ :=
  ⟨scan_of_reads, reads_of_scan⟩

end Layout

/-- The tokens of a file are those that it is laid out for. -/
theorem confTokens_iff {files : ConfFiles} {text : String} {tokens : List ConfToken}
    {final : StartCondition} :
    confTokens files text = ⟨tokens, some final⟩ ↔
      Reads (includeFiles files maxNestedConfFiles) .initial text.toList tokens final := by
  rw [reads_iff, scan, String.length_toList]
  rfl

end Pcrf
