import Pcrf.ConfScanner

/-!
Which rule of `app_pcrf_conf.l` is taken at a place of a text: symbols, strings, words and numbers
begin with different characters, and no word is at the front of another one.
-/

namespace Pcrf

open Lib

/-! ### What the rules match -/

section Rules

variable {c : Char} {rest : List Char}

theorem newline_idle (h : c ≠ '\n') : ConfRule.newline.len (c :: rest) = 0 := by
  simp [ConfRule.newline, oneLength, h]

theorem blanks_idle (h : isBlank c = false) : ConfRule.blanks.len (c :: rest) = 0 :=
  runLength_cons_of_false (by simp [h]) rest

theorem comment_idle (h : c ≠ '#') : ConfRule.comment.len (c :: rest) = 0 := by
  change commentLength (c :: rest) = 0
  unfold commentLength
  split
  next text same => exact absurd (List.cons.inj same).1 h
  next => rfl

theorem qstring_idle (h : c ≠ '"') : qstringLength (c :: rest) = 0 := by
  unfold qstringLength
  split
  next text same => exact absurd (List.cons.inj same).1 h
  next => rfl

theorem integer_idle (h : c.isDigit = false) : ConfRule.integer.len (c :: rest) = 0 :=
  runLength_cons_of_false h rest

theorem double_idle (h : c.isDigit = false) : ConfRule.double.len (c :: rest) = 0 := by
  have none : runLength Char.isDigit (c :: rest) = 0 := runLength_cons_of_false h rest
  simp only [ConfRule.double, doubleLength, none]
  split <;> simp

theorem single_idle (h : isSingle c = false) : ConfRule.single.len (c :: rest) = 0 := by
  simp [ConfRule.single, oneLength, h]

theorem word_idle (h : isAlnum c = false) : ConfRule.unrecognizedWord.len (c :: rest) = 0 :=
  runLength_cons_of_false h rest

theorem unrecognized_le (text : List Char) : ConfRule.unrecognized.len text ≤ 1 := by
  cases text with
  | nil => exact Nat.zero_le 1
  | cons c text =>
    change (if _ then 1 else 0) ≤ 1
    split <;> omega

theorem toLower_of_not_alpha (h : c.isAlpha = false) : c.toLower = c := by
  have neither : (c.isUpper || c.isLower) = false := h
  exact dif_neg (of_decide_eq_false (Bool.or_eq_false_iff.mp neither).1)

/-- Words begin with a letter. -/
theorem wordLength_idle {word : List Char}
    (letter : ∀ w ∈ word.head?, w.toLower.isAlpha = true) (h : c.isAlpha = false) :
    wordLength word (c :: rest) = 0 := by
  cases word with
  | nil => simp [wordLength]
  | cons w word =>
    refine if_neg fun same => ?_
    have first := (List.cons.inj same).1
    rw [toLower_of_not_alpha h] at first
    have alpha := letter w rfl
    rw [← first, h] at alpha
    cases alpha

theorem keyword_letter (keyword : ConfKeyword) :
    ∀ w ∈ keyword.text.toList.head?, w.toLower.isAlpha = true := by
  have begins : (keyword.text.toList.head?.all fun w => w.toLower.isAlpha) = true := by
    cases keyword <;> decide
  exact (Option.all_eq_true _ _).mp begins

theorem keyword_idle (h : c.isAlpha = false) (keyword : ConfKeyword) :
    (ConfRule.keyword keyword).len (c :: rest) = 0 :=
  wordLength_idle (keyword_letter keyword) h

theorem include_idle (h : c.isAlpha = false) : ConfRule.include_.len (c :: rest) = 0 := by
  refine if_neg fun same => ?_
  have first : c = 'i' := (List.cons.inj same).1
  rw [first] at h
  exact absurd h (by decide)

theorem mem_all (keyword : ConfKeyword) : keyword ∈ ConfKeyword.all := by
  cases keyword <;> decide

end Rules

/-! ### The rule that is taken -/

/-- The rules that read something. -/
def readingRules : StartCondition → List (ScanRule LexAction)
  | .initial =>
    [ConfRule.newline, ConfRule.blanks, ConfRule.comment, ConfRule.include_, ConfRule.qstring,
      ConfRule.integer, ConfRule.double] ++ ConfKeyword.all.map ConfRule.keyword ++
      [ConfRule.single]
  | .inInclude =>
    [ConfRule.newline, ConfRule.blanks, ConfRule.comment, ConfRule.includeName, ConfRule.single]

theorem confRules_eq (condition : StartCondition) : confRules condition =
    readingRules condition ++ [ConfRule.unrecognizedWord, ConfRule.unrecognized] := by
  cases condition <;> simp [confRules, readingRules]

/-- A rule that reads something is taken when no other one reads as much, and no word that is not
known is longer. -/
theorem munch_reading {condition : StartCondition} {text : List Char} {rule : ScanRule LexAction}
    (mem : rule ∈ readingRules condition) (positive : 0 < rule.len text)
    (less : ∀ other ∈ readingRules condition, other = rule ∨ other.len text < rule.len text)
    (word : runLength isAlnum text ≤ rule.len text) :
    munch text (confRules condition) = some rule := by
  rw [confRules_eq]
  refine munch_of_front mem positive less fun other mem => ?_
  simp only [List.mem_cons, List.not_mem_nil, or_false] at mem
  rcases mem with rfl | rfl
  · exact word
  · exact Nat.le_trans (unrecognized_le text) positive

theorem forall_initial {p : ScanRule LexAction → Prop} :
    (∀ rule ∈ readingRules .initial, p rule) ↔
      p ConfRule.newline ∧ p ConfRule.blanks ∧ p ConfRule.comment ∧ p ConfRule.include_ ∧
        p ConfRule.qstring ∧ p ConfRule.integer ∧ p ConfRule.double ∧ p ConfRule.single ∧
        ∀ keyword, p (ConfRule.keyword keyword) := by
  have keywords : (∀ keyword, p (ConfRule.keyword keyword)) ↔
      ∀ keyword ∈ ConfKeyword.all, p (ConfRule.keyword keyword) :=
    ⟨fun h keyword _ => h keyword, fun h keyword => h keyword (mem_all keyword)⟩
  rw [keywords]
  simp only [readingRules, List.forall_mem_append, List.forall_mem_cons, List.forall_mem_map]
  tauto

theorem forall_inInclude {p : ScanRule LexAction → Prop} :
    (∀ rule ∈ readingRules .inInclude, p rule) ↔
      p ConfRule.newline ∧ p ConfRule.blanks ∧ p ConfRule.comment ∧ p ConfRule.includeName ∧
        p ConfRule.single := by
  simp [readingRules]

theorem munch_nil (condition : StartCondition) : munch [] (confRules condition) = none := by
  refine munch_eq_none_iff.mpr ?_
  have keywords : ∀ rule ∈ ConfKeyword.all.map ConfRule.keyword, rule.len [] = 0 := by decide
  cases condition with
  | initial =>
    intro rule mem
    rcases List.mem_append.mp mem with mem | mem
    · rcases List.mem_append.mp mem with mem | mem
      · simp only [List.mem_cons, List.not_mem_nil, or_false] at mem
        rcases mem with rfl | rfl | rfl | rfl | rfl | rfl | rfl <;> rfl
      · exact keywords rule mem
    · simp only [List.mem_cons, List.not_mem_nil, or_false] at mem
      rcases mem with rfl | rfl | rfl <;> rfl
  | inInclude =>
    intro rule mem
    simp only [confRules, List.mem_cons, List.not_mem_nil, or_false] at mem
    rcases mem with rfl | rfl | rfl | rfl | rfl | rfl | rfl <;> rfl

/-- At every character some rule matches. -/
theorem eq_nil_of_munch {text : List Char} {condition : StartCondition}
    (none_ : munch text (confRules condition) = none) : text = [] := by
  cases text with
  | nil => rfl
  | cons c text =>
    have zero := munch_eq_none_iff.mp none_
    have newline : ConfRule.newline ∈ confRules condition := by
      cases condition <;> simp [confRules]
    have unrecognized : ConfRule.unrecognized ∈ confRules condition := by
      cases condition <;> simp [confRules]
    have line := zero _ newline
    have other := zero _ unrecognized
    by_cases h : c = '\n' <;>
      simp [ConfRule.newline, ConfRule.unrecognized, oneLength, h] at line other

section Symbols

variable {condition : StartCondition} {c : Char} {rest : List Char} {rule : ScanRule LexAction}

/-- At a character that is neither a letter nor a digit, the rules for words and numbers do not
match. -/
theorem symbol_idle (rest : List Char) (alnum : isAlnum c = false) :
    ConfRule.include_.len (c :: rest) = 0 ∧ ConfRule.integer.len (c :: rest) = 0 ∧
      ConfRule.double.len (c :: rest) = 0 ∧
      (∀ keyword, (ConfRule.keyword keyword).len (c :: rest) = 0) ∧
      runLength isAlnum (c :: rest) = 0 := by
  obtain ⟨alpha, digit⟩ : c.isAlpha = false ∧ c.isDigit = false := by
    simpa [isAlnum] using alnum
  exact ⟨include_idle alpha, integer_idle digit, double_idle digit, keyword_idle alpha,
    word_idle alnum⟩

/-- The one rule that such a character belongs to is taken. -/
theorem munch_symbol (mem : rule ∈ readingRules condition) (positive : 0 < rule.len (c :: rest))
    (alnum : isAlnum c = false) (quote : c ≠ '"')
    (newline : ConfRule.newline = rule ∨ c ≠ '\n')
    (blanks : ConfRule.blanks = rule ∨ ConfRule.blanks.len (c :: rest) = 0)
    (comment : ConfRule.comment = rule ∨ c ≠ '#')
    (single : ConfRule.single = rule ∨ isSingle c = false) :
    munch (c :: rest) (confRules condition) = some rule := by
  obtain ⟨include_, integer, double, keyword, word⟩ := symbol_idle rest alnum
  have idle {other : ScanRule LexAction} (zero : other.len (c :: rest) = 0) :
      other = rule ∨ other.len (c :: rest) < rule.len (c :: rest) := .inr (zero ▸ positive)
  have newline' := newline.elim .inl fun h => idle (newline_idle h)
  have blanks' := blanks.elim .inl idle
  have comment' := comment.elim .inl fun h => idle (comment_idle h)
  have single' := single.elim .inl fun h => idle (single_idle h)
  refine munch_reading mem positive ?_ (word ▸ Nat.zero_le _)
  cases condition with
  | initial =>
    exact forall_initial.mpr ⟨newline', blanks', comment', idle include_, idle (qstring_idle quote),
      idle integer, idle double, single', fun k => idle (keyword k)⟩
  | inInclude =>
    exact forall_inInclude.mpr ⟨newline', blanks', comment', idle (qstring_idle quote), single'⟩

/-- At a quote it is the rule for strings. -/
theorem munch_quote (positive : 0 < qstringLength ('"' :: rest)) :
    munch ('"' :: rest) (confRules .initial) = some ConfRule.qstring ∧
      munch ('"' :: rest) (confRules .inInclude) = some ConfRule.includeName := by
  obtain ⟨include_, integer, double, keyword, word⟩ :=
    symbol_idle (c := '"') rest (by decide)
  have newline : ConfRule.newline.len ('"' :: rest) = 0 := newline_idle (by decide)
  have blanks : ConfRule.blanks.len ('"' :: rest) = 0 := blanks_idle (by decide)
  have comment : ConfRule.comment.len ('"' :: rest) = 0 := comment_idle (by decide)
  have single : ConfRule.single.len ('"' :: rest) = 0 := single_idle (by decide)
  constructor
  · refine munch_reading (by simp [readingRules]) positive ?_ (word ▸ Nat.zero_le _)
    exact forall_initial.mpr ⟨.inr (newline ▸ positive), .inr (blanks ▸ positive),
      .inr (comment ▸ positive), .inr (include_ ▸ positive), .inl rfl, .inr (integer ▸ positive),
      .inr (double ▸ positive), .inr (single ▸ positive), fun k => .inr (keyword k ▸ positive)⟩
  · refine munch_reading (by simp [readingRules]) positive ?_ (word ▸ Nat.zero_le _)
    exact forall_inInclude.mpr ⟨.inr (newline ▸ positive), .inr (blanks ▸ positive),
      .inr (comment ▸ positive), .inl rfl, .inr (single ▸ positive)⟩

end Symbols

/-! ### Words -/

/-- The words that a text can begin with. -/
def confWords : List (List Char) :=
  "include".toList :: ConfKeyword.all.map fun keyword => keyword.text.toList

/-- None of the words is at the front of another one. -/
theorem confWords_distinct : ∀ first ∈ confWords, ∀ second ∈ confWords,
    first.length ≤ second.length → folded (second.take first.length) = folded first →
      first = second := by
  decide +kernel

theorem text_injective : ∀ first ∈ ConfKeyword.all, ∀ second ∈ ConfKeyword.all,
    first.text.toList = second.text.toList → first = second := by
  decide +kernel

section Words

variable {word text : List Char}

/-- At most one word is at the front of a text. -/
theorem word_unique {first second : List Char} (mem : first ∈ confWords) (mem' : second ∈ confWords)
    (positive : 0 < wordLength first text) (positive' : 0 < wordLength second text) :
    first = second := by
  rcases Nat.le_total first.length second.length with le | le
  · exact confWords_distinct first mem second mem' le (wordLength_words positive positive' le)
  · have same := wordLength_words positive' positive le
    exact (confWords_distinct second mem' first mem le same).symm

theorem mem_confWords (keyword : ConfKeyword) : keyword.text.toList ∈ confWords :=
  List.mem_cons_of_mem _ (List.mem_map.mpr ⟨keyword, mem_all keyword, rfl⟩)

theorem take_of_include (h : 0 < ConfRule.include_.len text) :
    text.take 7 = "include".toList := by
  by_contra other
  have zero : ConfRule.include_.len text = 0 := if_neg other
  omega

theorem wordLength_include (h : 0 < ConfRule.include_.len text) :
    0 < wordLength "include".toList text := by
  have same : folded (text.take "include".toList.length) = folded "include".toList :=
    congrArg folded (take_of_include h)
  rw [wordLength, if_pos same]
  decide

theorem isAlpha_of_folded {c w : Char} {word known : List Char}
    (same : folded (c :: word) = folded (w :: known)) (letter : w.toLower.isAlpha = true) :
    c.isAlpha = true := by
  have first : c.toLower = w.toLower := (List.cons.inj same).1
  by_contra other
  rw [toLower_of_not_alpha (Bool.eq_false_iff.mpr other)] at first
  exact other (first ▸ letter)

theorem bounds_of_isAlpha {c : Char} (alpha : c.isAlpha = true) :
    65 ≤ c.toNat ∧ c.toNat ≤ 90 ∨ 97 ≤ c.toNat ∧ c.toNat ≤ 122 := by
  have spelled : (decide (c.val ≥ 'A'.val ∧ c.val ≤ 'Z'.val) ||
      (decide (c.val ≥ 'a'.val) && decide (c.val ≤ 'z'.val))) = true := alpha
  simpa [UInt32.le_iff_toNat_le] using spelled

theorem bounds_of_isDigit {c : Char} (digit : c.isDigit = true) :
    48 ≤ c.toNat ∧ c.toNat ≤ 57 := by
  simpa [Char.isDigit, UInt32.le_iff_toNat_le] using digit

/-- A letter is no digit. -/
theorem not_isDigit_of_isAlpha {c : Char} (alpha : c.isAlpha = true) : c.isDigit = false := by
  refine Bool.eq_false_iff.mpr fun digit => ?_
  have letter := bounds_of_isAlpha alpha
  have number := bounds_of_isDigit digit
  omega

/-- A letter belongs to words only. -/
theorem letter_idle {c : Char} (rest : List Char) (alpha : c.isAlpha = true) :
    ConfRule.newline.len (c :: rest) = 0 ∧ ConfRule.blanks.len (c :: rest) = 0 ∧
      ConfRule.comment.len (c :: rest) = 0 ∧ qstringLength (c :: rest) = 0 ∧
      ConfRule.integer.len (c :: rest) = 0 ∧ ConfRule.double.len (c :: rest) = 0 ∧
      ConfRule.single.len (c :: rest) = 0 := by
  have other {d : Char} (h : d.isAlpha = false) : c ≠ d := by
    rintro rfl
    rw [h] at alpha
    cases alpha
  have bounds := bounds_of_isAlpha alpha
  have digit := not_isDigit_of_isAlpha alpha
  have blank : isBlank c = false := by
    have space : c ≠ ' ' := other (by decide)
    have control : ¬ c.toNat ≤ 13 := by omega
    simp [isBlank, space, control]
  have single : isSingle c = false := by
    simp only [isSingle, decide_eq_false_iff_not, List.mem_cons, List.not_mem_nil, or_false]
    rintro (h | h | h | h | h | h) <;> exact other (by decide) h
  exact ⟨newline_idle (other (by decide)), blanks_idle blank, comment_idle (other (by decide)),
    qstring_idle (other (by decide)), integer_idle digit, double_idle digit, single_idle single⟩

/-- A keyword is read when the letters and digits at the front make no longer word. -/
theorem munch_keyword {keyword : ConfKeyword}
    (same : folded word = folded keyword.text.toList)
    (ends : runLength isAlnum (word ++ text) ≤ word.length) :
    munch (word ++ text) (confRules .initial) = some (ConfRule.keyword keyword) ∧
      (ConfRule.keyword keyword).len (word ++ text) = word.length := by
  have length : (ConfRule.keyword keyword).len (word ++ text) = word.length :=
    wordLength_word same text
  obtain ⟨w, known, known_⟩ : ∃ w known, keyword.text.toList = w :: known := by
    cases keyword <;> exact ⟨_, _, rfl⟩
  cases word with
  | nil =>
    rw [known_] at same
    cases same
  | cons c word =>
    have alpha : c.isAlpha = true :=
      isAlpha_of_folded (known_ ▸ same) (keyword_letter keyword w (by simp [known_]))
    have positive : 0 < (ConfRule.keyword keyword).len (c :: word ++ text) := by
      rw [length]
      exact Nat.succ_pos _
    have idle {other : ScanRule LexAction} (zero : other.len (c :: word ++ text) = 0) :
        other = ConfRule.keyword keyword ∨
          other.len (c :: word ++ text) < (ConfRule.keyword keyword).len (c :: word ++ text) :=
      .inr (zero ▸ positive)
    obtain ⟨newline, blanks, comment, qstring, integer, double, single⟩ :=
      letter_idle (word ++ text) alpha
    refine ⟨munch_reading ?_ positive ?_ (length ▸ ends), length⟩
    · simp [readingRules, mem_all]
    · refine forall_initial.mpr ⟨idle newline, idle blanks, idle comment, ?_, idle qstring,
        idle integer, idle double, idle single, fun other => ?_⟩
      · -- the word is not `include`
        by_contra both
        have matched : 0 < ConfRule.include_.len (c :: word ++ text) := by
          have := not_or.mp both
          omega
        have include_ := word_unique List.mem_cons_self
          (mem_confWords keyword) (wordLength_include matched) positive
        cases keyword <;> exact absurd include_ (by decide)
      · by_cases equal : other = keyword
        · exact .inl (equal ▸ rfl)
        · refine idle (Nat.eq_zero_of_not_pos fun matched => ?_)
          exact equal (text_injective other (mem_all other) keyword (mem_all keyword)
            (word_unique (mem_confWords other) (mem_confWords keyword) matched positive))

/-- `include` is read when no letter and no digit follows. -/
theorem munch_include (ends : ∀ c ∈ text.head?, isAlnum c = false) :
    munch ("include".toList ++ text) (confRules .initial) = some ConfRule.include_ ∧
      ConfRule.include_.len ("include".toList ++ text) = "include".toList.length := by
  have letters : ∀ c ∈ "include".toList, isAlnum c = true := List.all_eq_true.mp (by decide)
  have run : runLength isAlnum ("include".toList ++ text) = 7 := runLength_append letters ends
  have front : ("include".toList ++ text).take 7 = "include".toList := List.take_left' rfl
  have length : ConfRule.include_.len ("include".toList ++ text) = 7 := by
    simp only [ConfRule.include_]
    rw [if_pos front]
  have positive : 0 < ConfRule.include_.len ("include".toList ++ text) := by omega
  have idle {other : ScanRule LexAction} (zero : other.len ("include".toList ++ text) = 0) :
      other = ConfRule.include_ ∨
        other.len ("include".toList ++ text) < ConfRule.include_.len ("include".toList ++ text) :=
    .inr (zero ▸ positive)
  obtain ⟨newline, blanks, comment, qstring, integer, double, single⟩ :=
    letter_idle (c := 'i') ("nclude".toList ++ text) (by decide)
  refine ⟨munch_reading (by simp [readingRules]) positive ?_ (by omega), length⟩
  refine forall_initial.mpr ⟨idle newline, idle blanks, idle comment, .inl rfl, idle qstring,
    idle integer, idle double, idle single, fun keyword => idle ?_⟩
  refine Nat.eq_zero_of_not_pos fun matched => ?_
  have include_ := word_unique (mem_confWords keyword) List.mem_cons_self matched
    (wordLength_include positive)
  cases keyword <;> exact absurd include_ (by decide)

end Words

/-! ### Numbers -/

section Numbers

theorem isAlnum_of_isDigit {c : Char} (h : c.isDigit = true) : isAlnum c = true := by
  simp [isAlnum, h]

theorem isDigit_of_not_alnum {c : Char} (h : isAlnum c = false) : c.isDigit = false := by
  simp only [isAlnum, Bool.or_eq_false_iff] at h
  exact h.2

/-- A digit belongs to numbers only. -/
theorem digit_idle {c : Char} (rest : List Char) (digit : c.isDigit = true) :
    ConfRule.newline.len (c :: rest) = 0 ∧ ConfRule.blanks.len (c :: rest) = 0 ∧
      ConfRule.comment.len (c :: rest) = 0 ∧ ConfRule.include_.len (c :: rest) = 0 ∧
      qstringLength (c :: rest) = 0 ∧ ConfRule.single.len (c :: rest) = 0 ∧
      ∀ keyword, (ConfRule.keyword keyword).len (c :: rest) = 0 := by
  have other {d : Char} (h : d.isDigit = false) : c ≠ d := by
    rintro rfl
    rw [h] at digit
    cases digit
  have alpha : c.isAlpha = false := by
    refine Bool.eq_false_iff.mpr fun letter => ?_
    rw [not_isDigit_of_isAlpha letter] at digit
    cases digit
  have single : isSingle c = false := by
    simp only [isSingle, decide_eq_false_iff_not, List.mem_cons, List.not_mem_nil, or_false]
    rintro (h | h | h | h | h | h) <;> exact other (by decide) h
  exact ⟨newline_idle (other (by decide)), blanks_idle (not_isBlank_of_isDigit digit),
    comment_idle (other (by decide)), include_idle alpha, qstring_idle (other (by decide)),
    single_idle single, keyword_idle alpha⟩

variable {digits text : List Char}

/-- A number without a fraction. -/
theorem munch_integer (some_ : digits ≠ []) (all : ∀ c ∈ digits, c.isDigit = true)
    (ends : ∀ c ∈ text.head?, isAlnum c = false) (whole : doubleLength (digits ++ text) = 0) :
    munch (digits ++ text) (confRules .initial) = some ConfRule.integer ∧
      ConfRule.integer.len (digits ++ text) = digits.length := by
  have length : ConfRule.integer.len (digits ++ text) = digits.length :=
    runLength_append all fun c mem => isDigit_of_not_alnum (ends c mem)
  have run : runLength isAlnum (digits ++ text) = digits.length :=
    runLength_append (fun c mem => isAlnum_of_isDigit (all c mem)) ends
  have positive : 0 < ConfRule.integer.len (digits ++ text) :=
    length ▸ List.length_pos_iff.mpr some_
  refine ⟨munch_reading (by simp [readingRules]) positive ?_ (by omega), length⟩
  obtain ⟨c, more, rfl⟩ := List.exists_cons_of_ne_nil some_
  obtain ⟨newline, blanks, comment, include_, qstring, single, keyword⟩ :=
    digit_idle (more ++ text) (all c List.mem_cons_self)
  have idle {other : ScanRule LexAction} (zero : other.len (c :: more ++ text) = 0) :
      other = ConfRule.integer ∨
        other.len (c :: more ++ text) < ConfRule.integer.len (c :: more ++ text) :=
    .inr (zero ▸ positive)
  exact forall_initial.mpr ⟨idle newline, idle blanks, idle comment, idle include_, idle qstring,
    .inl rfl, idle whole, idle single, fun k => idle (keyword k)⟩

/-- A number with a fraction. -/
theorem doubleLength_eq {integral fraction : List Char} (some_ : integral ≠ [])
    (some' : fraction ≠ []) (all : ∀ c ∈ integral, c.isDigit = true)
    (all' : ∀ c ∈ fraction, c.isDigit = true) (ends : ∀ c ∈ text.head?, c.isDigit = false) :
    doubleLength (integral ++ '.' :: fraction ++ text) =
      (integral ++ '.' :: fraction).length := by
  have point : ∀ c ∈ ('.' :: fraction ++ text).head?, c.isDigit = false := by
    intro c mem
    obtain rfl := Option.some.inj mem
    decide
  have run : runLength Char.isDigit (integral ++ ('.' :: fraction ++ text)) = integral.length :=
    runLength_append all point
  have run' : runLength Char.isDigit (fraction ++ text) = fraction.length :=
    runLength_append all' ends
  have nonempty := List.length_pos_iff.mpr some_
  have nonempty' := List.length_pos_iff.mpr some'
  rw [List.append_assoc, doubleLength, run]
  simp only [List.drop_left, List.cons_append, run']
  rw [if_pos ⟨nonempty, nonempty'⟩]
  simp
  omega

theorem munch_double {integral fraction : List Char} (some_ : integral ≠ [])
    (some' : fraction ≠ []) (all : ∀ c ∈ integral, c.isDigit = true)
    (all' : ∀ c ∈ fraction, c.isDigit = true) (ends : ∀ c ∈ text.head?, c.isDigit = false) :
    munch (integral ++ '.' :: fraction ++ text) (confRules .initial) = some ConfRule.double ∧
      ConfRule.double.len (integral ++ '.' :: fraction ++ text) =
        (integral ++ '.' :: fraction).length := by
  have length : ConfRule.double.len (integral ++ '.' :: fraction ++ text) = _ :=
    doubleLength_eq some_ some' all all' ends
  have before {p : Char → Bool} (inside : ∀ c ∈ integral, p c = true) (point : p '.' = false) :
      runLength p (integral ++ '.' :: fraction ++ text) = integral.length := by
    rw [List.append_assoc]
    refine runLength_append inside fun c mem => ?_
    obtain rfl := Option.some.inj mem
    exact point
  have integer : ConfRule.integer.len (integral ++ '.' :: fraction ++ text) = integral.length :=
    before all (by decide)
  have run : runLength isAlnum (integral ++ '.' :: fraction ++ text) = integral.length :=
    before (fun c mem => isAlnum_of_isDigit (all c mem)) (by decide)
  have longer : integral.length < (integral ++ '.' :: fraction).length := by simp
  have positive : 0 < ConfRule.double.len (integral ++ '.' :: fraction ++ text) := by omega
  refine ⟨munch_reading (by simp [readingRules]) positive ?_ (by omega), length⟩
  obtain ⟨c, more, rfl⟩ := List.exists_cons_of_ne_nil some_
  obtain ⟨newline, blanks, comment, include_, qstring, single, keyword⟩ :=
    digit_idle (more ++ '.' :: fraction ++ text) (all c List.mem_cons_self)
  have idle {other : ScanRule LexAction}
      (zero : other.len (c :: more ++ '.' :: fraction ++ text) = 0) :
      other = ConfRule.double ∨ other.len (c :: more ++ '.' :: fraction ++ text) <
        ConfRule.double.len (c :: more ++ '.' :: fraction ++ text) :=
    .inr (zero ▸ positive)
  exact forall_initial.mpr ⟨idle newline, idle blanks, idle comment, idle include_, idle qstring,
    .inr (by omega), .inl rfl, idle single, fun k => idle (keyword k)⟩

end Numbers

end Pcrf
