import QueryGateway.Proofs.Sql.Identifier

/-! The lexemes of identifiers as they are written.

A bare identifier ends where a character comes that no word goes on with, a quoted one at
its closing quote; so either is cut out of a text whatever comes before it, if what stands
behind it does not go on with it (`step_written`). `Lexes` follows the lexer step by step,
without its fuel (`lex_eq_some`). -/
namespace QueryGateway.Sql

open Lexer

/-! ### Steps of the lexer -/

/-- The lexer, step by step. -/
inductive Lexes : Option Token → List Char → List Lexeme → Prop
  | nil (previous : Option Token) : Lexes previous [] []
  | blank {previous : Option Token} {cs rest : List Char} {ls : List Lexeme}
      (cut : step (isWord previous) cs = some (none, rest)) (shorter : rest.length < cs.length)
      (more : Lexes none rest ls) : Lexes previous cs ls
  | token {previous : Option Token} {cs rest : List Char} {t : Token} {ls : List Lexeme}
      (cut : step (isWord previous) cs = some (some t, rest)) (shorter : rest.length < cs.length)
      (more : Lexes (some t) rest ls) : Lexes previous cs (⟨t, previous.isNone⟩ :: ls)

theorem Lexes.lexemes {previous : Option Token} {cs : List Char} {ls : List Lexeme}
    (h : Lexes previous cs ls) {fuel : Nat} (enough : cs.length ≤ fuel) :
    Lexer.lexemes fuel previous cs = some ls := by
  induction h generalizing fuel with
  | nil => simp [Lexer.lexemes]
  | @blank previous cs rest ls cut shorter _ ih =>
    obtain ⟨c, cs, rfl⟩ := List.exists_cons_of_length_pos (Nat.zero_lt_of_lt shorter)
    obtain ⟨fuel, rfl⟩ := Nat.exists_eq_add_one_of_ne_zero
      (Nat.ne_of_gt (Nat.lt_of_lt_of_le (Nat.zero_lt_of_lt shorter) enough))
    rw [Lexer.lexemes, cut]
    · exact ih (by omega)
    · nofun
  | @token previous cs rest t ls cut shorter _ ih =>
    obtain ⟨c, cs, rfl⟩ := List.exists_cons_of_length_pos (Nat.zero_lt_of_lt shorter)
    obtain ⟨fuel, rfl⟩ := Nat.exists_eq_add_one_of_ne_zero
      (Nat.ne_of_gt (Nat.lt_of_lt_of_le (Nat.zero_lt_of_lt shorter) enough))
    rw [Lexer.lexemes, cut]
    · show (Lexer.lexemes fuel (some t) rest).map _ = _
      rw [ih (by omega)]
      rfl
    · nofun

/-- What is cut step by step are the lexemes of a text. -/
theorem lex_eq_some {cs : List Char} {ls : List Lexeme} (h : Lexes none cs ls) :
    lex cs = some ls :=
  h.lexemes (Nat.le_refl _)

/-! ### Words -/

/-- What may stand behind a word: nothing that it goes on with, and nothing that makes a
constant of it. -/
def Ends (rest : List Char) : Prop :=
  ∀ c ∈ rest.head?, continuesWord c = false ∧ c ≠ '\'' ∧ c ≠ '"' ∧ c ≠ '&'

theorem ends_nil : Ends [] := nofun

theorem ends_cons {c : Char} (rest : List Char)
    (h : continuesWord c = false ∧ c ≠ '\'' ∧ c ≠ '"' ∧ c ≠ '&') : Ends (c :: rest) := by
  intro d hd
  cases hd
  exact h

theorem ends_space (rest : List Char) : Ends (' ' :: rest) := ends_cons rest (by decide)

theorem isDigit_of_startsWord {c : Char} (h : startsWord c = true) : c.isDigit = false := by
  rw [Bool.eq_false_iff]
  intro digit
  have last : c.val.toNat ≤ 57 := of_decide_eq_true (Bool.and_eq_true_iff.mp digit).2
  rw [startsWord, Bool.or_eq_true, Bool.or_eq_true, beq_iff_eq] at h
  rcases h with (letter | rfl) | wide
  · rcases Bool.or_eq_true_iff.mp letter with upper | lower
    · have first : 65 ≤ c.val.toNat := (of_decide_eq_true upper).1
      omega
    · have first : 97 ≤ c.val.toNat := of_decide_eq_true (Bool.and_eq_true_iff.mp lower).1
      omega
  · exact absurd digit (by decide)
  · have first : 128 ≤ c.val.toNat := of_decide_eq_true wide
    omega

theorem ne_of_startsWord {c d : Char} (h : startsWord c = true) (h' : startsWord d = false) :
    c ≠ d := by
  intro same
  rw [same, h'] at h
  cases h

theorem introduced_eq_none (c : Char) {rest : List Char}
    (h : ∀ d ∈ rest.head?, d ≠ '\'' ∧ d ≠ '"' ∧ d ≠ '&') : introduced c rest = none := by
  unfold introduced
  split
  case h_7 => rfl
  all_goals
    obtain ⟨quote, double, ampersand⟩ := h _ rfl
    contradiction

/-- A letter that introduces no constant begins a word. -/
theorem step_word {afterWord : Bool} {c : Char} {rest : List Char} (h : startsWord c = true)
    (plain : introduced c rest = none) :
    step afterWord (c :: rest) = some (some (Lexer.word c rest).1, (Lexer.word c rest).2) := by
  have other {d : Char} (hd : startsWord d = false) : c ≠ d := ne_of_startsWord h hd
  have blank : isSpace c = false := by
    simp only [isSpace, Bool.or_eq_false_iff, beq_eq_false_iff_ne]
    refine ⟨⟨⟨⟨⟨?_, ?_⟩, ?_⟩, ?_⟩, ?_⟩, ?_⟩ <;> exact other (by decide)
  have dot : (c == '.') = false := beq_eq_false_iff_ne.mpr (other (by decide))
  unfold step
  split
  case h_7 same =>
    obtain ⟨rfl, rfl⟩ := List.cons.inj same
    rw [blank, isDigit_of_startsWord h, dot, h, plain]
    rfl
  case h_1 same => cases same
  all_goals
    rename_i same
    exact absurd (List.cons.inj same).1 (other (by decide))

/-- Text up to a quote that no other one follows is what is written twice where it is a
quote. -/
theorem untilQuote_doubled (seen cs : List Char) {rest : List Char}
    (h : ∀ c ∈ rest.head?, c ≠ '"') :
    untilQuote '"' seen (doubled cs ++ '"' :: rest) = some (seen.reverse ++ cs, rest) := by
  induction cs generalizing seen with
  | nil =>
    cases rest with
    | nil => simp [doubled, untilQuote]
    | cons d rest => simp [doubled, untilQuote, h d rfl]
  | cons c cs ih =>
    by_cases quote : c = '"'
    · subst quote
      rw [doubled_quote, List.cons_append, List.cons_append, untilQuote, if_pos rfl, if_pos rfl, ih]
      simp
    · rw [doubled_other quote]
      have behind : ∃ d more, doubled cs ++ '"' :: rest = d :: more := by
        cases hd : doubled cs with
        | nil => exact ⟨_, _, rfl⟩
        | cons d more => exact ⟨_, _, rfl⟩
      obtain ⟨d, more, hmore⟩ := behind
      have further := ih (c :: seen)
      rw [hmore] at further
      rw [List.cons_append, hmore, untilQuote, if_neg quote, further]
      simp

/-- An identifier is cut out of a text as the word that it is. -/
theorem step_written (w : Written) (afterWord : Bool) {rest : List Char} (ends : Ends rest) :
    step afterWord (w.chars ++ rest) = some (some (.word w.word), rest) := by
  cases w with
  | bare first more starts continues =>
    have stops : ∀ c ∈ rest.head?, continuesWord c = false := fun c hc => (ends c hc).1
    have taken : (more ++ rest).takeWhile continuesWord = more := by
      rw [List.takeWhile_append_of_pos continues]
      cases rest with
      | nil => simp
      | cons c rest => simp [stops c rfl]
    have plain : introduced first (more ++ rest) = none := by
      refine introduced_eq_none first fun d hd => ?_
      cases more with
      | nil => exact (ends d hd).2
      | cons c more =>
        cases hd
        have goesOn := continues d (List.mem_cons_self ..)
        have other {c : Char} (hc : continuesWord c = false) : d ≠ c := by
          intro same
          rw [same, hc] at goesOn
          cases goesOn
        exact ⟨other (by decide), other (by decide), other (by decide)⟩
    show step afterWord (first :: (more ++ rest)) = _
    rw [step_word starts plain, Lexer.word, taken, List.drop_left]
    rfl
  | quoted text =>
    show step afterWord ('"' :: ((doubled text ++ ['"']) ++ rest)) = _
    have body : (doubled text ++ ['"']) ++ rest = doubled text ++ '"' :: rest := by simp
    rw [body, step, untilQuote_doubled [] text fun c hc => (ends c hc).2.2.1]
    rfl

/-! ### Rows of words -/

theorem Lexes.written (w : Written) {previous : Option Token} {rest : List Char}
    {ls : List Lexeme} (ends : Ends rest) (more : Lexes (some (.word w.word)) rest ls) :
    Lexes previous (w.chars ++ rest) (⟨.word w.word, previous.isNone⟩ :: ls) := by
  have some : 0 < w.chars.length := by
    cases w <;> exact Nat.succ_pos _
  refine .token (step_written w _ ends) ?_ more
  rw [List.length_append]
  omega

theorem Lexes.space {previous : Option Token} {rest : List Char} {ls : List Lexeme}
    (more : Lexes none rest ls) : Lexes previous (' ' :: rest) ls :=
  .blank rfl (Nat.lt_succ_self _) more

/-- A word that is spelled so, without quotes. -/
def Spells (first : Char) (letters : List Char) (word : Word) : Prop :=
  startsWord first = true ∧ letters.all continuesWord = true ∧ Word.bare (first :: letters) = word

instance (first : Char) (letters : List Char) (word : Word) :
    Decidable (Spells first letters word) :=
  inferInstanceAs (Decidable (_ ∧ _ ∧ _))

/-- A fixed word. -/
theorem Lexes.spelled {first : Char} {letters : List Char} {word : Word}
    {previous : Option Token} {rest : List Char} {ls : List Lexeme}
    (spells : Spells first letters word) (ends : Ends rest)
    (more : Lexes (some (.word word)) rest ls) :
    Lexes previous (first :: (letters ++ rest)) (⟨.word word, previous.isNone⟩ :: ls) := by
  obtain ⟨starts, continues, rfl⟩ := spells
  exact Lexes.written (.bare first letters starts (List.all_eq_true.mp continues)) ends more

/-- A fixed word with a space behind it. -/
theorem Lexes.fixed {first : Char} {letters : List Char} {word : Word}
    {previous : Option Token} {rest : List Char} {ls : List Lexeme}
    (spells : Spells first letters word) (more : Lexes none rest ls) :
    Lexes previous (first :: (letters ++ ' ' :: rest)) (⟨.word word, previous.isNone⟩ :: ls) :=
  .spelled spells (ends_space rest) (.space more)

/-- A mark of one character. -/
theorem Lexes.mark {c : Char} {t : Token} {previous : Option Token} {rest : List Char}
    {ls : List Lexeme} (cut : step (isWord previous) (c :: rest) = some (some t, rest))
    (more : Lexes (some t) rest ls) : Lexes previous (c :: rest) (⟨t, previous.isNone⟩ :: ls) :=
  .token cut (Nat.lt_succ_self _) more

/-! ### Fixed words -/

/-- Words of the language in capitals, with their keywords. -/
def fixedWords : List (Char × List Char × Keyword) :=
  [('A', ['S'], .AS), ('C', ['R', 'E', 'A', 'T', 'E'], .CREATE),
   ('C', ['R', 'O', 'S', 'S'], .CROSS), ('D', ['E', 'L', 'E', 'T', 'E'], .DELETE),
   ('F', ['R', 'O', 'M'], .FROM), ('I', ['N', 'S', 'E', 'R', 'T'], .INSERT),
   ('I', ['N', 'T', 'O'], .INTO), ('J', ['O', 'I', 'N'], .JOIN), ('L', ['I', 'K', 'E'], .LIKE),
   ('O', ['N', 'L', 'Y'], .ONLY), ('S', ['E', 'L', 'E', 'C', 'T'], .SELECT),
   ('S', ['E', 'T'], .SET), ('T', ['A', 'B', 'L', 'E'], .TABLE),
   ('U', ['P', 'D', 'A', 'T', 'E'], .UPDATE), ('V', ['I', 'E', 'W'], .VIEW),
   ('W', ['I', 'T', 'H'], .WITH)]

-- One evaluation for all of them: the table of keywords is gone through once for each word.
theorem spells_fixed : ∀ w ∈ fixedWords,
    Spells w.1 w.2.1 ⟨String.ofList (w.1 :: w.2.1), false, some w.2.2⟩ := by
  decide +kernel

theorem spells_AS : Spells 'A' ['S'] ⟨"AS", false, some .AS⟩ :=
  spells_fixed ('A', ['S'], .AS) (by simp [fixedWords])

theorem spells_CREATE : Spells 'C' ['R', 'E', 'A', 'T', 'E'] ⟨"CREATE", false, some .CREATE⟩ :=
  spells_fixed ('C', ['R', 'E', 'A', 'T', 'E'], .CREATE) (by simp [fixedWords])

theorem spells_CROSS : Spells 'C' ['R', 'O', 'S', 'S'] ⟨"CROSS", false, some .CROSS⟩ :=
  spells_fixed ('C', ['R', 'O', 'S', 'S'], .CROSS) (by simp [fixedWords])

theorem spells_DELETE : Spells 'D' ['E', 'L', 'E', 'T', 'E'] ⟨"DELETE", false, some .DELETE⟩ :=
  spells_fixed ('D', ['E', 'L', 'E', 'T', 'E'], .DELETE) (by simp [fixedWords])

theorem spells_FROM : Spells 'F' ['R', 'O', 'M'] ⟨"FROM", false, some .FROM⟩ :=
  spells_fixed ('F', ['R', 'O', 'M'], .FROM) (by simp [fixedWords])

theorem spells_INSERT : Spells 'I' ['N', 'S', 'E', 'R', 'T'] ⟨"INSERT", false, some .INSERT⟩ :=
  spells_fixed ('I', ['N', 'S', 'E', 'R', 'T'], .INSERT) (by simp [fixedWords])

theorem spells_INTO : Spells 'I' ['N', 'T', 'O'] ⟨"INTO", false, some .INTO⟩ :=
  spells_fixed ('I', ['N', 'T', 'O'], .INTO) (by simp [fixedWords])

theorem spells_JOIN : Spells 'J' ['O', 'I', 'N'] ⟨"JOIN", false, some .JOIN⟩ :=
  spells_fixed ('J', ['O', 'I', 'N'], .JOIN) (by simp [fixedWords])

theorem spells_LIKE : Spells 'L' ['I', 'K', 'E'] ⟨"LIKE", false, some .LIKE⟩ :=
  spells_fixed ('L', ['I', 'K', 'E'], .LIKE) (by simp [fixedWords])

theorem spells_SELECT : Spells 'S' ['E', 'L', 'E', 'C', 'T'] ⟨"SELECT", false, some .SELECT⟩ :=
  spells_fixed ('S', ['E', 'L', 'E', 'C', 'T'], .SELECT) (by simp [fixedWords])

theorem spells_SET : Spells 'S' ['E', 'T'] ⟨"SET", false, some .SET⟩ :=
  spells_fixed ('S', ['E', 'T'], .SET) (by simp [fixedWords])

theorem spells_TABLE : Spells 'T' ['A', 'B', 'L', 'E'] ⟨"TABLE", false, some .TABLE⟩ :=
  spells_fixed ('T', ['A', 'B', 'L', 'E'], .TABLE) (by simp [fixedWords])

theorem spells_UPDATE : Spells 'U' ['P', 'D', 'A', 'T', 'E'] ⟨"UPDATE", false, some .UPDATE⟩ :=
  spells_fixed ('U', ['P', 'D', 'A', 'T', 'E'], .UPDATE) (by simp [fixedWords])

theorem spells_VIEW : Spells 'V' ['I', 'E', 'W'] ⟨"VIEW", false, some .VIEW⟩ :=
  spells_fixed ('V', ['I', 'E', 'W'], .VIEW) (by simp [fixedWords])

theorem spells_WITH : Spells 'W' ['I', 'T', 'H'] ⟨"WITH", false, some .WITH⟩ :=
  spells_fixed ('W', ['I', 'T', 'H'], .WITH) (by simp [fixedWords])

/-- No keyword has one letter only. -/
theorem ofSpelling?_letter {c : Char} (ascii : c.utf8Size = 1) :
    Keyword.ofSpelling? (String.ofList [c]) = none := by
  have long : ∀ text ∈ Keyword.spellings.map Prod.fst ++ Keyword.otherSpellings,
      text.utf8ByteSize ≠ 1 := by
    decide +kernel
  have other {text : String}
      (h : text ∈ Keyword.spellings.map Prod.fst ++ Keyword.otherSpellings) :
      String.ofList [c] ≠ text := by
    rintro rfl
    exact long _ h (by simpa using ascii)
  have unnamed : Keyword.spellings.lookup (String.ofList [c]) = none := by
    refine List.lookup_eq_none_iff.mpr fun p hp => ?_
    exact bne_iff_ne.mpr (other (List.mem_append_left _ (List.mem_map_of_mem hp)))
  have unlisted : Keyword.otherSpellings.contains (String.ofList [c]) = false := by
    refine Bool.eq_false_iff.mpr fun listed => ?_
    exact other (List.mem_append_right _ (List.contains_iff_mem.mp listed)) rfl
  rw [Keyword.ofSpelling?, unnamed, unlisted]
  rfl

/-- A word of one letter. -/
theorem spells_letter {c capital : Char} (starts : startsWord c = true)
    (upper : keywordCase [c] = [capital]) (ascii : capital.utf8Size = 1) :
    Spells c [] ⟨String.ofList [c], false, none⟩ := by
  refine ⟨starts, rfl, ?_⟩
  rw [Word.bare, upper, ofSpelling?_letter ascii]

/-! ### Qualified names -/

/-- A name as it is written, with dots between its parts. -/
def dotted : List Written → List Char
  | [] => []
  | [w] => w.chars
  | w :: rest => w.chars ++ '.' :: dotted rest

/-- A dot between two parts of a name is no part of a number. -/
theorem step_dot (w : Written) (rest : List Char) :
    step true ('.' :: (w.chars ++ rest)) = some (some (.symbol .dot), w.chars ++ rest) := by
  cases w with
  | quoted text => rfl
  | bare first more starts _ =>
    by_cases low : first = '_'
    · subst low
      rfl
    · have digitless : takeDigits (first :: (more ++ rest)) = [] := by
        simp [takeDigits, isDigit_of_startsWord starts, low]
      have dot : number true ('.' :: first :: (more ++ rest)) =
          some (.symbol .dot, first :: (more ++ rest)) := by
        simp [number, takeDigits, digitless, low]
      show (number true ('.' :: first :: (more ++ rest))).map _ = _
      rw [dot]
      rfl

theorem dotted_starts (w : Written) (n : List Written) :
    ∃ behind, dotted (w :: n) = w.chars ++ behind := by
  cases n with
  | nil => exact ⟨[], (List.append_nil _).symm⟩
  | cons w' n => exact ⟨_, rfl⟩

/-- A name of two parts. -/
theorem Lexes.pair (v w : Written) {previous : Option Token} {rest : List Char}
    {ls : List Lexeme} (ends : Ends rest) (more : Lexes (some (.word w.word)) rest ls) :
    Lexes previous (v.chars ++ '.' :: (w.chars ++ rest))
      (⟨.word v.word, previous.isNone⟩ :: ⟨.symbol .dot, false⟩ :: ⟨.word w.word, false⟩ :: ls) :=
  .written v (ends_cons _ (by decide)) (.mark (step_dot w _) (.written w ends more))

/-- The lexemes of a qualified name are words and dots. -/
theorem lexes_dotted {n : List Written} (named : n ≠ []) {previous : Option Token}
    {rest : List Char} {more : List Lexeme} (ends : Ends rest)
    (behind : ∀ w, Lexes (some (.word w)) rest more) :
    ∃ ls, Lexes previous (dotted n ++ rest) (ls ++ more) ∧
      ∀ l ∈ ls, l.token = .symbol .dot ∨ ∃ w, l.token = .word w := by
  induction n generalizing previous with
  | nil => exact absurd rfl named
  | cons w n ih =>
    cases n with
    | nil =>
      refine ⟨[⟨.word w.word, previous.isNone⟩], .written w ends (behind _), ?_⟩
      simp
    | cons w' n =>
      obtain ⟨ls, lexes, kinds⟩ : ∃ ls, Lexes (some (.symbol .dot))
          (dotted (w' :: n) ++ rest) (ls ++ more) ∧ _ := ih (by simp)
      refine ⟨⟨.word w.word, previous.isNone⟩ :: ⟨.symbol .dot, false⟩ :: ls, ?_, ?_⟩
      · rw [dotted, List.append_assoc, List.cons_append]
        · refine .written w (ends_cons _ (by decide)) (.mark ?_ lexes)
          obtain ⟨behind, starts⟩ := dotted_starts w' n
          rw [starts, List.append_assoc]
          exact step_dot w' _
        · nofun
      · simpa using kinds

end QueryGateway.Sql
