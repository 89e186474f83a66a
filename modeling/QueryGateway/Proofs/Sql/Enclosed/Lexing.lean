import QueryGateway.Proofs.Sql.Enclosed.Reading

/-! Text in front of a closing bracket.

Whatever the lexer cuts from a text, it cuts from it in front of a bracket too, and what it
leaves is the end of the text. There is one lemma for each of its readers; `step_before` puts
them together. The exceptions are comments that run to the end of the line, and the two
operators that take the next character along. -/
namespace QueryGateway.Sql

open Lexer

section Cut

variable {more cs rest text seen : List Char} {t : Token}

/-! ### Beginnings -/

/-- What a text does not begin with, it does not begin with in front of the bracket. -/
theorem before_ne {p : List Char} (other : ')' ∉ p) (h : ∀ r, cs = p ++ r → False) (r : List Char) :
    cs ++ ')' :: more = p ++ r → False := by
  induction p generalizing cs with
  | nil => exact fun _ => h cs rfl
  | cons c p ih =>
    rw [List.mem_cons, not_or] at other
    cases cs with
    | nil => exact fun same => other.1 (List.cons.inj same).1
    | cons d cs =>
      intro same
      obtain ⟨rfl, behind⟩ := List.cons.inj same
      exact ih other.2 (fun r here => h r (congrArg (d :: ·) here)) behind

theorem takeWhile_before {f : Char → Bool} (stops : f ')' = false) :
    (cs ++ ')' :: more).takeWhile f = cs.takeWhile f := by
  induction cs with
  | nil => simp [stops]
  | cons c cs ih =>
    cases found : f c <;> simp [found, ih]

theorem drop_takeWhile_before (f : Char → Bool) :
    (cs ++ ')' :: more).drop (cs.takeWhile f).length =
      cs.drop (cs.takeWhile f).length ++ ')' :: more :=
  List.drop_append_of_le_length (List.takeWhile_prefix f).length_le

/-! ### Comments and quoted text -/

variable (more)

theorem afterBlockComment_before {depth : Nat} (h : afterBlockComment depth cs = some rest) :
    rest <:+ cs ∧ afterBlockComment depth (cs ++ ')' :: more) = some (rest ++ ')' :: more) := by
  fun_induction afterBlockComment depth cs with
  | case5 depth c cs opens closes ih =>
    obtain ⟨suffix, before⟩ := ih h
    refine ⟨suffix.trans (List.suffix_cons c cs), ?_⟩
    rw [List.cons_append, afterBlockComment]
    · exact before
    · exact fun r first => before_ne (p := ['*']) (by decide) (fun r => opens r first) r
    · exact fun r first => before_ne (p := ['/']) (by decide) (fun r => closes r first) r
  | _ => grind [afterBlockComment, List.suffix_cons_iff]

theorem untilQuote_before {quote : Char} (other : quote ≠ ')')
    (h : untilQuote quote seen cs = some (text, rest)) : rest <:+ cs ∧
      untilQuote quote seen (cs ++ ')' :: more) = some (text, rest ++ ')' :: more) := by
  fun_induction untilQuote quote seen cs <;> grind [untilQuote, List.suffix_cons_iff]

theorem untilBareQuote_before (h : untilBareQuote seen cs = some (text, rest)) :
    rest <:+ cs ∧ untilBareQuote seen (cs ++ ')' :: more) = some (text, rest ++ ')' :: more) := by
  fun_induction untilBareQuote seen cs <;> grind [untilBareQuote, List.suffix_cons_iff]

theorem takeWhile_take_before {f : Char → Bool} (stops : f ')' = false) (n : Nat) :
    ((cs ++ ')' :: more).take n).takeWhile f = (cs.take n).takeWhile f := by
  induction cs generalizing n with
  | nil => cases n <;> simp [stops]
  | cons c cs ih =>
    cases n with
    | zero => rfl
    | succ n => cases found : f c <;> simp [found, ih]

theorem codePoint_before {width : Nat} {c : Char} (h : escape.codePoint width cs = some (c, rest)) :
    rest <:+ cs ∧ escape.codePoint width (cs ++ ')' :: more) = some (c, rest ++ ')' :: more) := by
  unfold escape.codePoint at h ⊢
  split at h
  case isFalse => cases h
  case isTrue whole =>
    have wide : width ≤ cs.length := by grind
    rw [List.take_append_of_le_length wide, List.drop_append_of_le_length wide, if_pos whole]
    obtain ⟨_, found, same⟩ := Option.map_eq_some_iff.mp h
    cases same
    rw [found]
    exact ⟨List.drop_suffix _ _, rfl⟩

theorem escape_before {c : Char} (h : escape cs = some (c, rest)) :
    rest <:+ cs ∧ escape (cs ++ ')' :: more) = some (c, rest ++ ')' :: more) := by
  have hex : isHex ')' = false := by decide
  have octal : isOctal ')' = false := by decide
  fun_cases escape cs <;> grind [escape, List.suffix_cons_iff, codePoint_before,
    takeWhile_take_before, → List.IsPrefix.length_le, List.takeWhile_prefix, List.drop_suffix,
    Option.map_eq_some_iff]

theorem escapedString_before {n m : Nat} (h : escapedString n seen cs = some (text, rest))
    (enough : n ≤ m) : rest <:+ cs ∧
      escapedString m seen (cs ++ ')' :: more) = some (text, rest ++ ')' :: more) := by
  fun_induction escapedString n seen cs generalizing m with
  | case4 n seen cs alone =>
    obtain ⟨m, rfl⟩ := Nat.exists_eq_add_of_le' (Nat.le_trans (Nat.le_add_left 1 n) enough)
    cases h
    refine ⟨List.suffix_cons .., ?_⟩
    rw [List.cons_append, escapedString]
    exact before_ne (p := [_]) (by decide) alone
  | case5 n seen cs ih =>
    obtain ⟨m, rfl⟩ := Nat.exists_eq_add_of_le' (Nat.le_trans (Nat.le_add_left 1 n) enough)
    obtain ⟨⟨c, left⟩, escaped, h⟩ := Option.bind_eq_some_iff.mp h
    obtain ⟨within, before⟩ := escape_before more escaped
    rw [Option.ite_none_left_eq_some] at h
    obtain ⟨suffix, further⟩ := ih c left h.2 (Nat.le_of_succ_le_succ enough)
    refine ⟨suffix.trans (within.trans (List.suffix_cons ..)), ?_⟩
    rw [List.cons_append, escapedString, before]
    exact (if_neg h.1).trans further
  | _ => cases m <;> grind [escapedString, List.suffix_cons_iff]

theorem unicodePoint_before {width : Nat} {c : Char}
    (h : unicodeString.codePoint width cs = some c) :
    unicodeString.codePoint width (cs ++ ')' :: more) = some c ∧
      (cs ++ ')' :: more).drop width = cs.drop width ++ ')' :: more := by
  unfold unicodeString.codePoint at h ⊢
  have wide : width ≤ cs.length := by grind
  rw [List.take_append_of_le_length wide, List.drop_append_of_le_length wide]
  exact ⟨h, rfl⟩

theorem unicodeString_before {n m : Nat} (h : unicodeString n seen cs = some (text, rest))
    (enough : n ≤ m) : rest <:+ cs ∧
      unicodeString m seen (cs ++ ')' :: more) = some (text, rest ++ ')' :: more) := by
  fun_induction unicodeString n seen cs generalizing m with
  | case4 n seen cs alone =>
    obtain ⟨m, rfl⟩ := Nat.exists_eq_add_of_le' (Nat.le_trans (Nat.le_add_left 1 n) enough)
    cases h
    refine ⟨List.suffix_cons .., ?_⟩
    rw [List.cons_append, unicodeString]
    exact before_ne (p := [_]) (by decide) alone
  | case6 n seen cs ih =>
    obtain ⟨m, rfl⟩ := Nat.exists_eq_add_of_le' (Nat.le_trans (Nat.le_add_left 1 n) enough)
    obtain ⟨c, point, h⟩ := Option.bind_eq_some_iff.mp h
    obtain ⟨before, behind⟩ := unicodePoint_before more point
    obtain ⟨suffix, further⟩ := ih c h (Nat.le_of_succ_le_succ enough)
    refine ⟨suffix.trans ((List.drop_suffix ..).trans (List.suffix_append ['\\', '+'] cs)), ?_⟩
    rw [List.cons_append, List.cons_append, unicodeString, before, behind]
    exact further
  | case7 n seen cs single plain ih =>
    obtain ⟨m, rfl⟩ := Nat.exists_eq_add_of_le' (Nat.le_trans (Nat.le_add_left 1 n) enough)
    obtain ⟨c, point, h⟩ := Option.bind_eq_some_iff.mp h
    obtain ⟨before, behind⟩ := unicodePoint_before more point
    obtain ⟨suffix, further⟩ := ih c h (Nat.le_of_succ_le_succ enough)
    refine ⟨suffix.trans ((List.drop_suffix ..).trans (List.suffix_cons ..)), ?_⟩
    rw [List.cons_append, unicodeString, before, behind]
    · exact further
    · exact before_ne (p := [_]) (by decide) single
    · exact before_ne (p := [_]) (by decide) plain
  | _ => cases m <;> grind [unicodeString, List.suffix_cons_iff]

theorem isPrefixOf_before {mark : List Char} (other : ')' ∉ mark) :
    mark.isPrefixOf (cs ++ ')' :: more) = mark.isPrefixOf cs := by
  induction mark generalizing cs with
  | nil => simp
  | cons c mark ih => cases cs <;> grind [List.isPrefixOf]

theorem untilMark_before {mark : List Char} (other : ')' ∉ mark)
    (h : untilMark mark seen cs = some (text, rest)) :
    rest <:+ cs ∧ untilMark mark seen (cs ++ ')' :: more) = some (text, rest ++ ')' :: more) := by
  fun_induction untilMark mark seen cs <;>
    grind [untilMark, List.suffix_cons_iff, isPrefixOf_before, List.drop_suffix,
      List.isPrefixOf_iff_prefix, → List.IsPrefix.length_le]

theorem dollar_before (h : dollar cs = some (t, rest)) :
    rest <:+ cs ∧ dollar (cs ++ ')' :: more) = some (t, rest ++ ')' :: more) := by
  have stops : (Text.isAlphanumeric ')' || ')' == '_') = false := by decide
  unfold dollar at h ⊢
  rw [takeWhile_before stops]
  extract_lets tag at h
  extract_lets at ⊢
  have behind : (cs ++ ')' :: more).drop tag.length = cs.drop tag.length ++ ')' :: more :=
    drop_takeWhile_before _
  rw [behind]
  have within : cs.drop tag.length <:+ cs := List.drop_suffix ..
  have named : ')' ∉ '$' :: tag ++ ['$'] := by
    have tagged : ')' ∉ tag := fun mem => by
      have := List.all_eq_true.mp (List.all_takeWhile (l := cs)) _ mem
      cases this.symm.trans stops
    simp [tagged]
  split at h
  case h_1 body opens =>
    obtain ⟨⟨text, left⟩, found, same⟩ := Option.map_eq_some_iff.mp h
    cases same
    rw [opens] at within ⊢
    obtain ⟨suffix, before⟩ := untilMark_before more named found
    refine ⟨suffix.trans ((List.suffix_cons ..).trans within), ?_⟩
    exact congrArg (Option.map _) before
  case h_2 plain =>
    cases h
    refine ⟨within, ?_⟩
    split
    case h_1 opens => exact (before_ne (p := [_]) (by decide) plain _ opens).elim
    case h_2 => rfl

/-! ### Numbers -/

theorem startsHex_before :
    ((cs ++ ')' :: more).head?.map isHex).getD false = (cs.head?.map isHex).getD false := by
  cases cs <;> rfl

theorem takeDigits_before : takeDigits (cs ++ ')' :: more) = takeDigits cs := by
  fun_induction takeDigits cs <;> grind [takeDigits, startsHex_before]

theorem takeHexDigits_before : takeHexDigits (cs ++ ')' :: more) = takeHexDigits cs := by
  have other : isHex ')' = false := by decide
  fun_induction takeHexDigits cs <;> grind [takeHexDigits, startsHex_before]

theorem takeExponent_before : takeExponent (cs ++ ')' :: more) = takeExponent cs := by
  cases cs with
  | nil => rfl
  | cons e cs =>
    have sign : ((cs ++ ')' :: more).take 1).filter (fun c => c == '+' || c == '-') =
        (cs.take 1).filter fun c => c == '+' || c == '-' := by
      cases cs <;> rfl
    have short : ((cs.take 1).filter fun c => c == '+' || c == '-').length ≤ cs.length :=
      Nat.le_trans (List.length_filter_le ..) (List.length_take_le' ..)
    simp only [List.cons_append, takeExponent, sign, List.drop_append_of_le_length short,
      takeWhile_before (show Char.isDigit ')' = false by decide)]

theorem takeDigits_length : (takeDigits cs).length ≤ cs.length := by
  fun_induction takeDigits cs <;> grind

theorem takeHexDigits_length : (takeHexDigits cs).length ≤ cs.length := by
  fun_induction takeHexDigits cs <;> grind

theorem takeExponent_length : (takeExponent cs).length ≤ cs.length := by
  fun_cases takeExponent cs <;>
    grind [takeExponent, → List.IsPrefix.length_le, List.takeWhile_prefix]

/-- A number, or a dot, takes at least one character before the digits of its fraction. -/
theorem fraction_suffix {c : Char} (numeric : (c.isDigit || c == '.') = true) :
    let left := (c :: cs).drop (takeDigits (c :: cs)).length
    left.drop ((left.take 1).filter (· == '.')).length <:+ cs := by
  cases digit : c.isDigit with
  | true =>
    have behind :
        (c :: cs).drop (takeDigits (c :: cs)).length = cs.drop (takeDigits cs).length := by
      rw [takeDigits, if_pos digit, List.length_cons, List.drop_succ_cons]
    rw [behind]
    exact (List.drop_suffix ..).trans (List.drop_suffix ..)
  | false =>
    have dot : c = '.' := by simpa [digit] using numeric
    subst dot
    exact List.suffix_rfl

theorem number_before {c : Char} {afterWord : Bool} (numeric : (c.isDigit || c == '.') = true)
    (h : number afterWord (c :: cs) = some (t, rest)) : rest <:+ cs ∧
      number afterWord (c :: cs ++ ')' :: more) = some (t, rest ++ ')' :: more) := by
  by_cases name : ∃ r, c :: cs = '.' :: '_' :: r
  · obtain ⟨r, same⟩ := name
    cases same
    cases afterWord with
    | false => cases h
    | true =>
      cases h
      exact ⟨List.suffix_rfl, rfl⟩
  have alone (r : List Char) : c :: cs = '.' :: '_' :: r → False := fun same => name ⟨r, same⟩
  rw [number] at h ⊢
  rotate_left
  · exact before_ne (p := ['.', '_']) (by decide) alone
  · exact alone
  rw [takeDigits_before, List.drop_append_of_le_length takeDigits_length]
  have fractional := @fraction_suffix cs c numeric
  have within : (c :: cs).drop (takeDigits (c :: cs)).length <:+ c :: cs := List.drop_suffix ..
  dsimp only at fractional
  generalize (c :: cs).drop (takeDigits (c :: cs)).length = left at h within fractional ⊢
  generalize takeDigits (c :: cs) = whole at h ⊢
  split at h
  case h_1 digits =>
    cases h
    have inner : digits <:+ cs := by
      rcases List.suffix_cons_iff.mp within with whole | suffix
      · cases whole
        exact List.suffix_rfl
      · exact (List.suffix_cons ..).trans suffix
    refine ⟨(List.drop_suffix ..).trans inner, ?_⟩
    simp only [List.cons_append, takeHexDigits_before,
      List.drop_append_of_le_length takeHexDigits_length]
  case h_2 plain =>
    split
    case h_1 hexadecimal =>
      exact (before_ne (p := [_]) (by decide) (fun r => plain r rfl) _ hexadecimal).elim
    have point : ((left ++ ')' :: more).take 1).filter (· == '.') =
        (left.take 1).filter (· == '.') := by
      cases left <;> rfl
    have short : ((left.take 1).filter (· == '.')).length ≤ left.length :=
      Nat.le_trans (List.length_filter_le ..) (List.length_take_le' ..)
    simp only [point, List.drop_append_of_le_length short, takeDigits_before,
      List.drop_append_of_le_length takeDigits_length, takeExponent_before,
      List.drop_append_of_le_length takeExponent_length] at h ⊢
    generalize left.drop ((left.take 1).filter (· == '.')).length = left at h fractional ⊢
    have exponential : left.drop (takeDigits left).length <:+ cs :=
      (List.drop_suffix ..).trans fractional
    generalize left.drop (takeDigits left).length = left at h exponential ⊢
    have last : left.drop (takeExponent left).length <:+ cs :=
      (List.drop_suffix ..).trans exponential
    generalize left.drop (takeExponent left).length = left at h last ⊢
    split at h
    case isTrue dot =>
      cases h
      exact ⟨exponential, if_pos dot⟩
    case isFalse numeric =>
      cases h
      rw [if_neg numeric]
      cases left with
      | nil => exact ⟨last, rfl⟩
      | cons c left =>
        by_cases long : c = 'L'
        · subst long
          exact ⟨(List.suffix_cons ..).trans last, rfl⟩
        · simp [long, last]

/-! ### Operators -/

theorem joined_before {start : String} {plain : Option Symbol}
    (h : joined start plain cs = some (t, rest)) :
    rest <:+ cs ∧ joined start plain (cs ++ ')' :: more) = some (t, rest ++ ')' :: more) := by
  have within : (cs.takeWhile isOperatorPart).length ≤ cs.length :=
    (List.takeWhile_prefix _).length_le
  have stops : isOperatorPart ')' = false := by decide
  simp only [joined, takeWhile_before stops, List.drop_append_of_le_length within] at h ⊢
  split at h
  case isTrue alone =>
    rw [if_pos alone]
    obtain ⟨s, found, same⟩ := Option.map_eq_some_iff.mp h
    cases same
    rw [found]
    exact ⟨List.suffix_rfl, rfl⟩
  case isFalse joins =>
    cases h
    exact ⟨List.drop_suffix .., if_neg joins⟩

/-- An operator that takes the next character along does not take the bracket. -/
theorem punctuation_before (h : punctuation cs = some (t, rest))
    (spared : rest = [] → t ≠ .symbol (.operator "?") ∧ t ≠ .symbol (.operator "&>")) :
    rest <:+ cs.tail ∧ punctuation (cs ++ ')' :: more) = some (t, rest ++ ')' :: more) := by
  unfold punctuation at h
  split at h
  case h_83 => cases h
  case h_82 =>
    cases h
    refine ⟨List.suffix_rfl, ?_⟩
    rw [List.cons_append, punctuation]
    all_goals first
      | assumption
      | intros; contradiction
  case h_15 c r =>
    split at h
    case isTrue space =>
      cases h
      exact ⟨List.suffix_rfl, if_pos space⟩
    case isFalse other =>
      obtain ⟨suffix, before⟩ := joined_before more h
      exact ⟨suffix, (if_neg other).trans before⟩
  case h_16 r alone =>
    cases h
    cases rest with
    | nil => exact ⟨List.nil_suffix, rfl⟩
    | cons c r => exact (alone c r rfl).elim
  case h_52 r =>
    cases r with
    | nil =>
      cases h
      exact ((spared rfl).2 rfl).elim
    | cons c r =>
      cases h
      exact ⟨List.suffix_append ['>', c] _, rfl⟩
  case h_81 r _ _ _ _ _ _ =>
    cases r with
    | nil =>
      cases h
      exact ((spared rfl).1 rfl).elim
    | cons c r =>
      cases h
      refine ⟨List.suffix_cons .., ?_⟩
      rw [List.cons_append, punctuation]
      · rfl
      all_goals first
        | exact before_ne (p := [_]) (by decide) (by assumption)
        | exact before_ne (p := [_, _]) (by decide) (by assumption)
  all_goals
    simp only [List.cons_append]
    rw [punctuation]
    first
      | have both := joined_before more h
        exact ⟨by simp [List.suffix_cons_iff, both.1], both.2⟩
      | cases h
        exact ⟨by simp [List.suffix_cons_iff], rfl⟩
  all_goals first
    | exact before_ne (p := [_]) (by decide) (by assumption)
    | exact before_ne (p := [_, _]) (by decide) (by assumption)
    | exact before_ne (p := [_, _, _]) (by decide) (by assumption)

/-! ### Tokens -/

theorem word_before {c : Char} :
    Lexer.word c (cs ++ ')' :: more) =
      ((Lexer.word c cs).1, (Lexer.word c cs).2 ++ ')' :: more) := by
  have stops : continuesWord ')' = false := by decide
  simp only [Lexer.word, takeWhile_before stops, drop_takeWhile_before]

theorem introduced_before {c : Char} (h : introduced c cs = some (some (t, rest))) :
    rest <:+ cs ∧ introduced c (cs ++ ')' :: more) = some (some (t, rest ++ ')' :: more)) := by
  unfold introduced at h
  split at h
  case h_7 => cases h
  all_goals
    rename_i body letter
    obtain ⟨⟨text, left⟩, found, same⟩ := Option.map_eq_some_iff.mp (Option.some.inj h)
    cases same
  case h_1 | h_2 | h_3 =>
    obtain ⟨suffix, before⟩ := untilQuote_before more (by decide) found
    refine ⟨suffix.trans (List.suffix_cons ..), ?_⟩
    simp only [introduced, letter, List.cons_append, before, Option.map_some]
  case h_4 =>
    obtain ⟨suffix, before⟩ := untilBareQuote_before more found
    refine ⟨suffix.trans (List.suffix_cons ..), ?_⟩
    simp only [introduced, letter, List.cons_append, before, Option.map_some]
  case h_5 =>
    have enough : body.length + 1 ≤ (body ++ ')' :: more).length + 1 := by simp
    obtain ⟨suffix, before⟩ := escapedString_before more found enough
    refine ⟨suffix.trans (List.suffix_cons ..), ?_⟩
    simp only [introduced, letter, List.cons_append, before, Option.map_some]
  case h_6 =>
    have enough : body.length + 1 ≤ (body ++ ')' :: more).length + 1 := by simp
    obtain ⟨suffix, before⟩ := unicodeString_before more found enough
    refine ⟨suffix.trans (List.suffix_append ['&', '\''] body), ?_⟩
    simp only [introduced, letter, List.cons_append, before, Option.map_some]

theorem introduced_before_eq_none {c : Char} (h : introduced c cs = none) :
    introduced c (cs ++ ')' :: more) = none := by
  unfold introduced at h
  split at h
  case h_7 bits doubleBits national hexadecimal escaped unicode =>
    rw [introduced]
    · exact fun r letter => before_ne (p := [_]) (by decide) (fun r => bits r letter) r
    · exact fun r letter => before_ne (p := [_]) (by decide) (fun r => doubleBits r letter) r
    · exact fun r letter => before_ne (p := [_]) (by decide) (fun r => national r letter) r
    · exact fun r letter => before_ne (p := [_]) (by decide) (fun r => hexadecimal r letter) r
    · exact fun r letter => before_ne (p := [_]) (by decide) (fun r => escaped r letter) r
    · exact fun r letter => before_ne (p := [_, _]) (by decide) (fun r => unicode r letter) r
  all_goals cases h

/-- **A step in front of a closing bracket.** Unless a comment runs to the end of the line or
an operator takes the bracket along, the same token is cut from a text. -/
theorem step_before {afterWord : Bool} {o : Option Token} (h : step afterWord cs = some (o, rest))
    (uncommented : ¬ ['-', '-'] <+: cs)
    (spared : rest = [] →
      o ≠ some (.symbol (.operator "?")) ∧ o ≠ some (.symbol (.operator "&>"))) :
    rest <:+ cs.tail ∧ step afterWord (cs ++ ')' :: more) = some (o, rest ++ ')' :: more) := by
  unfold step at h
  split at h
  case h_1 => cases h
  case h_2 r => exact (uncommented (List.prefix_append ['-', '-'] r)).elim
  case h_3 r =>
    obtain ⟨left, found, same⟩ := Option.map_eq_some_iff.mp h
    cases same
    obtain ⟨suffix, before⟩ := afterBlockComment_before more found
    exact ⟨suffix.trans (List.suffix_cons ..), congrArg (Option.map _) before⟩
  case h_4 | h_5 =>
    obtain ⟨⟨text, left⟩, found, same⟩ := Option.map_eq_some_iff.mp h
    cases same
    obtain ⟨suffix, before⟩ := untilQuote_before more (by decide) found
    exact ⟨suffix, congrArg (Option.map _) before⟩
  case h_6 =>
    obtain ⟨⟨t, left⟩, found, same⟩ := Option.map_eq_some_iff.mp h
    cases same
    obtain ⟨suffix, before⟩ := dollar_before more found
    exact ⟨suffix, congrArg (Option.map _) before⟩
  case h_7 c r dashes comment quote double dollar =>
    rw [List.cons_append, step]
    rotate_left
    · exact fun r first => before_ne (p := [_]) (by decide) (fun r => dashes r first) r
    · exact fun r first => before_ne (p := [_]) (by decide) (fun r => comment r first) r
    · exact quote
    · exact double
    · exact dollar
    by_cases space : isSpace c = true
    · rw [if_pos space] at h ⊢
      cases h
      exact ⟨List.suffix_rfl, rfl⟩
    rw [if_neg space] at h ⊢
    by_cases numeric : (c.isDigit || c == '.') = true
    · rw [if_pos numeric] at h ⊢
      obtain ⟨⟨t, left⟩, found, same⟩ := Option.map_eq_some_iff.mp h
      cases same
      obtain ⟨suffix, before⟩ := number_before more numeric found
      exact ⟨suffix, congrArg (Option.map _) before⟩
    rw [if_neg numeric] at h ⊢
    by_cases letter : startsWord c = true
    · rw [if_pos letter] at h ⊢
      cases introduces : introduced c r with
      | none =>
        rw [introduces] at h
        cases h
        rw [introduced_before_eq_none more introduces]
        refine ⟨List.drop_suffix .., ?_⟩
        rw [word_before]
        rfl
      | some constant =>
        rw [introduces] at h
        obtain ⟨⟨t, left⟩, rfl, same⟩ := Option.map_eq_some_iff.mp h
        cases same
        obtain ⟨suffix, before⟩ := introduced_before more introduces
        rw [before]
        exact ⟨suffix, rfl⟩
    · rw [if_neg letter] at h ⊢
      obtain ⟨⟨t, left⟩, found, same⟩ := Option.map_eq_some_iff.mp h
      cases same
      obtain ⟨suffix, before⟩ := punctuation_before more found (by simpa using spared)
      exact ⟨suffix, congrArg (Option.map _) before⟩

/-! ### Texts -/

theorem lexemes_nil (fuel : Nat) (previous : Option Token) :
    Lexer.lexemes fuel previous [] = some [] := by
  cases fuel <;> rfl

/-- At the end of a row no operator stands that takes the next character along. -/
theorem spares_nil {l : Lexeme} (h : spares l [] = true) :
    l.token ≠ .symbol (.operator "?") ∧ l.token ≠ .symbol (.operator "&>") := by
  constructor
  all_goals
    intro same
    rw [spares, same] at h
    simp at h

/-- Whatever is cut from a text is cut from it in front of a closing bracket, and then the
bracket is. -/
theorem lexes_before {fuel : Nat} {previous : Option Token} {ls behind : List Lexeme}
    (uncommented : ¬ ['-', '-'] <:+: cs) (h : Lexer.lexemes fuel previous cs = some ls)
    (spared : spared ls = true) (following : Lexes (some (.closing .round)) more behind) :
    ∃ apart, Lexes previous (cs ++ ')' :: more) (ls ++ ⟨.closing .round, apart⟩ :: behind) := by
  induction fuel generalizing previous cs ls with
  | zero =>
    cases cs with
    | nil =>
      cases (lexemes_nil 0 previous).symm.trans h
      exact ⟨_, .mark rfl following⟩
    | cons => cases h
  | succ fuel ih =>
    cases cs with
    | nil =>
      cases (lexemes_nil _ previous).symm.trans h
      exact ⟨_, .mark rfl following⟩
    | cons c cs =>
      have first : ¬ ['-', '-'] <+: c :: cs := fun first => uncommented first.isInfix
      have inner {rest : List Char} (suffix : rest <:+ cs) : ¬ ['-', '-'] <:+: rest := fun found =>
        uncommented (found.trans (suffix.trans (List.suffix_cons ..)).isInfix)
      have shorter {rest : List Char} (suffix : rest <:+ cs) :
          (rest ++ ')' :: more).length < (c :: cs ++ ')' :: more).length := by
        have := suffix.length_le
        simp only [List.length_append, List.length_cons]
        omega
      rw [Lexer.lexemes] at h
      rotate_left
      · exact List.cons_ne_nil c cs
      split at h
      case h_1 => cases h
      case h_2 cut =>
        obtain ⟨suffix, before⟩ := step_before more cut first fun _ => by simp
        obtain ⟨apart, lexes⟩ := ih (inner suffix) h spared
        exact ⟨apart, .blank before (shorter suffix) lexes⟩
      case h_3 t rest cut =>
        obtain ⟨inside, found, rfl⟩ := Option.map_eq_some_iff.mp h
        obtain ⟨spares, spared⟩ := Bool.and_eq_true_iff.mp spared
        obtain ⟨suffix, before⟩ := step_before more cut first (by
          rintro rfl
          cases (lexemes_nil fuel _).symm.trans found
          simpa using spares_nil spares)
        obtain ⟨apart, lexes⟩ := ih (inner suffix) found spared
        exact ⟨apart, .token before (shorter suffix) lexes⟩

end Cut

end QueryGateway.Sql
