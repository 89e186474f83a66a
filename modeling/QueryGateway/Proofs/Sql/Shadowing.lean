import QueryGateway.Proofs.Relation.Exactness
import QueryGateway.Proofs.Sql.Reading

/-! Which tables a `WITH` entry keeps out of extraction.

The name of an entry is what its identifier says; that of a table is the written identifier
without its quotes. The walk compares the two without regard to case, so how either was
quoted plays no part (`Shadows`). The database compares them folded (`Written.fold`): bare
identifiers shadow one another exactly where it binds them (`shadows_iff_of_bare`), quoted
ones also where it does not. -/
namespace QueryGateway.Sql

open Lexer QueryGateway.Tree

/-! ### Shadows -/

/-- The name that an identifier stands for in the database: a bare one is folded to lower
case, a quoted one is taken as it is. -/
def Written.fold : Written → List Char
  | .bare first rest _ _ => (first :: rest).map Char.toLower
  | .quoted text => text

theorem fold_of_bare {w : Written} (bare : w.isQuoted = false) :
    w.fold = w.value.map Char.toLower := by
  cases w with
  | bare => rfl
  | quoted _ => cases bare

/-- Whether the identifier of a `WITH` entry takes that of a table out of extraction: no dot
is in the table's, and without quotes it is what the entry's says, in any case of letters. -/
def Shadows (x y : Written) : Prop :=
  '.' ∉ y.value ∧ x.value.map Char.toLower = (stripQuotes y.value).map Char.toLower

instance (x y : Written) : Decidable (Shadows x y) :=
  inferInstanceAs (Decidable (_ ∧ _))

/-- Among bare identifiers the names that the database tells apart are told apart. -/
theorem shadows_iff_of_bare {x y : Written} (hx : x.isQuoted = false) (hy : y.isQuoted = false) :
    Shadows x y ↔ x.fold = y.fold := by
  have dotless : '.' ∉ y.value := not_mem_value_of_bare hy (by decide)
  rw [Shadows, stripQuotes_of_bare hy, and_iff_right dotless, fold_of_bare hx, fold_of_bare hy]

/-- Among the names that identifiers give to `WITH` entries a table's is bound exactly if one
of them shadows it. -/
theorem bound_iff_exists_shadows (xs : List Written) (y : Written) :
    Bound (xs.map fun x => String.ofList x.value) (Name.relation [y.ident]) ↔
      ∃ x ∈ xs, Shadows x y := by
  have lower (cs ds : List Char) : (String.ofList cs).toLower = (String.ofList ds).toLower ↔
      cs.map Char.toLower = ds.map Char.toLower := by
    show String.map _ _ = String.map _ _ ↔ _
    rw [← String.toList_inj, String.toList_map, String.toList_map, String.toList_ofList,
      String.toList_ofList]
  have dot : '.' ≠ '"' ∧ '.' ≠ '\x60' := by decide
  simp only [Bound, relation_ident, String.toList_ofList, mem_stripQuotes dot, List.mem_map,
    exists_exists_and_eq_and, lower]
  constructor
  · intro bound
    obtain ⟨dotless, x, hx, same⟩ := bound
    exact ⟨x, hx, dotless, same⟩
  · intro shadowed
    obtain ⟨x, hx, dotless, same⟩ := shadowed
    exact ⟨dotless, x, hx, same⟩

/-- A table that is named in sight of `WITH` entries is mentioned there if it is written, or
none of them shadows it. -/
theorem occurs_iff_of_leads {s : Statement} {path : Path} {role : Role} {xs : List Written}
    {y : Written} (leads : Leads (.statement s) path (xs.map fun x => String.ofList x.value)
      (.name role (Name.relation [y.ident]))) :
    Occurs s path role (Name.relation [y.ident]) ↔ (role = .read → ∀ x ∈ xs, ¬ Shadows x y) := by
  have free : ¬ Bound (xs.map fun x => String.ofList x.value) (Name.relation [y.ident]) ↔
      ∀ x ∈ xs, ¬ Shadows x y := by
    rw [bound_iff_exists_shadows]
    simp only [not_exists, not_and]
  rw [← free]
  constructor
  · intro occurs
    obtain ⟨names, leads', occurs⟩ := occurs
    obtain ⟨rfl, _⟩ := leads.unique leads'
    exact occurs
  · intro unbound
    exact ⟨_, leads, unbound⟩

/-! ### A read under one entry -/

/-- A read of a table under a `WITH` entry that reads none. -/
def boundRead (x y : Written) : String :=
  "WITH " ++ String.ofList x.chars ++ " AS (SELECT 1) SELECT * FROM " ++ String.ofList y.chars

/-- The lexemes of a read under an entry. -/
def boundReadLexemes (x y : Word) : List Lexeme :=
  [⟨.word ⟨"WITH", false, some .WITH⟩, true⟩, ⟨.word x, true⟩,
   ⟨.word ⟨"AS", false, some .AS⟩, true⟩, ⟨.opening .round, true⟩,
   ⟨.word ⟨"SELECT", false, some .SELECT⟩, false⟩, ⟨.number "1" false, true⟩,
   ⟨.closing .round, false⟩, ⟨.word ⟨"SELECT", false, some .SELECT⟩, true⟩,
   ⟨.symbol .star, true⟩, ⟨.word ⟨"FROM", false, some .FROM⟩, true⟩, ⟨.word y, true⟩]

theorem lexes_boundRead (x y : Written) :
    Lexes none (boundRead x y).toList (boundReadLexemes x.word y.word) := by
  have text : (boundRead x y).toList = ['W', 'I', 'T', 'H', ' '] ++ (x.chars ++
      ([' ', 'A', 'S', ' ', '(', 'S', 'E', 'L', 'E', 'C', 'T', ' ', '1', ')', ' ',
        'S', 'E', 'L', 'E', 'C', 'T', ' ', '*', ' ', 'F', 'R', 'O', 'M', ' '] ++
          (y.chars ++ []))) := by
    simp [boundRead]
  rw [text]
  refine .fixed spells_WITH (.written x (ends_space _) (.space ?_))
  refine .fixed spells_AS (.mark rfl ?_)
  refine .fixed spells_SELECT (.mark rfl (.mark rfl (.space ?_)))
  refine .fixed spells_SELECT (.mark rfl (.space ?_))
  exact .fixed spells_FROM (.written y ends_nil (.nil _))

/-- The tree of a read under an entry. -/
def boundReadTree (x y : Written) : Tree.Statement :=
  .query ⟨[⟨String.ofList x.value, ⟨[], false, .select ⟨[], [], none⟩, []⟩⟩], false,
    .select ⟨[.table (Name.relation [y.ident])], [], none⟩, []⟩

theorem parse_boundRead {x y : Written} (hx : x.word.keyword = none) (hy : y.word.keyword = none) :
    parse (boundRead x y) = .ok (boundReadTree x y) := by
  have visible : ∃ c ∈ (boundRead x y).toList, Text.isBlank c = false :=
    ⟨'W', by simp [boundRead], by decide⟩
  have reads : readStatement 11 (boundReadLexemes x.word y.word) = .done (.query
      ⟨[⟨String.ofList x.value, ⟨[], false, .select ⟨[.literal], none, [], []⟩, []⟩, []⟩], false,
        .select ⟨[], none, [⟨.table [y.ident] [], []⟩], []⟩, []⟩) [] := by
    rw [x.word_eq hx, y.word_eq hy]
    rfl
  rw [parse_of_lexes (lexes_boundRead x y) rfl visible reads]
  rfl

theorem references_boundReadTree (x y : Written) :
    (boundReadTree x y).references =
      if Shadows x y then [] else [⟨Name.relation [y.ident], .read, .own⟩] := by
  have lowers : Lowers [(String.ofList x.value).toLower] [String.ofList x.value] :=
    fun _ => Iff.rfl
  have binds : Scope.binds [(String.ofList x.value).toLower] (Name.relation [y.ident]) = true ↔
      Shadows x y := by
    rw [lowers.binds]
    simpa using bound_iff_exists_shadows [x] y
  have walked : (boundReadTree x y).references =
      readOf [(String.ofList x.value).toLower] .own (Name.relation [y.ident]) := by
    simp [boundReadTree, Statement.references, Statement.mentions, Query.mentions, ctesInOrder,
      Body.mentions, itemsMentions, Item.mentions, queriesMentions, mention, boundNames]
  rw [walked, readOf]
  exact if_congr binds rfl rfl

theorem catches_boundReadTree (x y : Written) (p : Policy) :
    Catches p (boundReadTree x y) .read (Name.relation [y.ident]) ↔ ¬ Shadows x y := by
  have references := references_boundReadTree x y
  constructor
  · intro caught shadowed
    obtain ⟨r, hr, _⟩ := caught.exists_reference
    rw [references, if_pos shadowed] at hr
    cases hr
  · intro free
    rw [if_neg free] at references
    exact catches_of_references references p

theorem leads_boundReadTree (x y : Written) :
    Leads (.statement (boundReadTree x y)) [.whole, .body, .source 0, .named]
      [String.ofList x.value] (.name .read (Name.relation [y.ident])) := by
  refine .step (List.mem_singleton.mpr rfl) ?_
  refine .step (List.mem_cons_of_mem _ (List.mem_cons_self ..)) ?_
  refine .step (List.mem_cons_self ..) ?_
  exact .step (List.mem_singleton.mpr rfl) (.here _)

/-- **A table under a `WITH` entry is caught exactly if the entry's identifier does not
shadow its own.** So it is in every statement: a table that is named in sight of entries is
mentioned there if none of them shadows it, or if it is written, and what is mentioned is
checked and found. -/
theorem caught_iff_not_shadows (x y : Written) (hx : x.word.keyword = none)
    (hy : y.word.keyword = none) :
    (∃ tree, parse (boundRead x y) = .ok tree ∧
      ∀ p : Policy, Catches p tree .read (Name.relation [y.ident]) ↔ ¬ Shadows x y) ∧
    ∀ (s : Statement) (path : Path) (role : Role) (xs : List Written),
      Leads (.statement s) path (xs.map fun x => String.ofList x.value)
        (.name role (Name.relation [y.ident])) →
      (Occurs s path role (Name.relation [y.ident]) ↔
        (role = .read → ∀ x ∈ xs, ¬ Shadows x y)) ∧
      (Occurs s path role (Name.relation [y.ident]) → ∀ p : Policy,
        (p.forbids (Name.relation [y.ident]) = true → ∃ e, p.extract s = .error e) ∧
        ∀ set, p.extract s = .ok set → ∃ r ∈ set.references,
          r.name = Name.relation [y.ident] ∧ (role = .write → r.role = .write)) := by
  refine ⟨⟨_, parse_boundRead hx hy, catches_boundReadTree x y⟩, ?_⟩
  intro s path role xs leads
  exact ⟨occurs_iff_of_leads leads, extract_of_occurs⟩

/-- The bare identifier of one letter. -/
def oneLetter : Written := .bare 't' [] (by decide) (List.forall_mem_nil _)

theorem oneLetter_plain : oneLetter.word.keyword = none := by
  have spells : Spells 't' [] ⟨"t", false, none⟩ := spells_letter rfl rfl rfl
  exact congrArg Word.keyword spells.2.2

/-- Under the entry `t` the table `u` is caught, and is mentioned in the body. -/
theorem other_name_caught :
    oneLetter.word.keyword = none ∧ (Written.quoted ['u']).word.keyword = none ∧
    (∃ tree, parse "WITH t AS (SELECT 1) SELECT * FROM \"u\"" = .ok tree ∧
      ∀ p : Policy, Catches p tree .read "u") ∧
    Occurs (boundReadTree oneLetter (.quoted ['u'])) [.whole, .body, .source 0, .named]
      .read "u" := by
  have free : ¬ Shadows oneLetter (.quoted ['u']) := by decide
  obtain ⟨⟨tree, parsed, caught⟩, named⟩ :=
    caught_iff_not_shadows oneLetter (.quoted ['u']) oneLetter_plain rfl
  refine ⟨oneLetter_plain, rfl, ⟨tree, parsed, fun p => (caught p).mpr free⟩, ?_⟩
  have leads := leads_boundReadTree oneLetter (.quoted ['u'])
  refine (named _ _ _ [oneLetter] leads).1.mpr fun _ x hx => ?_
  rwa [List.mem_singleton.mp hx]

/-- The database tells `t` from `"T"`, but the entry `t` takes the table `"T"` out of
extraction. -/
theorem capital_name_escapes :
    oneLetter.word.keyword = none ∧ (Written.quoted ['T']).word.keyword = none ∧
    oneLetter.fold ≠ (Written.quoted ['T']).fold ∧
    ∃ tree, parse "WITH t AS (SELECT 1) SELECT * FROM \"T\"" = .ok tree ∧
      ∀ p : Policy, ¬ Catches p tree .read "T" := by
  have other : (Written.quoted ['T']).word.keyword = none := rfl
  have parsed := parse_boundRead oneLetter_plain other
  refine ⟨oneLetter_plain, other, by decide, _, parsed, ?_⟩
  intro p caught
  exact (catches_boundReadTree oneLetter (.quoted ['T']) p).mp caught (by decide)

end QueryGateway.Sql
