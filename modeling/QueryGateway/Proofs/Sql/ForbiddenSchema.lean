import QueryGateway.Proofs.Relation.Exactness
import QueryGateway.Proofs.Relation.Segment
import QueryGateway.Proofs.Sql.CreatedName
import QueryGateway.Proofs.Sql.Placement
import QueryGateway.Proofs.Sql.Reading

/-! Quoted tables in forbidden schemas.

A relation's name has lost its quotes when the policy looks at its last two segments. So a
dot in the quotes moves the schema out of sight: a quoted table in a forbidden schema is
forbidden exactly if it has no dot, or if what it says is forbidden by itself
(`forbids_inSchema`). Extraction fails accordingly, wherever the relation has a place. -/
namespace QueryGateway.Sql

open Ast Lexer QueryGateway.Tree

/-! ### Names -/

/-- Text between quotes does not hide the schema before it: it has no dot, or is forbidden by
itself. -/
def Shown (p : Policy) (i : List Char) : Prop :=
  '.' ∈ i → p.forbids (String.ofList (stripQuotes i)) = true

section Names

variable {p : Policy} {schema : Written} (bare : schema.isQuoted = false) (i : List Char)
include bare

theorem relation_inSchema : Name.relation (inSchema schema i) =
    String.ofList schema.value ++ "." ++ String.ofList (stripQuotes i) := by
  rw [Name.relation, render_inSchema bare]
  have stripped : stripQuotes (schema.value ++ '.' :: '"' :: escapeQuote '"' '\x00' i ++ ['"']) =
      schema.value ++ '.' :: stripQuotes i := by
    rw [List.append_assoc, stripQuotes_append, stripQuotes_of_bare bare]
    show _ ++ '.' :: stripQuotes (escapeQuote '"' '\x00' i ++ ['"']) = _
    rw [stripQuotes_append, stripQuotes_escapeQuote]
    exact congrArg (_ ++ '.' :: ·) (List.append_nil _)
  rw [stripped]
  simp [← String.toList_inj]

theorem dot_mem_inSchema : '.' ∈ (Name.relation (inSchema schema i)).toList := by
  rw [relation_inSchema bare]
  simp

/-- A quoted table in a forbidden schema is forbidden exactly if its quotes do not hide the
schema. -/
theorem forbids_inSchema
    (listed : ∃ s ∈ p.schemas, s.toLower = (String.ofList schema.value).toLower) :
    p.forbids (Name.relation (inSchema schema i)) = true ↔ Shown p i := by
  have dot : '.' ∈ (String.ofList (stripQuotes i)).toList ↔ '.' ∈ i := by
    rw [String.toList_ofList, mem_stripQuotes (by decide)]
  rw [relation_inSchema bare]
  by_cases dotted : '.' ∈ i
  · rw [p.forbids_behind (dot.mpr dotted)]
    simp [Shown, dotted]
  · have dotless : '.' ∉ (String.ofList schema.value).toList := by
      rw [String.toList_ofList]
      exact not_mem_value_of_bare bare (by decide)
    rw [p.forbids_in_schema dotless (mt dot.mp dotted)]
    exact iff_of_true (.inr listed) (absurd · dotted)

end Names

/-! ### Statements -/

/-- A relation with a dot is mentioned exactly if it has a place. -/
theorem exists_occurs_iff_places {s : Ast.Statement} {tree : Tree.Statement}
    (lowered : lowerStatement s = .ok tree) (kind : tree.keepsQueries = true) {role : Role}
    {relation : String} (dot : '.' ∈ relation.toList) :
    (∃ path, Occurs tree path role relation) ↔ Places s.found role relation := by
  rw [← has_name_iff_places lowered kind]
  constructor
  · intro occurs
    obtain ⟨path, names, leads, _⟩ := occurs
    exact ⟨path, names, _, leads, rfl⟩
  · intro has
    obtain ⟨path, names, _, leads, rfl⟩ := has
    exact ⟨path, names, leads, fun _ bound => bound.1 dot⟩

/-! ### Texts -/

/-- The ways to use a table. -/
inductive Usage where
  | read | join | insertion | update | deletion | into | table | view

namespace Usage

/-- What stands before the table. -/
def before : Usage → String
  | read => "SELECT * FROM "
  | join => "SELECT * FROM (SELECT 1) AS a CROSS JOIN "
  | insertion => "INSERT INTO "
  | update => "UPDATE "
  | deletion => "DELETE FROM "
  | into => "SELECT 1 INTO "
  | table => "CREATE TABLE "
  | view => "CREATE VIEW "

/-- What stands behind the table. -/
def behind : Usage → String
  | read | join | deletion | into => ""
  | insertion => " SELECT 1"
  | update => " SET c = 1"
  | table | view => " AS SELECT 1"

/-- A statement that uses a quoted table in a schema. -/
def text (u : Usage) (schema : Written) (i : List Char) : String :=
  u.before ++ String.ofList (dotted [schema, .quoted i]) ++ u.behind

/-- What the statement does with its table. -/
def role : Usage → Role
  | read | join => .read
  | _ => .write

/-- The lexemes of `SELECT 1`, `behind` being those after it. -/
def selectOne (behind : List Lexeme) : List Lexeme :=
  ⟨.word ⟨"SELECT", false, some .SELECT⟩, true⟩ :: ⟨.number "1" false, true⟩ :: behind

/-- The lexemes of a fixed word, a keyword. -/
def keyword (text : String) (k : Keyword) : Lexeme := ⟨.word ⟨text, false, some k⟩, true⟩

/-- The lexemes of the statement. -/
def lexemes (schema i : Word) (u : Usage) : List Lexeme :=
  let name (more : List Lexeme) : List Lexeme :=
    ⟨.word schema, true⟩ :: ⟨.symbol .dot, false⟩ :: ⟨.word i, false⟩ :: more
  match u with
  | read => keyword "SELECT" .SELECT :: ⟨.symbol .star, true⟩ :: keyword "FROM" .FROM :: name []
  | join =>
    keyword "SELECT" .SELECT :: ⟨.symbol .star, true⟩ :: keyword "FROM" .FROM ::
      ⟨.opening .round, true⟩ :: ⟨.word ⟨"SELECT", false, some .SELECT⟩, false⟩ ::
      ⟨.number "1" false, true⟩ :: ⟨.closing .round, false⟩ :: keyword "AS" .AS ::
      ⟨.word ⟨"a", false, none⟩, true⟩ :: keyword "CROSS" .CROSS :: keyword "JOIN" .JOIN :: name []
  | insertion => keyword "INSERT" .INSERT :: keyword "INTO" .INTO :: name (selectOne [])
  | update =>
    keyword "UPDATE" .UPDATE :: name [keyword "SET" .SET, ⟨.word ⟨"c", false, none⟩, true⟩,
      ⟨.symbol .equal, true⟩, ⟨.number "1" false, true⟩]
  | deletion => keyword "DELETE" .DELETE :: keyword "FROM" .FROM :: name []
  | into => selectOne (keyword "INTO" .INTO :: name [])
  | table =>
    keyword "CREATE" .CREATE :: keyword "TABLE" .TABLE :: name (keyword "AS" .AS :: selectOne [])
  | view =>
    keyword "CREATE" .CREATE :: keyword "VIEW" .VIEW :: name (keyword "AS" .AS :: selectOne [])

/-- The query `SELECT 1` with a list of tables, or into one. -/
def selection (source : List Joined) (into : Option Name) : Ast.Query :=
  ⟨[], false, .select ⟨if source.isEmpty then [.literal] else [], into, source, []⟩, []⟩

/-- What the grammar reads. -/
def reading (n : Name) : Usage → Ast.Statement
  | read => .query (selection [⟨.table n [], []⟩] none)
  | join =>
    .query (selection [⟨.derived (selection [] none) (some "a") [], [⟨.table n [], []⟩]⟩] none)
  | insertion => .insert ⟨n, some (selection [] none), [], [], []⟩
  | update => .update ⟨⟨.table n [], []⟩, [], [.literal], [], [], []⟩
  | deletion => .delete ⟨[], [⟨.table n [], []⟩], [], [], [], []⟩
  | into => .query (selection [] (some n))
  | table => .createTable ⟨[], "TABLE", false, n, "AS"⟩ [.query (selection [] none)]
  | view => .createView ⟨[], "VIEW", false, n, "AS"⟩ [.query (selection [] none)]

end Usage

/-- Whether a word may stand wherever an identifier does: it is no keyword, or the one that is
the name of a forbidden schema. -/
def Word.Free (w : Word) : Prop := w.keyword = none ∨ w.keyword = some .SETTINGS

theorem word_eq_of_bare {w : Written} (bare : w.isQuoted = false) :
    w.word = ⟨String.ofList w.value, false, w.word.keyword⟩ := by
  cases w with
  | bare => rfl
  | quoted _ => cases bare

theorem reads_usage (u : Usage) {schema : Written} (bare : schema.isQuoted = false)
    (word : schema.word.Free) (i : List Char) :
    readStatement (u.lexemes schema.word (Written.quoted i).word).length
      (u.lexemes schema.word (Written.quoted i).word) = .done (u.reading (inSchema schema i)) [] := by
  have name : inSchema schema i = [⟨String.ofList schema.value, none⟩,
      ⟨String.ofList i, some '"'⟩] := by
    rw [inSchema, Written.ident, bare]
    rfl
  rw [name, word_eq_of_bare bare]
  rcases word with free | free <;> rw [free] <;> cases u <;> rfl

theorem lexes_inSchema (schema : Written) (i : List Char) {rest : List Char} {ls : List Lexeme}
    (ends : Ends rest) (more : Lexes (some (.word (Written.quoted i).word)) rest ls) :
    Lexes none (dotted [schema, .quoted i] ++ rest)
      (⟨.word schema.word, true⟩ :: ⟨.symbol .dot, false⟩ :: ⟨.word (Written.quoted i).word, false⟩
        :: ls) := by
  have text : dotted [schema, .quoted i] ++ rest =
      schema.chars ++ '.' :: ((Written.quoted i).chars ++ rest) := by simp [dotted]
  rw [text]
  exact .pair schema _ ends more

theorem lexes_selectOne :
    Lexes none ['S', 'E', 'L', 'E', 'C', 'T', ' ', '1'] (Usage.selectOne []) :=
  .fixed spells_SELECT (.mark rfl (.nil _))

theorem toList_usage (u : Usage) (schema : Written) (i : List Char) : (u.text schema i).toList =
    u.before.toList ++ (dotted [schema, .quoted i] ++ u.behind.toList) := by
  simp [Usage.text]

theorem lexes_usage (u : Usage) (schema : Written) (i : List Char) :
    Lexes none (u.text schema i).toList (u.lexemes schema.word (Written.quoted i).word) := by
  rw [toList_usage]
  cases u with
  | read =>
    simp only [Usage.before, Usage.behind, String.reduceToList]
    refine .fixed spells_SELECT (.mark rfl (.space (.fixed spells_FROM ?_)))
    exact lexes_inSchema schema i ends_nil (.nil _)
  | join =>
    simp only [Usage.before, Usage.behind, String.reduceToList]
    have spellsAlias : Spells 'a' [] ⟨"a", false, none⟩ := spells_letter rfl rfl rfl
    refine .fixed spells_SELECT (.mark rfl (.space (.fixed spells_FROM (.mark rfl ?_))))
    refine .fixed spells_SELECT (.mark rfl (.mark rfl (.space (.fixed spells_AS ?_))))
    refine .fixed spellsAlias (.fixed spells_CROSS (.fixed spells_JOIN ?_))
    exact lexes_inSchema schema i ends_nil (.nil _)
  | insertion =>
    simp only [Usage.before, Usage.behind, String.reduceToList]
    refine .fixed spells_INSERT (.fixed spells_INTO ?_)
    exact lexes_inSchema schema i (ends_space _) (.space lexes_selectOne)
  | update =>
    simp only [Usage.before, Usage.behind, String.reduceToList]
    have spellsColumn : Spells 'c' [] ⟨"c", false, none⟩ := spells_letter rfl rfl rfl
    refine .fixed spells_UPDATE (lexes_inSchema schema i (ends_space _) (.space ?_))
    exact .fixed spells_SET (.fixed spellsColumn (.mark rfl (.space (.mark rfl (.nil _)))))
  | deletion =>
    simp only [Usage.before, Usage.behind, String.reduceToList]
    refine .fixed spells_DELETE (.fixed spells_FROM ?_)
    exact lexes_inSchema schema i ends_nil (.nil _)
  | into =>
    simp only [Usage.before, Usage.behind, String.reduceToList]
    refine .fixed spells_SELECT (.mark rfl (.space (.fixed spells_INTO ?_)))
    exact lexes_inSchema schema i ends_nil (.nil _)
  | table =>
    simp only [Usage.before, Usage.behind, String.reduceToList]
    refine .fixed spells_CREATE (.fixed spells_TABLE ?_)
    exact lexes_inSchema schema i (ends_space _) (.space (.fixed spells_AS lexes_selectOne))
  | view =>
    simp only [Usage.before, Usage.behind, String.reduceToList]
    refine .fixed spells_CREATE (.fixed spells_VIEW ?_)
    exact lexes_inSchema schema i (ends_space _) (.space (.fixed spells_AS lexes_selectOne))

namespace Usage

/-- The query `SELECT 1` with a list of items, or into a table. -/
def treeSelection (source : List Tree.Item) (into : Option String) : Tree.Query :=
  ⟨[], false, .select ⟨source, [], into⟩, []⟩

/-- The tree of the statement. -/
def tree (relation : String) : Usage → Tree.Statement
  | read => .query (treeSelection [.table relation] none)
  | join =>
    .query (treeSelection [.subquery (treeSelection [] none) (some "a"), .table relation] none)
  | insertion => .insert ⟨relation, some (treeSelection [] none), []⟩
  | update => .update ⟨[.table relation], [], []⟩
  | deletion => .delete ⟨[.table relation], [], []⟩
  | into => .query (treeSelection [] (some relation))
  | table => .create ⟨.table, some relation, [treeSelection [] none]⟩
  | view => .create ⟨.view, some relation, [treeSelection [] none]⟩

/-- Whether the name of the table is taken from the printed statement. -/
def prints : Usage → Bool
  | table | view => true
  | _ => false

end Usage

/-- A name in a schema that is printed as one word. -/
def PrintsWhole (schema : Written) (i : List Char) : Prop :=
  (∀ c ∈ schema.value, Text.isBlank c = false) ∧ ¬ Misleads i

theorem parse_usage (u : Usage) {schema : Written} (bare : schema.isQuoted = false)
    (word : schema.word.Free) {i : List Char}
    (printed : u.prints = true → PrintsWhole schema i) :
    parse (u.text schema i) = .ok (u.tree (Name.relation (inSchema schema i))) := by
  have first : Grammar.startsWord (u.lexemes schema.word (Written.quoted i).word) = true := by
    cases u <;> rfl
  have visible : ∃ c ∈ (u.text schema i).toList, Text.isBlank c = false := by
    rw [toList_usage]
    exact ⟨'T', List.mem_append_left _ (by cases u <;> decide), by decide⟩
  rw [parse_of_lexes (lexes_usage u schema i) first visible (reads_usage u bare word i)]
  have created (object : String) (known : object = "VIEW" ∨ object = "TABLE")
      (whole : PrintsWhole schema i) :
      Heading.created ⟨[], object, false, inSchema schema i, "AS"⟩ =
        some (Name.relation (inSchema schema i)) :=
    created_eq_relation ⟨known, List.forall_mem_nil _⟩ bare whole.1 whole.2 rfl
  cases u with
  | table =>
    show Except.ok (Tree.Statement.create ⟨.table, Heading.created _, _⟩) = _
    rw [created "TABLE" (.inr rfl) (printed rfl)]
    rfl
  | view =>
    show Except.ok (Tree.Statement.create ⟨.view, Heading.created _, _⟩) = _
    rw [created "VIEW" (.inl rfl) (printed rfl)]
    rfl
  | _ => rfl

theorem references_usage (u : Usage) (relation : String) :
    (u.tree relation).references = [⟨relation, u.role, .own⟩] := by
  cases u
  all_goals
    simp [Usage.tree, Usage.treeSelection, Usage.role, Statement.references, Statement.mentions,
      Query.mentions, ctesInOrder, boundNames, Body.mentions, itemsMentions, Item.mentions,
      queriesMentions, optionMentions, mention, readOf, Scope.binds]

/-- The table is all that the statement mentions, so the statement is rejected exactly if the
table is forbidden. -/
theorem extract_usage (u : Usage) (relation : String) (p : Policy) :
    p.extract (u.tree relation) = if p.forbids relation then
      .error (.forbidden relation (if u.role = .write then 406 else 403))
    else .ok ⟨[⟨relation, u.role, .own⟩]⟩ := by
  have code : Policy.codeFor u.role = if u.role = .write then 406 else 403 := by
    cases u <;> rfl
  rw [Policy.extract, references_usage]
  cases forbidden : p.forbids relation with
  | true => simp [forbidden, code]
  | false =>
    simp [forbidden]
    rfl

/-! ### Quoted tables -/

section Quoted

variable (p : Policy) {schema : Written} (bare : schema.isQuoted = false) (i : List Char)
  (listed : ∃ s ∈ p.schemas, s.toLower = (String.ofList schema.value).toLower)
include bare listed

theorem extract_usage_inSchema (u : Usage) :
    p.extract (u.tree (Name.relation (inSchema schema i))) =
        .error (.forbidden (Name.relation (inSchema schema i)) (if u.role = .write then 406 else 403))
      ↔ Shown p i := by
  rw [extract_usage, ← forbids_inSchema bare i listed]
  split <;> simp_all

/-- A statement whose other relations are free is rejected exactly if the table has a place in
it and is not hidden. -/
theorem extract_eq_error_iff_places {s : Ast.Statement} {tree : Tree.Statement}
    (lowered : lowerStatement s = .ok tree) (kind : tree.keepsQueries = true)
    (free : ∀ path role name, Occurs tree path role name → p.forbids name = true →
      name = Name.relation (inSchema schema i)) :
    (∃ e, p.extract tree = .error e) ↔
      Shown p i ∧ ∃ role, Places s.found role (Name.relation (inSchema schema i)) := by
  rw [(extract_exact p tree).1, ← forbids_inSchema bare i listed]
  have occurs {role : Role} : (∃ path, Occurs tree path role _) ↔ Places s.found role _ :=
    exists_occurs_iff_places lowered kind (dot_mem_inSchema bare i)
  constructor
  · intro found
    obtain ⟨path, role, name, there, forbidden⟩ := found
    obtain rfl := free path role name there forbidden
    exact ⟨forbidden, role, occurs.mp ⟨path, there⟩⟩
  · intro found
    obtain ⟨forbidden, role, places⟩ := found
    obtain ⟨path, there⟩ := occurs.mpr places
    exact ⟨path, role, _, there, forbidden⟩

end Quoted

/-- **The schema of a quoted table is out of sight exactly if there is a dot between the quotes,
and what stands there is not forbidden by itself.** If it is in sight, every text that uses
the table is rejected, and the first forbidden relation reported; if not, no text is
rejected on its account. -/
theorem forbidden_schema_iff_shown (p : Policy) {schema : Written}
    (bare : schema.isQuoted = false)
    (listed : ∃ s ∈ p.schemas, s.toLower = (String.ofList schema.value).toLower) (i : List Char) :
    (schema.word.Free → ∀ u : Usage, (u.prints = true → PrintsWhole schema i) →
      ∃ tree, parse (u.text schema i) = .ok tree ∧
        (p.extract tree = .error (.forbidden (Name.relation (inSchema schema i))
          (if u.role = .write then 406 else 403)) ↔ Shown p i)) ∧
    ∀ text tree, parse text = .ok tree → tree.keepsQueries = true →
      ∃ s, read text.toList = some [s] ∧
        (∀ h parts, (s = .createTable h parts ∨ s = .createView h parts) → Tidy h →
          PrintsWhole schema i → h.name = inSchema schema i →
          Places s.found .write (Name.relation (inSchema schema i))) ∧
        (Shown p i → ∀ role, Places s.found role (Name.relation (inSchema schema i)) →
          ∃ e, p.extract tree = .error e ∧ ReportsFirst p tree e) ∧
        ((∀ path role name, Occurs tree path role name → p.forbids name = true →
            name = Name.relation (inSchema schema i)) →
          ((∃ e, p.extract tree = .error e) ↔
            Shown p i ∧ ∃ role, Places s.found role (Name.relation (inSchema schema i)))) := by
  refine ⟨fun word u printed => ?_, fun text tree parsed kind => ?_⟩
  · exact ⟨_, parse_usage u bare word printed, extract_usage_inSchema p bare i listed u⟩
  · obtain ⟨s, hread, lowered⟩ := parse_eq_ok parsed
    refine ⟨s, hread, ?_, ?_, extract_eq_error_iff_places p bare i listed lowered kind⟩
    · intro h parts creates tidy whole named
      have created := created_eq_relation tidy bare whole.1 whole.2 named
      refine .here ?_
      rcases creates with rfl | rfl <;> simp [Ast.Statement.found, created]
    · intro shown role places
      obtain ⟨path, there⟩ :=
        (exists_occurs_iff_places lowered kind (dot_mem_inSchema bare i)).mpr places
      have forbidden := (forbids_inSchema bare i listed).mpr shown
      obtain ⟨fails, reports, _⟩ := extract_exact p tree
      obtain ⟨e, failed⟩ := fails.mpr ⟨path, role, _, there, forbidden⟩
      exact ⟨e, failed, reports e failed⟩

/-- A schema that is forbidden unless a policy says otherwise. -/
def settings : Written :=
  .bare 's' ['e', 't', 't', 'i', 'n', 'g', 's'] (by decide) (List.all_eq_true.mp (by decide))

theorem settings_listed : ∃ s ∈ ({} : Policy).schemas,
    s.toLower = (String.ofList settings.value).toLower :=
  ⟨"settings", List.mem_cons_self .., by decide +kernel⟩

theorem settings_free : settings.word.Free := by
  have keyword : settings.word.keyword = some .SETTINGS := by
    decide +kernel
  exact .inr keyword

/-- A quoted table without a dot does not hide its schema. -/
theorem settings_ab_forbidden : ∃ tree, parse "SELECT * FROM settings.\"ab\"" = .ok tree ∧
    ({} : Policy).extract tree = .error (.forbidden "settings.ab" 403) := by
  have bare : settings.isQuoted = false := rfl
  obtain ⟨texts, _⟩ := forbidden_schema_iff_shown {} bare settings_listed ['a', 'b']
  obtain ⟨tree, parsed, rejected⟩ := texts settings_free .read nofun
  have shown : Shown {} ['a', 'b'] := fun dot => absurd dot (by decide)
  exact ⟨tree, parsed, rejected.mpr shown⟩

/-- A dot between the quotes hides the schema, and the table is read. -/
theorem settings_dotted_escapes : settings.isQuoted = false ∧
    (∃ s ∈ ({} : Policy).schemas, s.toLower = (String.ofList settings.value).toLower) ∧
    ∃ tree, parse "SELECT * FROM settings.\"a.b\"" = .ok tree ∧
      ({} : Policy).extract tree = .ok ⟨[⟨"settings.a.b", .read, .own⟩]⟩ := by
  have bare : settings.isQuoted = false := rfl
  have parsed := parse_usage .read bare settings_free (i := ['a', '.', 'b']) nofun
  refine ⟨bare, settings_listed, _, parsed, ?_⟩
  have free :
      ({} : Policy).forbids (Name.relation (inSchema settings ['a', '.', 'b'])) = false := by
    decide +kernel
  rw [extract_usage, free]
  rfl

end QueryGateway.Sql
